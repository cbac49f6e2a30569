import Audience.Json.Printer
import Audience.Json.Reader
import Audience.Json.Slots

/-!
# Stored segments

The document that a segment is saved as: an object with the key `groups`, a list of
groups with `id`, `combinator` and `conditions`, and in each of them conditions with
`id`, `fieldId`, `operatorId` and, if there are any, `value` and `secondValue`.

**What is kept.**  Identifiers, operators and values are kept as they are written, even
when they make no sense.  Only a document without this shape is refused; whether its
contents fit a schema is decided when the segment is loaded.

**Results.**
* `Combinator.flip_flip`: turning a combinator twice gives it back.
* `Combinator.ofName?_name`: the name of a combinator determines it.
-/

namespace Audience

open Json (Document)

/-- How a group is joined to those before it. -/
inductive Combinator
  | and
  | or
deriving DecidableEq

namespace Combinator

/-- The other combinator. -/
def flip : Combinator → Combinator
  | and => or
  | or => and

@[simp] theorem flip_flip (c : Combinator) : c.flip.flip = c := by
  cases c <;> rfl

/-- The name of a combinator in documents. -/
def name : Combinator → String
  | and => "AND"
  | or => "OR"

/-- The combinator with a name. -/
def ofName? (s : String) : Option Combinator := [and, or].find? (·.name == s)

@[simp] theorem ofName?_name (c : Combinator) : ofName? c.name = some c := by
  cases c <;> decide

/-- Reads a combinator. -/
def ofDocument? (d : Document) : Option Combinator := d.choice?.bind ofName?

end Combinator

/-- A condition as it is stored. -/
structure StoredCondition where
  id : String
  fieldId : String
  operatorId : String
  value : Option Json
  secondValue : Option Json
deriving DecidableEq

/-- A group as it is stored. -/
structure StoredGroup where
  id : String
  combinator : Combinator
  conditions : List StoredCondition
deriving DecidableEq

/-- A segment as it is stored. -/
structure StoredSegment where
  groups : List StoredGroup
deriving DecidableEq

namespace StoredCondition

/-- How deep the value of a condition may be nested. -/
def valueLevels : Nat := 122

/-- The member of an optional value: nothing is written for a missing one. -/
def valueMember (key : String) : Option Json → List (String × Document)
  | none => []
  | some x => [(key, x.document)]

/-- The document of a condition. -/
def document (c : StoredCondition) : Document :=
  .record ([("id", .string c.id), ("fieldId", .string c.fieldId),
    ("operatorId", .string c.operatorId)] ++
    valueMember "value" c.value ++ valueMember "secondValue" c.secondValue)

/-- Reads an optional value: a missing one and `null` are both none. -/
def readValue? : Option Document → Option (Option Json)
  | none => some none
  | some .null => some none
  | some d => (d.keep? valueLevels).map some

/-- Reads a condition. -/
def ofDocument? (d : Document) : Option StoredCondition :=
  match d.slots ["id", "fieldId", "operatorId", "value", "secondValue"] with
  | some [some id, some fieldId, some operatorId, value, secondValue] => do
      let id ← id.string?
      let fieldId ← fieldId.string?
      let operatorId ← operatorId.string?
      let value ← readValue? value
      let secondValue ← readValue? secondValue
      return ⟨id, fieldId, operatorId, value, secondValue⟩
  | _ => none

end StoredCondition

namespace StoredGroup

/-- The document of a group. -/
def document (g : StoredGroup) : Document :=
  .record [("id", .string g.id), ("combinator", .string g.combinator.name),
    ("conditions", .array (g.conditions.map StoredCondition.document))]

/-- Reads the conditions of a group; they may be missing. -/
def readConditions? : Option Document → Option (List StoredCondition)
  | none => some []
  | some d => d.items?.bind fun items => items.mapM StoredCondition.ofDocument?

/-- Reads a group. -/
def ofDocument? (d : Document) : Option StoredGroup :=
  match d.slots ["id", "combinator", "conditions"] with
  | some [some id, some combinator, conditions] => do
      let id ← id.string?
      let combinator ← Combinator.ofDocument? combinator
      let conditions ← readConditions? conditions
      return ⟨id, combinator, conditions⟩
  | _ => none

end StoredGroup

namespace StoredSegment

/-- The document of a segment. -/
def document (s : StoredSegment) : Document :=
  .record [("groups", .array (s.groups.map StoredGroup.document))]

/-- The text that a segment is stored as. -/
def text (s : StoredSegment) : String := s.document.text

/-- Reads a segment from a document. -/
def ofDocument? (d : Document) : Option StoredSegment :=
  match d.slots ["groups"] with
  | some [some groups] => do
      let items ← groups.items?
      let groups ← items.mapM StoredGroup.ofDocument?
      return ⟨groups⟩
  | _ => none

/-- Reads a segment from a text. -/
def parse? (s : String) : Option StoredSegment := (Document.parse? s).bind ofDocument?

end StoredSegment
end Audience
