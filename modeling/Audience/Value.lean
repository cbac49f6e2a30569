import Audience.Json.Reader
import Audience.Json.Slots
import Audience.Time.Timestamp

/-!
# Typed values

Condition values and customer attributes are values with a kind: text, number,
boolean or date.  Outside the program such a value is a pair of its kind's name and
its contents.

**Writing.**  `TypedValue.json` is an object with the keys `type` and `value`.

**Reading.**  `TypedValue.ofJson?` takes that object or an array of the two, and
`TypedValue.ofDocument?` does the same for a document that has not been kept.  A
number may be an integer, and a date is read in the relaxed form.

**Results.**
* `ValueKind.ofName?_name`: the name of a kind determines it.
* `TypedValue.kind_of_ofContents?`: contents are read as the kind that is asked for.
-/

namespace Audience

/-- What a value can be. -/
inductive ValueKind
  | text
  | number
  | boolean
  | date
deriving DecidableEq

namespace ValueKind

/-- The name of a kind. -/
def name : ValueKind → String
  | text => "text"
  | number => "number"
  | boolean => "boolean"
  | date => "date"

instance : ToString ValueKind := ⟨name⟩

/-- The kind with a name. -/
def ofName? (s : String) : Option ValueKind :=
  [text, number, boolean, date].find? (·.name == s)

@[simp] theorem ofName?_name (k : ValueKind) : ofName? k.name = some k := by
  cases k <;> decide

end ValueKind

/-- A value with its kind. -/
inductive TypedValue
  | text (value : String)
  | number (value : Binary64)
  | boolean (value : Bool)
  | date (value : Instant)
deriving DecidableEq

namespace TypedValue

/-- The kind of a value. -/
def kind : TypedValue → ValueKind
  | text _ => .text
  | number _ => .number
  | boolean _ => .boolean
  | date _ => .date

/-- The text of a text value. -/
def asText : TypedValue → Option String
  | text s => some s
  | _ => none

/-- The contents of a value. -/
def contents : TypedValue → Json
  | text s => .text s
  | number x => Json.ofBinary64 x
  | boolean b => .boolean b
  | date t => .text (Timestamp.toString t)

/-- The outside form of a value. -/
def json (v : TypedValue) : Json :=
  .object [("type", .text v.kind.name), ("value", v.contents)]

/-- The double nearest to an integer. -/
def numberOfInt (i : Int) : Binary64 := (Decimal.mk (decide (i < 0)) i.natAbs 0).toBinary64

/-- Reads contents as a kind. -/
def ofContents? : ValueKind → Json → Option TypedValue
  | .text, .text s => some (text s)
  | .number, .integer i => some (number (numberOfInt i))
  | .number, .real x => some (number x)
  | .boolean, .boolean b => some (boolean b)
  | .date, .text s => (Timestamp.readRelaxed s.toList).map date
  | _, _ => none

theorem kind_of_ofContents? {k : ValueKind} {contents : Json} {v : TypedValue}
    (h : ofContents? k contents = some v) : v.kind = k := by
  unfold ofContents? at h
  split at h
  · cases h; rfl
  · cases h; rfl
  · cases h; rfl
  · cases h; rfl
  · obtain ⟨t, _, rfl⟩ := Option.map_eq_some_iff.mp h; rfl
  · cases h

/-- Reads contents as the kind with a name. -/
def ofTagged? (name : String) (contents : Json) : Option TypedValue :=
  (ValueKind.ofName? name).bind (ofContents? · contents)

@[simp] theorem ofTagged?_name (k : ValueKind) (contents : Json) :
    ofTagged? k.name contents = ofContents? k contents := by
  simp [ofTagged?]

/-- Reads the outside form of a value. -/
def ofJson? : Json → Option TypedValue
  | .object members =>
      match Keyed.find? "type" members, Keyed.find? "value" members with
      | some tag, some contents => tag.choice?.bind (ofTagged? · contents)
      | _, _ => none
  | .array [tag, contents] => tag.choice?.bind (ofTagged? · contents)
  | _ => none

/-- Reads the outside form of a value from a document.  Contents are never nested. -/
def ofDocument? (d : Json.Document) : Option TypedValue :=
  match d.slots ["type", "value"] with
  | some [some tag, some contents] => do
      let name ← tag.choice?
      let contents ← contents.keep? 0
      ofTagged? name contents
  | _ => none

/-- Reads a value from the text of its outside form. -/
def parse? (s : String) : Option TypedValue := (Json.Document.parse? s).bind ofDocument?

end TypedValue
end Audience
