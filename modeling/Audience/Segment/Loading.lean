import Audience.Segment

/-!
# Loading segments

A stored segment is loaded against a schema.  Each stored condition becomes an active one
if all its parts are readable and fit the schema; otherwise it is set aside and reported.
Loading never fails on a readable document.

**Order of the checks.**  Identifier, field, operator, the two values in turn, and then
what `Condition.assemble` checks; the first failure is the reason.

**New identifiers.**  A malformed identifier of a group or condition is replaced by a new
one.  A document without groups becomes one group that can never match: its only entry
is set aside and has no stored form.

**Results.**
* `StoredCondition.load_of_parse?_eq_none`: a malformed identifier is the first thing noticed.
* `Loaded.isClean_iff`: clean means that nothing is reported.
-/

namespace Audience

namespace StoredCondition

/-- Reads a stored value for a field; `null` counts as none. -/
def readTyped (fieldId : String) : Option Json → Except MismatchReason (Option TypedValue)
  | none => .ok none
  | some .null => .ok none
  | some x =>
      match TypedValue.ofJson? x with
      | some v => .ok (some v)
      | none => .error (.malformedValue fieldId)

/-- Turns the cause of a failed check into a reason. -/
def explain {α : Type} (fieldId : String) : Except Error α → Except MismatchReason α
  | .ok a => .ok a
  | .error e => .error (.ofError fieldId e)

/-- The active condition with a readable identifier. -/
def activate (schema : Schema) (id : Uuid) (raw : StoredCondition) :
    Except MismatchReason Condition := do
  let _ ← explain raw.fieldId (schema.field raw.fieldId)
  match Operator.ofId? raw.operatorId with
  | none => .error (.unknownOperator raw.operatorId)
  | some op =>
      let value ← readTyped raw.fieldId raw.value
      let secondValue ← readTyped raw.fieldId raw.secondValue
      explain raw.fieldId (Condition.assemble schema id raw.fieldId op value secondValue)

/-- Loads a condition: an active one, or the one that is set aside; and the identifiers
that are left. -/
def load (schema : Schema) (raw : StoredCondition) (ids : IdSource) :
    Except Quarantined Condition × IdSource :=
  match Uuid.parse? raw.id with
  | none => (.error ⟨ids.next, some raw, .malformedId raw.id⟩, ids.advance)
  | some id =>
      match activate schema id raw with
      | .ok c => (.ok c, ids)
      | .error reason => (.error ⟨id, some raw, reason⟩, ids)

theorem load_of_parse?_eq_none {raw : StoredCondition} (h : Uuid.parse? raw.id = none)
    (schema : Schema) (ids : IdSource) :
    raw.load schema ids = (.error ⟨ids.next, some raw, .malformedId raw.id⟩, ids.advance) := by
  simp [load, h]

/-- Loads the conditions of a group in order and reports those set aside. -/
def loadAll (schema : Schema) (groupId : Uuid) :
    List StoredCondition → IdSource → List Entry × List Mismatch × IdSource
  | [], ids => ([], [], ids)
  | raw :: rest, ids =>
      match raw.load schema ids with
      | (.ok c, ids) =>
          let (entries, mismatches, ids) := loadAll schema groupId rest ids
          (.active c :: entries, mismatches, ids)
      | (.error q, ids) =>
          let (entries, mismatches, ids) := loadAll schema groupId rest ids
          (.quarantined q :: entries, ⟨groupId, some q.id, q.reason⟩ :: mismatches, ids)

@[simp] theorem loadAll_nil (schema : Schema) (groupId : Uuid) (ids : IdSource) :
    loadAll schema groupId [] ids = ([], [], ids) := rfl

end StoredCondition

namespace StoredGroup

/-- Loads a group. -/
def load (schema : Schema) (raw : StoredGroup) (ids : IdSource) :
    Group × List Mismatch × IdSource :=
  match Uuid.parse? raw.id with
  | some id =>
      let (entries, mismatches, ids) := StoredCondition.loadAll schema id raw.conditions ids
      (⟨id, raw.combinator, entries, none⟩, mismatches, ids)
  | none =>
      let id := ids.next
      let (entries, mismatches, ids) :=
        StoredCondition.loadAll schema id raw.conditions ids.advance
      (⟨id, raw.combinator, entries, some raw.id⟩,
        ⟨id, none, .malformedId raw.id⟩ :: mismatches, ids)

/-- Loads groups in order. -/
def loadAll (schema : Schema) :
    List StoredGroup → IdSource → List Group × List Mismatch × IdSource
  | [], ids => ([], [], ids)
  | raw :: rest, ids =>
      let (group, mismatches, ids) := raw.load schema ids
      let (groups, further, ids) := loadAll schema rest ids
      (group :: groups, mismatches ++ further, ids)

@[simp] theorem loadAll_nil (schema : Schema) (ids : IdSource) :
    loadAll schema [] ids = ([], [], ids) := rfl

end StoredGroup

/-- A loaded segment and what did not fit. -/
structure Loaded where
  segment : Segment
  mismatches : List Mismatch
deriving DecidableEq

namespace Loaded

/-- Everything fitted. -/
def isClean (l : Loaded) : Bool := l.mismatches.isEmpty

theorem isClean_iff (l : Loaded) : l.isClean = true ↔ l.mismatches = [] := by
  simp [isClean]

/-- What a document without groups is loaded as. -/
def placeholder (groupId entryId : Uuid) : Loaded where
  segment :=
    ⟨⟨groupId, .and, [.quarantined ⟨entryId, none, .emptySegment⟩], none⟩, []⟩
  mismatches := [⟨groupId, some entryId, .emptySegment⟩]

end Loaded

namespace StoredSegment

/-- Loads a segment against a schema. -/
def load (schema : Schema) (stored : StoredSegment) (ids : IdSource) : Loaded × IdSource :=
  match stored.groups with
  | [] => (Loaded.placeholder ids.next ids.advance.next, ids.advance.advance)
  | raw :: rest =>
      let (first, mismatches, ids) := raw.load schema ids
      let (later, further, ids) := StoredGroup.loadAll schema rest ids
      (⟨⟨first, later⟩, mismatches ++ further⟩, ids)

end StoredSegment

/-- Loads a segment from the text that it was saved as. -/
def Segment.ofText (schema : Schema) (s : String) (ids : IdSource) :
    Except Error (Loaded × IdSource) :=
  match StoredSegment.parse? s with
  | some stored => .ok (stored.load schema ids)
  | none => .error .unreadable

end Audience
