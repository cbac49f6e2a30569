import Audience.Segment

/-!
# Saving segments

The stored form of a segment.  An active condition is written from its parts; an entry
that was set aside is written as it was stored, or not at all if it has no stored form.
A group is written under its stored identifier if it has one.

**Results.**
* `Group.stored_id_of_storedId`: a malformed identifier is written unchanged.
* `Entry.stored?_quarantined`: so is the stored form of an entry that was set aside.
-/

namespace Audience

/-- The stored form of an active condition. -/
def Condition.stored (c : Condition) : StoredCondition where
  id := c.id.toString
  fieldId := c.field
  operatorId := c.operator.id
  value := c.value.map TypedValue.json
  secondValue := c.secondValue.map TypedValue.json

/-- The stored form of an entry, if it has one. -/
def Entry.stored? : Entry → Option StoredCondition
  | active c => some c.stored
  | quarantined q => q.raw

@[simp] theorem Entry.stored?_quarantined (q : Quarantined) :
    (Entry.quarantined q).stored? = q.raw := rfl

/-- The stored form of a group. -/
def Group.stored (g : Group) : StoredGroup where
  id := g.storedId.getD g.id.toString
  combinator := g.combinator
  conditions := g.entries.filterMap Entry.stored?

theorem Group.stored_id_of_storedId {g : Group} {raw : String} (h : g.storedId = some raw) :
    g.stored.id = raw := by
  simp [Group.stored, h]

namespace Segment

/-- The stored form of a segment. -/
def stored (s : Segment) : StoredSegment := ⟨s.groups.map Group.stored⟩

/-- The text that a segment is saved as. -/
def text (s : Segment) : String := s.stored.text

end Segment
end Audience
