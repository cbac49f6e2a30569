import Audience.Condition
import Audience.Mismatch
import Audience.Stored

/-!
# Segments

A segment is a first group and later groups.  A group holds entries, all of which must
hold for the group to hold; a later group is joined to the groups before it by its
combinator.

**Entries** are active conditions, or conditions that were set aside when the segment was
loaded because they did not fit the schema.  The latter keep their stored form.

**Names.**  A group whose stored identifier was malformed has a new identifier and keeps
the stored one beside it.  Groups and entries are found by the first one with an
identifier, and identifiers may repeat.

**Results.**
* `Segment.groups_ne_nil`: there is always a group.
* `Segment.length_conditions_add_quarantined`: each entry is active or set aside.
-/

namespace Audience

/-- A condition that was set aside, with its stored form if it has one. -/
structure Quarantined where
  id : Uuid
  raw : Option StoredCondition
  reason : MismatchReason
deriving DecidableEq

/-- An entry of a group. -/
inductive Entry
  | active (c : Condition)
  | quarantined (q : Quarantined)
deriving DecidableEq

namespace Entry

/-- The identifier of an entry. -/
def id : Entry → Uuid
  | active c => c.id
  | quarantined q => q.id

/-- The condition of an active entry. -/
def condition? : Entry → Option Condition
  | active c => some c
  | quarantined _ => none

/-- The entry was set aside. -/
def isQuarantined : Entry → Bool
  | active _ => false
  | quarantined _ => true

@[simp] theorem isQuarantined_eq_isNone (e : Entry) :
    e.isQuarantined = e.condition?.isNone := by
  cases e <;> rfl

end Entry

/-- A group of entries. -/
structure Group where
  id : Uuid
  combinator : Combinator
  entries : List Entry
  storedId : Option String
deriving DecidableEq

namespace Group

/-- A group without entries. -/
def empty (combinator : Combinator) (id : Uuid) : Group := ⟨id, combinator, [], none⟩

/-- The active conditions. -/
def conditions (g : Group) : List Condition := g.entries.filterMap Entry.condition?

/-- The first active condition with an identifier. -/
def condition? (g : Group) (id : Uuid) : Option Condition :=
  g.conditions.find? (·.id = id)

/-- Some entry was set aside. -/
def hasQuarantined (g : Group) : Bool := g.entries.any Entry.isQuarantined

/-- The number of entries. -/
def size (g : Group) : Nat := g.entries.length

/-- The entries that were set aside. -/
def quarantined (g : Group) : List Entry := g.entries.filter Entry.isQuarantined

theorem length_conditions_add_quarantined (g : Group) :
    g.conditions.length + g.quarantined.length = g.size := by
  unfold conditions quarantined size
  induction g.entries with
  | nil => rfl
  | cons e rest ih =>
      cases e with
      | active c =>
          simp only [List.filterMap_cons, Entry.condition?, List.filter_cons,
            Entry.isQuarantined, List.length_cons] at ih ⊢
          simp only [Bool.false_eq_true, if_false]
          omega
      | quarantined q =>
          simp only [List.filterMap_cons, Entry.condition?, List.filter_cons,
            Entry.isQuarantined, List.length_cons, if_true] at ih ⊢
          omega

end Group

/-- A segment: a first group and later ones. -/
structure Segment where
  first : Group
  later : List Group
deriving DecidableEq

namespace Segment

/-- A segment of one group without entries. -/
def new (id : Uuid) : Segment := ⟨Group.empty .and id, []⟩

instance : Inhabited Segment := ⟨new default⟩

/-- All groups in order. -/
def groups (s : Segment) : List Group := s.first :: s.later

@[simp] theorem groups_ne_nil (s : Segment) : s.groups ≠ [] := by simp [groups]

/-- The last group. -/
def last (s : Segment) : Group := s.later.getLastD s.first

/-- The first group with an identifier. -/
def group? (s : Segment) (id : Uuid) : Option Group := s.groups.find? (·.id = id)

/-- The number of entries. -/
def entryCount (s : Segment) : Nat := s.groups.foldr (fun g n => g.size + n) 0

/-- The number of entries that were set aside. -/
def quarantinedCount (s : Segment) : Nat :=
  s.groups.foldr (fun g n => g.quarantined.length + n) 0

/-- The identifiers of the conditions whose range is empty. -/
def emptyRanges (s : Segment) : List Uuid :=
  ((s.groups.flatMap Group.conditions).filter Condition.isEmptyRange).map Condition.id

theorem length_conditions_add_quarantined (s : Segment) :
    (s.groups.flatMap Group.conditions).length + s.quarantinedCount = s.entryCount := by
  unfold quarantinedCount entryCount
  induction s.groups with
  | nil => rfl
  | cons g rest ih =>
      have := g.length_conditions_add_quarantined
      simp only [List.flatMap_cons, List.length_append, List.foldr_cons] at ih ⊢
      omega

end Segment
end Audience
