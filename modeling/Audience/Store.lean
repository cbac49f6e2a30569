import Audience.Segment.Loading
import Audience.Segment.Saving
import Audience.Time.Instant

/-!
# Saved segments

A store keeps segments under identifiers.  What it keeps of a segment is its text; the text
is loaded again, against the schema of the moment, whenever the segment is asked for.

**Lists.**  Saved segments are listed by the times at which they were saved, and those of one
time by their names.

**Results.**
* `Store.find?_save_self`, `Store.find?_save_of_ne`: saving adds one segment.
* `Store.find?_remove_self`, `Store.find?_remove_of_ne`: deleting takes one away.
-/

namespace Audience

/-- A segment as it is kept. -/
structure SavedSegment where
  id : Uuid
  name : String
  description : String
  createdAt : Instant
  payload : String
deriving DecidableEq

/-- A segment that was loaded from a store. -/
structure LoadedSegment where
  id : Uuid
  name : String
  description : String
  createdAt : Instant
  loaded : Loaded
deriving DecidableEq

/-- A saved segment may stand before another one in a list. -/
def SavedSegment.precedes (a b : SavedSegment) : Bool :=
  ((a.createdAt.compare b.createdAt).then (compare a.name b.name)).isLE

/-- The table of saved segments. -/
structure Store where
  saved : List SavedSegment
deriving DecidableEq

namespace Store

/-- A store without segments. -/
def empty : Store := ⟨[]⟩

instance : Inhabited Store := ⟨empty⟩

/-- The saved segment with an identifier. -/
def find? (store : Store) (id : Uuid) : Option SavedSegment :=
  store.saved.find? (·.id = id)

/-- The store without the segment with an identifier. -/
def remove (store : Store) (id : Uuid) : Store :=
  ⟨store.saved.filter (·.id ≠ id)⟩

/-- Saves a segment under an identifier, with the time. -/
def save (store : Store) (id : Uuid) (name description : String) (createdAt : Instant)
    (s : Segment) : Store :=
  ⟨(store.remove id).saved ++ [⟨id, name, description, createdAt, s.text⟩]⟩

/-- The saved segments, earlier ones first. -/
def listed (store : Store) : List SavedSegment :=
  store.saved.mergeSort SavedSegment.precedes

/-- The text of a saved segment. -/
def payload? (store : Store) (id : Uuid) : Option String := (store.find? id).map (·.payload)

/-- Loads a saved segment. -/
def load (store : Store) (schema : Schema) (id : Uuid) (ids : IdSource) :
    Except Error (LoadedSegment × IdSource) :=
  match store.find? id with
  | none => .error (.segmentNotFound id)
  | some saved => do
      let (loaded, ids) ← Segment.ofText schema saved.payload ids
      return (⟨saved.id, saved.name, saved.description, saved.createdAt, loaded⟩, ids)

/-- Deletes a saved segment. -/
def delete (store : Store) (id : Uuid) : Except Error Store :=
  match store.find? id with
  | none => .error (.segmentNotFound id)
  | some _ => .ok (store.remove id)

@[simp] theorem find?_remove_self (store : Store) (id : Uuid) :
    (store.remove id).find? id = none := by
  simp [find?, remove, List.find?_eq_none]

theorem find?_remove_of_ne (store : Store) {id other : Uuid} (h : other ≠ id) :
    (store.remove id).find? other = store.find? other := by
  unfold find? remove
  induction store.saved with
  | nil => rfl
  | cons a rest ih =>
      by_cases ha : a.id = id
      · have : a.id ≠ other := fun heq => h (heq ▸ ha)
        simp only [List.filter_cons, ha, ne_eq, not_true_eq_false, decide_false,
          Bool.false_eq_true, if_false, List.find?_cons]
        rw [ih]
        simp [Ne.symm h]
      · simp only [List.filter_cons, ne_eq, ha, not_false_eq_true, decide_true, if_true,
          List.find?_cons]
        rw [ih]

@[simp] theorem find?_save_self (store : Store) (id : Uuid) (name description : String)
    (createdAt : Instant) (s : Segment) :
    (store.save id name description createdAt s).find? id =
      some ⟨id, name, description, createdAt, s.text⟩ := by
  have hnone : (store.remove id).saved.find? (·.id = id) = none := store.find?_remove_self id
  simp [save, find?, hnone]

theorem find?_save_of_ne (store : Store) {id other : Uuid} (h : other ≠ id)
    (name description : String) (createdAt : Instant) (s : Segment) :
    (store.save id name description createdAt s).find? other = store.find? other := by
  have hrest := store.find?_remove_of_ne h
  simp only [find?] at hrest
  simp [save, find?, hrest, Ne.symm h]

end Store
end Audience
