import Audience.Segment

/-!
# Composing segments

Steps that make a new segment from a given one.  Groups and entries are addressed by
identifiers; of several with one identifier the first is meant.  A step that needs a new
identifier is given one.

**First group.**  It cannot be removed, and its combinator, which joins it to nothing,
cannot be turned: removing it is an error, turning its combinator does nothing.

**Entries that were set aside** can be removed but not changed.

**Results.**
* `Segment.changeGroup_first`: where a change lands.
* `Group.ids_changeFirst`, `Segment.first_id_changeGroup`: a change that keeps identifiers
  keeps their order.
-/

namespace Audience

namespace Entry

/-- Removes the first entry with an identifier. -/
def removeFirst (id : Uuid) : List Entry → Except Error (List Entry)
  | [] => .error (.unknownCondition id)
  | e :: rest => if e.id = id then .ok rest else (removeFirst id rest).map (e :: ·)

/-- Changes the condition of an active entry. -/
def change (f : Condition → Except Error Condition) : Entry → Except Error Entry
  | active c => (f c).map active
  | quarantined q => .error (.conditionQuarantined q.id)

/-- Changes the first entry with an identifier. -/
def changeFirst (id : Uuid) (f : Condition → Except Error Condition) :
    List Entry → Except Error (List Entry)
  | [] => .error (.unknownCondition id)
  | e :: rest =>
      if e.id = id then (e.change f).map (· :: rest)
      else (changeFirst id f rest).map (e :: ·)

end Entry

namespace Group

/-- Changes the first group with an identifier. -/
def changeFirst (id : Uuid) (f : Group → Except Error Group) :
    List Group → Except Error (List Group)
  | [] => .error (.unknownGroup id)
  | g :: rest =>
      if g.id = id then (f g).map (· :: rest)
      else (changeFirst id f rest).map (g :: ·)

/-- Removes the first group with an identifier. -/
def removeFirst (id : Uuid) : List Group → Except Error (List Group)
  | [] => .error (.unknownGroup id)
  | g :: rest => if g.id = id then .ok rest else (removeFirst id rest).map (g :: ·)

/-- Turns the combinator. -/
def turn (g : Group) : Group := { g with combinator := g.combinator.flip }

/-- Adds an active entry at the end. -/
def append (c : Condition) (g : Group) : Group :=
  { g with entries := g.entries ++ [.active c] }

/-- Removes the first entry with an identifier. -/
def removeEntry (id : Uuid) (g : Group) : Except Error Group :=
  (Entry.removeFirst id g.entries).map fun entries => { g with entries := entries }

/-- Changes the first entry with an identifier. -/
def changeEntry (id : Uuid) (f : Condition → Except Error Condition) (g : Group) :
    Except Error Group :=
  (Entry.changeFirst id f g.entries).map fun entries => { g with entries := entries }

theorem ids_changeFirst {id : Uuid} {f : Group → Except Error Group}
    (hf : ∀ g g', f g = .ok g' → g'.id = g.id) {groups groups' : List Group}
    (h : changeFirst id f groups = .ok groups') :
    groups'.map Group.id = groups.map Group.id := by
  induction groups generalizing groups' with
  | nil => cases h
  | cons g rest ih =>
      simp only [changeFirst] at h
      split at h
      · obtain ⟨g', hg, rfl⟩ := map_eq_ok_iff.mp h
        simp [hf g g' hg]
      · obtain ⟨rest', hrest, rfl⟩ := map_eq_ok_iff.mp h
        simp [ih hrest]

end Group

namespace Segment

/-- Adds a group without entries that is joined by "or". -/
def addGroup (fresh : Uuid) (s : Segment) : Segment :=
  { s with later := s.later ++ [Group.empty .or fresh] }

/-- Removes a later group. -/
def removeGroup (id : Uuid) (s : Segment) : Except Error Segment :=
  if s.first.id = id then .error .cannotRemoveFirstGroup
  else (Group.removeFirst id s.later).map fun later => { s with later := later }

/-- Changes the first group with an identifier. -/
def changeGroup (id : Uuid) (f : Group → Except Error Group) (s : Segment) :
    Except Error Segment :=
  if s.first.id = id then (f s.first).map fun first => { s with first := first }
  else (Group.changeFirst id f s.later).map fun later => { s with later := later }

/-- Turns the combinator of a later group. -/
def turnGroup (id : Uuid) (s : Segment) : Except Error Segment :=
  if s.first.id = id then .ok s
  else (Group.changeFirst id (fun g => .ok g.turn) s.later).map
    fun later => { s with later := later }

/-- Adds a condition at the end of a group. -/
def append (groupId : Uuid) (c : Condition) (s : Segment) : Except Error Segment :=
  s.changeGroup groupId fun g => .ok (g.append c)

/-- Adds a new condition on a field at the end of a group. -/
def addCondition (schema : Schema) (groupId : Uuid) (fieldId : String) (fresh : Uuid)
    (s : Segment) : Except Error Segment := do
  let c ← Condition.on schema fieldId fresh
  s.append groupId c

/-- Removes an entry. -/
def removeEntry (groupId entryId : Uuid) (s : Segment) : Except Error Segment :=
  s.changeGroup groupId (Group.removeEntry entryId)

/-- Changes the condition of an active entry. -/
def changeEntry (groupId entryId : Uuid) (f : Condition → Except Error Condition)
    (s : Segment) : Except Error Segment :=
  s.changeGroup groupId (Group.changeEntry entryId f)

theorem changeGroup_first {id : Uuid} {f : Group → Except Error Group} {s : Segment}
    (h : s.first.id = id) :
    s.changeGroup id f = (f s.first).map fun first => { s with first := first } := by
  simp [changeGroup, h]

theorem first_id_changeGroup {id : Uuid} {f : Group → Except Error Group}
    (hf : ∀ g g', f g = .ok g' → g'.id = g.id) {s s' : Segment}
    (h : s.changeGroup id f = .ok s') : s'.first.id = s.first.id := by
  unfold changeGroup at h
  split at h
  · obtain ⟨first, hfirst, rfl⟩ := map_eq_ok_iff.mp h
    exact hf _ _ hfirst
  · obtain ⟨later, _, rfl⟩ := map_eq_ok_iff.mp h
    rfl

end Segment

/-- One step in composing a segment. -/
inductive Edit
  | addGroup
  | removeGroup (group : Uuid)
  | turnGroup (group : Uuid)
  | addCondition (group : Uuid) (field : String)
  | append (group : Uuid) (c : Condition)
  | removeEntry (group entry : Uuid)
  | changeEntry (group entry : Uuid) (change : Change)
deriving DecidableEq

namespace Edit

/-- Makes a step under a schema, with an identifier for what the step adds. -/
def run (schema : Schema) (fresh : Uuid) : Edit → Segment → Except Error Segment
  | addGroup, s => .ok (s.addGroup fresh)
  | removeGroup group, s => s.removeGroup group
  | turnGroup group, s => s.turnGroup group
  | addCondition group field, s => s.addCondition schema group field fresh
  | append group c, s => s.append group c
  | removeEntry group entry, s => s.removeEntry group entry
  | changeEntry group entry change, s =>
      s.changeEntry group entry (Condition.change schema change)

end Edit
end Audience
