import Audience.Segment.Composer
import Mathlib.Data.List.Basic

/-!
# Composing at a place

A segment is cut at one of its groups into the groups before it, the group and the groups after
it.  A step that is addressed to a group cuts the segment at the first group with the
identifier, and changes nothing of the groups before and after it.

**Results.**
* `Segment.group?_eq_some_iff`: where a group is found.
* `Segment.changeGroup_cut`, `Segment.turnGroup_cut`: what the steps do at a cut.
* `Segment.addGroup_eq_cut`: a new group is the last place.
* `Segment.exists_append_last`, `Segment.exists_turnGroup_last`: what is addressed to the last
  group succeeds.
-/

namespace Audience

/-- Removing the first entry with the identifier of an entry succeeds. -/
theorem Entry.removeFirst_of_mem
    {entries : List Entry} {e : Entry} (he : e ∈ entries) :
    removeFirst e.id entries = .ok (entries.eraseP (·.id = e.id)) := by
  induction entries with
  | nil =>
      cases he
  | cons first rest ih =>
      rw [removeFirst]
      by_cases hid : first.id = e.id
      · rw [if_pos hid, List.eraseP_cons_of_pos (by simpa using hid)]
      · have hrest : e ∈ rest := by
          rcases List.mem_cons.mp he with rfl | hrest
          · exact absurd rfl hid
          · exact hrest
        rw [if_neg hid, ih hrest, List.eraseP_cons_of_neg (by simpa using hid)]
        rfl

namespace Group

theorem removeEntry_of_mem
    {g : Group} {e : Entry} (he : e ∈ g.entries) :
    g.removeEntry e.id = .ok { g with entries := g.entries.eraseP (·.id = e.id) } := by
  rw [removeEntry, Entry.removeFirst_of_mem he]
  rfl

/-- The first group with an identifier is changed, and no other one. -/
theorem changeFirst_append
    {before : List Group} {g : Group} (hbefore : ∀ b ∈ before, b.id ≠ g.id)
    (after : List Group) (f : Group → Except Error Group) :
    changeFirst g.id f (before ++ g :: after) = (f g).map (before ++ · :: after) := by
  induction before with
  | nil =>
      simp [changeFirst]
  | cons b rest ih =>
      obtain ⟨hb, hrest⟩ := List.forall_mem_cons.mp hbefore
      rw [List.cons_append, changeFirst, if_neg hb, ih hrest]
      cases f g <;> rfl

end Group

namespace Segment

/-- The segment with these groups before and after a group. -/
def cut (before : List Group) (g : Group) (after : List Group) : Segment :=
  match before with
  | [] => ⟨g, after⟩
  | first :: rest => ⟨first, rest ++ g :: after⟩

@[simp] theorem groups_cut (before : List Group) (g : Group) (after : List Group) :
    (cut before g after).groups = before ++ g :: after := by
  cases before <;> rfl

@[simp] theorem last_cut (before : List Group) (g : Group) :
    (cut before g []).last = g := by
  cases before <;> simp [cut, last]

/-- The groups of a segment determine it. -/
theorem eq_cut_of_groups
    {s : Segment} {before after : List Group} {g : Group}
    (h : s.groups = before ++ g :: after) :
    s = cut before g after := by
  obtain ⟨first, later⟩ := s
  cases before with
  | nil =>
      cases h
      rfl
  | cons b rest =>
      cases h
      rfl

/-- A segment ends with its last group. -/
theorem exists_eq_cut_last
    (s : Segment) :
    ∃ before, s = cut before s.last [] := by
  obtain ⟨before, g, hgroups⟩ := (List.eq_nil_or_concat s.groups).resolve_left s.groups_ne_nil
  have hcut : s = cut before g [] := eq_cut_of_groups (by simpa using hgroups)
  refine ⟨before, ?_⟩
  rw [hcut, last_cut]

/-- A new group comes after all others. -/
theorem addGroup_eq_cut
    (s : Segment) (fresh : Uuid) :
    s.addGroup fresh = cut s.groups (Group.empty .or fresh) [] := rfl

/-- A group is found at the first place with its identifier. -/
theorem group?_eq_some_iff
    {s : Segment} {id : Uuid} {g : Group} :
    s.group? id = some g ↔
      ∃ before after, s = cut before g after ∧ (∀ b ∈ before, b.id ≠ g.id) ∧ g.id = id := by
  unfold group?
  rw [List.find?_eq_some_iff_append]
  constructor
  · rintro ⟨hid, before, after, hgroups, hbefore⟩
    have hg : g.id = id := by simpa using hid
    refine ⟨before, after, eq_cut_of_groups hgroups, ?_, hg⟩
    intro b hb
    rw [hg]
    simpa using hbefore b hb
  · rintro ⟨before, after, rfl, hbefore, rfl⟩
    refine ⟨by simp, before, after, groups_cut before g after, ?_⟩
    intro b hb
    simpa using hbefore b hb

/-- Under the identifier of the last group some group is found, if only an earlier one. -/
theorem exists_eq_cut_of_last
    (s : Segment) :
    ∃ before g after,
      s = cut before g after ∧ (∀ b ∈ before, b.id ≠ g.id) ∧ g.id = s.last.id := by
  obtain ⟨init, hs⟩ := s.exists_eq_cut_last
  have hfound : (s.group? s.last.id).isSome = true := by
    rw [group?, List.find?_isSome]
    refine ⟨s.last, ?_, by simp⟩
    rw [hs, groups_cut, last_cut]
    simp
  obtain ⟨g, hg⟩ := Option.isSome_iff_exists.mp hfound
  obtain ⟨before, after, hcut⟩ := group?_eq_some_iff.mp hg
  exact ⟨before, g, after, hcut⟩

section Steps

variable {before : List Group} {g : Group}

/-- A change of a group changes nothing before and after it. -/
theorem changeGroup_cut
    (hbefore : ∀ b ∈ before, b.id ≠ g.id) (after : List Group)
    (f : Group → Except Error Group) :
    (cut before g after).changeGroup g.id f = (f g).map (cut before · after) := by
  cases before with
  | nil =>
      exact changeGroup_first rfl
  | cons first rest =>
      obtain ⟨hfirst, hrest⟩ := List.forall_mem_cons.mp hbefore
      rw [cut, changeGroup, if_neg hfirst, Group.changeFirst_append hrest]
      cases f g <;> rfl

theorem append_cut
    (hbefore : ∀ b ∈ before, b.id ≠ g.id) (after : List Group) (c : Condition) :
    (cut before g after).append g.id c = .ok (cut before (g.append c) after) :=
  changeGroup_cut hbefore after _

theorem removeEntry_cut
    (hbefore : ∀ b ∈ before, b.id ≠ g.id) (after : List Group) {e : Entry}
    (he : e ∈ g.entries) :
    (cut before g after).removeEntry g.id e.id =
      .ok (cut before { g with entries := g.entries.eraseP (·.id = e.id) } after) := by
  rw [removeEntry, changeGroup_cut hbefore, Group.removeEntry_of_mem he]
  rfl

/-- Turning does nothing to the first group. -/
theorem turnGroup_first
    (s : Segment) :
    s.turnGroup s.first.id = .ok s :=
  if_pos rfl

/-- Turning a later group turns its combinator. -/
theorem turnGroup_cut
    (hbefore : ∀ b ∈ before, b.id ≠ g.id) (hne : before ≠ []) (after : List Group) :
    (cut before g after).turnGroup g.id = .ok (cut before g.turn after) := by
  obtain ⟨first, rest, rfl⟩ := List.exists_cons_of_ne_nil hne
  obtain ⟨hfirst, hrest⟩ := List.forall_mem_cons.mp hbefore
  rw [cut, turnGroup, if_neg hfirst, Group.changeFirst_append hrest]
  rfl

end Steps

section LastGroup

theorem exists_append_last
    (s : Segment) (c : Condition) :
    ∃ s', s.append s.last.id c = .ok s' := by
  obtain ⟨before, g, after, hcut, hbefore, hid⟩ := s.exists_eq_cut_of_last
  rw [← hid, hcut]
  exact ⟨_, append_cut hbefore after c⟩

theorem exists_turnGroup_last
    (s : Segment) :
    ∃ s', s.turnGroup s.last.id = .ok s' := by
  obtain ⟨before, g, after, hcut, hbefore, hid⟩ := s.exists_eq_cut_of_last
  rw [← hid, hcut]
  by_cases hne : before = []
  · subst hne
    exact ⟨_, turnGroup_first _⟩
  · exact ⟨_, turnGroup_cut hbefore hne after⟩

end LastGroup

end Segment

end Audience
