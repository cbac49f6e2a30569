import Audience.Proofs.Evaluation
import Audience.Proofs.Segment.Composing

/-!
# Which way an edit moves the audience

One segment is within another one if everybody in the first is in the second.  Evaluation is
monotone, so an edit of one group moves the whole segment the way it moves the group, whatever
groups stand before and after it.

**Narrower.**  A further condition in a group, and "and" instead of "or" in front of it.

**Wider.**  An entry less in a group, and "or" instead of "and" in front of it.

**New groups.**  A group without entries always holds.  Joined by "or" behind all others it lets
everybody in, and joined by "and" it changes nothing.

**Results.**
* `Segment.within_cut`: an edit of one group moves the segment as it moves the group.
* `Segment.admits_cut_last`: what the last group does to the result of those before it.
* `Segment.edits_directed`: the directions of all these edits.
-/

namespace Audience

namespace Group

variable {customer : Customer} {g : Group}

theorem admits_of_append
    {c : Condition} (h : (g.append c).admits customer = true) :
    g.admits customer = true := by
  unfold append admits at h
  rw [List.all_append, Bool.and_eq_true] at h
  exact h.1

/-- Fewer entries are easier to satisfy. -/
theorem admits_of_sublist
    {entries : List Entry} (hentries : entries.Sublist g.entries)
    (h : g.admits customer = true) :
    Group.admits customer { g with entries := entries } = true := by
  unfold admits at h ⊢
  rw [List.all_eq_true] at h ⊢
  intro e he
  exact h e (hentries.subset he)

end Group

namespace Segment

/-- Everybody in the first segment is in the second one. -/
def Within (s s' : Segment) : Prop :=
  ∀ customer, s.admits customer = true → s'.admits customer = true

theorem Within.refl (s : Segment) : s.Within s := fun _ h => h

section Places

variable {before after : List Group} {g g' : Group}

/-- If one group is replaced by another one that is joined by "or" where it was, and holds for
all for whom it held, then nobody leaves the segment. -/
theorem within_cut
    (hcombinator : g.combinator = .or → g'.combinator = .or)
    (hadmits : ∀ customer, g.admits customer = true → g'.admits customer = true) :
    (cut before g after).Within (cut before g' after) := by
  intro customer
  refine admits_mono ?_
  rw [groups_cut, groups_cut]
  refine List.rel_append ?_ (.cons ⟨hcombinator, hadmits customer⟩ ?_)
  · exact List.forall₂_same.mpr fun _ _ => ⟨id, id⟩
  · exact List.forall₂_same.mpr fun _ _ => ⟨id, id⟩

theorem within_append_cut
    (c : Condition) :
    (cut before (g.append c) after).Within (cut before g after) :=
  within_cut id fun _ => Group.admits_of_append

theorem within_erase_cut
    {entries : List Entry} (h : entries.Sublist g.entries) :
    (cut before g after).Within (cut before { g with entries := entries } after) :=
  within_cut id fun _ => Group.admits_of_sublist h

/-- From "or" to "and" the segment gets narrower. -/
theorem within_turn_cut_of_or
    (h : g.combinator = .or) :
    (cut before g.turn after).Within (cut before g after) :=
  within_cut (fun _ => h) fun _ => id

/-- From "and" to "or" the segment gets wider. -/
theorem within_turn_cut_of_and
    (h : g.combinator = .and) :
    (cut before g after).Within (cut before g.turn after) := by
  refine within_cut ?_ fun _ => id
  intro hor
  cases h.symm.trans hor

end Places

section NewGroups

variable (customer : Customer)

theorem foldGroups_append
    (acc : Bool) (later more : List Group) :
    foldGroups customer acc (later ++ more) =
      foldGroups customer (foldGroups customer acc later) more := by
  induction later generalizing acc with
  | nil =>
      rfl
  | cons g rest ih =>
      rw [List.cons_append, foldGroups_cons, foldGroups_cons, ih]

/-- The last group is joined to the result of the segment before it. -/
theorem admits_cut_last
    (s : Segment) (g : Group) :
    (cut s.groups g []).admits customer =
      g.combinator.join (s.admits customer) (g.admits customer) :=
  foldGroups_append customer (s.first.admits customer) s.later [g]

theorem admits_addGroup
    (s : Segment) (fresh : Uuid) :
    (s.addGroup fresh).admits customer = true := by
  rw [addGroup_eq_cut, admits_cut_last]
  exact Bool.or_true _

theorem admits_addGroup_turned
    (s : Segment) (fresh : Uuid) :
    (cut s.groups (Group.empty .and fresh) []).admits customer = s.admits customer := by
  rw [admits_cut_last]
  exact Bool.and_true _

end NewGroups

/-- Turning the group that is found under an identifier succeeds.  A later group is turned, and
the audience moves the way its combinator does; the first group is left alone. -/
theorem turnGroup_directed
    {s : Segment} {group : Uuid} {g : Group} (hg : s.group? group = some g) :
    ∃ s', s.turnGroup group = .ok s' ∧
      (s.first.id ≠ group → s'.group? group = some g.turn) ∧
      (g.combinator = .or → s'.Within s) ∧ (g.combinator = .and → s.Within s') := by
  obtain ⟨before, after, rfl, hbefore, rfl⟩ := group?_eq_some_iff.mp hg
  by_cases hne : before = []
  · subst hne
    exact ⟨_, turnGroup_first _, fun h => absurd rfl h, fun _ => .refl _, fun _ => .refl _⟩
  · refine ⟨_, turnGroup_cut hbefore hne after, ?_, within_turn_cut_of_or,
      within_turn_cut_of_and⟩
    exact fun _ => group?_eq_some_iff.mpr ⟨before, after, rfl, hbefore, rfl⟩

/-- The edits of a segment move its audience one way only.  A condition more in any group lets
nobody in, and an entry less puts nobody out; nor does "and" let anybody in where a group was
joined by "or", or "or" put anybody out where it was joined by "and".  A new group lets everybody
in, and nobody has come or gone when it is turned to "and". -/
theorem edits_directed
    (s : Segment) :
    (∀ group g, s.group? group = some g →
      (∀ c, ∃ s', s.append group c = .ok s' ∧ s'.Within s) ∧
      (∀ schema field f fresh, Schema.field schema field = .ok f →
        ∃ s', s.addCondition schema group field fresh = .ok s' ∧ s'.Within s) ∧
      (∀ e ∈ g.entries, ∃ s', s.removeEntry group e.id = .ok s' ∧ s.Within s') ∧
      ∃ s', s.turnGroup group = .ok s' ∧
        (s.first.id ≠ group → s'.group? group = some g.turn) ∧
        (g.combinator = .or → s'.Within s) ∧ (g.combinator = .and → s.Within s')) ∧
    ∀ fresh,
      (∀ customer, (s.addGroup fresh).admits customer = true) ∧
      ((∀ g ∈ s.groups, g.id ≠ fresh) →
        ∃ s', (s.addGroup fresh).turnGroup fresh = .ok s' ∧
          ∀ customer, s'.admits customer = s.admits customer) := by
  constructor
  · intro group g hg
    have happend : ∀ c, ∃ s', s.append group c = .ok s' ∧ s'.Within s := by
      obtain ⟨before, after, rfl, hbefore, rfl⟩ := group?_eq_some_iff.mp hg
      intro c
      exact ⟨_, append_cut hbefore after c, within_append_cut c⟩
    refine ⟨happend, ?_, ?_, turnGroup_directed hg⟩
    · intro schema field f fresh hf
      obtain ⟨s', hs', hwithin⟩ := happend (Condition.start fresh f)
      have hnew : Condition.on schema field fresh = .ok (Condition.start fresh f) :=
        map_eq_ok_iff.mpr ⟨f, hf, rfl⟩
      exact ⟨s', bind_eq_ok_iff.mpr ⟨_, hnew, hs'⟩, hwithin⟩
    · intro e he
      obtain ⟨before, after, rfl, hbefore, rfl⟩ := group?_eq_some_iff.mp hg
      exact ⟨_, removeEntry_cut hbefore after he, within_erase_cut List.eraseP_sublist⟩
  · intro fresh
    refine ⟨fun customer => admits_addGroup customer s fresh, ?_⟩
    intro hfresh
    refine ⟨_, turnGroup_cut (g := Group.empty .or fresh) hfresh s.groups_ne_nil [], ?_⟩
    exact fun customer => admits_addGroup_turned customer s fresh

/-- The second group holds for nobody, the third one for everybody. -/
def threeGroups : Segment where
  first := ⟨.ofNat 1, .and, [.active (Condition.start default ⟨"x", "X", .text⟩)], none⟩
  later := [
    ⟨.ofNat 2, .or, [.quarantined ⟨default, none, .emptySegment⟩], none⟩,
    ⟨.ofNat 3, .and, [], none⟩]

theorem edits_directed_threeGroups :
    (∃ s', threeGroups.append (.ofNat 2) (Condition.start default ⟨"y", "Y", .text⟩) = .ok s' ∧
      s'.Within threeGroups) ∧
    (∃ s', threeGroups.addCondition Schema.standard (.ofNat 2) "age" default = .ok s' ∧
      s'.Within threeGroups) ∧
    (∃ s', threeGroups.removeEntry (.ofNat 2) default = .ok s' ∧ threeGroups.Within s') ∧
    (∃ s', threeGroups.turnGroup (.ofNat 2) = .ok s' ∧ s'.Within threeGroups) ∧
    (∃ s', threeGroups.turnGroup (.ofNat 3) = .ok s' ∧ threeGroups.Within s') ∧
    ∃ s', (threeGroups.addGroup (.ofNat 4)).turnGroup (.ofNat 4) = .ok s' ∧
      ∀ customer, s'.admits customer = threeGroups.admits customer := by
  obtain ⟨hedits, hnew⟩ := edits_directed threeGroups
  obtain ⟨happend, hadd, hremove, s₂, hturn, _, hor, _⟩ :=
    hedits (.ofNat 2) threeGroups.later[0] (by decide +kernel)
  obtain ⟨_, _, _, s₃, hturn', _, _, hand⟩ :=
    hedits (.ofNat 3) threeGroups.later[1] (by decide +kernel)
  refine ⟨happend _, hadd _ _ ⟨"age", "Age", .number⟩ _ rfl, ?_, ⟨s₂, hturn, hor rfl⟩,
    ⟨s₃, hturn', hand rfl⟩, (hnew (.ofNat 4)).2 (by decide +kernel)⟩
  exact hremove (.quarantined ⟨default, none, .emptySegment⟩) (by decide +kernel)

end Segment

end Audience
