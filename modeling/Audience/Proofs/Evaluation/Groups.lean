import Audience.Evaluation
import Audience.Segment.Composer
import Mathlib.Data.List.Forall2
import Mathlib.Data.List.Basic
import Mathlib.Tactic.Tauto

/-!
# What a combination of groups says

Groups are joined from left to right and no combinator binds stronger than the other one.
A group that is joined by "or" makes the result true if it holds, whatever stood before it;
a group that is joined by "and" keeps the result true only if it holds.

**Closed form.**  So the result is true exactly if some group holds that is the first one or
is joined by "or", and after it every group holds that is joined by "and".

**Groups as results.**  The combination sees a group through its result only, and the
combinator of the first group, which joins it to nothing, is never looked at.

**Results.**
* `Segment.foldGroups_eq_true_iff`: the closed form, after some result so far.
* `Segment.foldGroups_congr`: the combination sees combinators and results only.
* `Segment.admits_iff_exists_start`: the closed form of the whole evaluation.
-/

namespace Audience

section Places

variable {α : Type} {items : List α}

theorem forall_mem_drop_iff
    {P : α → Prop} {n : Nat} :
    (∀ x ∈ items.drop n, P x) ↔ ∀ j : Fin items.length, n ≤ j.val → P items[j] := by
  constructor
  · intro h j hj
    refine h items[j] (List.mem_drop_iff_getElem.mpr ⟨j.val - n, by omega, ?_⟩)
    congr 1
    omega
  · intro h x hx
    obtain ⟨k, hk, rfl⟩ := List.mem_drop_iff_getElem.mp hx
    exact h ⟨n + k, by omega⟩ (Nat.le_add_right n k)

/-- A place in a list, by the items before, at and after it or by its number. -/
theorem exists_split_iff
    {P : Nat → α → List α → Prop} :
    (∃ before x after, items = before ++ x :: after ∧ P before.length x after) ↔
      ∃ i : Fin items.length, P i items[i] (items.drop (i + 1)) := by
  constructor
  · rintro ⟨before, x, after, rfl, h⟩
    exact ⟨⟨before.length, by simp⟩, by simpa using h⟩
  · rintro ⟨i, h⟩
    refine ⟨items.take i, items[i], items.drop (i + 1), ?_, ?_⟩
    · simp
    · rw [List.length_take_of_le (by omega)]
      exact h

/-- A place is the first one or one in the rest. -/
theorem exists_split_cons_iff
    {P : Nat → α → List α → Prop} {a : α} :
    (∃ before x after, a :: items = before ++ x :: after ∧ P before.length x after) ↔
      P 0 a items ∨
        ∃ before x after, items = before ++ x :: after ∧ P (before.length + 1) x after := by
  constructor
  · rintro ⟨before, x, after, hplace, h⟩
    rcases List.cons_eq_append_iff.mp hplace with ⟨rfl, hcons⟩ | ⟨before', rfl, hrest⟩
    · cases hcons
      exact Or.inl h
    · exact Or.inr ⟨before', x, after, hrest, h⟩
  · rintro (h | ⟨before, x, after, rfl, h⟩)
    · exact ⟨[], a, items, rfl, h⟩
    · exact ⟨a :: before, x, after, rfl, h⟩

end Places

variable {customer customer' : Customer}

namespace Group

/-- The group does not spoil a result that is true so far. -/
def Keeps (customer : Customer) (g : Group) : Prop :=
  g.combinator = .and → g.admits customer = true

/-- The group holds, and none of the groups after it spoils that. -/
def Lasts (customer : Customer) (g : Group) (after : List Group) : Prop :=
  g.admits customer = true ∧ ∀ h ∈ after, h.Keeps customer

end Group

namespace Segment

/-- The result is true if it was and no later group spoils it, or if some later group makes it
true for good. -/
theorem foldGroups_eq_true_iff
    (later : List Group) (acc : Bool) :
    foldGroups customer acc later = true ↔
      (acc = true ∧ ∀ g ∈ later, g.Keeps customer) ∨
        ∃ before g after, later = before ++ g :: after ∧ g.combinator = .or ∧
          g.Lasts customer after := by
  induction later generalizing acc with
  | nil =>
      simp
  | cons g rest ih =>
      rw [foldGroups_cons, ih, List.forall_mem_cons, Group.Keeps, exists_split_cons_iff
        (P := fun _ (g : Group) after => g.combinator = .or ∧ g.Lasts customer after)]
      cases hcombinator : g.combinator with
      | and =>
          simp only [Combinator.join, Bool.and_eq_true, true_implies, reduceCtorEq, false_and,
            false_or, and_assoc]
      | or =>
          simp only [Combinator.join, Bool.or_eq_true, reduceCtorEq, false_implies, true_and,
            Group.Lasts]
          tauto

/-- Only the combinators and the results of the later groups matter. -/
theorem foldGroups_congr
    {later later' : List Group}
    (h : List.Forall₂ (fun g g' => g'.combinator = g.combinator ∧
      g'.admits customer' = g.admits customer) later later')
    (acc : Bool) :
    foldGroups customer' acc later' = foldGroups customer acc later := by
  induction h generalizing acc with
  | nil =>
      rfl
  | cons hg _ ih =>
      rw [foldGroups_cons, foldGroups_cons, hg.1, hg.2]
      exact ih _

theorem admits_iff_exists_lasts
    (s : Segment) :
    s.admits customer = true ↔
      ∃ before g after, s.groups = before ++ g :: after ∧
        (before.length = 0 ∨ g.combinator = .or) ∧ g.Lasts customer after := by
  rw [Segment.admits, foldGroups_eq_true_iff, groups, exists_split_cons_iff
    (P := fun n (g : Group) after => (n = 0 ∨ g.combinator = .or) ∧ g.Lasts customer after)]
  simp only [true_or, true_and, Nat.add_one_ne_zero, false_or]
  rfl

/-- Groups whose combinators and results agree, one by one. -/
theorem forall₂_of_map_eq
    {later later' : List Group}
    (hcombinators : later'.map Group.combinator = later.map Group.combinator)
    (hresults : later'.map (Group.admits customer') = later.map (Group.admits customer)) :
    List.Forall₂ (fun g g' => g'.combinator = g.combinator ∧
      g'.admits customer' = g.admits customer) later later' := by
  induction later generalizing later' with
  | nil =>
      rw [List.map_eq_nil_iff.mp hcombinators]
      exact .nil
  | cons g rest ih =>
      obtain ⟨g', rest', rfl, hcombinator, hrest⟩ := List.map_eq_cons_iff.mp hcombinators
      obtain ⟨hresult, hrests⟩ := List.cons.inj hresults
      exact .cons ⟨hcombinator, hresult⟩ (ih hrest hrests)

/-- A customer is in a segment exactly if some group holds that is the first one or is joined by
"or", and all groups after it hold that are joined by "and".  What a segment says of a customer
depends on the results of its groups and on how the later ones are joined, and on nothing
else. -/
theorem admits_iff_exists_start
    (s : Segment) (customer : Customer) :
    (s.admits customer = true ↔
      ∃ i : Fin s.groups.length,
        (i.val = 0 ∨ s.groups[i].combinator = .or) ∧ s.groups[i].admits customer = true ∧
          ∀ j : Fin s.groups.length, i < j → s.groups[j].combinator = .and →
            s.groups[j].admits customer = true) ∧
    ∀ (s' : Segment) (customer' : Customer),
      s'.later.map Group.combinator = s.later.map Group.combinator →
      s'.groups.map (Group.admits customer') = s.groups.map (Group.admits customer) →
      s'.admits customer' = s.admits customer := by
  constructor
  · rw [admits_iff_exists_lasts, exists_split_iff
      (P := fun n (g : Group) after => (n = 0 ∨ g.combinator = .or) ∧ g.Lasts customer after)]
    simp only [Group.Lasts, forall_mem_drop_iff]
    rfl
  · intro s' customer' hcombinators hresults
    obtain ⟨hfirst, hlater⟩ := List.cons.inj hresults
    rw [Segment.admits, Segment.admits, hfirst]
    exact foldGroups_congr (forall₂_of_map_eq hcombinators hlater) _

/-- The first group fails for want of a value, but the third one is joined by "or". -/
def overridden : Segment where
  first := ⟨default, .or, [.active (Condition.start default ⟨"x", "X", .text⟩)], none⟩
  later := [Group.empty .and default, Group.empty .or default, Group.empty .and default]

/-- The third group decides, also after the combinator of the first one was turned. -/
theorem admits_iff_exists_start_overridden :
    overridden.admits default = true ∧
      { overridden with first := overridden.first.turn }.admits (Customer.bare "q") = true := by
  obtain ⟨hclosed, hresults⟩ := admits_iff_exists_start overridden default
  have hadmits : overridden.admits default = true :=
    hclosed.mpr ⟨⟨2, by decide⟩, Or.inr rfl, rfl, by decide +kernel⟩
  exact ⟨hadmits, (hresults _ _ rfl rfl).trans hadmits⟩

end Segment
end Audience
