import Audience.Evaluation
import Audience.Proofs.Segment.Loading
import Mathlib.Data.List.Forall2

/-!
# Evaluation is monotone

Groups are joined by "and" and "or", and their entries by "and"; nothing is negated.  So if
each entry of one segment implies the entry at the same place of another one, and no "or" of
the first segment is an "and" of the other one, then the other segment admits every customer
that the first one admits.

**Customers.**  The two segments may be asked about two customers.  So the same argument
compares what one segment says of two customers.

**Loads.**  Two loads of one stored segment agree in their groups and combinators, so they can
be compared condition by condition.

**Results.**
* `Combinator.join_mono`: one step of the combination is monotone.
* `Segment.foldGroups_mono`: so is the combination of any later groups.
* `Segment.admits_mono`: so is the whole evaluation.
* `StoredSegment.admits_load_of_implies`: one load admits every customer that another admits.
-/

namespace Audience

section Monotone

variable {customer customer' : Customer}

/-- Joining is monotone in both results, and "or" joins to a greater result than "and". -/
theorem Combinator.join_mono
    {combinator combinator' : Combinator} {acc acc' holds holds' : Bool}
    (hcombinator : combinator = .or → combinator' = .or)
    (hacc : acc = true → acc' = true) (hholds : holds = true → holds' = true)
    (h : combinator.join acc holds = true) :
    combinator'.join acc' holds' = true := by
  cases combinator with
  | and =>
      obtain ⟨ha, hb⟩ := (Bool.and_eq_true _ _).mp h
      cases combinator' with
      | and => exact (Bool.and_eq_true _ _).mpr ⟨hacc ha, hholds hb⟩
      | or => exact (Bool.or_eq_true _ _).mpr (Or.inl (hacc ha))
  | or =>
      rw [hcombinator rfl]
      rcases (Bool.or_eq_true _ _).mp h with ha | hb
      · exact (Bool.or_eq_true _ _).mpr (Or.inl (hacc ha))
      · exact (Bool.or_eq_true _ _).mpr (Or.inr (hholds hb))

/-- The first entry holds only if the second one does. -/
def Entry.Implies (customer : Customer) (e e' : Entry) : Prop :=
  e.admits customer = true → e'.admits customer = true

/-- The groups are joined alike, and the first one holds only if the second one does. -/
structure Group.Implies (customer : Customer) (g g' : Group) : Prop where
  combinator : g'.combinator = g.combinator
  admits : g.admits customer = true → g'.admits customer = true

theorem Entry.all_admits_mono
    {entries entries' : List Entry}
    (h : List.Forall₂ (fun e e' => e.admits customer = true → e'.admits customer' = true)
      entries entries')
    (hall : entries.all (Entry.admits customer) = true) :
    entries'.all (Entry.admits customer') = true := by
  induction h with
  | nil =>
      rfl
  | cons hentry _ ih =>
      rw [List.all_cons, Bool.and_eq_true] at hall ⊢
      exact ⟨hentry hall.1, ih hall.2⟩

/-- A greater result so far and greater later groups give a greater result. -/
theorem Segment.foldGroups_mono
    {later later' : List Group}
    (h : List.Forall₂ (fun g g' => (g.combinator = .or → g'.combinator = .or) ∧
      (g.admits customer = true → g'.admits customer' = true)) later later')
    {acc acc' : Bool} (hacc : acc = true → acc' = true)
    (hfold : foldGroups customer acc later = true) :
    foldGroups customer' acc' later' = true := by
  induction h generalizing acc acc' with
  | nil =>
      exact hacc hfold
  | cons hgroup _ ih =>
      rw [foldGroups_cons] at hfold ⊢
      exact ih (Combinator.join_mono hgroup.1 hacc hgroup.2) hfold

/-- If each group that is joined by "or" in the first segment is so in the second one, and each
group that holds for the one customer in the first segment holds for the other one in the second,
then so do the segments. -/
theorem Segment.admits_mono
    {s s' : Segment}
    (h : List.Forall₂ (fun g g' => (g.combinator = .or → g'.combinator = .or) ∧
      (g.admits customer = true → g'.admits customer' = true)) s.groups s'.groups)
    (hs : s.admits customer = true) :
    s'.admits customer' = true := by
  cases h with
  | cons hfirst hlater =>
      exact foldGroups_mono hlater hfirst.2 hs

end Monotone

section Loads

variable {schema schema' : Schema} {customer : Customer}

theorem Group.implies_load
    (h : ∀ (raw : StoredCondition) (ids ids' : IdSource), Entry.Implies customer
      (Entry.ofLoad (raw.load schema ids).1) (Entry.ofLoad (raw.load schema' ids').1))
    (raw : StoredGroup) (ids ids' : IdSource) :
    Group.Implies customer (raw.load schema ids).1 (raw.load schema' ids').1 := by
  obtain ⟨id, rest, hload, _⟩ := StoredGroup.load_group schema raw ids
  obtain ⟨id', rest', hload', _⟩ := StoredGroup.load_group schema' raw ids'
  rw [hload, hload']
  constructor
  · rfl
  · refine Entry.all_admits_mono (forall₂_of_common ?_
      (StoredCondition.forall₂_loadAll schema id raw.conditions rest)
      (StoredCondition.forall₂_loadAll schema' id' raw.conditions rest'))
    rintro c _ _ ⟨ids₁, rfl⟩ ⟨ids₂, rfl⟩
    exact h c ids₁ ids₂

/-- If each condition holds as one load takes it only if it holds as another load does, then
the other load admits every customer that the first one admits. -/
theorem StoredSegment.admits_load_of_implies
    (h : ∀ (raw : StoredCondition) (ids ids' : IdSource), Entry.Implies customer
      (Entry.ofLoad (raw.load schema ids).1) (Entry.ofLoad (raw.load schema' ids').1))
    {stored : StoredSegment} {ids ids' : IdSource}
    (hadmits : (stored.load schema ids).1.segment.admits customer = true) :
    (stored.load schema' ids').1.segment.admits customer = true := by
  by_cases hne : stored.groups = []
  · -- A document without groups admits nobody under any schema.
    obtain ⟨groups⟩ := stored
    obtain rfl : groups = [] := hne
    cases hadmits
  · refine Segment.admits_mono (forall₂_of_common ?_ (forall₂_load schema hne ids)
      (forall₂_load schema' hne ids')) hadmits
    rintro raw _ _ ⟨ids₁, rfl⟩ ⟨ids₂, rfl⟩
    obtain ⟨hcombinator, hholds⟩ := Group.implies_load h raw ids₁ ids₂
    exact ⟨hcombinator.trans, hholds⟩

end Loads

end Audience
