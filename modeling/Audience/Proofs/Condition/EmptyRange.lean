import Audience.Evaluation
import Audience.Proofs.Comparison
import Audience.Proofs.Condition.Composed
import Audience.Proofs.Value

/-!
# Ranges that hold for nobody

A segment lists its ranges whose bounds cross, so that they can be pointed out: they hold for
no customer.

**Well-formed ranges.**  They have two numbers or two dates as their bounds.  A customer whose
attribute is the first bound is in the range if anybody is, so the list is to be compared with
the order in which attributes are compared with bounds.

**Zeros.**  Both orders agree on dates, and on all pairs of numbers but one: the range from the
positive zero to the negative one is listed, although it holds for customers with a zero.

**Results.**
* `Condition.bounds_of_wellFormed`: the bounds of a well-formed range.
* `Condition.isEmptyRange_iff_of_bounds`: which of these are listed.
* `Condition.isEmptyRange_exact`: the list, compared with the ranges that hold for nobody.
-/

namespace Audience

namespace Condition

/-- A range with both of its bounds. -/
def IsRange (c : Condition) : Prop := c.operator = .between ∧ c.isComplete = true

instance (c : Condition) : Decidable c.IsRange :=
  inferInstanceAs (Decidable (_ ∧ _))

/-- There is no customer for whom the condition holds. -/
def HoldsForNobody (c : Condition) : Prop :=
  ∀ customer : Customer, c.admits customer = false

/-- The bounds are the positive and the negative zero, in this order. -/
def CrossesAtZero (c : Condition) : Prop :=
  c.value = some (.number (.zero false)) ∧ c.secondValue = some (.number (.zero true))

instance (c : Condition) : Decidable c.CrossesAtZero :=
  inferInstanceAs (Decidable (_ ∧ _))

/-- The bounds are two numbers on a field of numbers, or two dates on a field of dates. -/
inductive Bounds (c : Condition) : Prop
  | numbers {low high : Binary64} :
      c.kind = .number →
      c.value = some (.number low) →
      c.secondValue = some (.number high) →
      Bounds c
  | dates {low high : Instant} :
      c.kind = .date →
      c.value = some (.date low) →
      c.secondValue = some (.date high) →
      Bounds c

theorem exists_bounds_of_isRange
    {c : Condition} (h : c.IsRange) :
    ∃ low high, c.value = some low ∧ c.secondValue = some high := by
  obtain ⟨hop, hcomplete⟩ := h
  simp only [isComplete, hop, Operator.takesRange, Bool.not_true, Bool.false_or,
    Bool.and_eq_true, Option.isSome_iff_exists] at hcomplete
  obtain ⟨⟨low, hlow⟩, high, hhigh⟩ := hcomplete
  exact ⟨low, high, hlow, hhigh⟩

/-- Only fields of numbers and of dates offer ranges, and their values are numbers and dates. -/
theorem bounds_of_wellFormed
    {schema : Schema} {c : Condition} (hc : c.WellFormed schema) (hrange : c.IsRange) :
    c.Bounds := by
  obtain ⟨f, _, hfits⟩ := hc
  obtain ⟨low, high, hlow, hhigh⟩ := exists_bounds_of_isRange hrange
  have hkind := hfits.kind
  have hallows := hfits.operator
  obtain ⟨hlowKind, _⟩ := (f.check_eq_ok_iff low).mp (hfits.value low hlow)
  obtain ⟨hhighKind, _⟩ := (f.check_eq_ok_iff high).mp (hfits.secondValue high hhigh)
  rw [hrange.1, Field.allows, Field.operators] at hallows
  cases htype : f.type with
  | text | boolean | select =>
      rw [htype] at hallows
      cases hallows
  | number =>
      rw [htype] at hkind hlowKind hhighKind
      obtain ⟨low, rfl⟩ := TypedValue.exists_eq_number hlowKind
      obtain ⟨high, rfl⟩ := TypedValue.exists_eq_number hhighKind
      exact .numbers hkind hlow hhigh
  | date =>
      rw [htype] at hkind hlowKind hhighKind
      obtain ⟨low, rfl⟩ := TypedValue.exists_eq_date hlowKind
      obtain ⟨high, rfl⟩ := TypedValue.exists_eq_date hhighKind
      exact .dates hkind hlow hhigh

/-- A condition with a value holds for some customer exactly if it holds for some attribute. -/
theorem holdsForNobody_iff
    {c : Condition} {value : TypedValue} (h : c.value = some value) :
    c.HoldsForNobody ↔
      ¬ ∃ actual, Comparison.holds c.kind c.operator actual value c.secondValue = true := by
  constructor
  · rintro hnobody ⟨actual, hholds⟩
    have hadmits := hnobody ((Customer.bare "").set c.field actual)
    rw [admits, Customer.get?_set_self, h] at hadmits
    exact Bool.false_ne_true (hadmits.symm.trans hholds)
  · intro hnone customer
    unfold admits
    rw [h]
    cases customer.get? c.field with
    | none =>
        rfl
    | some actual =>
        exact Bool.eq_false_iff.mpr fun hholds => hnone ⟨actual, hholds⟩

theorem isEmptyRange_eq_boundsCross
    {c : Condition} {low high : TypedValue} (hop : c.operator = .between)
    (hlow : c.value = some low) (hhigh : c.secondValue = some high) :
    c.isEmptyRange = boundsCross low high := by
  simp [isEmptyRange, hlow, hhigh, hop, Operator.takesRange]

theorem isRange_of_isEmptyRange
    {c : Condition} (h : c.isEmptyRange = true) :
    c.IsRange := by
  unfold isEmptyRange at h
  split at h
  · next low high hlow hhigh =>
      rw [Bool.and_eq_true, Operator.takesRange_iff] at h
      exact ⟨h.1, by simp [isComplete, hlow, hhigh]⟩
  · cases h

/-- A range of numbers or dates is listed if it holds for nobody, or crosses at zero. -/
theorem isEmptyRange_iff_of_bounds
    {c : Condition} (hop : c.operator = .between) (h : c.Bounds) :
    c.isEmptyRange = true ↔ c.HoldsForNobody ∨ c.CrossesAtZero := by
  cases h with
  | @numbers low high hkind hlow hhigh =>
      have hcrossed : c.isEmptyRange = true ↔ high.rank < low.rank := by
        rw [isEmptyRange_eq_boundsCross hop hlow hhigh]
        exact beq_iff_eq.trans Int.compare_eq_gt
      have hnobody : c.HoldsForNobody ↔ high.foldedRank < low.foldedRank := by
        rw [holdsForNobody_iff hlow, hkind, hop, hhigh, Comparison.exists_holds_numbers_iff,
          Int.not_le]
      have hzero : c.CrossesAtZero ↔ high = .zero true ∧ low = .zero false := by
        rw [CrossesAtZero, hlow, hhigh]
        simp [and_comm]
      rw [hcrossed, hnobody, hzero, Binary64.foldedRank_lt_iff]
      constructor
      · intro hlt
        by_cases hzeros : high = .zero true ∧ low = .zero false
        · exact Or.inr hzeros
        · exact Or.inl ⟨hlt, hzeros⟩
      · rintro (⟨hlt, _⟩ | ⟨rfl, rfl⟩)
        · exact hlt
        · decide
  | @dates low high hkind hlow hhigh =>
      have hcrossed : c.isEmptyRange = true ↔ high.rank < low.rank := by
        rw [isEmptyRange_eq_boundsCross hop hlow hhigh]
        exact beq_iff_eq.trans Int.compare_eq_gt
      have hnobody : c.HoldsForNobody ↔ high.rank < low.rank := by
        rw [holdsForNobody_iff hlow, hkind, hop, hhigh, Comparison.exists_holds_dates_iff,
          Int.not_le]
      have hzero : ¬ c.CrossesAtZero := by
        rintro ⟨hvalue, _⟩
        cases hlow.symm.trans hvalue
      rw [hcrossed, hnobody, or_iff_left hzero]

/-- A range that crosses at zero holds for the customers with a zero. -/
theorem not_holdsForNobody_of_crossesAtZero
    {c : Condition} (hop : c.operator = .between) (h : c.Bounds) (hzero : c.CrossesAtZero) :
    ¬ c.HoldsForNobody := by
  obtain ⟨hlow, hhigh⟩ := hzero
  have hkind : c.kind = .number := by
    cases h with
    | numbers hkind _ _ => exact hkind
    | dates _ hvalue _ => cases hlow.symm.trans hvalue
  rw [holdsForNobody_iff hlow, hkind, hop, hhigh, Comparison.exists_holds_numbers_iff,
    Decidable.not_not]
  decide

/-- The list of empty ranges is exact but for the ranges that cross at zero: a well-formed range
with both bounds is on it exactly if it holds for no customer whatsoever or crosses at zero, and
in the latter case it does hold for some customer. -/
theorem isEmptyRange_exact
    (schema : Schema) (s : Segment) [DecidablePred HoldsForNobody] :
    (∀ c : Condition, c.WellFormed schema → c.IsRange →
      (c.isEmptyRange = true ↔ c.HoldsForNobody ∨ c.CrossesAtZero) ∧
        (c.CrossesAtZero → ¬ c.HoldsForNobody)) ∧
    ((∀ c ∈ s.groups.flatMap Group.conditions, c.IsRange → ∃ schema, c.WellFormed schema) →
      s.emptyRanges = ((s.groups.flatMap Group.conditions).filter fun c =>
        c.IsRange ∧ (c.HoldsForNobody ∨ c.CrossesAtZero)).map Condition.id) := by
  constructor
  · intro c hc hrange
    have hbounds := bounds_of_wellFormed hc hrange
    exact ⟨isEmptyRange_iff_of_bounds hrange.1 hbounds,
      not_holdsForNobody_of_crossesAtZero hrange.1 hbounds⟩
  · intro hs
    unfold Segment.emptyRanges
    congr 1
    refine List.filter_congr ?_
    intro c hc
    by_cases hrange : c.IsRange
    · obtain ⟨schema, hwell⟩ := hs c hc hrange
      have hexact := isEmptyRange_iff_of_bounds hrange.1 (bounds_of_wellFormed hwell hrange)
      rw [Bool.eq_iff_iff, hexact, decide_eq_true_iff, and_iff_right hrange]
    · rw [Bool.eq_iff_iff, decide_eq_true_iff]
      constructor
      · intro hempty
        exact absurd (isRange_of_isEmptyRange hempty) hrange
      · rintro ⟨hrange', _⟩
        exact absurd hrange' hrange

/-- A range of numbers on the field "x". -/
def numbersBetween (low high : Binary64) : Condition where
  id := default
  field := "x"
  kind := .number
  operator := .between
  value := some (.number low)
  secondValue := some (.number high)

theorem wellFormed_numbersBetween
    {low high : Binary64} (hlow : low.isFinite = true) (hhigh : high.isFinite = true) :
    (numbersBetween low high).WellFormed (Schema.single "x" .number) := by
  have haccepts : ∀ x : Binary64, x.isFinite = true →
      Field.Accepts ⟨"x", "x", .number⟩ (some (.number x)) := by
    intro x hx
    rw [Field.accepts_some_iff, Field.check_eq_ok_iff]
    exact ⟨rfl, if_pos hx⟩
  exact ⟨⟨"x", "x", .number⟩, rfl, rfl, rfl, haccepts low hlow, haccepts high hhigh, fun _ => rfl⟩

/-- The range from the least positive number down to zero. -/
def leastAndZero : Condition := numbersBetween (.ofMagnitude false 1) (.zero false)

/-- No customer is between the least positive number and zero. -/
theorem isEmptyRange_exact_leastAndZero :
    leastAndZero.WellFormed (Schema.single "x" .number) ∧ leastAndZero.IsRange ∧
      leastAndZero.HoldsForNobody ∧
      ∀ [DecidablePred HoldsForNobody], ([leastAndZero].filter fun c =>
        c.IsRange ∧ (c.HoldsForNobody ∨ c.CrossesAtZero)).map Condition.id = [default] := by
  have hwell : leastAndZero.WellFormed (Schema.single "x" .number) :=
    wellFormed_numbersBetween (by decide +kernel) (by decide +kernel)
  have hrange : leastAndZero.IsRange := ⟨rfl, rfl⟩
  have hempty : leastAndZero.isEmptyRange = true := by
    decide +kernel
  have hexact := fun [DecidablePred HoldsForNobody] =>
    isEmptyRange_exact (Schema.single "x" .number)
      ⟨⟨default, .and, [.active leastAndZero], none⟩, []⟩
  have hnobody : leastAndZero.HoldsForNobody := by
    have _ : DecidablePred HoldsForNobody := fun _ => Classical.propDecidable _
    rcases (hexact.1 leastAndZero hwell hrange).1.mp hempty with hnobody | hzero
    · exact hnobody
    · exact absurd hzero (by decide +kernel)
  refine ⟨hwell, hrange, hnobody, ?_⟩
  intro _
  refine (hexact.2 ?_).symm.trans (by decide +kernel)
  intro c hc _
  rw [List.mem_singleton.mp hc]
  exact ⟨_, hwell⟩

/-- The range from the positive zero to the negative one is listed as empty, although customers
with a zero are in it. -/
theorem not_isEmptyRange_exact :
    ¬ ∀ (schema : Schema) (c : Condition), c.WellFormed schema → c.IsRange →
      (c.isEmptyRange = true ↔ c.HoldsForNobody) := by
  intro h
  have hwell : (numbersBetween (.zero false) (.zero true)).WellFormed
      (Schema.single "x" .number) :=
    wellFormed_numbersBetween (by decide +kernel) (by decide +kernel)
  have hnobody := (h _ _ hwell ⟨rfl, rfl⟩).mp (by decide +kernel)
  have hzero := hnobody ((Customer.bare "").set "x" (.number (.zero false)))
  exact absurd hzero (by decide +kernel)

end Condition
end Audience
