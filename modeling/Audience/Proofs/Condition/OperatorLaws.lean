import Audience.Proofs.Condition.EmptyRange

/-!
# The laws of the operators

What the operators of a field say of one attribute fits together: an operator and its negation never
agree, a text that is equal is at the front and at the end and so inside, a number or a date is
below, equal or above, and a range is what its two bounds say.

**Comparisons.**  Each law is first one of the comparison itself.  Numbers and dates are compared by
an ordering, so their laws are those of the three orderings; that nothing is in a crossed range
needs in addition that the order is transitive.

**Conditions.**  A condition asks with its operator and its values, and the attribute of the
customer is compared with them.  Where there is nothing to compare, or a bound is missing, all
operators say no, so there an operator and its negation do agree.

**Results.**
* `Comparison.textLaws_ofText`, `Comparison.numberLaws_ofNumber`, `Comparison.dateLaws_ofDate`: the
  laws of each kind of comparison.
* `Comparison.not_holds_numbers_of_crossed`, `Comparison.not_holds_dates_of_crossed`: nothing is in
  a crossed range.
* `Condition.operators_consistent`: the laws of conditions on fields of every kind.
-/

namespace Audience

namespace Comparison

/-- The laws of what the operators say of a text, compared with any text. -/
structure TextLaws (verdict : Operator → String → Bool) : Prop where
  notContains : ∀ e, verdict .notContains e = !verdict .contains e
  startsWith_of_equals : ∀ e, verdict .equals e = true → verdict .startsWith e = true
  endsWith_of_equals : ∀ e, verdict .equals e = true → verdict .endsWith e = true
  contains_of_startsWith : ∀ e, verdict .startsWith e = true → verdict .contains e = true
  contains_of_endsWith : ∀ e, verdict .endsWith e = true → verdict .contains e = true

/-- The laws of what the operators say of a number, compared with any number, and of whether it is
in any range. -/
structure NumberLaws (verdict : Operator → Binary64 → Bool)
    (within : Binary64 → Binary64 → Bool) : Prop where
  exactlyOne : ∀ x, [verdict .lessThan x, verdict .equals x, verdict .greaterThan x].count true = 1
  greaterThanEquals : ∀ x,
    verdict .greaterThanEquals x = (verdict .greaterThan x || verdict .equals x)
  lessThanEquals : ∀ x,
    verdict .lessThanEquals x = (verdict .lessThan x || verdict .equals x)
  between : ∀ low high,
    within low high = (verdict .greaterThanEquals low && verdict .lessThanEquals high)

/-- The laws of what the operators say of a date, compared with any date, and of whether it is in
any range. -/
structure DateLaws (verdict : Operator → Instant → Bool)
    (within : Instant → Instant → Bool) : Prop where
  exactlyOne : ∀ t, [verdict .before t, verdict .equals t, verdict .after t].count true = 1
  between : ∀ low high, within low high = (!verdict .before low && !verdict .after high)

section Texts

theorem ofLowercase_startsWith_iff
    (actual expected : List Char) :
    ofLowercase .startsWith actual expected = true ↔ expected <+: actual :=
  List.isPrefixOf_iff_prefix

theorem ofLowercase_endsWith_iff
    (actual expected : List Char) :
    ofLowercase .endsWith actual expected = true ↔ expected <:+ actual :=
  List.isSuffixOf_iff_suffix

theorem ofLowercase_contains_iff
    (actual expected : List Char) :
    ofLowercase .contains actual expected = true ↔ expected <:+: actual :=
  Text.occursIn_iff_isInfix expected actual

theorem ofLowercase_equals_iff
    (actual expected : List Char) :
    ofLowercase .equals actual expected = true ↔ actual = expected :=
  beq_iff_eq

/-- The laws of texts are those of being a prefix, a suffix and an infix, in lower case. -/
theorem textLaws_ofText
    (actual : String) :
    TextLaws fun op expected => ofText op actual expected where
  notContains := fun _ => rfl
  startsWith_of_equals := by
    intro expected h
    rw [ofText, ofLowercase_equals_iff] at h
    exact (ofLowercase_startsWith_iff _ _).mpr (h ▸ List.prefix_refl _)
  endsWith_of_equals := by
    intro expected h
    rw [ofText, ofLowercase_equals_iff] at h
    exact (ofLowercase_endsWith_iff _ _).mpr (h ▸ List.suffix_refl _)
  contains_of_startsWith := by
    intro expected h
    rw [ofText, ofLowercase_startsWith_iff] at h
    exact (ofLowercase_contains_iff _ _).mpr h.isInfix
  contains_of_endsWith := by
    intro expected h
    rw [ofText, ofLowercase_endsWith_iff] at h
    exact (ofLowercase_contains_iff _ _).mpr h.isInfix

end Texts

section Orders

theorem count_ofOrdering
    (below above : Operator) (hbelow : ∀ o, ofOrdering below o = (o == .lt))
    (habove : ∀ o, ofOrdering above o = (o == .gt)) (o : Ordering) :
    [ofOrdering below o, ofOrdering .equals o, ofOrdering above o].count true = 1 := by
  rw [hbelow, habove]
  cases o <;> rfl

theorem ofOrdering_greaterThanEquals
    (o : Ordering) :
    ofOrdering .greaterThanEquals o = (ofOrdering .greaterThan o || ofOrdering .equals o) := by
  cases o <;> rfl

theorem ofOrdering_lessThanEquals
    (o : Ordering) :
    ofOrdering .lessThanEquals o = (ofOrdering .lessThan o || ofOrdering .equals o) := by
  cases o <;> rfl

theorem numberLaws_ofNumber
    (actual : Binary64) (second : Option TypedValue) :
    NumberLaws (fun op x => ofNumber op actual x second)
      (fun low high => ofNumber .between actual low (some (.number high))) where
  exactlyOne := fun x =>
    count_ofOrdering .lessThan .greaterThan (fun _ => rfl) (fun _ => rfl) (actual.compareFolded x)
  greaterThanEquals := fun x => ofOrdering_greaterThanEquals (actual.compareFolded x)
  lessThanEquals := fun x => ofOrdering_lessThanEquals (actual.compareFolded x)
  between := fun _ _ => rfl

theorem dateLaws_ofDate
    (actual : Instant) (second : Option TypedValue) :
    DateLaws (fun op t => ofDate op actual t second)
      (fun low high => ofDate .between actual low (some (.date high))) where
  exactlyOne := fun t =>
    count_ofOrdering .before .after (fun _ => rfl) (fun _ => rfl) (actual.compare t)
  between := fun _ _ => rfl

/-- Nothing is in a range of numbers whose first bound is above the second one. -/
theorem not_holds_numbers_of_crossed
    {low high : Binary64}
    (h : holds .number .greaterThan (.number low) (.number high) none = true) :
    ¬ ∃ actual, holds .number .between actual (.number low) (some (.number high)) = true := by
  have hlt : high.foldedRank < low.foldedRank := Int.compare_eq_gt.mp (beq_iff_eq.mp h)
  rw [exists_holds_numbers_iff]
  exact Int.not_le.mpr hlt

/-- Nothing is in a range of dates whose first bound is after the second one. -/
theorem not_holds_dates_of_crossed
    {low high : Instant}
    (h : holds .date .after (.date low) (.date high) none = true) :
    ¬ ∃ actual, holds .date .between actual (.date low) (some (.date high)) = true := by
  have hlt : high.rank < low.rank := Int.compare_eq_gt.mp (beq_iff_eq.mp h)
  rw [exists_holds_dates_iff]
  exact Int.not_le.mpr hlt

end Orders

/-- An attribute and a value of the kind of the field are equal or not. -/
theorem holds_notEquals
    {kind : FieldKind} {actual value : TypedValue} (hactual : actual.kind = kind.valueKind)
    (hvalue : value.kind = kind.valueKind) (second : Option TypedValue) :
    holds kind .notEquals actual value second = !holds kind .equals actual value second := by
  cases kind <;> cases actual <;> cases hactual <;> cases value <;> cases hvalue <;> rfl

/-- A range without its second bound holds for nothing. -/
theorem holds_between_none
    (kind : FieldKind) (actual value : TypedValue) :
    holds kind .between actual value none = false := by
  unfold holds
  split <;> rfl

end Comparison

namespace Condition

variable {c : Condition} {customer : Customer}

/-- The condition on the same field with another operator and other values. -/
def asking (c : Condition) (op : Operator) (value : TypedValue) (second : Option TypedValue) :
    Condition :=
  { c with operator := op, value := some value, secondValue := second }

theorem admits_asking
    {actual : TypedValue} (h : customer.get? c.field = some actual) (op : Operator)
    (value : TypedValue) (second : Option TypedValue) :
    (c.asking op value second).admits customer =
      Comparison.holds c.kind op actual value second := by
  simp only [admits, asking, h]

theorem admits_of_kind_ne
    {actual : TypedValue} (h : customer.get? c.field = some actual)
    (hkind : actual.kind ≠ c.kind.valueKind) :
    c.admits customer = false := by
  unfold admits
  rw [h]
  cases c.value with
  | none =>
      rfl
  | some value =>
      exact Comparison.holds_of_kind_ne hkind c.operator value c.secondValue

/-- A condition that lacks a value its operator takes holds for nobody. -/
theorem holdsForNobody_of_incomplete
    (h : c.isComplete = false) :
    c.HoldsForNobody := by
  intro customer
  unfold admits
  cases customer.get? c.field with
  | none =>
      rfl
  | some actual =>
      cases hvalue : c.value with
      | none =>
          rfl
      | some value =>
          simp only [isComplete, hvalue, Option.isSome_some, Bool.true_and, Bool.or_eq_false_iff,
            Bool.not_eq_false', Operator.takesRange_iff, Option.isSome_eq_false_iff,
            Option.isNone_iff_eq_none] at h
          show Comparison.holds c.kind c.operator actual value c.secondValue = false
          rw [h.1, h.2]
          exact Comparison.holds_between_none c.kind actual value

/-- What the operators of a field say of a customer whose attribute is of its kind obeys the laws of
the kind, for all values of the kind, and nobody is in a crossed range.  If the attribute is missing
or of another kind, or the condition is not complete, every operator says no. -/
theorem operators_consistent
    (c : Condition) (customer : Customer) (second : Option TypedValue) :
    (∀ actual value, customer.get? c.field = some actual →
      actual.kind = c.kind.valueKind → value.kind = c.kind.valueKind →
        (c.asking .notEquals value second).admits customer =
          !(c.asking .equals value second).admits customer) ∧
    (c.kind = .text → ∀ actual, customer.get? c.field = some (.text actual) →
      Comparison.TextLaws fun op e => (c.asking op (.text e) second).admits customer) ∧
    (c.kind = .number →
      (∀ actual, customer.get? c.field = some (.number actual) →
        Comparison.NumberLaws (fun op x => (c.asking op (.number x) second).admits customer)
          (fun low high =>
            (c.asking .between (.number low) (some (.number high))).admits customer)) ∧
      ∀ low high, Comparison.holds .number .greaterThan (.number low) (.number high) none = true →
        (c.asking .between (.number low) (some (.number high))).HoldsForNobody) ∧
    (c.kind = .date →
      (∀ actual, customer.get? c.field = some (.date actual) →
        Comparison.DateLaws (fun op t => (c.asking op (.date t) second).admits customer)
          (fun low high => (c.asking .between (.date low) (some (.date high))).admits customer)) ∧
      ∀ low high, Comparison.holds .date .after (.date low) (.date high) none = true →
        (c.asking .between (.date low) (some (.date high))).HoldsForNobody) ∧
    (customer.get? c.field = none ∨
        (∃ actual, customer.get? c.field = some actual ∧ actual.kind ≠ c.kind.valueKind) ∨
        c.isComplete = false →
      c.admits customer = false) := by
  refine ⟨?_, ?_, ?_, ?_, ?_⟩
  · intro actual value hget hactual hvalue
    rw [admits_asking hget, admits_asking hget]
    exact Comparison.holds_notEquals hactual hvalue second
  · intro hkind actual hget
    simp only [admits_asking hget, hkind]
    exact Comparison.textLaws_ofText actual
  · intro hkind
    constructor
    · intro actual hget
      simp only [admits_asking hget, hkind]
      exact Comparison.numberLaws_ofNumber actual second
    · intro low high hcrossed
      rw [holdsForNobody_iff rfl]
      exact hkind ▸ Comparison.not_holds_numbers_of_crossed hcrossed
  · intro hkind
    constructor
    · intro actual hget
      simp only [admits_asking hget, hkind]
      exact Comparison.dateLaws_ofDate actual second
    · intro low high hcrossed
      rw [holdsForNobody_iff rfl]
      exact hkind ▸ Comparison.not_holds_dates_of_crossed hcrossed
  · rintro (hmissing | ⟨actual, hget, hkind⟩ | hincomplete)
    · exact admits_of_get?_eq_none hmissing
    · exact admits_of_kind_ne hget hkind
    · exact holdsForNobody_of_incomplete hincomplete customer

end Condition
end Audience
