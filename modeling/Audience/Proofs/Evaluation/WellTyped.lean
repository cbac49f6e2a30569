import Audience.Proofs.Condition.EmptyRange

/-!
# Well-typed customers

A customer is well typed under a schema if each attribute is at a field of the schema, has the kind
of that field and is finite.

**Comparisons.**  A condition that is well formed and complete has values of the kind that it
compares.  So for a well-typed customer with its attribute the contents are compared, and the
condition is never false because an attribute or a value is of another kind.

**Results.**
* `Comparison.compared_holds`: if all kinds agree, then contents are compared.
* `Condition.comparesContents_of_wellTyped`: under one schema all kinds agree.
-/

namespace Audience

namespace Comparison

/-- The contents of an attribute and of the values of a condition are compared, with a result.  There
is no case for contents that the kind of the field does not compare. -/
inductive Compared :
    FieldKind → Operator → TypedValue → TypedValue → Option TypedValue → Bool → Prop
  | text (op : Operator) (a e : String) (second : Option TypedValue) :
      Compared .text op (.text a) (.text e) second (ofText op a e)
  | select (op : Operator) (a e : String) (second : Option TypedValue) :
      Compared .select op (.text a) (.text e) second (ofEquality op (a == e))
  | boolean (op : Operator) (a e : Bool) (second : Option TypedValue) :
      Compared .boolean op (.boolean a) (.boolean e) second (ofEquality op (a == e))
  | number {op : Operator} (hop : op ≠ .between) (a e : Binary64) (second : Option TypedValue) :
      Compared .number op (.number a) (.number e) second (ofOrdering op (a.compareFolded e))
  | numberRange (a low high : Binary64) :
      Compared .number .between (.number a) (.number low) (some (.number high))
        (inRange (a.compareFolded low) (a.compareFolded high))
  | date {op : Operator} (hop : op ≠ .between) (a e : Instant) (second : Option TypedValue) :
      Compared .date op (.date a) (.date e) second (ofOrdering op (a.compare e))
  | dateRange (a low high : Instant) :
      Compared .date .between (.date a) (.date low) (some (.date high))
        (inRange (a.compare low) (a.compare high))

theorem ofNumber_of_ne
    {op : Operator} (hop : op ≠ .between) (a e : Binary64) (second : Option TypedValue) :
    ofNumber op a e second = ofOrdering op (a.compareFolded e) := by
  cases op with
  | between => exact absurd rfl hop
  | _ => rfl

theorem ofDate_of_ne
    {op : Operator} (hop : op ≠ .between) (a e : Instant) (second : Option TypedValue) :
    ofDate op a e second = ofOrdering op (a.compare e) := by
  cases op with
  | between => exact absurd rfl hop
  | _ => rfl

/-- If the attribute, the value and the second value of a range are of the kind of the field, then
their contents are compared. -/
theorem compared_holds
    {kind : FieldKind} {op : Operator} {actual value : TypedValue} {second : Option TypedValue}
    (hactual : actual.kind = kind.valueKind) (hvalue : value.kind = kind.valueKind)
    (hsecond : op = .between → ∃ high, second = some high ∧ high.kind = kind.valueKind) :
    Compared kind op actual value second (holds kind op actual value second) := by
  cases kind with
  | text =>
      obtain ⟨a, rfl⟩ := TypedValue.exists_eq_text hactual
      obtain ⟨e, rfl⟩ := TypedValue.exists_eq_text hvalue
      exact .text op a e second
  | select =>
      obtain ⟨a, rfl⟩ := TypedValue.exists_eq_text hactual
      obtain ⟨e, rfl⟩ := TypedValue.exists_eq_text hvalue
      exact .select op a e second
  | boolean =>
      obtain ⟨a, rfl⟩ := TypedValue.exists_eq_boolean hactual
      obtain ⟨e, rfl⟩ := TypedValue.exists_eq_boolean hvalue
      exact .boolean op a e second
  | number =>
      obtain ⟨a, rfl⟩ := TypedValue.exists_eq_number hactual
      obtain ⟨low, rfl⟩ := TypedValue.exists_eq_number hvalue
      by_cases hop : op = .between
      · obtain ⟨high, rfl, hhigh⟩ := hsecond hop
        obtain ⟨high, rfl⟩ := TypedValue.exists_eq_number hhigh
        subst hop
        exact .numberRange a low high
      · rw [holds, ofNumber_of_ne hop]
        exact .number hop a low second
  | date =>
      obtain ⟨a, rfl⟩ := TypedValue.exists_eq_date hactual
      obtain ⟨low, rfl⟩ := TypedValue.exists_eq_date hvalue
      by_cases hop : op = .between
      · obtain ⟨high, rfl, hhigh⟩ := hsecond hop
        obtain ⟨high, rfl⟩ := TypedValue.exists_eq_date hhigh
        subst hop
        exact .dateRange a low high
      · rw [holds, ofDate_of_ne hop]
        exact .date hop a low second

end Comparison

/-- Every attribute is at a field of the schema, has its kind, and is finite if it is a number. -/
def Customer.WellTyped (schema : Schema) (customer : Customer) : Prop :=
  ∀ key v, customer.get? key = some v →
    ∃ f, schema.field? key = some f ∧ v.kind = f.type.valueKind ∧ v.Finite

namespace Condition

/-- The attribute and the values are of the kind that the condition compares, and whether it holds
is the result of comparing their contents. -/
def ComparesContents (c : Condition) (customer : Customer) : Prop :=
  ∃ actual value,
    customer.get? c.field = some actual ∧ c.value = some value ∧
    actual.kind = c.kind.valueKind ∧ value.kind = c.kind.valueKind ∧
    (∀ second, c.secondValue = some second → second.kind = c.kind.valueKind) ∧
    Comparison.Compared c.kind c.operator actual value c.secondValue (c.admits customer)

/-- A well-formed and complete condition compares contents for every well-typed customer that has
its attribute. -/
theorem comparesContents_of_wellTyped
    {schema : Schema} {c : Condition} {customer : Customer}
    (hcustomer : customer.WellTyped schema) (hc : c.WellFormed schema)
    (hcomplete : c.isComplete = true) (hget : (customer.get? c.field).isSome = true) :
    c.ComparesContents customer := by
  obtain ⟨f, hf, hfits⟩ := hc
  have hfield : schema.field? c.field = some f := by
    rw [Schema.field?_eq_some_iff, ← Schema.field_eq_ok_iff]
    exact hf
  have hkind : c.kind.valueKind = f.type.valueKind := congrArg FieldKind.valueKind hfits.kind
  obtain ⟨actual, hactual⟩ := Option.isSome_iff_exists.mp hget
  obtain ⟨g, hg, hactualKind, _⟩ := hcustomer c.field actual hactual
  obtain rfl : f = g := Option.some.inj (hfield.symm.trans hg)
  have hboth := hcomplete
  rw [isComplete, Bool.and_eq_true] at hboth
  obtain ⟨value, hvalue⟩ := Option.isSome_iff_exists.mp hboth.1
  have hvalueKind := ((f.check_eq_ok_iff value).mp (hfits.value value hvalue)).1
  have hsecondKind : ∀ second, c.secondValue = some second →
      second.kind = c.kind.valueKind := by
    intro second hsecond
    rw [hkind]
    exact ((f.check_eq_ok_iff second).mp (hfits.secondValue second hsecond)).1
  have hrange : c.operator = .between →
      ∃ high, c.secondValue = some high ∧ high.kind = c.kind.valueKind := by
    intro hop
    obtain ⟨_, high, _, hhigh⟩ := exists_bounds_of_isRange ⟨hop, hcomplete⟩
    exact ⟨high, hhigh, hsecondKind high hhigh⟩
  rw [← hkind] at hactualKind hvalueKind
  have hadmits : c.admits customer =
      Comparison.holds c.kind c.operator actual value c.secondValue := by
    rw [admits, hactual, hvalue]
  refine ⟨actual, value, hactual, hvalue, hactualKind, hvalueKind, hsecondKind, ?_⟩
  rw [hadmits]
  exact Comparison.compared_holds hactualKind hvalueKind hrange

end Condition
end Audience
