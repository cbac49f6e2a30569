import Audience.Field
import Audience.Text.Lowercase
import Audience.Text.Search

/-!
# Comparing an attribute with the values of a condition

`Comparison.holds` decides whether an operator holds between an attribute and one or
two values.  The kind of the field picks the comparison; an attribute or value of any
other kind makes it false, for negated operators too.

**Text** is compared after both sides have been lower-cased.  **Options** of a select
field are compared as they are.  **Numbers** are compared by `Binary64.compareFolded`
and **dates** by `Instant.compare`; a range includes both of its bounds.

**Results.**
* `Comparison.ofOrdering_notEquals`, `Comparison.ofEquality_notEquals`: inequality is the
  negation of equality.
* `Comparison.holds_of_kind_ne`: values of a wrong kind never match.
-/

namespace Audience
namespace Comparison

/-- The operators on text, for texts in lower case. -/
def ofLowercase (op : Operator) (actual expected : List Char) : Bool :=
  match op with
  | .equals => actual == expected
  | .notEquals => actual != expected
  | .contains => Text.occursIn expected actual
  | .notContains => !Text.occursIn expected actual
  | .startsWith => expected.isPrefixOf actual
  | .endsWith => expected.isSuffixOf actual
  | _ => false

/-- The operators on text. -/
def ofText (op : Operator) (actual expected : String) : Bool :=
  ofLowercase op (Text.lowercase actual.toList) (Text.lowercase expected.toList)

/-- The operators that need equality only. -/
def ofEquality (op : Operator) (equal : Bool) : Bool :=
  match op with
  | .equals => equal
  | .notEquals => !equal
  | _ => false

/-- The operators that need the order of the attribute and one value. -/
def ofOrdering (op : Operator) (ordering : Ordering) : Bool :=
  match op with
  | .equals => ordering == .eq
  | .notEquals => ordering != .eq
  | .greaterThan => ordering == .gt
  | .after => ordering == .gt
  | .lessThan => ordering == .lt
  | .before => ordering == .lt
  | .greaterThanEquals => ordering != .lt
  | .lessThanEquals => ordering != .gt
  | _ => false

/-- The attribute is neither below the first bound nor above the second. -/
def inRange (toLow toHigh : Ordering) : Bool := toLow != .lt && toHigh != .gt

/-- The operators on numbers. -/
def ofNumber (op : Operator) (actual value : Binary64) (second : Option TypedValue) : Bool :=
  match op, second with
  | .between, some (.number high) =>
      inRange (actual.compareFolded value) (actual.compareFolded high)
  | .between, _ => false
  | op, _ => ofOrdering op (actual.compareFolded value)

/-- The operators on dates. -/
def ofDate (op : Operator) (actual value : Instant) (second : Option TypedValue) : Bool :=
  match op, second with
  | .between, some (.date high) => inRange (actual.compare value) (actual.compare high)
  | .between, _ => false
  | op, _ => ofOrdering op (actual.compare value)

/-- The operator holds between an attribute and the values of a condition. -/
def holds (kind : FieldKind) (op : Operator) (actual value : TypedValue)
    (second : Option TypedValue) : Bool :=
  match kind, actual, value with
  | .text, .text a, .text e => ofText op a e
  | .select, .text a, .text e => ofEquality op (a == e)
  | .boolean, .boolean a, .boolean e => ofEquality op (a == e)
  | .number, .number a, .number low => ofNumber op a low second
  | .date, .date a, .date low => ofDate op a low second
  | _, _, _ => false

@[simp] theorem ofEquality_notEquals (equal : Bool) :
    ofEquality .notEquals equal = !ofEquality .equals equal := rfl

@[simp] theorem ofOrdering_notEquals (ordering : Ordering) :
    ofOrdering .notEquals ordering = !ofOrdering .equals ordering := rfl

theorem holds_of_kind_ne {kind : FieldKind} {actual : TypedValue}
    (h : actual.kind ≠ kind.valueKind) (op : Operator) (value : TypedValue)
    (second : Option TypedValue) : holds kind op actual value second = false := by
  cases kind <;> cases actual <;> simp_all [holds, FieldKind.valueKind, TypedValue.kind]

end Comparison
end Audience
