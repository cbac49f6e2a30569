/-!
# Comparison operators

The thirteen comparisons that a condition can make.  An operator has an identifier,
which is what stored segments hold, and a label for people.

**Results.**
* `Operator.mem_all`: the list of all operators misses none.
* `Operator.ofId?_id`: an identifier determines its operator.
-/

namespace Audience

/-- A comparison. -/
inductive Operator
  | equals
  | notEquals
  | contains
  | notContains
  | startsWith
  | endsWith
  | greaterThan
  | lessThan
  | greaterThanEquals
  | lessThanEquals
  | before
  | after
  | between
deriving DecidableEq

namespace Operator

/-- All operators, in the order in which they are listed. -/
def all : List Operator :=
  [equals, notEquals, contains, notContains, startsWith, endsWith, greaterThan, lessThan,
    greaterThanEquals, lessThanEquals, before, after, between]

theorem mem_all (op : Operator) : op ∈ all := by
  cases op <;> decide

/-- The identifier in stored segments. -/
def id : Operator → String
  | equals => "equals"
  | notEquals => "not_equals"
  | contains => "contains"
  | notContains => "not_contains"
  | startsWith => "starts_with"
  | endsWith => "ends_with"
  | greaterThan => "greater_than"
  | lessThan => "less_than"
  | greaterThanEquals => "greater_than_equals"
  | lessThanEquals => "less_than_equals"
  | before => "before"
  | after => "after"
  | between => "between"

/-- The label for people. -/
def label : Operator → String
  | equals => "Equals"
  | notEquals => "Does not equal"
  | contains => "Contains"
  | notContains => "Does not contain"
  | startsWith => "Starts with"
  | endsWith => "Ends with"
  | greaterThan => "Greater than"
  | lessThan => "Less than"
  | greaterThanEquals => "Greater than or equal"
  | lessThanEquals => "Less than or equal"
  | before => "Before"
  | after => "After"
  | between => "Between"

/-- The operator with an identifier. -/
def ofId? (s : String) : Option Operator := all.find? (·.id == s)

@[simp] theorem ofId?_id (op : Operator) : ofId? op.id = some op := by
  cases op <;> decide

/-- The one operator that takes two values. -/
def takesRange : Operator → Bool
  | between => true
  | _ => false

@[simp] theorem takesRange_iff (op : Operator) : op.takesRange = true ↔ op = between := by
  cases op <;> simp [takesRange]

end Operator
end Audience
