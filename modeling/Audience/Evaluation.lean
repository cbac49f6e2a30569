import Audience.Comparison
import Audience.Customer
import Audience.Segment

/-!
# Who is in a segment

A condition holds for a customer if the customer has an attribute at its field that
compares with its values as its operator asks.  A missing attribute, a missing value and
an entry that was set aside make it false, for negated operators too.

**Groups** hold if all their entries do, so a group without entries always holds.

**Segments** combine their groups from left to right: the first group gives the result so
far, and each later group is joined to it by its own combinator.

**Results.**
* `Group.admits_nil`: a group without entries holds.
* `Segment.foldGroups_cons`: one step of the combination.
* `Condition.admits_of_get?_eq_none`: a missing attribute excludes.
-/

namespace Audience

namespace Condition

/-- The condition holds for a customer. -/
def admits (c : Condition) (customer : Customer) : Bool :=
  match customer.get? c.field, c.value with
  | some actual, some value =>
      Comparison.holds c.kind c.operator actual value c.secondValue
  | _, _ => false

theorem admits_of_get?_eq_none {c : Condition} {customer : Customer}
    (h : customer.get? c.field = none) : c.admits customer = false := by
  simp [Condition.admits, h]

end Condition

/-- The entry holds for a customer. -/
def Entry.admits (customer : Customer) : Entry → Bool
  | active c => c.admits customer
  | quarantined _ => false

/-- All entries of the group hold for a customer. -/
def Group.admits (customer : Customer) (g : Group) : Bool :=
  g.entries.all (Entry.admits customer)

@[simp] theorem Group.admits_nil (customer : Customer) (id : Uuid) (combinator : Combinator)
    (storedId : Option String) :
    Group.admits customer ⟨id, combinator, [], storedId⟩ = true := rfl

/-- Joins a result to the result so far. -/
def Combinator.join : Combinator → Bool → Bool → Bool
  | .and, acc, holds => acc && holds
  | .or, acc, holds => acc || holds

namespace Segment

/-- Joins later groups to the result so far. -/
def foldGroups (customer : Customer) : Bool → List Group → Bool
  | acc, [] => acc
  | acc, g :: rest => foldGroups customer (g.combinator.join acc (g.admits customer)) rest

@[simp] theorem foldGroups_nil (customer : Customer) (acc : Bool) :
    foldGroups customer acc [] = acc := rfl

@[simp] theorem foldGroups_cons (customer : Customer) (acc : Bool) (g : Group)
    (rest : List Group) :
    foldGroups customer acc (g :: rest) =
      foldGroups customer (g.combinator.join acc (g.admits customer)) rest := rfl

/-- The customer is in the segment. -/
def admits (s : Segment) (customer : Customer) : Bool :=
  foldGroups customer (s.first.admits customer) s.later

end Segment
end Audience
