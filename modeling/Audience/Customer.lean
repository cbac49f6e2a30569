import Audience.Value

/-!
# Customers

A customer has an identifier and attributes: values at field identifiers, kept in
order.  A field without an attribute is absent, which is not the same as any value.

**Documents.**  A customer is written as an object with the keys `customerId` and
`attributes`.  When it is read the attributes may be missing.

**Results.**
* `Customer.get?_set_self`, `Customer.get?_set_of_ne`: an attribute is set at its field only.
-/

namespace Audience

/-- A customer with attributes at field identifiers. -/
structure Customer where
  id : String
  attributes : List (String × TypedValue)
  ordered : Keyed.Ordered attributes

namespace Customer

instance : DecidableEq Customer := fun a b =>
  decidable_of_iff (a.id = b.id ∧ a.attributes = b.attributes) (by
    cases a
    cases b
    simp)

/-- A customer without attributes. -/
def bare (id : String) : Customer := ⟨id, [], Keyed.ordered_nil⟩

instance : Inhabited Customer := ⟨bare ""⟩

/-- The attribute at a field. -/
def get? (c : Customer) (field : String) : Option TypedValue :=
  Keyed.find? field c.attributes

/-- Sets the attribute at a field. -/
def set (field : String) (v : TypedValue) (c : Customer) : Customer where
  id := c.id
  attributes := Keyed.insert field v c.attributes
  ordered := Keyed.ordered_insert field v c.ordered

@[simp] theorem get?_bare (id field : String) : (bare id).get? field = none := rfl

@[simp] theorem set_id (field : String) (v : TypedValue) (c : Customer) :
    (c.set field v).id = c.id := rfl

@[simp] theorem get?_set_self (field : String) (v : TypedValue) (c : Customer) :
    (c.set field v).get? field = some v :=
  Keyed.find?_insert_self field v c.attributes

theorem get?_set_of_ne {field other : String} (h : other ≠ field) (v : TypedValue)
    (c : Customer) : (c.set field v).get? other = c.get? other :=
  Keyed.find?_insert_of_ne h v c.attributes

/-- The outside form of a customer. -/
def json (c : Customer) : Json :=
  .object [
    ("attributes", .object (c.attributes.map fun (field, v) => (field, v.json))),
    ("customerId", .text c.id)]

/-- Sets the attributes of the members of a document, the last of equal keys winning. -/
def setAll? (c : Customer) : List (String × Json.Document) → Option Customer
  | [] => some c
  | (field, d) :: rest => do
      let v ← TypedValue.ofDocument? d
      (c.set field v).setAll? rest

/-- Reads a customer from a document. -/
def ofDocument? (d : Json.Document) : Option Customer :=
  match d.slots ["customerId", "attributes"] with
  | some [some id, attributes] => do
      let id ← id.string?
      match attributes with
      | none => return bare id
      | some attributes => (bare id).setAll? (← attributes.members?)
  | _ => none

/-- Reads a customer from the text of a document. -/
def parse? (s : String) : Option Customer := (Json.Document.parse? s).bind ofDocument?

end Customer
end Audience
