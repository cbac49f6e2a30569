import Audience.Customer.Coercion
import Audience.Json.Slots

/-!
# Lists of plain customers

A customer file is an array of objects with the keys `customerId` and `attributes`, whose
attributes are plain values.  The attributes may be missing.
-/

namespace Audience

open Json (Document)

/-- A customer whose attributes are plain values. -/
structure PlainCustomer where
  id : String
  attributes : List (String × Json)
deriving DecidableEq

namespace PlainCustomer

/-- How deep a plain value may be nested. -/
def valueLevels : Nat := 124

/-- Reads attributes; they may be missing. -/
def readAttributes? : Option Document → Option (List (String × Json))
  | none => some []
  | some (.object members) => Document.keepMembers valueLevels members []
  | some _ => none

/-- Reads a customer. -/
def ofDocument? (d : Document) : Option PlainCustomer :=
  match d.slots ["customerId", "attributes"] with
  | some [some id, attributes] => do
      let id ← id.string?
      let attributes ← readAttributes? attributes
      return ⟨id, attributes⟩
  | _ => none

/-- Reads a list of customers from the text of a document. -/
def parseAll (s : String) : Except Error (List PlainCustomer) :=
  match do (← (← Document.parse? s).items?).mapM ofDocument? with
  | some customers => .ok customers
  | none => .error .unreadable

/-- The customers with coerced attributes, and the number of those that were rejected. -/
def coerceAll (schema : Schema) : List PlainCustomer → List Customer × Nat
  | [] => ([], 0)
  | plain :: rest =>
      let (customer, rejected) := Customer.ofPlain schema plain.id plain.attributes
      let (customers, skipped) := coerceAll schema rest
      (customer :: customers, rejected.length + skipped)

end PlainCustomer
end Audience
