import Audience.Customer
import Audience.Number.Entered
import Audience.Schema

/-!
# Customers from plain values

Attributes often arrive as plain JSON values whose kinds are only implied.  Coercion
turns each of them into a value of the kind that its field declares.

**Numbers** may be given in digits as text, with blanks around them; texts of infinities
and of not-a-number are refused.  **Booleans** may be given as the words `true` and `false` in
any ASCII letter case.  **Dates** are timestamps with an offset, or dates alone.

**Classes.**  `null` and attributes without a field are skipped; what has a field but
cannot be coerced is rejected, and its key is reported.  The keys are reported in order.

**Results.**
* `Coercion.kind_of_value?`: a coerced value has the kind of its field.
-/

namespace Audience
namespace Coercion

open Text

/-- A number from a plain value; a text must be that of a finite one. -/
def number? : Json → Option Binary64
  | .integer i => some (TypedValue.numberOfInt i)
  | .real x => some x
  | .text s => (Entered.readReal (trim s.toList)).filter Binary64.isFinite
  | _ => none

/-- A boolean from a plain value. -/
def boolean? : Json → Option Bool
  | .boolean b => some b
  | .text s =>
      let word := String.ofList (Entered.lowerAscii s.toList)
      if word = "true" then some true
      else if word = "false" then some false
      else none
  | _ => none

/-- A date from a plain value. -/
def date? : Json → Option Instant
  | .text s => (Timestamp.readStrict s.toList).or (Timestamp.readDate s.toList)
  | _ => none

/-- A text from a plain value. -/
def text? : Json → Option String
  | .text s => some s
  | _ => none

/-- A value of a kind from a plain value. -/
def ofKind? : ValueKind → Json → Option TypedValue
  | .text, x => (text? x).map .text
  | .number, x => (number? x).map .number
  | .boolean, x => (boolean? x).map .boolean
  | .date, x => (date? x).map .date

/-- A value for a field from a plain value. -/
def value? (f : Field) (x : Json) : Option TypedValue := ofKind? f.type.valueKind x

theorem kind_of_ofKind? {k : ValueKind} {x : Json} {v : TypedValue}
    (h : ofKind? k x = some v) : v.kind = k := by
  cases k <;>
    · obtain ⟨_, _, rfl⟩ := Option.map_eq_some_iff.mp h
      rfl

theorem kind_of_value? {f : Field} {x : Json} {v : TypedValue}
    (h : value? f x = some v) : v.kind = f.type.valueKind :=
  kind_of_ofKind? h

/-- What becomes of an attribute. -/
inductive Outcome
  | skipped
  | stored (v : TypedValue)
  | rejected
deriving DecidableEq

/-- What becomes of a plain value at a key. -/
def classify (schema : Schema) (key : String) (x : Json) : Outcome :=
  if x = .null then .skipped
  else
    match schema.field? key with
    | none => .skipped
    | some f =>
        match value? f x with
        | some v => .stored v
        | none => .rejected

/-- Adds the attributes of members to a customer; the keys that were rejected come
beside it in the order of the members. -/
def addAll (schema : Schema) (c : Customer) :
    List (String × Json) → Customer × List String
  | [] => (c, [])
  | (key, x) :: rest =>
      match classify schema key x with
      | .skipped => addAll schema c rest
      | .stored v => addAll schema (c.set key v) rest
      | .rejected =>
          let (customer, rejected) := addAll schema c rest
          (customer, key :: rejected)

end Coercion

/-- The customer with plain attributes, and the keys that were rejected in their order. -/
def Customer.ofPlain (schema : Schema) (id : String) (members : List (String × Json)) :
    Customer × List String :=
  let (customer, rejected) := Coercion.addAll schema (bare id) members
  (customer, rejected.mergeSort)

end Audience
