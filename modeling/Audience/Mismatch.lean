import Audience.Error
import Audience.Json.Document

/-!
# Mismatches

When a stored segment is loaded, whatever does not fit the schema is reported: which
group, which condition, and for which reason.  A reason without a condition is about the
group itself.

**Results.**
* `MismatchReason.ofError_unknownField` and its companions: how the cause of a failed check
  becomes a reason.
-/

namespace Audience

open Json (Document)

/-- Why a stored condition or group did not fit. -/
inductive MismatchReason
  | unknownField (field : String)
  | unknownOperator (operator : String)
  | operatorNotAllowed (field operator : String)
  | typeMismatch (field : String) (expected found : ValueKind)
  | invalidOption (field value : String)
  | secondValueNotAllowed (operator : String)
  | malformedValue (field : String)
  | malformedId (id : String)
  | emptySegment
deriving DecidableEq

namespace MismatchReason

/-- The wording of a reason. -/
def text : MismatchReason → String
  | unknownField field => "unknown field '" ++ field ++ "'"
  | unknownOperator operator => "unknown operator '" ++ operator ++ "'"
  | operatorNotAllowed field operator =>
      "operator '" ++ operator ++ "' not allowed for field '" ++ field ++ "'"
  | typeMismatch field expected found =>
      "field '" ++ field ++ "' expects " ++ expected.name ++ ", stored value is " ++ found.name
  | invalidOption field value => "'" ++ value ++ "' is not an option of field '" ++ field ++ "'"
  | secondValueNotAllowed operator =>
      "operator '" ++ operator ++ "' does not take a second value"
  | malformedValue field => "unreadable value for field '" ++ field ++ "'"
  | malformedId id => "malformed id '" ++ id ++ "'"
  | emptySegment => "expression has no groups"

/-- The kind of a reason and its details, as the members of an object. -/
def members : MismatchReason → List (String × String)
  | unknownField field => [("kind", "unknown_field"), ("field", field)]
  | unknownOperator operator => [("kind", "unknown_operator"), ("operator", operator)]
  | operatorNotAllowed field operator =>
      [("kind", "operator_not_allowed"), ("field", field), ("operator", operator)]
  | typeMismatch field expected found =>
      [("kind", "type_mismatch"), ("field", field), ("expected", expected.name),
        ("found", found.name)]
  | invalidOption field value =>
      [("kind", "invalid_option"), ("field", field), ("value", value)]
  | secondValueNotAllowed operator =>
      [("kind", "second_value_not_allowed"), ("operator", operator)]
  | malformedValue field => [("kind", "malformed_value"), ("field", field)]
  | malformedId id => [("kind", "malformed_id"), ("id", id)]
  | emptySegment => [("kind", "empty_expression")]

/-- The document of a reason. -/
def document (r : MismatchReason) : Document :=
  .record (r.members.map fun (key, value) => (key, .string value))

/-- The reason that the cause of a failed check on a field's condition gives.  Causes that
are about neither field, operator nor options are about the value. -/
def ofError (fieldId : String) : Error → MismatchReason
  | .unknownField field => unknownField field
  | .unknownOperator operator => unknownOperator operator
  | .operatorNotAllowed field operator => operatorNotAllowed field operator.id
  | .typeMismatch field expected found => typeMismatch field expected found
  | .invalidOption field value => invalidOption field value
  | .secondValueNotAllowed operator => secondValueNotAllowed operator.id
  | _ => malformedValue fieldId

@[simp] theorem ofError_unknownField (fieldId field : String) :
    ofError fieldId (.unknownField field) = unknownField field := rfl

@[simp] theorem ofError_operatorNotAllowed (fieldId field : String) (op : Operator) :
    ofError fieldId (.operatorNotAllowed field op) = operatorNotAllowed field op.id := rfl

@[simp] theorem ofError_typeMismatch (fieldId field : String) (expected found : ValueKind) :
    ofError fieldId (.typeMismatch field expected found) =
      typeMismatch field expected found := rfl

@[simp] theorem ofError_invalidOption (fieldId field value : String) :
    ofError fieldId (.invalidOption field value) = invalidOption field value := rfl

@[simp] theorem ofError_secondValueNotAllowed (fieldId : String) (op : Operator) :
    ofError fieldId (.secondValueNotAllowed op) = secondValueNotAllowed op.id := rfl

@[simp] theorem ofError_nonFiniteNumber (fieldId field : String) :
    ofError fieldId (.nonFiniteNumber field) = malformedValue fieldId := rfl

end MismatchReason

/-- A reason with its place. -/
structure Mismatch where
  groupId : Uuid
  conditionId : Option Uuid
  reason : MismatchReason
deriving DecidableEq

namespace Mismatch

/-- The document of a mismatch. -/
def document (m : Mismatch) : Document :=
  .record [("groupId", .string m.groupId.toString),
    ("conditionId", .optional (m.conditionId.map fun id => .string id.toString)),
    ("reason", m.reason.document)]

end Mismatch
end Audience
