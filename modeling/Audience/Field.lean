import Audience.Error

/-!
# Fields of a customer

A field has an identifier, a display name and a type.  The type says which values a
condition on the field may hold and which operators it may use.

**Select fields.**  A select field lists its options.  An option is addressed by its
text value, so the values of a select field are text.

**Checking.**  `Field.check` tests the kind of a value first, then that a number is
finite, then that the value of a select field is one of its options.

**Results.**
* `FieldType.operators_ne_nil`: every type has an operator, the first one is its default.
* `Field.check_eq_ok_iff`: what a field accepts.
-/

namespace Audience

/-- An option of a select field. -/
structure Choice where
  value : String
  label : String
deriving DecidableEq

/-- The type of a field. -/
inductive FieldType
  | text
  | number
  | date
  | boolean
  | select (options : List Choice)
deriving DecidableEq

/-- The type of a field without its options. -/
inductive FieldKind
  | text
  | number
  | date
  | boolean
  | select
deriving DecidableEq

namespace FieldKind

/-- All kinds. -/
def all : List FieldKind := [text, number, date, boolean, select]

/-- The name of a kind. -/
def name : FieldKind → String
  | text => "text"
  | number => "number"
  | date => "date"
  | boolean => "boolean"
  | select => "select"

/-- The kind with a name. -/
def ofName? (s : String) : Option FieldKind := all.find? (·.name == s)

@[simp] theorem ofName?_name (k : FieldKind) : ofName? k.name = some k := by
  cases k <;> decide

/-- The kind of the values on a field: options are addressed by text. -/
def valueKind : FieldKind → ValueKind
  | text => .text
  | number => .number
  | date => .date
  | boolean => .boolean
  | select => .text

end FieldKind

namespace FieldType

/-- The kind of a type. -/
def kind : FieldType → FieldKind
  | text => .text
  | number => .number
  | date => .date
  | boolean => .boolean
  | select _ => .select

/-- The kind of the values of a type. -/
def valueKind (t : FieldType) : ValueKind := t.kind.valueKind

/-- The options of a select type. -/
def options? : FieldType → Option (List Choice)
  | select options => some options
  | _ => none

/-- The operators of a type, in the order in which they are offered. -/
def operators : FieldType → List Operator
  | text => [.equals, .notEquals, .contains, .notContains, .startsWith, .endsWith]
  | number =>
      [.equals, .notEquals, .greaterThan, .lessThan, .greaterThanEquals, .lessThanEquals,
        .between]
  | date => [.equals, .notEquals, .before, .after, .between]
  | boolean => [.equals, .notEquals]
  | select _ => [.equals, .notEquals]

/-- The operator of a new condition. -/
def defaultOperator (_ : FieldType) : Operator := .equals

theorem operators_ne_nil (t : FieldType) : t.operators ≠ [] := by
  cases t <;> simp [operators]

@[simp] theorem head?_operators (t : FieldType) :
    t.operators.head? = some t.defaultOperator := by
  cases t <;> rfl

end FieldType

/-- A field that conditions can be made on. -/
structure Field where
  id : String
  displayName : String
  type : FieldType
deriving DecidableEq

namespace Field

/-- The operators of a field. -/
def operators (f : Field) : List Operator := f.type.operators

/-- The operator of a new condition on a field. -/
def defaultOperator (f : Field) : Operator := f.type.defaultOperator

/-- The field offers an operator. -/
def allows (f : Field) (op : Operator) : Bool := f.operators.contains op

/-- Tests that the field offers an operator. -/
def checkOperator (f : Field) (op : Operator) : Except Error Unit :=
  if f.allows op then .ok () else .error (.operatorNotAllowed f.id op)

/-- Tests the contents of a value of the right kind. -/
def checkContents (f : Field) : TypedValue → Except Error Unit
  | .number x => if x.isFinite then .ok () else .error (.nonFiniteNumber f.id)
  | .text s =>
      match f.type with
      | .select options =>
          if options.any (·.value == s) then .ok () else .error (.invalidOption f.id s)
      | _ => .ok ()
  | _ => .ok ()

/-- Tests that a condition on the field may hold a value. -/
def check (f : Field) (v : TypedValue) : Except Error Unit :=
  if v.kind = f.type.valueKind then f.checkContents v
  else .error (.typeMismatch f.id f.type.valueKind v.kind)

theorem check_eq_ok_iff (f : Field) (v : TypedValue) :
    f.check v = .ok () ↔ v.kind = f.type.valueKind ∧ f.checkContents v = .ok () := by
  unfold check
  split <;> simp_all

end Field
end Audience
