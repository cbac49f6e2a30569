import Audience.Schema

/-!
# Conditions

A condition compares one field of a customer with one value, or with two if its
operator takes a range.  Values may still be missing while a condition is composed.

**Changes.**  Every change makes a new condition with the same identifier.  It checks
what it changes against the schema of the moment and copies the rest, so a condition
that was composed while the schema changed may hold parts that no longer fit together.

**Results.**
* `Condition.change_id`: no change touches the identifier.
* `Condition.isEmptyRange_of_not_range`: only ranges can be empty.
-/

namespace Audience

/-- One comparison of a field with a value. -/
structure Condition where
  id : Uuid
  field : String
  kind : FieldKind
  operator : Operator
  value : Option TypedValue
  secondValue : Option TypedValue
deriving DecidableEq

/-- What can be changed in a condition. -/
inductive Change
  | field (id : String)
  | operator (op : Operator)
  | operatorId (id : String)
  | value (v : TypedValue)
  | secondValue (v : TypedValue)
deriving DecidableEq

namespace Condition

/-- The condition on a field without values and with the default operator. -/
def start (id : Uuid) (f : Field) : Condition where
  id := id
  field := f.id
  kind := f.type.kind
  operator := f.defaultOperator
  value := none
  secondValue := none

/-- A new condition on the field of a schema. -/
def on (schema : Schema) (fieldId : String) (id : Uuid) : Except Error Condition :=
  (schema.field fieldId).map (start id)

/-- Moves a condition to another field: operator and values start anew. -/
def moveTo (schema : Schema) (fieldId : String) (c : Condition) : Except Error Condition :=
  on schema fieldId c.id

/-- Changes the operator.  The second value stays only with an operator that takes a range. -/
def setOperator (schema : Schema) (op : Operator) (c : Condition) :
    Except Error Condition := do
  let f ← schema.field c.field
  f.checkOperator op
  return { c with
    operator := op
    secondValue := if op.takesRange then c.secondValue else none }

/-- Changes the operator to the one with an identifier. -/
def setOperatorId (schema : Schema) (operatorId : String) (c : Condition) :
    Except Error Condition :=
  match Operator.ofId? operatorId with
  | some op => c.setOperator schema op
  | none => .error (.unknownOperator operatorId)

/-- Changes the value. -/
def setValue (schema : Schema) (v : TypedValue) (c : Condition) : Except Error Condition := do
  let f ← schema.field c.field
  f.check v
  return { c with value := some v }

/-- Changes the second value, which needs an operator that takes a range. -/
def setSecondValue (schema : Schema) (v : TypedValue) (c : Condition) :
    Except Error Condition :=
  if c.operator.takesRange then do
    let f ← schema.field c.field
    f.check v
    return { c with secondValue := some v }
  else .error (.secondValueNotAllowed c.operator)

/-- Makes a change. -/
def change (schema : Schema) : Change → Condition → Except Error Condition
  | .field id => moveTo schema id
  | .operator op => setOperator schema op
  | .operatorId id => setOperatorId schema id
  | .value v => setValue schema v
  | .secondValue v => setSecondValue schema v

/-- Tests an optional value against a field. -/
def checkValue (f : Field) : Option TypedValue → Except Error Unit
  | none => .ok ()
  | some v => f.check v

/-- Tests an optional second value against an operator and a field. -/
def checkSecondValue (f : Field) (op : Operator) : Option TypedValue → Except Error Unit
  | none => .ok ()
  | some v => if op.takesRange then f.check v else .error (.secondValueNotAllowed op)

/-- The condition with all its parts given: the operator is checked first, then the
value, then the second value. -/
def assemble (schema : Schema) (id : Uuid) (fieldId : String) (op : Operator)
    (value secondValue : Option TypedValue) : Except Error Condition := do
  let f ← schema.field fieldId
  f.checkOperator op
  checkValue f value
  checkSecondValue f op secondValue
  return {
    id := id, field := f.id, kind := f.type.kind, operator := op,
    value := value, secondValue := secondValue }

/-- All values that the operator takes are there. -/
def isComplete (c : Condition) : Bool :=
  c.value.isSome && (!c.operator.takesRange || c.secondValue.isSome)

/-- The first bound stands above the second. -/
def boundsCross : TypedValue → TypedValue → Bool
  | .number low, .number high => low.compareTotal high == .gt
  | .date low, .date high => low.compare high == .gt
  | _, _ => false

/-- A range whose bounds cross. -/
def isEmptyRange (c : Condition) : Bool :=
  match c.value, c.secondValue with
  | some low, some high => c.operator.takesRange && boundsCross low high
  | _, _ => false

theorem isEmptyRange_of_not_range {c : Condition} (h : c.operator.takesRange = false) :
    c.isEmptyRange = false := by
  unfold isEmptyRange
  split <;> simp [h]

theorem on_id {schema : Schema} {fieldId : String} {id : Uuid} {c : Condition}
    (h : on schema fieldId id = .ok c) : c.id = id := by
  obtain ⟨f, _, rfl⟩ := map_eq_ok_iff.mp h
  rfl

theorem setOperator_id {schema : Schema} {op : Operator} {c c' : Condition}
    (h : c.setOperator schema op = .ok c') : c'.id = c.id := by
  obtain ⟨f, _, h⟩ := bind_eq_ok_iff.mp h
  obtain ⟨_, _, h⟩ := bind_eq_ok_iff.mp h
  cases h
  rfl

theorem setOperatorId_id {schema : Schema} {operatorId : String} {c c' : Condition}
    (h : c.setOperatorId schema operatorId = .ok c') : c'.id = c.id := by
  unfold setOperatorId at h
  split at h
  · exact setOperator_id h
  · cases h

theorem setValue_id {schema : Schema} {v : TypedValue} {c c' : Condition}
    (h : c.setValue schema v = .ok c') : c'.id = c.id := by
  obtain ⟨f, _, h⟩ := bind_eq_ok_iff.mp h
  obtain ⟨_, _, h⟩ := bind_eq_ok_iff.mp h
  cases h
  rfl

theorem setSecondValue_id {schema : Schema} {v : TypedValue} {c c' : Condition}
    (h : c.setSecondValue schema v = .ok c') : c'.id = c.id := by
  unfold setSecondValue at h
  split at h
  · obtain ⟨f, _, h⟩ := bind_eq_ok_iff.mp h
    obtain ⟨_, _, h⟩ := bind_eq_ok_iff.mp h
    cases h
    rfl
  · cases h

theorem change_id {schema : Schema} {a : Change} {c c' : Condition}
    (h : c.change schema a = .ok c') : c'.id = c.id := by
  cases a with
  | field id => exact on_id h
  | operator op => exact setOperator_id h
  | operatorId id => exact setOperatorId_id h
  | value v => exact setValue_id h
  | secondValue v => exact setSecondValue_id h

end Condition
end Audience
