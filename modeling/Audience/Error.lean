import Audience.Files
import Audience.Operator
import Audience.Uuid
import Audience.Value

/-!
# Causes of failure

Every operation on schemas, conditions, segments and saved segments that can fail
does so with one of these causes.  `Error.message` is the only place where their
wording is kept.

**Results.**
* `bind_eq_ok_iff`, `map_eq_ok_iff`: when a sequence of steps succeeds.
* `bind_eq_error_iff`: when it fails.
-/

namespace Audience

/-- Why an operation failed. -/
inductive Error
  | unknownField (field : String)
  | unknownOperator (operator : String)
  | operatorNotAllowed (field : String) (operator : Operator)
  | typeMismatch (field : String) (expected found : ValueKind)
  | nonFiniteNumber (field : String)
  | secondValueNotAllowed (operator : Operator)
  | invalidOption (field value : String)
  | cannotRemoveFirstGroup
  | unknownGroup (id : Uuid)
  | unknownCondition (id : Uuid)
  | conditionQuarantined (id : Uuid)
  | duplicateField (field : String)
  | segmentNotFound (id : Uuid)
  | unreadable
  | inaccessible (fault : FileFault)
deriving DecidableEq

namespace Error

/-- The wording of a cause. -/
def message : Error → String
  | unknownField field => "Unknown field: " ++ field
  | unknownOperator operator => "Unknown operator: " ++ operator
  | operatorNotAllowed field operator =>
      "Operator '" ++ operator.id ++ "' is not allowed for field '" ++ field ++ "'"
  | typeMismatch field expected found =>
      "Type mismatch on field '" ++ field ++ "': expected " ++ expected.name ++ ", got " ++
        found.name
  | nonFiniteNumber field => "Field '" ++ field ++ "' only accepts finite numbers"
  | secondValueNotAllowed operator => "Operator '" ++ operator.id ++ "' takes a single value"
  | invalidOption field value =>
      "Value '" ++ value ++ "' is not an option of field '" ++ field ++ "'"
  | cannotRemoveFirstGroup => "The first group of a segment cannot be removed"
  | unknownGroup id => "Unknown group: " ++ id.toString
  | unknownCondition id => "Unknown condition: " ++ id.toString
  | conditionQuarantined id =>
      "Condition " ++ id.toString ++ " is quarantined and can only be removed"
  | duplicateField field => "Duplicate field definition: " ++ field
  | segmentNotFound id => "Segment not found: " ++ id.toString
  | unreadable => "Serialization error"
  | inaccessible fault => "IO error: " ++ fault.message

end Error

section Steps

universe u v

variable {ε : Type u} {α β : Type v}

/-- Two steps succeed if the first one does and the second one does on its result. -/
theorem bind_eq_ok_iff {first : Except ε α} {second : α → Except ε β} {b : β} :
    (first >>= second) = .ok b ↔ ∃ a, first = .ok a ∧ second a = .ok b := by
  cases first with
  | error e =>
      constructor
      · intro h
        cases h
      · rintro ⟨a, ha, _⟩
        cases ha
  | ok a =>
      constructor
      · intro h
        exact ⟨a, rfl, h⟩
      · rintro ⟨a', ha, h⟩
        cases ha
        exact h

/-- Two steps fail if the first one does, or the second one does on its result. -/
theorem bind_eq_error_iff {first : Except ε α} {second : α → Except ε β} {e : ε} :
    (first >>= second) = .error e ↔
      first = .error e ∨ ∃ a, first = .ok a ∧ second a = .error e := by
  cases first with
  | error e' =>
      constructor
      · intro h
        cases h
        exact Or.inl rfl
      · rintro (h | ⟨a, ha, _⟩)
        · cases h
          rfl
        · cases ha
  | ok a =>
      constructor
      · intro h
        exact Or.inr ⟨a, rfl, h⟩
      · rintro (h | ⟨a', ha, h⟩)
        · cases h
        · cases ha
          exact h

/-- Mapping the result of a sequence of steps is mapping that of the last one. -/
theorem map_bind {γ : Type v} (f : β → γ) (first : Except ε α) (second : α → Except ε β) :
    (first >>= second).map f = first >>= fun a => (second a).map f := by
  cases first <;> rfl

/-- A mapped step fails if the step does, for the same cause. -/
theorem map_eq_error_iff {step : Except ε α} {f : α → β} {e : ε} :
    step.map f = .error e ↔ step = .error e := by
  cases step with
  | error e' =>
      constructor
      · intro h
        cases h
        rfl
      · intro h
        cases h
        rfl
  | ok a =>
      constructor
      · intro h
        cases h
      · intro h
        cases h

/-- A mapped step succeeds if the step does. -/
theorem map_eq_ok_iff {step : Except ε α} {f : α → β} {b : β} :
    step.map f = .ok b ↔ ∃ a, step = .ok a ∧ f a = b := by
  cases step with
  | error e =>
      constructor
      · intro h
        cases h
      · rintro ⟨a, ha, _⟩
        cases ha
  | ok a =>
      constructor
      · intro h
        cases h
        exact ⟨a, rfl, rfl⟩
      · rintro ⟨a', ha, rfl⟩
        cases ha
        rfl

end Steps
end Audience
