import Audience.Segment.Loading
import Audience.Proofs.Condition.WellFormed

/-!
# Conditions that were composed

A composed condition is a new one, a loaded one, or what a change made of a composed one.
Each of these steps sees the schema of its moment.

**One schema.**  If all steps see the same schema, the condition is well formed under it.

**Several schemas.**  A change checks what it changes and copies the rest, so a condition
that was composed under several schemas may not fit the last one: its kind, its operator or
its other value may be left over from an earlier one.  Only the second value is never left
over where the operator takes none.

**Results.**
* `Composed.wellFormed`: one schema keeps a condition well formed.
* `change_of_composed`: what a change under any schema makes of a composed condition.
* `not_wellFormed_change`: the result need not be well formed.
-/

namespace Audience

namespace StoredCondition

theorem explain_eq_ok_iff
    {α : Type} {fieldId : String} {step : Except Error α} {a : α} :
    explain fieldId step = .ok a ↔ step = .ok a := by
  cases step with
  | ok b =>
      simp [explain]
  | error e =>
      simp [explain]

/-- An active condition was assembled from parts that could be read. -/
theorem activate_eq_ok_iff
    {schema : Schema} {id : Uuid} {raw : StoredCondition} {c : Condition} :
    activate schema id raw = .ok c ↔
      ∃ op value secondValue,
        Operator.ofId? raw.operatorId = some op ∧
        readTyped raw.fieldId raw.value = .ok value ∧
        readTyped raw.fieldId raw.secondValue = .ok secondValue ∧
        Condition.assemble schema id raw.fieldId op value secondValue = .ok c := by
  constructor
  · intro h
    obtain ⟨f, _, h⟩ := bind_eq_ok_iff.mp h
    split at h
    · cases h
    · next op hop =>
        obtain ⟨value, hvalue, h⟩ := bind_eq_ok_iff.mp h
        obtain ⟨secondValue, hsecond, h⟩ := bind_eq_ok_iff.mp h
        exact ⟨op, value, secondValue, hop, hvalue, hsecond, explain_eq_ok_iff.mp h⟩
  · rintro ⟨op, value, secondValue, hop, hvalue, hsecond, h⟩
    obtain ⟨f, hf, _⟩ := Condition.assemble_eq_ok_iff.mp h
    refine bind_eq_ok_iff.mpr ⟨f, explain_eq_ok_iff.mpr hf, ?_⟩
    rw [hop]
    refine bind_eq_ok_iff.mpr ⟨value, hvalue, ?_⟩
    exact bind_eq_ok_iff.mpr ⟨secondValue, hsecond, explain_eq_ok_iff.mpr h⟩

theorem wellFormed_of_activate
    {schema : Schema} {id : Uuid} {raw : StoredCondition} {c : Condition}
    (h : activate schema id raw = .ok c) :
    c.WellFormed schema := by
  obtain ⟨_, _, _, _, _, _, h⟩ := activate_eq_ok_iff.mp h
  exact Condition.wellFormed_of_assemble h

end StoredCondition

namespace Condition

/-- Conditions that are composed under the schemas of a kind. -/
inductive Composed (allowed : Schema → Prop) : Condition → Prop
  | new {schema : Schema} {fieldId : String} {id : Uuid} {c : Condition} :
      allowed schema →
      on schema fieldId id = .ok c →
      Composed allowed c
  | loaded {schema : Schema} {raw : StoredCondition} {id : Uuid} {c : Condition} :
      allowed schema →
      raw.activate schema id = .ok c →
      Composed allowed c
  | changed {schema : Schema} {a : Change} {c c' : Condition} :
      allowed schema →
      Composed allowed c →
      c.change schema a = .ok c' →
      Composed allowed c'

variable {allowed : Schema → Prop} {c c' : Condition}

/-- A new condition is well formed under its schema. -/
theorem wellFormed_on
    {schema : Schema} {fieldId : String} {id : Uuid}
    (h : on schema fieldId id = .ok c) :
    c.WellFormed schema := by
  obtain ⟨f, hf, rfl⟩ := on_eq_ok_iff.mp h
  exact wellFormed_start hf id

/-- Under one schema, composed conditions are well formed. -/
theorem Composed.wellFormed
    {schema : Schema} (h : c.Composed (· = schema)) :
    c.WellFormed schema := by
  induction h with
  | new hschema hon =>
      subst hschema
      exact wellFormed_on hon
  | loaded hschema hactive =>
      subst hschema
      exact StoredCondition.wellFormed_of_activate hactive
  | changed hschema _ hchange ih =>
      subst hschema
      exact wellFormed_change ih hchange

/-- Under any schemas, a second value comes only with an operator that takes a range. -/
theorem Composed.rangeOnly
    (h : c.Composed allowed) :
    c.RangeOnly := by
  induction h with
  | new _ hon =>
      obtain ⟨_, _, hfits⟩ := wellFormed_on hon
      exact hfits.rangeOnly
  | loaded _ hactive =>
      obtain ⟨_, _, hfits⟩ := StoredCondition.wellFormed_of_activate hactive
      exact hfits.rangeOnly
  | changed _ _ hchange ih =>
      obtain ⟨_, _, hmakes⟩ := change_eq_ok_iff.mp hchange
      exact rangeOnly_of_makes hmakes ih

/-- A change under any schema checks what it changes and copies the rest.  The result is
well formed exactly if the copied parts fit, and so it is whenever the condition was well
formed under that schema. -/
theorem change_of_composed
    {schema : Schema} {a : Change}
    (hc : c.Composed allowed) (h : c.change schema a = .ok c') :
    ∃ f, schema.field c'.field = .ok f ∧ a.Makes f c c' ∧ c'.RangeOnly ∧
      (c'.WellFormed schema ↔ a.CopiesFit f c) ∧
      (c.WellFormed schema → c'.WellFormed schema) := by
  obtain ⟨f, hf, hmakes⟩ := change_eq_ok_iff.mp h
  have hfield := field_of_makes hf hmakes
  refine ⟨f, hfield, hmakes, rangeOnly_of_makes hmakes hc.rangeOnly, ?_, ?_⟩
  · rw [← fits_iff_of_makes hmakes hc.rangeOnly]
    constructor
    · rintro ⟨g, hg, hfits⟩
      have hsame : Except.ok g = Except.ok f := hg.symm.trans hfield
      cases hsame
      exact hfits
    · intro hfits
      exact ⟨f, hfield, hfits⟩
  · intro hwell
    exact wellFormed_change hwell h

end Condition

/-- The schema of one field that is named after its identifier. -/
def Schema.single (id : String) (type : FieldType) : Schema where
  fields := [⟨id, id, type⟩]
  distinct := by simp

namespace Condition

/-- A condition that compares a field of texts with a text. -/
def comparingText (op : Operator) (text : String) : Condition where
  id := default
  field := "x"
  kind := .text
  operator := op
  value := some (.text text)
  secondValue := none

theorem composed_comparingText
    (h : ∀ schema, schema = Schema.single "x" .text → allowed schema) (text : String) :
    (comparingText .equals text).Composed allowed := by
  have hnew : on (Schema.single "x" .text) "x" default =
      .ok { comparingText .equals text with value := none } := rfl
  have hvalue : change (Schema.single "x" .text) (.value (.text text))
      { comparingText .equals text with value := none } =
        .ok (comparingText .equals text) := rfl
  exact .changed (h _ rfl) (.new (h _ rfl) hnew) hvalue

/-- After the field has become a boolean one, its condition takes another operator. -/
theorem change_of_composed_comparingText :
    ∃ f, (Schema.single "x" .boolean).field "x" = .ok f ∧
      (Change.operator .notEquals).Makes f (comparingText .equals "a")
        (comparingText .notEquals "a") ∧
      (comparingText .notEquals "a").RangeOnly ∧
      ((comparingText .notEquals "a").WellFormed (Schema.single "x" .boolean) ↔
        (Change.operator .notEquals).CopiesFit f (comparingText .equals "a")) ∧
      ((comparingText .equals "a").WellFormed (Schema.single "x" .boolean) →
        (comparingText .notEquals "a").WellFormed (Schema.single "x" .boolean)) := by
  have hchange : change (Schema.single "x" .boolean) (.operator .notEquals)
      (comparingText .equals "a") = .ok (comparingText .notEquals "a") := rfl
  have hcomposed : (comparingText .equals "a").Composed fun _ => True :=
    composed_comparingText (fun _ _ => trivial) "a"
  exact change_of_composed hcomposed hchange

/-- The result of a change need not be well formed: this one leaves a text value on a
boolean field. -/
theorem not_wellFormed_change :
    ¬ ∀ (schema : Schema) (a : Change) (c c' : Condition),
        c.Composed (fun _ => True) → c.change schema a = .ok c' → c'.WellFormed schema := by
  intro h
  obtain ⟨f, hf, hfits⟩ := h (Schema.single "x" .boolean) (.operator .notEquals)
    (comparingText .equals "a") (comparingText .notEquals "a")
    (composed_comparingText (fun _ _ => trivial) "a") rfl
  cases hf
  cases hfits.kind

end Condition
end Audience
