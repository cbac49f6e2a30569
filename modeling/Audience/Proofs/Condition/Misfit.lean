import Audience.Proofs.Segment.Reporting

/-!
# Conditions that no longer fit

A condition that was composed while the schema changed may hold parts that do not fit together.
Two things hold of it nevertheless: its numbers are finite, and it has a second value only if
its operator takes a range.  So whatever the schema, its stored form can be read, and there are
four reasons for which it may be set aside: its field is missing, the field does not offer its
operator, or one of its values is of a wrong kind or not an option.

**Results.**
* `Condition.Composed.finite`: composed conditions hold finite numbers only, under any schemas.
* `Condition.misfit_of_assemble`: why such a condition cannot be assembled from its parts.
* `Condition.misfit_of_loadedAs`: why it is set aside when its stored form is loaded.
-/

namespace Audience

section Checks

theorem Field.of_checkOperator_error
    {f : Field} {op : Operator} {e : Error} (h : f.checkOperator op = .error e) :
    f.allows op = false ∧ e = .operatorNotAllowed f.id op := by
  unfold checkOperator at h
  split at h
  · cases h
  · next hnot =>
      cases h
      exact ⟨Bool.not_eq_true _ ▸ hnot, rfl⟩

/-- A finite value is refused for its kind, or because it is none of the options. -/
theorem Field.of_check_error
    {f : Field} {v : TypedValue} {e : Error} (hv : v.Finite) (h : f.check v = .error e) :
    v.kind ≠ f.type.valueKind ∧ e = .typeMismatch f.id f.type.valueKind v.kind ∨
      ∃ s options, v = .text s ∧ f.type = .select options ∧ (∀ o ∈ options, o.value ≠ s) ∧
        e = .invalidOption f.id s := by
  unfold check at h
  split at h
  · refine Or.inr ?_
    cases v with
    | boolean | date =>
        cases h
    | number x =>
        have hx : x.isFinite = true := hv
        rw [checkContents, if_pos hx] at h
        cases h
    | text s =>
        simp only [checkContents] at h
        split at h
        · next options htype =>
            split at h
            · cases h
            · next hnone =>
                cases h
                exact ⟨s, options, rfl, htype, by simpa using hnone, rfl⟩
        · cases h
  · next hkind =>
      cases h
      exact Or.inl ⟨hkind, rfl⟩

theorem StoredCondition.explain_eq_error_iff
    {α : Type} {fieldId : String} {step : Except Error α} {reason : MismatchReason} :
    explain fieldId step = .error reason ↔
      ∃ e, step = .error e ∧ MismatchReason.ofError fieldId e = reason := by
  cases step with
  | ok a =>
      simp [explain]
  | error e =>
      simp [explain]

end Checks

namespace Condition

variable {schema : Schema} {allowed : Schema → Prop} {c : Condition}

/-- What does not fit a schema: the field is missing, or the field that the schema has does not
offer the operator, or does not accept a value. -/
inductive Misfit (schema : Schema) (c : Condition) : MismatchReason → Prop
  | unknownField :
      schema.field? c.field = none →
      Misfit schema c (.unknownField c.field)
  | operatorNotAllowed {f : Field} :
      schema.field c.field = .ok f →
      f.allows c.operator = false →
      Misfit schema c (.operatorNotAllowed c.field c.operator.id)
  | typeMismatch {f : Field} {v : TypedValue} :
      schema.field c.field = .ok f →
      v ∈ c.values →
      v.kind ≠ f.type.valueKind →
      Misfit schema c (.typeMismatch c.field f.type.valueKind v.kind)
  | invalidOption {f : Field} {s : String} {options : List Choice} :
      schema.field c.field = .ok f →
      .text s ∈ c.values →
      f.type = .select options →
      (∀ o ∈ options, o.value ≠ s) →
      Misfit schema c (.invalidOption c.field s)

/-- A change checks the value that it sets and copies the others. -/
theorem finite_of_makes
    {f : Field} {a : Change} {c' : Condition} (h : a.Makes f c c') (hc : c.Finite) :
    c'.Finite := by
  obtain ⟨hvalue, hsecond⟩ := hc
  have hkept : ∀ op : Operator, ∀ v,
      (if op.takesRange then c.secondValue else none) = some v → v.Finite := by
    intro op v hv
    split at hv
    · exact hsecond v hv
    · cases hv
  cases a with
  | field id =>
      subst h
      constructor
      · intro v hv
        cases hv
      · intro v hv
        cases hv
  | operator op =>
      obtain ⟨_, rfl⟩ := h
      exact ⟨hvalue, hkept op⟩
  | operatorId id =>
      obtain ⟨op, _, _, rfl⟩ := h
      exact ⟨hvalue, hkept op⟩
  | value v =>
      obtain ⟨hv, rfl⟩ := h
      refine ⟨?_, hsecond⟩
      rintro _ ⟨⟩
      exact Field.finite_of_check hv
  | secondValue v =>
      obtain ⟨_, hv, rfl⟩ := h
      refine ⟨hvalue, ?_⟩
      rintro _ ⟨⟩
      exact Field.finite_of_check hv

/-- Composed conditions hold finite numbers only, under any schemas. -/
theorem Composed.finite
    (h : c.Composed allowed) :
    c.Finite := by
  induction h with
  | new _ hon =>
      exact (wellFormed_on hon).finite
  | loaded _ hactive =>
      exact (StoredCondition.wellFormed_of_activate hactive).finite
  | changed _ _ hchange ih =>
      obtain ⟨_, _, hmakes⟩ := change_eq_ok_iff.mp hchange
      exact finite_of_makes hmakes ih

/-- A value that the field of the condition refuses is a misfit. -/
theorem misfit_of_check
    {f : Field} {v : TypedValue} {e : Error} (hf : schema.field c.field = .ok f)
    (hmem : v ∈ c.values) (hv : v.Finite) (h : f.check v = .error e) :
    c.Misfit schema (.ofError c.field e) := by
  have hid := ((schema.field_eq_ok_iff c.field f).mp hf).2
  rcases Field.of_check_error hv h with ⟨hkind, rfl⟩ | ⟨s, options, rfl, htype, hnone, rfl⟩
  · rw [MismatchReason.ofError_typeMismatch, hid]
    exact .typeMismatch hf hmem hkind
  · rw [MismatchReason.ofError_invalidOption, hid]
    exact .invalidOption hf hmem htype hnone

/-- Why a condition cannot be assembled from its parts, if its numbers are finite and a second
value comes only with a range. -/
theorem misfit_of_assemble
    (hfinite : c.Finite) (hrange : c.RangeOnly) {id : Uuid} {e : Error}
    (h : assemble schema id c.field c.operator c.value c.secondValue = .error e) :
    c.Misfit schema (.ofError c.field e) := by
  obtain ⟨hvalue, hsecond⟩ := hfinite
  -- The checks in their order: the field, the operator, the value, the second value.
  rcases bind_eq_error_iff.mp h with hfield | ⟨f, hf, h⟩
  · obtain ⟨hnone, rfl⟩ := Schema.field_eq_error_iff.mp hfield
    exact .unknownField hnone
  rcases bind_eq_error_iff.mp h with hop | ⟨_, _, h⟩
  · obtain ⟨hnot, rfl⟩ := Field.of_checkOperator_error hop
    rw [MismatchReason.ofError_operatorNotAllowed,
      ((schema.field_eq_ok_iff c.field f).mp hf).2]
    exact .operatorNotAllowed hf hnot
  rcases bind_eq_error_iff.mp h with hcheck | ⟨_, _, h⟩
  · cases hv : c.value with
    | none =>
        rw [hv] at hcheck
        cases hcheck
    | some v =>
        rw [hv] at hcheck
        exact misfit_of_check hf (by simp [values, hv]) (hvalue v hv) hcheck
  rcases bind_eq_error_iff.mp h with hcheck | ⟨_, _, h⟩
  · cases hv : c.secondValue with
    | none =>
        rw [hv] at hcheck
        cases hcheck
    | some v =>
        have hop : c.operator = .between := hrange (by simp [hv])
        rw [hv, hop] at hcheck
        exact misfit_of_check hf (by simp [values, hv]) (hsecond v hv) hcheck
  · cases h

/-- Such a condition is set aside under its own identifier and for what does not fit. -/
theorem misfit_of_loadedAs
    (hfinite : c.Finite) (hrange : c.RangeOnly) {q : Quarantined}
    (h : c.stored.LoadedAs schema (.quarantined q)) :
    q.id = c.id ∧ c.Misfit schema q.reason := by
  have hid := c.parse?_id_stored
  cases h with
  | aside hparse hreason =>
      cases hparse.symm.trans hid
      rw [activate_stored hfinite, StoredCondition.explain_eq_error_iff] at hreason
      obtain ⟨e, he, rfl⟩ := hreason
      exact ⟨rfl, misfit_of_assemble hfinite hrange (map_eq_error_iff.mp he)⟩
  | malformed fresh hparse =>
      cases hparse.symm.trans hid

end Condition
end Audience
