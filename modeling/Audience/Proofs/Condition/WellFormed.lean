import Audience.Condition

/-!
# Well-formed conditions

A condition fits a field if its kind is that of the field, the field offers its operator
and accepts its values, and a second value is there only for an operator that takes a
range.  It is well formed under a schema if it fits the schema's field of its name.

**Changes.**  A change makes the new condition from a field of the schema, which checks
what is changed; the parts that are copied are not looked at.

**Results.**
* `wellFormed_iff_assemble`: well formed is what can be assembled from its parts.
* `change_eq_ok_iff`: what a change checks and what it makes.
* `fits_iff_of_makes`: when the result of a change fits.
-/

namespace Audience

theorem Operator.takesRange_eq_false
    {op : Operator} (h : op ≠ .between) :
    op.takesRange = false := by
  rw [← Bool.not_eq_true, Operator.takesRange_iff]
  exact h

/-- The field accepts an optional value. -/
def Field.Accepts (f : Field) (value : Option TypedValue) : Prop :=
  ∀ v, value = some v → f.check v = .ok ()

namespace Field

theorem accepts_none (f : Field) : f.Accepts none := by
  rintro v ⟨⟩

theorem accepts_some_iff
    (f : Field) (v : TypedValue) :
    f.Accepts (some v) ↔ f.check v = .ok () := by
  simp [Accepts]

theorem checkOperator_eq_ok_iff
    (f : Field) (op : Operator) :
    f.checkOperator op = .ok () ↔ f.allows op = true := by
  unfold checkOperator
  split <;> simp_all

theorem allows_defaultOperator
    (f : Field) :
    f.allows f.defaultOperator = true := by
  have hmem := List.mem_of_mem_head? (FieldType.head?_operators f.type)
  exact List.contains_iff_mem.mpr hmem

end Field

namespace Condition

/-- A second value is there only for an operator that takes a range. -/
def RangeOnly (c : Condition) : Prop :=
  c.secondValue.isSome = true → c.operator = .between

/-- All parts of the condition fit a field. -/
structure Fits (f : Field) (c : Condition) : Prop where
  kind : c.kind = f.type.kind
  operator : f.allows c.operator = true
  value : f.Accepts c.value
  secondValue : f.Accepts c.secondValue
  rangeOnly : c.RangeOnly

/-- The condition fits the field of its name in a schema. -/
def WellFormed (schema : Schema) (c : Condition) : Prop :=
  ∃ f, schema.field c.field = .ok f ∧ c.Fits f

theorem fits_start
    (id : Uuid) (f : Field) :
    (start id f).Fits f where
  kind := rfl
  operator := f.allows_defaultOperator
  value := f.accepts_none
  secondValue := f.accepts_none
  rangeOnly := fun h => nomatch h

theorem on_eq_ok_iff
    {schema : Schema} {fieldId : String} {id : Uuid} {c : Condition} :
    on schema fieldId id = .ok c ↔ ∃ f, schema.field fieldId = .ok f ∧ c = start id f := by
  unfold on
  rw [map_eq_ok_iff]
  constructor
  · rintro ⟨f, hf, rfl⟩
    exact ⟨f, hf, rfl⟩
  · rintro ⟨f, hf, rfl⟩
    exact ⟨f, hf, rfl⟩

theorem wellFormed_start
    {schema : Schema} {fieldId : String} {f : Field}
    (hf : schema.field fieldId = .ok f) (id : Uuid) :
    (start id f).WellFormed schema := by
  have hid := ((schema.field_eq_ok_iff fieldId f).mp hf).2
  exact ⟨f, by rw [← hid] at hf; exact hf, fits_start id f⟩

section Assembling

theorem checkValue_eq_ok_iff
    (f : Field) (value : Option TypedValue) :
    checkValue f value = .ok () ↔ f.Accepts value := by
  cases value with
  | none =>
      simp [checkValue, f.accepts_none]
  | some v =>
      rw [f.accepts_some_iff]
      rfl

theorem checkSecondValue_eq_ok_iff
    (f : Field) (op : Operator) (value : Option TypedValue) :
    checkSecondValue f op value = .ok () ↔
      f.Accepts value ∧ (value.isSome = true → op = .between) := by
  cases value with
  | none =>
      simp [checkSecondValue, f.accepts_none]
  | some v =>
      rw [f.accepts_some_iff]
      by_cases hop : op = .between
      · simp [checkSecondValue, hop, Operator.takesRange]
      · simp [checkSecondValue, Operator.takesRange_eq_false hop, hop]

/-- Assembling succeeds exactly on the parts that fit the field of the name. -/
theorem assemble_eq_ok_iff
    {schema : Schema} {id : Uuid} {fieldId : String} {op : Operator}
    {value secondValue : Option TypedValue} {c : Condition} :
    assemble schema id fieldId op value secondValue = .ok c ↔
      ∃ f, schema.field fieldId = .ok f ∧
        c = ⟨id, fieldId, f.type.kind, op, value, secondValue⟩ ∧ c.Fits f := by
  constructor
  · intro h
    obtain ⟨f, hf, h⟩ := bind_eq_ok_iff.mp h
    obtain ⟨_, hop, h⟩ := bind_eq_ok_iff.mp h
    obtain ⟨_, hvalue, h⟩ := bind_eq_ok_iff.mp h
    obtain ⟨_, hsecond, h⟩ := bind_eq_ok_iff.mp h
    cases h
    rw [(schema.field_eq_ok_iff fieldId f).mp hf |>.2]
    obtain ⟨haccepts, hrange⟩ := (checkSecondValue_eq_ok_iff f op secondValue).mp hsecond
    exact ⟨f, hf, rfl, rfl, (f.checkOperator_eq_ok_iff op).mp hop,
      (checkValue_eq_ok_iff f value).mp hvalue, haccepts, hrange⟩
  · rintro ⟨f, hf, rfl, hfits⟩
    refine bind_eq_ok_iff.mpr ⟨f, hf, ?_⟩
    refine bind_eq_ok_iff.mpr ⟨(), (f.checkOperator_eq_ok_iff op).mpr hfits.operator, ?_⟩
    refine bind_eq_ok_iff.mpr ⟨(), (checkValue_eq_ok_iff f value).mpr hfits.value, ?_⟩
    refine bind_eq_ok_iff.mpr ⟨(), (checkSecondValue_eq_ok_iff f op secondValue).mpr
      ⟨hfits.secondValue, hfits.rangeOnly⟩, ?_⟩
    rw [(schema.field_eq_ok_iff fieldId f).mp hf |>.2]
    rfl

/-- Well formed is what can be assembled from its parts. -/
theorem wellFormed_iff_assemble
    (schema : Schema) (c : Condition) :
    c.WellFormed schema ↔
      assemble schema c.id c.field c.operator c.value c.secondValue = .ok c := by
  rw [assemble_eq_ok_iff]
  constructor
  · rintro ⟨f, hf, hfits⟩
    refine ⟨f, hf, ?_, hfits⟩
    rw [← hfits.kind]
  · rintro ⟨f, hf, _, hfits⟩
    exact ⟨f, hf, hfits⟩

/-- Whatever can be assembled is well formed. -/
theorem wellFormed_of_assemble
    {schema : Schema} {id : Uuid} {fieldId : String} {op : Operator}
    {value secondValue : Option TypedValue} {c : Condition}
    (h : assemble schema id fieldId op value secondValue = .ok c) :
    c.WellFormed schema := by
  obtain ⟨f, hf, rfl, hfits⟩ := assemble_eq_ok_iff.mp h
  exact ⟨f, hf, hfits⟩

end Assembling

end Condition

namespace Change

/-- The field that a change looks up. -/
def target (c : Condition) : Change → String
  | field id => id
  | _ => c.field

/-- The field checks what is changed, and the new condition copies the rest. -/
def Makes (f : Field) (c c' : Condition) : Change → Prop
  | field _ => c' = Condition.start c.id f
  | operator op =>
      f.allows op = true ∧
        c' = { c with
          operator := op
          secondValue := if op.takesRange then c.secondValue else none }
  | operatorId id =>
      ∃ op, Operator.ofId? id = some op ∧ f.allows op = true ∧
        c' = { c with
          operator := op
          secondValue := if op.takesRange then c.secondValue else none }
  | value v => f.check v = .ok () ∧ c' = { c with value := some v }
  | secondValue v =>
      c.operator = .between ∧ f.check v = .ok () ∧ c' = { c with secondValue := some v }

/-- The parts that a change copies fit a field. -/
def CopiesFit (f : Field) (c : Condition) : Change → Prop
  | field _ => True
  | operator op =>
      c.kind = f.type.kind ∧ f.Accepts c.value ∧ (op = .between → f.Accepts c.secondValue)
  | operatorId id =>
      c.kind = f.type.kind ∧ f.Accepts c.value ∧
        (Operator.ofId? id = some .between → f.Accepts c.secondValue)
  | value _ => c.kind = f.type.kind ∧ f.allows c.operator = true ∧ f.Accepts c.secondValue
  | secondValue _ => c.kind = f.type.kind ∧ f.allows c.operator = true ∧ f.Accepts c.value

end Change

namespace Condition

variable {schema : Schema} {f : Field} {c c' : Condition}

theorem setOperator_eq_ok_iff
    {op : Operator} :
    c.setOperator schema op = .ok c' ↔
      ∃ f, schema.field c.field = .ok f ∧ (Change.operator op).Makes f c c' := by
  constructor
  · intro h
    obtain ⟨f, hf, h⟩ := bind_eq_ok_iff.mp h
    obtain ⟨_, hop, h⟩ := bind_eq_ok_iff.mp h
    cases h
    exact ⟨f, hf, (f.checkOperator_eq_ok_iff op).mp hop, rfl⟩
  · rintro ⟨f, hf, hop, rfl⟩
    exact bind_eq_ok_iff.mpr ⟨f, hf,
      bind_eq_ok_iff.mpr ⟨(), (f.checkOperator_eq_ok_iff op).mpr hop, rfl⟩⟩

theorem setOperatorId_eq_ok_iff
    {id : String} :
    c.setOperatorId schema id = .ok c' ↔
      ∃ f, schema.field c.field = .ok f ∧ (Change.operatorId id).Makes f c c' := by
  unfold setOperatorId
  cases hid : Operator.ofId? id with
  | none =>
      simp [Change.Makes, hid]
  | some op =>
      simp only [setOperator_eq_ok_iff, Change.Makes, hid, Option.some.injEq]
      constructor
      · rintro ⟨f, hf, hop, rfl⟩
        exact ⟨f, hf, op, rfl, hop, rfl⟩
      · rintro ⟨f, hf, _, rfl, hop, rfl⟩
        exact ⟨f, hf, hop, rfl⟩

theorem setValue_eq_ok_iff
    {v : TypedValue} :
    c.setValue schema v = .ok c' ↔
      ∃ f, schema.field c.field = .ok f ∧ (Change.value v).Makes f c c' := by
  constructor
  · intro h
    obtain ⟨f, hf, h⟩ := bind_eq_ok_iff.mp h
    obtain ⟨_, hv, h⟩ := bind_eq_ok_iff.mp h
    cases h
    exact ⟨f, hf, hv, rfl⟩
  · rintro ⟨f, hf, hv, rfl⟩
    exact bind_eq_ok_iff.mpr ⟨f, hf, bind_eq_ok_iff.mpr ⟨(), hv, rfl⟩⟩

theorem setSecondValue_eq_ok_iff
    {v : TypedValue} :
    c.setSecondValue schema v = .ok c' ↔
      ∃ f, schema.field c.field = .ok f ∧ (Change.secondValue v).Makes f c c' := by
  unfold setSecondValue
  by_cases hop : c.operator = .between
  · rw [if_pos ((Operator.takesRange_iff c.operator).mpr hop)]
    constructor
    · intro h
      obtain ⟨f, hf, h⟩ := bind_eq_ok_iff.mp h
      obtain ⟨_, hv, h⟩ := bind_eq_ok_iff.mp h
      cases h
      exact ⟨f, hf, hop, hv, rfl⟩
    · rintro ⟨f, hf, _, hv, rfl⟩
      exact bind_eq_ok_iff.mpr ⟨f, hf, bind_eq_ok_iff.mpr ⟨(), hv, rfl⟩⟩
  · rw [if_neg fun h => hop ((Operator.takesRange_iff c.operator).mp h)]
    simp [Change.Makes, hop]

/-- What a change checks and what it makes. -/
theorem change_eq_ok_iff
    {a : Change} :
    c.change schema a = .ok c' ↔ ∃ f, schema.field (a.target c) = .ok f ∧ a.Makes f c c' := by
  cases a with
  | field id =>
      exact on_eq_ok_iff
  | operator op =>
      exact setOperator_eq_ok_iff
  | operatorId id =>
      exact setOperatorId_eq_ok_iff
  | value v =>
      exact setValue_eq_ok_iff
  | secondValue v =>
      exact setSecondValue_eq_ok_iff

/-- The field that a change looks up is the one of the new condition. -/
theorem field_of_makes
    {a : Change} (hf : schema.field (a.target c) = .ok f) (h : a.Makes f c c') :
    schema.field c'.field = .ok f := by
  cases a with
  | field id =>
      subst h
      have hid : f.id = id := ((schema.field_eq_ok_iff id f).mp hf).2
      rw [← hid] at hf
      exact hf
  | operator op =>
      obtain ⟨_, rfl⟩ := h
      exact hf
  | operatorId id =>
      obtain ⟨_, _, _, rfl⟩ := h
      exact hf
  | value v =>
      obtain ⟨_, rfl⟩ := h
      exact hf
  | secondValue v =>
      obtain ⟨_, _, rfl⟩ := h
      exact hf

theorem rangeOnly_setOperator
    (c : Condition) (op : Operator) :
    RangeOnly { c with
      operator := op
      secondValue := if op.takesRange then c.secondValue else none } := by
  intro h
  by_cases hop : op = .between
  · exact hop
  · simp [Operator.takesRange_eq_false hop] at h

/-- A change leaves a second value only with an operator that takes a range. -/
theorem rangeOnly_of_makes
    {a : Change} (h : a.Makes f c c') (hc : c.RangeOnly) :
    c'.RangeOnly := by
  cases a with
  | field id =>
      subst h
      exact (fits_start c.id f).rangeOnly
  | operator op =>
      obtain ⟨_, rfl⟩ := h
      exact rangeOnly_setOperator c op
  | operatorId id =>
      obtain ⟨op, _, _, rfl⟩ := h
      exact rangeOnly_setOperator c op
  | value v =>
      obtain ⟨_, rfl⟩ := h
      exact hc
  | secondValue v =>
      obtain ⟨hop, _, rfl⟩ := h
      exact fun _ => hop

theorem accepts_setOperator_iff
    (f : Field) (c : Condition) (op : Operator) :
    f.Accepts (if op.takesRange then c.secondValue else none) ↔
      (op = .between → f.Accepts c.secondValue) := by
  by_cases hop : op = .between
  · simp [hop, Operator.takesRange]
  · simp [hop, Operator.takesRange_eq_false hop, f.accepts_none]

/-- The condition with another operator fits a field that offers the operator exactly if
the parts that are copied do. -/
theorem fits_setOperator_iff
    {op : Operator} (hop : f.allows op = true) :
    Fits f { c with
      operator := op
      secondValue := if op.takesRange then c.secondValue else none } ↔
    c.kind = f.type.kind ∧ f.Accepts c.value ∧ (op = .between → f.Accepts c.secondValue) := by
  rw [← accepts_setOperator_iff]
  constructor
  · rintro ⟨hkind, _, hvalue, hsecond, _⟩
    exact ⟨hkind, hvalue, hsecond⟩
  · rintro ⟨hkind, hvalue, hsecond⟩
    exact ⟨hkind, hop, hvalue, hsecond, rangeOnly_setOperator c op⟩

/-- The result of a change fits exactly if the parts that are copied do. -/
theorem fits_iff_of_makes
    {a : Change} (h : a.Makes f c c') (hc : c.RangeOnly) :
    c'.Fits f ↔ a.CopiesFit f c := by
  cases a with
  | field id =>
      subst h
      exact ⟨fun _ => trivial, fun _ => fits_start c.id f⟩
  | operator op =>
      obtain ⟨hop, rfl⟩ := h
      exact fits_setOperator_iff hop
  | operatorId id =>
      obtain ⟨op, hid, hop, rfl⟩ := h
      rw [fits_setOperator_iff hop]
      simp [Change.CopiesFit, hid]
  | value v =>
      obtain ⟨hv, rfl⟩ := h
      constructor
      · rintro ⟨hkind, hop, _, hsecond, _⟩
        exact ⟨hkind, hop, hsecond⟩
      · rintro ⟨hkind, hop, hsecond⟩
        exact ⟨hkind, hop, (f.accepts_some_iff v).mpr hv, hsecond, hc⟩
  | secondValue v =>
      obtain ⟨hrange, hv, rfl⟩ := h
      constructor
      · rintro ⟨hkind, hop, hvalue, _, _⟩
        exact ⟨hkind, hop, hvalue⟩
      · rintro ⟨hkind, hop, hvalue⟩
        exact ⟨hkind, hop, hvalue, (f.accepts_some_iff v).mpr hv, fun _ => hrange⟩

/-- All parts that a change copies from a fitting condition fit. -/
theorem copiesFit_of_fits
    (a : Change) (h : c.Fits f) :
    a.CopiesFit f c := by
  cases a with
  | field id =>
      trivial
  | operator op =>
      exact ⟨h.kind, h.value, fun _ => h.secondValue⟩
  | operatorId id =>
      exact ⟨h.kind, h.value, fun _ => h.secondValue⟩
  | value v =>
      exact ⟨h.kind, h.operator, h.secondValue⟩
  | secondValue v =>
      exact ⟨h.kind, h.operator, h.value⟩

/-- A change under the schema that a condition is well formed under keeps it so. -/
theorem wellFormed_change
    {a : Change} (hc : c.WellFormed schema) (h : c.change schema a = .ok c') :
    c'.WellFormed schema := by
  obtain ⟨g, hg, hfits⟩ := hc
  obtain ⟨f, hf, hmakes⟩ := change_eq_ok_iff.mp h
  refine ⟨f, field_of_makes hf hmakes, ?_⟩
  rw [fits_iff_of_makes hmakes hfits.rangeOnly]
  cases a with
  | field id =>
      trivial
  | operator | operatorId | value | secondValue =>
      have hsame : Except.ok f = Except.ok g := hf.symm.trans hg
      cases hsame
      exact copiesFit_of_fits _ hfits

end Condition
end Audience
