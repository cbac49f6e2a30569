import Audience.Proofs.Condition.Composed

/-!
# What editing can build

A condition is built under a schema if it is what some changes make of a new one, all of which
succeed under that schema.

**Invariant.**  A new condition is well formed, and a change keeps it so.  So whatever is built is
well formed.

**Recipe.**  Conversely, a well-formed condition is built from a new one on its field: first its
operator is set, then its values as far as it has any.  The second value can be set because the
operator takes a range by then.

**Loading.**  Well formed is also what can be assembled from its parts.  So assembling, and hence
loading a stored condition that can be read, accepts what editing can build and nothing else.

**Results.**
* `Condition.wellFormed_changeAll`: changes keep a condition well formed.
* `Condition.changeAll_recipe`: the recipe of a well-formed condition succeeds.
* `Condition.built_iff_wellFormed`: what editing can build.
* `Condition.assemble_eq_ok_iff_built`: assembling and loading accept exactly that.
-/

namespace Audience

namespace Condition

/-- Makes changes in order.  The first one that fails ends them. -/
def changeAll (schema : Schema) : List Change → Condition → Except Error Condition
  | [], c => .ok c
  | a :: rest, c => do
      let c' ← c.change schema a
      c'.changeAll schema rest

/-- Some changes that all succeed make the condition of a new one with its identifier. -/
def Built (schema : Schema) (c : Condition) : Prop :=
  ∃ fieldId new changes,
    on schema fieldId c.id = .ok new ∧ new.changeAll schema changes = .ok c

section Invariant

variable {schema : Schema} {c c' c'' : Condition} {changes : List Change}

theorem changeAll_cons_eq_ok_iff
    {a : Change} :
    c.changeAll schema (a :: changes) = .ok c'' ↔
      ∃ c', c.change schema a = .ok c' ∧ c'.changeAll schema changes = .ok c'' :=
  bind_eq_ok_iff

/-- Changes that all succeed keep a condition well formed. -/
theorem wellFormed_changeAll
    (hc : c.WellFormed schema) (h : c.changeAll schema changes = .ok c') :
    c'.WellFormed schema := by
  induction changes generalizing c with
  | nil =>
      cases h
      exact hc
  | cons a rest ih =>
      obtain ⟨next, hchange, hrest⟩ := changeAll_cons_eq_ok_iff.mp h
      exact ih (wellFormed_change hc hchange) hrest

theorem wellFormed_of_built
    (h : c.Built schema) :
    c.WellFormed schema := by
  obtain ⟨fieldId, new, changes, hnew, hchanges⟩ := h
  exact wellFormed_changeAll (wellFormed_on hnew) hchanges

end Invariant

section Recipe

variable {schema : Schema} {f : Field} {c : Condition}

/-- The changes that make the condition of a new one on its field. -/
def recipe (c : Condition) : List Change :=
  .operator c.operator ::
    (c.value.toList.map Change.value ++ c.secondValue.toList.map Change.secondValue)

/-- The operator is set on a condition without values. -/
theorem change_operator_of_allows
    (hf : schema.field c.field = .ok f) (hop : f.allows c.operator = true) (op : Operator) :
    change schema (.operator c.operator)
        { c with operator := op, value := none, secondValue := none } =
      .ok { c with value := none, secondValue := none } := by
  refine change_eq_ok_iff.mpr ⟨f, hf, hop, ?_⟩
  -- There is no second value that the operator could keep or drop.
  simp

theorem changeAll_secondValue
    (hf : schema.field c.field = .ok f) (hsecond : f.Accepts c.secondValue)
    (hrange : c.RangeOnly) :
    changeAll schema (c.secondValue.toList.map Change.secondValue)
        { c with secondValue := none } = .ok c := by
  obtain ⟨id, field, kind, op, value, secondValue⟩ := c
  cases secondValue with
  | none =>
      rfl
  | some v =>
      have hcheck : f.check v = .ok () := hsecond v rfl
      refine changeAll_cons_eq_ok_iff.mpr ⟨_, change_eq_ok_iff.mpr ⟨f, hf, ?_⟩, rfl⟩
      exact ⟨hrange rfl, hcheck, rfl⟩

/-- The values of a condition are set as far as it has any, the second one last. -/
theorem changeAll_values
    (hf : schema.field c.field = .ok f) (hfits : c.Fits f) :
    changeAll schema
        (c.value.toList.map Change.value ++ c.secondValue.toList.map Change.secondValue)
        { c with value := none, secondValue := none } = .ok c := by
  have hlast := changeAll_secondValue hf hfits.secondValue hfits.rangeOnly
  obtain ⟨id, field, kind, op, value, secondValue⟩ := c
  cases value with
  | none =>
      exact hlast
  | some v =>
      have hcheck : f.check v = .ok () := hfits.value v rfl
      refine changeAll_cons_eq_ok_iff.mpr ⟨_, change_eq_ok_iff.mpr ⟨f, hf, ?_⟩, hlast⟩
      exact ⟨hcheck, rfl⟩

/-- A well-formed condition is made by its recipe of a new condition on its field. -/
theorem changeAll_recipe
    (hf : schema.field c.field = .ok f) (hfits : c.Fits f) :
    (start c.id f).changeAll schema c.recipe = .ok c := by
  have hstart : start c.id f =
      { c with operator := f.defaultOperator, value := none, secondValue := none } := by
    have hid : f.id = c.field := ((schema.field_eq_ok_iff c.field f).mp hf).2
    rw [start, hid, hfits.kind]
  rw [hstart]
  exact changeAll_cons_eq_ok_iff.mpr
    ⟨_, change_operator_of_allows hf hfits.operator _, changeAll_values hf hfits⟩

/-- What editing under one schema can build are the conditions that are well formed under it. -/
theorem built_iff_wellFormed :
    c.Built schema ↔ c.WellFormed schema := by
  constructor
  · exact wellFormed_of_built
  · rintro ⟨f, hf, hfits⟩
    have hnew : on schema c.field c.id = .ok (start c.id f) := on_eq_ok_iff.mpr ⟨f, hf, rfl⟩
    exact ⟨c.field, start c.id f, c.recipe, hnew, changeAll_recipe hf hfits⟩

end Recipe

/-- The parts of a condition that are stored. -/
structure HasParts (id : Uuid) (fieldId : String) (op : Operator)
    (value secondValue : Option TypedValue) (c : Condition) : Prop where
  id : c.id = id
  field : c.field = fieldId
  operator : c.operator = op
  value : c.value = value
  secondValue : c.secondValue = secondValue

end Condition

/-- All parts of a stored condition can be read, as these. -/
structure StoredCondition.Reads (raw : StoredCondition) (id : Uuid) (op : Operator)
    (value secondValue : Option TypedValue) : Prop where
  id : Uuid.parse? raw.id = some id
  operator : Operator.ofId? raw.operatorId = some op
  value : readTyped raw.fieldId raw.value = .ok value
  secondValue : readTyped raw.fieldId raw.secondValue = .ok secondValue

namespace StoredCondition

variable {schema : Schema} {raw : StoredCondition} {id : Uuid} {op : Operator}
  {value secondValue : Option TypedValue} {c : Condition}

/-- A stored condition that can be read is active exactly if its parts can be assembled. -/
theorem load_eq_ok_iff_of_reads
    (h : raw.Reads id op value secondValue) (ids : IdSource) :
    (raw.load schema ids).1 = .ok c ↔
      Condition.assemble schema id raw.fieldId op value secondValue = .ok c := by
  have hload : (raw.load schema ids).1 = .ok c ↔ raw.activate schema id = .ok c := by
    rw [load, h.id]
    cases hactive : raw.activate schema id <;> simp [hactive]
  rw [hload, activate_eq_ok_iff]
  constructor
  · rintro ⟨op', value', secondValue', hop, hvalue, hsecond, hassemble⟩
    cases hop.symm.trans h.operator
    cases hvalue.symm.trans h.value
    cases hsecond.symm.trans h.secondValue
    exact hassemble
  · intro hassemble
    exact ⟨op, value, secondValue, h.operator, h.value, h.secondValue, hassemble⟩

/-- A range up to zero whose first bound is missing. -/
def openRange : StoredCondition where
  id := "00000000000000000000000000000000"
  fieldId := "x"
  operatorId := "between"
  value := none
  secondValue := some (.object [("type", .text "number"), ("value", .real (.zero false))])

end StoredCondition

namespace Condition

/-- Assembling gives the conditions with these parts that are well formed. -/
theorem assemble_eq_ok_iff_wellFormed
    {schema : Schema} {id : Uuid} {fieldId : String} {op : Operator}
    {value secondValue : Option TypedValue} {c : Condition} :
    assemble schema id fieldId op value secondValue = .ok c ↔
      c.WellFormed schema ∧ c.HasParts id fieldId op value secondValue := by
  constructor
  · intro h
    obtain ⟨f, _, rfl, _⟩ := assemble_eq_ok_iff.mp h
    exact ⟨wellFormed_of_assemble h, rfl, rfl, rfl, rfl, rfl⟩
  · rintro ⟨hwell, rfl, rfl, rfl, rfl, rfl⟩
    exact (wellFormed_iff_assemble schema c).mp hwell

/-- Parts are assembled to a condition exactly if editing can build the condition that has them,
whatever the identifier, field, operator and values.  If they are the parts of a stored condition
that can be read, it is loaded as that condition exactly then. -/
theorem assemble_eq_ok_iff_built
    (schema : Schema) (id : Uuid) (fieldId : String) (op : Operator)
    (value secondValue : Option TypedValue) (c : Condition) :
    (assemble schema id fieldId op value secondValue = .ok c ↔
      c.Built schema ∧ c.HasParts id fieldId op value secondValue) ∧
    ∀ (raw : StoredCondition) (ids : IdSource),
      raw.fieldId = fieldId →
      raw.Reads id op value secondValue →
        ((raw.load schema ids).1 = .ok c ↔
          c.Built schema ∧ c.HasParts id fieldId op value secondValue) := by
  have hassemble : assemble schema id fieldId op value secondValue = .ok c ↔
      c.Built schema ∧ c.HasParts id fieldId op value secondValue := by
    rw [built_iff_wellFormed, assemble_eq_ok_iff_wellFormed]
  refine ⟨hassemble, ?_⟩
  rintro raw ids rfl hreads
  rw [StoredCondition.load_eq_ok_iff_of_reads hreads ids, hassemble]

/-- A range up to zero whose first bound is still missing. -/
def openRange : Condition where
  id := default
  field := "x"
  kind := .number
  operator := .between
  value := none
  secondValue := some (.number (.zero false))

/-- The range is built although its first bound is missing, and it is loaded as it is. -/
theorem assemble_eq_ok_iff_built_openRange :
    openRange.Built (Schema.single "x" .number) ∧
      (StoredCondition.openRange.load (Schema.single "x" .number) (IdSource.seeded 0)).1 =
        .ok openRange := by
  obtain ⟨hassemble, hload⟩ := assemble_eq_ok_iff_built (Schema.single "x" .number) default "x"
    .between none (some (.number (.zero false))) openRange
  have hreads : StoredCondition.openRange.Reads default .between none
      (some (.number (.zero false))) :=
    ⟨by decide +kernel, rfl, rfl, rfl⟩
  have hbuilt := hassemble.mp rfl
  exact ⟨hbuilt.1, (hload StoredCondition.openRange (IdSource.seeded 0) rfl hreads).mpr hbuilt⟩

end Condition
end Audience
