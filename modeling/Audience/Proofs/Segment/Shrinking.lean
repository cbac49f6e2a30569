import Audience.Proofs.Evaluation
import Mathlib.Data.List.Forall2

/-!
# Loading under a smaller schema

A schema shrinks by losing fields, and its select fields by losing options.  A stored
condition that fits the smaller schema fits the larger one, and the same active condition
is loaded from it.  Under the smaller schema more conditions are set aside, and what is set
aside holds for nobody.

**Results.**
* `Field.check_of_shrinksTo`: a field accepts what it accepts with fewer options.
* `StoredCondition.activate_of_shrinksTo`: what is active under the smaller schema is active
  under the larger one.
* `StoredSegment.admits_load_of_shrinksTo`: a smaller schema never adds a customer.
-/

namespace Audience

section Schemas

/-- The type loses options, or stays as it is. -/
inductive FieldType.ShrinksTo : FieldType → FieldType → Prop
  | refl (type : FieldType) :
      ShrinksTo type type
  | select {options fewer : List Choice} :
      fewer.Sublist options →
      ShrinksTo (.select options) (.select fewer)

/-- The field keeps its identifier and name, and its type may lose options. -/
structure Field.ShrinksTo (f smaller : Field) : Prop where
  id : smaller.id = f.id
  displayName : smaller.displayName = f.displayName
  type : f.type.ShrinksTo smaller.type

/-- The schema loses fields, and those it keeps may lose options. -/
def Schema.ShrinksTo (schema smaller : Schema) : Prop :=
  List.SublistForall₂ (fun kept f => f.ShrinksTo kept) smaller.fields schema.fields

theorem FieldType.ShrinksTo.kind
    {type smaller : FieldType} (h : type.ShrinksTo smaller) :
    smaller.kind = type.kind := by
  cases h with
  | refl =>
      rfl
  | select =>
      rfl

theorem FieldType.ShrinksTo.operators
    {type smaller : FieldType} (h : type.ShrinksTo smaller) :
    smaller.operators = type.operators := by
  cases h with
  | refl =>
      rfl
  | select =>
      rfl

theorem Field.ShrinksTo.allows
    {f smaller : Field} (h : f.ShrinksTo smaller) (op : Operator) :
    smaller.allows op = f.allows op := by
  unfold Field.allows Field.operators
  rw [h.type.operators]

theorem Field.checkContents_of_shrinksTo
    {f smaller : Field} (h : f.ShrinksTo smaller) {v : TypedValue}
    (hv : smaller.checkContents v = .ok ()) :
    f.checkContents v = .ok () := by
  obtain ⟨id, displayName, type⟩ := f
  obtain ⟨id', displayName', type'⟩ := smaller
  obtain rfl : id' = id := h.id
  cases v with
  | number | boolean | date =>
      exact hv
  | text s =>
      cases h.type with
      | refl =>
          exact hv
      | @select options fewer hsublist =>
          simp only [Field.checkContents] at hv ⊢
          split at hv
          · next hany =>
              obtain ⟨choice, hmem, heq⟩ := List.any_eq_true.mp hany
              have hlarger : options.any (·.value == s) = true :=
                List.any_eq_true.mpr ⟨choice, hsublist.subset hmem, heq⟩
              rw [if_pos hlarger]
          · cases hv

theorem Field.check_of_shrinksTo
    {f smaller : Field} (h : f.ShrinksTo smaller) {v : TypedValue}
    (hv : smaller.check v = .ok ()) :
    f.check v = .ok () := by
  rw [Field.check_eq_ok_iff] at hv ⊢
  obtain ⟨hkind, hcontents⟩ := hv
  refine ⟨?_, Field.checkContents_of_shrinksTo h hcontents⟩
  rw [hkind, FieldType.valueKind, FieldType.valueKind, h.type.kind]

theorem Condition.Fits.of_shrinksTo
    {f smaller : Field} (h : f.ShrinksTo smaller) {c : Condition} (hc : c.Fits smaller) :
    c.Fits f := by
  constructor
  · exact hc.kind.trans h.type.kind
  · exact (h.allows c.operator).symm.trans hc.operator
  · intro v hv
    exact Field.check_of_shrinksTo h (hc.value v hv)
  · intro v hv
    exact Field.check_of_shrinksTo h (hc.secondValue v hv)
  · exact hc.rangeOnly

/-- A field of the smaller schema is what became of a field of the larger one. -/
theorem Schema.ShrinksTo.field
    {schema smaller : Schema} (h : schema.ShrinksTo smaller) {id : String} {kept : Field}
    (hkept : smaller.field id = .ok kept) :
    ∃ f, schema.field id = .ok f ∧ f.ShrinksTo kept := by
  obtain ⟨hmem, hid⟩ := (smaller.field_eq_ok_iff id kept).mp hkept
  obtain ⟨fields, hforall, hsublist⟩ := List.sublistForall₂_iff.mp h
  obtain ⟨i, hi, rfl⟩ := List.mem_iff_getElem.mp hmem
  have hi' : i < fields.length := hforall.length_eq ▸ hi
  have hf := hforall.get hi hi'
  refine ⟨fields[i], ?_, hf⟩
  rw [Schema.field_eq_ok_iff]
  exact ⟨hsublist.subset (List.getElem_mem hi'), hf.id.symm.trans hid⟩

end Schemas

section Loading

variable {schema smaller : Schema} {customer : Customer}

/-- What is active under the smaller schema is the same active condition under the larger
one. -/
theorem StoredCondition.activate_of_shrinksTo
    (h : schema.ShrinksTo smaller) {raw : StoredCondition} {id : Uuid} {c : Condition}
    (hc : raw.activate smaller id = .ok c) :
    raw.activate schema id = .ok c := by
  obtain ⟨op, value, secondValue, hop, hvalue, hsecond, hassemble⟩ :=
    activate_eq_ok_iff.mp hc
  obtain ⟨kept, hkept, rfl, hfits⟩ := Condition.assemble_eq_ok_iff.mp hassemble
  obtain ⟨f, hf, hshrinks⟩ := h.field hkept
  refine activate_eq_ok_iff.mpr ⟨op, value, secondValue, hop, hvalue, hsecond, ?_⟩
  refine Condition.assemble_eq_ok_iff.mpr ⟨f, hf, ?_, hfits.of_shrinksTo hshrinks⟩
  rw [hshrinks.type.kind]

theorem Entry.implies_ofLoad
    (h : schema.ShrinksTo smaller) (raw : StoredCondition) (ids ids' : IdSource) :
    Entry.Implies customer (Entry.ofLoad (raw.load smaller ids).1)
      (Entry.ofLoad (raw.load schema ids').1) := by
  intro hadmits
  cases hload : (raw.load smaller ids).1 with
  | error q =>
      rw [hload] at hadmits
      cases hadmits
  | ok c =>
      rw [hload] at hadmits
      obtain ⟨id, hid, hactive⟩ := StoredCondition.load_eq_ok_iff.mp hload
      have hlarger : (raw.load schema ids').1 = .ok c :=
        StoredCondition.load_eq_ok_iff.mpr
          ⟨id, hid, StoredCondition.activate_of_shrinksTo h hactive⟩
      rw [hlarger]
      exact hadmits

/-- A stored segment admits no customer under a smaller schema that it does not admit under
the larger one, whatever identifiers the two loads draw. -/
theorem StoredSegment.admits_load_of_shrinksTo
    (h : schema.ShrinksTo smaller) (stored : StoredSegment) (ids ids' : IdSource)
    (hadmits : (stored.load smaller ids).1.segment.admits customer = true) :
    (stored.load schema ids').1.segment.admits customer = true :=
  admits_load_of_implies (Entry.implies_ofLoad h) hadmits

/-- Of the standard schema, the field of tiers with one option. -/
def Schema.goldOnly : Schema where
  fields := [⟨"tier", "Loyalty tier", .select [⟨"gold", "Gold"⟩]⟩]
  distinct := by simp

theorem Schema.standard_shrinksTo_goldOnly :
    Schema.standard.ShrinksTo Schema.goldOnly := by
  refine List.sublistForall₂_iff.mpr ⟨[⟨"tier", "Loyalty tier", .select [⟨"bronze", "Bronze"⟩,
    ⟨"silver", "Silver"⟩, ⟨"gold", "Gold"⟩, ⟨"platinum", "Platinum"⟩]⟩], ?_, ?_⟩
  · exact .cons ⟨rfl, rfl, .select (by decide)⟩ .nil
  · exact List.singleton_sublist.mpr (by decide)

/-- The tier is gold, or the age equals a value that was never stored. -/
def StoredSegment.goldOrAge : StoredSegment where
  groups := [
    ⟨"00000000000000000000000000000001", .and,
      [⟨"00000000000000000000000000000002", "tier", "equals",
        some (.object [("type", .text "text"), ("value", .text "gold")]), none⟩]⟩,
    ⟨"later", .or, [⟨"00000000000000000000000000000003", "age", "equals", none, none⟩]⟩]

/-- Without the field of ages the condition of the second group is set aside; the first group
still holds. -/
theorem StoredSegment.admits_load_of_shrinksTo_goldOrAge :
    Schema.standard.ShrinksTo Schema.goldOnly ∧
      (goldOrAge.load Schema.goldOnly (IdSource.seeded 0)).1.segment.admits
        ((Customer.bare "c").set "tier" (.text "gold")) = true ∧
      (goldOrAge.load Schema.standard (IdSource.seeded 1)).1.segment.admits
        ((Customer.bare "c").set "tier" (.text "gold")) = true := by
  have hadmits : (goldOrAge.load Schema.goldOnly (IdSource.seeded 0)).1.segment.admits
      ((Customer.bare "c").set "tier" (.text "gold")) = true := by
    decide +kernel
  exact ⟨Schema.standard_shrinksTo_goldOnly, hadmits,
    admits_load_of_shrinksTo Schema.standard_shrinksTo_goldOnly goldOrAge _ _ hadmits⟩

end Loading

end Audience
