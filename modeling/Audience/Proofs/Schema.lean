import Audience.Schema

/-!
# Building schemas and looking fields up

A list of fields becomes a schema if no identifier is repeated in it.  Otherwise the error names
the identifier at the first position at which one occurs again, which need not be the one that
occurs first.

**Looking up.**  A field is found through the index and not by a search of the list.  As the index
has exactly the positions of the list, what is found is nevertheless the one field of the list
with the identifier, and nothing is found only if there is none.

**Results.**
* `Schema.Index.build_eq_error_iff`: the error of building an index is its first repetition.
* `Schema.filter_eq_singleton_iff`: the field that is looked up is the only one of its identifier.
* `Schema.ofFields_indexed`: which lists are schemas, which error others give, and what is found.
-/

namespace Audience
namespace Schema

variable {ids : List String} {fields : List Field} {schema : Schema} {e : Error}

/-- Of two first repetitions neither stands before the other. -/
theorem FirstRepeat.eq
    {pos pos' : Nat} {id id' : String} (h : FirstRepeat ids pos id)
    (h' : FirstRepeat ids pos' id') :
    id = id' := by
  rcases Nat.lt_trichotomy pos pos' with hlt | rfl | hgt
  · exact absurd h.before (h'.first pos hlt id h.stands)
  · exact Option.some.inj (h.stands.symm.trans h'.stands)
  · exact absurd h'.before (h.first pos' hgt id' h'.stands)

theorem Index.build_eq_error_iff :
    Index.build ids = .error e ↔ ∃ pos id, FirstRepeat ids pos id ∧ e = .duplicateField id := by
  rcases Index.build_cases ids with ⟨hbuild, hagrees⟩ | ⟨pos, id, hrepeat, hbuild⟩
  · rw [hbuild]
    constructor
    · rintro ⟨⟩
    · rintro ⟨pos, id, hrepeat, _⟩
      exact absurd hagrees.nodup hrepeat.not_nodup
  · rw [hbuild]
    constructor
    · rintro ⟨⟩
      exact ⟨pos, id, hrepeat, rfl⟩
    · rintro ⟨pos', id', hrepeat', rfl⟩
      rw [hrepeat.eq hrepeat']

/-- A schema is made of its own fields, and of no other list. -/
theorem ofFields_eq_ok_iff :
    ofFields fields = .ok schema ↔ schema.fields = fields := by
  constructor
  · intro h
    unfold ofFields at h
    split at h
    · cases h
      rfl
    · cases h
  · rintro rfl
    have hbuild : Index.build (schema.fields.map Field.id) = .ok schema.index :=
      Index.build_eq_ok_iff.mpr ⟨schema.distinct, schema.index_eq⟩
    unfold ofFields
    split
    · next index h =>
        cases h.symm.trans hbuild
        rfl
    · next h =>
        cases h.symm.trans hbuild

theorem ofFields_eq_error_iff :
    ofFields fields = .error e ↔ Index.build (fields.map Field.id) = .error e := by
  unfold ofFields
  split
  · next hbuild => simp [hbuild]
  · next hbuild => simp [hbuild]

theorem exists_ofFields_eq_ok_iff :
    (∃ schema, ofFields fields = .ok schema) ↔ (fields.map Field.id).Nodup := by
  constructor
  · rintro ⟨schema, h⟩
    rw [← ofFields_eq_ok_iff.mp h]
    exact schema.distinct
  · intro h
    exact ⟨{ fields, distinct := h }, ofFields_eq_ok_iff.mpr rfl⟩

theorem filter_eq_singleton
    (h : (fields.map Field.id).Nodup) {f : Field} (hf : f ∈ fields) :
    fields.filter (·.id == f.id) = [f] := by
  induction fields with
  | nil =>
      cases hf
  | cons g rest ih =>
      rw [List.map_cons, List.nodup_cons] at h
      rcases List.mem_cons.mp hf with rfl | hf
      · rw [List.filter_cons_of_pos (by simp), List.filter_eq_nil_iff.mpr]
        intro g hg heq
        exact h.1 (List.mem_map.mpr ⟨g, hg, by simpa using heq⟩)
      · have hne : g.id ≠ f.id := fun heq => h.1 (heq ▸ List.mem_map_of_mem hf)
        rw [List.filter_cons_of_neg (by simpa using hne)]
        exact ih h.2 hf

theorem filter_eq_singleton_iff (schema : Schema) (id : String) (f : Field) :
    schema.fields.filter (·.id == id) = [f] ↔ f ∈ schema.fields ∧ f.id = id := by
  constructor
  · intro h
    have hf : f ∈ schema.fields.filter (·.id == id) := h ▸ List.mem_singleton_self f
    simpa using List.mem_filter.mp hf
  · rintro ⟨hf, rfl⟩
    exact filter_eq_singleton schema.distinct hf

/-- Exactly the lists without a repeated identifier are schemas, and of any other list the first
repetition is reported.  The schema of a list has its fields in their order and the position of
each at its identifier; looking an identifier up finds the one field that has it, or reports
that there is none. -/
theorem ofFields_indexed
    (fields : List Field) :
    ((∃ schema, ofFields fields = .ok schema) ↔ (fields.map Field.id).Nodup) ∧
    (∀ e, ofFields fields = .error e ↔
      ∃ pos id, FirstRepeat (fields.map Field.id) pos id ∧ e = .duplicateField id) ∧
    ∀ schema, ofFields fields = .ok schema →
      schema.fields = fields ∧
      (∀ id pos, Keyed.find? id schema.index = some pos ↔
        (fields.map Field.id)[pos]? = some id) ∧
      ∀ id,
        (∀ f, schema.field id = .ok f ↔ fields.filter (·.id == id) = [f]) ∧
        ∀ e, schema.field id = .error e ↔
          (∀ f ∈ fields, f.id ≠ id) ∧ e = .unknownField id := by
  refine ⟨exists_ofFields_eq_ok_iff, fun e => ?_, fun schema h => ?_⟩
  · rw [ofFields_eq_error_iff, Index.build_eq_error_iff]
  · obtain rfl := ofFields_eq_ok_iff.mp h
    refine ⟨rfl, schema.agrees_index, fun id => ⟨fun f => ?_, fun e => ?_⟩⟩
    · rw [field_eq_ok_iff, filter_eq_singleton_iff]
    · rw [field_eq_error_iff, field?_eq_none_iff]

/-- Two fields, and both of them again. -/
def twoTwice : List Field := [
  ⟨"age", "Age", .number⟩, ⟨"city", "City", .text⟩,
  ⟨"city", "City again", .text⟩, ⟨"age", "Age again", .text⟩]

/-- It is the second field that is repeated first. -/
theorem ofFields_indexed_twoTwice :
    FirstRepeat (twoTwice.map Field.id) 2 "city" ∧
      ofFields twoTwice = .error (.duplicateField "city") ∧
      ∃ schema, ofFields (twoTwice.take 2) = .ok schema ∧
        Keyed.find? "city" schema.index = some 1 ∧
        schema.field "city" = .ok ⟨"city", "City", .text⟩ ∧
        schema.field "email" = .error (.unknownField "email") := by
  have hrepeat : FirstRepeat (["age", "city"] ++ "city" :: ["age"]) ["age", "city"].length
      "city" := firstRepeat_of_mem (by decide) (by decide)
  obtain ⟨haccepts, _, hfinds⟩ := ofFields_indexed (twoTwice.take 2)
  obtain ⟨schema, hschema⟩ := haccepts.mpr (by decide)
  obtain ⟨_, hindex, hfield⟩ := hfinds schema hschema
  exact ⟨hrepeat, ((ofFields_indexed twoTwice).2.1 _).mpr ⟨2, "city", hrepeat, rfl⟩, schema, hschema,
    (hindex "city" 1).mpr rfl, ((hfield "city").1 _).mpr (by decide),
    ((hfield "email").2 _).mpr ⟨by decide, rfl⟩⟩

end Schema
end Audience
