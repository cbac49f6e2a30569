import Audience.Proofs.Segment.Settling
import Audience.Proofs.Stored

/-!
# Loading what was saved

How the stored form of a condition is loaded, and how the entries and groups of a loaded
segment come about from their stored forms.

**Identifiers.**  Malformed identifiers are replaced while loading, so the result depends on
the identifiers that are left.  What is said of a single condition or group is said for all
of them.

**Results.**
* `Condition.load_stored`: a well-formed condition is loaded as it was saved, settled.
* `Condition.stored?_load_stored`: under any schema it keeps its stored form.
* `StoredCondition.load_error`: what is set aside keeps its stored form and is set aside
  again.
* `StoredCondition.load_eq_ok_iff`: when a condition is loaded as an active one.
* `StoredSegment.forall₂_load`: the groups are loaded one by one.
-/

namespace Audience

/-- Two lists that come from one list item by item match item by item. -/
theorem forall₂_of_common
    {α β γ : Type} {R : α → β → Prop} {S : α → γ → Prop} {T : β → γ → Prop}
    (h : ∀ a b c, R a b → S a c → T b c)
    {as : List α} {bs : List β} {cs : List γ}
    (hbs : List.Forall₂ R as bs) (hcs : List.Forall₂ S as cs) :
    List.Forall₂ T bs cs := by
  induction hbs generalizing cs with
  | nil =>
      cases hcs
      exact .nil
  | cons hb _ ih =>
      cases hcs with
      | cons hc hrest =>
          exact .cons (h _ _ _ hb hc) (ih hrest)

/-- An item of the second list has one at its place in the first. -/
theorem exists_mem_zip_of_forall₂
    {α β : Type} {R : α → β → Prop} {as : List α} {bs : List β}
    (h : List.Forall₂ R as bs) {b : β} (hb : b ∈ bs) :
    ∃ a, (a, b) ∈ as.zip bs ∧ R a b := by
  induction h with
  | nil =>
      cases hb
  | @cons a b' as bs hab _ ih =>
      rw [List.zip_cons_cons]
      rcases List.mem_cons.mp hb with rfl | hb
      · exact ⟨a, List.mem_cons_self, hab⟩
      · obtain ⟨a', hmem, hR⟩ := ih hb
        exact ⟨a', List.mem_cons_of_mem _ hmem, hR⟩

theorem exists_of_mem_forall₂
    {α β : Type} {R : α → β → Prop} {as : List α} {bs : List β}
    (h : List.Forall₂ R as bs) {b : β} (hb : b ∈ bs) :
    ∃ a ∈ as, R a b := by
  obtain ⟨a, hmem, hR⟩ := exists_mem_zip_of_forall₂ h hb
  exact ⟨a, (List.of_mem_zip hmem).1, hR⟩

/-- The entry that a loaded condition becomes. -/
def Entry.ofLoad : Except Quarantined Condition → Entry
  | .ok c => active c
  | .error q => quarantined q

namespace StoredCondition

theorem readTyped_some
    {x : Json} {v : TypedValue} (fieldId : String)
    (hne : x ≠ .null) (h : TypedValue.ofJson? x = some v) :
    readTyped fieldId (some x) = .ok (some v) := by
  cases x with
  | null =>
      exact absurd rfl hne
  | boolean | integer | real | text | array | object =>
      simp only [readTyped, h]

/-- A finite value is read back settled, and a missing one stays missing. -/
theorem readTyped_json
    {value : Option TypedValue} (fieldId : String) (h : ∀ v, value = some v → v.Finite) :
    readTyped fieldId (value.map TypedValue.json) = .ok (value.map TypedValue.settled) := by
  cases value with
  | none =>
      rfl
  | some v =>
      exact readTyped_some fieldId v.json_ne_null (TypedValue.ofJson?_json (h v rfl))

/-- The condition cannot be loaded as an active one. -/
def Rejected (schema : Schema) (raw : StoredCondition) : Prop :=
  ∀ ids, ∃ q, (raw.load schema ids).1 = .error q

/-- What is set aside keeps its stored form and is set aside again. -/
theorem load_error
    {schema : Schema} {raw : StoredCondition} {ids : IdSource} {q : Quarantined}
    (h : (raw.load schema ids).1 = .error q) :
    q.raw = some raw ∧ raw.Rejected schema := by
  unfold load at h
  split at h
  · next hid =>
      cases h
      exact ⟨rfl, fun ids => ⟨_, by rw [load_of_parse?_eq_none hid]⟩⟩
  · next id hid =>
      split at h
      · cases h
      · next reason hreason =>
          cases h
          exact ⟨rfl, fun ids => ⟨⟨id, some raw, reason⟩, by simp [load, hid, hreason]⟩⟩

/-- A condition is active exactly if it can be read under the identifier that is stored. -/
theorem load_eq_ok_iff
    {schema : Schema} {raw : StoredCondition} {ids : IdSource} {c : Condition} :
    (raw.load schema ids).1 = .ok c ↔
      ∃ id, Uuid.parse? raw.id = some id ∧ raw.activate schema id = .ok c := by
  unfold load
  cases hid : Uuid.parse? raw.id with
  | none =>
      simp
  | some id =>
      cases hactive : raw.activate schema id with
      | ok c' =>
          simp [hactive]
      | error reason =>
          simp [hactive]

/-- What is active was read under the identifier that is stored. -/
theorem load_ok
    {schema : Schema} {raw : StoredCondition} {ids : IdSource} {c : Condition}
    (h : (raw.load schema ids).1 = .ok c) :
    ∃ id, raw.activate schema id = .ok c := by
  obtain ⟨id, _, hactive⟩ := load_eq_ok_iff.mp h
  exact ⟨id, hactive⟩

/-- The conditions of a group are loaded one by one. -/
theorem forall₂_loadAll
    (schema : Schema) (groupId : Uuid) (raws : List StoredCondition) (ids : IdSource) :
    List.Forall₂ (fun raw e => ∃ ids, e = Entry.ofLoad (raw.load schema ids).1) raws
      (loadAll schema groupId raws ids).1 := by
  induction raws generalizing ids with
  | nil =>
      exact .nil
  | cons raw rest ih =>
      obtain ⟨ids', hids'⟩ : ∃ ids', (raw.load schema ids).2 = ids' := ⟨_, rfl⟩
      cases hload : (raw.load schema ids).1 with
      | ok c =>
          have hpair : raw.load schema ids = (.ok c, ids') := Prod.ext hload hids'
          simp only [loadAll, hpair]
          exact .cons ⟨ids, by rw [hload]; rfl⟩ (ih ids')
      | error q =>
          have hpair : raw.load schema ids = (.error q, ids') := Prod.ext hload hids'
          simp only [loadAll, hpair]
          exact .cons ⟨ids, by rw [hload]; rfl⟩ (ih ids')

end StoredCondition

namespace Condition

/-- The values of the condition are finite. -/
def Finite (c : Condition) : Prop :=
  (∀ v, c.value = some v → v.Finite) ∧ ∀ v, c.secondValue = some v → v.Finite

theorem WellFormed.finite
    {schema : Schema} {c : Condition} (h : c.WellFormed schema) :
    c.Finite := by
  obtain ⟨f, _, hfits⟩ := h
  exact ⟨fun v hv => Field.finite_of_check (hfits.value v hv),
    fun v hv => Field.finite_of_check (hfits.secondValue v hv)⟩

/-- Loading a saved condition assembles it from its parts, settled. -/
theorem activate_stored
    {c : Condition} (h : c.Finite) (schema : Schema) (id : Uuid) :
    c.stored.activate schema id =
      StoredCondition.explain c.field
        ((assemble schema id c.field c.operator c.value c.secondValue).map settled) := by
  obtain ⟨hvalue, hsecond⟩ := h
  rw [← assemble_settled]
  cases hfield : schema.field c.field with
  | error e =>
      simp only [StoredCondition.activate, stored, assemble, hfield]
      rfl
  | ok f =>
      have hread := StoredCondition.readTyped_json c.field hvalue
      have hread' := StoredCondition.readTyped_json c.field hsecond
      simp only [StoredCondition.activate, stored, assemble, hfield, Operator.ofId?_id, hread,
        hread']
      rfl

theorem parse?_id_stored (c : Condition) : Uuid.parse? c.stored.id = some c.id :=
  Uuid.parse?_text c.id

/-- A well-formed condition is loaded as it was saved, settled. -/
theorem load_stored
    {schema : Schema} {c : Condition} (h : c.WellFormed schema) (ids : IdSource) :
    c.stored.load schema ids = (.ok c.settled, ids) := by
  have hactive : c.stored.activate schema c.id = .ok c.settled := by
    rw [activate_stored h.finite, (wellFormed_iff_assemble schema c).mp h]
    rfl
  simp [StoredCondition.load, c.parse?_id_stored, hactive]

/-- Under any schema a loaded condition has the stored form that it was loaded from. -/
theorem stored?_load_stored
    {c : Condition} (h : c.Finite) (schema : Schema) (ids : IdSource) :
    (Entry.ofLoad (c.stored.load schema ids).1).stored? = some c.stored := by
  cases hload : (c.stored.load schema ids).1 with
  | error q =>
      exact (StoredCondition.load_error hload).1
  | ok c' =>
      have hactive : c.stored.activate schema c.id = .ok c' := by
        simp only [StoredCondition.load, c.parse?_id_stored] at hload
        split at hload
        · next hc =>
            cases hload
            exact hc
        · cases hload
      rw [activate_stored h, StoredCondition.explain_eq_ok_iff] at hactive
      obtain ⟨made, hmade, rfl⟩ := map_eq_ok_iff.mp hactive
      obtain ⟨f, _, rfl, _⟩ := assemble_eq_ok_iff.mp hmade
      exact congrArg some (stored_settled _)

/-- The stored form of a condition is kept in a document. -/
theorem kept_stored
    (c : Condition) :
    c.stored.Kept := by
  have hkept : ∀ value : Option TypedValue,
      StoredCondition.KeptValue (value.map TypedValue.json) := by
    rintro value x hx
    obtain ⟨v, _, rfl⟩ := Option.map_eq_some_iff.mp hx
    exact ⟨v.json_ne_null, v.kept_json (by decide)⟩
  exact ⟨hkept c.value, hkept c.secondValue⟩

end Condition

namespace StoredGroup

/-- A group is loaded with its combinator and its conditions. -/
theorem load_group
    (schema : Schema) (raw : StoredGroup) (ids : IdSource) :
    ∃ id ids', (raw.load schema ids).1 =
      ⟨id, raw.combinator, (StoredCondition.loadAll schema id raw.conditions ids').1,
        if (Uuid.parse? raw.id).isSome then none else some raw.id⟩ ∧
      ∀ parsed, Uuid.parse? raw.id = some parsed → id = parsed := by
  cases hid : Uuid.parse? raw.id with
  | some id =>
      exact ⟨id, ids, by simp [load, hid], by rintro _ ⟨⟩; rfl⟩
  | none =>
      exact ⟨ids.next, ids.advance, by simp [load, hid], by rintro _ ⟨⟩⟩

/-- Groups are loaded one by one. -/
theorem forall₂_loadAll
    (schema : Schema) (raws : List StoredGroup) (ids : IdSource) :
    List.Forall₂ (fun raw g => ∃ ids, g = (raw.load schema ids).1) raws
      (loadAll schema raws ids).1 := by
  induction raws generalizing ids with
  | nil =>
      exact .nil
  | cons raw rest ih =>
      exact .cons ⟨ids, rfl⟩ (ih _)

end StoredGroup

namespace StoredSegment

/-- The groups of a segment are loaded one by one, if there are any. -/
theorem forall₂_load
    (schema : Schema) {stored : StoredSegment} (h : stored.groups ≠ []) (ids : IdSource) :
    List.Forall₂ (fun raw g => ∃ ids, g = (raw.load schema ids).1) stored.groups
      (stored.load schema ids).1.segment.groups := by
  obtain ⟨groups⟩ := stored
  cases groups with
  | nil =>
      exact absurd rfl h
  | cons raw rest =>
      exact .cons ⟨ids, rfl⟩ (StoredGroup.forall₂_loadAll schema rest _)

end StoredSegment
end Audience
