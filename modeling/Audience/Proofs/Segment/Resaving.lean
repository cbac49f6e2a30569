import Audience.Proofs.Segment.Drawing
import Audience.Proofs.Segment.RoundTrip

/-!
# Documents after the first save

Loading a stored segment and saving it again brings its document into a normal form under
the schema: identifiers in the usual spelling, values as they are written, and no null for
a missing one.  What was set aside, and a malformed identifier of a group, stay as they are.

**Normal form.**  It does not depend on the identifiers that are drawn, and it is loaded as
the document itself is: an active condition, whose dates were read and so are settled, is read
back from its written parts, and what was set aside is set aside again for the same reason.

**Results.**
* `StoredSegment.stored_load`: what is saved after a load is the normal form.
* `StoredSegment.load_normalized`: the normal form is loaded as the document is.
* `StoredSegment.load_resaved`: after the first save nothing changes any more.
-/

namespace Audience

namespace StoredCondition

/-- The condition as it is written after it was loaded under a schema. -/
def normalized (schema : Schema) (raw : StoredCondition) : StoredCondition :=
  match (Uuid.parse? raw.id).map fun id => raw.activate schema id with
  | some (.ok c) => c.stored
  | _ => raw

theorem normalized_of_activate
    {schema : Schema} {raw : StoredCondition} {id : Uuid} {c : Condition}
    (hid : Uuid.parse? raw.id = some id) (hc : raw.activate schema id = .ok c) :
    raw.normalized schema = c.stored := by
  simp [normalized, hid, hc]

theorem normalized_of_reason
    {schema : Schema} {raw : StoredCondition} {id : Uuid} {reason : MismatchReason}
    (hid : Uuid.parse? raw.id = some id) (hreason : raw.activate schema id = .error reason) :
    raw.normalized schema = raw := by
  simp [normalized, hid, hreason]

theorem normalized_of_malformed
    {raw : StoredCondition} (hid : Uuid.parse? raw.id = none) (schema : Schema) :
    raw.normalized schema = raw := by
  simp [normalized, hid]

theorem stored?_load
    (schema : Schema) (raw : StoredCondition) (ids : IdSource) :
    (Entry.ofLoad (raw.load schema ids).1).stored? = some (raw.normalized schema) := by
  cases hid : Uuid.parse? raw.id with
  | none =>
      rw [load_of_parse?_eq_none hid, normalized_of_malformed hid]
      rfl
  | some id =>
      cases hactive : raw.activate schema id with
      | ok c =>
          rw [normalized_of_activate hid hactive]
          simp [load, hid, hactive, Entry.ofLoad, Entry.stored?]
      | error reason =>
          rw [normalized_of_reason hid hactive]
          simp [load, hid, hactive, Entry.ofLoad]

/-- The normal form of a condition is loaded as the condition is. -/
theorem load_normalized
    (schema : Schema) (raw : StoredCondition) (ids : IdSource) :
    (raw.normalized schema).load schema ids = raw.load schema ids := by
  cases hid : Uuid.parse? raw.id with
  | none =>
      rw [normalized_of_malformed hid]
  | some id =>
      cases hactive : raw.activate schema id with
      | error reason =>
          rw [normalized_of_reason hid hactive]
      | ok c =>
          have hwell := wellFormed_of_activate hactive
          rw [normalized_of_activate hid hactive, Condition.load_stored hwell,
            Condition.settled_of_activate hactive]
          simp [load, hid, hactive]

theorem loadAll_normalized
    (schema : Schema) (groupId : Uuid) (raws : List StoredCondition) (ids : IdSource) :
    loadAll schema groupId (raws.map (normalized schema)) ids =
      loadAll schema groupId raws ids := by
  induction raws generalizing ids with
  | nil =>
      rfl
  | cons raw rest ih =>
      rw [List.map_cons, loadAll_cons, loadAll_cons, load_normalized, ih]

theorem filterMap_stored?_loadAll
    (schema : Schema) (groupId : Uuid) (raws : List StoredCondition) (ids : IdSource) :
    (loadAll schema groupId raws ids).1.filterMap Entry.stored? =
      raws.map (normalized schema) := by
  refine filterMap_eq_of_forall₂ (List.forall₂_map_left_iff.mpr ?_)
  refine (forall₂_loadAll schema groupId raws ids).imp ?_
  rintro raw _ ⟨ids', rfl⟩
  exact stored?_load schema raw ids'

end StoredCondition

namespace StoredGroup

/-- The group as it is written after it was loaded under a schema. -/
def normalized (schema : Schema) (raw : StoredGroup) : StoredGroup where
  id := ((Uuid.parse? raw.id).map Uuid.toString).getD raw.id
  combinator := raw.combinator
  conditions := raw.conditions.map (StoredCondition.normalized schema)

theorem stored_load
    (schema : Schema) (raw : StoredGroup) (ids : IdSource) :
    (raw.load schema ids).1.stored = raw.normalized schema := by
  obtain ⟨id, ids', hload, hid⟩ := load_group schema raw ids
  rw [hload]
  cases hparse : Uuid.parse? raw.id with
  | none =>
      simp [Group.stored, normalized, hparse, StoredCondition.filterMap_stored?_loadAll]
  | some parsed =>
      obtain rfl := hid parsed hparse
      simp [Group.stored, normalized, hparse, StoredCondition.filterMap_stored?_loadAll]

/-- The normal form of a group is loaded as the group is. -/
theorem load_normalized
    (schema : Schema) (raw : StoredGroup) (ids : IdSource) :
    (raw.normalized schema).load schema ids = raw.load schema ids := by
  have hid : Uuid.parse? (raw.normalized schema).id = Uuid.parse? raw.id := by
    cases hparse : Uuid.parse? raw.id <;> simp [normalized, hparse]
  have hconditions : (raw.normalized schema).conditions =
      raw.conditions.map (StoredCondition.normalized schema) := rfl
  cases hparse : Uuid.parse? raw.id with
  | some id =>
      simp only [load, hid, hparse, hconditions, StoredCondition.loadAll_normalized]
      rfl
  | none =>
      have hname : (raw.normalized schema).id = raw.id := by
        simp [normalized, hparse]
      simp only [load, hparse, hconditions, hname, StoredCondition.loadAll_normalized]
      rfl

theorem loadAll_normalized
    (schema : Schema) (raws : List StoredGroup) (ids : IdSource) :
    loadAll schema (raws.map (normalized schema)) ids = loadAll schema raws ids := by
  induction raws generalizing ids with
  | nil =>
      rfl
  | cons raw rest ih =>
      simp only [List.map_cons, loadAll, load_normalized, ih]

end StoredGroup

namespace StoredSegment

/-- The segment as it is written after it was loaded under a schema. -/
def normalized (schema : Schema) (stored : StoredSegment) : StoredSegment where
  groups := stored.groups.map (StoredGroup.normalized schema)

/-- What is saved after a load is the normal form. -/
theorem stored_load
    {stored : StoredSegment} (h : stored.groups ≠ []) (schema : Schema) (ids : IdSource) :
    (stored.load schema ids).1.segment.stored = stored.normalized schema := by
  have hgroups : List.Forall₂ (fun raw g => raw.normalized schema = g.stored) stored.groups
      (stored.load schema ids).1.segment.groups := by
    refine (forall₂_load schema h ids).imp ?_
    rintro raw _ ⟨ids', rfl⟩
    exact (StoredGroup.stored_load schema raw ids').symm
  have hmap := List.forall₂_map_left_iff.mpr (List.forall₂_map_right_iff.mpr hgroups)
  rw [List.forall₂_eq_eq_eq] at hmap
  rw [Segment.stored, normalized, hmap]

/-- The normal form of a segment is loaded as the segment is. -/
theorem load_normalized
    (schema : Schema) (stored : StoredSegment) (ids : IdSource) :
    (stored.normalized schema).load schema ids = stored.load schema ids := by
  obtain ⟨groups⟩ := stored
  cases groups with
  | nil =>
      rfl
  | cons raw rest =>
      simp only [normalized, List.map_cons, load, StoredGroup.load_normalized,
        StoredGroup.loadAll_normalized]

/-- After the first save nothing changes any more: what was saved is loaded as the document
it was loaded from, whatever identifiers are drawn, so the two loads differ at most in these,
and it is saved as it is. -/
theorem load_resaved
    {stored : StoredSegment} (h : stored.groups ≠ []) (schema : Schema) (ids ids' : IdSource) :
    (stored.resaved schema ids).load schema ids' = stored.load schema ids' ∧
      (stored.load schema ids).1.SameButDrawn
        ((stored.resaved schema ids).load schema ids').1 ∧
      (stored.resaved schema ids).resaved schema ids' = stored.resaved schema ids := by
  have hresaved : ∀ ids, stored.resaved schema ids = stored.normalized schema :=
    stored_load h schema
  have hload : (stored.resaved schema ids).load schema ids' = stored.load schema ids' := by
    rw [hresaved]
    exact load_normalized schema stored ids'
  refine ⟨hload, ?_, ?_⟩
  · rw [hload]
    exact sameButDrawn_load h schema ids ids'
  · have hagain : (stored.resaved schema ids).resaved schema ids' =
        stored.resaved schema ids' := by
      unfold resaved at hload ⊢
      rw [hload]
    rw [hagain, hresaved, hresaved]

/-- A group under a malformed identifier.  Its first condition holds a whole number and a
null, and its second one has a malformed identifier as well. -/
def legacy : StoredSegment where
  groups := [⟨"legacy", .and,
    [⟨"00000000000000000000000000000001", "age", "equals",
        some (.object [("type", .text "number"), ("value", .integer 41)]), some .null⟩,
      ⟨"second", "age", "equals", none, none⟩]⟩]

theorem load_resaved_legacy :
    legacy.groups ≠ [] ∧
      (legacy.resaved Schema.standard (IdSource.seeded 0)).load Schema.standard
          (IdSource.seeded 9) =
        legacy.load Schema.standard (IdSource.seeded 9) ∧
      (legacy.load Schema.standard (IdSource.seeded 0)).1.SameButDrawn
        ((legacy.resaved Schema.standard (IdSource.seeded 0)).load Schema.standard
          (IdSource.seeded 9)).1 ∧
      (legacy.resaved Schema.standard (IdSource.seeded 0)).resaved Schema.standard
          (IdSource.seeded 9) =
        legacy.resaved Schema.standard (IdSource.seeded 0) := by
  have hne : legacy.groups ≠ [] := by
    simp [legacy]
  exact ⟨hne, load_resaved hne Schema.standard (IdSource.seeded 0) (IdSource.seeded 9)⟩

end StoredSegment

end Audience
