import Audience.Proofs.Segment.Loading
import Mathlib.Data.List.Forall2

/-!
# What is reported of a loaded segment

**Segment.**  Each stored group is loaded as a group at the same place, and each of its stored
conditions as an entry at the same place.  A document without groups is loaded as one group,
whose only entry is set aside.

**Report.**  It can be read off the segment.  For each group in turn, a malformed identifier of
the group is reported first, and then each of its entries that were set aside, with its own
reason.

**Results.**
* `StoredCondition.loadAll_cons`: one step of loading the conditions of a group.
* `StoredGroup.loadedAs_load`: what a stored group is loaded as.
* `StoredSegment.mismatches_load`: the report is that of the groups, in order.
* `StoredSegment.load_reported`: the segment and its report, and when nothing is reported.
-/

namespace Audience

/-- What is reported of an entry. -/
def Entry.report? (groupId : Uuid) : Entry → Option Mismatch
  | active _ => none
  | quarantined q => some ⟨groupId, some q.id, q.reason⟩

/-- What is reported of a group whose identifier is malformed. -/
def Group.nameReport (g : Group) : List Mismatch :=
  (g.storedId.map fun raw => ⟨g.id, none, .malformedId raw⟩).toList

/-- What is reported of a group. -/
def Group.report (g : Group) : List Mismatch :=
  g.nameReport ++ g.entries.filterMap (Entry.report? g.id)

theorem StoredCondition.loadAll_cons
    (schema : Schema) (groupId : Uuid) (raw : StoredCondition) (rest : List StoredCondition)
    (ids : IdSource) :
    loadAll schema groupId (raw :: rest) ids =
      let e := Entry.ofLoad (raw.load schema ids).1
      let others := loadAll schema groupId rest (raw.load schema ids).2
      (e :: others.1, (e.report? groupId).toList ++ others.2.1, others.2.2) := by
  rw [loadAll]
  rcases hload : raw.load schema ids with ⟨_ | _, ids'⟩ <;> rfl

theorem StoredCondition.mismatches_loadAll
    (schema : Schema) (groupId : Uuid) (raws : List StoredCondition) (ids : IdSource) :
    (loadAll schema groupId raws ids).2.1 =
      (loadAll schema groupId raws ids).1.filterMap (Entry.report? groupId) := by
  induction raws generalizing ids with
  | nil =>
      rfl
  | cons raw rest ih =>
      rw [loadAll_cons]
      simp only [ih, List.filterMap_cons]
      cases (Entry.ofLoad (raw.load schema ids).1).report? groupId <;> rfl

theorem StoredGroup.mismatches_load
    (schema : Schema) (raw : StoredGroup) (ids : IdSource) :
    (raw.load schema ids).2.1 = (raw.load schema ids).1.report := by
  cases hid : Uuid.parse? raw.id with
  | some id =>
      simp [load, hid, Group.report, Group.nameReport, StoredCondition.mismatches_loadAll]
  | none =>
      simp [load, hid, Group.report, Group.nameReport, StoredCondition.mismatches_loadAll]

theorem StoredGroup.mismatches_loadAll
    (schema : Schema) (raws : List StoredGroup) (ids : IdSource) :
    (loadAll schema raws ids).2.1 = (loadAll schema raws ids).1.flatMap Group.report := by
  induction raws generalizing ids with
  | nil =>
      rfl
  | cons raw rest ih =>
      simp only [loadAll, List.flatMap_cons, mismatches_load, ih]

/-- What is reported is what can be read off the groups, in order. -/
theorem StoredSegment.mismatches_load
    (schema : Schema) (stored : StoredSegment) (ids : IdSource) :
    (stored.load schema ids).1.mismatches =
      (stored.load schema ids).1.segment.groups.flatMap Group.report := by
  obtain ⟨groups⟩ := stored
  cases groups with
  | nil =>
      rfl
  | cons raw rest =>
      simp only [load, Segment.groups, List.flatMap_cons, StoredGroup.mismatches_load,
        StoredGroup.mismatches_loadAll]

section Places

variable {schema : Schema}

/-- The active condition that is stored, or an entry that is set aside with the stored form: for
the first reason that keeps it from being active, or for its malformed identifier, which a new
one replaces. -/
inductive StoredCondition.LoadedAs (schema : Schema) (raw : StoredCondition) : Entry → Prop
  | active {id : Uuid} {c : Condition} :
      Uuid.parse? raw.id = some id →
      raw.activate schema id = .ok c →
      LoadedAs schema raw (.active c)
  | aside {id : Uuid} {reason : MismatchReason} :
      Uuid.parse? raw.id = some id →
      raw.activate schema id = .error reason →
      LoadedAs schema raw (.quarantined ⟨id, some raw, reason⟩)
  | malformed (fresh : Uuid) :
      Uuid.parse? raw.id = none →
      LoadedAs schema raw (.quarantined ⟨fresh, some raw, .malformedId raw.id⟩)

/-- The group has the stored identifier, or keeps it beside a new one if it is malformed.  Its
entries are the stored conditions in their order. -/
structure StoredGroup.LoadedAs (schema : Schema) (raw : StoredGroup) (g : Group) : Prop where
  id : ∀ id, Uuid.parse? raw.id = some id → g.id = id
  storedId : g.storedId = if (Uuid.parse? raw.id).isSome then none else some raw.id
  combinator : g.combinator = raw.combinator
  entries : List.Forall₂ (StoredCondition.LoadedAs schema) raw.conditions g.entries

theorem StoredCondition.loadedAs_load
    (schema : Schema) (raw : StoredCondition) (ids : IdSource) :
    raw.LoadedAs schema (Entry.ofLoad (raw.load schema ids).1) := by
  cases hid : Uuid.parse? raw.id with
  | none =>
      rw [load_of_parse?_eq_none hid]
      exact .malformed ids.next hid
  | some id =>
      cases hactive : raw.activate schema id with
      | ok c =>
          simp only [load, hid, hactive]
          exact .active hid hactive
      | error reason =>
          simp only [load, hid, hactive]
          exact .aside hid hactive

theorem StoredGroup.loadedAs_load
    (schema : Schema) (raw : StoredGroup) (ids : IdSource) :
    raw.LoadedAs schema (raw.load schema ids).1 := by
  obtain ⟨id, ids', hload, hid⟩ := load_group schema raw ids
  rw [hload]
  refine ⟨hid, rfl, rfl, ?_⟩
  refine (StoredCondition.forall₂_loadAll schema id raw.conditions ids').imp ?_
  rintro c _ ⟨ids'', rfl⟩
  exact c.loadedAs_load schema ids''

theorem StoredSegment.loadedAs_load
    (schema : Schema) {stored : StoredSegment} (h : stored.groups ≠ []) (ids : IdSource) :
    List.Forall₂ (StoredGroup.LoadedAs schema) stored.groups
      (stored.load schema ids).1.segment.groups := by
  refine (forall₂_load schema h ids).imp ?_
  rintro raw _ ⟨ids', rfl⟩
  exact raw.loadedAs_load schema ids'

theorem StoredSegment.groups_load_of_nil
    (schema : Schema) {stored : StoredSegment} (h : stored.groups = []) (ids : IdSource) :
    ∃ groupId entryId, (stored.load schema ids).1.segment.groups =
      [⟨groupId, .and, [.quarantined ⟨entryId, none, .emptySegment⟩], none⟩] := by
  obtain ⟨groups⟩ := stored
  obtain rfl : groups = [] := h
  exact ⟨ids.next, ids.advance.next, rfl⟩

theorem StoredSegment.length_groups_load
    (schema : Schema) (stored : StoredSegment) (ids : IdSource) :
    (stored.load schema ids).1.segment.groups.length = max 1 stored.groups.length := by
  by_cases hne : stored.groups = []
  · obtain ⟨groupId, entryId, hgroups⟩ := groups_load_of_nil schema hne ids
    rw [hgroups, hne]
    rfl
  · have hlength := (loadedAs_load schema hne ids).length_eq
    have hpos := List.length_pos_of_ne_nil hne
    omega

theorem StoredGroup.LoadedAs.isSome_iff
    {raw : StoredGroup} {g : Group} (h : raw.LoadedAs schema g) :
    (Uuid.parse? raw.id).isSome = true ↔ ¬ g.storedId.isSome = true := by
  rw [h.storedId]
  cases Uuid.parse? raw.id <;> simp

end Places

section Counting

theorem Group.length_report
    (g : Group) :
    g.report.length = g.quarantined.length + if g.storedId.isSome then 1 else 0 := by
  have hname : g.nameReport.length = if g.storedId.isSome then 1 else 0 := by
    unfold Group.nameReport
    cases g.storedId <;> rfl
  have hentries : (g.entries.filterMap (Entry.report? g.id)).length = g.quarantined.length := by
    rw [List.length_filterMap_eq_countP, Group.quarantined, ← List.countP_eq_length_filter]
    refine List.countP_congr ?_
    intro e _
    cases e <;> simp [Entry.report?, Entry.condition?]
  rw [Group.report, List.length_append, hname, hentries, Nat.add_comm]

theorem Group.length_flatMap_report
    (groups : List Group) :
    (groups.flatMap Group.report).length =
      groups.foldr (fun g n => g.quarantined.length + n) 0 +
        groups.countP (fun g => g.storedId.isSome) := by
  induction groups with
  | nil =>
      rfl
  | cons g rest ih =>
      rw [List.flatMap_cons, List.length_append, g.length_report, ih, List.foldr_cons,
        List.countP_cons]
      omega

theorem forall_mem_iff_of_forall₂
    {α β : Type} {R : α → β → Prop} {p : α → Prop} {q : β → Prop} {as : List α} {bs : List β}
    (h : List.Forall₂ R as bs) (hpq : ∀ a b, R a b → (p a ↔ q b)) :
    (∀ a ∈ as, p a) ↔ ∀ b ∈ bs, q b := by
  induction h with
  | nil =>
      simp
  | cons hab _ ih =>
      rw [List.forall_mem_cons, List.forall_mem_cons, hpq _ _ hab, ih]

end Counting

namespace StoredSegment

theorem length_mismatches_load
    (schema : Schema) (stored : StoredSegment) (ids : IdSource) :
    (stored.load schema ids).1.mismatches.length =
      (stored.load schema ids).1.segment.quarantinedCount +
        (stored.load schema ids).1.segment.groups.countP (fun g => g.storedId.isSome) := by
  rw [mismatches_load, Group.length_flatMap_report]
  rfl

/-- Nothing is reported exactly if no entry is set aside and each group is stored under a
readable identifier. -/
theorem isClean_load_iff
    (schema : Schema) (stored : StoredSegment) (ids : IdSource) :
    (stored.load schema ids).1.isClean = true ↔
      (stored.load schema ids).1.segment.quarantinedCount = 0 ∧
        ∀ raw ∈ stored.groups, (Uuid.parse? raw.id).isSome = true := by
  have hlength := length_mismatches_load schema stored ids
  rw [Loaded.isClean_iff, ← List.length_eq_zero_iff, hlength, Nat.add_eq_zero_iff]
  refine and_congr_right ?_
  intro hnone
  have hne : stored.groups ≠ [] := by
    -- The only entry of a document without groups is set aside.
    intro hempty
    obtain ⟨groupId, entryId, hgroups⟩ := groups_load_of_nil schema hempty ids
    rw [Segment.quarantinedCount, hgroups] at hnone
    cases hnone
  rw [List.countP_eq_zero, forall_mem_iff_of_forall₂ (loadedAs_load schema hne ids)
    fun _ _ hgroup => hgroup.isSome_iff]

/-- The groups and entries of a loaded segment are those that are stored, in their order.  What is
reported of them is what does not fit, in the same order and each once: so the report can be
counted, and it is empty exactly if everything fits. -/
theorem load_reported
    (schema : Schema) (stored : StoredSegment) (ids : IdSource) :
    ∃ segment mismatches rest, stored.load schema ids = (⟨segment, mismatches⟩, rest) ∧
      segment.groups.length = max 1 stored.groups.length ∧
      (List.Forall₂ (StoredGroup.LoadedAs schema) stored.groups segment.groups ∨
        stored.groups = [] ∧ ∃ groupId entryId, segment.groups =
          [⟨groupId, .and, [.quarantined ⟨entryId, none, .emptySegment⟩], none⟩]) ∧
      mismatches = segment.groups.flatMap Group.report ∧
      mismatches.length =
        segment.quarantinedCount + segment.groups.countP (fun g => g.storedId.isSome) ∧
      (Loaded.isClean ⟨segment, mismatches⟩ = true ↔
        segment.quarantinedCount = 0 ∧
          ∀ raw ∈ stored.groups, (Uuid.parse? raw.id).isSome = true) := by
  refine ⟨(stored.load schema ids).1.segment, (stored.load schema ids).1.mismatches,
    (stored.load schema ids).2, rfl, ?_, ?_, ?_, ?_, ?_⟩
  · exact length_groups_load schema stored ids
  · by_cases hne : stored.groups = []
    · exact Or.inr ⟨hne, groups_load_of_nil schema hne ids⟩
    · exact Or.inl (loadedAs_load schema hne ids)
  · exact mismatches_load schema stored ids
  · exact length_mismatches_load schema stored ids
  · exact isClean_load_iff schema stored ids

end StoredSegment

end Audience
