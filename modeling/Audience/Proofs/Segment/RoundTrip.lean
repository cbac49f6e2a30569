import Audience.Proofs.Segment.Loading
import Audience.Proofs.Segment.Steps
import Mathlib.Data.List.Forall2

/-!
# Segments that round trip

A segment that was composed under one schema has no entry set aside, and all its conditions
are well formed.  Under that schema it is loaded as it was saved, but with its dates settled: a
stray leap second comes back as the second after it.

**Other schemas.**  Under another schema some of its conditions may be set aside, and others
become active with another kind.  Either way a condition keeps the stored form that it was
loaded from.

**Results.**
* `Segment.ofText_text`: a composed segment is loaded from its text as it was, settled.
* `StoredSegment.stages_of_stable`: resaving under any schemas changes nothing.
* `Segment.load_stages`: after that a composed segment is loaded as it was, settled.
* `Segment.not_ofText_text`, `Segment.not_load_stages`: so it may come back as another one.
-/

namespace Audience

section Texts

/-- A group without a stored identifier is saved under its own. -/
theorem Group.id_stored
    {g : Group} (h : g.storedId = none) :
    g.stored.id = g.id.toString := by
  rw [Group.stored, h]
  rfl

theorem Group.parse?_id_stored
    {g : Group} (h : g.storedId = none) :
    Uuid.parse? g.stored.id = some g.id := by
  rw [id_stored h]
  exact Uuid.parse?_text g.id

theorem Group.stored_conditions_kept
    {g : Group} (h : ∀ e ∈ g.entries, ∀ raw, e.stored? = some raw → raw.Kept) :
    g.stored.Kept := by
  intro raw hraw
  obtain ⟨e, he, hstored⟩ := List.mem_filterMap.mp hraw
  exact h e he raw hstored

/-- The stored form of a segment is kept if those of its entries are. -/
theorem Segment.kept_stored
    {s : Segment}
    (h : ∀ g ∈ s.groups, ∀ e ∈ g.entries, ∀ raw, e.stored? = some raw → raw.Kept) :
    s.stored.Kept := by
  intro raw hraw
  obtain ⟨g, hg, rfl⟩ := List.mem_map.mp hraw
  exact Group.stored_conditions_kept (h g hg)

theorem Segment.kept_stored_of_active
    {s : Segment} (h : ∀ g ∈ s.groups, ∀ e ∈ g.entries, ∃ c : Condition, e = .active c) :
    s.stored.Kept := by
  refine kept_stored ?_
  intro g hg e he raw hraw
  obtain ⟨c, rfl⟩ := h g hg e he
  cases hraw
  exact c.kept_stored

/-- A kept stored form is what is loaded from the text. -/
theorem Segment.ofText_of_kept
    {s : Segment} (h : s.stored.Kept) (schema : Schema) (ids : IdSource) :
    Segment.ofText schema s.text ids = .ok (s.stored.load schema ids) := by
  unfold Segment.ofText Segment.text
  rw [StoredSegment.parse?_text h]

end Texts

section SameSchema

variable {schema : Schema}

/-- A group of composed conditions that was not named by a malformed identifier. -/
abbrev Group.Clean (schema : Schema) (g : Group) : Prop :=
  g.Sound schema (· = none) fun _ => False

/-- A segment of such groups. -/
abbrev Segment.Clean (schema : Schema) (s : Segment) : Prop :=
  s.Sound schema (· = none) (fun _ => False) fun _ => False

theorem Segment.Composed.clean
    {s : Segment} (h : s.Composed schema) :
    s.Clean schema := by
  obtain ⟨id, hsteps⟩ := h.steps
  refine Segment.sound_of_steps ?_ hsteps (Segment.sound_new ?_ id)
  · rfl
  · rfl

theorem Segment.Sound.groups
    {Name : Option String → Prop} {Aside : Quarantined → Prop} {s : Segment}
    (h : s.Sound schema Name Aside Aside) :
    ∀ g ∈ s.groups, g.Sound schema Name Aside := by
  intro g hg
  rcases List.mem_cons.mp hg with rfl | hg
  · exact h.first
  · exact h.later g hg

/-- All entries of a clean group are active and well formed. -/
theorem Group.Clean.conditions
    {g : Group} (h : g.Clean schema) :
    ∀ e ∈ g.entries, ∃ c : Condition, e = .active c ∧ c.WellFormed schema := by
  intro e he
  have hsound := h.entries e he
  cases e with
  | active c =>
      exact ⟨c, rfl, Condition.Composed.wellFormed hsound⟩
  | quarantined q =>
      exact False.elim hsound

/-- Well-formed conditions are loaded as they were saved, settled. -/
theorem StoredCondition.loadAll_stored
    (groupId : Uuid) {entries : List Entry}
    (h : ∀ e ∈ entries, ∃ c : Condition, e = .active c ∧ c.WellFormed schema)
    (ids : IdSource) :
    loadAll schema groupId (entries.filterMap Entry.stored?) ids =
      (entries.map Entry.settled, [], ids) := by
  induction entries with
  | nil =>
      rfl
  | cons e rest ih =>
      obtain ⟨c, rfl, hc⟩ := h e List.mem_cons_self
      have hrest := ih fun e he => h e (List.mem_cons_of_mem _ he)
      have hstored : (Entry.active c :: rest).filterMap Entry.stored? =
          c.stored :: rest.filterMap Entry.stored? := rfl
      simp only [hstored, loadAll, Condition.load_stored hc, hrest]
      rfl

/-- A clean group is loaded as it was saved, settled. -/
theorem Group.Clean.load_stored
    {g : Group} (h : g.Clean schema) (ids : IdSource) :
    g.stored.load schema ids = (g.settled, [], ids) := by
  have hid := Group.parse?_id_stored h.storedId
  have hconditions := StoredCondition.loadAll_stored g.id h.conditions ids
  have hentries : g.stored.conditions = g.entries.filterMap Entry.stored? := rfl
  have hgroup : (⟨g.id, g.combinator, g.entries.map Entry.settled, none⟩ : Group) = g.settled := by
    rw [← h.storedId]
    rfl
  simp only [StoredGroup.load, hid, hentries, hconditions]
  rw [show g.stored.combinator = g.combinator from rfl, hgroup]

theorem StoredGroup.loadAll_stored
    {groups : List Group} (h : ∀ g ∈ groups, g.Clean schema) (ids : IdSource) :
    loadAll schema (groups.map Group.stored) ids = (groups.map Group.settled, [], ids) := by
  induction groups with
  | nil =>
      rfl
  | cons g rest ih =>
      have hg := (h g List.mem_cons_self).load_stored ids
      have hrest := ih fun g hg => h g (List.mem_cons_of_mem _ hg)
      simp [loadAll, hg, hrest]

/-- A clean segment is loaded as it was saved, settled. -/
theorem Segment.Clean.load_stored
    {s : Segment} (h : s.Clean schema) (ids : IdSource) :
    s.stored.load schema ids = (⟨s.settled, []⟩, ids) := by
  have hfirst := Group.Clean.load_stored h.first ids
  have hlater := StoredGroup.loadAll_stored h.later ids
  have hgroups : s.stored.groups = s.first.stored :: s.later.map Group.stored := rfl
  simp [StoredSegment.load, hgroups, hfirst, hlater, Segment.settled]

theorem Segment.Clean.kept_stored
    {s : Segment} (h : s.Clean schema) :
    s.stored.Kept := by
  refine Segment.kept_stored_of_active ?_
  intro g hg e he
  obtain ⟨c, hc, _⟩ := Group.Clean.conditions (Segment.Sound.groups h g hg) e he
  exact ⟨c, hc⟩

/-- A clean segment is loaded from its text as it was saved, settled. -/
theorem Segment.Clean.ofText_stored
    {s : Segment} (h : s.Clean schema) (ids : IdSource) :
    Segment.ofText schema s.text ids = .ok (⟨s.settled, []⟩, ids) := by
  rw [Segment.ofText_of_kept h.kept_stored, h.load_stored ids]

/-- What is loaded settled is as it was exactly if there was no stray leap second. -/
theorem Segment.loaded_settled_iff
    (s : Segment) (ids : IdSource) :
    ((⟨s.settled, []⟩, ids) : Loaded × IdSource) = (⟨s, []⟩, ids) ↔
      ∀ v ∈ s.values, v.isStray = false := by
  rw [← s.settled_eq_self_iff]
  simp

/-- Under the schema it was composed under, a segment is loaded from its text with its dates
settled, and nothing is reported.  So it is as it was exactly if none of its dates has a stray leap
second. -/
theorem Segment.ofText_text
    {s : Segment} (h : s.Composed schema) (ids : IdSource) :
    Segment.ofText schema s.text ids = .ok (⟨s.settled, []⟩, ids) ∧
      (Segment.ofText schema s.text ids = .ok (⟨s, []⟩, ids) ↔
        ∀ v ∈ s.values, v.isStray = false) := by
  have hload := h.clean.ofText_stored ids
  refine ⟨hload, ?_⟩
  rw [hload, Except.ok.injEq]
  exact s.loaded_settled_iff ids

/-- A segment of one condition. -/
def Segment.comparingText : Segment :=
  ⟨⟨default, .and, [.active (Condition.comparingText .equals "a")], none⟩, []⟩

theorem Segment.composed_comparingText :
    Segment.comparingText.Composed (Schema.single "x" .text) := by
  have hcondition : (Edit.append default (Condition.comparingText .equals "a")).AppendsComposed
      (Schema.single "x" .text) :=
    Condition.composed_comparingText (fun _ h => h) "a"
  have happend : (Edit.append default (Condition.comparingText .equals "a")).run
      (Schema.single "x" .text) default (Segment.new default) =
        .ok Segment.comparingText := rfl
  exact .step (.new default) (.edit hcondition happend)

theorem Segment.ofText_text_comparingText :
    Segment.ofText (Schema.single "x" .text) Segment.comparingText.text (IdSource.seeded 0) =
      .ok (⟨Segment.comparingText, []⟩, IdSource.seeded 0) := by
  have hstray : ∀ v ∈ Segment.comparingText.values, v.isStray = false := by
    decide
  exact (Segment.ofText_text Segment.composed_comparingText _).2.mpr hstray

/-- The customers who signed up after the middle of a stray leap second. -/
def Segment.afterStrayNoon : Segment :=
  ⟨⟨(IdSource.seeded 0).next, .and,
    [.active ⟨(IdSource.seeded 0).advance.next, "signupDate", .date, .after,
      some (.date Instant.strayNoon), none⟩], none⟩, []⟩

theorem Segment.composed_afterStrayNoon :
    Segment.afterStrayNoon.Composed Schema.standard := by
  have hbuild : Script.build Schema.standard
      [.condition "signupDate" .after (.date Instant.strayNoon)] (IdSource.seeded 0) =
        .ok Segment.afterStrayNoon := rfl
  exact .script hbuild

theorem Segment.isStray_afterStrayNoon :
    ¬ ∀ v ∈ Segment.afterStrayNoon.values, v.isStray = false := by
  decide

/-- A segment with a stray leap second is loaded as another one. -/
theorem Segment.not_ofText_text :
    ¬ ∀ (schema : Schema) (s : Segment) (ids : IdSource), s.Composed schema →
        Segment.ofText schema s.text ids = .ok (⟨s, []⟩, ids) := by
  intro h
  have hload := h _ _ (IdSource.seeded 0) Segment.composed_afterStrayNoon
  rw [Segment.composed_afterStrayNoon.clean.ofText_stored, Except.ok.injEq,
    Segment.loaded_settled_iff] at hload
  exact Segment.isStray_afterStrayNoon hload

end SameSchema

section OtherSchemas

/-- Under any schema the condition keeps its stored form. -/
def StoredCondition.Stable (raw : StoredCondition) : Prop :=
  ∀ schema ids, (Entry.ofLoad (raw.load schema ids).1).stored? = some raw

/-- The identifier of the group is malformed or spelled as usual, and under any schema its
conditions keep their stored forms. -/
structure StoredGroup.Stable (raw : StoredGroup) : Prop where
  id : ∀ id, Uuid.parse? raw.id = some id → id.toString = raw.id
  conditions : ∀ c ∈ raw.conditions, c.Stable

/-- There is a group, and all groups are stable. -/
structure StoredSegment.Stable (stored : StoredSegment) : Prop where
  nonempty : stored.groups ≠ []
  groups : ∀ g ∈ stored.groups, g.Stable

theorem filterMap_eq_of_forall₂
    {α β : Type} {f : β → Option α} {as : List α} {bs : List β}
    (h : List.Forall₂ (fun a b => f b = some a) as bs) :
    bs.filterMap f = as := by
  induction h with
  | nil =>
      rfl
  | cons hab _ ih =>
      rw [List.filterMap_cons_some hab, ih]

/-- A stable group is saved as it was loaded. -/
theorem StoredGroup.Stable.stored_load
    {raw : StoredGroup} (h : raw.Stable) (schema : Schema) (ids : IdSource) :
    (raw.load schema ids).1.stored = raw := by
  obtain ⟨id, ids', hload, hid⟩ := StoredGroup.load_group schema raw ids
  have hentries : ((StoredCondition.loadAll schema id raw.conditions ids').1).filterMap
      Entry.stored? = raw.conditions := by
    have hloaded := StoredCondition.forall₂_loadAll schema id raw.conditions ids'
    have hboth := (List.forall₂_and_left raw.conditions _).mpr ⟨h.conditions, hloaded⟩
    refine filterMap_eq_of_forall₂ (hboth.imp ?_)
    rintro c _ ⟨hc, ids'', rfl⟩
    exact hc schema ids''
  rw [hload]
  simp only [Group.stored, hentries]
  cases hparse : Uuid.parse? raw.id with
  | none =>
      simp
  | some parsed =>
      have hname := h.id parsed hparse
      rw [← hid parsed hparse] at hname
      simp [hname]

/-- A stable segment is saved as it was loaded. -/
theorem StoredSegment.Stable.stored_load
    {stored : StoredSegment} (h : stored.Stable) (schema : Schema) (ids : IdSource) :
    (stored.load schema ids).1.segment.stored = stored := by
  have hgroups : (stored.load schema ids).1.segment.groups.map Group.stored = stored.groups := by
    have hloaded := StoredSegment.forall₂_load schema h.nonempty ids
    have hboth := (List.forall₂_and_left stored.groups _).mpr ⟨h.groups, hloaded⟩
    refine Eq.symm (List.forall₂_eq_eq_eq ▸ List.forall₂_map_right_iff.mpr (hboth.imp ?_))
    rintro g _ ⟨hg, ids', rfl⟩
    exact (hg.stored_load schema ids').symm
  rw [Segment.stored, hgroups]

namespace StoredSegment

/-- The stored segment after it has been loaded under a schema and saved again. -/
def resaved (stored : StoredSegment) (schema : Schema) (ids : IdSource) : StoredSegment :=
  (stored.load schema ids).1.segment.stored

/-- The stored forms of a segment that is resaved under one schema after another. -/
def stages (stored : StoredSegment) : List (Schema × IdSource) → List StoredSegment
  | [] => [stored]
  | (schema, ids) :: rest => stored :: (stored.resaved schema ids).stages rest

/-- Resaving a stable segment changes nothing, under any schemas. -/
theorem stages_of_stable
    {stored : StoredSegment} (h : stored.Stable) (trips : List (Schema × IdSource)) :
    stored.stages trips = List.replicate (trips.length + 1) stored := by
  induction trips with
  | nil =>
      rfl
  | cons trip rest ih =>
      obtain ⟨schema, ids⟩ := trip
      rw [stages, resaved, h.stored_load schema ids, ih]
      rfl

end StoredSegment

theorem Group.Clean.stable_stored
    {schema : Schema} {g : Group} (h : g.Clean schema) :
    g.stored.Stable := by
  constructor
  · intro id hid
    rw [Group.parse?_id_stored h.storedId] at hid
    cases hid
    exact (Group.id_stored h.storedId).symm
  · intro raw hraw schema' ids
    obtain ⟨e, he, hstored⟩ := List.mem_filterMap.mp hraw
    obtain ⟨c, rfl, hc⟩ := h.conditions e he
    cases hstored
    exact Condition.stored?_load_stored hc.finite schema' ids

theorem Segment.Clean.stable_stored
    {schema : Schema} {s : Segment} (h : s.Clean schema) :
    s.stored.Stable := by
  constructor
  · simp [Segment.stored]
  · intro raw hraw
    obtain ⟨g, hg, rfl⟩ := List.mem_map.mp hraw
    exact Group.Clean.stable_stored (Segment.Sound.groups h g hg)

/-- Resaving a clean segment under any schemas leaves its stored form at every stage, and from the
last one it is loaded settled. -/
theorem Segment.Clean.load_last_stage
    {schema : Schema} {s : Segment} (h : s.Clean schema)
    (trips : List (Schema × IdSource)) (ids : IdSource) :
    s.stored.stages trips = List.replicate (trips.length + 1) s.stored ∧
      ∃ last, (s.stored.stages trips).getLast? = some last ∧
        last.load schema ids = (⟨s.settled, []⟩, ids) := by
  have hstages := StoredSegment.stages_of_stable h.stable_stored trips
  refine ⟨hstages, s.stored, ?_, h.load_stored ids⟩
  rw [hstages, List.getLast?_replicate, if_neg (by omega)]

/-- Resaving a composed segment under any schemas, one after another, leaves its stored form
at every stage; loaded from the last one under its own schema it has its dates settled, and nothing
is reported.  So it is as it was exactly if none of its dates has a stray leap second. -/
theorem Segment.load_stages
    {schema : Schema} {s : Segment} (h : s.Composed schema)
    (trips : List (Schema × IdSource)) (ids : IdSource) :
    s.stored.stages trips = List.replicate (trips.length + 1) s.stored ∧
      ∃ last, (s.stored.stages trips).getLast? = some last ∧
        last.load schema ids = (⟨s.settled, []⟩, ids) ∧
        (last.load schema ids = (⟨s, []⟩, ids) ↔ ∀ v ∈ s.values, v.isStray = false) := by
  obtain ⟨hstages, last, hlast, hload⟩ := h.clean.load_last_stage trips ids
  refine ⟨hstages, last, hlast, hload, ?_⟩
  rw [hload]
  exact s.loaded_settled_iff ids

/-- While the field is a boolean one, and while it is missing, nothing is lost. -/
theorem Segment.load_stages_comparingText :
    Segment.comparingText.stored.stages
        [(Schema.single "x" .boolean, IdSource.seeded 0), (Schema.standard, IdSource.seeded 0)] =
      List.replicate 3 Segment.comparingText.stored ∧
    ∃ last, (Segment.comparingText.stored.stages
        [(Schema.single "x" .boolean, IdSource.seeded 0),
          (Schema.standard, IdSource.seeded 0)]).getLast? = some last ∧
      last.load (Schema.single "x" .text) (IdSource.seeded 0) =
        (⟨Segment.comparingText, []⟩, IdSource.seeded 0) := by
  have hstray : ∀ v ∈ Segment.comparingText.values, v.isStray = false := by
    decide
  obtain ⟨hstages, last, hlast, _, hback⟩ :=
    Segment.load_stages Segment.composed_comparingText _ _
  exact ⟨hstages, last, hlast, hback.mpr hstray⟩

/-- A segment with a stray leap second is loaded as another one, with or without stages. -/
theorem Segment.not_load_stages :
    ¬ ∀ (schema : Schema) (s : Segment) (trips : List (Schema × IdSource)) (ids : IdSource),
        s.Composed schema →
        ∃ last, (s.stored.stages trips).getLast? = some last ∧
          last.load schema ids = (⟨s, []⟩, ids) := by
  intro h
  obtain ⟨last, hlast, hload⟩ := h _ _ [] (IdSource.seeded 0) Segment.composed_afterStrayNoon
  obtain rfl : Segment.afterStrayNoon.stored = last := Option.some.inj hlast
  rw [Segment.composed_afterStrayNoon.clean.load_stored, Segment.loaded_settled_iff] at hload
  exact Segment.isStray_afterStrayNoon hload

end OtherSchemas
end Audience
