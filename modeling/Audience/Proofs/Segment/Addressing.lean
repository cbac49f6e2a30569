import Audience.Proofs.Condition.Composed
import Audience.Proofs.Segment.Edits
import Audience.Proofs.Stored
import Audience.Segment.Loading

/-!
# Looking conditions up and changing them

A condition is looked up among the active entries of a group, but a change is made at the first
entry with the identifier, active or not.  Identifiers may repeat, so the two need not mean the
same entry.

**Places.**  Where something is found by its identifier there is a place in the list: a change is
made of what was found, and put at that place, and what was put there under the same identifier
is found again.  `exists_put_of_cons` says so for lists, and `Segment.exists_put_entry` for the
entries of a segment.

**Shadows.**  An entry that was set aside shadows the active ones behind it that have its
identifier: they are still looked up, but a change is refused.  Repeated identifiers of active
conditions do no harm.

**Results.**
* `Entry.find?_of_condition`: what an active condition that is looked up says of all entries.
* `Segment.changeEntry_of_lookup`: when a change is made of the condition that is looked up.
* `Segment.not_shadows_attemptAll`: in a segment of active conditions nothing is ever shadowed.
-/

namespace Audience

section Names

variable {id : Uuid}

@[simp] theorem Entry.id_active (c : Condition) : (active c).id = c.id := rfl

theorem Entry.id_of_find?
    {entries : List Entry} {e : Entry} (h : entries.find? (·.id = id) = some e) :
    e.id = id := by
  simpa using List.find?_some h

theorem Group.id_of_condition?
    {g : Group} {c : Condition} (h : g.condition? id = some c) :
    c.id = id := by
  unfold condition? at h
  simpa using List.find?_some h

theorem Segment.id_of_group?
    {s : Segment} {g : Group} (h : s.group? id = some g) :
    g.id = id := by
  unfold group? at h
  simpa using List.find?_some h

end Names

section Places

/-- Changes that are made at the first item with an identifier are made of what is found under
it, and put at its place. -/
theorem exists_put_of_cons
    {α β : Type} (name : α → Uuid) (id : Uuid) (step : β → α → Except Error α)
    (change : β → List α → Except Error (List α))
    (hcons : ∀ f a rest, change f (a :: rest) =
      if name a = id then (step f a).map (· :: rest) else (change f rest).map (a :: ·))
    {items : List α} {a : α} (h : items.find? (name · = id) = some a) :
    ∃ put : α → List α,
      (∀ f, change f items = (step f a).map put) ∧
      ∀ a', name a' = id → (put a').find? (name · = id) = some a' := by
  induction items with
  | nil =>
      cases h
  | cons first rest ih =>
      by_cases hid : name first = id
      · rw [List.find?_cons_of_pos (by simpa using hid)] at h
        cases h
        refine ⟨(· :: rest), ?_, ?_⟩
        · intro f
          rw [hcons, if_pos hid]
        · intro a' ha'
          exact List.find?_cons_of_pos (by simpa using ha')
      · rw [List.find?_cons_of_neg (by simpa using hid)] at h
        obtain ⟨put, hchange, hfind⟩ := ih h
        refine ⟨fun a' => first :: put a', ?_, ?_⟩
        · intro f
          rw [hcons, if_neg hid, hchange]
          cases step f a <;> rfl
        · intro a' ha'
          rw [List.find?_cons_of_neg (by simpa using hid)]
          exact hfind a' ha'

variable {id : Uuid}

/-- Where an entry is found, another one can be put. -/
theorem Entry.exists_put
    {entries : List Entry} {e : Entry} (h : entries.find? (·.id = id) = some e) :
    ∃ put : Entry → List Entry,
      (∀ f, changeFirst id f entries = (e.change f).map put) ∧
      ∀ e', e'.id = id → (put e').find? (·.id = id) = some e' :=
  exists_put_of_cons Entry.id id change (changeFirst id) (fun _ _ _ => rfl) h

/-- Where a group is found, another one can be put. -/
theorem Group.exists_put
    {groups : List Group} {g : Group} (h : groups.find? (·.id = id) = some g) :
    ∃ put : Group → List Group,
      (∀ f, changeFirst id f groups = (f g).map put) ∧
      ∀ g', g'.id = id → (put g').find? (·.id = id) = some g' :=
  exists_put_of_cons Group.id id (fun f g => f g) (changeFirst id) (fun _ _ _ => rfl) h

/-- Where a group of a segment is found, another one can be put. -/
theorem Segment.exists_put
    {s : Segment} {g : Group} (h : s.group? id = some g) :
    ∃ put : Group → Segment,
      (∀ f, s.changeGroup id f = (f g).map put) ∧
      ∀ g', g'.id = id → (put g').group? id = some g' := by
  unfold group? groups at h
  by_cases hid : s.first.id = id
  · rw [List.find?_cons_of_pos (by simpa using hid)] at h
    cases h
    refine ⟨fun first => { s with first := first }, ?_, ?_⟩
    · intro f
      exact changeGroup_first hid
    · intro g' hg'
      exact List.find?_cons_of_pos (by simpa using hg')
  · rw [List.find?_cons_of_neg (by simpa using hid)] at h
    obtain ⟨put, hchange, hfind⟩ := Group.exists_put h
    refine ⟨fun g' => { s with later := put g' }, ?_, ?_⟩
    · intro f
      rw [changeGroup, if_neg hid, hchange]
      cases f g <;> rfl
    · intro g' hg'
      rw [group?, groups, List.find?_cons_of_neg (by simpa using hid)]
      exact hfind g' hg'

/-- The first entry with an identifier in the first group with one. -/
def Segment.entryAt? (s : Segment) (group entry : Uuid) : Option Entry :=
  (s.group? group).bind fun g => g.entries.find? (·.id = entry)

/-- Where an entry of a segment is found, another one can be put. -/
theorem Segment.exists_put_entry
    {s : Segment} {group entry : Uuid} {e : Entry} (h : s.entryAt? group entry = some e) :
    ∃ put : Entry → Segment,
      (∀ f, s.changeEntry group entry f = (e.change f).map put) ∧
      ∀ e', e'.id = entry → (put e').entryAt? group entry = some e' := by
  obtain ⟨g, hg, he⟩ := Option.bind_eq_some_iff.mp h
  obtain ⟨putGroup, hchangeGroup, hfindGroup⟩ := exists_put hg
  obtain ⟨put, hchange, hfind⟩ := Entry.exists_put he
  have hid : g.id = group := id_of_group? hg
  refine ⟨fun e' => putGroup { g with entries := put e' }, ?_, ?_⟩
  · intro f
    rw [changeEntry, hchangeGroup, Group.changeEntry, hchange]
    cases e.change f <;> rfl
  · intro e' he'
    refine Option.bind_eq_some_iff.mpr ⟨{ g with entries := put e' }, ?_, hfind e' he'⟩
    exact hfindGroup _ hid

end Places

section Lookup

variable {id : Uuid} {entries : List Entry} {c : Condition}

/-- If the first entry with an identifier is active, it is the condition that is looked up. -/
theorem Entry.find?_filterMap_of_active
    (h : entries.find? (·.id = id) = some (active c)) :
    (entries.filterMap condition?).find? (·.id = id) = some c := by
  induction entries with
  | nil =>
      cases h
  | cons first rest ih =>
      by_cases hid : first.id = id
      · rw [List.find?_cons_of_pos (by simpa using hid)] at h
        cases h
        exact List.find?_cons_of_pos (by simpa using hid)
      · rw [List.find?_cons_of_neg (by simpa using hid)] at h
        cases first with
        | active other =>
            have hcons : (active other :: rest).filterMap condition? =
                other :: rest.filterMap condition? := rfl
            rw [hcons, List.find?_cons_of_neg (by simpa using hid)]
            exact ih h
        | quarantined q =>
            exact ih h

/-- If a condition is looked up, the first entry with the identifier is that condition or was
set aside. -/
theorem Entry.find?_of_condition
    (h : (entries.filterMap condition?).find? (·.id = id) = some c) :
    entries.find? (·.id = id) = some (active c) ∨
      ∃ q, entries.find? (·.id = id) = some (quarantined q) := by
  cases hfirst : entries.find? (·.id = id) with
  | none =>
      obtain ⟨e, he, hcondition⟩ := List.mem_filterMap.mp (List.mem_of_find?_eq_some h)
      have hid := List.find?_some h
      have hother := List.find?_eq_none.mp hfirst e he
      cases e with
      | active other =>
          cases hcondition
          exact absurd hid hother
      | quarantined q =>
          cases hcondition
  | some e =>
      cases e with
      | active other =>
          rw [find?_filterMap_of_active hfirst] at h
          cases h
          exact .inl rfl
      | quarantined q =>
          exact .inr ⟨q, rfl⟩

/-- Of the entries with an identifier, the first one was set aside. -/
def Group.shadows (g : Group) (id : Uuid) : Bool :=
  (g.entries.find? (·.id = id)).any Entry.isQuarantined

end Lookup

namespace Segment

variable {s : Segment} {group entry : Uuid} {g : Group} {c : Condition}

/-- A change of an entry that was set aside is refused. -/
theorem changeEntry_of_quarantined
    {q : Quarantined} (h : s.entryAt? group entry = some (.quarantined q))
    (f : Condition → Except Error Condition) :
    s.changeEntry group entry f = .error (.conditionQuarantined q.id) := by
  obtain ⟨put, hchange, _⟩ := exists_put_entry h
  rw [hchange]
  rfl

/-- A change of an active entry is made of its condition. -/
theorem changeEntry_of_active
    (h : s.entryAt? group entry = some (.active c)) :
    ∃ put : Condition → Segment, (∀ f, s.changeEntry group entry f = (f c).map put) ∧
      ∀ c', c'.id = entry → (put c').entryAt? group entry = some (.active c') := by
  obtain ⟨put, hchange, hfind⟩ := exists_put_entry h
  refine ⟨fun c' => put (.active c'), ?_, ?_⟩
  · intro f
    rw [hchange, Entry.change]
    cases f c <;> rfl
  · intro c' hc'
    exact hfind (.active c') hc'

/-- What is looked up is the first entry with the identifier, or is shadowed by that entry. -/
theorem entryAt?_of_lookup
    (hg : s.group? group = some g) (hc : g.condition? entry = some c) :
    (g.shadows entry = false ∧ s.entryAt? group entry = some (.active c)) ∨
      (g.shadows entry = true ∧
        ∃ q, s.entryAt? group entry = some (.quarantined q) ∧ q.id = entry) := by
  rw [Group.shadows, entryAt?, hg, Option.bind_some]
  rcases Entry.find?_of_condition hc with hactive | ⟨q, hquarantined⟩
  · rw [hactive]
    exact .inl ⟨rfl, rfl⟩
  · have hid := Entry.id_of_find? hquarantined
    rw [hquarantined]
    exact .inr ⟨rfl, q, rfl, hid⟩

/-- The first entry with the identifier is looked up if it is active. -/
theorem lookup_of_entryAt?
    (h : s.entryAt? group entry = some (.active c)) :
    ∃ g, s.group? group = some g ∧ g.condition? entry = some c := by
  obtain ⟨g, hg, hentry⟩ := Option.bind_eq_some_iff.mp h
  exact ⟨g, hg, Entry.find?_filterMap_of_active hentry⟩

/-- Whether a change is made of the condition that is looked up depends on the entries that were
set aside: it is refused, whatever the change, if the first entry with the identifier is one of
them.  Otherwise the change is made of this condition: it fails as the change of the condition
does, and what it makes of the condition under the same identifier is looked up afterwards. -/
theorem changeEntry_of_lookup
    (hg : s.group? group = some g) (hc : g.condition? entry = some c) :
    (g.shadows entry = true →
      ∀ f, s.changeEntry group entry f = .error (.conditionQuarantined entry)) ∧
    (g.shadows entry = false →
      ∀ f, (∀ e, f c = .error e → s.changeEntry group entry f = .error e) ∧
        ∀ c', f c = .ok c' → ∃ s', s.changeEntry group entry f = .ok s' ∧
          (c'.id = c.id → ∃ g', s'.group? group = some g' ∧ g'.condition? entry = some c')) := by
  rcases entryAt?_of_lookup hg hc with ⟨hclear, hentry⟩ | ⟨hshadows, q, hentry, hq⟩
  · refine ⟨fun h => absurd h (by simp [hclear]), ?_⟩
    intro _ f
    obtain ⟨put, hchange, hfind⟩ := changeEntry_of_active hentry
    constructor
    · intro e he
      rw [hchange, he]
      rfl
    · intro c' hc'
      refine ⟨put c', ?_, ?_⟩
      · rw [hchange, hc']
        rfl
      · intro hsame
        have hid : c'.id = entry := hsame.trans (Group.id_of_condition? hc)
        exact lookup_of_entryAt? (hfind c' hid)
  · refine ⟨?_, fun h => absurd h (by simp [hshadows])⟩
    intro _ f
    rw [changeEntry_of_quarantined hentry f, hq]

end Segment

section Active

/-- No entry of the group was set aside. -/
def Group.AllActive (g : Group) : Prop := ∀ e ∈ g.entries, e.isQuarantined = false

theorem Group.AllActive.edited
    {Adds : Condition → Prop} {Changes : Condition → Condition → Prop} {g g' : Group}
    (h : g.AllActive) (hedited : g.Edited Adds Changes g') :
    g'.AllActive :=
  hedited.entries (fun _ _ => rfl) (fun _ _ _ _ => rfl) h

theorem Group.AllActive.not_shadows
    {g : Group} (h : g.AllActive) (id : Uuid) :
    g.shadows id = false := by
  unfold shadows
  cases hfirst : g.entries.find? (·.id = id) with
  | none =>
      rfl
  | some e =>
      exact h e (List.mem_of_find?_eq_some hfirst)

/-- In a segment of active conditions nothing is shadowed, whatever operations are made. -/
theorem Segment.not_shadows_attemptAll
    {s : Segment} (h : ∀ g ∈ s.groups, g.AllActive) (ops : List Operation) (id : Uuid) :
    ∀ g ∈ (s.attemptAll ops).groups, g.shadows id = false := by
  have hactive : ∀ g ∈ (s.attemptAll ops).groups, g.AllActive := by
    refine attemptAll_induction (P := fun s => ∀ g ∈ s.groups, g.AllActive) ?_ h
    intro op _ s s' hrun hs
    have hgroups := (Operation.edited_of_run hrun).groups
      (fun _ _ hedited hg => Group.AllActive.edited hg hedited)
      (fun _ _ hedited hg => Group.AllActive.edited hg hedited)
      (fun _ _ he => nomatch he) (List.forall_mem_cons.mp hs)
    exact List.forall_mem_cons.mpr hgroups
  intro g hg
  exact (hactive g hg).not_shadows id

end Active

section Documents

/-- A condition without a value on a field, under an identifier of zeros. -/
def StoredCondition.bare (field : String) : StoredCondition :=
  ⟨"00000000000000000000000000000000", field, "equals", none, none⟩

/-- A group of two conditions with one identifier. -/
def StoredSegment.twice (first second : String) : StoredSegment where
  groups := [⟨"00000000000000000000000000000000", .and, [.bare first, .bare second]⟩]

/-- The document, loaded under a schema that has the field `x` only. -/
def Segment.twice (first second : String) : Segment :=
  ((StoredSegment.twice first second).load (Schema.single "x" .text)
    (IdSource.seeded 0)).1.segment

/-- The active one of the two conditions. -/
def Condition.unset : Condition := { comparingText .equals "a" with value := none }

namespace Segment

/-- The condition on a field that is missing comes first. -/
theorem lookup_twice_shadowed :
    (twice "y" "x").group? default = some (twice "y" "x").first ∧
      (twice "y" "x").first.condition? default = some .unset ∧
      (twice "y" "x").first.shadows default = true := by
  decide +kernel

/-- The condition on a field that is missing comes last. -/
theorem lookup_twice_not_shadowed :
    (twice "x" "y").group? default = some (twice "x" "y").first ∧
      (twice "x" "y").first.condition? default = some .unset ∧
      (twice "x" "y").first.shadows default = false := by
  decide +kernel

theorem changeEntry_of_lookup_twice :
    (∀ f, (twice "y" "x").changeEntry default default f =
      .error (.conditionQuarantined default)) ∧
    ∃ s' g', (twice "x" "y").changeEntry default default
        (Condition.change (Schema.single "x" .text) (.value (.text "a"))) = .ok s' ∧
      s'.group? default = some g' ∧
      g'.condition? default = some (Condition.comparingText .equals "a") := by
  constructor
  · obtain ⟨hg, hc, hshadows⟩ := lookup_twice_shadowed
    exact (changeEntry_of_lookup hg hc).1 hshadows
  · obtain ⟨hg, hc, hshadows⟩ := lookup_twice_not_shadowed
    obtain ⟨_, hmade⟩ := (changeEntry_of_lookup hg hc).2 hshadows
      (Condition.change (Schema.single "x" .text) (.value (.text "a")))
    obtain ⟨s', hs', hfound⟩ := hmade (Condition.comparingText .equals "a") rfl
    obtain ⟨g', hg', hc'⟩ := hfound rfl
    exact ⟨s', g', hs', hg', hc'⟩

/-- A condition that is looked up cannot be changed in general: the one before it has its
identifier, and was set aside. -/
theorem not_changeEntry_of_lookup :
    ¬ ∀ (schema : Schema) (text : String) (ids ids' : IdSource) (loaded : Loaded)
        (ops : List Operation) (s : Segment) (group entry : Uuid) (g : Group) (c : Condition),
        Segment.ofText schema text ids = .ok (loaded, ids') →
        loaded.segment.attemptAll ops = s →
        s.group? group = some g →
        g.condition? entry = some c →
        ∀ f c', f c = .ok c' → ∃ s', s.changeEntry group entry f = .ok s' := by
  intro h
  have hkept : (StoredSegment.twice "y" "x").Kept := by
    simp [StoredSegment.twice, StoredCondition.bare, StoredSegment.Kept, StoredGroup.Kept,
      StoredCondition.Kept, StoredCondition.KeptValue]
  have hload : Segment.ofText (Schema.single "x" .text) (StoredSegment.twice "y" "x").text
      (IdSource.seeded 0) =
        .ok ((StoredSegment.twice "y" "x").load (Schema.single "x" .text) (IdSource.seeded 0)) := by
    rw [Segment.ofText, StoredSegment.parse?_text hkept]
  have hrefused : (twice "y" "x").changeEntry default default .ok =
      .error (.conditionQuarantined default) := by
    decide +kernel
  obtain ⟨hg, hc, _⟩ := lookup_twice_shadowed
  obtain ⟨s', hs'⟩ := h _ _ _ _ _ [] (twice "y" "x") _ _ _ _ hload rfl hg hc .ok _ rfl
  rw [hrefused] at hs'
  cases hs'

end Segment

end Documents

end Audience
