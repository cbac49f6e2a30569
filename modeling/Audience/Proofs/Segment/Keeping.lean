import Audience.Proofs.Segment.Addressing
import Audience.Proofs.Segment.Reporting
import Audience.Proofs.Segment.Resaving

/-!
# What could not be loaded is never rewritten

A condition that was set aside when a segment was loaded keeps its stored form, and a group with
a malformed identifier keeps that identifier.  Operations on the segment may remove such entries
and groups, but they cannot change them: so what is left of them is saved as it was stored.

**Invariant.**  What operations leave of the groups are some of them in their order, and after
them new ones.  A group that is left has its identifiers, and of its entries that were set aside
some in their order.  A new group has no stored identifier, and none of its entries was set
aside.

**Results.**
* `Operation.run_of_quarantined`: a change of an entry that was set aside is refused.
* `Remains.append`, `Remains.sublist`, `Remains.replace`: what happens to a list keeps its
  origin.
* `Segment.remains_attemptAll`: any operations preserve the invariant.
* `StoredSegment.kept_of_attemptAll`: what is left of a document after any operations.
-/

namespace Audience

section Refusal

/-- The group and the entry whose condition the operation changes. -/
def Operation.target? : Operation → Option (Uuid × Uuid)
  | edit _ _ (.changeEntry group entry _) => some (group, entry)
  | edit _ _ _ => none
  | update group entry _ => some (group, entry)

/-- An entry that was set aside is not changed, whatever the change. -/
theorem Operation.run_of_quarantined
    {op : Operation} {group entry : Uuid} {s : Segment} {q : Quarantined}
    (htarget : op.target? = some (group, entry))
    (hentry : s.entryAt? group entry = some (.quarantined q)) :
    q.id = entry ∧ op.run s = .error (.conditionQuarantined q.id) := by
  constructor
  · obtain ⟨g, _, hfind⟩ := Option.bind_eq_some_iff.mp hentry
    exact Entry.id_of_find? hfind
  · cases op with
    | update group' entry' f =>
        cases htarget
        exact Segment.changeEntry_of_quarantined hentry f
    | edit schema fresh e =>
        cases e with
        | changeEntry group' entry' change =>
            cases htarget
            exact Segment.changeEntry_of_quarantined hentry (Condition.change schema change)
        | addGroup | removeGroup | turnGroup | addCondition | append | removeEntry =>
            cases htarget

end Refusal

section Remaining

variable {α β γ : Type} {R : α → β → Prop} {New : β → Prop} {as : List α} {bs : List β}

/-- What remains of a list are some of its items in their order, each as the relation says, and
after them new ones. -/
inductive Remains (R : α → β → Prop) (New : β → Prop) : List α → List β → Prop
  | added {as : List α} {bs : List β} :
      (∀ b ∈ bs, New b) →
      Remains R New as bs
  | kept {a : α} {b : β} {as : List α} {bs : List β} :
      R a b →
      Remains R New as bs →
      Remains R New (a :: as) (b :: bs)
  | dropped {a : α} {as : List α} {bs : List β} :
      Remains R New as bs →
      Remains R New (a :: as) bs

theorem Remains.refl
    {R : α → α → Prop} {New : α → Prop} (hR : ∀ a, R a a) (as : List α) :
    Remains R New as as := by
  induction as with
  | nil =>
      exact .added (fun _ ha => nomatch ha)
  | cons a rest ih =>
      exact .kept (hR a) ih

theorem Remains.append
    (h : Remains R New as bs) {b : β} (hb : New b) :
    Remains R New as (bs ++ [b]) := by
  induction h with
  | added hnew =>
      refine .added ?_
      exact List.forall_mem_append.mpr ⟨hnew, List.forall_mem_singleton.mpr hb⟩
  | kept hab _ ih =>
      exact .kept hab ih
  | dropped _ ih =>
      exact .dropped ih

theorem Remains.sublist
    (h : Remains R New as bs) {bs' : List β} (hsub : bs'.Sublist bs) :
    Remains R New as bs' := by
  induction h generalizing bs' with
  | added hnew =>
      exact .added fun b hb => hnew b (hsub.subset hb)
  | kept hab _ ih =>
      cases hsub with
      | cons _ hrest =>
          exact .dropped (ih hrest)
      | cons_cons _ hrest =>
          exact .kept hab (ih hrest)
  | dropped _ ih =>
      exact .dropped (ih hsub)

theorem Remains.replace
    (before : List β) {after : List β} {b b' : β} (h : Remains R New as (before ++ b :: after))
    (hR : ∀ a, R a b → R a b') (hNew : New b → New b') :
    Remains R New as (before ++ b' :: after) := by
  -- Each item that was kept shortens what lies before the place, so it is any.
  generalize hbs : before ++ b :: after = bs at h
  induction h generalizing before with
  | added hnew =>
      subst hbs
      refine .added ?_
      simp only [List.forall_mem_append, List.forall_mem_cons] at hnew ⊢
      obtain ⟨hbefore, hb, hafter⟩ := hnew
      exact ⟨hbefore, hNew hb, hafter⟩
  | kept hab hrest ih =>
      cases before with
      | nil =>
          cases hbs
          exact .kept (hR _ hab) hrest
      | cons c before =>
          cases hbs
          exact .kept hab (ih before rfl)
  | dropped _ ih =>
      exact .dropped (ih before hbs)

/-- What remains of a list remains of the list that it was made from. -/
theorem Remains.zip
    {S : γ → α → Prop} {T : γ × α → β → Prop} {cs : List γ}
    (h : Remains R New as bs) (hcs : List.Forall₂ S cs as)
    (hT : ∀ c a b, S c a → R a b → T (c, a) b) :
    Remains T New (cs.zip as) bs := by
  induction h generalizing cs with
  | added hnew =>
      exact .added hnew
  | kept hab _ ih =>
      cases hcs with
      | cons hca hrest =>
          exact .kept (hT _ _ _ hca hab) (ih hrest)
  | dropped _ ih =>
      cases hcs with
      | cons _ hrest =>
          exact .dropped (ih hrest)

theorem Remains.exists_append
    (h : Remains R New as bs) :
    ∃ kept added, bs = kept ++ added ∧ List.SublistForall₂ (fun b a => R a b) kept as ∧
      ∀ b ∈ added, New b := by
  induction h with
  | @added _ bs hnew =>
      exact ⟨[], bs, rfl, .nil, hnew⟩
  | @kept _ b _ _ hab _ ih =>
      obtain ⟨kept, added, rfl, hkept, hnew⟩ := ih
      exact ⟨b :: kept, added, rfl, .cons hab hkept, hnew⟩
  | dropped _ ih =>
      obtain ⟨kept, added, rfl, hkept, hnew⟩ := ih
      exact ⟨kept, added, rfl, .cons_right hkept, hnew⟩

end Remaining

section Groups

/-- What operations leave of a group. -/
structure Group.Leaves (g g' : Group) : Prop where
  id : g'.id = g.id
  storedId : g'.storedId = g.storedId
  quarantined : g'.quarantined.Sublist g.quarantined

/-- Nothing of the group comes from a document. -/
structure Group.New (g : Group) : Prop where
  storedId : g.storedId = none
  quarantined : g.quarantined = []

variable {Adds : Condition → Prop} {Changes : Condition → Condition → Prop} {g g' : Group}

theorem Group.Edited.quarantined
    (h : g.Edited Adds Changes g') :
    g'.quarantined.Sublist g.quarantined := by
  unfold Group.quarantined
  cases h with
  | turned =>
      exact List.Sublist.refl _
  | @appended c _ =>
      have hnone : [Entry.active c].filter Entry.isQuarantined = [] := rfl
      rw [Group.append, List.filter_append, hnone, List.append_nil]
  | removed hplace =>
      rw [hplace]
      exact ((List.sublist_cons_self _ _).append_left _).filter _
  | changed hplace _ =>
      rw [hplace, List.filter_append, List.filter_append]
      exact List.Sublist.refl _

theorem Group.Leaves.edited
    {first : Group} (h : first.Leaves g) (hedited : g.Edited Adds Changes g') :
    first.Leaves g' where
  id := hedited.id.trans h.id
  storedId := hedited.storedId.trans h.storedId
  quarantined := hedited.quarantined.trans h.quarantined

theorem Group.New.edited
    (h : g.New) (hedited : g.Edited Adds Changes g') :
    g'.New where
  storedId := hedited.storedId.trans h.storedId
  quarantined := List.sublist_nil.mp (h.quarantined ▸ hedited.quarantined)

/-- One operation preserves the origin of the groups. -/
theorem Segment.Edited.remains
    {s s' : Segment} {groups : List Group} (h : s.Edited Adds Changes s')
    (hs : Remains Group.Leaves Group.New groups s.groups) :
    Remains Group.Leaves Group.New groups s'.groups := by
  cases h with
  | same =>
      exact hs
  | added fresh =>
      exact hs.append ⟨rfl, rfl⟩
  | removed hplace =>
      refine hs.sublist ?_
      rw [Segment.groups, Segment.groups, hplace]
      exact ((List.sublist_cons_self _ _).append_left _).cons_cons _
  | first hedited _ =>
      exact Remains.replace [] hs (fun _ h => h.edited hedited)
        fun h => h.edited hedited
  | later hplace hedited =>
      rw [Segment.groups, hplace] at hs
      exact Remains.replace (s.first :: _) hs (fun _ h => h.edited hedited)
        fun h => h.edited hedited

/-- Any operations, some of which may fail, preserve it. -/
theorem Segment.remains_attemptAll
    (s : Segment) (ops : List Operation) :
    Remains Group.Leaves Group.New s.groups (s.attemptAll ops).groups := by
  have hleaves : ∀ g : Group, g.Leaves g := fun g => ⟨rfl, rfl, List.Sublist.refl _⟩
  refine attemptAll_induction (P := fun s' => Remains Group.Leaves Group.New s.groups s'.groups)
    ?_ (Remains.refl hleaves s.groups)
  intro op _ s₁ s₂ hrun hs
  exact (Operation.edited_of_run hrun).remains hs

end Groups

section Documents

variable {schema : Schema}

/-- What a group becomes that was loaded from a stored one: its entries that were set aside are
some of those after the load, in their order, and each is saved as the stored condition at its
place.  A malformed identifier is saved as it is stored. -/
structure StoredGroup.Keeps (raw : StoredGroup) (loaded g : Group) : Prop where
  id : g.id = loaded.id
  name : Uuid.parse? raw.id = none → g.stored.id = raw.id
  quarantined : g.quarantined.Sublist loaded.quarantined
  raws : ∀ e ∈ g.quarantined,
    ∃ c, (c, e) ∈ raw.conditions.zip loaded.entries ∧ e.stored? = some c
  conditions : List.Forall₂ (fun e c => e.stored? = some c) g.entries g.stored.conditions

theorem forall₂_filterMap
    {α β : Type} {f : α → Option β} {as : List α} (h : ∀ a ∈ as, (f a).isSome = true) :
    List.Forall₂ (fun a b => f a = some b) as (as.filterMap f) := by
  induction as with
  | nil =>
      exact .nil
  | cons a rest ih =>
      obtain ⟨hhead, htail⟩ := List.forall_mem_cons.mp h
      obtain ⟨b, hb⟩ := Option.isSome_iff_exists.mp hhead
      rw [List.filterMap_cons_some hb]
      exact .cons hb (ih htail)

theorem StoredCondition.LoadedAs.stored?_eq
    {raw : StoredCondition} {e : Entry} (h : raw.LoadedAs schema e)
    (he : e.isQuarantined = true) :
    e.stored? = some raw := by
  cases h with
  | active _ _ =>
      cases he
  | aside _ _ =>
      rfl
  | malformed _ _ =>
      rfl

theorem StoredGroup.keeps_of_leaves
    {raw : StoredGroup} {loaded g : Group} (hload : raw.LoadedAs schema loaded)
    (h : loaded.Leaves g) :
    raw.Keeps loaded g := by
  have hraws : ∀ e ∈ g.quarantined,
      ∃ c, (c, e) ∈ raw.conditions.zip loaded.entries ∧ e.stored? = some c := by
    intro e he
    obtain ⟨hmem, haside⟩ := List.mem_filter.mp (h.quarantined.subset he)
    obtain ⟨c, hplace, hc⟩ := exists_mem_zip_of_forall₂ hload.entries hmem
    exact ⟨c, hplace, hc.stored?_eq haside⟩
  refine ⟨h.id, ?_, h.quarantined, hraws, ?_⟩
  · intro hparse
    refine Group.stored_id_of_storedId ?_
    rw [h.storedId, hload.storedId, hparse]
    rfl
  · -- No entry lacks a stored form, so none is passed over.
    refine forall₂_filterMap ?_
    intro e he
    cases e with
    | active c =>
        rfl
    | quarantined q =>
        obtain ⟨c, _, hc⟩ := hraws _ (List.mem_filter.mpr ⟨he, rfl⟩)
        rw [hc]
        rfl

/-- After any operations on a segment that was loaded, what could not be loaded is as it was
stored.  An operation that would change an entry that was set aside is refused.  The groups are
what is left of the loaded ones, in their order, and after them new ones. -/
theorem StoredSegment.kept_of_attemptAll
    {stored : StoredSegment} (hne : stored.groups ≠ []) (schema : Schema) (ids : IdSource)
    (ops : List Operation) :
    ∃ loaded mismatches rest s, stored.load schema ids = (⟨loaded, mismatches⟩, rest) ∧
      s = loaded.attemptAll ops ∧
      (∀ (op : Operation) group entry q, op.target? = some (group, entry) →
        s.entryAt? group entry = some (.quarantined q) →
        q.id = entry ∧ op.run s = .error (.conditionQuarantined q.id)) ∧
      ∃ kept added, s.groups = kept ++ added ∧
        List.SublistForall₂ (fun g source => source.1.Keeps source.2 g) kept
          (stored.groups.zip loaded.groups) ∧
        ∀ g ∈ added, g.New := by
  have hload := loadedAs_load schema hne ids
  refine ⟨(stored.load schema ids).1.segment, (stored.load schema ids).1.mismatches,
    (stored.load schema ids).2, _, rfl, rfl, ?_, ?_⟩
  · intro op group entry q htarget hentry
    exact Operation.run_of_quarantined htarget hentry
  · have hremains := Segment.remains_attemptAll (stored.load schema ids).1.segment ops
    have hkeeps := hremains.zip (T := fun source g => source.1.Keeps source.2 g) hload
      fun _ _ _ hgroup hleaves => StoredGroup.keeps_of_leaves hgroup hleaves
    exact hkeeps.exists_append

/-- An attempt to change the second condition of the document, which was set aside, a new group,
and a condition that is appended to the first group under another schema. -/
def StoredSegment.legacyEdits : List Operation :=
  [.edit Schema.standard default (.changeEntry (IdSource.seeded 0).next
      (IdSource.seeded 0).advance.next (.operator .notEquals)),
    .edit Schema.standard default .addGroup,
    .edit (Schema.single "x" .text) default
      (.append (IdSource.seeded 0).next (Condition.comparingText .equals "a"))]

def StoredSegment.legacyLoaded : Segment :=
  (legacy.load Schema.standard (IdSource.seeded 0)).1.segment

theorem StoredSegment.kept_of_attemptAll_legacy :
    legacy.groups ≠ [] ∧
      (Operation.update (IdSource.seeded 0).next (IdSource.seeded 0).advance.next .ok).run
          (legacyLoaded.attemptAll legacyEdits) =
        .error (.conditionQuarantined (IdSource.seeded 0).advance.next) ∧
      ∃ kept added, (legacyLoaded.attemptAll legacyEdits).groups = kept ++ added ∧
        List.SublistForall₂ (fun g source => source.1.Keeps source.2 g) kept
          (legacy.groups.zip legacyLoaded.groups) ∧
        ∀ g ∈ added, g.New := by
  have hne : legacy.groups ≠ [] := by
    simp [legacy]
  have hentry : (legacyLoaded.attemptAll legacyEdits).entryAt? (IdSource.seeded 0).next
      (IdSource.seeded 0).advance.next =
        some (.quarantined ⟨(IdSource.seeded 0).advance.next,
          some ⟨"second", "age", "equals", none, none⟩, .malformedId "second"⟩) := by
    decide +kernel
  obtain ⟨loaded, _, _, _, hload, rfl, hrefused, hgroups⟩ :=
    kept_of_attemptAll hne Schema.standard (IdSource.seeded 0) legacyEdits
  obtain rfl : legacyLoaded = loaded := by
    rw [legacyLoaded, hload]
  exact ⟨hne, (hrefused (.update _ _ .ok) _ _ _ rfl hentry).2, hgroups⟩

end Documents

end Audience
