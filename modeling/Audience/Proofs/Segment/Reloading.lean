import Audience.Proofs.Evaluation.Groups
import Audience.Proofs.Segment.RoundTrip

/-!
# Who is in a segment after a reload

A segment that was loaded and then edited is saved, and its text is loaded again under the
same schema.  An active condition comes back settled, and one that was set aside is set
aside again, so after the reload both hold for the same customers as they do settled.

**Stray leap seconds.**  If no edit set a date with a stray leap second, then settling changes
nothing.  Otherwise it may move customers whose own date lies in the second after.

**Lost entries.**  The entry that stands for a document without groups has no stored form,
so it is missing after the reload.  As long as it was there its group held for nobody; now
the group holds for every customer for whom its other entries hold.  Later groups may hide
the difference.

**Results.**
* `Segment.foldGroups_of_not_passes`: when later groups hide a difference.
* `Segment.sound_of_ofText`: what is known of the entries of a loaded segment.
* `Segment.admits_reload_iff`: when a reload keeps a customer where they were.
-/

namespace Audience

section Folding

variable {customer : Customer}

/-- The group leaves the result so far as it is. -/
def Group.Passes (customer : Customer) (g : Group) : Prop :=
  g.combinator = .and ↔ g.admits customer = true

theorem Combinator.join_of_iff
    {combinator : Combinator} {holds : Bool}
    (h : combinator = .and ↔ holds = true) (acc : Bool) :
    combinator.join acc holds = acc := by
  cases combinator <;> cases holds <;> simp_all [join]

theorem Combinator.join_of_not_iff
    {combinator : Combinator} {holds : Bool}
    (h : ¬ (combinator = .and ↔ holds = true)) (acc acc' : Bool) :
    combinator.join acc holds = combinator.join acc' holds := by
  cases combinator <;> cases holds <;> simp_all [join]

/-- Two verdicts that differ from a third one agree. -/
theorem eq_iff_of_eq_iff_not
    {a b c : Bool} {p : Prop} (h : a = b ↔ ¬ p) :
    a = c ↔ (p ↔ b ≠ c) := by
  by_cases hp : p <;> cases a <;> cases b <;> cases c <;> simp_all

namespace Segment

/-- Groups that pass leave the result as it is. -/
theorem foldGroups_of_passes
    {later : List Group} (h : ∀ g ∈ later, g.Passes customer) (acc : Bool) :
    foldGroups customer acc later = acc := by
  induction later generalizing acc with
  | nil =>
      rfl
  | cons g rest ih =>
      have hg := Combinator.join_of_iff (h g List.mem_cons_self) acc
      rw [foldGroups_cons, hg]
      exact ih (fun g hg => h g (List.mem_cons_of_mem _ hg)) acc

/-- A group that does not pass hides what the result was before it. -/
theorem foldGroups_of_not_passes
    {later : List Group} (h : ¬ ∀ g ∈ later, g.Passes customer) (acc acc' : Bool) :
    foldGroups customer acc later = foldGroups customer acc' later := by
  induction later generalizing acc acc' with
  | nil =>
      exact absurd (fun _ hg => nomatch hg) h
  | cons g rest ih =>
      rw [foldGroups_cons, foldGroups_cons]
      by_cases hg : g.Passes customer
      · have hrest : ¬ ∀ g ∈ rest, g.Passes customer := by
          intro hall
          refine h fun g' hg' => ?_
          rcases List.mem_cons.mp hg' with rfl | hg'
          · exact hg
          · exact hall g' hg'
        exact ih hrest _ _
      · rw [Combinator.join_of_not_iff hg acc acc']

end Segment

end Folding

section Loaded

variable {schema : Schema}

/-- The stored form is there, can be saved, and is set aside again. -/
def Quarantined.Saved (schema : Schema) (q : Quarantined) : Prop :=
  ∃ raw, q.raw = some raw ∧ raw.Kept ∧ raw.Rejected schema

/-- The stored form is missing, or it is saved. -/
def Quarantined.LostOrSaved (schema : Schema) (q : Quarantined) : Prop :=
  q.raw = none ∨ q.Saved schema

theorem Quarantined.LostOrSaved.saved
    {q : Quarantined} {raw : StoredCondition} (h : q.LostOrSaved schema)
    (hraw : q.raw = some raw) :
    raw.Kept ∧ raw.Rejected schema := by
  rcases h with hlost | ⟨raw', hraw', hkept, hrejected⟩
  · cases hlost.symm.trans hraw
  · cases hraw'.symm.trans hraw
    exact ⟨hkept, hrejected⟩

theorem Entry.sound_ofLoad
    {raw : StoredCondition} (h : raw.Kept) (ids : IdSource) :
    (Entry.ofLoad (raw.load schema ids).1).Sound schema (Quarantined.Saved schema) := by
  cases hload : (raw.load schema ids).1 with
  | ok c =>
      obtain ⟨id, hactive⟩ := StoredCondition.load_ok hload
      exact .loaded rfl hactive
  | error q =>
      obtain ⟨hraw, hrejected⟩ := StoredCondition.load_error hload
      exact ⟨raw, hraw, h, hrejected⟩

theorem Group.Sound.lostOrSaved
    {Name : Option String → Prop} {g : Group}
    (h : g.Sound schema Name (Quarantined.Saved schema)) :
    g.Sound schema Name (Quarantined.LostOrSaved schema) := by
  refine ⟨h.storedId, ?_⟩
  intro e he
  have hsound := h.entries e he
  cases e with
  | active c =>
      exact hsound
  | quarantined q =>
      exact Or.inr hsound

theorem Group.sound_load
    {raw : StoredGroup} (h : raw.Kept) (ids : IdSource) :
    (raw.load schema ids).1.Sound schema (fun _ => True) (Quarantined.Saved schema) := by
  obtain ⟨id, ids', hload, _⟩ := StoredGroup.load_group schema raw ids
  rw [hload]
  refine ⟨trivial, ?_⟩
  intro e he
  obtain ⟨c, hc, ids'', rfl⟩ :=
    exists_of_mem_forall₂ (StoredCondition.forall₂_loadAll schema id raw.conditions ids') he
  exact Entry.sound_ofLoad (h c hc) ids''

namespace Segment

/-- A document with groups leaves no entry without a stored form. -/
theorem sound_load
    (schema : Schema) {stored : StoredSegment} (hne : stored.groups ≠ []) (h : stored.Kept)
    (ids : IdSource) :
    (stored.load schema ids).1.segment.Sound schema (fun _ => True)
      (Quarantined.Saved schema) (Quarantined.Saved schema) := by
  have hgroups : ∀ g ∈ (stored.load schema ids).1.segment.groups,
      g.Sound schema (fun _ => True) (Quarantined.Saved schema) := by
    intro g hg
    obtain ⟨raw, hraw, ids', rfl⟩ :=
      exists_of_mem_forall₂ (StoredSegment.forall₂_load schema hne ids) hg
    exact Group.sound_load (h raw hraw) ids'
  exact ⟨hgroups _ List.mem_cons_self, fun g hg => hgroups g (List.mem_cons_of_mem _ hg)⟩

/-- Of the entries of a loaded segment, only some of the first group may lack a stored form;
those that were set aside will be set aside again. -/
theorem sound_of_ofText
    {text : String} {ids ids' : IdSource} {loaded : Loaded}
    (h : Segment.ofText schema text ids = .ok (loaded, ids')) :
    loaded.segment.Sound schema (fun _ => True) (Quarantined.LostOrSaved schema)
        (Quarantined.Saved schema) ∧
      (StoredSegment.parse? text ≠ some ⟨[]⟩ →
        loaded.segment.Sound schema (fun _ => True) (Quarantined.Saved schema)
          (Quarantined.Saved schema)) := by
  unfold Segment.ofText at h
  split at h
  · next stored hstored =>
      obtain rfl : (stored.load schema ids).1 = loaded := congrArg Prod.fst (Except.ok.inj h)
      have hkept := StoredSegment.kept_of_parse? hstored
      obtain ⟨groups⟩ := stored
      cases groups with
      | nil =>
          refine ⟨⟨⟨trivial, ?_⟩, fun _ hg => nomatch hg⟩, fun hne => absurd hstored hne⟩
          intro e he
          rw [List.mem_singleton.mp he]
          exact Or.inl rfl
      | cons raw rest =>
          have hsound := sound_load schema (by simp) hkept ids
          exact ⟨⟨hsound.first.lostOrSaved, hsound.later⟩, fun _ => hsound⟩
  · cases h

end Segment

end Loaded

section Reloaded

variable {schema : Schema} {customer : Customer}

/-- After the reload, an entry with a stored form holds for the customers it holds for settled. -/
theorem Entry.admits_ofLoad
    {e : Entry} {raw : StoredCondition}
    (h : e.Sound schema (Quarantined.LostOrSaved schema)) (hraw : e.stored? = some raw)
    (ids : IdSource) :
    (Entry.ofLoad (raw.load schema ids).1).admits customer = e.settled.admits customer := by
  cases e with
  | active c =>
      cases hraw
      rw [Condition.load_stored (Condition.Composed.wellFormed h) ids]
      rfl
  | quarantined q =>
      obtain ⟨_, hrejected⟩ := Quarantined.LostOrSaved.saved h hraw
      obtain ⟨q', hq'⟩ := hrejected ids
      rw [hq']
      rfl

/-- All entries of the group that have a stored form hold for a customer. -/
def Group.admitsSaved (customer : Customer) (g : Group) : Bool :=
  g.entries.all fun e => e.stored?.isNone || e.admits customer

/-- After the reload, all entries hold if those with a stored form hold settled. -/
theorem Entry.all_admits_reload
    {entries loaded : List Entry}
    (h : ∀ e ∈ entries, e.Sound schema (Quarantined.LostOrSaved schema))
    (hloaded : List.Forall₂ (fun raw e => ∃ ids, e = Entry.ofLoad (raw.load schema ids).1)
      (entries.filterMap Entry.stored?) loaded) :
    loaded.all (Entry.admits customer) =
      (entries.map Entry.settled).all fun e => e.stored?.isNone || e.admits customer := by
  induction entries generalizing loaded with
  | nil =>
      cases hloaded
      rfl
  | cons e rest ih =>
      have hrest := fun e he => h e (List.mem_cons_of_mem _ he)
      cases hraw : e.stored? with
      | none =>
          rw [List.filterMap_cons_none hraw] at hloaded
          rw [ih hrest hloaded, List.map_cons, List.all_cons, Entry.stored?_settled, hraw]
          rfl
      | some raw =>
          rw [List.filterMap_cons_some hraw] at hloaded
          obtain ⟨e', loaded', ⟨ids, rfl⟩, hloaded', rfl⟩ :=
            List.forall₂_cons_left_iff.mp hloaded
          rw [List.all_cons, List.map_cons, List.all_cons, ih hrest hloaded',
            Entry.stored?_settled, hraw, Entry.admits_ofLoad (h e List.mem_cons_self) hraw ids]
          rfl

/-- After the reload, the group is joined as before and holds if all its entries with a
stored form hold settled. -/
theorem Group.load_stored_admits
    {Name : Option String → Prop} {g : Group}
    (h : g.Sound schema Name (Quarantined.LostOrSaved schema)) (ids : IdSource)
    (customer : Customer) :
    (g.stored.load schema ids).1.combinator = g.combinator ∧
      (g.stored.load schema ids).1.admits customer = g.settled.admitsSaved customer := by
  obtain ⟨id, ids', hload, _⟩ := StoredGroup.load_group schema g.stored ids
  rw [hload]
  exact ⟨rfl, Entry.all_admits_reload h.entries (StoredCondition.forall₂_loadAll _ _ _ _)⟩

/-- Where no stored form is missing, the entries with a stored form are all entries. -/
theorem Group.Sound.admitsSaved_eq
    {Name : Option String → Prop} {g : Group}
    (h : g.Sound schema Name (Quarantined.Saved schema)) (customer : Customer) :
    g.settled.admitsSaved customer = g.settled.admits customer := by
  unfold Group.admitsSaved Group.admits
  rw [Bool.eq_iff_iff, List.all_eq_true, List.all_eq_true]
  refine forall₂_congr fun e he => ?_
  have hsome : e.stored?.isNone = false := by
    obtain ⟨e, hmem, rfl⟩ := List.mem_map.mp he
    have hsound := h.entries e hmem
    rw [Entry.stored?_settled]
    cases e with
    | active c =>
        rfl
    | quarantined q =>
        obtain ⟨raw, hraw, _⟩ := hsound
        simp [hraw]
  rw [hsome, Bool.false_or]

theorem Group.admitsSaved_of_admits
    {g : Group} (h : g.admits customer = true) :
    g.admitsSaved customer = true := by
  unfold Group.admits at h
  unfold Group.admitsSaved
  rw [List.all_eq_true] at h ⊢
  intro e he
  rw [h e he, Bool.or_true]

namespace Segment

/-- A lost entry alone keeps the customer out of the segment: the other entries of the first
group hold, and the later groups leave the result as it is. -/
structure Revives (customer : Customer) (s : Segment) : Prop where
  first : s.first.admits customer = false
  saved : s.first.admitsSaved customer = true
  later : ∀ g ∈ s.later, g.Passes customer

/-- After the reload, the first group counts without its lost entries, and all of them settled. -/
theorem Sound.admits_load_stored
    {Name : Option String → Prop} {s : Segment}
    (h : s.Sound schema Name (Quarantined.LostOrSaved schema) (Quarantined.Saved schema))
    (ids : IdSource) :
    (s.stored.load schema ids).1.segment.admits customer =
      foldGroups customer (s.settled.first.admitsSaved customer) s.settled.later := by
  have hfirst : (s.stored.load schema ids).1.segment.first.admits customer =
      s.settled.first.admitsSaved customer := (Group.load_stored_admits h.first ids customer).2
  obtain ⟨ids', hlater⟩ : ∃ ids', (s.stored.load schema ids).1.segment.later =
      (StoredGroup.loadAll schema (s.later.map Group.stored) ids').1 := ⟨_, rfl⟩
  have hloaded := StoredGroup.forall₂_loadAll schema (s.later.map Group.stored) ids'
  rw [List.forall₂_map_left_iff] at hloaded
  have hboth := (List.forall₂_and_left s.later _).mpr ⟨h.later, hloaded⟩
  have hcongr : foldGroups customer (s.settled.first.admitsSaved customer)
      (StoredGroup.loadAll schema (s.later.map Group.stored) ids').1 =
        foldGroups customer (s.settled.first.admitsSaved customer) s.settled.later := by
    refine foldGroups_congr (List.forall₂_map_left_iff.mpr (hboth.imp ?_)) _
    rintro g _ ⟨hg, ids'', rfl⟩
    obtain ⟨hcombinator, hadmits⟩ := Group.load_stored_admits hg.lostOrSaved ids'' customer
    exact ⟨hcombinator, hadmits.trans (hg.admitsSaved_eq customer)⟩
  rw [Segment.admits, hlater, ← hcongr, ← hfirst]

theorem Sound.kept_stored
    {Name : Option String → Prop} {s : Segment}
    (h : s.Sound schema Name (Quarantined.LostOrSaved schema) (Quarantined.Saved schema)) :
    s.stored.Kept := by
  have hgroups : ∀ g ∈ s.groups, g.Sound schema Name (Quarantined.LostOrSaved schema) := by
    intro g hg
    rcases List.mem_cons.mp hg with rfl | hg
    · exact h.first
    · exact (h.later g hg).lostOrSaved
  refine Segment.kept_stored ?_
  intro g hg e he raw hraw
  have hsound := (hgroups g hg).entries e he
  cases e with
  | active c =>
      cases hraw
      exact c.kept_stored
  | quarantined q =>
      obtain ⟨hkept, _⟩ := Quarantined.LostOrSaved.saved hsound hraw
      exact hkept

/-- A customer whom a lost entry alone keeps out is not admitted. -/
theorem Revives.not_admits
    {s : Segment} (h : s.Revives customer) :
    s.admits customer = false := by
  rw [Segment.admits, h.first]
  exact foldGroups_of_passes h.later false

/-- Without the lost entry this customer is admitted. -/
theorem Revives.admits_saved
    {s : Segment} (h : s.Revives customer) :
    foldGroups customer (s.first.admitsSaved customer) s.later = true := by
  rw [h.saved]
  exact foldGroups_of_passes h.later true

theorem foldGroups_admitsSaved_of_not_revives
    {s : Segment} (h : ¬ s.Revives customer) :
    foldGroups customer (s.first.admitsSaved customer) s.later = s.admits customer := by
  unfold Segment.admits
  cases hfirst : s.first.admits customer with
  | true =>
      rw [Group.admitsSaved_of_admits hfirst]
  | false =>
      cases hsaved : s.first.admitsSaved customer with
      | false =>
          rfl
      | true =>
          -- The first group counts otherwise, so a later group hides the difference.
          have hlater : ¬ ∀ g ∈ s.later, g.Passes customer :=
            fun hlater => h ⟨hfirst, hsaved, hlater⟩
          exact foldGroups_of_not_passes hlater true false

/-- The result after the reload differs exactly if a lost entry alone kept the customer
out. -/
theorem foldGroups_admitsSaved_iff
    (s : Segment) :
    foldGroups customer (s.first.admitsSaved customer) s.later = s.admits customer ↔
      ¬ s.Revives customer := by
  constructor
  · intro hsame hrevives
    rw [hrevives.admits_saved, hrevives.not_admits] at hsame
    cases hsame
  · exact foldGroups_admitsSaved_of_not_revives

/-- A segment that was loaded and edited can be saved and loaded again, and then it admits
the customers that it admits with its dates settled, unless a lost entry alone kept a customer
out.  Only a document without groups leaves such an entry, and settling changes nothing if no date
has a stray leap second. -/
theorem admits_reload_iff
    {text : String} {ids ids' : IdSource} {loaded : Loaded} {s : Segment}
    (hload : Segment.ofText schema text ids = .ok (loaded, ids'))
    (hsteps : Relation.ReflTransGen (Step schema) loaded.segment s) (fresh : IdSource) :
    ∃ again rest, Segment.ofText schema s.text fresh = .ok (again, rest) ∧
      (s.settled = s ↔ ∀ v ∈ s.values, v.isStray = false) ∧
      ∀ customer,
        (again.segment.admits customer = s.settled.admits customer ↔
          ¬ s.settled.Revives customer) ∧
        (s.settled.Revives customer → StoredSegment.parse? text = some ⟨[]⟩ ∧
          s.settled.admits customer = false ∧ again.segment.admits customer = true) ∧
        (again.segment.admits customer = s.admits customer ↔
          (s.settled.Revives customer ↔ s.settled.admits customer ≠ s.admits customer)) := by
  obtain ⟨hloaded, hclean⟩ := sound_of_ofText hload
  have hsound := sound_of_steps trivial hsteps hloaded
  have hreload := Segment.ofText_of_kept hsound.kept_stored schema fresh
  refine ⟨(s.stored.load schema fresh).1, (s.stored.load schema fresh).2, hreload,
    s.settled_eq_self_iff, ?_⟩
  intro customer
  rw [hsound.admits_load_stored fresh]
  have hkept : foldGroups customer (s.settled.first.admitsSaved customer) s.settled.later =
      s.settled.admits customer ↔ ¬ s.settled.Revives customer :=
    foldGroups_admitsSaved_iff s.settled
  refine ⟨hkept, ?_, eq_iff_of_eq_iff_not hkept⟩
  intro hrevives
  refine ⟨?_, hrevives.not_admits, hrevives.admits_saved⟩
  by_contra hne
  have hsaved : s.settled.first.admitsSaved customer = s.settled.first.admits customer :=
    (sound_of_steps trivial hsteps (hclean hne)).first.admitsSaved_eq customer
  rw [hrevives.first, hrevives.saved] at hsaved
  cases hsaved

/-- A segment of one condition that gets another group. -/
theorem admits_reload_iff_comparingText :
    ∃ again rest, Segment.ofText (Schema.single "x" .text)
        (comparingText.addGroup default).text (IdSource.seeded 0) = .ok (again, rest) ∧
      ((comparingText.addGroup default).settled = comparingText.addGroup default ↔
        ∀ v ∈ (comparingText.addGroup default).values, v.isStray = false) ∧
      ∀ customer,
        (again.segment.admits customer =
            (comparingText.addGroup default).settled.admits customer ↔
          ¬ (comparingText.addGroup default).settled.Revives customer) ∧
        ((comparingText.addGroup default).settled.Revives customer →
          StoredSegment.parse? comparingText.text = some ⟨[]⟩ ∧
          (comparingText.addGroup default).settled.admits customer = false ∧
          again.segment.admits customer = true) ∧
        (again.segment.admits customer = (comparingText.addGroup default).admits customer ↔
          ((comparingText.addGroup default).settled.Revives customer ↔
            (comparingText.addGroup default).settled.admits customer ≠
              (comparingText.addGroup default).admits customer)) := by
  have hsettled : comparingText.settled = comparingText := rfl
  have hload := composed_comparingText.clean.ofText_stored (IdSource.seeded 0)
  rw [hsettled] at hload
  have hadd : Edit.addGroup.run (Schema.single "x" .text) default comparingText =
      .ok (comparingText.addGroup default) := rfl
  exact admits_reload_iff hload (.single (.edit (e := .addGroup) trivial hadd)) _

/-- A document without groups admits nobody, but once it has been saved and loaded again it
admits everybody. -/
theorem not_admits_reload :
    ¬ ∀ (schema : Schema) (text : String) (ids ids' : IdSource) (loaded : Loaded)
        (s : Segment),
        Segment.ofText schema text ids = .ok (loaded, ids') →
        Relation.ReflTransGen (Step schema) loaded.segment s →
        ∀ fresh, ∃ again rest, Segment.ofText schema s.text fresh = .ok (again, rest) ∧
          ∀ customer, again.segment.admits customer = s.admits customer := by
  intro h
  have hparse : StoredSegment.parse? "\x7b\"groups\":[]\x7d" = some ⟨[]⟩ :=
    StoredSegment.parse?_text (s := ⟨[]⟩) fun _ hg => nomatch hg
  have hload : Segment.ofText Schema.standard "\x7b\"groups\":[]\x7d" (IdSource.seeded 0) =
      .ok ((⟨[]⟩ : StoredSegment).load Schema.standard (IdSource.seeded 0)) := by
    rw [Segment.ofText, hparse]
  obtain ⟨again, rest, hagain, hsame⟩ := h _ _ _ _ _ _ hload .refl (IdSource.seeded 0)
  have hsound := (sound_of_ofText hload).1
  rw [Segment.ofText_of_kept hsound.kept_stored] at hagain
  obtain rfl := congrArg Prod.fst (Except.ok.inj hagain)
  have hbare := hsame (Customer.bare "c")
  rw [hsound.admits_load_stored] at hbare
  cases hbare

end Segment

end Reloaded

end Audience
