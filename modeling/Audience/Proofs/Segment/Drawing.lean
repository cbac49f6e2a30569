import Audience.Proofs.Evaluation
import Audience.Proofs.Segment.Reporting
import Mathlib.Data.List.Forall2

/-!
# The identifiers that loading draws

Loading a segment draws a new identifier for each malformed one.  Nothing else depends on
the identifiers that are left: two loads of one stored segment under one schema differ at
most in the identifiers drawn for the groups and entries whose own are malformed, and in
these where they are reported.

**Results.**
* `Group.SameButDrawn.report`: groups that differ in drawn identifiers are reported alike.
* `StoredSegment.sameButDrawn_load`: how two loads of one stored segment may differ.
* `StoredSegment.admits_load_eq`: they admit the same customers.
-/

namespace Audience

/-- The entries are the same, or they were set aside for the same malformed identifier. -/
inductive Entry.SameButDrawn : Entry → Entry → Prop
  | same (e : Entry) :
      SameButDrawn e e
  | drawn {raw : StoredCondition} (id id' : Uuid) :
      Uuid.parse? raw.id = none →
      SameButDrawn (quarantined ⟨id, some raw, .malformedId raw.id⟩)
        (quarantined ⟨id', some raw, .malformedId raw.id⟩)

/-- The groups differ at most in drawn identifiers: their own ones only if they were stored
under a malformed one. -/
structure Group.SameButDrawn (g g' : Group) : Prop where
  id : g.storedId = none → g'.id = g.id
  combinator : g'.combinator = g.combinator
  storedId : g'.storedId = g.storedId
  entries : List.Forall₂ Entry.SameButDrawn g.entries g'.entries

/-- The first mismatch says of the first group, or of one of its entries, what the second
one says of the second group, or of its entry at the same place. -/
inductive Mismatch.SameButDrawn (g g' : Group) : Mismatch → Mismatch → Prop
  | group {raw : String} :
      g.storedId = some raw →
      g'.storedId = some raw →
      SameButDrawn g g' ⟨g.id, none, .malformedId raw⟩ ⟨g'.id, none, .malformedId raw⟩
  | entry {q q' : Quarantined} :
      (Entry.quarantined q, Entry.quarantined q') ∈ g.entries.zip g'.entries →
      q'.reason = q.reason →
      SameButDrawn g g' ⟨g.id, some q.id, q.reason⟩ ⟨g'.id, some q'.id, q'.reason⟩

/-- The loaded segments and their reports differ at most in drawn identifiers. -/
structure Loaded.SameButDrawn (l l' : Loaded) : Prop where
  groups : List.Forall₂ Group.SameButDrawn l.segment.groups l'.segment.groups
  mismatches : List.Forall₂
    (fun m m' => ∃ g g', (g, g') ∈ l.segment.groups.zip l'.segment.groups ∧
      Mismatch.SameButDrawn g g' m m')
    l.mismatches l'.mismatches

section Reports

theorem forall₂_with_zip
    {α β : Type} {R : α → β → Prop} {as : List α} {bs : List β} (h : List.Forall₂ R as bs) :
    List.Forall₂ (fun a b => (a, b) ∈ as.zip bs ∧ R a b) as bs := by
  rw [List.forall₂_iff_zip] at h ⊢
  obtain ⟨hlength, hzip⟩ := h
  exact ⟨hlength, fun hmem => ⟨hmem, hzip hmem⟩⟩

theorem Group.SameButDrawn.nameReport
    {g g' : Group} (h : g.SameButDrawn g') :
    List.Forall₂ (Mismatch.SameButDrawn g g') g.nameReport g'.nameReport := by
  unfold Group.nameReport
  rw [h.storedId]
  cases hname : g.storedId with
  | none =>
      exact .nil
  | some raw =>
      exact .cons (.group hname (h.storedId.trans hname)) .nil

theorem Group.SameButDrawn.report
    {g g' : Group} (h : g.SameButDrawn g') :
    List.Forall₂ (Mismatch.SameButDrawn g g') g.report g'.report := by
  refine List.rel_append h.nameReport ?_
  refine List.rel_filterMap ?_ (forall₂_with_zip h.entries)
  rintro e e' ⟨hmem, hsame⟩
  cases hsame with
  | same =>
      cases e with
      | active c =>
          exact .none
      | quarantined q =>
          exact .some (.entry hmem rfl)
  | drawn id id' =>
      exact .some (.entry hmem rfl)

theorem Segment.forall₂_report
    {groups groups' : List Group} (h : List.Forall₂ Group.SameButDrawn groups groups') :
    List.Forall₂
      (fun m m' => ∃ g g', (g, g') ∈ groups.zip groups' ∧ Mismatch.SameButDrawn g g' m m')
      (groups.flatMap Group.report) (groups'.flatMap Group.report) := by
  refine List.rel_flatMap (forall₂_with_zip h) ?_
  rintro g g' ⟨hmem, hsame⟩
  exact hsame.report.imp fun m m' hm => ⟨g, g', hmem, hm⟩

end Reports

section Loads

theorem Entry.sameButDrawn_ofLoad
    (schema : Schema) (raw : StoredCondition) (ids ids' : IdSource) :
    (Entry.ofLoad (raw.load schema ids).1).SameButDrawn
      (Entry.ofLoad (raw.load schema ids').1) := by
  cases hid : Uuid.parse? raw.id with
  | none =>
      rw [StoredCondition.load_of_parse?_eq_none hid,
        StoredCondition.load_of_parse?_eq_none hid]
      exact .drawn ids.next ids'.next hid
  | some id =>
      have hsame : (raw.load schema ids').1 = (raw.load schema ids).1 := by
        simp only [StoredCondition.load, hid]
        cases raw.activate schema id <;> rfl
      rw [hsame]
      exact .same _

theorem Group.sameButDrawn_load
    (schema : Schema) (raw : StoredGroup) (ids ids' : IdSource) :
    (raw.load schema ids).1.SameButDrawn (raw.load schema ids').1 := by
  obtain ⟨id, rest, hload, hid⟩ := StoredGroup.load_group schema raw ids
  obtain ⟨id', rest', hload', hid'⟩ := StoredGroup.load_group schema raw ids'
  rw [hload, hload']
  constructor
  · intro hname
    cases hparse : Uuid.parse? raw.id with
    | none =>
        simp [hparse] at hname
    | some parsed =>
        exact (hid' parsed hparse).trans (hid parsed hparse).symm
  · rfl
  · rfl
  · refine forall₂_of_common ?_ (StoredCondition.forall₂_loadAll schema id raw.conditions rest)
      (StoredCondition.forall₂_loadAll schema id' raw.conditions rest')
    rintro c _ _ ⟨ids₁, rfl⟩ ⟨ids₂, rfl⟩
    exact Entry.sameButDrawn_ofLoad schema c ids₁ ids₂

/-- Two loads of a stored segment that has groups differ at most in drawn identifiers. -/
theorem StoredSegment.sameButDrawn_load
    {stored : StoredSegment} (h : stored.groups ≠ []) (schema : Schema) (ids ids' : IdSource) :
    (stored.load schema ids).1.SameButDrawn (stored.load schema ids').1 := by
  have hgroups : List.Forall₂ Group.SameButDrawn (stored.load schema ids).1.segment.groups
      (stored.load schema ids').1.segment.groups := by
    refine forall₂_of_common ?_ (forall₂_load schema h ids) (forall₂_load schema h ids')
    rintro raw _ _ ⟨ids₁, rfl⟩ ⟨ids₂, rfl⟩
    exact Group.sameButDrawn_load schema raw ids₁ ids₂
  refine ⟨hgroups, ?_⟩
  rw [mismatches_load, mismatches_load]
  exact Segment.forall₂_report hgroups

end Loads

section Evaluation

variable {customer : Customer}

theorem Entry.SameButDrawn.implies
    {e e' : Entry} (h : e.SameButDrawn e') :
    Entry.Implies customer e e' := by
  intro hadmits
  cases h with
  | same =>
      exact hadmits
  | drawn =>
      cases hadmits

/-- Whatever identifiers it draws, a load admits the same customers. -/
theorem StoredSegment.admits_load_eq
    (schema : Schema) (stored : StoredSegment) (ids ids' : IdSource) (customer : Customer) :
    (stored.load schema ids).1.segment.admits customer =
      (stored.load schema ids').1.segment.admits customer := by
  have himplies : ∀ (raw : StoredCondition) (ids ids' : IdSource), Entry.Implies customer
      (Entry.ofLoad (raw.load schema ids).1) (Entry.ofLoad (raw.load schema ids').1) :=
    fun raw ids ids' => (Entry.sameButDrawn_ofLoad schema raw ids ids').implies
  rw [Bool.eq_iff_iff]
  exact ⟨admits_load_of_implies himplies, admits_load_of_implies himplies⟩

end Evaluation

end Audience
