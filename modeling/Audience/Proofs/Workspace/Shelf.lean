import Audience.Proofs.Workspace.Obtained
import Mathlib.Data.List.Nodup

/-!
# Saved segments over a run

Segments are saved and deleted, drafts are edited and the live schema is replaced, in any
order.  Whatever happens, a workspace answers for the segments that were saved and not deleted
since, and for no others.

**Assumptions.**  No two saves of a run draw the same identifier, and the clock moves on between
any two of them.  Then the shelf of the log holds the live segments, each once, and the table,
whose order is that of the saves, is already sorted.

**Loads.**  A segment is loaded against the schema that was given last, from the document that
was written when it was saved.  Two loads under one schema differ at most in the identifiers that
they draw.

**Results.**
* `Store.listed_of_perm`: the list does not depend on the order of the table.
* `Workspace.sameButDrawn_load`: two loads of a document under one schema.
* `Studio.shelved_after`: the table is the shelf of the log.
* `Studio.serves_after`: what a workspace answers after any run.
-/

namespace Audience

section Listing

namespace SavedSegment

theorem transCmp_compare :
    Std.TransCmp fun a b : SavedSegment =>
      (a.createdAt.compare b.createdAt).then (compare a.name b.name) :=
  inferInstanceAs (Std.TransCmp (compareLex
    (compareOn fun a : SavedSegment => a.createdAt.rank)
    (compareOn fun a : SavedSegment => a.name)))

theorem precedes_trans
    (a b c : SavedSegment) (hab : a.precedes b = true) (hbc : b.precedes c = true) :
    a.precedes c = true :=
  transCmp_compare.isLE_trans hab hbc

theorem precedes_total
    (a b : SavedSegment) :
    (a.precedes b || b.precedes a) = true := by
  have horiented := transCmp_compare.toOrientedCmp
  have hswap := horiented.eq_swap (a := a) (b := b)
  simp only [precedes]
  rw [hswap]
  cases (b.createdAt.compare a.createdAt).then (compare b.name a.name) <;> rfl

theorem rank_le_of_precedes
    {a b : SavedSegment} (h : a.precedes b = true) :
    a.createdAt.rank ≤ b.createdAt.rank := by
  refine Int.not_lt.mp ?_
  intro hlt
  have hgt : a.createdAt.compare b.createdAt = .gt := Int.compare_eq_gt.mpr hlt
  rw [precedes, hgt] at h
  cases h

end SavedSegment

/-- If no two segments were saved at one time, the list is the same for every order of the
table. -/
theorem Store.listed_of_perm
    {table saved : List SavedSegment} (hperm : table.Perm saved)
    (hsaved : saved.Pairwise fun a b => a.createdAt.compare b.createdAt = .lt) :
    (Store.mk table).listed = saved := by
  have hlisted : (Store.mk table).listed.Perm saved := (List.mergeSort_perm _ _).trans hperm
  have hsorted : (Store.mk table).listed.Pairwise fun a b => a.precedes b = true :=
    List.pairwise_mergeSort SavedSegment.precedes_trans SavedSegment.precedes_total table
  have hincreasing : saved.Pairwise fun a b => a.precedes b = true := by
    refine hsaved.imp ?_
    intro a b hlt
    rw [SavedSegment.precedes, hlt]
    rfl
  have hranks : (saved.map (·.createdAt.rank)).Nodup := by
    refine List.pairwise_map.mpr (hsaved.imp ?_)
    intro a b hlt
    exact Int.ne_of_lt (Int.compare_eq_lt.mp hlt)
  -- Two segments that precede each other were saved at one time, so they are one.
  refine List.Perm.eq_of_pairwise ?_ hsorted hincreasing hlisted
  intro a b ha hb hab hba
  have hle := SavedSegment.rank_le_of_precedes hab
  have hge := SavedSegment.rank_le_of_precedes hba
  exact List.inj_on_of_nodup_map hranks (hlisted.subset ha) hb (Int.le_antisymm hle hge)

end Listing

section Loads

/-- The loaded segments differ at most in drawn identifiers. -/
structure LoadedSegment.SameButDrawn (found found' : LoadedSegment) : Prop where
  id : found'.id = found.id
  name : found'.name = found.name
  description : found'.description = found.description
  createdAt : found'.createdAt = found.createdAt
  loaded : found.loaded.SameButDrawn found'.loaded

/-- The saved segment, as it is loaded. -/
def Saving.found (x : Saving) (loaded : Loaded) : LoadedSegment :=
  ⟨x.id, x.name, x.description, x.createdAt, loaded⟩

end Loads

namespace Workspace

/-- The table holds the segments of a shelf.  No two of them have the same identifier, and they
stand in the order of their times. -/
structure Shelved (shelf : List Saving) (w : Workspace) : Prop where
  saved : w.store.saved = shelf.map Saving.record
  ids : (shelf.map Saving.id).Nodup
  times : shelf.Pairwise fun x y => x.createdAt.compare y.createdAt = .lt

variable {shelf : List Saving} {w w' : Workspace} {id : Uuid} {x : Saving}

theorem Shelved.find?_eq_none
    (h : w.Shelved shelf) (hid : ∀ x ∈ shelf, x.id ≠ id) :
    w.store.find? id = none := by
  refine List.find?_eq_none.mpr ?_
  intro saved hsaved heq
  rw [h.saved] at hsaved
  obtain ⟨x, hx, rfl⟩ := List.mem_map.mp hsaved
  exact hid x hx (of_decide_eq_true heq)

theorem Shelved.find?_eq_some
    (h : w.Shelved shelf) (hx : x ∈ shelf) :
    w.store.find? x.id = some x.record := by
  have hmem : x.record ∈ w.store.saved := by
    rw [h.saved]
    exact List.mem_map_of_mem hx
  cases hfind : w.store.find? x.id with
  | none =>
      exact absurd (decide_eq_true rfl) (List.find?_eq_none.mp hfind x.record hmem)
  | some saved =>
      have hsaved : saved ∈ w.store.saved := List.mem_of_find?_eq_some hfind
      have hid : saved.id = x.id := of_decide_eq_true (List.find?_some hfind :)
      rw [h.saved] at hsaved
      obtain ⟨y, hy, rfl⟩ := List.mem_map.mp hsaved
      rw [List.inj_on_of_nodup_map h.ids hy hx hid]

theorem load_of_missing
    (h : w.store.find? id = none) :
    w.load id = .error (.segmentNotFound id) := by
  rw [load, Store.load, h]
  rfl

/-- What is found is loaded against the live schema. -/
theorem load_of_saved
    (h : w.store.find? x.id = some x.record) :
    w.load x.id = (Segment.ofText w.schema x.segment.text w.ids).map
      fun (loaded, ids) => (x.found loaded, { w with ids := ids }) := by
  rw [load, Store.load, h]
  simp only [Saving.record]
  cases Segment.ofText w.schema x.segment.text w.ids <;> rfl

theorem load_ne_missing
    (h : w.store.find? x.id = some x.record) :
    w.load x.id ≠ .error (.segmentNotFound x.id) := by
  rw [load_of_saved h]
  unfold Segment.ofText
  split <;> nofun

theorem load_of_obtained
    (h : w.store.find? x.id = some x.record) (hx : x.segment.Obtained) :
    w.load x.id = .ok (x.found (x.segment.stored.load w.schema w.ids).1,
      { w with ids := (x.segment.stored.load w.schema w.ids).2 }) := by
  rw [load_of_saved h, Segment.ofText_of_kept hx.kept_stored]
  rfl

/-- Two loads under one schema, before and after whatever happens to other segments. -/
theorem sameButDrawn_load
    (h : w.store.find? x.id = some x.record) (h' : w'.store.find? x.id = some x.record)
    (hx : x.segment.Obtained) (hschema : w'.schema = w.schema) :
    ∃ found rest found' rest', w.load x.id = .ok (found, rest) ∧
      w'.load x.id = .ok (found', rest') ∧ found.SameButDrawn found' := by
  have hne : x.segment.stored.groups ≠ [] := by
    simp [Segment.stored]
  refine ⟨_, _, _, _, load_of_obtained h hx, load_of_obtained h' hx, rfl, rfl, rfl, rfl, ?_⟩
  rw [hschema]
  exact StoredSegment.sameButDrawn_load hne w.schema w.ids w'.ids

theorem Shelved.listed_of_perm
    (h : w.Shelved shelf) {table : List SavedSegment} (htable : table.Perm w.store.saved) :
    (Store.mk table).listed = shelf.map Saving.record := by
  rw [h.saved] at htable
  exact Store.listed_of_perm htable (List.pairwise_map.mpr h.times)

theorem Shelved.saved_eq
    (h : w.Shelved shelf) :
    w.saved = shelf.map Saving.record :=
  h.listed_of_perm (List.Perm.refl w.store.saved)

/-- Deleting takes one segment off the shelf. -/
theorem Shelved.remove
    (h : w.Shelved shelf) (id : Uuid) :
    Shelved (shelf.filter (·.id ≠ id)) { w with store := w.store.remove id } where
  saved := by
    show w.store.saved.filter _ = _
    rw [h.saved, Studio.filter_map_record]
  ids := h.ids.sublist (List.filter_sublist.map Saving.id)
  times := h.times.sublist List.filter_sublist

end Workspace

namespace Studio

/-- No two saves of a run draw the same identifier, and each one is later than those before. -/
structure Fresh (log : List Answer) : Prop where
  ids : ((savings log).map Saving.id).Nodup
  times : (savings log).Pairwise fun x y => x.createdAt.compare y.createdAt = .lt

/-- The segment was saved and not deleted since. -/
def Live (log : List Answer) (x : Saving) : Prop :=
  ∃ before after, log = before ++ .saved x :: after ∧ .deleted x.id ∉ after

variable {log later : List Answer} {x : Saving}

theorem savings_append
    (log later : List Answer) :
    savings (log ++ later) = savings log ++ savings later :=
  List.filterMap_append

theorem Fresh.of_append
    (h : Fresh (log ++ later)) :
    Fresh log where
  ids := by
    have hids := h.ids
    rw [savings_append, List.map_append] at hids
    exact hids.of_append_left
  times := by
    have htimes := h.times
    rw [savings_append] at htimes
    exact (List.pairwise_append.mp htimes).1

theorem Live.mem_savings
    (h : Live log x) :
    x ∈ savings log := by
  obtain ⟨before, after, rfl, _⟩ := h
  exact List.mem_filterMap.mpr ⟨.saved x, by simp, rfl⟩

theorem Live.append
    (h : Live log x) (hlater : .deleted x.id ∉ later) :
    Live (log ++ later) x := by
  obtain ⟨before, after, rfl, hafter⟩ := h
  refine ⟨before, after ++ later, by simp, ?_⟩
  intro hmem
  rcases List.mem_append.mp hmem with hmem | hmem
  · exact hafter hmem
  · exact hlater hmem

/-- If identifiers do not repeat, only a deletion takes a segment off the shelf. -/
theorem Fresh.stands_iff
    (h : Fresh log) :
    Stands log x ↔ Live log x := by
  constructor
  · rintro ⟨before, after, hlog, hafter⟩
    exact ⟨before, after, hlog, fun hmem => hafter _ hmem rfl⟩
  · rintro ⟨before, after, rfl, hafter⟩
    refine ⟨before, after, rfl, ?_⟩
    intro a ha hremoves
    cases a with
    | deleted id =>
        obtain rfl : id = x.id := hremoves
        exact hafter ha
    | saved y =>
        -- A second save under the identifier would have drawn it again.
        have hid : y.id = x.id := hremoves
        have hy : y ∈ savings after := List.mem_filterMap.mpr ⟨_, ha, rfl⟩
        have hids := h.ids
        rw [savings_append] at hids
        have hlast : (x.id :: (savings after).map Saving.id).Nodup := by
          rw [List.map_append] at hids
          exact hids.of_append_right
        exact (List.nodup_cons.mp hlast).1 (hid ▸ List.mem_map_of_mem hy)
    | _ =>
        exact hremoves

/-- The table is the shelf of the log. -/
theorem shelved_after
    {studio : Studio} (hempty : studio.workspace.store = Store.empty) {actions : List Action}
    (hfresh : Fresh (studio.log actions)) :
    (studio.after actions).workspace.Shelved (shelf (studio.log actions)) where
  saved := by
    have hstart : studio.workspace.store.saved = ([] : List Saving).map Saving.record := by
      rw [hempty]
      rfl
    exact saved_performAll hstart actions
  ids := hfresh.ids.sublist ((sublist_shelf _).map Saving.id)
  times := hfresh.times.sublist (sublist_shelf _)

variable {w : Workspace}

/-- A workspace answers for the live segments of a log, and for no others, under a schema. -/
structure Serves (schema : Schema) (log : List Answer) (w : Workspace) : Prop where
  missing : ∀ id, w.load id = .error (.segmentNotFound id) ↔ ∀ x, Live log x → x.id ≠ id
  document : ∀ x, Live log x → w.store.payload? x.id = some x.segment.text
  loads : ∀ x, Live log x →
    w.load x.id = (Segment.ofText schema x.segment.text w.ids).map
      fun (loaded, ids) => (x.found loaded, { w with ids := ids })
  readable : ∀ x, Live log x → x.segment.Obtained →
    ∃ found rest, w.load x.id = .ok (found, rest)
  refused : ∀ id, (∀ x, Live log x → x.id ≠ id) → w.delete id = .error (.segmentNotFound id)
  deletes : ∀ x, Live log x → ∃ w', w.delete x.id = .ok w' ∧
    w'.load x.id = .error (.segmentNotFound x.id) ∧
    (∀ other, other ≠ x.id → w.SameAt other w') ∧
    w'.saved = w.saved.filter (·.id ≠ x.id)
  listed : ∃ live : List Saving, w.saved = live.map Saving.record ∧ live.Nodup ∧
    live.Sublist (savings log) ∧ ∀ x, x ∈ live ↔ Live log x
  anyOrder : ∀ table : List SavedSegment, table.Perm w.store.saved →
    (Store.mk table).listed = w.saved

/-- A workspace whose table is a shelf answers for what stands on it, under its schema. -/
theorem serves_of_shelved
    {shelf : List Saving} (h : w.Shelved shelf) (hlive : ∀ x, x ∈ shelf ↔ Live log x)
    (horder : shelf.Sublist (savings log)) :
    Serves w.schema log w := by
  have hfind : ∀ x, Live log x → w.store.find? x.id = some x.record :=
    fun x hx => h.find?_eq_some ((hlive x).mpr hx)
  have hnone : ∀ id, (∀ x, Live log x → x.id ≠ id) → w.store.find? id = none :=
    fun id hid => h.find?_eq_none fun x hx => hid x ((hlive x).mp hx)
  refine ⟨?_, ?_, ?_, ?_, ?_, ?_, ?_, ?_⟩
  · intro id
    constructor
    · rintro hload x hx rfl
      exact Workspace.load_ne_missing (hfind x hx) hload
    · intro hid
      exact Workspace.load_of_missing (hnone id hid)
  · intro x hx
    rw [Store.payload?, hfind x hx]
    rfl
  · intro x hx
    exact Workspace.load_of_saved (hfind x hx)
  · intro x hx hobtained
    exact ⟨_, _, Workspace.load_of_obtained (hfind x hx) hobtained⟩
  · intro id hid
    exact Workspace.delete_of_missing (hnone id hid)
  · intro x hx
    refine ⟨_, Workspace.delete_of_saved (hfind x hx), ?_, ?_, ?_⟩
    · exact Workspace.load_of_missing (w.store.find?_remove_self x.id)
    · intro other hother
      exact ⟨rfl, w.store.find?_remove_of_ne hother⟩
    · rw [(h.remove x.id).saved_eq, h.saved_eq, filter_map_record]
  · exact ⟨shelf, h.saved_eq, List.Nodup.of_map Saving.id h.ids, horder, hlive⟩
  · intro table htable
    rw [h.listed_of_perm htable, h.saved_eq]

/-- The saved segments over any run.  A workspace that starts without any answers for those that
were saved and not deleted since, each with what was noted at its save and its text read under
the schema that was given last, or that of the start; it lists them once each, in the order of
the saves.  Noted at a save is what was given, with the identifier that was the result.  Only
saves and deletions touch the table, and only if they do not fail.  What is saved can be loaded
if the run is given nothing that the program cannot build.  And whatever happens between two
loads of a segment that was not deleted, schemas being replaced included, the loads differ at
most in drawn identifiers if the schema is the same again. -/
theorem serves_after
    (studio : Studio) (hempty : studio.workspace.store = Store.empty) (actions : List Action)
    (hfresh : Fresh (studio.log actions)) :
    Serves (liveSchema studio.workspace.schema actions) (studio.log actions)
      (studio.after actions).workspace ∧
    (∀ name description s, ∃ x, ((studio.after actions).save name description s).1 = .saved x ∧
      x.id = ((studio.after actions).workspace.save name description s).1 ∧
      x.name = name ∧ x.description = description ∧ x.segment = s) ∧
    (∀ a, ¬ a.Stores ∨ (∃ e, ((studio.after actions).perform a).1 = .failed e) →
      ((studio.after actions).perform a).2.workspace.store =
        (studio.after actions).workspace.store) ∧
    (studio.Holds → (∀ a ∈ actions, a.Builds) →
      ∀ x, Live (studio.log actions) x → x.segment.Obtained) ∧
    ∀ more x, Fresh (studio.log (actions ++ more)) →
      Live (studio.log actions) x → x.segment.Obtained →
      .deleted x.id ∉ (studio.after actions).log more →
      liveSchema studio.workspace.schema (actions ++ more) =
        liveSchema studio.workspace.schema actions →
      ∃ found rest found' rest',
        (studio.after actions).workspace.load x.id = .ok (found, rest) ∧
        (studio.after (actions ++ more)).workspace.load x.id = .ok (found', rest') ∧
        found.SameButDrawn found' := by
  have hshelved := shelved_after hempty hfresh
  refine ⟨?_, ?_, ?_, ?_, ?_⟩
  · rw [← schema_after]
    refine serves_of_shelved hshelved ?_ (sublist_shelf _)
    intro x
    rw [mem_shelf_iff, hfresh.stands_iff]
  · intro name description s
    exact ⟨_, rfl, rfl, rfl, rfl, rfl⟩
  · rintro a (hstores | ⟨e, hfailed⟩)
    · exact (quiet_perform hstores _).2
    · exact store_of_failed hfailed
  · intro hholds hactions x hlive
    exact hholds.obtained_of_mem_savings hactions hlive.mem_savings
  · intro more x hlater hlive hobtained hkept hschema
    have hlive' : Live (studio.log (actions ++ more)) x := by
      rw [log_append]
      exact hlive.append hkept
    have hfind := hshelved.find?_eq_some (mem_shelf_iff.mpr (hfresh.stands_iff.mpr hlive))
    have hfind' := (shelved_after hempty hlater).find?_eq_some
      (mem_shelf_iff.mpr (hlater.stands_iff.mpr hlive'))
    rw [← schema_after, ← schema_after] at hschema
    exact Workspace.sameButDrawn_load hfind hfind' hobtained hschema

/-- A studio without saved segments, whose drafts are blank. -/
def blank : Studio := ⟨Workspace.forTexts, fun _ => Workspace.forTexts.blankDraft.1⟩

/-- The blank draft, as it is saved first. -/
def savedDraft : Saving :=
  ⟨(IdSource.seeded 0).next, "b", "", TimeSource.ticking.now, (blank.drafts 0).current⟩

/-- A segment of one condition, as it is saved second. -/
def savedCondition : Saving :=
  ⟨(IdSource.seeded 0).advance.next, "a", "", TimeSource.ticking.advance.now,
    Segment.comparingText⟩

/-- The draft and the segment are saved, and the draft is deleted again. -/
def savesTwo : List Action :=
  [.saveDraft "b" "" 0, .save "a" "" Segment.comparingText, .delete savedDraft.id]

/-- The schema is replaced, the draft is edited, and the schema is put back. -/
def swapsSchema : List Action :=
  [.replaceSchema (Schema.single "x" .boolean), .edit .addGroup 0,
    .replaceSchema (Schema.single "x" .text)]

theorem log_savesTwo :
    blank.log savesTwo = [.saved savedDraft, .saved savedCondition, .deleted savedDraft.id] :=
  rfl

theorem savedCondition_ne :
    savedCondition.id ≠ savedDraft.id := by
  decide

theorem fresh_savesTwo :
    Fresh (blank.log savesTwo) := by
  rw [log_savesTwo]
  refine ⟨?_, ?_⟩
  · show [savedDraft.id, savedCondition.id].Nodup
    simp [savedCondition_ne.symm]
  · show [savedDraft, savedCondition].Pairwise _
    simp only [List.pairwise_cons, List.mem_singleton, forall_eq, List.not_mem_nil,
      false_implies, implies_true, List.Pairwise.nil, and_true]
    decide

theorem fresh_swapsSchema :
    Fresh (blank.log (savesTwo ++ swapsSchema)) := by
  have hsavings : savings (blank.log (savesTwo ++ swapsSchema)) =
      savings (blank.log savesTwo) := rfl
  constructor
  · rw [hsavings]
    exact fresh_savesTwo.ids
  · rw [hsavings]
    exact fresh_savesTwo.times

theorem holds_blank :
    blank.Holds := by
  intro draft
  exact History.all_start (.new _) _

theorem builds_savesTwo :
    ∀ a ∈ savesTwo, a.Builds := by
  obtain ⟨id, hsteps⟩ := Segment.composed_comparingText.steps
  have hsegment : Segment.comparingText.Obtained := .of_steps (.new id) hsteps
  simp only [savesTwo, List.forall_mem_cons]
  exact ⟨trivial, hsegment, trivial, fun _ h => nomatch h⟩

theorem serves_after_swapsSchema :
    Fresh (blank.log savesTwo) ∧ Fresh (blank.log (savesTwo ++ swapsSchema)) ∧
      (blank.after savesTwo).workspace.load savedDraft.id =
        .error (.segmentNotFound savedDraft.id) ∧
      (blank.after savesTwo).workspace.store.payload? savedCondition.id =
        some Segment.comparingText.text ∧
      ∃ found rest found' rest',
        (blank.after savesTwo).workspace.load savedCondition.id = .ok (found, rest) ∧
        (blank.after (savesTwo ++ swapsSchema)).workspace.load savedCondition.id =
          .ok (found', rest') ∧
        found.SameButDrawn found' := by
  obtain ⟨hserves, _, _, hobtained, hagain⟩ := serves_after blank rfl savesTwo fresh_savesTwo
  have hshelf : shelf (blank.log savesTwo) = [savedCondition] := rfl
  have hlive : ∀ x, Live (blank.log savesTwo) x ↔ x = savedCondition := by
    intro x
    rw [← fresh_savesTwo.stands_iff, ← mem_shelf_iff, hshelf, List.mem_singleton]
  have hcondition := (hlive savedCondition).mpr rfl
  have hlater : (blank.after savesTwo).log swapsSchema = [.done, .version (some 1), .done] := rfl
  refine ⟨fresh_savesTwo, fresh_swapsSchema, ?_, hserves.document _ hcondition, ?_⟩
  · refine (hserves.missing savedDraft.id).mpr ?_
    intro x hx
    rw [(hlive x).mp hx]
    exact savedCondition_ne
  · refine hagain swapsSchema savedCondition fresh_swapsSchema hcondition
      (hobtained holds_blank builds_savesTwo _ hcondition) ?_ rfl
    rw [hlater]
    simp

end Studio

end Audience
