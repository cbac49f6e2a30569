import Audience.Proofs.Condition.Misfit
import Audience.Proofs.Workspace

/-!
# Drafts can always be saved and loaded

A draft starts blank.  The schema may be replaced at any time, so its conditions may hold parts
that were checked under different schemas, and need not be well formed under any one.

**Invariant.**  All snapshots of a draft, those that can be restored by steps back and forth
among them, have groups without stored identifiers and active conditions only, each of them
composed under some schemas.  So their numbers are finite, and a second value comes only with a
range: their texts can be read under every schema, and what is reported then are conditions that
do not fit it.

**Results.**
* `History.All.apply`, `History.All.undo`, `History.All.redo`: what holds of all snapshots.
* `Segment.ComposedUnder.run`: operations that compose conditions preserve the invariant.
* `Segment.ComposedUnder.misfit_of_mismatch`: what is reported when the segment is loaded.
* `Workspace.Drafted.ofText_current`: any draft can be saved and loaded.
-/

namespace Audience

namespace History

universe u v

variable {α : Type u} {ε : Type v} {P : α → Prop} {h h' : History α}

/-- What holds of the states of all snapshots. -/
def All (P : α → Prop) (h : History α) : Prop := ∀ s ∈ h.snapshots, P s.state

theorem all_start
    {state : α} (hstate : P state) (depth : Nat) :
    (start state depth).All P := by
  intro s hs
  rw [List.mem_singleton.mp hs]
  exact hstate

theorem All.current
    (hall : h.All P) :
    P h.current :=
  hall h.present (List.get_mem _ _)

/-- An edit drops snapshots and adds one. -/
theorem All.push
    (hall : h.All P) {state : α} (hstate : P state) :
    (h.push state).All P := by
  intro s hs
  rcases List.mem_append.mp (List.mem_of_mem_drop hs) with hs | hs
  · exact hall s (List.mem_of_mem_take hs)
  · rw [List.mem_singleton.mp hs]
    exact hstate

theorem All.apply
    (hall : h.All P) {edit : α → Except ε α} {version : Nat}
    (hedit : ∀ s, edit h.current = .ok s → P h.current → P s)
    (hrun : h.apply edit = .ok (version, h')) :
    h'.All P := by
  obtain ⟨state, hstate, hpair⟩ := map_eq_ok_iff.mp hrun
  cases hpair
  exact hall.push (hedit state hstate hall.current)

theorem All.undo
    (hall : h.All P) (hundo : h.undo? = some h') :
    h'.All P := by
  unfold All
  rw [(snapshots_undo hundo).1]
  exact hall

theorem All.redo
    (hall : h.All P) (hredo : h.redo? = some h') :
    h'.All P := by
  unfold All
  rw [(snapshots_redo hredo).1]
  exact hall

end History

/-- The group keeps no stored identifier, and all its entries are active conditions that were
composed under the schemas of a kind. -/
structure Group.ComposedUnder (allowed : Schema → Prop) (g : Group) : Prop where
  storedId : g.storedId = none
  entries : ∀ e ∈ g.entries, ∃ c, e = .active c ∧ c.Composed allowed

def Segment.ComposedUnder (allowed : Schema → Prop) (s : Segment) : Prop :=
  ∀ g ∈ s.groups, g.ComposedUnder allowed

section Operations

variable {allowed : Schema → Prop}

theorem Group.composedUnder_empty
    (combinator : Combinator) (id : Uuid) :
    (Group.empty combinator id).ComposedUnder allowed where
  storedId := rfl
  entries := fun _ he => nomatch he

theorem Group.ComposedUnder.edited
    {g g' : Group} (h : g.ComposedUnder allowed) {op : Operation} (hop : op.Composes allowed)
    (hedited : g.Edited op.Adds op.Changes g') :
    g'.ComposedUnder allowed where
  storedId := hedited.storedId.trans h.storedId
  entries := by
    refine hedited.entries ?_ ?_ h.entries
    · intro c hc
      exact ⟨c, rfl, hop.adds c hc⟩
    · rintro c c' hc ⟨_, ⟨⟩, hcomposed⟩
      exact ⟨c', rfl, hop.changes c c' hc hcomposed⟩

theorem Segment.composedUnder_new
    (id : Uuid) :
    (Segment.new id).ComposedUnder allowed := by
  intro g hg
  rw [List.mem_singleton.mp hg]
  exact Group.composedUnder_empty .and id

/-- Operations that compose conditions preserve the invariant. -/
theorem Segment.ComposedUnder.run
    {s s' : Segment} (h : s.ComposedUnder allowed) {op : Operation} (hop : op.Composes allowed)
    (hrun : op.run s = .ok s') :
    s'.ComposedUnder allowed := by
  obtain ⟨hfirst, hlater⟩ := (Operation.edited_of_run hrun).groups
    (fun _ _ hedited hg => Group.ComposedUnder.edited hg hop hedited)
    (fun _ _ hedited hg => Group.ComposedUnder.edited hg hop hedited)
    (fun fresh => Group.composedUnder_empty .or fresh)
    (List.forall_mem_cons.mp h)
  exact List.forall_mem_cons.mpr ⟨hfirst, hlater⟩

end Operations

section Texts

variable {allowed : Schema → Prop} {schema : Schema}

theorem Segment.ComposedUnder.kept_stored
    {s : Segment} (h : s.ComposedUnder allowed) :
    s.stored.Kept := by
  refine Segment.kept_stored_of_active ?_
  intro g hg e he
  obtain ⟨c, hc, _⟩ := (h g hg).entries e he
  exact ⟨c, hc⟩

theorem Entry.report?_eq_some_iff
    {groupId : Uuid} {e : Entry} {m : Mismatch} :
    e.report? groupId = some m ↔
      ∃ q, e = .quarantined q ∧ m = ⟨groupId, some q.id, q.reason⟩ := by
  cases e with
  | active c =>
      simp [report?]
  | quarantined q =>
      simp [report?, eq_comm]

/-- What is reported when a group is loaded from its stored form. -/
theorem Group.ComposedUnder.misfit_of_report
    {g g' : Group} (h : g.ComposedUnder allowed) (hload : g.stored.LoadedAs schema g')
    {m : Mismatch} (hm : m ∈ g'.report) :
    m.groupId = g.id ∧
      ∃ c, .active c ∈ g.entries ∧ m.conditionId = some c.id ∧ c.Misfit schema m.reason := by
  have hparse := Group.parse?_id_stored h.storedId
  have hname : g'.storedId = none := by
    rw [hload.storedId, hparse]
    rfl
  rw [Group.report, Group.nameReport, hname, hload.id g.id hparse] at hm
  obtain ⟨e', he', hreport⟩ := List.mem_filterMap.mp hm
  obtain ⟨q, rfl, rfl⟩ := Entry.report?_eq_some_iff.mp hreport
  obtain ⟨raw, hraw, haside⟩ := exists_of_mem_forall₂ hload.entries he'
  obtain ⟨e, he, hstored⟩ := List.mem_filterMap.mp hraw
  obtain ⟨c, rfl, hc⟩ := h.entries e he
  cases hstored
  obtain ⟨hid, hmisfit⟩ := Condition.misfit_of_loadedAs hc.finite hc.rangeOnly haside
  exact ⟨rfl, c, he, congrArg some hid, hmisfit⟩

/-- What is reported when a segment is loaded from its stored form. -/
theorem Segment.ComposedUnder.misfit_of_mismatch
    {s : Segment} (h : s.ComposedUnder allowed) {ids : IdSource} {m : Mismatch}
    (hm : m ∈ (s.stored.load schema ids).1.mismatches) :
    ∃ g ∈ s.groups, ∃ c, .active c ∈ g.entries ∧
      m.groupId = g.id ∧ m.conditionId = some c.id ∧ c.Misfit schema m.reason := by
  have hne : s.stored.groups ≠ [] := by
    simp [Segment.stored]
  rw [StoredSegment.mismatches_load] at hm
  obtain ⟨g', hg', hreport⟩ := List.mem_flatMap.mp hm
  obtain ⟨raw, hraw, hload⟩ :=
    exists_of_mem_forall₂ (StoredSegment.loadedAs_load schema hne ids) hg'
  obtain ⟨g, hg, rfl⟩ := List.mem_map.mp hraw
  obtain ⟨hgroup, c, hc, hid, hmisfit⟩ := (h g hg).misfit_of_report hload hreport
  exact ⟨g, hg, c, hc, hgroup, hid, hmisfit⟩

end Texts

/-- An operation that composes conditions, under whatever schemas. -/
def Segment.Recomposed (s s' : Segment) : Prop :=
  ∃ op : Operation, op.Composes (fun _ => True) ∧ op.run s = .ok s'

theorem Segment.ComposedUnder.recomposed
    {s s' : Segment} (h : s.ComposedUnder fun _ => True)
    (hoperations : Relation.ReflTransGen Recomposed s s') :
    s'.ComposedUnder fun _ => True := by
  induction hoperations with
  | refl =>
      exact h
  | tail _ hlast ih =>
      obtain ⟨op, hop, hrun⟩ := hlast
      exact ih.run hop hrun

namespace Workspace

/-- The drafts of a workspace.  They start blank and are edited under the live schema, which may
be replaced at any time.  An edit is one step, or a function that makes any number of
operations. -/
inductive Drafted : Workspace → Draft → Prop
  | blank (w : Workspace) :
      Drafted w.blankDraft.2 w.blankDraft.1
  | edit {w w' : Workspace} {d d' : Draft} {step : Edit} {version : Nat} :
      Drafted w d →
      (∀ group c, step = .append group c → c.Composed fun _ => True) →
      w.edit step d = (.ok (version, d'), w') →
      Drafted w' d'
  | apply {w : Workspace} {d d' : Draft} {f : Segment → Except Error Segment} {version : Nat} :
      Drafted w d →
      (∀ s, f d.current = .ok s → Relation.ReflTransGen Segment.Recomposed d.current s) →
      d.apply f = .ok (version, d') →
      Drafted w d'
  | undo {w : Workspace} {d d' : Draft} :
      Drafted w d →
      d.undo? = some d' →
      Drafted w d'
  | redo {w : Workspace} {d d' : Draft} :
      Drafted w d →
      d.redo? = some d' →
      Drafted w d'
  | replaceSchema {w : Workspace} {d : Draft} (schema : Schema) :
      Drafted w d →
      Drafted (w.replaceSchema schema) d

variable {w : Workspace} {d : Draft}

theorem Drafted.all
    (h : w.Drafted d) :
    d.All (Segment.ComposedUnder fun _ => True) := by
  induction h with
  | blank w =>
      exact History.all_start (Segment.composedUnder_new w.ids.next) w.historyDepth
  | @edit w w' d d' step version _ happend hedit ih =>
      have hop : (Operation.edit w.schema w.ids.next step).Composes fun _ => True :=
        Operation.composes_edit trivial happend
      have hrun : d.apply (step.run w.schema w.ids.next) = .ok (version, d') :=
        congrArg Prod.fst hedit
      exact ih.apply (fun _ hstep hs => hs.run hop hstep) hrun
  | apply _ hoperations hrun ih =>
      exact ih.apply (fun s hf hs => hs.recomposed (hoperations s hf)) hrun
  | undo _ hundo ih =>
      exact ih.undo hundo
  | redo _ hredo ih =>
      exact ih.redo hredo
  | replaceSchema _ _ ih =>
      exact ih

/-- Whatever became of the schema, the conditions of a draft have a second value only with a
range, and finite numbers.  So the draft can be saved, its text can be read as what was saved, and
under every schema it is loaded: what is reported then is a condition of the draft whose field is
missing, does not offer its operator, or does not accept one of its values. -/
theorem Drafted.ofText_current
    (h : w.Drafted d) :
    (∀ g ∈ d.current.groups, ∀ e ∈ g.entries,
      ∃ c, e = .active c ∧ c.RangeOnly ∧ c.Finite) ∧
    StoredSegment.parse? d.current.text = some d.current.stored ∧
    (∀ name description,
      (w.save name description d.current).2.Readable (w.save name description d.current).1) ∧
    ∀ schema ids, ∃ loaded rest,
      Segment.ofText schema d.current.text ids = .ok (loaded, rest) ∧
      ∀ m ∈ loaded.mismatches, ∃ g ∈ d.current.groups, ∃ c, .active c ∈ g.entries ∧
        m.groupId = g.id ∧ m.conditionId = some c.id ∧ c.Misfit schema m.reason := by
  have hcurrent : d.current.ComposedUnder fun _ => True := h.all.current
  have hkept := hcurrent.kept_stored
  refine ⟨?_, StoredSegment.parse?_text hkept, ?_, ?_⟩
  · intro g hg e he
    obtain ⟨c, rfl, hc⟩ := (hcurrent g hg).entries e he
    exact ⟨c, rfl, hc.rangeOnly, hc.finite⟩
  · intro name description
    exact readable_save hkept name description w
  · intro schema ids
    refine ⟨_, _, Segment.ofText_of_kept hkept schema ids, ?_⟩
    intro m hm
    exact hcurrent.misfit_of_mismatch hm

/-- A segment of one condition, in the group of the blank draft. -/
def comparing (op : Operator) : Segment :=
  ⟨(Group.empty .and forTexts.ids.next).append (Condition.comparingText op "a"), []⟩

/-- The workspace whose field became a boolean one after a condition was appended. -/
def forBooleans : Workspace :=
  (forTexts.blankDraft.2.fresh.2.replaceSchema (Schema.single "x" .boolean)).fresh.2

/-- The condition takes another operator from the boolean field, which leaves a text value. -/
def leftoverDraft : Draft :=
  (forTexts.blankDraft.1.push (comparing .equals)).push (comparing .notEquals)

theorem drafted_leftover :
    forBooleans.Drafted leftoverDraft := by
  have hcondition : (Condition.comparingText .equals "a").Composed fun _ => True :=
    Condition.composed_comparingText (fun _ _ => trivial) "a"
  have happend : forTexts.blankDraft.2.edit
      (.append forTexts.ids.next (Condition.comparingText .equals "a")) forTexts.blankDraft.1 =
        (.ok (1, forTexts.blankDraft.1.push (comparing .equals)),
          forTexts.blankDraft.2.fresh.2) := rfl
  have hoperator : (forTexts.blankDraft.2.fresh.2.replaceSchema (Schema.single "x" .boolean)).edit
      (.changeEntry forTexts.ids.next default (.operator .notEquals))
      (forTexts.blankDraft.1.push (comparing .equals)) =
        (.ok (2, leftoverDraft), forBooleans) := rfl
  have hblank : forTexts.blankDraft.2.Drafted forTexts.blankDraft.1 := .blank forTexts
  have hfirst : forTexts.blankDraft.2.fresh.2.Drafted
      (forTexts.blankDraft.1.push (comparing .equals)) := by
    refine .edit hblank ?_ happend
    rintro _ _ ⟨⟩
    exact hcondition
  refine .edit (.replaceSchema _ hfirst) ?_ hoperator
  rintro _ _ ⟨⟩

theorem ofText_current_leftover :
    StoredSegment.parse? leftoverDraft.current.text = some leftoverDraft.current.stored ∧
      ∀ ids, ∃ loaded rest,
        Segment.ofText forBooleans.schema leftoverDraft.current.text ids = .ok (loaded, rest) ∧
        ∀ m ∈ loaded.mismatches,
          (Condition.comparingText .notEquals "a").Misfit forBooleans.schema m.reason := by
  obtain ⟨_, hparse, _, htext⟩ := Drafted.ofText_current drafted_leftover
  refine ⟨hparse, ?_⟩
  intro ids
  obtain ⟨loaded, rest, hload, hmisfits⟩ := htext forBooleans.schema ids
  refine ⟨loaded, rest, hload, ?_⟩
  intro m hm
  obtain ⟨g, hg, c, hc, _, _, hmisfit⟩ := hmisfits m hm
  obtain rfl : g = (comparing .notEquals).first := List.mem_singleton.mp hg
  obtain rfl : c = Condition.comparingText .notEquals "a" :=
    Entry.active.inj (List.mem_singleton.mp hc)
  exact hmisfit

end Workspace

end Audience
