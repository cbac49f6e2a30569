import Audience.Proofs.Segment.Reloading
import Audience.Proofs.Workspace.Drafts
import Audience.Proofs.Workspace.Runs

/-!
# Segments that can be built

A segment comes into being as a new one, or is loaded from a text, and is changed by operations.
Each such segment can be saved and loaded again: conditions can always be saved, and what was set
aside came out of a text.

**Invariant.**  If the segments and the functions that are given to a run build nothing else, the
drafts of a studio hold such segments only, in all their snapshots, and so only such segments are
saved.

**Results.**
* `Segment.Obtained.kept_stored`: a segment that can be built can be saved.
* `Script.obtained_of_build`: scripts build such segments.
* `Studio.Holds.perform`: each action preserves the invariant.
* `Studio.Holds.obtained_of_mem_savings`: what is saved in a run.
-/

namespace Audience

section Texts

/-- A segment that the program can build. -/
inductive Segment.Obtained : Segment → Prop
  | new (id : Uuid) :
      Obtained (Segment.new id)
  | loaded {schema : Schema} {text : String} {ids rest : IdSource} {loaded : Loaded} :
      Segment.ofText schema text ids = .ok (loaded, rest) →
      Obtained loaded.segment
  | operated {s s' : Segment} {op : Operation} :
      Obtained s →
      op.run s = .ok s' →
      Obtained s'

/-- The stored forms of the entries can be saved. -/
def Group.Storable (g : Group) : Prop :=
  ∀ e ∈ g.entries, ∀ raw, e.stored? = some raw → raw.Kept

theorem Segment.storable_of_kept
    {s : Segment} (h : s.stored.Kept) :
    ∀ g ∈ s.groups, g.Storable := by
  intro g hg e he raw hraw
  exact h g.stored (List.mem_map_of_mem hg) raw (List.mem_filterMap.mpr ⟨e, he, hraw⟩)

theorem Group.Storable.edited
    {Adds : Condition → Prop} {Changes : Condition → Condition → Prop} {g g' : Group}
    (hedited : g.Edited Adds Changes g') (h : g.Storable) :
    g'.Storable := by
  have hactive : ∀ (c : Condition) raw, (Entry.active c).stored? = some raw → raw.Kept := by
    intro c raw hraw
    cases hraw
    exact c.kept_stored
  exact hedited.entries (fun c _ => hactive c) (fun _ c' _ _ => hactive c') h

/-- Conditions can always be saved, and what was set aside came out of a text. -/
theorem Segment.Obtained.kept_stored
    {s : Segment} (h : s.Obtained) :
    s.stored.Kept := by
  induction h with
  | new id =>
      refine Segment.kept_stored_of_active ?_
      intro g hg e he
      rw [List.mem_singleton.mp hg] at he
      cases he
  | loaded hload =>
      exact (Segment.sound_of_ofText hload).1.kept_stored
  | operated _ hrun ih =>
      have hgroups := List.forall_mem_cons.mp (Segment.storable_of_kept ih)
      have hedited := (Operation.edited_of_run hrun).groups
        (fun _ _ hg => Group.Storable.edited hg) (fun _ _ hg => Group.Storable.edited hg)
        (fun _ _ he => nomatch he) hgroups
      exact Segment.kept_stored (List.forall_mem_cons.mpr hedited)

theorem Segment.Obtained.of_steps
    {schema : Schema} {s s' : Segment} (h : s.Obtained)
    (hsteps : Relation.ReflTransGen (Segment.Step schema) s s') :
    s'.Obtained := by
  induction hsteps with
  | refl =>
      exact h
  | tail _ hlast ih =>
      obtain ⟨op, hrun, _⟩ := hlast.exists_operation
      exact .operated ih hrun

/-- A script makes operations on a new segment. -/
theorem Script.obtained_of_build
    {schema : Schema} {steps : List Script.Step} {ids : IdSource} {s : Segment}
    (h : Script.build schema steps ids = .ok s) :
    s.Obtained :=
  Segment.Obtained.of_steps (.new ids.next) (Script.steps_of_build h)

end Texts

namespace Studio

/-- What is given to the action builds segments only from such as can be built. -/
def Action.Builds : Action → Prop
  | save _ _ s => s.Obtained
  | apply f _ => ∀ s s', f s = .ok s' → s.Obtained → s'.Obtained
  | _ => True

/-- All snapshots of all drafts can be built. -/
def Holds (studio : Studio) : Prop := ∀ draft, (studio.drafts draft).All Segment.Obtained

/-- The step keeps the drafts so, and what it saved can be built. -/
structure Keeps (step : Answer × Studio) : Prop where
  holds : step.2.Holds
  saved : ∀ x, step.1.saving? = some x → x.segment.Obtained

variable {studio : Studio}

theorem Keeps.of_none
    {step : Answer × Studio} (h : step.2.Holds) (hnone : step.1.saving? = none) :
    Keeps step where
  holds := h
  saved := by
    intro x hx
    cases hnone.symm.trans hx

theorem Holds.setDraft
    (h : studio.Holds) {d : Draft} (hd : d.All Segment.Obtained) (draft : Nat) :
    (studio.setDraft draft d).Holds := by
  intro n
  unfold Studio.setDraft
  by_cases hn : n = draft
  · simpa [hn] using hd
  · simpa [hn] using h n

theorem Holds.save
    (h : studio.Holds) {s : Segment} (hs : s.Obtained) (name description : String) :
    Keeps (studio.save name description s) where
  holds := h
  saved := by
    rintro x ⟨⟩
    exact hs

theorem Holds.ask
    (h : studio.Holds) {α : Type} {answer : α → Answer} (hanswer : ∀ a, (answer a).saving? = none)
    (result : Except Error (α × Workspace)) :
    Keeps (studio.ask answer result) := by
  cases result with
  | ok pair =>
      exact .of_none h (hanswer pair.1)
  | error e =>
      exact .of_none h rfl

theorem Holds.delete
    (h : studio.Holds) (id : Uuid) :
    Keeps (studio.delete id) := by
  unfold Studio.delete
  split <;> exact .of_none h rfl

theorem obtained_of_load
    {id : Uuid} {w w' : Workspace} {found : LoadedSegment} (h : w.load id = .ok (found, w')) :
    found.loaded.segment.Obtained := by
  obtain ⟨⟨found', ids⟩, hload, hpair⟩ := map_eq_ok_iff.mp h
  cases hpair
  unfold Store.load at hload
  split at hload
  · cases hload
  · obtain ⟨⟨loaded, rest⟩, htext, hfound⟩ := bind_eq_ok_iff.mp hload
    cases hfound
    exact .loaded htext

theorem Holds.openDraft
    (h : studio.Holds) (id : Uuid) (draft : Nat) :
    Keeps (studio.openDraft id draft) := by
  unfold Studio.openDraft
  split
  · next found w hload =>
      refine .of_none (Holds.setDraft h ?_ draft) rfl
      exact History.all_start (obtained_of_load hload) w.historyDepth
  · exact .of_none h rfl

theorem Holds.edit
    (h : studio.Holds) (step : Edit) (draft : Nat) :
    Keeps (studio.edit step draft) := by
  unfold Studio.edit
  split
  · next version d w hedit =>
      have happly : (studio.drafts draft).apply
          (step.run studio.workspace.schema studio.workspace.ids.next) = .ok (version, d) :=
        congrArg Prod.fst hedit
      refine .of_none (Holds.setDraft h ?_ draft) rfl
      refine (h draft).apply ?_ happly
      intro s hstep hcurrent
      have hrun : (Operation.edit studio.workspace.schema studio.workspace.ids.next step).run
          (studio.drafts draft).current = .ok s := hstep
      exact .operated hcurrent hrun
  · exact .of_none h rfl

theorem Holds.apply
    (h : studio.Holds) {f : Segment → Except Error Segment}
    (hf : ∀ s s', f s = .ok s' → s.Obtained → s'.Obtained) (draft : Nat) :
    Keeps (studio.apply f draft) := by
  unfold Studio.apply
  split
  · next version d happly =>
      refine .of_none (Holds.setDraft h ?_ draft) rfl
      exact (h draft).apply (fun s hs => hf _ s hs) happly
  · exact .of_none h rfl

theorem Holds.move
    (h : studio.Holds) {d : Option Draft} (hd : ∀ d', d = some d' → d'.All Segment.Obtained)
    (draft : Nat) :
    Keeps (studio.move draft d) := by
  cases d with
  | none =>
      exact .of_none h rfl
  | some d' =>
      exact .of_none (h.setDraft (hd d' rfl) draft) rfl

/-- Each action preserves the invariant. -/
theorem Holds.perform
    (h : studio.Holds) {a : Action} (ha : a.Builds) :
    Keeps (studio.perform a) := by
  cases a with
  | save name description s =>
      exact h.save ha name description
  | saveDraft name description draft =>
      exact h.save (h draft).current name description
  | load | admits | audience =>
      exact h.ask (fun _ => rfl) _
  | openDraft id draft =>
      exact h.openDraft id draft
  | delete id =>
      exact h.delete id
  | blankDraft draft =>
      have hnew : (Segment.new studio.workspace.ids.next).Obtained := .new _
      refine .of_none (Holds.setDraft h ?_ draft) rfl
      exact History.all_start hnew studio.workspace.historyDepth
  | edit step draft =>
      exact h.edit step draft
  | apply f draft =>
      exact h.apply ha draft
  | undo draft =>
      exact h.move (fun _ hundo => (h draft).undo hundo) draft
  | redo draft =>
      exact h.move (fun _ hredo => (h draft).redo hredo) draft
  | list | replaceSchema | issueTicket | count | countNow =>
      exact .of_none h rfl

/-- What is saved in a run. -/
theorem Holds.obtained_of_mem_savings
    (h : studio.Holds) {actions : List Action} (hactions : ∀ a ∈ actions, a.Builds) {x : Saving}
    (hx : x ∈ savings (studio.log actions)) :
    x.segment.Obtained := by
  induction actions generalizing studio with
  | nil =>
      cases hx
  | cons a rest ih =>
      obtain ⟨ha, hrest⟩ := List.forall_mem_cons.mp hactions
      have hstep := h.perform ha
      obtain ⟨answer, hanswer, hsaved⟩ := List.mem_filterMap.mp hx
      rcases List.mem_cons.mp hanswer with rfl | hanswer
      · exact hstep.saved x hsaved
      · exact ih hstep.holds hrest (List.mem_filterMap.mpr ⟨answer, hanswer, hsaved⟩)

end Studio

end Audience
