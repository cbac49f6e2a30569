import Audience.Workspace
import Audience.Proofs.Segment.Edits

/-!
# Runs of a workspace

A studio is a workspace with the drafts of those who use it.  A run is any sequence of actions:
segments and drafts are saved, loaded, listed, deleted and evaluated, drafts are edited and
counted, and the live schema is replaced.  The log of a run is the list of its answers.

**Inversion.**  Three kinds of actions concern the table of saved segments.  A save that was
answered has put its segment at the end; a deletion that was answered has taken one away; every
other answer, and so every failure, leaves the table as it was.  `Answer.Changes` says so once.

**Schema.**  Only a replacement changes the live schema.  So after a run it is the last one that
was given, or that of the start.

**Invariant.**  The table holds the documents of the segments on the shelf, in the order of the
shelf.  The shelf is read off the log alone: a saved segment stands on it from its save on, until
its identifier is deleted or saved again.

**Results.**
* `Studio.changes_perform`: what an answer says about the table.
* `Studio.schema_after`: the live schema after any run.
* `Studio.saved_performAll`: the table after any run.
* `Studio.mem_shelf_iff`: which segments are on the shelf.
-/

namespace Audience

/-- A segment as it was saved. -/
structure Saving where
  id : Uuid
  name : String
  description : String
  createdAt : Instant
  segment : Segment

/-- What is kept of it. -/
def Saving.record (x : Saving) : SavedSegment :=
  ⟨x.id, x.name, x.description, x.createdAt, x.segment.text⟩

/-- A workspace and the drafts, by numbers. -/
structure Studio where
  workspace : Workspace
  drafts : Nat → Draft

namespace Workspace

variable {id : Uuid} {w : Workspace}

theorem delete_of_missing
    (h : w.store.find? id = none) :
    w.delete id = .error (.segmentNotFound id) := by
  rw [delete, Store.delete, h]
  rfl

theorem delete_of_saved
    {old : SavedSegment} (h : w.store.find? id = some old) :
    w.delete id = .ok { w with store := w.store.remove id } := by
  rw [delete, Store.delete, h]
  rfl

end Workspace

namespace Studio

section Actions

/-- What can be done in a studio. -/
inductive Action
  | save (name description : String) (s : Segment)
  | saveDraft (name description : String) (draft : Nat)
  | load (id : Uuid)
  | openDraft (id : Uuid) (draft : Nat)
  | list
  | delete (id : Uuid)
  | admits (id : Uuid) (customer : Customer)
  | audience (id : Uuid) (customers : List Customer)
  | replaceSchema (schema : Schema)
  | blankDraft (draft : Nat)
  | edit (step : Edit) (draft : Nat)
  | apply (f : Segment → Except Error Segment) (draft : Nat)
  | undo (draft : Nat)
  | redo (draft : Nat)
  | issueTicket
  | count (ticket : Nat) (s : Segment) (customers : List Customer)
  | countNow (s : Segment) (customers : List Customer)

/-- The answers to these actions.  A step back or forth that is not possible answers no version. -/
inductive Answer
  | saved (x : Saving)
  | loaded (found : LoadedSegment)
  | listed (segments : List SavedSegment)
  | deleted (id : Uuid)
  | admitted (member : Bool)
  | population (p : Population)
  | version (version : Option Nat)
  | ticket (ticket : Nat)
  | counted (outcome : PreviewOutcome)
  | done
  | failed (e : Error)

/-- Puts a draft in the place of another one. -/
def setDraft (draft : Nat) (d : Draft) (studio : Studio) : Studio :=
  { studio with drafts := fun n => if n = draft then d else studio.drafts n }

def save (name description : String) (s : Segment) (studio : Studio) : Answer × Studio :=
  let (id, w) := studio.workspace.save name description s
  (.saved ⟨id, name, description, studio.workspace.clock.now, s⟩, { studio with workspace := w })

/-- Answers a question to the workspace, which may fail. -/
def ask {α : Type} (answer : α → Answer) (result : Except Error (α × Workspace))
    (studio : Studio) : Answer × Studio :=
  match result with
  | .ok (a, w) => (answer a, { studio with workspace := w })
  | .error e => (.failed e, studio)

def delete (id : Uuid) (studio : Studio) : Answer × Studio :=
  match studio.workspace.delete id with
  | .ok w => (.deleted id, { studio with workspace := w })
  | .error e => (.failed e, studio)

/-- Loads a saved segment as a new draft. -/
def openDraft (id : Uuid) (draft : Nat) (studio : Studio) : Answer × Studio :=
  match studio.workspace.load id with
  | .ok (found, w) =>
      (.loaded found,
        ({ studio with workspace := w }).setDraft draft (w.draftOf found.loaded.segment))
  | .error e => (.failed e, studio)

def edit (step : Edit) (draft : Nat) (studio : Studio) : Answer × Studio :=
  match studio.workspace.edit step (studio.drafts draft) with
  | (.ok (version, d), w) =>
      (.version (some version), ({ studio with workspace := w }).setDraft draft d)
  | (.error e, w) => (.failed e, { studio with workspace := w })

def apply (f : Segment → Except Error Segment) (draft : Nat) (studio : Studio) :
    Answer × Studio :=
  match (studio.drafts draft).apply f with
  | .ok (version, d) => (.version (some version), studio.setDraft draft d)
  | .error e => (.failed e, studio)

/-- Takes a step back or forth in a draft, if it is possible. -/
def move (draft : Nat) (d : Option Draft) (studio : Studio) : Answer × Studio :=
  match d with
  | some d => (.version (some d.version), studio.setDraft draft d)
  | none => (.version none, studio)

def perform (studio : Studio) : Action → Answer × Studio
  | .save name description s => studio.save name description s
  | .saveDraft name description draft =>
      studio.save name description (studio.drafts draft).current
  | .load id => studio.ask .loaded (studio.workspace.load id)
  | .openDraft id draft => studio.openDraft id draft
  | .list => (.listed studio.workspace.saved, studio)
  | .delete id => studio.delete id
  | .admits id customer => studio.ask .admitted (studio.workspace.admits id customer)
  | .audience id customers => studio.ask .population (studio.workspace.audience id customers)
  | .replaceSchema schema =>
      (.done, { studio with workspace := studio.workspace.replaceSchema schema })
  | .blankDraft draft =>
      let (d, w) := studio.workspace.blankDraft
      (.done, ({ studio with workspace := w }).setDraft draft d)
  | .edit step draft => studio.edit step draft
  | .apply f draft => studio.apply f draft
  | .undo draft => studio.move draft (studio.drafts draft).undo?
  | .redo draft => studio.move draft (studio.drafts draft).redo?
  | .issueTicket =>
      let (ticket, w) := studio.workspace.issueTicket
      (.ticket ticket, { studio with workspace := w })
  | .count ticket s customers =>
      let (outcome, w) := studio.workspace.count ticket s customers
      (.counted outcome, { studio with workspace := w })
  | .countNow s customers =>
      let (outcome, w) := studio.workspace.countNow s customers
      (.counted outcome, { studio with workspace := w })

/-- Performs actions one after another.  Their answers are the log. -/
def performAll (studio : Studio) : List Action → List Answer × Studio
  | [] => ([], studio)
  | a :: rest =>
      let (answer, studio) := studio.perform a
      let (log, last) := studio.performAll rest
      (answer :: log, last)

/-- The log of a run. -/
def log (studio : Studio) (actions : List Action) : List Answer := (studio.performAll actions).1

/-- The studio after a run. -/
def after (studio : Studio) (actions : List Action) : Studio := (studio.performAll actions).2

variable (studio : Studio) (a : Action) (actions more : List Action)

@[simp] theorem log_nil :
    studio.log [] = [] := rfl

@[simp] theorem log_cons :
    studio.log (a :: actions) = (studio.perform a).1 :: (studio.perform a).2.log actions := rfl

@[simp] theorem after_nil :
    studio.after [] = studio := rfl

@[simp] theorem after_cons :
    studio.after (a :: actions) = (studio.perform a).2.after actions := rfl

@[simp] theorem log_append :
    studio.log (actions ++ more) = studio.log actions ++ (studio.after actions).log more := by
  induction actions generalizing studio with
  | nil =>
      rfl
  | cons a rest ih =>
      simp [ih]

@[simp] theorem after_append :
    studio.after (actions ++ more) = (studio.after actions).after more := by
  induction actions generalizing studio with
  | nil =>
      rfl
  | cons a rest ih =>
      simp [ih]

end Actions

section Changes

/-- The action may change the table of saved segments. -/
def Action.Stores : Action → Prop
  | save _ _ _ => True
  | saveDraft _ _ _ => True
  | delete _ => True
  | _ => False

/-- The schema that an action gives. -/
def Action.schema? : Action → Option Schema
  | replaceSchema schema => some schema
  | _ => none

theorem Action.eq_of_schema?
    {a : Action} {schema : Schema} (h : a.schema? = some schema) :
    a = .replaceSchema schema := by
  cases a with
  | replaceSchema given =>
      cases h
      rfl
  | _ =>
      cases h

/-- The answer is not about the table of saved segments. -/
def Answer.IsQuiet : Answer → Prop
  | saved _ => False
  | deleted _ => False
  | _ => True

/-- The step has such an answer and leaves the table and the live schema as they are. -/
structure Spares (studio : Studio) (step : Answer × Studio) : Prop where
  quiet : step.1.IsQuiet
  store : step.2.workspace.store = studio.workspace.store
  schema : step.2.workspace.schema = studio.workspace.schema

/-- What the step with this answer made of the table. -/
inductive Answer.Changes (store : Store) : Answer → Store → Prop
  | saved (x : Saving) :
      Changes store (.saved x) (store.save x.id x.name x.description x.createdAt x.segment)
  | deleted {id : Uuid} {old : SavedSegment} :
      store.find? id = some old →
      Changes store (.deleted id) (store.remove id)
  | quiet {answer : Answer} :
      answer.IsQuiet →
      Changes store answer store

theorem Answer.Changes.eq_of_quiet
    {store store' : Store} {answer : Answer} (h : answer.Changes store store')
    (hquiet : answer.IsQuiet) :
    store' = store := by
  cases h with
  | saved | deleted =>
      exact hquiet.elim
  | quiet =>
      rfl

variable {studio : Studio}

theorem spares_ask
    {α : Type} {answer : α → Answer} {result : Except Error (α × Workspace)}
    (hanswer : ∀ a, (answer a).IsQuiet)
    (hresult : ∀ a w, result = .ok (a, w) →
      w.store = studio.workspace.store ∧ w.schema = studio.workspace.schema) :
    studio.Spares (studio.ask answer result) := by
  cases result with
  | ok pair =>
      obtain ⟨a, w⟩ := pair
      obtain ⟨hstore, hschema⟩ := hresult a w rfl
      exact ⟨hanswer a, hstore, hschema⟩
  | error e =>
      exact ⟨trivial, rfl, rfl⟩

/-- A look at a loaded segment is not about the table or the live schema. -/
theorem spares_look
    {α : Type} {answer : α → Answer} (hanswer : ∀ a, (answer a).IsQuiet)
    (id : Uuid) (look : LoadedSegment → Workspace → α) :
    studio.Spares (studio.ask answer
      ((studio.workspace.load id).map fun (found, w) => (look found w, w))) := by
  refine spares_ask hanswer ?_
  intro a w hlook
  obtain ⟨⟨found, w'⟩, hload, hpair⟩ := map_eq_ok_iff.mp hlook
  cases hpair
  exact ⟨Workspace.store_load hload, Workspace.schema_load hload⟩

theorem spares_openDraft
    (id : Uuid) (draft : Nat) (studio : Studio) :
    studio.Spares (studio.openDraft id draft) := by
  unfold openDraft
  split
  · next found w hload =>
      exact ⟨trivial, Workspace.store_load hload, Workspace.schema_load hload⟩
  · exact ⟨trivial, rfl, rfl⟩

theorem spares_edit
    (step : Edit) (draft : Nat) (studio : Studio) :
    studio.Spares (studio.edit step draft) := by
  have hstore : (studio.workspace.edit step (studio.drafts draft)).2.store =
      studio.workspace.store := rfl
  have hschema : (studio.workspace.edit step (studio.drafts draft)).2.schema =
      studio.workspace.schema := rfl
  unfold edit
  split
  · next hedit =>
      rw [hedit] at hstore hschema
      exact ⟨trivial, hstore, hschema⟩
  · next hedit =>
      rw [hedit] at hstore hschema
      exact ⟨trivial, hstore, hschema⟩

theorem spares_apply
    (f : Segment → Except Error Segment) (draft : Nat) (studio : Studio) :
    studio.Spares (studio.apply f draft) := by
  unfold apply
  split <;> exact ⟨trivial, rfl, rfl⟩

theorem spares_move
    (draft : Nat) (d : Option Draft) (studio : Studio) :
    studio.Spares (studio.move draft d) := by
  cases d <;> exact ⟨trivial, rfl, rfl⟩

/-- Only saves, deletions and replacements are about the table or the live schema. -/
theorem spares_perform
    {a : Action} (hstores : ¬ a.Stores) (hschema : a.schema? = none) (studio : Studio) :
    studio.Spares (studio.perform a) := by
  cases a with
  | save | saveDraft | delete =>
      exact absurd trivial hstores
  | replaceSchema =>
      cases hschema
  | load id =>
      exact spares_ask (fun _ => trivial)
        fun _ _ hload => ⟨Workspace.store_load hload, Workspace.schema_load hload⟩
  | openDraft id draft =>
      exact spares_openDraft id draft studio
  | admits id customer =>
      refine spares_look ?_ id fun found _ => found.loaded.segment.admits customer
      exact fun _ => trivial
  | audience id customers =>
      refine spares_look ?_ id
        fun found w => Population.ofChunks found.loaded.segment customers w.chunkSize
      exact fun _ => trivial
  | edit step draft =>
      exact spares_edit step draft studio
  | apply f draft =>
      exact spares_apply f draft studio
  | undo draft | redo draft =>
      exact spares_move draft _ studio
  | list | blankDraft | issueTicket | count | countNow =>
      exact ⟨trivial, rfl, rfl⟩

/-- A replacement is not about the table either. -/
theorem quiet_perform
    {a : Action} (hstores : ¬ a.Stores) (studio : Studio) :
    (studio.perform a).1.IsQuiet ∧
      (studio.perform a).2.workspace.store = studio.workspace.store := by
  cases hschema : a.schema? with
  | none =>
      have hspares := spares_perform hstores hschema studio
      exact ⟨hspares.quiet, hspares.store⟩
  | some schema =>
      obtain rfl := Action.eq_of_schema? hschema
      exact ⟨trivial, studio.workspace.store_replaceSchema schema⟩

theorem changes_save
    (name description : String) (s : Segment) (studio : Studio) :
    (studio.save name description s).1.Changes studio.workspace.store
      (studio.save name description s).2.workspace.store :=
  .saved ⟨studio.workspace.ids.next, name, description, studio.workspace.clock.now, s⟩

theorem changes_delete
    (id : Uuid) (studio : Studio) :
    (studio.delete id).1.Changes studio.workspace.store
      (studio.delete id).2.workspace.store := by
  unfold delete
  cases hfind : studio.workspace.store.find? id with
  | none =>
      rw [Workspace.delete_of_missing hfind]
      exact .quiet trivial
  | some old =>
      rw [Workspace.delete_of_saved hfind]
      exact .deleted hfind

/-- What an answer says about the table. -/
theorem changes_perform
    (studio : Studio) (a : Action) :
    (studio.perform a).1.Changes studio.workspace.store
      (studio.perform a).2.workspace.store := by
  by_cases hstores : a.Stores
  · cases a with
    | save name description s =>
        exact changes_save name description s studio
    | saveDraft name description draft =>
        exact changes_save name description (studio.drafts draft).current studio
    | delete id =>
        exact changes_delete id studio
    | _ =>
        exact hstores.elim
  · obtain ⟨hquiet, hstore⟩ := quiet_perform hstores studio
    rw [hstore]
    exact .quiet hquiet

/-- A step that fails leaves the table as it is. -/
theorem store_of_failed
    {a : Action} {e : Error} (h : (studio.perform a).1 = .failed e) :
    (studio.perform a).2.workspace.store = studio.workspace.store := by
  refine (changes_perform studio a).eq_of_quiet ?_
  rw [h]
  exact trivial

end Changes

section Schemas

/-- The schema that is live after actions: the last one that they give, if they give one. -/
def liveSchema (start : Schema) (actions : List Action) : Schema :=
  (actions.filterMap Action.schema?).getLastD start

theorem liveSchema_cons
    (start : Schema) (a : Action) (actions : List Action) :
    liveSchema start (a :: actions) = liveSchema (a.schema?.getD start) actions := by
  unfold liveSchema
  cases hschema : a.schema? with
  | none =>
      rw [List.filterMap_cons_none hschema]
      rfl
  | some schema =>
      rw [List.filterMap_cons_some hschema, List.getLastD_cons]
      rfl

theorem schema_delete
    (id : Uuid) (studio : Studio) :
    (studio.delete id).2.workspace.schema = studio.workspace.schema := by
  unfold delete
  split
  · next hdelete =>
      exact Workspace.schema_delete hdelete
  · rfl

/-- An action leaves the live schema as it is, unless it gives another one. -/
theorem schema_perform
    (studio : Studio) (a : Action) :
    (studio.perform a).2.workspace.schema = a.schema?.getD studio.workspace.schema := by
  by_cases hstores : a.Stores
  · cases a with
    | save | saveDraft =>
        rfl
    | delete id =>
        exact schema_delete id studio
    | _ =>
        exact hstores.elim
  · cases hschema : a.schema? with
    | none =>
        exact (spares_perform hstores hschema studio).schema
    | some schema =>
        obtain rfl := Action.eq_of_schema? hschema
        exact studio.workspace.schema_replaceSchema schema

/-- The live schema after any run. -/
theorem schema_after
    (studio : Studio) (actions : List Action) :
    (studio.after actions).workspace.schema = liveSchema studio.workspace.schema actions := by
  induction actions generalizing studio with
  | nil =>
      rfl
  | cons a rest ih =>
      rw [after_cons, ih, schema_perform, liveSchema_cons]

end Schemas

section Shelf

/-- The segment that was saved. -/
def Answer.saving? : Answer → Option Saving
  | saved x => some x
  | _ => none

/-- Whatever was saved under the identifier is no longer there. -/
def Answer.Removes (id : Uuid) : Answer → Prop
  | saved x => x.id = id
  | deleted other => other = id
  | _ => False

/-- The segments that were saved, in this order. -/
def savings (log : List Answer) : List Saving := log.filterMap Answer.saving?

/-- Puts a saved segment on the shelf, and takes off what it replaces or what was deleted. -/
def shelve (shelf : List Saving) : Answer → List Saving
  | .saved x => shelf.filter (·.id ≠ x.id) ++ [x]
  | .deleted id => shelf.filter (·.id ≠ id)
  | _ => shelf

/-- The segments on the shelf after a run. -/
def shelf (log : List Answer) : List Saving := log.foldl shelve []

/-- The segment was saved, and nothing took it off the shelf since. -/
def Stands (log : List Answer) (x : Saving) : Prop :=
  ∃ before after, log = before ++ .saved x :: after ∧ ∀ a ∈ after, ¬ a.Removes x.id

variable {standing : List Saving} {answer : Answer} {log : List Answer} {x : Saving}

theorem shelve_of_quiet
    (h : answer.IsQuiet) :
    shelve standing answer = standing := by
  cases answer with
  | saved x | deleted id =>
      exact h.elim
  | _ =>
      rfl

theorem filter_map_record
    (id : Uuid) (standing : List Saving) :
    (standing.map Saving.record).filter (·.id ≠ id) =
      (standing.filter (·.id ≠ id)).map Saving.record :=
  List.filter_map

/-- The table follows the shelf. -/
theorem Answer.Changes.saved_eq
    {store store' : Store} (h : answer.Changes store store')
    (hstore : store.saved = standing.map Saving.record) :
    store'.saved = (shelve standing answer).map Saving.record := by
  cases h with
  | saved x =>
      simp only [Store.save, Store.remove, hstore, filter_map_record, shelve, List.map_append]
      rfl
  | deleted _ =>
      simp only [Store.remove, hstore, filter_map_record, shelve]
  | quiet hquiet =>
      rw [shelve_of_quiet hquiet, hstore]

/-- The table after any run. -/
theorem saved_performAll
    {studio : Studio} (hstore : studio.workspace.store.saved = standing.map Saving.record)
    (actions : List Action) :
    (studio.after actions).workspace.store.saved =
      ((studio.log actions).foldl shelve standing).map Saving.record := by
  induction actions generalizing studio standing with
  | nil =>
      exact hstore
  | cons a rest ih =>
      exact ih ((changes_perform studio a).saved_eq hstore)

theorem mem_shelve_iff :
    x ∈ shelve standing answer ↔ answer = .saved x ∨ x ∈ standing ∧ ¬ answer.Removes x.id := by
  cases answer with
  | saved y =>
      simp only [shelve, List.mem_append, List.mem_filter, List.mem_singleton, ne_eq,
        decide_eq_true_eq, Answer.saved.injEq, Answer.Removes, eq_comm (a := y.id),
        eq_comm (a := y)]
      exact Or.comm
  | deleted id =>
      simp [shelve, Answer.Removes, eq_comm (a := id)]
  | _ =>
      simp [shelve, Answer.Removes]

theorem stands_cons_iff :
    Stands (answer :: log) x ↔
      (answer = .saved x ∧ ∀ a ∈ log, ¬ a.Removes x.id) ∨ Stands log x := by
  constructor
  · rintro ⟨before, after, hlog, hafter⟩
    cases before with
    | nil =>
        cases hlog
        exact Or.inl ⟨rfl, hafter⟩
    | cons first before =>
        cases hlog
        exact Or.inr ⟨before, after, rfl, hafter⟩
  · rintro (⟨rfl, hlog⟩ | ⟨before, after, rfl, hafter⟩)
    · exact ⟨[], log, rfl, hlog⟩
    · exact ⟨answer :: before, after, rfl, hafter⟩

theorem mem_foldl_shelve_iff :
    x ∈ log.foldl shelve standing ↔
      (x ∈ standing ∧ ∀ a ∈ log, ¬ a.Removes x.id) ∨ Stands log x := by
  induction log generalizing standing with
  | nil =>
      simp [Stands]
  | cons answer rest ih =>
      -- What the first answer left on the shelf has to outlast the rest, as before.
      rw [List.foldl_cons, ih, mem_shelve_iff, stands_cons_iff, List.forall_mem_cons]
      constructor
      · rintro (⟨hsaved | ⟨hmem, hfirst⟩, hrest⟩ | hstands)
        · exact Or.inr (Or.inl ⟨hsaved, hrest⟩)
        · exact Or.inl ⟨hmem, hfirst, hrest⟩
        · exact Or.inr (Or.inr hstands)
      · rintro (⟨hmem, hfirst, hrest⟩ | ⟨hsaved, hrest⟩ | hstands)
        · exact Or.inl ⟨Or.inr ⟨hmem, hfirst⟩, hrest⟩
        · exact Or.inl ⟨Or.inl hsaved, hrest⟩
        · exact Or.inr hstands

/-- Which segments are on the shelf. -/
theorem mem_shelf_iff :
    x ∈ shelf log ↔ Stands log x := by
  simp [shelf, mem_foldl_shelve_iff]

theorem sublist_foldl_shelve
    (standing : List Saving) (log : List Answer) :
    (log.foldl shelve standing).Sublist (standing ++ savings log) := by
  induction log generalizing standing with
  | nil =>
      simp [savings]
  | cons answer rest ih =>
      refine (ih (shelve standing answer)).trans ?_
      cases answer with
      | saved x =>
          simp [shelve, savings, Answer.saving?]
      | deleted id =>
          exact List.filter_sublist.append_right _
      | _ =>
          exact List.Sublist.refl _

/-- They stand in the order in which they were saved. -/
theorem sublist_shelf
    (log : List Answer) :
    (shelf log).Sublist (savings log) :=
  sublist_foldl_shelve [] log

end Shelf

end Studio

end Audience
