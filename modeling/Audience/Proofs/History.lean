import Audience.History

/-!
# Histories are plain editors

A plain editor keeps the past states, the present one and the future ones apart.  A history
shows what such an editor shows: its snapshots before the cursor are the past ones, and
those after it are the future ones.

**Edits.**  The plain editor drops the oldest past states beyond its limit and forgets the
future ones.  The history cuts its list twice, after the cursor and at the front, and counts
the present snapshot too; so its depth is the limit and one more.

**Sessions.**  A session is a sequence of edits, of which some may fail, and of steps back
and forth.  Its log has the answer to each action and what is seen after it.

**Results.**
* `History.toEditor_apply`, `History.toEditor_undo`, `History.toEditor_redo`: each operation
  of a history is that of the plain editor.
* `Editing.Maps.run`: if all operations correspond, so do whole sessions.
* `History.session_eq_editor`: no session tells a history from a plain editor.
-/

namespace Audience

universe u v

section Sessions

/-- What can be done in a session. -/
inductive Editing.Action (ε : Type v) (α : Type u)
  | apply (edit : α → Except ε α)
  | undo
  | redo

/-- The new version or the error of an edit, or the version that was moved to. -/
inductive Editing.Answer (ε : Type v)
  | edited (result : Except ε Nat)
  | moved (version : Option Nat)

/-- What is seen between two actions. -/
structure Editing.View (α : Type u) where
  current : α
  version : Nat
  canUndo : Bool
  canRedo : Bool

/-- The operations of an editor that is in one of the states `σ`. -/
structure Editing (ε : Type v) (α σ : Type u) where
  apply : (α → Except ε α) → σ → Except ε (Nat × σ)
  undo? : σ → Option σ
  redo? : σ → Option σ
  view : σ → Editing.View α

namespace Editing

variable {ε : Type v} {α σ τ : Type u}

/-- Moves to another state if there is one. -/
def move (m : Editing ε α σ) (s : σ) : Option σ → Answer ε × σ
  | none => (.moved none, s)
  | some s' => (.moved (some (m.view s').version), s')

/-- Performs an action.  What fails leaves the state as it is. -/
def perform (m : Editing ε α σ) (s : σ) : Action ε α → Answer ε × σ
  | .apply edit =>
      match m.apply edit s with
      | .error e => (.edited (.error e), s)
      | .ok (version, s') => (.edited (.ok version), s')
  | .undo => m.move s (m.undo? s)
  | .redo => m.move s (m.redo? s)

/-- Performs the actions of a session and keeps the log. -/
def run (m : Editing ε α σ) (s : σ) : List (Action ε α) → List (Answer ε × View α) × σ
  | [] => ([], s)
  | a :: rest =>
      let (answer, s) := m.perform s a
      let (log, last) := m.run s rest
      ((answer, m.view s) :: log, last)

/-- All operations correspond along a map of the states. -/
structure Maps (m : Editing ε α σ) (m' : Editing ε α τ) (f : σ → τ) : Prop where
  apply : ∀ edit s, m'.apply edit (f s) = (m.apply edit s).map fun (version, s) => (version, f s)
  undo : ∀ s, m'.undo? (f s) = (m.undo? s).map f
  redo : ∀ s, m'.redo? (f s) = (m.redo? s).map f
  view : ∀ s, m'.view (f s) = m.view s

variable {m : Editing ε α σ} {m' : Editing ε α τ} {f : σ → τ}

theorem Maps.move
    (h : m.Maps m' f) (s : σ) (next : Option σ) :
    m'.move (f s) (next.map f) = ((m.move s next).1, f (m.move s next).2) := by
  cases next with
  | none =>
      rfl
  | some s' =>
      simp only [Option.map_some, Editing.move, h.view]

/-- Corresponding states give one answer to an action and correspond again. -/
theorem Maps.perform
    (h : m.Maps m' f) (s : σ) (a : Action ε α) :
    m'.perform (f s) a = ((m.perform s a).1, f (m.perform s a).2) := by
  cases a with
  | apply edit =>
      simp only [Editing.perform, h.apply]
      cases m.apply edit s <;> rfl
  | undo =>
      simp only [Editing.perform, h.undo, h.move]
  | redo =>
      simp only [Editing.perform, h.redo, h.move]

/-- Corresponding states have one log of a session and correspond at its end. -/
theorem Maps.run
    (h : m.Maps m' f) (s : σ) (actions : List (Action ε α)) :
    m'.run (f s) actions = ((m.run s actions).1, f (m.run s actions).2) := by
  induction actions generalizing s with
  | nil =>
      rfl
  | cons a rest ih =>
      simp only [Editing.run, h.perform, h.view, ih]

end Editing

end Sessions

/-- Past states, the latest one first, the present one, and future ones in their order. -/
structure Editor (α : Type u) where
  past : List (Snapshot α)
  present : Snapshot α
  future : List (Snapshot α)
  nextVersion : Nat
  limit : Nat

namespace Editor

variable {α : Type u} {ε : Type v}

/-- The editor of a first state.  The depth, at least one, counts the present state as well as
the past ones. -/
def start (state : α) (depth : Nat) : Editor α := ⟨[], ⟨0, state⟩, [], 1, max depth 1 - 1⟩

/-- Makes an edit.  The present state becomes a past one, the oldest ones beyond the limit are
dropped, and the future ones are lost. -/
def apply (edit : α → Except ε α) (e : Editor α) : Except ε (Nat × Editor α) :=
  match edit e.present.state with
  | .error error => .error error
  | .ok state =>
      .ok (e.nextVersion,
        { e with
          past := (e.present :: e.past).take e.limit
          present := ⟨e.nextVersion, state⟩
          future := []
          nextVersion := e.nextVersion + 1 })

def undo? (e : Editor α) : Option (Editor α) :=
  match e.past with
  | [] => none
  | s :: past => some { e with past := past, present := s, future := e.present :: e.future }

def redo? (e : Editor α) : Option (Editor α) :=
  match e.future with
  | [] => none
  | s :: future => some { e with past := e.present :: e.past, present := s, future := future }

def view (e : Editor α) : Editing.View α :=
  ⟨e.present.state, e.present.version, !e.past.isEmpty, !e.future.isEmpty⟩

/-- Plain editors as they are used. -/
def editing : Editing ε α (Editor α) := ⟨apply, undo?, redo?, view⟩

end Editor

namespace History

variable {α : Type u} {ε : Type v}

def view (h : History α) : Editing.View α := ⟨h.current, h.version, h.canUndo, h.canRedo⟩

/-- Histories as they are used. -/
def editing : Editing ε α (History α) := ⟨apply, undo?, redo?, view⟩

/-- The plain editor that a history is. -/
def toEditor (h : History α) : Editor α where
  past := (h.snapshots.take h.cursor).reverse
  present := h.present
  future := h.snapshots.drop (h.cursor + 1)
  nextVersion := h.nextVersion
  limit := h.depth - 1

section Places

theorem snapshots_eq
    (h : History α) :
    h.snapshots = h.toEditor.past.reverse ++ h.present :: h.toEditor.future := by
  have hdrop : h.snapshots.drop h.cursor = h.present :: h.snapshots.drop (h.cursor + 1) :=
    List.drop_eq_getElem_cons h.cursor_lt
  simp only [toEditor, List.reverse_reverse]
  rw [← hdrop, List.take_append_drop]

theorem cursor_eq
    (h : History α) :
    h.cursor = h.toEditor.past.length := by
  have := h.cursor_lt
  simp only [toEditor, List.length_reverse, List.length_take]
  omega

theorem length_eq
    (h : History α) :
    h.snapshots.length = h.cursor + 1 + h.toEditor.future.length := by
  have := h.cursor_lt
  simp only [toEditor, List.length_drop]
  omega

/-- Snapshots that stand around the cursor are those of the editor. -/
theorem toEditor_of_snapshots
    {h : History α} {past future : List (Snapshot α)} {s : Snapshot α}
    (hsnapshots : h.snapshots = past.reverse ++ s :: future) (hcursor : h.cursor = past.length) :
    h.toEditor = ⟨past, s, future, h.nextVersion, h.depth - 1⟩ := by
  have hpast : h.snapshots.take h.cursor = past.reverse := by
    rw [hsnapshots, hcursor, ← List.length_reverse, List.take_left]
  have hpresent : h.present = s := by
    simp [present, hsnapshots, hcursor]
  have hfuture : h.snapshots.drop (h.cursor + 1) = future := by
    rw [hsnapshots, hcursor, ← List.length_reverse, List.drop_length_add_append]
    rfl
  rw [toEditor, hpast, hpresent, hfuture, List.reverse_reverse]

/-- Of a list that ends in the present state, the last ones are this state and the last ones
before it. -/
theorem keepLast_concat
    {β : Type u} (limit : Nat) (items : List β) (last : β) :
    keepLast (limit + 1) (items ++ [last]) = keepLast limit items ++ [last] := by
  unfold keepLast
  rw [List.length_append, List.length_singleton, Nat.add_sub_add_right,
    List.drop_append_of_le_length (Nat.sub_le _ _)]

theorem keepLast_reverse
    {β : Type u} (limit : Nat) (items : List β) :
    keepLast limit items.reverse = (items.take limit).reverse := by
  unfold keepLast
  rw [List.reverse_take, List.length_reverse]

end Places

section Operations

theorem toEditor_start
    (state : α) (depth : Nat) :
    (start state depth).toEditor = Editor.start state depth := rfl

theorem toEditor_push
    (state : α) (h : History α) :
    (h.push state).toEditor =
      { h.toEditor with
        past := (h.present :: h.toEditor.past).take h.toEditor.limit
        present := ⟨h.nextVersion, state⟩
        future := []
        nextVersion := h.nextVersion + 1 } := by
  have hdepth : h.depth = h.toEditor.limit + 1 := by
    have := h.depth_pos
    simp only [toEditor]
    omega
  have htake : h.snapshots.take (h.cursor + 1) = (h.present :: h.toEditor.past).reverse := by
    simp only [toEditor, List.reverse_cons, List.reverse_reverse]
    exact (List.take_append_getElem h.cursor_lt).symm
  have hsnapshots : (h.push state).snapshots =
      ((h.present :: h.toEditor.past).take h.toEditor.limit).reverse ++
        [⟨h.nextVersion, state⟩] := by
    simp only [push]
    rw [htake, hdepth, keepLast_concat, keepLast_reverse]
  have hcursor : (h.push state).cursor =
      ((h.present :: h.toEditor.past).take h.toEditor.limit).length := by
    have hlast : (h.push state).cursor = (h.push state).snapshots.length - 1 := rfl
    rw [hlast, hsnapshots, List.length_append, List.length_singleton, Nat.add_sub_cancel,
      List.length_reverse]
  exact toEditor_of_snapshots hsnapshots hcursor

theorem toEditor_apply
    (edit : α → Except ε α) (h : History α) :
    h.toEditor.apply edit = (h.apply edit).map fun (version, h) => (version, h.toEditor) := by
  have hpresent : h.toEditor.present.state = h.current := rfl
  rw [Editor.apply, hpresent, apply]
  cases edit h.current with
  | error e =>
      rfl
  | ok state =>
      simp only [Except.map, toEditor_push]
      rfl

theorem toEditor_undo
    (h : History α) :
    h.toEditor.undo? = h.undo?.map toEditor := by
  have hsnapshots := h.snapshots_eq
  have hcursor := h.cursor_eq
  unfold Editor.undo? undo?
  cases hpast : h.toEditor.past with
  | nil =>
      rw [hpast, List.length_nil] at hcursor
      rw [if_neg (by omega)]
      rfl
  | cons s past =>
      rw [hpast, List.reverse_cons, List.append_assoc] at hsnapshots
      rw [hpast, List.length_cons] at hcursor
      have hback : h.cursor - 1 = past.length := by
        omega
      rw [if_pos (by omega)]
      refine congrArg some (Eq.symm ?_)
      exact toEditor_of_snapshots (h := { h with cursor := h.cursor - 1, cursor_lt := _ })
        hsnapshots hback

theorem toEditor_redo
    (h : History α) :
    h.toEditor.redo? = h.redo?.map toEditor := by
  have hsnapshots := h.snapshots_eq
  have hcursor := h.cursor_eq
  have hlength := h.length_eq
  unfold Editor.redo? redo?
  cases hfuture : h.toEditor.future with
  | nil =>
      rw [hfuture, List.length_nil] at hlength
      rw [dif_neg (by omega)]
      rfl
  | cons s future =>
      rw [hfuture, List.length_cons] at hlength
      have hnext : h.snapshots = (h.present :: h.toEditor.past).reverse ++ s :: future := by
        rw [List.reverse_cons, List.append_assoc, ← hfuture]
        exact hsnapshots
      have hforward : h.cursor + 1 = (h.present :: h.toEditor.past).length := by
        rw [List.length_cons, hcursor]
      rw [dif_pos (by omega)]
      refine congrArg some (Eq.symm ?_)
      exact toEditor_of_snapshots (h := { h with cursor := h.cursor + 1, cursor_lt := _ })
        hnext hforward

theorem view_toEditor
    (h : History α) :
    h.toEditor.view = h.view := by
  have hundo : (!h.toEditor.past.isEmpty) = h.canUndo := by
    rw [canUndo, h.cursor_eq]
    cases h.toEditor.past with
    | nil =>
        rfl
    | cons s past =>
        simp
  have hredo : (!h.toEditor.future.isEmpty) = h.canRedo := by
    rw [canRedo, h.length_eq]
    cases h.toEditor.future with
    | nil =>
        simp
    | cons s future =>
        simp
  rw [Editor.view, hundo, hredo]
  rfl

/-- The operations of histories and of plain editors correspond. -/
theorem maps_toEditor :
    (editing : Editing ε α (History α)).Maps Editor.editing toEditor where
  apply := toEditor_apply
  undo := toEditor_undo
  redo := toEditor_redo
  view := view_toEditor

end Operations

/-- No session tells a history from a plain editor: what is seen at the start, each answer, and
what is seen after each action are the same.  At any end of a session the snapshots are the
states of the editor in their order, and the cursor is at the present one. -/
theorem session_eq_editor
    (state : α) (depth : Nat) (actions : List (Editing.Action ε α)) :
    (start state depth).view = (Editor.start state depth).view ∧
      ∃ log h e,
        editing.run (start state depth) actions = (log, h) ∧
        Editor.editing.run (Editor.start state depth) actions = (log, e) ∧
        h.snapshots = e.past.reverse ++ e.present :: e.future ∧
        h.cursor = e.past.length ∧
        h.cursor < h.snapshots.length := by
  constructor
  · rw [← toEditor_start, view_toEditor]
  · have hrun := maps_toEditor.run (start state depth) actions
    rw [toEditor_start] at hrun
    rcases hlog : editing.run (start state depth) actions with ⟨log, h⟩
    rw [hlog] at hrun
    exact ⟨log, h, h.toEditor, rfl, hrun, h.snapshots_eq, h.cursor_eq, h.cursor_lt⟩

end History

end Audience
