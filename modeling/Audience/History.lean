/-!
# Undo and redo

A history is a list of snapshots with a cursor at the current one.  A successful edit cuts
off what lies after the cursor, adds a snapshot at the end and moves the cursor there; if
there are then more snapshots than the depth allows, the oldest ones are dropped.  A
failed edit changes nothing.

**Versions.**  Each snapshot has a version.  The first one is zero, and each successful
edit takes the next number, also after steps back.

**Results.**
* `History.apply_error`: a failed edit is reported.
* `History.snapshots_undo`, `History.snapshots_redo`: undo and redo move the cursor only.
-/

namespace Audience

universe u v

/-- A state with its version. -/
structure Snapshot (α : Type u) where
  version : Nat
  state : α

/-- Snapshots with a cursor; at most `depth` of them are kept. -/
structure History (α : Type u) where
  snapshots : List (Snapshot α)
  cursor : Nat
  nextVersion : Nat
  depth : Nat
  cursor_lt : cursor < snapshots.length
  depth_pos : 0 < depth

namespace History

variable {α : Type u} {ε : Type v}

/-- The history of a first state.  A depth of zero counts as one. -/
def start (state : α) (depth : Nat) : History α where
  snapshots := [⟨0, state⟩]
  cursor := 0
  nextVersion := 1
  depth := max depth 1
  cursor_lt := by simp
  depth_pos := by omega

/-- The snapshot at the cursor. -/
def present (h : History α) : Snapshot α := h.snapshots.get ⟨h.cursor, h.cursor_lt⟩

/-- The current state. -/
def current (h : History α) : α := h.present.state

/-- The current version. -/
def version (h : History α) : Nat := h.present.version

/-- The last items of a list, at most `depth` of them. -/
def keepLast {β : Type u} (depth : Nat) (items : List β) : List β :=
  items.drop (items.length - depth)

/-- Adds a state after the cursor. -/
def push (state : α) (h : History α) : History α where
  snapshots :=
    keepLast h.depth (h.snapshots.take (h.cursor + 1) ++ [⟨h.nextVersion, state⟩])
  cursor :=
    (keepLast h.depth (h.snapshots.take (h.cursor + 1) ++ [⟨h.nextVersion, state⟩])).length - 1
  nextVersion := h.nextVersion + 1
  depth := h.depth
  cursor_lt := by
    have := h.depth_pos
    simp only [keepLast, List.length_drop, List.length_append, List.length_singleton]
    omega
  depth_pos := h.depth_pos

/-- Makes an edit.  The new version comes with the new history. -/
def apply (edit : α → Except ε α) (h : History α) : Except ε (Nat × History α) :=
  (edit h.current).map fun state => (h.nextVersion, h.push state)

theorem apply_error {edit : α → Except ε α} {h : History α} {e : ε}
    (he : edit h.current = .error e) : h.apply edit = .error e := by
  simp [apply, he, Except.map]

/-- There is a snapshot before the cursor. -/
def canUndo (h : History α) : Bool := 0 < h.cursor

/-- There is a snapshot after the cursor. -/
def canRedo (h : History α) : Bool := h.cursor + 1 < h.snapshots.length

/-- Moves the cursor back, unless it is at the start. -/
def undo? (h : History α) : Option (History α) :=
  if 0 < h.cursor then
    some { h with
      cursor := h.cursor - 1
      cursor_lt := by have := h.cursor_lt; omega }
  else none

/-- Moves the cursor forward, unless it is at the end. -/
def redo? (h : History α) : Option (History α) :=
  if hlt : h.cursor + 1 < h.snapshots.length then
    some { h with cursor := h.cursor + 1, cursor_lt := hlt }
  else none

theorem snapshots_undo {h h' : History α} (hu : h.undo? = some h') :
    h'.snapshots = h.snapshots ∧ h'.cursor + 1 = h.cursor := by
  unfold undo? at hu
  split at hu
  · next hpos =>
      cases hu
      exact ⟨rfl, by show h.cursor - 1 + 1 = h.cursor; omega⟩
  · cases hu

theorem snapshots_redo {h h' : History α} (hr : h.redo? = some h') :
    h'.snapshots = h.snapshots ∧ h'.cursor = h.cursor + 1 := by
  unfold redo? at hr
  split at hr
  · cases hr
    exact ⟨rfl, rfl⟩
  · cases hr

end History
end Audience
