import Audience.History
import Audience.Preview
import Audience.Segment.Composer
import Audience.Settings
import Audience.Store
import Audience.Time.Source

/-!
# Workspaces

A workspace holds what is shared by all who compose and use segments: the live schema, the
saved segments, the previews, the supply of new identifiers and the clock.  The schema can be
replaced at any time; saved segments are loaded against the live one.

**Drafts.**  A draft is a history of segments.  Its edits are made under the schema of the
moment.

**Results.**
* `Workspace.schema_replaceSchema`: the schema that is given is the live one.
* `Workspace.store_replaceSchema`: replacing the schema touches no saved segment.
* `Workspace.store_load`: neither does loading one.
* `Workspace.schema_load`, `Workspace.schema_delete`: the live schema stays as it is.
-/

namespace Audience

/-- What all who compose and use segments share. -/
structure Workspace where
  schema : Schema
  store : Store
  preview : Preview
  chunkSize : Nat
  historyDepth : Nat
  ids : IdSource
  clock : TimeSource

/-- A segment that is being composed. -/
abbrev Draft := History Segment

namespace Workspace

/-- A workspace without saved segments. -/
def start (settings : Settings) (schema : Schema) (ids : IdSource)
    (clock : TimeSource := .ticking) : Workspace where
  schema := schema
  store := Store.empty
  preview := Preview.start settings.previewChunkSize
  chunkSize := settings.previewChunkSize
  historyDepth := settings.historyDepth
  ids := ids
  clock := clock

/-- Draws an identifier. -/
def fresh (w : Workspace) : Uuid × Workspace := (w.ids.next, { w with ids := w.ids.advance })

/-- Reads the clock. -/
def time (w : Workspace) : Instant × Workspace :=
  (w.clock.now, { w with clock := w.clock.advance })

/-- Replaces the live schema. -/
def replaceSchema (schema : Schema) (w : Workspace) : Workspace := { w with schema := schema }

/-- A draft of a given segment. -/
def draftOf (s : Segment) (w : Workspace) : Draft := History.start s w.historyDepth

/-- A draft of a segment with one group without entries. -/
def blankDraft (w : Workspace) : Draft × Workspace :=
  let (id, w) := w.fresh
  (w.draftOf (Segment.new id), w)

/-- Makes a step in a draft under the live schema. -/
def edit (step : Edit) (draft : Draft) (w : Workspace) :
    Except Error (Nat × Draft) × Workspace :=
  let (id, w) := w.fresh
  (draft.apply (step.run w.schema id), w)

/-- Saves a segment; its identifier is the result. -/
def save (name description : String) (s : Segment) (w : Workspace) : Uuid × Workspace :=
  let (id, w) := w.fresh
  let (createdAt, w) := w.time
  (id, { w with store := w.store.save id name description createdAt s })

/-- Loads a saved segment against the live schema. -/
def load (id : Uuid) (w : Workspace) : Except Error (LoadedSegment × Workspace) :=
  (w.store.load w.schema id w.ids).map fun (segment, ids) => (segment, { w with ids := ids })

/-- Deletes a saved segment. -/
def delete (id : Uuid) (w : Workspace) : Except Error Workspace :=
  (w.store.delete id).map fun store => { w with store := store }

/-- The saved segments, earlier ones first. -/
def saved (w : Workspace) : List SavedSegment := w.store.listed

/-- A customer is in a saved segment. -/
def admits (id : Uuid) (customer : Customer) (w : Workspace) :
    Except Error (Bool × Workspace) :=
  (w.load id).map fun (segment, w) => (segment.loaded.segment.admits customer, w)

/-- The audience of a saved segment. -/
def audience (id : Uuid) (customers : List Customer) (w : Workspace) :
    Except Error (Population × Workspace) :=
  (w.load id).map fun (segment, w) =>
    (Population.ofChunks segment.loaded.segment customers w.chunkSize, w)

/-- Runs an operation of the previews. -/
def withPreview {α : Type} (f : Preview → α × Preview) (w : Workspace) : α × Workspace :=
  let (a, preview) := f w.preview
  (a, { w with preview := preview })

/-- Issues a ticket for a count. -/
def issueTicket : Workspace → Nat × Workspace := withPreview Preview.issue

/-- Counts the audience of a segment for a ticket. -/
def count (ticket : Nat) (s : Segment) (customers : List Customer) :
    Workspace → PreviewOutcome × Workspace :=
  withPreview fun p => p.run ticket s customers

/-- Counts the audience of a segment for a new ticket. -/
def countNow (s : Segment) (customers : List Customer) :
    Workspace → PreviewOutcome × Workspace :=
  withPreview fun p => p.request s customers

@[simp] theorem schema_replaceSchema (schema : Schema) (w : Workspace) :
    (w.replaceSchema schema).schema = schema := rfl

@[simp] theorem store_replaceSchema (schema : Schema) (w : Workspace) :
    (w.replaceSchema schema).store = w.store := rfl

theorem store_load {id : Uuid} {w w' : Workspace} {segment : LoadedSegment}
    (h : w.load id = .ok (segment, w')) : w'.store = w.store := by
  obtain ⟨⟨found, ids⟩, _, h⟩ := map_eq_ok_iff.mp h
  cases h
  rfl

theorem schema_load {id : Uuid} {w w' : Workspace} {segment : LoadedSegment}
    (h : w.load id = .ok (segment, w')) : w'.schema = w.schema := by
  obtain ⟨⟨found, ids⟩, _, h⟩ := map_eq_ok_iff.mp h
  cases h
  rfl

theorem schema_delete {id : Uuid} {w w' : Workspace} (h : w.delete id = .ok w') :
    w'.schema = w.schema := by
  obtain ⟨store, _, h⟩ := map_eq_ok_iff.mp h
  cases h
  rfl

end Workspace
end Audience
