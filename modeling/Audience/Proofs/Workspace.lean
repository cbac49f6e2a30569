import Audience.Workspace
import Audience.Proofs.Population
import Audience.Proofs.Segment.Drawing
import Audience.Proofs.Segment.RoundTrip

/-!
# The audience of a saved segment

A saved segment is loaded anew each time it is asked about, so two questions are answered
from two loads that draw different identifiers.  As long as the live schema and the saved
document stay as they are, the answers agree: the audience of a list are the customers of
the list who are in the segment when they are asked about one by one.

**Results.**
* `Workspace.readable_save`: a segment that was just saved can be read.
* `Workspace.load_of_readable`, `Workspace.load_of_not_readable`: what loading gives.
* `Workspace.audience_agrees`: chunks, lists and single customers give the same audience.
-/

namespace Audience

namespace Workspace

/-- The document of the saved segment is there and can be read. -/
def Readable (id : Uuid) (w : Workspace) : Prop :=
  ∃ saved stored, w.store.find? id = some saved ∧
    StoredSegment.parse? saved.payload = some stored

/-- The workspaces agree on the live schema and on what is kept of a saved segment. -/
structure SameAt (id : Uuid) (w w' : Workspace) : Prop where
  schema : w'.schema = w.schema
  saved : w'.store.find? id = w.store.find? id

variable {id : Uuid} {w w' : Workspace}

/-- A segment that was just saved can be read. -/
theorem readable_save
    {s : Segment} (h : s.stored.Kept) (name description : String) (w : Workspace) :
    (w.save name description s).2.Readable (w.save name description s).1 :=
  ⟨_, s.stored, Store.find?_save_self _ _ _ _ _ _, StoredSegment.parse?_text h⟩

theorem store_load_eq
    (h : w.SameAt id w') :
    w'.load id = (w.store.load w.schema id w'.ids).map
      fun (segment, ids) => (segment, { w' with ids := ids }) := by
  rw [load, Store.load, Store.load, h.schema, h.saved]

/-- A readable segment is loaded, with whatever identifiers are drawn, and stays as it is. -/
theorem load_of_readable
    (h : w.Readable id) :
    ∃ stored : StoredSegment, ∀ w', w.SameAt id w' →
      ∃ segment rest, w'.load id = .ok (segment, rest) ∧ w.SameAt id rest ∧
        segment.loaded = (stored.load w.schema w'.ids).1 := by
  obtain ⟨saved, stored, hfind, hparse⟩ := h
  refine ⟨stored, ?_⟩
  intro w' hsame
  have hload : w.store.load w.schema id w'.ids =
      .ok (⟨saved.id, saved.name, saved.description, saved.createdAt,
          (stored.load w.schema w'.ids).1⟩,
        (stored.load w.schema w'.ids).2) := by
    simp only [Store.load, hfind, Segment.ofText, hparse]
    rfl
  rw [store_load_eq hsame, hload]
  exact ⟨_, _, rfl, ⟨hsame.schema, hsame.saved⟩, rfl⟩

/-- Any other one is refused with the same error each time. -/
theorem load_of_not_readable
    (h : ¬ w.Readable id) :
    ∃ e, ∀ w', w.SameAt id w' → w'.load id = .error e := by
  cases hfind : w.store.find? id with
  | none =>
      refine ⟨.segmentNotFound id, ?_⟩
      intro w' hsame
      rw [store_load_eq hsame, Store.load, hfind]
      rfl
  | some saved =>
      cases hparse : StoredSegment.parse? saved.payload with
      | none =>
          refine ⟨.unreadable, ?_⟩
          intro w' hsame
          simp only [store_load_eq hsame, Store.load, hfind, Segment.ofText, hparse]
          rfl
      | some stored =>
          exact absurd ⟨saved, stored, hfind, hparse⟩ h

theorem admits_of_load
    {segment : LoadedSegment} (h : w.load id = .ok (segment, w')) (customer : Customer) :
    w.admits id customer = .ok (segment.loaded.segment.admits customer, w') := by
  rw [admits, h]
  rfl

theorem audience_of_load
    {segment : LoadedSegment} (h : w.load id = .ok (segment, w')) (customers : List Customer) :
    w.audience id customers = .ok (Population.of segment.loaded.segment customers, w') := by
  rw [audience, h, ← Population.ofChunks_eq_of]
  rfl

/-- All ways to ask who is in a segment agree.  Chunks of any size count a list as one pass
over it does.  A saved segment that can be read admits the same customers in every workspace
with its document and schema, and its audience is counted by the same test; one that cannot
be read is refused everywhere with the same error. -/
theorem audience_agrees
    (id : Uuid) (w : Workspace) :
    (∀ (s : Segment) (customers : List Customer) (size : Nat),
      Population.ofChunks s customers size = Population.of s customers ∧
        (Population.of s customers).Counts s.admits customers) ∧
    (∀ (s : Segment) (name description : String), s.stored.Kept →
      (w.save name description s).2.Readable (w.save name description s).1) ∧
    (w.Readable id → ∃ member : Customer → Bool, ∀ w', w.SameAt id w' →
      (∀ customer, ∃ rest, w'.admits id customer = .ok (member customer, rest) ∧
        w.SameAt id rest) ∧
      (∀ customers, ∃ p rest, w'.audience id customers = .ok (p, rest) ∧
        w.SameAt id rest ∧ p.Counts member customers)) ∧
    (¬ w.Readable id → ∃ e, ∀ w', w.SameAt id w' →
      (∀ customer, w'.admits id customer = .error e) ∧
      (∀ customers, w'.audience id customers = .error e)) := by
  refine ⟨?_, ?_, ?_, ?_⟩
  · intro s customers size
    exact ⟨Population.ofChunks_eq_of s customers size, Population.counts_of s customers⟩
  · intro s name description hkept
    exact readable_save hkept name description w
  · intro hreadable
    obtain ⟨stored, hstored⟩ := load_of_readable hreadable
    refine ⟨(stored.load w.schema w.ids).1.segment.admits, ?_⟩
    intro w' hsame
    obtain ⟨segment, rest, hload, hrest, hloaded⟩ := hstored w' hsame
    -- The load may have drawn other identifiers, which no customer can tell.
    have hadmits : segment.loaded.segment.admits =
        (stored.load w.schema w.ids).1.segment.admits := by
      funext customer
      rw [hloaded]
      exact stored.admits_load_eq w.schema w'.ids w.ids customer
    rw [← hadmits]
    constructor
    · intro customer
      exact ⟨rest, admits_of_load hload customer, hrest⟩
    · intro customers
      exact ⟨_, rest, audience_of_load hload customers, hrest, Population.counts_of _ _⟩
  · intro hreadable
    obtain ⟨e, he⟩ := load_of_not_readable hreadable
    refine ⟨e, ?_⟩
    intro w' hsame
    have hload := he w' hsame
    constructor
    · intro customer
      rw [admits, hload]
      rfl
    · intro customers
      rw [audience, hload]
      rfl

/-- A workspace without saved segments, under a schema of one field of texts. -/
def forTexts : Workspace :=
  start Settings.standard (Schema.single "x" .text) (IdSource.seeded 0)

/-- The workspace in which a segment of one condition was saved, with any supply of
identifiers. -/
def savedText (ids : IdSource) : Workspace :=
  { (forTexts.save "x" "" Segment.comparingText).2 with ids := ids }

theorem audience_agrees_comparingText :
    Segment.comparingText.stored.Kept ∧
      (forTexts.save "x" "" Segment.comparingText).2.Readable
        (forTexts.save "x" "" Segment.comparingText).1 ∧
      ∃ member : Customer → Bool, ∀ ids,
        (∀ customer, ∃ rest,
          (savedText ids).admits (forTexts.save "x" "" Segment.comparingText).1 customer =
            .ok (member customer, rest)) ∧
        (∀ customers, ∃ p rest,
          (savedText ids).audience (forTexts.save "x" "" Segment.comparingText).1 customers =
            .ok (p, rest) ∧
          p.Counts member customers) := by
  have hkept : Segment.comparingText.stored.Kept :=
    Segment.composed_comparingText.clean.kept_stored
  obtain ⟨_, hsave, _⟩ := audience_agrees default forTexts
  have hreadable := hsave Segment.comparingText "x" "" hkept
  obtain ⟨_, _, hagree, _⟩ := audience_agrees (forTexts.save "x" "" Segment.comparingText).1
    (forTexts.save "x" "" Segment.comparingText).2
  obtain ⟨member, hmember⟩ := hagree hreadable
  refine ⟨hkept, hreadable, member, ?_⟩
  intro ids
  obtain ⟨hadmits, haudience⟩ := hmember (savedText ids) ⟨rfl, rfl⟩
  constructor
  · intro customer
    obtain ⟨rest, hrest, _⟩ := hadmits customer
    exact ⟨rest, hrest⟩
  · intro customers
    obtain ⟨p, rest, hp, _, hcounts⟩ := haudience customers
    exact ⟨p, rest, hp, hcounts⟩

end Workspace

end Audience
