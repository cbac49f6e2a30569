import Audience.Error
import Audience.Proofs.Settings.Layers
import Audience.Settings.Source
import Mathlib.Tactic.MkIffOfInductiveProp

/-!
# How settings are read

The layer of an optional file is that of the first file that is there, and the settings of a layer
are read at their places, each by itself.

**Results.**
* `Settings.fileLayer_of_holds`: the layer of an optional file in TOML.
* `Settings.ofMembers_eq_ok_iff`: the settings of a layer, place by place.
-/

namespace Audience

open Layer

namespace Settings

/-- What an optional file holds: the settings of a document in TOML, or none if it is not named or
not there. -/
inductive FileHolds (readFile : String → Except FileFault String) :
    Option String → Members → Prop
  | unnamed :
      FileHolds readFile none []
  | missing {path : String} :
      (∀ c ∈ candidates path, ∃ e, readFile c.1 = .error e) →
      FileHolds readFile (some path) []
  | toml {path name text : String} {front back : List (String × String)} {members : Members} :
      candidates path = front ++ (name, "toml") :: back →
      (∀ c ∈ front, ∃ e, readFile c.1 = .error e) →
      readFile name = .ok text →
      Setting.tomlMembers? text.toList = some members →
      FileHolds readFile (some path) members

section Files

variable {readFile : String → Except FileFault String}

theorem firstFile_append
    {front : List (String × String)} (h : ∀ c ∈ front, ∃ e, readFile c.1 = .error e)
    (back : List (String × String)) :
    Id.run (firstFile readFile (front ++ back)) = Id.run (firstFile readFile back) := by
  induction front with
  | nil =>
      rfl
  | cons c rest ih =>
      obtain ⟨⟨e, he⟩, hrest⟩ := List.forall_mem_cons.mp h
      have hstep : Id.run (firstFile readFile (c :: (rest ++ back))) =
          Id.run (firstFile readFile (rest ++ back)) := by
        rw [firstFile]
        simp only [he, Id.run_bind]
        rfl
      rw [List.cons_append, hstep, ih hrest]

theorem fileLayer_of_holds
    {path : Option String} {members : Members} (h : FileHolds readFile path members) :
    Id.run (fileLayer readFile path) = .ok members := by
  cases h with
  | unnamed =>
      rfl
  | @missing path hmissing =>
      have hnone := firstFile_append hmissing []
      rw [List.append_nil] at hnone
      exact hnone
  | @toml path name text front back members hplace hmissing hread hparse =>
      have hformat : ofText "toml" text = .ok members := by
        rw [ofText, FileFormat.ofExtension?_toml]
        simp only [FileFormat.read?, hparse]
      rw [fileLayer, hplace, firstFile_append hmissing, firstFile]
      simp only [hread, Id.run_bind]
      exact hformat

end Files

/-- All settings are read from what a layer has at their places. -/
@[mk_iff]
structure ReadFrom (members : Members) (s : Settings) : Prop where
  nodeId :
    (look ["node_id"] (.table members)).elim (some standard.nodeId) Setting.text? =
      some s.nodeId
  schemaPath :
    (look ["segmentation", "schema_path"] (.table members)).elim (some standard.schemaPath)
      optionalText? = some s.schemaPath
  previewChunkSize :
    (look ["segmentation", "preview_chunk_size"] (.table members)).elim
      (some standard.previewChunkSize) Setting.natural? = some s.previewChunkSize
  historyDepth :
    (look ["segmentation", "history_depth"] (.table members)).elim (some standard.historyDepth)
      Setting.natural? = some s.historyDepth

section Reading

theorem orStandard_eq_ok_iff
    {α : Type} {key : String} {read : Setting → Option α} {standard a : α}
    {slot : Option Setting} :
    orStandard key read standard slot = .ok a ↔ slot.elim (some standard) read = some a := by
  cases slot with
  | none =>
      simp [orStandard]
  | some v =>
      simp only [orStandard, Option.elim_some]
      cases read v <;> simp

theorem withSlots_eq_ok_iff
    {schemaPath chunkSize depth : Option Setting} {s t : Settings} :
    s.withSlots schemaPath chunkSize depth = .ok t ↔
      s.nodeId = t.nodeId ∧
      schemaPath.elim (some s.schemaPath) optionalText? = some t.schemaPath ∧
      chunkSize.elim (some s.previewChunkSize) Setting.natural? = some t.previewChunkSize ∧
      depth.elim (some s.historyDepth) Setting.natural? = some t.historyDepth := by
  simp only [withSlots, bind_eq_ok_iff, orStandard_eq_ok_iff]
  constructor
  · rintro ⟨_, hschema, _, hchunk, _, hdepth, ⟨⟩⟩
    exact ⟨rfl, hschema, hchunk, hdepth⟩
  · rintro ⟨hnode, hschema, hchunk, hdepth⟩
    refine ⟨_, hschema, _, hchunk, _, hdepth, ?_⟩
    rw [hnode]
    rfl

/-- A table, or nothing, in the place of the settings of previews and drafts is read by its
keys. -/
theorem withSegmentation_of_table
    {slot : Option Setting} (htable : ∀ v ∈ slot, ∃ members, v = .table members) (s : Settings) :
    s.withSegmentation slot =
      s.withSlots (slot.bind (look ["schema_path"])) (slot.bind (look ["preview_chunk_size"]))
        (slot.bind (look ["history_depth"])) := by
  cases slot with
  | none =>
      rfl
  | some v =>
      obtain ⟨members, rfl⟩ := htable v rfl
      simp only [withSegmentation, Option.bind_some, look_word]

theorem ofMembers_eq_ok_iff
    {members : Members}
    (htable : ∀ v ∈ Keyed.find? "segmentation" members, ∃ entries, v = .table entries)
    {s : Settings} :
    ofMembers members = .ok s ↔ ReadFrom members s := by
  have hnode := look_word "node_id" members
  simp only [ofMembers, bind_eq_ok_iff, withSegmentation_of_table htable, withSlots_eq_ok_iff,
    orStandard_eq_ok_iff]
  constructor
  · rintro ⟨_, hread, rfl, hschema, hchunk, hdepth⟩
    exact ⟨hnode ▸ hread, hschema, hchunk, hdepth⟩
  · rintro ⟨hread, hschema, hchunk, hdepth⟩
    exact ⟨_, hnode ▸ hread, rfl, hschema, hchunk, hdepth⟩

end Reading

end Settings
end Audience
