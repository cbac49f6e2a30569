import Audience.Proofs.Settings.Reading
import Audience.Proofs.Settings.Variables

/-!
# Which source decides a setting

A setting has the value that the environment gives, else the one of the file, else the standard
one, and the four settings do not depend on each other.  But the environment does not give every
value as it is written there.

**Texts.**  A text of the environment that is neither a boolean nor a number is a list, which no
setting can be, so loading fails.  Any other text becomes that of the boolean or the number: `007`
becomes `7`, and `TRUE` becomes `true`.

**Whole numbers.**  A whole number from 2^63 on is rounded to a double.

**Results.**
* `Settings.environmentGives_namedPlaces`: what the environment gives by its variables.
* `Settings.exists_load_iff`: when loading succeeds.
* `Settings.load_layered`: what loading gives, and when it gives what the sources say.
* `Settings.not_load_layered`: a word in the environment is not what the setting becomes.
-/

namespace Audience

open Layer

namespace Settings

/-- The settings that a source gives. -/
@[ext]
structure Given where
  nodeId : Option String
  schemaPath : Option String
  previewChunkSize : Option Nat
  historyDepth : Option Nat

namespace Given

/-- The settings that two sources give, the upper one taking precedence. -/
def or (upper lower : Given) : Given where
  nodeId := upper.nodeId.or lower.nodeId
  schemaPath := upper.schemaPath.or lower.schemaPath
  previewChunkSize := upper.previewChunkSize.or lower.previewChunkSize
  historyDepth := upper.historyDepth.or lower.historyDepth

/-- All settings, with the standard ones where nothing is given. -/
def settings (given : Given) : Settings where
  nodeId := given.nodeId.getD standard.nodeId
  schemaPath := (given.schemaPath.map some).getD standard.schemaPath
  previewChunkSize := given.previewChunkSize.getD standard.previewChunkSize
  historyDepth := given.historyDepth.getD standard.historyDepth

theorem settings_eq_iff {given : Given} {s : Settings} :
    given.settings = s ↔
      given.nodeId.getD standard.nodeId = s.nodeId ∧
      (given.schemaPath.map some).getD standard.schemaPath = s.schemaPath ∧
      given.previewChunkSize.getD standard.previewChunkSize = s.previewChunkSize ∧
      given.historyDepth.getD standard.historyDepth = s.historyDepth := by
  cases s
  simp only [settings, Settings.mk.injEq]

/-- What the environment makes of the settings that are given there. -/
@[mk_iff]
structure TakenAs (given taken : Given) : Prop where
  nodeId :
    given.nodeId.map (fun s => (Environment.guess s).text?) = taken.nodeId.map some
  schemaPath :
    given.schemaPath.map (fun s => (Environment.guess s).text?) = taken.schemaPath.map some
  previewChunkSize :
    given.previewChunkSize.map Environment.wholeTaken = taken.previewChunkSize
  historyDepth :
    given.historyDepth.map Environment.wholeTaken = taken.historyDepth

/-- All settings that are given come through the environment as they are. -/
@[mk_iff]
structure Kept (given : Given) : Prop where
  nodeId :
    ∀ s ∈ given.nodeId, (Environment.guess s).text? = some s
  schemaPath :
    ∀ s ∈ given.schemaPath, (Environment.guess s).text? = some s
  previewChunkSize :
    ∀ n ∈ given.previewChunkSize, n < 2 ^ 63 ∨ 2048 ∣ n ∨ n = 2 ^ 64 - 1
  historyDepth :
    ∀ n ∈ given.historyDepth, n < 2 ^ 63 ∨ 2048 ∣ n ∨ n = 2 ^ 64 - 1

section Taken

variable {given taken lower : Given}

theorem eq_of_getD_or
    {α : Type} {value above below : Option α} {standard : α}
    (hsome : value.isSome = above.isSome)
    (h : (value.or below).getD standard = (above.or below).getD standard) :
    value = above := by
  cases value with
  | none =>
      exact (Option.isNone_iff_eq_none.mp (by simpa using hsome)).symm
  | some a =>
      obtain ⟨b, rfl⟩ := Option.isSome_iff_exists.mp hsome.symm
      exact congrArg some h

/-- If what the environment makes of its settings amounts to the same settings, it is the same. -/
theorem TakenAs.eq_of_settings_eq
    (h : given.TakenAs taken) (hsame : (taken.or lower).settings = (given.or lower).settings) :
    taken = given := by
  obtain ⟨hnode, hschema, hchunk, hdepth⟩ := settings_eq_iff.mp hsame
  have hnodeSome := congrArg Option.isSome h.nodeId
  have hschemaSome := congrArg Option.isSome h.schemaPath
  have hchunkSome := congrArg Option.isSome h.previewChunkSize
  have hdepthSome := congrArg Option.isSome h.historyDepth
  rw [Option.isSome_map, Option.isSome_map] at hnodeSome hschemaSome
  rw [Option.isSome_map] at hchunkSome hdepthSome
  have hpath : ∀ value : Option String, (value.map some).getD standard.schemaPath = value := by
    rintro (_ | _) <;> rfl
  have hschemaPath : taken.schemaPath.or lower.schemaPath =
      given.schemaPath.or lower.schemaPath := by
    rw [← hpath (taken.schemaPath.or lower.schemaPath), ← hpath (given.schemaPath.or _)]
    exact hschema
  exact Given.ext (eq_of_getD_or hnodeSome.symm hnode)
    (eq_of_getD_or hschemaSome.symm (congrArg (Option.getD · "") hschemaPath))
    (eq_of_getD_or hchunkSome.symm hchunk) (eq_of_getD_or hdepthSome.symm hdepth)

theorem map_eq_map_some_iff
    {α : Type} {part : α → Option α} {value : Option α} :
    value.map part = value.map some ↔ ∀ a ∈ value, part a = some a := by
  cases value <;> simp

theorem map_wholeTaken_eq_iff
    {value : Option Nat} (h : ∀ n ∈ value, n < 2 ^ 64) :
    value.map Environment.wholeTaken = value ↔
      ∀ n ∈ value, n < 2 ^ 63 ∨ 2048 ∣ n ∨ n = 2 ^ 64 - 1 := by
  cases value with
  | none =>
      simp
  | some n =>
      simp only [Option.map_some, Option.some.injEq, Option.mem_some, forall_eq']
      exact Environment.wholeTaken_eq_iff (h n rfl)

/-- What the environment makes of its settings is the same exactly if each of them is kept. -/
theorem takenAs_self_iff
    (hchunk : ∀ n ∈ given.previewChunkSize, n < 2 ^ 64)
    (hdepth : ∀ n ∈ given.historyDepth, n < 2 ^ 64) :
    given.TakenAs given ↔ given.Kept := by
  rw [takenAs_iff, kept_iff, map_eq_map_some_iff, map_eq_map_some_iff,
    map_wholeTaken_eq_iff hchunk, map_wholeTaken_eq_iff hdepth]

theorem exists_map_eq_map_some_iff
    {α β : Type} {part : α → Option β} {value : Option α} :
    (∃ taken : Option β, value.map part = taken.map some) ↔ ∀ a ∈ value, (part a).isSome := by
  cases value with
  | none =>
      simp
  | some a =>
      cases hpart : part a <;> simp [hpart]

/-- The environment makes something of its settings exactly if the texts among them are booleans
or numbers. -/
theorem exists_takenAs_iff :
    (∃ taken, given.TakenAs taken) ↔
      (∀ s ∈ given.nodeId, Environment.IsPlain s) ∧
        ∀ s ∈ given.schemaPath, Environment.IsPlain s := by
  simp only [← Environment.isSome_text?_guess_iff]
  rw [← exists_map_eq_map_some_iff, ← exists_map_eq_map_some_iff]
  constructor
  · rintro ⟨taken, htaken⟩
    exact ⟨⟨_, htaken.nodeId⟩, _, htaken.schemaPath⟩
  · rintro ⟨⟨nodeId, hnode⟩, schemaPath, hschema⟩
    exact ⟨⟨nodeId, schemaPath, _, _⟩, hnode, hschema, rfl, rfl⟩

end Taken

end Given

/-- The settings that are given in a file, each as a text or as an integer. -/
structure FileGives (members : Members) (given : Given) : Prop where
  nodeId :
    SourceSays ["node_id"] members (given.nodeId.map .text)
  schemaPath :
    SourceSays ["segmentation", "schema_path"] members (given.schemaPath.map .text)
  previewChunkSize :
    SourceSays ["segmentation", "preview_chunk_size"] members
      (given.previewChunkSize.map fun n : Nat => .integer n)
  historyDepth :
    SourceSays ["segmentation", "history_depth"] members
      (given.historyDepth.map fun n : Nat => .integer n)
  previewChunkSize_lt :
    ∀ n ∈ given.previewChunkSize, n < Setting.naturalLimit
  historyDepth_lt :
    ∀ n ∈ given.historyDepth, n < Setting.naturalLimit

/-- The settings that are given by variables. -/
structure EnvironmentGives (bindings : List (String × String)) (given : Given) : Prop where
  nodeId :
    GivesText bindings ["node_id"] given.nodeId
  schemaPath :
    GivesText bindings ["segmentation", "schema_path"] given.schemaPath
  previewChunkSize :
    GivesWhole bindings ["segmentation", "preview_chunk_size"] given.previewChunkSize
  historyDepth :
    GivesWhole bindings ["segmentation", "history_depth"] given.historyDepth

/-- What variables with different names give for all settings. -/
theorem environmentGives_namedPlaces
    {bindings : List (String × String)} {given : Given}
    (hnames : ∀ b ∈ bindings, b.1 ∈ namedPlaces.map Prod.fst)
    (hnodup : (bindings.map Prod.fst).Nodup)
    (hnode : Keyed.find? "CAMPAIGN_EXPRESS__NODE_ID" bindings = given.nodeId)
    (hschema : Keyed.find? "CAMPAIGN_EXPRESS__SEGMENTATION__SCHEMA_PATH" bindings =
      given.schemaPath)
    (hchunk : (Keyed.find? "CAMPAIGN_EXPRESS__SEGMENTATION__PREVIEW_CHUNK_SIZE" bindings).map
      (fun s => Entered.readUnsigned64 s.toList) = given.previewChunkSize.map some)
    (hdepth : (Keyed.find? "CAMPAIGN_EXPRESS__SEGMENTATION__HISTORY_DEPTH" bindings).map
      (fun s => Entered.readUnsigned64 s.toList) = given.historyDepth.map some) :
    EnvironmentGives bindings given := by
  have hgives : ∀ v ∈ namedPlaces, GivesText bindings v.2 (Keyed.find? v.1 bindings) := fun v hv =>
    givesText_namedPlaces hnames hnodup hv
  exact
    { nodeId := hnode ▸ hgives _ (.head _)
      schemaPath := hschema ▸ hgives _ (.tail _ (.head _))
      previewChunkSize := ⟨_, hgives _ (.tail _ (.tail _ (.head _))), hchunk⟩
      historyDepth := ⟨_, hgives _ (.tail _ (.tail _ (.tail _ (.head _)))), hdepth⟩ }

section Values

/-- A setting that is a text: that of the environment as it is taken, else that of the file, else
the standard one. -/
theorem elim_text_eq_some_iff
    {α : Type} {read : Setting → Option α} {whole : String → α}
    (hguess : ∀ s, read (Environment.guess s) = (Environment.guess s).text?.map whole)
    (htext : ∀ s, read (.text s) = some (whole s)) {above below : Option String}
    {standard x : α} :
    ((above.map Environment.guess).or (below.map .text)).elim (some standard) read = some x ↔
      ∃ value : Option String,
        above.map (fun s => (Environment.guess s).text?) = value.map some ∧
          ((value.or below).map whole).getD standard = x := by
  cases above with
  | none =>
      cases below <;> simp [htext]
  | some s =>
      cases htaken : (Environment.guess s).text? <;> simp [hguess, htaken]

/-- A setting that is a number, likewise. -/
theorem elim_whole_eq_some_iff
    {text : Option String} {above below : Option Nat}
    (hwhole : text.map (fun s => Entered.readUnsigned64 s.toList) = above.map some)
    (hbelow : ∀ n ∈ below, n < Setting.naturalLimit) {standard x : Nat} :
    ((text.map Environment.guess).or (below.map fun n : Nat => .integer n)).elim (some standard)
        Setting.natural? = some x ↔
      ((above.map Environment.wholeTaken).or below).getD standard = x := by
  cases above with
  | none =>
      rw [Option.map_none, Option.map_eq_none_iff] at hwhole
      subst hwhole
      cases below with
      | none =>
          simp
      | some n =>
          rw [Option.map_none, Option.none_or, Option.map_some, Option.elim_some,
            Setting.natural?_ofNat (hbelow n rfl), Option.some.injEq, Option.map_none,
            Option.none_or, Option.getD_some]
  | some n =>
      obtain ⟨s, rfl, hread⟩ := Option.map_eq_some_iff.mp hwhole
      rw [Option.map_some, Option.some_or, Option.elim_some, Environment.natural?_guess hread,
        Option.some.injEq, Option.map_some, Option.some_or, Option.getD_some]

theorem optionalText?_guess (s : String) :
    optionalText? (Environment.guess s) = (Environment.guess s).text?.map some := by
  have hsomething : Environment.guess s ≠ .nothing := by
    unfold Environment.guess
    grind
  cases hguess : Environment.guess s with
  | nothing => exact absurd hguess hsomething
  | boolean | integer | real | text | list | table => rfl

end Values

section Loading

variable {readFile : String → Except FileFault String} {path : Option String}
  {members : Members} {bindings : List (String × String)} {environment file : Given}

/-- The settings that are read from the file under the environment are those that the environment
makes of its texts, over those of the file. -/
theorem readFrom_lay_iff
    (hfile : FileGives members file) (henv : EnvironmentGives bindings environment)
    {s : Settings} :
    ReadFrom (lay (Environment.layer bindings) (lay members [])) s ↔
      ∃ taken, environment.TakenAs taken ∧ (taken.or file).settings = s := by
  obtain ⟨chunkText, hchunkSays, hchunk⟩ := henv.previewChunkSize
  obtain ⟨depthText, hdepthSays, hdepth⟩ := henv.historyDepth
  rw [readFrom_iff, look_lay_lay henv.nodeId hfile.nodeId,
    look_lay_lay henv.schemaPath hfile.schemaPath,
    look_lay_lay hchunkSays hfile.previewChunkSize,
    look_lay_lay hdepthSays hfile.historyDepth,
    elim_text_eq_some_iff (fun s => Option.map_id'.symm) (fun s => rfl),
    elim_text_eq_some_iff optionalText?_guess (fun s => rfl),
    elim_whole_eq_some_iff hchunk hfile.previewChunkSize_lt,
    elim_whole_eq_some_iff hdepth hfile.historyDepth_lt]
  simp only [Option.map_id']
  constructor
  · rintro ⟨⟨nodeId, hnodeTaken, hnode⟩, ⟨schemaPath, hschemaTaken, hschema⟩, hchunk, hdepth⟩
    exact ⟨⟨nodeId, schemaPath, _, _⟩, ⟨hnodeTaken, hschemaTaken, rfl, rfl⟩,
      Given.settings_eq_iff.mpr ⟨hnode, hschema, hchunk, hdepth⟩⟩
  · rintro ⟨taken, ⟨hnode, hschema, hchunk, hdepth⟩, rfl⟩
    rw [hchunk, hdepth]
    exact ⟨⟨_, hnode, rfl⟩, ⟨_, hschema, rfl⟩, rfl, rfl⟩

/-- Loading succeeds with the settings that the environment makes of its texts, over those of the
file. -/
theorem load_eq_ok_iff
    (hholds : FileHolds readFile path members) (hfile : FileGives members file)
    (henv : EnvironmentGives bindings environment) {s : Settings} :
    Id.run (load readFile path bindings) = .ok s ↔
      ∃ taken, environment.TakenAs taken ∧ (taken.or file).settings = s := by
  have hlayer := fileLayer_of_holds hholds
  have hload : Id.run (load readFile path bindings) =
      ofMembers (lay (Environment.layer bindings) (lay members [])) := by
    rw [load]
    simp only [Id.run_bind, hlayer]
    rfl
  have hopen := (updates_lay_lay henv.schemaPath hfile.schemaPath).isOpen
  rw [hload, ofMembers_eq_ok_iff fun v hv => (hopen v hv).1, readFrom_lay_iff hfile henv]

/-- Loading succeeds exactly if the environment gives only booleans and numbers as texts. -/
theorem exists_load_iff
    (hholds : FileHolds readFile path members) (hfile : FileGives members file)
    (henv : EnvironmentGives bindings environment) :
    (∃ s, Id.run (load readFile path bindings) = .ok s) ↔
      (∀ s ∈ environment.nodeId, Environment.IsPlain s) ∧
        ∀ s ∈ environment.schemaPath, Environment.IsPlain s := by
  simp only [← Given.exists_takenAs_iff, load_eq_ok_iff hholds hfile henv]
  constructor
  · rintro ⟨_, taken, htaken, -⟩
    exact ⟨taken, htaken⟩
  · rintro ⟨taken, htaken⟩
    exact ⟨_, taken, htaken, rfl⟩

/-- Loading succeeds exactly with the settings that the environment makes of its texts, over those
of the file, and these are the ones that are given exactly if the environment keeps its texts. -/
theorem load_layered
    (hholds : FileHolds readFile path members) (hfile : FileGives members file)
    (henv : EnvironmentGives bindings environment) :
    (∀ s, Id.run (load readFile path bindings) = .ok s ↔
      ∃ taken, environment.TakenAs taken ∧ (taken.or file).settings = s) ∧
    (Id.run (load readFile path bindings) = .ok (environment.or file).settings ↔
      environment.Kept) := by
  have hload : ∀ s, Id.run (load readFile path bindings) = .ok s ↔
      ∃ taken, environment.TakenAs taken ∧ (taken.or file).settings = s := fun s =>
    load_eq_ok_iff hholds hfile henv
  refine ⟨hload, ?_⟩
  rw [hload, ← Given.takenAs_self_iff henv.previewChunkSize.lt henv.historyDepth.lt]
  constructor
  · rintro ⟨taken, htaken, hsame⟩
    rwa [htaken.eq_of_settings_eq hsame] at htaken
  · intro htaken
    exact ⟨environment, htaken, rfl⟩

end Loading

section Sample

/-- A file with a name and a size. -/
def sampleText : String := "node_id = \"node-07\"\n[segmentation]\npreview_chunk_size = 256\n"

/-- What the file holds. -/
def sampleMembers : Members :=
  [("node_id", .text "node-07"), ("segmentation", .table [("preview_chunk_size", .integer 256)])]

/-- Variables with another name and a depth, which is beyond the integers with a sign. -/
def sampleBindings : List (String × String) :=
  [("CAMPAIGN_EXPRESS__SEGMENTATION__HISTORY_DEPTH", "9223372036854777856"),
    ("CAMPAIGN_EXPRESS__NODE_ID", "7")]

theorem fileHolds_sample :
    FileHolds (fun _ => .ok sampleText) (some "settings.toml") sampleMembers := by
  have hfirst : candidates "settings.toml" = [] ++ ("settings.toml", "toml") ::
      (candidates "settings.toml").drop 1 := by
    decide +kernel
  exact .toml hfirst nofun rfl (by decide +kernel)

theorem fileGives_sample :
    FileGives sampleMembers ⟨some "node-07", none, some 256, none⟩ := by
  have hnode : pathOf "node_id" = ["node_id"].map .key :=
    pathOf_of_isSmall (by decide +kernel) (by decide +kernel)
  have hsegmentation : pathOf "segmentation" = ["segmentation"].map .key :=
    pathOf_of_isSmall (by decide +kernel) (by decide +kernel)
  have hsize : lowerKey "preview_chunk_size" = "preview_chunk_size" :=
    lowerKey_of_isSmall (by decide +kernel)
  -- The name is said at its own place only, and the table says a size only.
  have hname : SaysAt (.text "node-07") (pathOf "node_id") ["node_id"]
      (some (.text "node-07")) := by
    rw [hnode]
    exact .last (.leaf nofun)
  have hnoName : ∀ place,
      SaysAt (.text "node-07") (pathOf "node_id") ("segmentation" :: place) none := fun _ => by
    rw [hnode]
    exact .aside (by decide)
  have htable : ∀ place said, Says (.table [("preview_chunk_size", .integer 256)]) place said →
      SaysAt (.table [("preview_chunk_size", .integer 256)]) (pathOf "segmentation")
        ("segmentation" :: place) said := fun _ _ hsaid => by
    rw [hsegmentation]
    exact .last hsaid
  have hnoTable : SaysAt (.table [("preview_chunk_size", .integer 256)]) (pathOf "segmentation")
      ["node_id"] none := by
    rw [hsegmentation]
    exact .aside (by decide)
  have hpresent : Says (.table ([] ++ ("preview_chunk_size", .integer 256) :: []))
      ["preview_chunk_size"] (some (.integer 256)) :=
    .member hsize nofun (.leaf nofun)
  have habsent : ∀ word, "preview_chunk_size" ≠ word →
      Says (.table [("preview_chunk_size", .integer 256)]) [word] none := fun _ hne =>
    .absent (List.forall_mem_singleton.mpr (hsize ▸ hne))
  exact
    { nodeId := .speaks hname (.silent hnoTable .nil)
      schemaPath := .silent (hnoName _) (.silent (htable _ _ (habsent _ (by decide))) .nil)
      previewChunkSize := .silent (hnoName _) (.speaks (htable _ _ hpresent) .nil)
      historyDepth := .silent (hnoName _) (.silent (htable _ _ (habsent _ (by decide))) .nil)
      previewChunkSize_lt := by decide
      historyDepth_lt := nofun }

theorem environmentGives_sample :
    EnvironmentGives sampleBindings ⟨some "7", none, none, some (2 ^ 63 + 2048)⟩ :=
  environmentGives_namedPlaces (by decide +kernel) (by decide +kernel) (by decide +kernel)
    (by decide +kernel) (by decide +kernel) (by decide +kernel)

theorem load_layered_sample :
    FileHolds (fun _ => .ok sampleText) (some "settings.toml") sampleMembers ∧
    FileGives sampleMembers ⟨some "node-07", none, some 256, none⟩ ∧
    EnvironmentGives sampleBindings ⟨some "7", none, none, some (2 ^ 63 + 2048)⟩ ∧
    Id.run (load (fun _ => .ok sampleText) (some "settings.toml") sampleBindings) =
      .ok ⟨"7", none, 256, 2 ^ 63 + 2048⟩ := by
  have hkept : Given.Kept ⟨some "7", none, none, some (2 ^ 63 + 2048)⟩ :=
    { nodeId := by
        rintro _ ⟨⟩
        decide +kernel
      schemaPath := nofun
      previewChunkSize := nofun
      historyDepth := by
        rintro _ ⟨⟩
        decide }
  exact ⟨fileHolds_sample, fileGives_sample, environmentGives_sample,
    (load_layered fileHolds_sample fileGives_sample environmentGives_sample).2.mpr hkept⟩

end Sample

/-- A word in the environment is a list of one text there, so it cannot be a setting that is a
text. -/
theorem not_load_layered :
    ¬ ∀ (readFile : String → Except FileFault String) (path : Option String) (members : Members)
        (bindings : List (String × String)) (environment file : Given),
      FileHolds readFile path members → FileGives members file →
      EnvironmentGives bindings environment →
      Id.run (load readFile path bindings) = .ok (environment.or file).settings := by
  intro h
  have hfile : FileGives [] ⟨none, none, none, none⟩ :=
    { nodeId := .nil
      schemaPath := .nil
      previewChunkSize := .nil
      historyDepth := .nil
      previewChunkSize_lt := nofun
      historyDepth_lt := nofun }
  have henv : EnvironmentGives [("CAMPAIGN_EXPRESS__NODE_ID", "node-07")]
      ⟨some "node-07", none, none, none⟩ :=
    environmentGives_namedPlaces (by decide +kernel) (by decide +kernel) (by decide +kernel)
      (by decide +kernel) (by decide +kernel) (by decide +kernel)
  have hload := h (fun _ => .error .missing) none [] _ _ _ .unnamed hfile henv
  have hunfit : Id.run (load (fun _ => .error .missing) none
      [("CAMPAIGN_EXPRESS__NODE_ID", "node-07")]) = .error (.unfit "node_id") := by
    decide +kernel
  rw [hunfit] at hload
  cases hload

end Settings
end Audience
