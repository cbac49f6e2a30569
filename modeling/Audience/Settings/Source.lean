import Audience.Files
import Audience.Settings
import Audience.Settings.Environment
import Audience.Settings.Format

/-!
# Where settings come from

Settings are the standard ones, under those of an optional file, under those of the
environment.

**Files.**  The end of a file's name says what format it has.  A file that is missing or has
another end gives no settings, and the path of a missing file may stand for one with such an
end.  A file that is there but not in its format is an error, and so is a value that does not
fit.

**Tables as lists.**  The settings of previews and drafts may be given as a list in order
instead of a table.
-/

namespace Audience

universe u

/-- Why settings cannot be used. -/
inductive SettingsError
  | malformedFile
  | unfit (key : String)
deriving DecidableEq

namespace Settings

/-- The value of a setting, or the standard one if nothing is said. -/
def orStandard {α : Type} (key : String) (read : Setting → Option α) (standard : α) :
    Option Setting → Except SettingsError α
  | none => .ok standard
  | some v =>
      match read v with
      | some a => .ok a
      | none => .error (.unfit key)

/-- An optional text. -/
def optionalText? : Setting → Option (Option String)
  | .nothing => some none
  | v => v.text?.map some

/-- Puts settings of previews and drafts in place. -/
def withSlots (schemaPath chunkSize depth : Option Setting) (s : Settings) :
    Except SettingsError Settings := do
  let schemaPath ← orStandard "schema_path" optionalText? s.schemaPath schemaPath
  let chunkSize ← orStandard "preview_chunk_size" Setting.natural? s.previewChunkSize chunkSize
  let depth ← orStandard "history_depth" Setting.natural? s.historyDepth depth
  return { s with
    schemaPath := schemaPath, previewChunkSize := chunkSize, historyDepth := depth }

/-- Puts the settings of previews and drafts in place, from a table or a list. -/
def withSegmentation (s : Settings) : Option Setting → Except SettingsError Settings
  | none => .ok s
  | some (.table members) =>
      s.withSlots (Keyed.find? "schema_path" members)
        (Keyed.find? "preview_chunk_size" members) (Keyed.find? "history_depth" members)
  | some (.list items) => s.withSlots items[0]? items[1]? items[2]?
  | some _ => .error (.unfit "segmentation")

/-- The settings of all layers together. -/
def ofMembers (members : Layer.Members) : Except SettingsError Settings := do
  let nodeId ← orStandard "node_id" Setting.text? standard.nodeId (Keyed.find? "node_id" members)
  { standard with nodeId := nodeId }.withSegmentation (Keyed.find? "segmentation" members)

/-- The end of a file's name after its last dot; a name that starts with its only dot has
none. -/
def extension (path : String) : String :=
  let name := (path.toList.reverse.takeWhile (· != '/')).reverse
  let ending := (name.reverse.takeWhile (· != '.')).reverse
  if ending.length + 1 < name.length then String.ofList ending else ""

/-- The settings of a text with the given end of its file's name. -/
def ofText (ending text : String) : Except SettingsError Layer.Members :=
  match FileFormat.ofExtension? ending with
  | none => .ok []
  | some format =>
      match format.read? text.toList with
      | some members => .ok members
      | none => .error .malformedFile

/-- Removes slashes in front, and single dots before them. -/
def dropSlashes : List Char → List Char
  | '/' :: rest => dropSlashes rest
  | '.' :: '/' :: rest => dropSlashes rest
  | rest => rest

/-- A path up to its last name, without slashes and single dots after it. -/
def trimPath (path : String) : String :=
  String.ofList (dropSlashes path.toList.reverse).reverse

/-- The files that a path may stand for, with the ends of their names. -/
def candidates (path : String) : List (String × String) :=
  (path, extension path) ::
    FileFormat.extensions.map fun (ending, _) => (trimPath path ++ "." ++ ending, ending)

variable {m : Type → Type u} [Monad m]

/-- The settings of the first file that is there. -/
def firstFile (readFile : String → m (Except FileFault String)) :
    List (String × String) → m (Except SettingsError Layer.Members)
  | [] => pure (.ok [])
  | (path, ending) :: rest => do
      match ← readFile path with
      | .ok text => return ofText ending text
      | .error _ => firstFile readFile rest

/-- The settings of an optional file. -/
def fileLayer (readFile : String → m (Except FileFault String)) :
    Option String → m (Except SettingsError Layer.Members)
  | none => pure (.ok [])
  | some path => firstFile readFile (candidates path)

/-- Loads settings from an optional file and the environment. -/
def load (readFile : String → m (Except FileFault String)) (path : Option String)
    (bindings : List (String × String)) : m (Except SettingsError Settings) := do
  match ← fileLayer readFile path with
  | .error e => return .error e
  | .ok file => return ofMembers (Layer.lay (Environment.layer bindings) (Layer.lay file []))

end Settings
end Audience
