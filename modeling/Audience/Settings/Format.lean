import Audience.Json.Reader
import Audience.Settings.Ini
import Audience.Settings.Json5
import Audience.Settings.Ron
import Audience.Settings.Toml
import Audience.Settings.Yaml.Reader

/-!
# Formats of settings files

A file of settings is in one of six formats, as the end of its name says.  Whatever the format
is, the file as a whole must be a table.

**Results.**
* `FileFormat.ofExtension?_toml`: an end and its format.
-/

namespace Audience

/-- A format of settings files. -/
inductive FileFormat
  | toml
  | json
  | yaml
  | ini
  | ron
  | json5
deriving DecidableEq

namespace FileFormat

/-- The ends of the names of files, with their formats. -/
def extensions : List (String × FileFormat) :=
  [("toml", toml), ("json", json), ("yaml", yaml), ("yml", yaml), ("ini", ini), ("ron", ron),
    ("json5", json5)]

/-- The format of the end of a name. -/
def ofExtension? (ending : String) : Option FileFormat := Keyed.find? ending extensions

theorem ofExtension?_toml : ofExtension? "toml" = some toml := by decide

/-- How deep a JSON file may be nested. -/
def jsonLevels : Nat := 127

/-- The settings of a text in JSON. -/
def jsonMembers? (cs : List Char) : Option Layer.Members :=
  match (Json.Document.parse? (String.ofList cs)).bind (Json.Document.keep? jsonLevels) with
  | some (.object members) => some (Setting.ofMembers members)
  | _ => none

/-- The settings of a text in a format. -/
def read? (format : FileFormat) (cs : List Char) : Option Layer.Members :=
  match format with
  | toml => Setting.tomlMembers? cs
  | json => jsonMembers? cs
  | yaml => Yaml.parse? cs
  | ini => Ini.parse? cs
  | ron => Ron.parse? cs
  | json5 => Json5.parse? cs

end FileFormat
end Audience
