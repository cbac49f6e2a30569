import Audience.Settings.Layer

/-!
# Settings from the environment

A variable whose name starts with a fixed stem is a setting.  The rest of its name, in lower
case, is the key, with two underscores between the words of a path.

**Guessing.**  The text of a variable is taken as a boolean, an integer or a number, in this
order; any other text is a list of texts between commas, so a word alone is a list of one.
-/

namespace Audience
namespace Environment

open Text

/-- What the names of variables start with, in lower case. -/
def stem : String := "campaign_express__"

/-- Replaces two underscores by a dot, from the left. -/
def joinWords : List Char → List Char
  | [] => []
  | '_' :: '_' :: rest => '.' :: joinWords rest
  | c :: rest => c :: joinWords rest

/-- The key of a variable, if it is a setting. -/
def key? (name : String) : Option String :=
  let lower := lowercase name.toList
  if stem.toList.isPrefixOf lower then
    some (String.ofList (joinWords (lower.drop stem.length)))
  else none

/-- The value that a text is taken as. -/
def guess (s : String) : Setting :=
  let word := String.ofList (lowercase s.toList)
  if word = "true" then .boolean true
  else if word = "false" then .boolean false
  else
    match Entered.readSigned64 s.toList, Entered.readReal s.toList with
    | some i, _ => .integer i
    | none, some x => .real x
    | none, none => .list ((s.toList.splitOn ',').map fun cs => .text (String.ofList cs))

/-- The settings among variables. -/
def layer (bindings : List (String × String)) : Layer.Members :=
  bindings.filterMap fun (name, s) => (key? name).map fun key => (key, guess s)

end Environment
end Audience
