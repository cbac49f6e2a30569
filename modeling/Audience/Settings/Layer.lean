import Audience.Keyed
import Audience.Settings.Path
import Audience.Settings.Value

/-!
# Layers of settings

Each source of settings gives values at keys, and the layers are laid over each other: what
a later layer says replaces what an earlier one said, except that tables are merged key by
key.  Keys are kept in lower case.

**Paths.**  A key of a source may be a path.  A value at a path goes into nested tables and
lists, and whatever stands in its way is replaced by an empty one.  A list is made longer for
an index beyond its ends.

**Results.**
* `Layer.find?_assign_text`: a text is found where it was put.
* `Layer.place_lt_length_room`: there is room for every index.
-/

namespace Audience

open Text

namespace Layer

/-- Values at keys. -/
abbrev Members := List (String × Setting)

/-- A key in lower case. -/
def lowerKey (key : String) : String := String.ofList (lowercase key.toList)

/-- The members of the table at a key; any other value counts as an empty table. -/
def innerTable (key : String) (members : Members) : Members :=
  ((Keyed.find? key members).getD .nothing).members

mutual

/-- Puts a value at a key.  A table is merged with the one that is there. -/
def assign (key : String) (v : Setting) (members : Members) : Members :=
  match v with
  | .table [] =>
      if (Keyed.find? key members).isSome then members
      else Keyed.insert key (.table []) members
  | .table (m :: rest) =>
      Keyed.insert key (.table (assignAll (m :: rest) (innerTable key members))) members
  | .nothing => Keyed.insert key .nothing members
  | .boolean b => Keyed.insert key (.boolean b) members
  | .integer i => Keyed.insert key (.integer i) members
  | .real x => Keyed.insert key (.real x) members
  | .text s => Keyed.insert key (.text s) members
  | .list items => Keyed.insert key (.list items) members

/-- Puts all values of a table at their keys. -/
def assignAll : List (String × Setting) → Members → Members
  | [], members => members
  | (key, v) :: rest, members => assignAll rest (assign (lowerKey key) v members)

end

theorem find?_assign_text (key : String) (s : String) (members : Members) :
    Keyed.find? key (assign key (.text s) members) = some (.text s) := by
  simp [assign]

/-- The items of a list with room for an index.  What is made for it holds nothing. -/
def room (index : Int) (items : List Setting) : List Setting :=
  if index < 0 then List.replicate (index.natAbs - items.length) .nothing ++ items
  else items ++ List.replicate (index.natAbs + 1 - items.length) .nothing

/-- The place of an index in a list of a length; one below zero counts from the end. -/
def place (index : Int) (length : Nat) : Nat :=
  if index < 0 then length - index.natAbs else index.natAbs

theorem place_lt_length_room (index : Int) (items : List Setting) :
    place index (room index items).length < (room index items).length := by
  unfold place room
  split <;> simp only [List.length_append, List.length_replicate] <;> omega

/-- Puts a value at a path. -/
def assignAt (v : Setting) : List Path.Step → Setting → Setting
  | [], _ => v
  | [.key word], s => .table (assign word v s.members)
  | .key word :: next :: rest, s =>
      let inner := (Keyed.find? word s.members).getD .nothing
      .table (Keyed.insert word (assignAt v (next :: rest) inner) s.members)
  | .item index :: rest, s =>
      let items := room index s.items
      let n := place index items.length
      .list (items.set n (assignAt v rest (items[n]?.getD .nothing)))

/-- A step with its word in lower case. -/
def lowerStep : Path.Step → Path.Step
  | .key word => .key (lowerKey word)
  | .item index => .item index

/-- Lays the values of a source over a layer. -/
def lay (source : Members) (members : Members) : Members :=
  source.foldl
    (fun members (key, v) =>
      (assignAt v ((Path.ofKey key).map lowerStep) (.table members)).members)
    members

end Layer
end Audience
