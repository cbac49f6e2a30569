import Audience.Settings.Layer
import Audience.Toml.Reader

/-!
# Settings in TOML

The values of a TOML document as settings.

**Moments.**  A moment is a text.  A table whose first key is `$__toml_private_datetime`
stands for the moment that is written in its value; what else it holds does not count.
-/

namespace Audience
namespace Setting

/-- The first key of a table that stands for a moment. -/
def momentKey : String := "$__toml_private_datetime"

/-- The value that has to be a moment, if a table stands for one. -/
def momentIn? : Toml.Members → Option Toml.Node
  | [] => none
  | (k, x) :: _ => if k = momentKey then some x else none

/-- The moment of the value of a table that stands for one. -/
def ofMoment? : Toml.Node → Option Setting
  | .scalar (.text s) => (Toml.Moment.ofText? s).map text
  | _ => none

/-- A TOML value without parts as a setting. -/
def ofScalar : Toml.Scalar → Setting
  | .text s => text s
  | .moment s => text s
  | .integer i => integer i
  | .real x => real x
  | .boolean b => boolean b

mutual

/-- A TOML value as a setting. -/
def ofToml : Toml.Node → Option Setting
  | .scalar v => some (ofScalar v)
  | .list items => (ofTomlItems items).map list
  | .table _ members =>
      match momentIn? members with
      | some x => ofMoment? x
      | none => (ofTomlMembers members).map table
  | .tables items => (ofTomlTables items).map list

/-- Items of a TOML array as settings. -/
def ofTomlItems : List Toml.Node → Option (List Setting)
  | [] => some []
  | x :: rest => do
      let v ← ofToml x
      let rest ← ofTomlItems rest
      return v :: rest

/-- Tables with the same header as settings. -/
def ofTomlTables : List (List (String × Toml.Node)) → Option (List Setting)
  | [] => some []
  | members :: rest => do
      let v ← match momentIn? members with
        | some x => ofMoment? x
        | none => (ofTomlMembers members).map table
      let rest ← ofTomlTables rest
      return v :: rest

/-- Members of a TOML table as settings. -/
def ofTomlMembers : List (String × Toml.Node) → Option (List (String × Setting))
  | [] => some []
  | (k, x) :: rest => do
      let v ← ofToml x
      let rest ← ofTomlMembers rest
      return (k, v) :: rest

end

/-- The settings of a TOML document, whose outermost table may not stand for a moment. -/
def tomlMembers? (cs : List Char) : Option Layer.Members := do
  let members ← Toml.parse? cs
  if (momentIn? members).isSome then none else ofTomlMembers members

end Setting
end Audience
