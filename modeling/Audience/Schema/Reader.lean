import Audience.Json.Reader
import Audience.Schema

/-!
# Reading schemas

A schema document is an array of objects.  Each has the keys `id` and `displayName`,
the key `type` with the name of a kind or its number in the list of kinds, and for a
select field the key `options`.

**Kept keys.**  The type of a field is found among the remaining keys of its object.
They are all kept until the type is known, so each of them must have a value that can
be kept, even if nothing asks for it.
-/

namespace Audience

open Json (Document)

namespace Choice

/-- Reads an option. -/
def ofDocument? (d : Document) : Option Choice :=
  match d.slots ["value", "label"] with
  | some [some value, some label] => do
      let value ← value.string?
      let label ← label.string?
      return ⟨value, label⟩
  | _ => none

end Choice

namespace FieldKind

/-- Reads a kind: its name, or its number in the list of kinds. -/
def ofDocument? (d : Document) : Option FieldKind :=
  match d.keep? 0 with
  | some (.text name) => ofName? name
  | some (.integer n) => if 0 ≤ n then all[n.toNat]? else none
  | _ => none

end FieldKind

namespace FieldType

/-- Reads the options of a select field. -/
def selectOfDocument? (d : Document) : Option FieldType := do
  let items ← d.items?
  let options ← items.mapM Choice.ofDocument?
  return select options

/-- Reads a type from the members of a field's object. -/
def ofMembers? (members : List (Json.Quoted × Document)) : Option FieldType := do
  let tag ← (← Document.slotAt "type" members)
  match ← FieldKind.ofDocument? tag with
  | .text => some text
  | .number => some number
  | .date => some date
  | .boolean => some boolean
  | .select => selectOfDocument? (← (← Document.slotAt "options" members))

end FieldType

namespace Field

/-- Reads a field whose further keys may be nested at most `levels` deep. -/
def ofDocument? (levels : Nat) : Document → Option Field
  | .object members => do
      if Document.keysReadable members then
        let id ← (← (← Document.slotAt "id" members)).string?
        let displayName ← (← (← Document.slotAt "displayName" members)).string?
        let others := Document.othersThan ["id", "displayName"] members
        let _ ← Document.keepMembers levels others []
        let type ← FieldType.ofMembers? others
        return ⟨id, displayName, type⟩
      else none
  | _ => none

end Field

namespace Schema

/-- Reads the fields of a schema document. -/
def fieldsOfDocument? (d : Document) : Option (List Field) := do
  let items ← d.items?
  items.mapM (Field.ofDocument? 125)

/-- Reads a schema from the text of its document. -/
def parse (s : String) : Except Error Schema :=
  match (Document.parse? s).bind fieldsOfDocument? with
  | some fields => ofFields fields
  | none => .error .unreadable

end Schema
end Audience
