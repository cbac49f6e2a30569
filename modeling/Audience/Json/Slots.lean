import Audience.Json.Value

/-!
# Records inside documents

A record with named slots is written as an object with these names as keys, or as an
array of the slots in order.

**Objects.**  Every key must have a text.  A name of a slot may occur once; other
keys are passed over.

**Arrays.**  Slots at the end may be missing, but nothing may follow the last slot.

**Results.**
* `slots_length`: there is one answer for each slot.
-/

namespace Audience
namespace Json
namespace Document

/-- All keys have a text. -/
def keysReadable (members : List (Quoted × Document)) : Bool :=
  members.all fun m => m.1 != .unpaired

/-- The values at a key, in order. -/
def valuesAt (key : String) (members : List (Quoted × Document)) : List Document :=
  (members.filter fun m => m.1 == .text key).map Prod.snd

/-- The members whose keys are not among the names. -/
def othersThan (names : List String) (members : List (Quoted × Document)) :
    List (Quoted × Document) :=
  members.filter fun m => !(names.map Quoted.text).contains m.1

/-- The slot of a name: empty, or filled once. -/
def slotAt (key : String) (members : List (Quoted × Document)) : Option (Option Document) :=
  match valuesAt key members with
  | [] => some none
  | [d] => some (some d)
  | _ :: _ :: _ => none

/-- The slots filled by the members of an object. -/
def named (members : List (Quoted × Document)) : List String → Option (List (Option Document))
  | [] => some []
  | name :: names => do
      let slot ← slotAt name members
      let slots ← named members names
      return slot :: slots

/-- The slots filled by the items of an array. -/
def positional : List String → List Document → Option (List (Option Document))
  | [], [] => some []
  | [], _ :: _ => none
  | _ :: names, [] => (positional names []).map (none :: ·)
  | _ :: names, d :: items => (positional names items).map (some d :: ·)

/-- The slots of a record. -/
def slots (names : List String) : Document → Option (List (Option Document))
  | .object members => if keysReadable members then named members names else none
  | .array items => positional names items
  | _ => none

theorem named_length (members : List (Quoted × Document)) (names : List String)
    {found : List (Option Document)} (h : named members names = some found) :
    found.length = names.length := by
  induction names generalizing found with
  | nil => simp_all [named]
  | cons name names ih =>
      simp only [named] at h
      cases hs : slotAt name members with
      | none => simp [hs] at h
      | some slot =>
          cases hn : named members names with
          | none => simp [hs, hn] at h
          | some rest =>
              simp only [hs, hn] at h
              cases h
              simp [ih hn]

theorem positional_length (names : List String) (items : List Document)
    {found : List (Option Document)} (h : positional names items = some found) :
    found.length = names.length := by
  induction names generalizing items found with
  | nil => cases items <;> simp_all [positional]
  | cons name names ih =>
      cases items with
      | nil =>
          simp only [positional, Option.map_eq_some_iff] at h
          obtain ⟨rest, hrest, rfl⟩ := h
          simp [ih _ hrest]
      | cons d items =>
          simp only [positional, Option.map_eq_some_iff] at h
          obtain ⟨rest, hrest, rfl⟩ := h
          simp [ih _ hrest]

theorem slots_length {names : List String} {d : Document} {found : List (Option Document)}
    (h : d.slots names = some found) : found.length = names.length := by
  cases d with
  | object members =>
      simp only [slots] at h
      split at h
      · exact named_length members names h
      · simp at h
  | array items => exact positional_length names items h
  | null | boolean | number | quoted => simp [slots] at h

/-- The text of a string. -/
def string? : Document → Option String
  | .quoted (.text s) => some s
  | _ => none

/-- The name of a choice without contents: the name itself, or an object that maps
the name to `null`. -/
def choice? : Document → Option String
  | .quoted (.text s) => some s
  | .object [(.text s, .null)] => some s
  | _ => none

/-- The items of an array. -/
def items? : Document → Option (List Document)
  | .array items => some items
  | _ => none

/-- The members of an object whose keys all have a text. -/
def members? : Document → Option (List (String × Document))
  | .object members =>
      members.mapM fun m =>
        match m.1 with
        | .text k => some (k, m.2)
        | .unpaired => none
  | _ => none

end Document

/-- The name of a choice without contents, in a value. -/
def choice? : Json → Option String
  | .text s => some s
  | .object [(s, .null)] => some s
  | _ => none

end Json
end Audience
