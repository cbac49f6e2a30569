import Audience.Json.Value
import Audience.Number.Entered
import Audience.Text.Lowercase

/-!
# Values of settings

A source of settings gives values of a few kinds, whatever its format is.

**Reading.**  Values are read loosely: a text may be given as a number, a natural number as
text, as a boolean or as a number with a fraction, which is rounded.

**Results.**
* `Setting.natural?_ofNat`: a natural number of 64 bits is read as itself.
-/

namespace Audience

open Text

/-- A value of a setting. -/
inductive Setting
  | nothing
  | boolean (value : Bool)
  | integer (value : Int)
  | real (value : Binary64)
  | text (value : String)
  | list (items : List Setting)
  | table (members : List (String × Setting))

namespace Setting

instance : Inhabited Setting := ⟨nothing⟩

mutual

/-- Equality of values. -/
def decEq : (a b : Setting) → Decidable (a = b)
  | .nothing, .nothing => isTrue rfl
  | .boolean a, .boolean b => decidable_of_iff (a = b) (by simp)
  | .integer a, .integer b => decidable_of_iff (a = b) (by simp)
  | .real a, .real b => decidable_of_iff (a = b) (by simp)
  | .text a, .text b => decidable_of_iff (a = b) (by simp)
  | .list as, .list bs =>
      match decEqItems as bs with
      | isTrue h => isTrue (by rw [h])
      | isFalse h => isFalse (by simp [h])
  | .table as, .table bs =>
      match decEqMembers as bs with
      | isTrue h => isTrue (by rw [h])
      | isFalse h => isFalse (by simp [h])
  | .nothing, .boolean _ | .nothing, .integer _ | .nothing, .real _ | .nothing, .text _
  | .nothing, .list _ | .nothing, .table _ => isFalse nofun
  | .boolean _, .nothing | .boolean _, .integer _ | .boolean _, .real _ | .boolean _, .text _
  | .boolean _, .list _ | .boolean _, .table _ => isFalse nofun
  | .integer _, .nothing | .integer _, .boolean _ | .integer _, .real _ | .integer _, .text _
  | .integer _, .list _ | .integer _, .table _ => isFalse nofun
  | .real _, .nothing | .real _, .boolean _ | .real _, .integer _ | .real _, .text _
  | .real _, .list _ | .real _, .table _ => isFalse nofun
  | .text _, .nothing | .text _, .boolean _ | .text _, .integer _ | .text _, .real _
  | .text _, .list _ | .text _, .table _ => isFalse nofun
  | .list _, .nothing | .list _, .boolean _ | .list _, .integer _ | .list _, .real _
  | .list _, .text _ | .list _, .table _ => isFalse nofun
  | .table _, .nothing | .table _, .boolean _ | .table _, .integer _ | .table _, .real _
  | .table _, .text _ | .table _, .list _ => isFalse nofun

/-- Equality of lists of values. -/
def decEqItems : (a b : List Setting) → Decidable (a = b)
  | [], [] => isTrue rfl
  | [], _ :: _ | _ :: _, [] => isFalse nofun
  | a :: as, b :: bs =>
      match decEq a b, decEqItems as bs with
      | isTrue h, isTrue hs => isTrue (by rw [h, hs])
      | isFalse h, _ => isFalse (by simp [h])
      | _, isFalse hs => isFalse (by simp [hs])

/-- Equality of lists of members. -/
def decEqMembers : (a b : List (String × Setting)) → Decidable (a = b)
  | [], [] => isTrue rfl
  | [], _ :: _ | _ :: _, [] => isFalse nofun
  | (j, a) :: as, (k, b) :: bs =>
      if hk : j = k then
        match decEq a b, decEqMembers as bs with
        | isTrue h, isTrue hs => isTrue (by rw [hk, h, hs])
        | isFalse h, _ => isFalse (by simp [h])
        | _, isFalse hs => isFalse (by simp [hs])
      else isFalse (by simp [hk])

end

instance : DecidableEq Setting := decEq

/-- The text of a value. -/
def text? : Setting → Option String
  | text s => some s
  | boolean true => some "true"
  | boolean false => some "false"
  | integer i => some (String.ofList (signedDecimal i))
  | real x => some (String.ofList (Entered.plainText x))
  | nothing => none
  | list _ => none
  | table _ => none

/-- The limit of natural numbers. -/
def naturalLimit : Nat := 2 ^ 64

/-- The natural number nearest to a double, within the limit; a half is rounded up. -/
def rounded (x : Binary64) : Nat :=
  if x.isNaN || x.negative then 0
  else if x.isFinite then min ((x.units.toNat + 2 ^ 1073) / 2 ^ 1074) (naturalLimit - 1)
  else naturalLimit - 1

/-- The natural number of a word. -/
def naturalOfText? (s : String) : Option Nat :=
  let word := String.ofList (lowercase s.toList)
  if word ∈ ["true", "on", "yes"] then some 1
  else if word ∈ ["false", "off", "no"] then some 0
  else Entered.readUnsigned64 s.toList

/-- The natural number of a value. -/
def natural? : Setting → Option Nat
  | integer i => if 0 ≤ i ∧ i < naturalLimit then some i.toNat else none
  | text s => naturalOfText? s
  | boolean true => some 1
  | boolean false => some 0
  | real x => some (rounded x)
  | nothing => none
  | list _ => none
  | table _ => none

theorem natural?_ofNat {n : Nat} (h : n < naturalLimit) : natural? (.integer n) = some n := by
  have hfits : (0 : Int) ≤ n ∧ (n : Int) < naturalLimit := ⟨Int.natCast_nonneg n, by omega⟩
  simp only [natural?, if_pos hfits, Int.toNat_natCast]

mutual

/-- A JSON value as a setting.  Integers beyond 64 bits with a sign become doubles. -/
def ofJson : Json → Setting
  | .null => nothing
  | .boolean b => boolean b
  | .integer i =>
      if -(2 ^ 63) ≤ i ∧ i < 2 ^ 63 then integer i
      else real (Decimal.mk (decide (i < 0)) i.natAbs 0).toBinary64
  | .real x => real x
  | .text s => text s
  | .array items => list (ofItems items)
  | .object members => table (ofMembers members)

/-- Items of a JSON value as settings. -/
def ofItems : List Json → List Setting
  | [] => []
  | x :: rest => ofJson x :: ofItems rest

/-- Members of a JSON value as settings. -/
def ofMembers : List (String × Json) → List (String × Setting)
  | [] => []
  | (k, x) :: rest => (k, ofJson x) :: ofMembers rest

end

/-- The members of a table; any other value counts as an empty table. -/
def members : Setting → List (String × Setting)
  | table entries => entries
  | _ => []

/-- The items of a list; any other value counts as an empty list. -/
def items : Setting → List Setting
  | list entries => entries
  | _ => []

@[simp] theorem members_table (entries : List (String × Setting)) :
    (table entries).members = entries := rfl

@[simp] theorem items_list (entries : List Setting) : (list entries).items = entries := rfl

end Setting
end Audience
