import Audience.Text.Digit

/-!
# Characters by code

What the readers of quoted texts share: the number that digits stand for, the character with a
code, and putting characters in front of what has been read.

**Results.**
* `ofCode?_toNat`: every character is found by its code.
-/

namespace Audience
namespace Text

/-- The number that digits stand for in a base. -/
def valueIn (base : Nat) (ds : List HexDigit) : Nat :=
  ds.foldl (fun n d => base * n + d.val) 0

/-- The number of hexadecimal digits, if all characters are. -/
def hexValue? (cs : List Char) : Option Nat := (cs.mapM HexDigit.ofChar?).map (valueIn 16)

/-- The character with a code, if there is one. -/
def ofCode? (n : Nat) : Option Char :=
  if n < 0xD800 ∨ (0xDFFF < n ∧ n < 0x110000) then some (Char.ofNat n) else none

@[simp] theorem ofCode?_toNat (c : Char) : ofCode? c.toNat = some c := by
  have hvalid : c.toNat < 0xD800 ∨ (0xDFFF < c.toNat ∧ c.toNat < 0x110000) := c.valid
  rw [ofCode?, if_pos hvalid, Char.ofNat_toNat]

/-- The character whose code has the given hexadecimal digits. -/
def ofHexCode? (cs : List Char) : Option Char := (hexValue? cs).bind ofCode?

/-- Puts a character in front of what has been read. -/
def prepend (c : Char) (read : Option (List Char × List Char)) :
    Option (List Char × List Char) :=
  read.map fun (cs, rest) => (c :: cs, rest)

/-- Puts a text in front of what has been read. -/
def prependAll (front : List Char) (read : Option (List Char × List Char)) :
    Option (List Char × List Char) :=
  read.map fun (cs, rest) => (front ++ cs, rest)

end Text
end Audience
