import Audience.Json.Document

/-!
# Writing documents

Two layouts: `Document.compact` writes no white space, `Document.pretty` puts each
item and member on a line of its own, indented by two blanks for each level, and
writes empty arrays and objects without a line break.

**Strings.**  Only the quote, the backslash and the control characters below U+0020
are escaped: five of those have short escapes, and the others are written with four
lower-case hexadecimal digits.

**Results.**
* `escape_eq_self`: every other character is written as it is.
-/

namespace Audience
namespace Json

open Text

/-- The text of a character inside quotes. -/
def escape (c : Char) : List Char :=
  if c = '"' then ['\\', '"']
  else if c = '\\' then ['\\', '\\']
  else if c.toNat = 0x08 then ['\\', 'b']
  else if c.toNat = 0x09 then ['\\', 't']
  else if c.toNat = 0x0A then ['\\', 'n']
  else if c.toNat = 0x0C then ['\\', 'f']
  else if c.toNat = 0x0D then ['\\', 'r']
  else if c.toNat < 0x20 then '\\' :: 'u' :: (hexDigits 4 c.toNat).map HexDigit.char
  else [c]

theorem escape_eq_self {c : Char} (hq : c ≠ '"') (hb : c ≠ '\\') (hc : 0x20 ≤ c.toNat) :
    escape c = [c] := by
  have h8 : c.toNat ≠ 0x08 := by omega
  have h9 : c.toNat ≠ 0x09 := by omega
  have hA : c.toNat ≠ 0x0A := by omega
  have hC : c.toNat ≠ 0x0C := by omega
  have hD : c.toNat ≠ 0x0D := by omega
  have hlt : ¬ c.toNat < 0x20 := by omega
  simp [escape, hq, hb, h8, h9, hA, hC, hD, hlt]

/-- The characters of a string inside quotes. -/
def escapeAll (cs : List Char) : List Char := cs.flatMap escape

/-- The text of a string with its quotes. -/
def Quoted.print : Quoted → List Char
  | .text s => '"' :: escapeAll s.toList ++ ['"']
  | .unpaired => "\"\\ud800\"".toList

namespace Document

mutual

/-- A document without white space. -/
def compact : Document → List Char
  | .null => "null".toList
  | .boolean true => "true".toList
  | .boolean false => "false".toList
  | .number n => n.text
  | .quoted q => q.print
  | .array items => '[' :: compactItems items ++ [']']
  | .object members => '{' :: compactMembers members ++ ['}']

/-- Items with commas between them. -/
def compactItems : List Document → List Char
  | [] => []
  | [d] => d.compact
  | d :: e :: rest => d.compact ++ ',' :: compactItems (e :: rest)

/-- Members with commas between them. -/
def compactMembers : List (Quoted × Document) → List Char
  | [] => []
  | [(k, d)] => k.print ++ ':' :: d.compact
  | (k, d) :: m :: rest => k.print ++ ':' :: d.compact ++ ',' :: compactMembers (m :: rest)

end

/-- A line break and the indentation of a level. -/
def newLine (level : Nat) : List Char := '\n' :: List.replicate (2 * level) ' '

mutual

/-- A document with indentation, starting at a level. -/
def prettyAt (level : Nat) : Document → List Char
  | .array (d :: rest) =>
      '[' :: prettyItems (level + 1) (d :: rest) ++ newLine level ++ [']']
  | .object (m :: rest) =>
      '{' :: prettyMembers (level + 1) (m :: rest) ++ newLine level ++ ['}']
  | d => d.compact

/-- Items on lines of their own. -/
def prettyItems (level : Nat) : List Document → List Char
  | [] => []
  | [d] => newLine level ++ d.prettyAt level
  | d :: e :: rest => newLine level ++ d.prettyAt level ++ ',' :: prettyItems level (e :: rest)

/-- Members on lines of their own. -/
def prettyMembers (level : Nat) : List (Quoted × Document) → List Char
  | [] => []
  | [(k, d)] => newLine level ++ k.print ++ ':' :: ' ' :: d.prettyAt level
  | (k, d) :: m :: rest =>
      newLine level ++ k.print ++ ':' :: ' ' :: d.prettyAt level ++
        ',' :: prettyMembers level (m :: rest)

end

/-- The text of a document without white space. -/
def text (d : Document) : String := String.ofList d.compact

/-- The text of a document with indentation. -/
def prettyText (d : Document) : String := String.ofList (d.prettyAt 0)

end Document
end Json
end Audience
