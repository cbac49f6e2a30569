import Audience.Settings.Layer
import Audience.Text.Blank
import Audience.Text.Code
import Audience.Text.Letter

/-!
# Settings in JSON5

JSON5 is JSON as people write it: with comments, commas before closing brackets, texts
between apostrophes, keys that are plain names, and numbers in more forms.

**Numbers.**  A number without point and exponent is an integer of 64 bits, or of 32 bits if
it is hexadecimal; hexadecimal numbers and names of numbers have no plus sign, and hexadecimal
numbers no minus sign either.  Any other number is a double, which must be finite unless it is
a name.

**Fuel.**  The readers for values, items and members call each other with one unit of fuel
less.  Every second call takes a character off the text, so twice its length is enough.
-/

namespace Audience

open Text

namespace Json5

/-- A character that ends a line. -/
def isBreak (c : Char) : Bool :=
  c == '\n' || c == '\r' || c.toNat == 0x2028 || c.toNat == 0x2029

/-- A character between words. -/
def isGap (c : Char) : Bool := (isBlank c && c.toNat != 0x85) || c.toNat == 0xFEFF

/-- Where one stands between words. -/
inductive Gap
  | outside
  | line
  | block

/-- Skips blanks and comments. -/
def skipGaps : Gap → List Char → Option (List Char)
  | .outside, [] => some []
  | .line, [] => some []
  | .block, [] => none
  | .outside, '/' :: '/' :: rest => skipGaps .line rest
  | .outside, '/' :: '*' :: rest => skipGaps .block rest
  | .outside, c :: rest => if isGap c then skipGaps .outside rest else some (c :: rest)
  | .line, c :: rest => skipGaps (if isBreak c then .outside else .line) rest
  | .block, '*' :: '/' :: rest => skipGaps .outside rest
  | .block, _ :: rest => skipGaps .block rest

/-- The first half of a pair of codes for one character. -/
def isUpperHalf (n : Nat) : Bool := 0xD800 ≤ n && n ≤ 0xDBFF

/-- The second half of a pair of codes for one character. -/
def isLowerHalf (n : Nat) : Bool := 0xDC00 ≤ n && n ≤ 0xDFFF

/-- The character of a pair of codes. -/
def joined (upper lower : Nat) : Char :=
  Char.ofNat (0x10000 + (upper - 0xD800) * 0x400 + (lower - 0xDC00))

/-- The character of an escape of one letter.  Digits are no such escapes, except for zero. -/
def escaped? (c : Char) : Option Char :=
  if c = 'b' then some (Char.ofNat 0x08)
  else if c = 'f' then some (Char.ofNat 0x0C)
  else if c = 'n' then some '\n'
  else if c = 'r' then some '\r'
  else if c = 't' then some '\t'
  else if c = 'v' then some (Char.ofNat 0x0B)
  else if c = '0' then some (Char.ofNat 0)
  else if c = 'x' ∨ c = 'u' ∨ (Digit.ofChar? c).isSome = true then none
  else some c

/-- Reads a text after its opening quote. -/
def readText (quote : Char) : List Char → Option (List Char × List Char)
  | [] => none
  | '\\' :: 'u' :: a :: b :: c :: d :: rest =>
      match hexValue? [a, b, c, d] with
      | none => none
      | some n =>
          if isUpperHalf n then
            match rest with
            | '\\' :: 'u' :: e :: f :: g :: h :: rest =>
                match hexValue? [e, f, g, h] with
                | some m =>
                    if isLowerHalf m then prepend (joined n m) (readText quote rest) else none
                | none => none
            | _ => none
          else if isLowerHalf n then none
          else prepend (Char.ofNat n) (readText quote rest)
  | '\\' :: 'x' :: a :: b :: rest =>
      match hexValue? [a, b] with
      | some n => prepend (Char.ofNat n) (readText quote rest)
      | none => none
  | '\\' :: '\r' :: '\n' :: rest => readText quote rest
  | '\\' :: e :: rest =>
      if isBreak e then readText quote rest
      else
        match escaped? e with
        | some c => prepend c (readText quote rest)
        | none => none
  | c :: rest =>
      if c = quote then some ([], rest)
      else if c = '\n' ∨ c = '\r' ∨ c = '\\' then none
      else prepend c (readText quote rest)

/-- The first character of a name. -/
def startsName (c : Char) : Bool := c == '$' || c == '_' || isLetter c

/-- A further character of a name. -/
def continuesName (c : Char) : Bool :=
  startsName c || isLetterMark c || c.toNat == 0x200C || c.toNat == 0x200D

/-- Reads the characters of a name, some of which may be escaped. -/
def readName (allowed : Char → Bool) : List Char → Option (List Char × List Char)
  | '\\' :: 'u' :: a :: b :: c :: d :: rest =>
      match hexValue? [a, b, c, d] with
      | none => none
      | some n =>
          if isUpperHalf n || isLowerHalf n then none
          else prepend (Char.ofNat n) (readName continuesName rest)
  | c :: rest =>
      if allowed c then prepend c (readName continuesName rest)
      else if c = '\\' then none
      else some ([], c :: rest)
  | [] => some ([], [])

/-- Reads a key: a text or a name. -/
def readKey : List Char → Option (String × List Char)
  | '"' :: rest => (readText '"' rest).map fun (cs, rest) => (String.ofList cs, rest)
  | '\'' :: rest => (readText '\'' rest).map fun (cs, rest) => (String.ofList cs, rest)
  | cs =>
      match readName startsName cs with
      | some (c :: name, rest) => some (String.ofList (c :: name), rest)
      | _ => none

/-- Takes a word from the front, whatever follows it. -/
def takeWord? (word : String) (cs : List Char) : Option (List Char) :=
  if word.toList.isPrefixOf cs then some (cs.drop word.length) else none

/-- Takes the digits before the point; a zero is the only one. -/
def takeWhole : List Char → List Digit × List Char
  | '0' :: rest => ([Digit.zero], rest)
  | cs => takeDigits cs

/-- Takes the point and the digits after it. -/
def takeFraction : List Char → Option (List Digit) × List Char
  | '.' :: rest => let (ds, rest) := takeDigits rest; (some ds, rest)
  | cs => (none, cs)

/-- Takes an exponent, if all of it is there. -/
def takeExponent (cs : List Char) : Option Int × List Char :=
  match cs with
  | [] => (none, cs)
  | c :: rest =>
      if c = 'e' ∨ c = 'E' then
        let (negative, rest) := Entered.takeSign rest
        match takeDigits rest with
        | ([], _) => (none, cs)
        | (ds, rest) => (some (if negative then -(valueOf ds : Int) else valueOf ds), rest)
      else (none, cs)

/-- Takes a decimal number. -/
def takeDecimal? (negative : Bool) (cs : List Char) : Option (Setting × List Char) :=
  let (whole, rest) := takeWhole cs
  let (fraction, rest) := takeFraction rest
  let (exponent, rest) := takeExponent rest
  if whole.isEmpty ∧ (fraction.getD []).isEmpty then none
  else if fraction.isSome ∨ exponent.isSome then
    let n : Numeral := ⟨negative, whole, fraction.getD [], exponent⟩
    let x := n.decimal.toBinary64
    if x.isFinite then some (.real x, rest) else none
  else
    let i : Int := if negative then -(valueOf whole : Int) else valueOf whole
    if -(2 ^ 63) ≤ i ∧ i < 2 ^ 63 then some (.integer i, rest) else none

/-- Takes a hexadecimal number after its mark. -/
def takeHex? (cs : List Char) : Option (Setting × List Char) :=
  let isHex := fun c => (HexDigit.ofChar? c).isSome
  match hexValue? (cs.takeWhile isHex) with
  | some n =>
      if (cs.takeWhile isHex).isEmpty ∨ 2 ^ 32 ≤ n then none
      else some (.integer n, cs.dropWhile isHex)
  | none => none

/-- A number in front. -/
def takeNumber? (cs : List Char) : Option (Setting × List Char) :=
  match cs with
  | '0' :: 'x' :: rest => takeHex? rest
  | '0' :: 'X' :: rest => takeHex? rest
  | '+' :: rest => takeDecimal? false rest
  | _ =>
      let negative := cs.head? = some '-'
      let rest := if negative then cs.drop 1 else cs
      match takeWord? "Infinity" rest, takeWord? "NaN" rest with
      | some rest, _ => some (.real (Binary64.infinity negative), rest)
      | _, some rest => some (.real Binary64.nan, rest)
      | none, none => takeDecimal? negative rest

/-- Takes a word with a value, or else a number. -/
def takeScalar? (cs : List Char) : Option (Setting × List Char) :=
  match takeWord? "null" cs, takeWord? "true" cs, takeWord? "false" cs with
  | some rest, _, _ => some (.nothing, rest)
  | _, some rest, _ => some (.boolean true, rest)
  | _, _, some rest => some (.boolean false, rest)
  | none, none, none => takeNumber? cs

mutual

/-- Reads a value. -/
def readValue : Nat → List Char → Option (Setting × List Char)
  | 0, _ => none
  | fuel + 1, cs =>
      match cs with
      | '[' :: rest => (readItems fuel rest).map fun (items, after) => (.list items, after)
      | '\x7b' :: rest =>
          (readMembers fuel [] rest).map fun (members, after) => (.table members, after)
      | '"' :: rest => (readText '"' rest).map fun (s, after) => (.text (String.ofList s), after)
      | '\'' :: rest =>
          (readText '\'' rest).map fun (s, after) => (.text (String.ofList s), after)
      | cs => takeScalar? cs

/-- Reads items up to and including the closing bracket. -/
def readItems : Nat → List Char → Option (List Setting × List Char)
  | 0, _ => none
  | fuel + 1, cs => do
      match ← skipGaps .outside cs with
      | ']' :: after => some ([], after)
      | cs =>
          let (item, rest) ← readValue fuel cs
          match ← skipGaps .outside rest with
          | ']' :: after => some ([item], after)
          | ',' :: rest =>
              let (items, after) ← readItems fuel rest
              return (item :: items, after)
          | _ => none

/-- Reads members up to and including the closing brace; `before` are those in front. -/
def readMembers : Nat → (before : Layer.Members) → List Char →
    Option (Layer.Members × List Char)
  | 0, _, _ => none
  | fuel + 1, before, cs => do
      match ← skipGaps .outside cs with
      | '\x7d' :: after => some (before, after)
      | cs =>
          let (key, rest) ← readKey cs
          match ← skipGaps .outside rest with
          | ':' :: rest =>
              let (value, rest) ← readValue fuel (← skipGaps .outside rest)
              let members := Keyed.insert key value before
              match ← skipGaps .outside rest with
              | '\x7d' :: after => some (members, after)
              | ',' :: rest => readMembers fuel members rest
              | _ => none
          | _ => none

end

/-- Reads a file, which must hold an object. -/
def parse? (cs : List Char) : Option Layer.Members := do
  let (value, rest) ← readValue (2 * cs.length + 2) (← skipGaps .outside cs)
  match value, ← skipGaps .outside rest with
  | .table members, [] => some members
  | _, _ => none

end Json5
end Audience
