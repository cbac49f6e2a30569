import Audience.Number.Numeral
import Audience.Text.Code
import Audience.Toml.Moment
import Audience.Toml.Tree

/-!
# Words of TOML documents

A word of a document that is not a string is a number, a boolean or a moment.  Integers have
64 bits and may be written in base 2, 8, 10 or 16; digits may be grouped by underscores.
-/

namespace Audience
namespace Toml

open Text

/-- Removes the underscores between digits; every other character must be a digit. -/
def ungroup (isDigit : Char → Bool) : List Char → Option (List Char)
  | [] => none
  | [c] => if isDigit c then some [c] else none
  | c :: d :: rest =>
      if isDigit c then
        if d = '_' then
          match rest with
          | [] => none
          | e :: rest =>
              if isDigit e then (ungroup isDigit (e :: rest)).map (c :: ·) else none
        else (ungroup isDigit (d :: rest)).map (c :: ·)
      else none

/-- The digits of a base. -/
def isDigitOf (base : Nat) (c : Char) : Bool :=
  match HexDigit.ofChar? c with
  | some d => d.val < base
  | none => false

/-- The number that grouped digits of a base stand for. -/
def naturalOf? (base : Nat) (cs : List Char) : Option Nat := do
  let cs ← ungroup (isDigitOf base) cs
  let ds ← cs.mapM HexDigit.ofChar?
  return valueIn base ds

/-- Grouped decimal digits. -/
def digitsOf? (cs : List Char) : Option (List Digit) := do
  let cs ← ungroup (isDigitOf 10) cs
  cs.mapM Digit.ofChar?

/-- An integer that has 64 bits with a sign. -/
def fit? (i : Int) : Option Int := if -(2 ^ 63) ≤ i ∧ i < 2 ^ 63 then some i else none

/-- A decimal integer after its sign. -/
def decimalOf? (negative : Bool) (cs : List Char) : Option Int := do
  let ds ← digitsOf? cs
  if Numeral.wholeAllowed ds then
    fit? (if negative then -(valueOf ds : Int) else valueOf ds)
  else none

/-- An integer in any base. -/
def integerOf? : List Char → Option Int
  | '0' :: 'x' :: cs => (naturalOf? 16 cs).bind fun n => fit? n
  | '0' :: 'o' :: cs => (naturalOf? 8 cs).bind fun n => fit? n
  | '0' :: 'b' :: cs => (naturalOf? 2 cs).bind fun n => fit? n
  | '-' :: cs => decimalOf? true cs
  | '+' :: cs => decimalOf? false cs
  | cs => decimalOf? false cs

/-- A digit or an underscore between digits. -/
def isDigitOrGap (c : Char) : Bool := isDigitOf 10 c || c == '_'

/-- The exponent of a number: a sign and digits after the mark. -/
def exponentOf? : List Char → Option Int
  | '-' :: cs => (digitsOf? cs).map fun ds => -(valueOf ds : Int)
  | '+' :: cs => (digitsOf? cs).map fun ds => valueOf ds
  | cs => (digitsOf? cs).map fun ds => valueOf ds

/-- What follows the whole digits of a number: a fraction, an exponent or both. -/
def fractionOf? : List Char → Option (List Digit × Option Int)
  | '.' :: cs => do
      let fraction ← digitsOf? (cs.takeWhile isDigitOrGap)
      match cs.dropWhile isDigitOrGap with
      | [] => return (fraction, none)
      | c :: rest =>
          if c = 'e' ∨ c = 'E' then return (fraction, some (← exponentOf? rest)) else none
  | c :: cs => if c = 'e' ∨ c = 'E' then (exponentOf? cs).map fun e => ([], some e) else none
  | [] => none

/-- A number with a fraction or an exponent, after its sign.  Positive numbers that are too
large are refused. -/
def unsignedReal? (negative : Bool) (cs : List Char) : Option Binary64 := do
  let whole ← digitsOf? (cs.takeWhile isDigitOrGap)
  let (fraction, exponent) ← fractionOf? (cs.dropWhile isDigitOrGap)
  let x := (Numeral.mk negative whole fraction exponent).decimal.toBinary64
  if Numeral.wholeAllowed whole ∧ (x.isFinite = true ∨ negative = true) then some x else none

/-- A number with a fraction or an exponent, an infinity or not-a-number. -/
def realOf? (cs : List Char) : Option Binary64 :=
  let word := String.ofList cs
  if word = "inf" ∨ word = "+inf" then some (Binary64.infinity false)
  else if word = "-inf" then some (Binary64.infinity true)
  else if word = "nan" ∨ word = "+nan" ∨ word = "-nan" then some Binary64.nan
  else
    match cs with
    | '-' :: cs => unsignedReal? true cs
    | '+' :: cs => unsignedReal? false cs
    | cs => unsignedReal? false cs

/-- The value of a word. -/
def ofWord? (cs : List Char) : Option Scalar :=
  let word := String.ofList cs
  if word = "true" then some (.boolean true)
  else if word = "false" then some (.boolean false)
  else
    match integerOf? cs, realOf? cs, Moment.ofWord? cs with
    | some i, _, _ => some (.integer i)
    | none, some x, _ => some (.real x)
    | none, none, some t => some (.moment t)
    | none, none, none => none

/-- A character of a word. -/
def isWordChar (c : Char) : Bool :=
  (c.isAlphanum && c.toNat < 0x80) || c == '_' || c == '+' || c == '-' || c == '.' || c == ':'

/-- Takes a word and its value.  A date may be followed by a blank and a time of day. -/
def takeWord? (cs : List Char) : Option (Scalar × List Char) :=
  let word := cs.takeWhile isWordChar
  let rest := cs.dropWhile isWordChar
  let longer := word ++ rest.take 1 ++ (rest.drop 1).takeWhile isWordChar
  if word.length = 10 ∧ rest.head? = some ' ' ∧ (Moment.ofWord? longer).isSome then
    (ofWord? longer).map fun v => (v, (rest.drop 1).dropWhile isWordChar)
  else (ofWord? word).map fun v => (v, rest)

end Toml
end Audience
