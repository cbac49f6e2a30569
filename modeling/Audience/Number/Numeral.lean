import Audience.Number.Shortest
import Audience.Text.Digit

/-!
# Numerals

A numeral is a number as it is written: a sign, whole digits, digits after the
point and a power of ten.  Two numerals may stand for one number.

**Reading.**  `Numeral.read` takes a numeral from the front of a text.  A leading
zero must be the only whole digit, a point needs a digit on both sides, and an
exponent needs a digit.

**Writing.**  `Numeral.ofBinary64` lays the shortest decimal of a double out
positionally when its leading digit stands at or above 10^-5 and below 10^16,
always with a digit after the point, and with a signed exponent otherwise.

**Results.**
* `Numeral.isWhole_ofNat`, `Numeral.isWhole_ofInt`: integers are written without point
  and exponent.
-/

namespace Audience

open Text

/-- A number as written. -/
structure Numeral where
  negative : Bool
  whole : List Digit
  fraction : List Digit
  exponent : Option Int
deriving DecidableEq

namespace Numeral

/-- The decimal number that a numeral stands for. -/
def decimal (n : Numeral) : Decimal :=
  ⟨n.negative, valueOf (n.whole ++ n.fraction), n.exponent.getD 0 - n.fraction.length⟩

/-- Written without point and exponent. -/
def isWhole (n : Numeral) : Bool := n.fraction.isEmpty && n.exponent.isNone

/-- The numeral of an integer. -/
def ofInt (i : Int) : Numeral := ⟨decide (i < 0), digitsOf i.natAbs, [], none⟩

/-- The numeral of a natural number. -/
def ofNat (n : Nat) : Numeral := ⟨false, digitsOf n, [], none⟩

@[simp] theorem isWhole_ofNat (n : Nat) : (ofNat n).isWhole = true := rfl

@[simp] theorem isWhole_ofInt (i : Int) : (ofInt i).isWhole = true := rfl

/-- The text of an exponent: the sign is always written. -/
def exponentText : Option Int → List Char
  | none => []
  | some e => 'e' :: (if e < 0 then '-' else '+') :: Text.decimal e.natAbs

/-- The text of the digits after the point. -/
def fractionText (fraction : List Digit) : List Char :=
  match fraction with
  | [] => []
  | d :: ds => '.' :: (d :: ds).map Digit.char

/-- The text of a numeral. -/
def text (n : Numeral) : List Char :=
  (if n.negative then ['-'] else []) ++ n.whole.map Digit.char ++
    fractionText n.fraction ++ exponentText n.exponent

/-- How the digits of a decimal are laid out: the exponents of the leading digit
that are written positionally are `least ≤ e < limit`. -/
structure Layout where
  least : Int
  limit : Int

/-- Positional from 0.00001 up to, but not including, 10000000000000000. -/
def standard : Layout := ⟨-5, 16⟩

/-- Lays the digits `ds` with the leading one at `10 ^ lead` out. -/
def layOut (layout : Layout) (negative : Bool) (ds : List Digit) (lead : Int) : Numeral :=
  if layout.least ≤ lead ∧ lead < layout.limit then
    if lead < 0 then
      ⟨negative, [Digit.zero], List.replicate (-lead - 1).toNat Digit.zero ++ ds, none⟩
    else
      let n := lead.toNat + 1
      if ds.length ≤ n then
        ⟨negative, ds ++ List.replicate (n - ds.length) Digit.zero, [Digit.zero], none⟩
      else ⟨negative, ds.take n, ds.drop n, none⟩
  else ⟨negative, ds.take 1, ds.drop 1, some lead⟩

/-- The numeral of a finite double: its shortest decimal in the standard layout. -/
def ofBinary64 (x : Binary64) : Numeral :=
  let d := x.shortest
  let ds := digitsOf d.coefficient
  layOut standard d.negative ds
    (if d.coefficient = 0 then 0 else d.exponent + ds.length - 1)

/-- Reads an optional fraction: a point and at least one digit. -/
def readFraction : List Char → Option (List Digit × List Char)
  | '.' :: rest =>
      match takeDigits rest with
      | ([], _) => none
      | (ds, after) => some (ds, after)
  | rest => some ([], rest)

/-- Reads the digits of an exponent after its sign. -/
def readExponentDigits (negative : Bool) (rest : List Char) : Option (Option Int × List Char) :=
  match takeDigits rest with
  | ([], _) => none
  | (ds, after) => some (some (if negative then -(valueOf ds : Int) else valueOf ds), after)

/-- Reads an exponent after its mark. -/
def readSignedExponent : List Char → Option (Option Int × List Char)
  | '-' :: rest => readExponentDigits true rest
  | '+' :: rest => readExponentDigits false rest
  | rest => readExponentDigits false rest

/-- Reads an optional exponent. -/
def readExponent : List Char → Option (Option Int × List Char)
  | 'e' :: rest => readSignedExponent rest
  | 'E' :: rest => readSignedExponent rest
  | rest => some (none, rest)

/-- Whole digits: one zero, or digits that start with another one. -/
def wholeAllowed : List Digit → Bool
  | [] => false
  | [_] => true
  | d :: _ :: _ => d != Digit.zero

/-- Reads a numeral after its sign. -/
def readUnsigned (negative : Bool) (cs : List Char) : Option (Numeral × List Char) := do
  let (whole, rest) := takeDigits cs
  if wholeAllowed whole then
    let (fraction, rest) ← readFraction rest
    let (exponent, rest) ← readExponent rest
    return (⟨negative, whole, fraction, exponent⟩, rest)
  else none

/-- Takes a numeral from the front of a text. -/
def read : List Char → Option (Numeral × List Char)
  | '-' :: rest => readUnsigned true rest
  | cs => readUnsigned false cs

end Numeral
end Audience
