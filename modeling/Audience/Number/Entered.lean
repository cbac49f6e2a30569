import Audience.Number.Numeral

/-!
# Numbers as people enter them

Text that comes from outside a document may hold a number in a freer form than a
numeral: with a plus sign, with leading zeros, with no digit on one side of the
point, or as a name of infinity or not-a-number in any letter case.
-/

namespace Audience

open Text

namespace Entered

/-- The ASCII lower-case form of a text. -/
def lowerAscii (cs : List Char) : List Char := cs.map Char.toLower

/-- An optional sign at the front. -/
def takeSign : List Char → Bool × List Char
  | '-' :: rest => (true, rest)
  | '+' :: rest => (false, rest)
  | rest => (false, rest)

/-- The digits after an optional point; the point may stand alone. -/
def takeFraction : List Char → List Digit × List Char
  | '.' :: rest => takeDigits rest
  | rest => ([], rest)

/-- A number in digits: at least one digit before the exponent, and none left over. -/
def readDigits (negative : Bool) (cs : List Char) : Option Binary64 := do
  let (whole, rest) := takeDigits cs
  let (fraction, rest) := takeFraction rest
  if whole.isEmpty && fraction.isEmpty then none
  else
    let (exponent, rest) ← Numeral.readExponent rest
    if rest.isEmpty then
      return (Numeral.mk negative whole fraction exponent).decimal.toBinary64
    else none

/-- The whole text as a double: digits, or a name of infinity or not-a-number. -/
def readReal (cs : List Char) : Option Binary64 :=
  let (negative, rest) := takeSign cs
  let name := String.ofList (lowerAscii rest)
  if name = "inf" ∨ name = "infinity" then some (Binary64.infinity negative)
  else if name = "nan" then some Binary64.nan
  else readDigits negative rest

/-- The whole text as an integer: an optional sign and digits. -/
def readInteger (cs : List Char) : Option Int :=
  let (negative, rest) := takeSign cs
  match takeDigits rest with
  | ([], _) => none
  | (ds, []) => some (if negative then -(valueOf ds : Int) else valueOf ds)
  | (_, _ :: _) => none

/-- The whole text as an integer of 64 bits with a sign. -/
def readSigned64 (cs : List Char) : Option Int :=
  (readInteger cs).filter fun i => -(2 ^ 63) ≤ i && i < 2 ^ 63

/-- The whole text as a natural number of 64 bits; a minus sign is refused. -/
def readUnsigned64 (cs : List Char) : Option Nat :=
  if cs.head? = some '-' then none
  else ((readInteger cs).map Int.toNat).filter (· < 2 ^ 64)

/-- The text of a double without exponent: all its digits in place, and a point
only before digits. -/
def plainText (x : Binary64) : List Char :=
  if x.isNaN then "NaN".toList
  else if !x.isFinite then (if x.negative then "-inf" else "inf").toList
  else
    let d := x.shortest
    let n := digitsOf d.coefficient
    let sign := if x.negative then ['-'] else []
    if 0 ≤ d.exponent then
      sign ++ (n ++ List.replicate d.exponent.toNat Digit.zero).map Digit.char
    else
      let places := (-d.exponent).toNat
      let whole := padded (places + 1) d.coefficient
      sign ++ (whole.take (whole.length - places)).map Digit.char ++
        '.' :: (whole.drop (whole.length - places)).map Digit.char

end Entered
end Audience
