import Audience.Number.Power

/-!
# Decimal and hexadecimal digits

A number is written as a list of digits, most significant first.  Decimal digits
are `Fin 10` and hexadecimal digits `Fin 16`, so that a list of digits can never
hold a character that is not one.

**Reading.**  `takeDigits` splits the longest run of decimal digits off the front
of a text; `takeDigitsUpTo` stops after a given number of them.

**Writing.**  `digitsOf n` are the digits of `n` without leading zeros, and
`padded w n` writes at least `w` of them.

**Results.**
* `ofChar?_char`: reading the character of a digit gives the digit back.
* `takeDigits_append`: a run of written digits is read back in full when what
  follows starts with no digit.
-/

namespace Audience
namespace Text

/-- A decimal digit. -/
abbrev Digit := Fin 10

/-- A hexadecimal digit. -/
abbrev HexDigit := Fin 16

/-- The digit zero. -/
abbrev Digit.zero : Digit := 0

/-- The last hexadecimal digit of a number. -/
abbrev HexDigit.last (n : Nat) : HexDigit := Fin.ofNat 16 n

/-- The character of a decimal digit. -/
def Digit.char (d : Digit) : Char :=
  Char.ofNat ('0'.toNat + d.val)

/-- The decimal digit that a character stands for. -/
def Digit.ofChar? (c : Char) : Option Digit :=
  if h : '0'.toNat ≤ c.toNat ∧ c.toNat < '0'.toNat + 10 then
    some ⟨c.toNat - '0'.toNat, by omega⟩
  else none

@[simp] theorem Digit.ofChar?_char : ∀ d : Digit, Digit.ofChar? d.char = some d := by
  decide

/-- The lower-case character of a hexadecimal digit. -/
def HexDigit.char (d : HexDigit) : Char :=
  if d.val < 10 then Char.ofNat ('0'.toNat + d.val)
  else Char.ofNat ('a'.toNat + (d.val - 10))

/-- The hexadecimal digit that a character stands for, in either letter case. -/
def HexDigit.ofChar? (c : Char) : Option HexDigit :=
  if h : '0'.toNat ≤ c.toNat ∧ c.toNat < '0'.toNat + 10 then
    some ⟨c.toNat - '0'.toNat, by omega⟩
  else if h : 'a'.toNat ≤ c.toNat ∧ c.toNat < 'a'.toNat + 6 then
    some ⟨c.toNat - 'a'.toNat + 10, by omega⟩
  else if h : 'A'.toNat ≤ c.toNat ∧ c.toNat < 'A'.toNat + 6 then
    some ⟨c.toNat - 'A'.toNat + 10, by omega⟩
  else none

@[simp] theorem HexDigit.ofChar?_char : ∀ d : HexDigit, HexDigit.ofChar? d.char = some d := by
  decide

/-- The longest run of decimal digits at the front, and what follows it. -/
def takeDigits : List Char → List Digit × List Char
  | [] => ([], [])
  | c :: rest =>
      match Digit.ofChar? c with
      | some d => let (ds, after) := takeDigits rest; (d :: ds, after)
      | none => ([], c :: rest)

@[simp] theorem takeDigits_nil : takeDigits [] = ([], []) := rfl

/-- At most `limit` decimal digits from the front, and what follows them. -/
def takeDigitsUpTo : Nat → List Char → List Digit × List Char
  | 0, rest => ([], rest)
  | _ + 1, [] => ([], [])
  | limit + 1, c :: rest =>
      match Digit.ofChar? c with
      | some d => let (ds, after) := takeDigitsUpTo limit rest; (d :: ds, after)
      | none => ([], c :: rest)

/-- What follows a number starts with no digit. -/
def NoDigitFirst : List Char → Prop
  | [] => True
  | c :: _ => Digit.ofChar? c = none

@[simp] theorem noDigitFirst_nil : NoDigitFirst [] := trivial

/-- Written digits are read back in full. -/
theorem takeDigits_append (ds : List Digit) (rest : List Char) (h : NoDigitFirst rest) :
    takeDigits (ds.map Digit.char ++ rest) = (ds, rest) := by
  induction ds with
  | nil =>
      cases rest with
      | nil => rfl
      | cons c rest =>
          have hc : Digit.ofChar? c = none := h
          simp [takeDigits, hc]
  | cons d ds ih => simp [takeDigits, ih]

/-- The number that a list of decimal digits stands for. -/
def valueOf (ds : List Digit) : Nat :=
  ds.foldl (fun n d => 10 * n + d.val) 0

/-- The digits of `n`, put in front of `tail`; `fuel` bounds their number. -/
def digitsOnto : Nat → Nat → List Digit → List Digit
  | 0, _, tail => tail
  | fuel + 1, n, tail =>
      if n < 10 then Fin.ofNat 10 n :: tail
      else digitsOnto fuel (n / 10) (Fin.ofNat 10 n :: tail)

/-- The decimal digits of `n`, without leading zeros; zero has one digit. -/
def digitsOf (n : Nat) : List Digit :=
  digitsOnto (n + 1) n []

/-- The decimal digits of `n`, with zeros in front up to the given width. -/
def padded (width n : Nat) : List Digit :=
  List.replicate (width - (digitsOf n).length) Digit.zero ++ digitsOf n

/-- The last `width` hexadecimal digits of a number. -/
def hexDigits : (width n : Nat) → List HexDigit
  | 0, _ => []
  | width + 1, n => HexDigit.last (n / 16 ^ width) :: hexDigits width n

theorem length_hexDigits (width n : Nat) : (hexDigits width n).length = width := by
  induction width with
  | zero => rfl
  | succ width ih => simp [hexDigits, ih]

/-- A natural number as decimal text. -/
def decimal (n : Nat) : List Char :=
  (digitsOf n).map Digit.char

/-- An integer as decimal text, with a minus sign below zero. -/
def signedDecimal (n : Int) : List Char :=
  if n < 0 then '-' :: decimal n.natAbs else decimal n.natAbs

end Text
end Audience
