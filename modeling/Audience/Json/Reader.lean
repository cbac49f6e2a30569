import Audience.Json.Document

/-!
# Reading documents

`Document.parse?` reads a whole text as one document.  It accepts exactly the JSON
grammar: four white-space characters between tokens, no comma before a closing
bracket, no control character inside a string, and nothing after the document.

**Nesting.**  There is no limit on nesting here.  Readers that keep a value count
its levels (`Document.keep?`), those that pass over it do not.

**Fuel.**  The readers for values, items and members call each other with one unit
of fuel less.  Every second call takes a character off the text, so twice its
length is enough, and `Document.parse?` supplies that.

**Results.**
* `skipSpace_skipSpace`: skipping white space is idempotent.
* `pair_chars`: characters that are not escapes are kept as they are.
-/

namespace Audience
namespace Json

open Text

/-- White space between tokens. -/
def isSpace (c : Char) : Bool := c == ' ' || c == '\n' || c == '\t' || c == '\r'

/-- Removes the white space in front. -/
def skipSpace : List Char → List Char
  | [] => []
  | c :: rest => if isSpace c then skipSpace rest else c :: rest

@[simp] theorem skipSpace_nil : skipSpace [] = [] := rfl

theorem skipSpace_of_not_space {c : Char} {rest : List Char} (h : isSpace c = false) :
    skipSpace (c :: rest) = c :: rest := by
  simp [skipSpace, h]

@[simp] theorem skipSpace_skipSpace (cs : List Char) : skipSpace (skipSpace cs) = skipSpace cs := by
  induction cs with
  | nil => rfl
  | cons c rest ih =>
      cases h : isSpace c with
      | true => simp [skipSpace, h, ih]
      | false => simp [skipSpace, h]

/-- A piece of a string: a character, or the 16-bit unit of an escape. -/
inductive Piece
  | char (c : Char)
  | unit (n : Nat)
deriving DecidableEq

/-- The first half of a surrogate pair. -/
def isHighHalf (n : Nat) : Bool := 0xD800 ≤ n && n < 0xDC00

/-- The second half of a surrogate pair. -/
def isLowHalf (n : Nat) : Bool := 0xDC00 ≤ n && n < 0xE000

/-- The character of a surrogate pair. -/
def joinHalves (high low : Nat) : Char :=
  Char.ofNat (0x10000 + (high - 0xD800) * 0x400 + (low - 0xDC00))

/-- Joins surrogate pairs; a half on its own makes the string unpaired. -/
def pair : List Piece → Option (List Char)
  | [] => some []
  | .char c :: rest => (pair rest).map (c :: ·)
  | .unit high :: .unit low :: rest =>
      if isHighHalf high then
        if isLowHalf low then (pair rest).map (joinHalves high low :: ·) else none
      else if isLowHalf high then none
      else (pair (.unit low :: rest)).map (Char.ofNat high :: ·)
  | .unit n :: rest =>
      if isHighHalf n || isLowHalf n then none
      else (pair rest).map (Char.ofNat n :: ·)

@[simp] theorem pair_nil : pair [] = some [] := rfl

@[simp] theorem pair_chars (cs : List Char) : pair (cs.map Piece.char) = some cs := by
  induction cs with
  | nil => rfl
  | cons c cs ih => simp [pair, ih]

/-- The string that pieces make. -/
def Quoted.ofPieces (pieces : List Piece) : Quoted :=
  match pair pieces with
  | some cs => .text (String.ofList cs)
  | none => .unpaired

/-- The unit of four hexadecimal digits. -/
def unitOf (a b c d : Char) : Option Nat := do
  let a ← HexDigit.ofChar? a
  let b ← HexDigit.ofChar? b
  let c ← HexDigit.ofChar? c
  let d ← HexDigit.ofChar? d
  return ((a.val * 16 + b.val) * 16 + c.val) * 16 + d.val

/-- The character of an escape of one character. -/
def shortEscape? (c : Char) : Option Char :=
  if c = '"' then some '"'
  else if c = '\\' then some '\\'
  else if c = '/' then some '/'
  else if c = 'b' then some (Char.ofNat 0x08)
  else if c = 'f' then some (Char.ofNat 0x0C)
  else if c = 'n' then some '\n'
  else if c = 'r' then some '\r'
  else if c = 't' then some '\t'
  else none

/-- Reads the pieces of a string up to and including its closing quote. -/
def readPieces : List Char → Option (List Piece × List Char)
  | [] => none
  | '"' :: rest => some ([], rest)
  | '\\' :: 'u' :: a :: b :: c :: d :: rest => do
      let n ← unitOf a b c d
      let (pieces, after) ← readPieces rest
      return (.unit n :: pieces, after)
  | '\\' :: e :: rest => do
      let c ← shortEscape? e
      let (pieces, after) ← readPieces rest
      return (.char c :: pieces, after)
  | c :: rest =>
      if c = '\\' ∨ c.toNat < 0x20 then none
      else do
        let (pieces, after) ← readPieces rest
        return (.char c :: pieces, after)

/-- Reads a string after its opening quote. -/
def readQuoted (cs : List Char) : Option (Quoted × List Char) := do
  let (pieces, after) ← readPieces cs
  return (Quoted.ofPieces pieces, after)

/-- Reads a literal name or a number. -/
def readPlain : List Char → Option (Document × List Char)
  | 'n' :: 'u' :: 'l' :: 'l' :: rest => some (.null, rest)
  | 't' :: 'r' :: 'u' :: 'e' :: rest => some (.boolean true, rest)
  | 'f' :: 'a' :: 'l' :: 's' :: 'e' :: rest => some (.boolean false, rest)
  | cs => (Numeral.read cs).map fun (n, rest) => (.number n, rest)

/-- Reads a key after its opening quote, and the colon after it. -/
def readKey (cs : List Char) : Option (Quoted × List Char) := do
  let (key, rest) ← readQuoted cs
  match skipSpace rest with
  | ':' :: rest => some (key, rest)
  | _ => none

mutual

/-- Reads a value. -/
def readValue : Nat → List Char → Option (Document × List Char)
  | 0, _ => none
  | fuel + 1, cs =>
      match skipSpace cs with
      | '"' :: rest => (readQuoted rest).map fun (q, after) => (.quoted q, after)
      | '[' :: rest =>
          match skipSpace rest with
          | ']' :: after => some (.array [], after)
          | _ => (readItems fuel rest).map fun (items, after) => (.array items, after)
      | '{' :: rest =>
          match skipSpace rest with
          | '}' :: after => some (.object [], after)
          | _ => (readMembers fuel rest).map fun (members, after) => (.object members, after)
      | other => readPlain other

/-- Reads items up to and including the closing bracket. -/
def readItems : Nat → List Char → Option (List Document × List Char)
  | 0, _ => none
  | fuel + 1, cs => do
      let (item, rest) ← readValue fuel cs
      match skipSpace rest with
      | ']' :: after => some ([item], after)
      | ',' :: rest =>
          let (items, after) ← readItems fuel rest
          return (item :: items, after)
      | _ => none

/-- Reads members up to and including the closing brace. -/
def readMembers : Nat → List Char → Option (List (Quoted × Document) × List Char)
  | 0, _ => none
  | fuel + 1, cs =>
      match skipSpace cs with
      | '"' :: rest => do
          let (key, rest) ← readKey rest
          let (value, rest) ← readValue fuel rest
          match skipSpace rest with
          | '}' :: after => some ([(key, value)], after)
          | ',' :: rest =>
              let (members, after) ← readMembers fuel rest
              return ((key, value) :: members, after)
          | _ => none
      | _ => none

end

/-- Reads a whole text as one document. -/
def Document.parse? (s : String) : Option Document :=
  match readValue (2 * s.toList.length + 2) s.toList with
  | some (d, rest) => if (skipSpace rest).isEmpty then some d else none
  | none => none

end Json
end Audience
