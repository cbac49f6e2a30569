import Audience.Text.Code

/-!
# Strings and keys of TOML documents

Basic strings stand between double quotes and have escapes; literal strings stand between
apostrophes and have none.  Both may be written on several lines between triple quotes:
a line break right after the opening is dropped, every other one is a line feed, and up to
two quotes may stand in front of the closing ones.

**Keys** are bare words or strings of one line, joined by dots.  Their number is limited.

**Results.**
* `skipBlanks_skipBlanks`: skipping blanks is idempotent.
-/

namespace Audience
namespace Toml

open Text

/-- A blank inside a line. -/
def isBlank (c : Char) : Bool := c == ' ' || c == '\t'

/-- Removes the blanks in front. -/
def skipBlanks : List Char → List Char
  | [] => []
  | c :: rest => if isBlank c then skipBlanks rest else c :: rest

@[simp] theorem skipBlanks_nil : skipBlanks [] = [] := rfl

@[simp] theorem skipBlanks_skipBlanks (cs : List Char) :
    skipBlanks (skipBlanks cs) = skipBlanks cs := by
  induction cs with
  | nil => rfl
  | cons c rest ih =>
      cases h : isBlank c with
      | true => simp [skipBlanks, h, ih]
      | false => simp [skipBlanks, h]

/-- A character that comments and strings may hold. -/
def isPlain (c : Char) : Bool := c == '\t' || (0x20 ≤ c.toNat && c.toNat != 0x7F)

/-- Takes a line break. -/
def takeBreak? : List Char → Option (List Char)
  | '\n' :: rest => some rest
  | '\r' :: '\n' :: rest => some rest
  | _ => none

/-- The character of an escape of one letter. -/
def shortEscape? (c : Char) : Option Char :=
  if c = 'b' then some (Char.ofNat 0x08)
  else if c = 't' then some '\t'
  else if c = 'n' then some '\n'
  else if c = 'f' then some (Char.ofNat 0x0C)
  else if c = 'r' then some '\r'
  else if c = '"' then some '"'
  else if c = '\\' then some '\\'
  else none

/-- Reads a basic string of one line after its opening quote. -/
def readBasic : List Char → Option (List Char × List Char)
  | [] => none
  | '"' :: rest => some ([], rest)
  | '\\' :: 'u' :: a :: b :: c :: d :: rest => do
      let e ← ofHexCode? [a, b, c, d]
      prepend e (readBasic rest)
  | '\\' :: 'U' :: a :: b :: c :: d :: e :: f :: g :: h :: rest => do
      let x ← ofHexCode? [a, b, c, d, e, f, g, h]
      prepend x (readBasic rest)
  | '\\' :: e :: rest => do
      let c ← shortEscape? e
      prepend c (readBasic rest)
  | c :: rest => if isPlain c && c != '\\' then prepend c (readBasic rest) else none

/-- Reads a literal string of one line after its opening apostrophe. -/
def readLiteral : List Char → Option (List Char × List Char)
  | [] => none
  | c :: rest =>
      if c = '\'' then some ([], rest)
      else if isPlain c then prepend c (readLiteral rest)
      else none

/-- Only blanks stand before the next line break. -/
def atLineEnd (cs : List Char) : Bool := (takeBreak? (skipBlanks cs)).isSome

/-- Reads a basic string of several lines after its opening quotes.  After a backslash at the
end of a line, blanks and line breaks are dropped (`dropping`). -/
def readBasicLines (dropping : Bool) : List Char → Option (List Char × List Char)
  | [] => none
  | '"' :: '"' :: '"' :: '"' :: '"' :: rest => some (['"', '"'], rest)
  | '"' :: '"' :: '"' :: '"' :: rest => some (['"'], rest)
  | '"' :: '"' :: '"' :: rest => some ([], rest)
  | '\\' :: 'u' :: a :: b :: c :: d :: rest => do
      let e ← ofHexCode? [a, b, c, d]
      prepend e (readBasicLines false rest)
  | '\\' :: 'U' :: a :: b :: c :: d :: e :: f :: g :: h :: rest => do
      let x ← ofHexCode? [a, b, c, d, e, f, g, h]
      prepend x (readBasicLines false rest)
  | '\\' :: e :: rest =>
      if atLineEnd (e :: rest) then readBasicLines true (e :: rest)
      else do
        let c ← shortEscape? e
        prepend c (readBasicLines false rest)
  | '\r' :: '\n' :: rest =>
      if dropping then readBasicLines true rest else prepend '\n' (readBasicLines false rest)
  | c :: rest =>
      if dropping && (isBlank c || c == '\n') then readBasicLines true rest
      else if c = '\n' ∨ (isPlain c = true ∧ c ≠ '\\') then
        prepend c (readBasicLines false rest)
      else none

/-- Reads a literal string of several lines after its opening apostrophes. -/
def readLiteralLines : List Char → Option (List Char × List Char)
  | [] => none
  | '\'' :: '\'' :: '\'' :: '\'' :: '\'' :: rest => some (['\'', '\''], rest)
  | '\'' :: '\'' :: '\'' :: '\'' :: rest => some (['\''], rest)
  | '\'' :: '\'' :: '\'' :: rest => some ([], rest)
  | '\r' :: '\n' :: rest => prepend '\n' (readLiteralLines rest)
  | c :: rest =>
      if c = '\n' ∨ isPlain c = true then prepend c (readLiteralLines rest) else none

/-- Drops a line break in front. -/
def dropBreak (cs : List Char) : List Char := (takeBreak? cs).getD cs

/-- Reads a string of any kind. -/
def readString? : List Char → Option (List Char × List Char)
  | '"' :: '"' :: '"' :: rest => readBasicLines false (dropBreak rest)
  | '"' :: rest => readBasic rest
  | '\'' :: '\'' :: '\'' :: rest => readLiteralLines (dropBreak rest)
  | '\'' :: rest => readLiteral rest
  | _ => none

/-- A character of a bare key. -/
def isBare (c : Char) : Bool := (c.isAlphanum && c.toNat < 0x80) || c == '_' || c == '-'

/-- Reads one part of a key. -/
def readPart : List Char → Option (String × List Char)
  | '"' :: rest => (readBasic rest).map fun (cs, after) => (String.ofList cs, after)
  | '\'' :: rest => (readLiteral rest).map fun (cs, after) => (String.ofList cs, after)
  | cs =>
      let word := cs.takeWhile isBare
      if word.isEmpty then none else some (String.ofList word, cs.dropWhile isBare)

/-- Reads a dotted key of at most `limit` parts with blanks around them. -/
def readParts : Nat → List Char → Option (List String × List Char)
  | 0, _ => none
  | limit + 1, cs => do
      let (part, rest) ← readPart (skipBlanks cs)
      match skipBlanks rest with
      | '.' :: rest =>
          let (parts, after) ← readParts limit rest
          return (part :: parts, after)
      | rest => return ([part], rest)

/-- How many parts a key may have, and how deep values may be nested. -/
def depthLimit : Nat := 79

/-- Reads a dotted key. -/
def readKey (cs : List Char) : Option (List String × List Char) := readParts depthLimit cs

end Toml
end Audience
