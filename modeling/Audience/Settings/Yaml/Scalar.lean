import Audience.Settings.Value
import Audience.Text.Code

/-!
# Scalars of YAML documents

A scalar is written plainly, between quotes, or as a block of lines.  Where it is written on
several lines they are folded: a line break is a space, and further ones are line feeds.

**Resolution.**  A plain scalar is nothing, a boolean, an integer, a number or else a text; a
tag says which of them it has to be.  Any other scalar is a text.  Infinity is unreadable.
-/

namespace Audience

open Text

namespace Yaml

/-- A blank inside a line. -/
def isSpace (c : Char) : Bool := c == ' ' || c == '\t'

/-- What a scalar is said to be. -/
inductive Tag
  | core (name : String)
  | other
deriving DecidableEq

/-- An integer in a base, with an optional sign. -/
def inBase? (base : Nat) (cs : List Char) : Option Int := do
  let (negative, digits) := Entered.takeSign cs
  let ds ← digits.mapM HexDigit.ofChar?
  let i : Int := if negative then -(valueIn base ds : Int) else valueIn base ds
  if ds.isEmpty ∨ ds.any (base ≤ ·.val) ∨ i < -(2 ^ 63) ∨ 2 ^ 63 ≤ i then none else some i

/-- An integer with a mark in front. -/
def markedInteger? : List Char → Option Int
  | '0' :: 'x' :: cs => inBase? 16 cs
  | '0' :: 'o' :: cs => inBase? 8 cs
  | '+' :: cs => Entered.readSigned64 cs
  | _ => none

/-- Names of infinity and not-a-number, which cannot be read. -/
def namedReals : List String :=
  [".inf", ".Inf", ".INF", "+.inf", "+.Inf", "+.INF", "-.inf", "-.Inf", "-.INF", ".nan", ".NAN"]

/-- A text that looks like a number with a fraction or an exponent. -/
def real? (s : String) : Option Binary64 :=
  if s = "NaN" then some Binary64.nan
  else if s.toList.any fun c => (Digit.ofChar? c).isSome then Entered.readReal s.toList
  else none

/-- The value of a plain scalar without tag. -/
def ofPlain? (s : String) : Option Setting :=
  match markedInteger? s.toList, Entered.readSigned64 s.toList with
  | some i, _ => some (.integer i)
  | none, some i => some (.integer i)
  | none, none =>
      if s = "" ∨ s = "~" ∨ s = "null" then some .nothing
      else if s = "true" then some (.boolean true)
      else if s = "false" then some (.boolean false)
      else if namedReals.contains s then none
      else some (((real? s).map .real).getD (.text s))

/-- The value of a plain scalar with a tag; one that does not fit it is nothing. -/
def ofTagged? (tag : Tag) (s : String) : Option Setting :=
  if tag = .core "bool" then
    some (if s = "true" then .boolean true else if s = "false" then .boolean false else .nothing)
  else if tag = .core "int" then
    some (((Entered.readSigned64 s.toList).map .integer).getD .nothing)
  else if tag = .core "float" then
    if namedReals.contains s then none else some (((real? s).map .real).getD .nothing)
  else if tag = .core "null" then some .nothing
  else some (.text s)

/-- What has been read between two parts of a scalar that are neither blanks nor line breaks:
blanks in reverse, line breaks, or line breaks after one that does not count. -/
inductive Pending
  | blanks (cs : List Char)
  | breaks (count : Nat)
  | joined (count : Nat)

namespace Pending

/-- The text that stands for it. -/
def text : Pending → List Char
  | blanks cs => cs.reverse
  | breaks 1 => [' ']
  | breaks count => List.replicate (count - 1) '\n'
  | joined count => List.replicate count '\n'

/-- One more blank.  Blanks at the start of a line do not count. -/
def addBlank (c : Char) : Pending → Pending
  | blanks cs => blanks (c :: cs)
  | p => p

/-- One more line break.  Blanks at the end of a line do not count. -/
def addBreak : Pending → Pending
  | blanks _ => breaks 1
  | breaks count => breaks (count + 1)
  | joined count => joined (count + 1)

end Pending

/-- The characters of escapes of one letter. -/
def escapes : List (Char × Nat) :=
  [('0', 0x00), ('a', 0x07), ('b', 0x08), ('t', 0x09), ('\t', 0x09), ('n', 0x0A), ('v', 0x0B),
    ('f', 0x0C), ('r', 0x0D), ('e', 0x1B), (' ', 0x20), ('"', 0x22), ('/', 0x2F),
    ('\\', 0x5C), ('N', 0x85), ('_', 0xA0), ('L', 0x2028), ('P', 0x2029)]

/-- The character of an escape of one letter. -/
def escaped? (c : Char) : Option Char :=
  (escapes.find? (·.1 = c)).map fun e => Char.ofNat e.2

/-- Reads a scalar after its opening quote. -/
def readDouble (pending : Pending) : List Char → Option (List Char × List Char)
  | [] => none
  | '"' :: rest => some (pending.text, rest)
  | '\\' :: '\n' :: rest => prependAll pending.text (readDouble (.joined 0) rest)
  | '\\' :: 'x' :: a :: b :: rest => do
      let c ← ofHexCode? [a, b]
      prependAll (pending.text ++ [c]) (readDouble (.blanks []) rest)
  | '\\' :: 'u' :: a :: b :: c :: d :: rest => do
      let e ← ofHexCode? [a, b, c, d]
      prependAll (pending.text ++ [e]) (readDouble (.blanks []) rest)
  | '\\' :: 'U' :: a :: b :: c :: d :: e :: f :: g :: h :: rest => do
      let x ← ofHexCode? [a, b, c, d, e, f, g, h]
      prependAll (pending.text ++ [x]) (readDouble (.blanks []) rest)
  | '\\' :: e :: rest => do
      let c ← escaped? e
      prependAll (pending.text ++ [c]) (readDouble (.blanks []) rest)
  | c :: rest =>
      if c = '\n' then readDouble pending.addBreak rest
      else if isSpace c then readDouble (pending.addBlank c) rest
      else if c = '\\' then none
      else prependAll (pending.text ++ [c]) (readDouble (.blanks []) rest)

/-- Reads a scalar after its opening apostrophe; two of them stand for one. -/
def readSingle (pending : Pending) : List Char → Option (List Char × List Char)
  | [] => none
  | '\'' :: '\'' :: rest => prependAll (pending.text ++ ['\'']) (readSingle (.blanks []) rest)
  | c :: rest =>
      if c = '\'' then some (pending.text, rest)
      else if c = '\n' then readSingle pending.addBreak rest
      else if isSpace c then readSingle (pending.addBlank c) rest
      else prependAll (pending.text ++ [c]) (readSingle (.blanks []) rest)

/-- What becomes of the line breaks at the end of a block. -/
inductive Chomping
  | strip
  | clip
  | keep
deriving DecidableEq

/-- The head of a block: what becomes of its end, and how far it is indented if that is said. -/
structure BlockHead where
  chomping : Chomping
  indentation : Option Nat

/-- Takes the marks of the head of a block. -/
def takeHead : Nat → BlockHead → List Char → BlockHead × List Char
  | 0, head, cs => (head, cs)
  | _ + 1, head, [] => (head, [])
  | fuel + 1, head, c :: rest =>
      if c = '+' then takeHead fuel { head with chomping := .keep } rest
      else if c = '-' then takeHead fuel { head with chomping := .strip } rest
      else
        match Digit.ofChar? c with
        | some d => takeHead fuel { head with indentation := some d.val } rest
        | none => (head, c :: rest)

/-- Only blanks and a comment stand in a line. -/
def isEmptyLine (line : List Char) : Bool :=
  match line.dropWhile isSpace with
  | [] => true
  | c :: _ => c == '#'

/-- The number of spaces in front of a line. -/
def indentationOf (line : List Char) : Nat := (line.takeWhile (· == ' ')).length

/-- Only spaces stand in a line. -/
def isSpaces (line : List Char) : Bool := line.all (· == ' ')

/-- How far a block is indented that does not say it: as far as its first line. -/
def foundIndentation (least : Nat) (lines : List (List Char)) : Nat :=
  let blank := lines.takeWhile isSpaces
  let first := (lines.drop blank.length).take 1
  ((blank ++ first).map indentationOf).foldl max (max least 1)

/-- Joins the lines of a block.  `before` says of the last line with text whether it started
with a blank, and `breaks` counts the empty lines after it. -/
def joinLines (literal : Bool) : (before : Option Bool) → (breaks : Nat) →
    List (List Char) → List Char
  | _, _, [] => []
  | before, breaks, [] :: rest => joinLines literal before (breaks + 1) rest
  | before, breaks, (c :: cs) :: rest =>
      let glue := match before with
        | none => []
        | some spaced =>
            if literal || spaced || isSpace c then ['\n'] else if breaks = 0 then [' '] else []
      glue ++ List.replicate breaks '\n' ++ c :: cs ++
        joinLines literal (some (isSpace c)) 0 rest

/-- The text of a block. -/
def blockText (literal : Bool) (chomping : Chomping) (lines : List (List Char)) : List Char :=
  let trailing := (lines.reverse.takeWhile List.isEmpty).length
  let body := lines.take (lines.length - trailing)
  let ending := if body.isEmpty then [] else ['\n']
  joinLines literal none 0 body ++
    match chomping with
    | .strip => []
    | .clip => ending
    | .keep => ending ++ List.replicate trailing '\n'

/-- Reads a block after its mark.  A line belongs to it if it is indented enough or empty. -/
def readBlock? (literal : Bool) (least : Nat) (cs : List Char) :
    Option (List Char × List Char) :=
  let (head, rest) := takeHead 2 ⟨.clip, none⟩ (cs.takeWhile (· != '\n'))
  let clear : Bool := match rest with
    | [] => true
    | c :: _ => isSpace c && isEmptyLine rest
  if clear && head.indentation != some 0 then
    let lines := ((cs.dropWhile (· != '\n')).drop 1).splitOn '\n'
    let lines := if lines.getLast? = some [] then lines.dropLast else lines
    let indentation := match head.indentation with
      | some n => (least - 1) + n
      | none => foundIndentation least lines
    let inside := lines.takeWhile fun line => indentation ≤ indentationOf line || isSpaces line
    let after := lines.drop inside.length
    some (blockText literal head.chomping (inside.map (·.drop indentation)),
      ['\n'].intercalate after)
  else none

end Yaml
end Audience
