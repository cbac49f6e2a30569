import Audience.Settings.Layer
import Audience.Text.Code

/-!
# Settings in RON

RON writes lists in brackets, maps in braces, and structures in parentheses, with or without
a name in front.  A structure with keys is a table and one without is a list; a name alone
holds nothing, and so do the unit and an absent option.

**Numbers.**  Integers may be written in base 2, 8, 10 or 16, and underscores may stand between
their digits.  A number that is no integer of 64 bits is a double.

**Depth.**  Values may be nested to a limit: each collection and each of its parts takes one
of the levels that are left.

**Fuel.**  The readers for values, items and members call each other with one unit of fuel
less.  Every second call takes a character off the text, so twice its length is enough.

**Results.**
* `Ron.ofNatural?_of_lt`: integers of 63 bits stay integers.
-/

namespace Audience

open Text

namespace Ron

/-- Where one stands between words: outside of comments, in a line that is one, or in some
comments that hold each other. -/
inductive Gap
  | outside
  | line
  | block (depth : Nat)

/-- Skips blanks and comments. -/
def skipGaps : Gap → List Char → Option (List Char)
  | .outside, [] => some []
  | .line, [] => some []
  | .block _, [] => none
  | .outside, '/' :: '/' :: rest => skipGaps .line rest
  | .outside, '/' :: '*' :: rest => skipGaps (.block 0) rest
  | .outside, c :: rest =>
      if c = ' ' ∨ c = '\t' ∨ c = '\n' ∨ c = '\r' then skipGaps .outside rest
      else some (c :: rest)
  | .line, c :: rest => skipGaps (if c = '\n' then .outside else .line) rest
  | .block depth, '/' :: '*' :: rest => skipGaps (.block (depth + 1)) rest
  | .block 0, '*' :: '/' :: rest => skipGaps .outside rest
  | .block (depth + 1), '*' :: '/' :: rest => skipGaps (.block depth) rest
  | .block depth, _ :: rest => skipGaps (.block depth) rest

/-- A letter, a digit or an underscore. -/
def isNameChar (c : Char) : Bool := (c.isAlphanum && c.toNat < 0x80) || c == '_'

/-- A character that may not follow a name. -/
def clings (c : Char) : Bool := c == '.' || c == '+' || c == '-'

/-- Takes a name from the front. -/
def takeName? (cs : List Char) : Option (String × List Char) :=
  let name := cs.takeWhile isNameChar
  let rest := cs.dropWhile isNameChar
  match name with
  | [] => none
  | c :: _ =>
      if (Digit.ofChar? c).isSome ∨ rest.head?.any clings = true ∨
          (name = ['r'] ∧ (rest.head? = some '"' ∨ rest.head? = some '#')) then none
      else some (String.ofList name, rest)

/-- Takes a word from the front that no further character of a name follows. -/
def takeWord? (word : String) (cs : List Char) : Option (List Char) :=
  let rest := cs.drop word.length
  if word.toList.isPrefixOf cs ∧ rest.head?.any isNameChar = false then some rest else none

/-- Takes the code of an escape between braces: one to six hexadecimal digits. -/
def takeCode? (cs : List Char) : Option (Char × List Char) :=
  let digits := cs.takeWhile fun c => (HexDigit.ofChar? c).isSome
  match cs.drop digits.length with
  | '\x7d' :: rest =>
      if digits.isEmpty ∨ 6 < digits.length then none
      else (ofHexCode? digits).map fun c => (c, rest)
  | _ => none

/-- Takes an escape after its backslash. -/
def takeEscape? : List Char → Option (Char × List Char)
  | [] => none
  | 'x' :: a :: b :: rest => (ofHexCode? [a, b]).map fun c => (c, rest)
  | 'u' :: '\x7b' :: rest => takeCode? rest
  | c :: rest =>
      if c = '\'' ∨ c = '"' ∨ c = '\\' then some (c, rest)
      else if c = 'n' then some ('\n', rest)
      else if c = 'r' then some ('\r', rest)
      else if c = 't' then some ('\t', rest)
      else if c = '0' then some (Char.ofNat 0, rest)
      else none

/-- Reads a text after its opening quote; every step takes a character. -/
def readText : Nat → List Char → Option (List Char × List Char)
  | 0, _ => none
  | _ + 1, [] => none
  | _ + 1, '"' :: rest => some ([], rest)
  | fuel + 1, '\\' :: rest => do
      let (c, rest) ← takeEscape? rest
      prepend c (readText fuel rest)
  | fuel + 1, c :: rest => prepend c (readText fuel rest)

/-- Reads a text without escapes up to a quote with as many number signs as it began with. -/
def readRaw (signs : Nat) : List Char → Option (List Char × List Char)
  | [] => none
  | c :: rest =>
      if c = '"' ∧ rest.take signs = List.replicate signs '#' then some ([], rest.drop signs)
      else prepend c (readRaw signs rest)

/-- Takes a text between quotes. -/
def takeText? : List Char → Option (List Char × List Char)
  | '"' :: rest => readText (rest.length + 1) rest
  | 'r' :: rest =>
      let signs := (rest.takeWhile (· == '#')).length
      match rest.drop signs with
      | '"' :: rest => readRaw signs rest
      | _ => none
  | _ => none

/-- Takes a character between apostrophes. -/
def takeChar? (cs : List Char) : Option (Char × List Char) := do
  let (c, rest) ← match cs with
    | '\\' :: rest => takeEscape? rest
    | c :: rest => if c = '\'' then none else some (c, rest)
    | [] => none
  match rest with
  | '\'' :: rest => some (c, rest)
  | _ => none

/-- A character of an integer in any base. -/
def isIntegerChar (c : Char) : Bool := (HexDigit.ofChar? c).isSome || c == '_'

/-- A character of a double. -/
def isRealChar (c : Char) : Bool :=
  (Digit.ofChar? c).isSome || c == 'e' || c == 'E' || c == '_' || clings c

/-- The number that digits of a base stand for. -/
def naturalOf? (base : Nat) (cs : List Char) : Option Nat := do
  let ds ← (cs.filter (· != '_')).mapM HexDigit.ofChar?
  if cs.head? = none ∨ cs.head? = some '_' ∨ ds.any (base ≤ ·.val) then none
  else some (valueIn base ds)

/-- The base of an integer and its digits. -/
def takeBase : List Char → Nat × List Char
  | '0' :: 'x' :: cs => (16, cs)
  | '0' :: 'b' :: cs => (2, cs)
  | '0' :: 'o' :: cs => (8, cs)
  | cs => (10, cs)

/-- The setting of an integer without sign, if it has 64 bits. -/
def ofNatural? (n : Nat) : Option Setting :=
  if n < 2 ^ 63 then some (.integer n)
  else if n < 2 ^ 64 then some (.real (Decimal.mk false n 0).toBinary64)
  else none

theorem ofNatural?_of_lt {n : Nat} (h : n < 2 ^ 63) : ofNatural? n = some (.integer n) := by
  simp only [ofNatural?, if_pos h]

/-- The setting of an integer with a sign, if it has 64 bits. -/
def ofSigned? (negative : Bool) (n : Nat) : Option Setting :=
  let i : Int := if negative then -(n : Int) else n
  if -(2 ^ 63) ≤ i ∧ i < 2 ^ 63 then some (.integer i) else none

/-- Takes an integer. -/
def takeInteger? (cs : List Char) : Option (Setting × List Char) :=
  let unsigned := if cs.head?.any clings then cs.drop 1 else cs
  let (base, digits) := takeBase unsigned
  let rest := digits.dropWhile isIntegerChar
  (naturalOf? base (digits.takeWhile isIntegerChar)).bind fun n =>
    let v := if cs.head?.any clings then ofSigned? (cs.head? = some '-') n else ofNatural? n
    v.map fun v => (v, rest)

/-- Takes a double. -/
def takeReal? (cs : List Char) : Option (Setting × List Char) :=
  match takeWord? "+inf" cs, takeWord? "+NaN" cs, takeWord? "-NaN" cs with
  | some rest, _, _ => some (.real (Binary64.infinity false), rest)
  | _, some rest, _ => some (.real Binary64.nan, rest)
  | _, _, some rest => some (.real Binary64.nan, rest)
  | none, none, none =>
      let word := cs.takeWhile isRealChar
      if word.isEmpty ∨ word.contains '_' then none
      else (Entered.readReal word).map fun x => (.real x, cs.dropWhile isRealChar)

/-- Takes a number: a double if it looks like one, an integer, or a double after all. -/
def takeNumber? (cs : List Char) : Option (Setting × List Char) :=
  let digits := if cs.head?.any clings then cs.drop 1 else cs
  let real := (digits.takeWhile isRealChar).length
  if cs.head? = some '.' ∨ (digits.takeWhile isIntegerChar).length < real then takeReal? cs
  else (takeInteger? cs).or (takeReal? cs)

/-- Takes a word with a value. -/
def takeConstant? (cs : List Char) : Option (Setting × List Char) :=
  [("true", .boolean true), ("false", .boolean false), ("None", .nothing),
    ("inf", .real (Binary64.infinity false)), ("-inf", .real (Binary64.infinity true)),
    ("NaN", .real Binary64.nan)].findSome? fun (word, v) =>
      (takeWord? word cs).map fun rest => (v, rest)

/-- A structure has keys if a name and a colon come first. -/
def hasKeys (cs : List Char) : Bool :=
  match (skipGaps .outside cs).bind takeName? with
  | some (_, rest) =>
      match skipGaps .outside rest with
      | some (':' :: _) => true
      | _ => false
  | none => false

/-- Takes a comma or looks at the closing mark. -/
def takeComma? (close : Char) (cs : List Char) : Option (List Char) := do
  match ← skipGaps .outside cs with
  | ',' :: rest => some rest
  | c :: rest => if c = close then some (c :: rest) else none
  | [] => none

/-- The closing mark stands in front. -/
def atClose? (close : Char) (cs : List Char) : Option (List Char) :=
  match cs with
  | c :: rest => if c = close then some rest else none
  | [] => none

mutual

/-- Reads a value. -/
def readValue : Nat → (levels : Nat) → List Char → Option (Setting × List Char)
  | 0, _, _ => none
  | fuel + 1, levels, cs =>
      match takeConstant? cs, takeWord? "Some" cs, takeName? cs with
      | some found, _, _ => some found
      | none, some rest, _ => do
          match levels, ← skipGaps .outside rest with
          | levels + 1, '(' :: rest =>
              let (v, rest) ← readValue fuel levels (← skipGaps .outside rest)
              let rest ← takeComma? ')' rest
              let rest ← atClose? ')' (← skipGaps .outside rest)
              return (v, rest)
          | _, _ => none
      | none, none, some (_, rest) => do
          match ← skipGaps .outside rest with
          | '(' :: rest => readStructure fuel levels rest
          | rest => some (.nothing, rest)
      | none, none, none =>
          match cs with
          | '(' :: ')' :: rest => some (.nothing, rest)
          | '(' :: rest => readStructure fuel levels rest
          | '[' :: rest =>
              if levels = 0 then none
              else (readItems fuel (levels - 1) ']' rest).map fun (vs, rest) => (.list vs, rest)
          | '\x7b' :: rest =>
              if levels = 0 then none
              else
                (readMembers fuel (levels - 1) '\x7d' [] rest).map fun (ms, rest) =>
                  (.table ms, rest)
          | '\'' :: rest =>
              (takeChar? rest).map fun (c, rest) => (.text (String.ofList [c]), rest)
          | cs =>
              ((takeText? cs).map fun (s, rest) => (.text (String.ofList s), rest)).or
                (takeNumber? cs)

/-- Reads a structure after its opening parenthesis. -/
def readStructure : Nat → (levels : Nat) → List Char → Option (Setting × List Char)
  | 0, _, _ => none
  | fuel + 1, levels, cs =>
      if levels = 0 then none
      else if hasKeys cs then
        (readMembers fuel (levels - 1) ')' [] cs).map fun (ms, rest) => (.table ms, rest)
      else (readItems fuel (levels - 1) ')' cs).map fun (vs, rest) => (.list vs, rest)

/-- Reads items up to and including the closing mark. -/
def readItems : Nat → (levels : Nat) → (close : Char) → List Char →
    Option (List Setting × List Char)
  | 0, _, _, _ => none
  | fuel + 1, levels, close, cs => do
      let cs ← skipGaps .outside cs
      match atClose? close cs with
      | some rest => some ([], rest)
      | none =>
          if levels = 0 then none
          else
            let (v, rest) ← readValue fuel (levels - 1) cs
            let rest ← takeComma? close rest
            let (vs, rest) ← readItems fuel levels close rest
            return (v :: vs, rest)

/-- Reads members up to and including the closing mark; `before` are those in front.  The keys
of a structure are names, and those of a map are texts. -/
def readMembers : Nat → (levels : Nat) → (close : Char) → (before : Layer.Members) →
    List Char → Option (Layer.Members × List Char)
  | 0, _, _, _, _ => none
  | fuel + 1, levels, close, before, cs => do
      let cs ← skipGaps .outside cs
      match atClose? close cs with
      | some rest => some (before, rest)
      | none =>
          if levels = 0 then none
          else
            let (key, rest) ←
              if close = ')' then (takeName? cs).map fun (s, rest) => (Setting.text s, rest)
              else readValue fuel (levels - 1) cs
            match key, ← skipGaps .outside rest with
            | .text key, ':' :: rest =>
                let (v, rest) ← readValue fuel (levels - 1) (← skipGaps .outside rest)
                readMembers fuel levels close (Keyed.insert key v before)
                  (← takeComma? close rest)
            | _, _ => none

end

/-- The names of the extensions that a file may ask for. -/
def extensions : List String :=
  ["unwrap_newtypes", "implicit_some", "unwrap_variant_newtypes"]

/-- Takes marks with gaps between them. -/
def takeMarks? : List String → List Char → Option (List Char)
  | [], cs => some cs
  | mark :: marks, cs => do
      let cs ← skipGaps .outside cs
      if mark.toList.isPrefixOf cs then takeMarks? marks (cs.drop mark.length) else none

/-- Takes the names of extensions and the marks after them; `fuel` bounds their number. -/
def takeExtensions? : Nat → List Char → Option (List Char)
  | 0, _ => none
  | fuel + 1, cs => do
      let (name, rest) ← takeName? (← skipGaps .outside cs)
      if extensions.contains name then
        match ← skipGaps .outside rest with
        | ',' :: rest => (takeExtensions? fuel rest).or (takeMarks? [")", "]"] rest)
        | rest => takeMarks? [")", "]"] rest
      else none

/-- Skips the lines in front that ask for extensions, none of which matters for settings. -/
def skipExtensions : Nat → List Char → Option (List Char)
  | 0, _ => none
  | fuel + 1, cs => do
      match ← skipGaps .outside cs with
      | '#' :: rest => do
          let rest ← takeMarks? ["!", "[", "enable", "("] rest
          skipExtensions fuel (← takeExtensions? fuel rest)
      | cs => some cs

/-- How many levels a file may have. -/
def levelLimit : Nat := 128

/-- Reads a file, which must hold a map or a structure with keys. -/
def parse? (cs : List Char) : Option Layer.Members := do
  let cs ← skipExtensions (cs.length + 1) cs
  let (v, rest) ← readValue (3 * cs.length + 3) levelLimit cs
  match v, ← skipGaps .outside rest with
  | .table members, [] => some members
  | _, _ => none

end Ron
end Audience
