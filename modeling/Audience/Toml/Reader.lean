import Audience.Toml.Quoted
import Audience.Toml.Scalar

/-!
# Reading TOML documents

A document is read line by line.  A header opens a table, and the lines after it put values
at keys of that table.  Arrays may go over several lines with comments in them, inline tables
may not.

**Depth.**  Arrays and inline tables may be nested to a limit: `levels` are those that may
still be opened.

**Fuel.**  The readers for values, items and pairs call each other with one unit of fuel
less.  Every second call takes a character off the text, so twice its length is enough.
-/

namespace Audience
namespace Toml

/-- Skips blanks, line breaks and comments; `comment` says that a comment has started. -/
def skipGaps (comment : Bool) : List Char → Option (List Char)
  | [] => some []
  | '\n' :: rest => skipGaps false rest
  | '\r' :: '\n' :: rest => skipGaps false rest
  | c :: rest =>
      if comment then (if isPlain c then skipGaps true rest else none)
      else if isBlank c then skipGaps false rest
      else if c = '#' then skipGaps true rest
      else some (c :: rest)

mutual

/-- Reads a value. -/
def readValue : Nat → (levels : Nat) → List Char → Option (Node × List Char)
  | 0, _, _ => none
  | fuel + 1, levels, cs =>
      match cs, levels with
      | '[' :: _, 0 => none
      | '\x7b' :: _, 0 => none
      | '[' :: rest, levels + 1 =>
          (readItems fuel levels rest).map fun (items, after) => (.list items, after)
      | '\x7b' :: rest, levels + 1 =>
          match skipBlanks rest with
          | '\x7d' :: after => some (.table .inline [], after)
          | _ => do
              let (pairs, after) ← readPairs fuel levels rest
              return (← inlineTable pairs, after)
      | cs, _ =>
          match readString? cs with
          | some (text, after) => some (.scalar (.text (String.ofList text)), after)
          | none =>
              if cs.head? = some '"' ∨ cs.head? = some '\'' then none
              else (takeWord? cs).map fun (v, after) => (.scalar v, after)

/-- Reads items up to and including the closing bracket; a comma may stand before it. -/
def readItems : Nat → (levels : Nat) → List Char → Option (List Node × List Char)
  | 0, _, _ => none
  | fuel + 1, levels, cs => do
      match ← skipGaps false cs with
      | ']' :: after => some ([], after)
      | cs =>
          let (item, rest) ← readValue fuel levels cs
          match ← skipGaps false rest with
          | ']' :: after => some ([item], after)
          | ',' :: rest =>
              let (items, after) ← readItems fuel levels rest
              return (item :: items, after)
          | _ => none

/-- Reads keys with values up to and including the closing brace. -/
def readPairs : Nat → (levels : Nat) → List Char →
    Option (List (List String × Node) × List Char)
  | 0, _, _ => none
  | fuel + 1, levels, cs => do
      let (keys, rest) ← readKey cs
      match rest with
      | '=' :: rest =>
          let (value, rest) ← readValue fuel levels (skipBlanks rest)
          match skipBlanks rest with
          | '\x7d' :: after => some ([(keys, value)], after)
          | ',' :: rest =>
              let (pairs, after) ← readPairs fuel levels rest
              return ((keys, value) :: pairs, after)
          | _ => none
      | _ => none

end

/-- Takes the end of a line: blanks, an optional comment, and a line break or the end. -/
def takeLineEnd (cs : List Char) : Option (List Char) :=
  let rest := match skipBlanks cs with
    | '#' :: rest => rest.dropWhile isPlain
    | rest => rest
  if rest.isEmpty then some [] else takeBreak? rest

/-- A document so far, and the path of the table that is open. -/
structure Progress where
  root : Members
  current : List String

/-- Opens the table of a header. -/
def Progress.enter (start : String → Members → Option Members) (keys : List String)
    (p : Progress) : Option Progress :=
  match keys.getLast? with
  | none => none
  | some key => (within (start key) keys.dropLast p.root).map fun root => ⟨root, keys⟩

/-- Puts a value at a key of the open table. -/
def Progress.assign (keys : List String) (value : Node) (p : Progress) : Option Progress :=
  (within (put value keys) p.current p.root).map fun root => { p with root := root }

/-- Reads what a line holds up to its end. -/
def readLine (p : Progress) : List Char → Option (Progress × List Char)
  | '[' :: '[' :: rest => do
      let (keys, rest) ← readKey rest
      match rest with
      | ']' :: ']' :: rest => return (← p.enter startItem keys, rest)
      | _ => none
  | '[' :: rest => do
      let (keys, rest) ← readKey rest
      match rest with
      | ']' :: rest => return (← p.enter startTable keys, rest)
      | _ => none
  | cs => do
      let (keys, rest) ← readKey cs
      match rest with
      | '=' :: rest =>
          let (value, rest) ← readValue (2 * rest.length + 2) depthLimit (skipBlanks rest)
          return (← p.assign keys value, rest)
      | _ => none

/-- Reads lines; each of them takes at least one character. -/
def readLines : Nat → Progress → List Char → Option Progress
  | 0, _, _ => none
  | fuel + 1, p, cs => do
      match ← skipGaps false cs with
      | [] => some p
      | cs =>
          let (p, rest) ← readLine p cs
          let rest ← takeLineEnd rest
          readLines fuel p rest

/-- Removes a byte order mark in front. -/
def dropMark : List Char → List Char
  | [] => []
  | c :: rest => if c.toNat = 0xFEFF then rest else c :: rest

/-- Reads a document: the members of its outermost table. -/
def parse? (cs : List Char) : Option Members :=
  (readLines (cs.length + 1) ⟨[], []⟩ (dropMark cs)).map Progress.root

end Toml
end Audience
