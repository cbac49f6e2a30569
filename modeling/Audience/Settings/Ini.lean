import Audience.Settings.Layer
import Audience.Text.Blank
import Audience.Text.Code

/-!
# Settings in INI files

An INI file has keys with texts, one to a line, and sections that are opened by a name in
brackets.  A comment has a line of its own, which starts with a semicolon or a number sign.

**Texts.**  A text goes to the end of its line; it may start with a part between quotes, which
may have several lines.  A backslash is an escape in texts and also in keys and names.  Blanks
at both ends do not count.

**Repetitions.**  A section that is opened again starts anew, and of texts at the same key the
last one counts.
-/

namespace Audience

open Text

namespace Ini

/-- A text without the blanks at its ends. -/
def trimmed (cs : List Char) : String := String.ofList (trim cs)

/-- Removes blanks in front.  The flag says whether a line starts after them. -/
def skipBlanks (fresh : Bool) : List Char → Bool × List Char
  | [] => (fresh, [])
  | c :: rest => if isBlank c then skipBlanks (c == '\n') rest else (fresh, c :: rest)

/-- Removes the blanks in front that stay on the line. -/
def skipInLine (cs : List Char) : List Char :=
  cs.dropWhile fun c => isBlank c && c != '\n' && c != '\r'

/-- The character of an escape of one letter; any other character stands for itself. -/
def escaped (c : Char) : Char :=
  if c = '0' then Char.ofNat 0
  else if c = 'a' then Char.ofNat 0x07
  else if c = 'b' then Char.ofNat 0x08
  else if c = 't' then '\t'
  else if c = 'r' then '\r'
  else if c = 'n' then '\n'
  else c

/-- Reads up to a character that ends a text; the end of the file ends it only if `last`. -/
def readUntil (ends : Char → Bool) (last : Bool) : List Char → Option (List Char × List Char)
  | [] => if last then some ([], []) else none
  | '\\' :: 'x' :: a :: b :: c :: d :: rest => do
      let e ← ofHexCode? [a, b, c, d]
      prepend e (readUntil ends last rest)
  | '\\' :: '\n' :: rest => readUntil ends last rest
  | '\\' :: c :: rest =>
      if c = 'x' then none else prepend (escaped c) (readUntil ends last rest)
  | c :: rest =>
      if ends c then some ([], c :: rest)
      else if c = '\\' then none
      else prepend c (readUntil ends last rest)

/-- A character that ends a line. -/
def isLineEnd (c : Char) : Bool := c == '\n' || c == '\r'

/-- Reads up to the end of the line. -/
def readLine (cs : List Char) : Option (List Char × List Char) := readUntil isLineEnd true cs

/-- Reads a quoted part and what follows it on its line. -/
def readQuoted (quote : Char) (cs : List Char) : Option (List Char × List Char) := do
  let (part, rest) ← readUntil (· == quote) false cs
  let (more, rest) ← readLine (rest.drop 1)
  return (part ++ more, rest)

/-- Reads the text of a key. -/
def readText (cs : List Char) : Option (List Char × List Char) :=
  match skipInLine cs with
  | '"' :: rest => readQuoted '"' rest
  | '\'' :: rest => readQuoted '\'' rest
  | rest => readLine rest

/-- The settings so far, the section that is open, and the key that waits for its text. -/
structure Progress where
  members : Layer.Members
  current : Option String
  key : String

/-- Opens a section. -/
def Progress.enter (name : String) (p : Progress) : Progress :=
  { p with members := Keyed.insert name (.table []) p.members, current := some name }

/-- Puts a text at the key that waits for it. -/
def Progress.assign (s : String) (p : Progress) : Progress :=
  let members := match p.current with
    | none => Keyed.insert p.key (.text s) p.members
    | some name =>
        let inner := Keyed.insert p.key (.text s) (Layer.innerTable name p.members)
        Keyed.insert name (.table inner) p.members
  { p with members := members, key := "" }

/-- Reads one part of a file: a comment, a name, a key or a text. -/
def readPart (fresh : Bool) (p : Progress) : List Char → Option (Progress × Bool × List Char)
  | [] => none
  | c :: rest =>
      if c = ';' ∨ c = '#' then
        if fresh then some (p, true, (rest.dropWhile (· != '\n')).drop 1) else none
      else if c = '[' then do
        let (name, rest) ← readUntil (· == ']') false rest
        return (p.enter (trimmed name), false, rest.drop 1)
      else if c = '=' ∨ c = ':' then
        if p.key = "" then none
        else do
          let (text, rest) ← readText rest
          return (p.assign (trimmed text), false, rest)
      else do
        let (key, rest) ← readUntil (fun c => c == '=' || c == ':') false (c :: rest)
        return ({ p with key := trimmed key }, false, rest)

/-- Reads all parts; each of them takes at least one character. -/
def readParts : Nat → (fresh : Bool) → Progress → List Char → Option Progress
  | 0, _, _, _ => none
  | fuel + 1, fresh, p, cs =>
      match skipBlanks fresh cs with
      | (_, []) => some p
      | (fresh, cs) => do
          let (p, fresh, rest) ← readPart fresh p cs
          readParts fuel fresh p rest

/-- Reads a file. -/
def parse? (cs : List Char) : Option Layer.Members :=
  (readParts (cs.length + 1) true ⟨[], none, ""⟩ cs).map Progress.members

end Ini
end Audience
