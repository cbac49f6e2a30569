import Audience.Text.Digit

/-!
# Paths of settings

A key of a source may be a path into nested tables and lists: a word, then words after dots
and indices in brackets.  An index below zero counts from the end of its list.
-/

namespace Audience

open Text

namespace Path

/-- A step of a path. -/
inductive Step
  | key (word : String)
  | item (index : Int)
deriving DecidableEq

/-- A character of a word. -/
def isWordChar (c : Char) : Bool :=
  (c.isAlphanum && c.toNat < 0x80) || c == '_' || c == '-' || c == ' '

/-- Takes a word from the front. -/
def takeWord? (cs : List Char) : Option (String × List Char) :=
  let word := cs.takeWhile isWordChar
  if word.isEmpty then none else some (String.ofList word, cs.dropWhile isWordChar)

/-- Removes the spaces and tabs in front. -/
def skipSpaces (cs : List Char) : List Char := cs.dropWhile fun c => c == ' ' || c == '\t'

/-- Takes the digits of an index, which has 64 bits with its sign. -/
def takeIndex? (negative : Bool) (cs : List Char) : Option (Int × List Char) :=
  match takeDigits cs with
  | ([], _) => none
  | (d :: ds, rest) =>
      let n : Int := valueOf (d :: ds)
      let index := if negative then -n else n
      if -(2 ^ 63) ≤ index ∧ index < 2 ^ 63 then some (index, rest) else none

/-- Takes an index and its closing bracket. -/
def takeItem? (cs : List Char) : Option (Int × List Char) := do
  let (index, rest) ← match skipSpaces cs with
    | '-' :: rest => takeIndex? true rest
    | rest => takeIndex? false rest
  match skipSpaces rest with
  | ']' :: rest => some (index, rest)
  | _ => none

/-- Takes the step in front. -/
def takeStep? : List Char → Option (Step × List Char)
  | '.' :: cs => (takeWord? cs).map fun (word, rest) => (.key word, rest)
  | '[' :: cs => (takeItem? cs).map fun (index, rest) => (.item index, rest)
  | _ => none

/-- Reads the steps up to the end; `fuel` bounds their number. -/
def readSteps : Nat → List Char → Option (List Step)
  | _, [] => some []
  | 0, _ :: _ => none
  | fuel + 1, c :: cs => do
      let (step, rest) ← takeStep? (c :: cs)
      let steps ← readSteps fuel rest
      return step :: steps

/-- Reads a path. -/
def parse? (cs : List Char) : Option (List Step) := do
  let (word, rest) ← takeWord? cs
  let steps ← readSteps rest.length rest
  return .key word :: steps

/-- The steps of a key; one that is no path is a word as it stands. -/
def ofKey (key : String) : List Step := (parse? key.toList).getD [.key key]

end Path
end Audience
