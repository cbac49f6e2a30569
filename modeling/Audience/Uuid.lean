import Audience.Text.Digit

/-!
# Universally unique identifiers

An identifier is 32 hexadecimal digits.  It is written in lower case in five
groups of 8, 4, 4, 4 and 12 digits joined by hyphens.

**Reading.**  Four spellings are accepted, each in either letter case: the written
form, the written form between braces, the written form after `urn:uuid:`, and the
32 digits without hyphens.

**Fresh identifiers.**  `IdSource` is a supply of identifiers: a sequence and the
number of those already drawn.  Everything that mints an identifier takes it from
such a supply, so that minting is an ordinary function.

**Results.**
* `parse?_text`: the written form reads back.
* `IdSource.draw_next`: drawing gives the next identifier of the sequence and moves on.
-/

namespace Audience

open Text

/-- A universally unique identifier, as its hexadecimal digits. -/
structure Uuid where
  digits : List HexDigit
  length_eq : digits.length = 32
deriving DecidableEq

namespace Uuid

/-- The lengths of the five groups. -/
def groupLengths : List Nat := [8, 4, 4, 4, 12]

/-- Writes groups of the given lengths, each after a hyphen. -/
def hyphenated : List Nat → List HexDigit → List Char
  | [], _ => []
  | n :: ns, ds => '-' :: (ds.take n).map HexDigit.char ++ hyphenated ns (ds.drop n)

/-- The written form: five groups joined by hyphens. -/
def text (id : Uuid) : List Char :=
  (hyphenated groupLengths id.digits).drop 1

/-- The written form as a string. -/
def toString (id : Uuid) : String := String.ofList id.text

instance : ToString Uuid := ⟨toString⟩

/-- Reads exactly `n` hexadecimal digits from the front. -/
def takeHex : Nat → List Char → Option (List HexDigit × List Char)
  | 0, cs => some ([], cs)
  | _ + 1, [] => none
  | n + 1, c :: cs => do
      let d ← HexDigit.ofChar? c
      let (ds, rest) ← takeHex n cs
      return (d :: ds, rest)

/-- Reads groups of the given lengths, each after a hyphen, up to the end. -/
def readGroups : List Nat → List Char → Option (List HexDigit)
  | [], [] => some []
  | [], _ :: _ => none
  | n :: ns, '-' :: cs => do
      let (ds, rest) ← takeHex n cs
      let more ← readGroups ns rest
      return ds ++ more
  | _ :: _, _ => none

/-- Reads the 32 digits without hyphens. -/
def readPlain (cs : List Char) : Option (List HexDigit) := do
  let (ds, rest) ← takeHex 32 cs
  if rest.isEmpty then some ds else none

/-- Reads the written form. -/
def readHyphenated (cs : List Char) : Option (List HexDigit) :=
  readGroups groupLengths ('-' :: cs)

/-- The text inside braces. -/
def insideBraces : List Char → Option (List Char)
  | '{' :: rest => if rest.getLast? = some '}' then some rest.dropLast else none
  | _ => none

/-- The text after the name of the identifier scheme, which may be in either letter case. -/
def afterScheme (cs : List Char) : Option (List Char) :=
  if (cs.take 9).map Char.toLower = "urn:uuid:".toList then some (cs.drop 9) else none

/-- Reads the digits in any of the four spellings. -/
def readDigits (cs : List Char) : Option (List HexDigit) :=
  match cs.length with
  | 32 => readPlain cs
  | 36 => readHyphenated cs
  | 38 => (insideBraces cs).bind readHyphenated
  | 45 => (afterScheme cs).bind readHyphenated
  | _ => none

/-- An identifier from 32 digits. -/
def ofDigits? (ds : List HexDigit) : Option Uuid :=
  if h : ds.length = 32 then some ⟨ds, h⟩ else none

@[simp] theorem ofDigits?_digits (id : Uuid) : ofDigits? id.digits = some id := by
  simp [ofDigits?, id.length_eq]

/-- Reads an identifier in any of the four spellings. -/
def parse? (s : String) : Option Uuid :=
  (readDigits s.toList).bind ofDigits?

theorem takeHex_append (ds : List HexDigit) (rest : List Char) :
    takeHex ds.length (ds.map HexDigit.char ++ rest) = some (ds, rest) := by
  induction ds with
  | nil => rfl
  | cons d ds ih => simp [takeHex, ih]

theorem readGroups_hyphenated (ns : List Nat) (ds : List HexDigit) (h : ds.length = ns.foldr (· + ·) 0) :
    readGroups ns (hyphenated ns ds) = some ds := by
  induction ns generalizing ds with
  | nil =>
      have : ds = [] := List.length_eq_zero_iff.mp (by simpa using h)
      simp [hyphenated, readGroups, this]
  | cons n ns ih =>
      have hn : (ds.take n).length = n := by
        simp only [List.foldr_cons] at h
        simp
        omega
      have htake := takeHex_append (ds.take n) (hyphenated ns (ds.drop n))
      rw [hn] at htake
      have hrest := ih (ds.drop n) (by
        simp only [List.foldr_cons] at h
        simp
        omega)
      simp only [hyphenated, readGroups, List.cons_append, htake]
      simp [hrest]

theorem length_hyphenated (ns : List Nat) (ds : List HexDigit) (h : ds.length = ns.foldr (· + ·) 0) :
    (hyphenated ns ds).length = ns.length + ns.foldr (· + ·) 0 := by
  induction ns generalizing ds with
  | nil => rfl
  | cons n ns ih =>
      simp only [List.foldr_cons] at h
      have := ih (ds.drop n) (by simp; omega)
      simp only [hyphenated, List.length_append, List.length_cons, List.length_map,
        List.length_take, this, List.foldr_cons]
      omega

theorem hyphen_text (id : Uuid) : '-' :: id.text = hyphenated groupLengths id.digits := rfl

@[simp] theorem length_text (id : Uuid) : id.text.length = 36 := by
  have := length_hyphenated groupLengths id.digits id.length_eq
  rw [← hyphen_text] at this
  simpa [groupLengths] using this

/-- The written form reads back. -/
@[simp] theorem parse?_text (id : Uuid) : parse? id.toString = some id := by
  have hread : readHyphenated id.text = some id.digits := by
    rw [readHyphenated, hyphen_text]
    exact readGroups_hyphenated groupLengths id.digits id.length_eq
  simp [parse?, toString, readDigits, hread]

/-- The identifier with the digits of a number. -/
def ofNat (n : Nat) : Uuid := ⟨hexDigits 32 n, length_hexDigits 32 n⟩

instance : Inhabited Uuid := ⟨ofNat 0⟩

/-- The identifier with the marks of a random one: its version in the thirteenth digit and
its variant in the upper half of the seventeenth. -/
def marked (id : Uuid) : Uuid where
  digits := (id.digits.set 12 (HexDigit.last 4)).modify 16 fun d => HexDigit.last (8 + d.val % 4)
  length_eq := by simp [id.length_eq]

end Uuid

/-- A supply of fresh identifiers. -/
structure IdSource where
  sequence : Nat → Uuid
  drawn : Nat

namespace IdSource

/-- Random identifiers counted up from a seed. -/
def seeded (seed : Nat) : IdSource := ⟨fun n => (Uuid.ofNat (seed + n)).marked, 0⟩

/-- The identifier that is drawn next. -/
def next (ids : IdSource) : Uuid := ids.sequence ids.drawn

/-- The supply after one identifier has been drawn. -/
def advance (ids : IdSource) : IdSource := { ids with drawn := ids.drawn + 1 }

/-- Draws an identifier. -/
def draw (ids : IdSource) : Uuid × IdSource := (ids.next, ids.advance)

@[simp] theorem draw_next (ids : IdSource) : ids.draw = (ids.next, ids.advance) := rfl

end IdSource
end Audience
