import Audience.Settings.Yaml.Scalar

/-!
# Places in YAML documents

A reader of a document stands at a place: a column, and what follows.  A place is fresh as long
as only spaces and marks of blocks stand in front of it on its line; only there a mapping or a
sequence of a block may start.

**Names.**  The part of a document that an anchor names may be used again by an alias, so a
place also knows the values of the anchors before it.
-/

namespace Audience

open Text

namespace Yaml

/-- A place in a document. -/
structure Place where
  column : Nat
  fresh : Bool
  anchors : List (String × Setting)
  rest : List Char

namespace Place

/-- Skips blanks, comments and line breaks.  A comment starts after a blank (`blank`) and goes
to the end of its line (`comment`); a tab in front of a line makes it stale. -/
def skipFrom (anchors : List (String × Setting)) :
    (comment blank fresh : Bool) → (column : Nat) → List Char → Place
  | _, _, fresh, column, [] => ⟨column, fresh, anchors, []⟩
  | comment, blank, fresh, column, c :: rest =>
      if c = '\n' then skipFrom anchors false true true 0 rest
      else if comment then skipFrom anchors true true fresh (column + 1) rest
      else if c = ' ' then skipFrom anchors false true fresh (column + 1) rest
      else if c = '\t' then skipFrom anchors false true false (column + 1) rest
      else if c = '#' && blank then skipFrom anchors true true fresh (column + 1) rest
      else ⟨column, fresh, anchors, c :: rest⟩

/-- Skips blanks, comments and line breaks. -/
def skip (p : Place) : Place :=
  skipFrom p.anchors false (p.column == 0) p.fresh p.column p.rest

/-- The place after some characters of the line. -/
def advance (n : Nat) (p : Place) : Place :=
  { p with column := p.column + n, rest := p.rest.drop n }

/-- A later place on a line that is stale. -/
def moved (rest : List Char) (p : Place) : Place := { p with fresh := false, rest := rest }

end Place

/-- A mark inside brackets or braces. -/
def isFlowMark (c : Char) : Bool :=
  c == ',' || c == '[' || c == ']' || c == '\x7b' || c == '\x7d'

/-- A word ends here. -/
def endsWord (cs : List Char) : Bool :=
  match cs with
  | [] => true
  | c :: _ => isSpace c || c == '\n'

/-- What follows a colon lets it end a key; `flow` says that one is inside brackets. -/
def endsKey (flow : Bool) (cs : List Char) : Bool :=
  endsWord cs || (flow && cs.head?.any isFlowMark)

/-- A plain scalar may start here. -/
def startsPlain (flow : Bool) : List Char → Bool
  | [] => false
  | c :: rest =>
      if c = '-' ∨ c = '?' ∨ c = ':' then !endsKey flow rest
      else !(isFlowMark c || isSpace c || "\n#&*!|>'\"%@`".toList.contains c)

/-- Reads the part of a plain scalar that is on a line; `spaces` are the blanks in front, in
reverse.  Blanks at its end stay. -/
def plainLine (flow : Bool) (spaces : List Char) : List Char → List Char × List Char
  | [] => ([], [])
  | c :: rest =>
      if isSpace c then plainLine flow (c :: spaces) rest
      else if c = '\n' ∨ (c = '#' ∧ spaces ≠ []) ∨ (c = ':' ∧ endsKey flow rest = true) ∨
          (flow = true ∧ isFlowMark c = true) then ([], spaces.reverse ++ c :: rest)
      else
        let (cs, rest) := plainLine flow [] rest
        (spaces.reverse ++ c :: cs, rest)

/-- The next line that is not empty: the number of line breaks before it and its column. -/
def nextLine (breaks column : Nat) : List Char → Option (Nat × Nat × List Char)
  | [] => none
  | c :: rest =>
      if c = '\n' then nextLine (breaks + 1) 0 rest
      else if isSpace c then nextLine breaks (column + 1) rest
      else some (breaks, column, c :: rest)

/-- Reads a plain scalar whose lines have at least a given column; `fuel` bounds their
number. -/
def readPlain (flow : Bool) (least : Nat) : Nat → List Char → List Char × List Char
  | 0, cs => ([], cs)
  | fuel + 1, cs =>
      let (text, rest) := plainLine flow [] cs
      match nextLine 0 0 rest with
      | none => (text, rest)
      | some (breaks, column, next) =>
          if breaks = 0 ∨ next.head? = some '#' ∨ (flow = false ∧ column < least) then
            (text, rest)
          else
            match readPlain flow least fuel next with
            | ([], _) => (text, rest)
            | (c :: cs, after) => (text ++ (Pending.breaks breaks).text ++ c :: cs, after)

/-- What may be said of a node in front of it. -/
structure Properties where
  anchor : Option String
  tag : Option Tag

namespace Properties

/-- Nothing is said. -/
def none : Properties := ⟨.none, .none⟩

/-- The value of a scalar. -/
def scalar? (props : Properties) (plain : Bool) (cs : List Char) : Option Setting :=
  if plain then
    match props.tag with
    | .none => ofPlain? (String.ofList cs)
    | some tag => ofTagged? tag (String.ofList cs)
  else some (.text (String.ofList cs))

/-- Keeps a value under its anchor. -/
def keep (props : Properties) (v : Setting) (p : Place) : Place :=
  match props.anchor with
  | .none => p
  | some name => { p with anchors := (name, v) :: p.anchors }

end Properties

/-- The characters of the name of an anchor or a tag. -/
def takeName (cs : List Char) : List Char × List Char :=
  let isName := fun c => !(isSpace c || c == '\n' || isFlowMark c)
  (cs.takeWhile isName, cs.dropWhile isName)

/-- The tag of a name after its mark.  Names with a mark of their own are not known. -/
def tagOf? : List Char → Option Tag
  | '!' :: name => if name.isEmpty then none else some (.core (String.ofList name))
  | '<' :: name => if name.getLast? = some '>' then some .other else none
  | name => if name.contains '!' then none else some .other

/-- Takes an anchor or a tag that has not been given yet. -/
def takeProperty? (props : Properties) : List Char → Option (Properties × List Char)
  | '&' :: rest =>
      let (name, rest) := takeName rest
      if name.isEmpty ∨ props.anchor.isSome then none
      else some ({ props with anchor := some (String.ofList name) }, rest)
  | '!' :: rest =>
      let (name, rest) := takeName rest
      if props.tag.isSome then none
      else (tagOf? name).map fun tag => ({ props with tag := some tag }, rest)
  | _ => none

/-- Takes the anchor and the tag in front, and the blanks after them. -/
def takeProperties (props : Properties) : Nat → List Char → Properties × List Char
  | 0, cs => (props, cs)
  | fuel + 1, cs =>
      match takeProperty? props cs with
      | some (props, rest) => takeProperties props fuel (rest.dropWhile isSpace)
      | none => (props, cs)

/-- The value of an alias after its mark. -/
def takeAlias? (anchors : List (String × Setting)) (cs : List Char) :
    Option (Setting × List Char) :=
  let (name, rest) := takeName cs
  (Keyed.find? (String.ofList name) anchors).map fun v => (v, rest)

/-- A key of a mapping. -/
inductive Key
  | text (value : String)
  | integer (value : Int)
deriving DecidableEq

namespace Key

/-- The key of a value. -/
def of? : Setting → Option Key
  | .text s => some (text s)
  | .integer i => some (integer i)
  | _ => none

/-- A key as text. -/
def toString : Key → String
  | text s => s
  | integer i => String.ofList (signedDecimal i)

end Key

/-- Takes a scalar of one line: its value and what follows. -/
def takeLineScalar? (props : Properties) (p : Place) (cs : List Char) :
    Option (Setting × List Char) := do
  let (v, rest) ← match cs with
    | '"' :: rest => do
        let (text, rest) ← readDouble (.blanks []) rest
        (props.scalar? false text).map fun v => (v, rest)
    | '\'' :: rest => do
        let (text, rest) ← readSingle (.blanks []) rest
        (props.scalar? false text).map fun v => (v, rest)
    | '*' :: rest => takeAlias? p.anchors rest
    | cs =>
        if startsPlain false cs then
          let (text, rest) := plainLine false [] cs
          (props.scalar? true text).map fun v => (v, rest)
        else none
  if (cs.take (cs.length - rest.length)).contains '\n' then none else some (v, rest)

/-- Takes the key in front of a line and its colon. -/
def takeKey? (p : Place) : Option (Key × Place) := do
  let (props, cs) := takeProperties .none 2 p.rest
  let (v, rest) ← takeLineScalar? props p cs
  match rest.dropWhile isSpace with
  | ':' :: rest =>
      if endsKey false rest then
        let key ← Key.of? v
        return (key, (props.keep v p).moved rest)
      else none
  | _ => none

end Yaml
end Audience
