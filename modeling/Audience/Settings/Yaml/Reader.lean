import Audience.Settings.Layer
import Audience.Settings.Yaml.Place

/-!
# Settings in YAML

A YAML document is a node.  Nodes of blocks are told apart by their columns: the parts of a
mapping or a sequence start in the same column, and what they hold is further to the right.
Nodes between brackets and braces may be laid out freely.

**Documents.**  A line of three hyphens starts a document, and a line of three dots ends it.
There may be one document, which must be a mapping, or none.

**Keys** are texts or integers, and no key may be given twice.

**Fuel.**  The readers call each other with one unit of fuel less.  At most four calls are made
before a character is taken off the text, so four times its length is enough.
-/

namespace Audience

open Text

namespace Yaml

/-- A part of a sequence starts here. -/
def atEntry (p : Place) : Bool :=
  match p.rest with
  | '-' :: rest => endsWord rest
  | _ => false

/-- A key that stands after a mark starts here. -/
def atMarkedKey (p : Place) : Bool :=
  match p.rest with
  | '?' :: rest => endsWord rest
  | _ => false

/-- The value of a key that stands after a mark starts here. -/
def atMarkedValue (column : Nat) (p : Place) : Bool :=
  match p.rest with
  | ':' :: rest => p.fresh && p.column == column && endsWord rest
  | _ => false

/-- The column is large enough for a part between brackets. -/
def isInside (least : Nat) (p : Place) : Bool := !p.fresh || least ≤ p.column + 1

/-- A scalar between quotes or a plain one. -/
def readScalar? (flow : Bool) (least : Nat) (props : Properties) (p : Place) :
    Option (Setting × Place) := do
  let (v, rest) ← match p.rest with
    | '"' :: rest => do
        let (text, rest) ← readDouble (.blanks []) rest
        (props.scalar? false text).map fun v => (v, rest)
    | '\'' :: rest => do
        let (text, rest) ← readSingle (.blanks []) rest
        (props.scalar? false text).map fun v => (v, rest)
    | cs =>
        if startsPlain flow cs then
          let (text, rest) := readPlain flow least (cs.length + 1) cs
          (props.scalar? true text).map fun v => (v, rest)
        else none
  return (v, (props.keep v p).moved rest)

/-- A value that is written nowhere. -/
def readMissing? (props : Properties) (p : Place) : Option (Setting × Place) :=
  (props.scalar? true []).map fun v => (v, props.keep v p)

mutual

/-- Reads a node between brackets. -/
def readFlow : Nat → (least : Nat) → Properties → Place → Option (Setting × Place)
  | 0, _, _, _ => none
  | fuel + 1, least, props, p =>
      let q := p.skip
      if !isInside least q then none
      else
        match q.rest with
        | '[' :: rest => do
            let (items, q) ← readFlowItems fuel least (q.moved rest)
            return (.list items, props.keep (.list items) q)
        | '\x7b' :: rest => do
            let (members, q) ← readFlowMembers fuel least [] (q.moved rest)
            return (.table members, props.keep (.table members) q)
        | '*' :: rest => (takeAlias? q.anchors rest).map fun (v, rest) => (v, q.moved rest)
        | cs =>
            match takeProperty? props cs with
            | some (props, rest) => readFlow fuel least props (q.moved rest)
            | none => readScalar? true least props q

/-- Reads a value between brackets, which may be missing. -/
def readFlowValue : Nat → (least : Nat) → Place → Option (Setting × Place)
  | 0, _, _ => none
  | fuel + 1, least, p =>
      let q := p.skip
      match q.rest with
      | [] => none
      | c :: _ =>
          if c = ',' ∨ c = ']' ∨ c = '\x7d' then some (.nothing, q)
          else readFlow fuel least .none q

/-- Reads a node between brackets and the value after a colon, if it is a key. -/
def readFlowPair : Nat → (least : Nat) → Place → Option (Setting × Option Setting × Place)
  | 0, _, _ => none
  | fuel + 1, least, p => do
      let (v, q) ← readFlow fuel least .none p
      let quoted := (p.skip).rest.head?.any fun c => c == '"' || c == '\''
      let tight := quoted && q.rest.head? = some ':'
      let q := q.skip
      match q.rest with
      | ':' :: rest =>
          if tight || endsKey true rest then
            let (w, q) ← readFlowValue fuel least (q.moved rest)
            return (v, some w, q.skip)
          else none
      | _ => return (v, none, q)

/-- Reads items up to and including the closing bracket. -/
def readFlowItems : Nat → (least : Nat) → Place → Option (List Setting × Place)
  | 0, _, _ => none
  | fuel + 1, least, p =>
      match p.skip.rest with
      | ']' :: rest => some ([], p.skip.moved rest)
      | _ => do
          let (v, w, q) ← readFlowPair fuel least p
          let item ← match w with
            | none => some v
            | some w => (Key.of? v).map fun key => .table [(key.toString, w)]
          match q.rest with
          | ']' :: rest => some ([item], q.moved rest)
          | ',' :: rest =>
              let (items, q) ← readFlowItems fuel least (q.moved rest)
              return (item :: items, q)
          | _ => none

/-- Reads members up to and including the closing brace; `seen` are the keys before. -/
def readFlowMembers : Nat → (least : Nat) → (seen : List Key) → Place →
    Option (Layer.Members × Place)
  | 0, _, _, _ => none
  | fuel + 1, least, seen, p =>
      match p.skip.rest with
      | '\x7d' :: rest => some ([], p.skip.moved rest)
      | _ => do
          let (v, w, q) ← readFlowPair fuel least p
          let key ← Key.of? v
          let member := (key.toString, w.getD .nothing)
          if seen.contains key then none
          else
            match q.rest with
            | '\x7d' :: rest => some ([member], q.moved rest)
            | ',' :: rest =>
                let (members, q) ← readFlowMembers fuel least (key :: seen) (q.moved rest)
                return (member :: members, q)
            | _ => none

end

mutual

/-- Reads a node of a block.  It starts in column `least` or later, but a sequence may start in
column `dashes`. -/
def readNode : Nat → (least dashes : Nat) → Properties → Place → Option (Setting × Place)
  | 0, _, _, _, _ => none
  | fuel + 1, least, dashes, props, p =>
      let q := p.skip
      if q.fresh && atEntry q && dashes ≤ q.column then do
        let (items, q) ← readEntries fuel q.column q
        return (.list items, props.keep (.list items) q)
      else if q.rest.isEmpty || (q.fresh && q.column < least) then readMissing? props q
      else if q.fresh && (atMarkedKey q || (takeKey? q).isSome) then do
        let (members, q) ← readPairs fuel q.column [] q
        return (.table members, props.keep (.table members) q)
      else
        match q.rest with
        | '|' :: rest => do
            let (text, rest) ← readBlock? true least rest
            let v := Setting.text (String.ofList text)
            return (v, { props.keep v q with column := 0, fresh := true, rest := rest })
        | '>' :: rest => do
            let (text, rest) ← readBlock? false least rest
            let v := Setting.text (String.ofList text)
            return (v, { props.keep v q with column := 0, fresh := true, rest := rest })
        | '[' :: _ => readFlow fuel least props q
        | '\x7b' :: _ => readFlow fuel least props q
        | '*' :: _ => readFlow fuel least props q
        | cs =>
            match takeProperty? props cs with
            | some (props, rest) => readNode fuel least dashes props (q.moved rest)
            | none => readScalar? false least props q

/-- Reads the parts of a sequence that start in a column. -/
def readEntries : Nat → (column : Nat) → Place → Option (List Setting × Place)
  | 0, _, _ => none
  | fuel + 1, column, p => do
      let (v, q) ← readNode fuel (column + 1) (column + 1) .none (p.advance 1)
      let q := q.skip
      if !q.rest.isEmpty && (!q.fresh || column < q.column) then none
      else if !q.rest.isEmpty && q.column == column && atEntry q then
        let (vs, q) ← readEntries fuel column q
        return (v :: vs, q)
      else return ([v], q)

/-- Reads a key of a mapping that starts in a column, and its value. -/
def readPair : Nat → (column : Nat) → Place → Option (Key × Setting × Place)
  | 0, _, _ => none
  | fuel + 1, column, p =>
      if atMarkedKey p then do
        let (k, q) ← readNode fuel (column + 1) column .none (p.advance 1)
        let key ← Key.of? k
        let q := q.skip
        if atMarkedValue column q then
          let (v, q) ← readNode fuel (column + 1) column .none (q.advance 1)
          return (key, v, q)
        else return (key, .nothing, q)
      else do
        let (key, q) ← takeKey? p
        let (v, q) ← readNode fuel (column + 1) column .none q
        return (key, v, q)

/-- Reads the parts of a mapping that start in a column; `seen` are the keys before. -/
def readPairs : Nat → (column : Nat) → (seen : List Key) → Place →
    Option (Layer.Members × Place)
  | 0, _, _, _ => none
  | fuel + 1, column, seen, p => do
      let (key, v, q) ← readPair fuel column p
      let q := q.skip
      if seen.contains key || (!q.rest.isEmpty && (!q.fresh || column < q.column)) then none
      else if !q.rest.isEmpty && q.column == column then
        let (members, q) ← readPairs fuel column (key :: seen) q
        return ((key.toString, v) :: members, q)
      else return ([(key.toString, v)], q)

end

/-- The lines of a text.  A carriage return is a line break, with or without a line feed. -/
def unifyBreaks : List Char → List Char
  | [] => []
  | '\r' :: '\n' :: rest => '\n' :: unifyBreaks rest
  | c :: rest => (if c = '\r' then '\n' else c) :: unifyBreaks rest

/-- A line starts with three characters of a kind and nothing clings to them. -/
def isMarker (mark : Char) (line : List Char) : Bool :=
  line.take 3 == List.replicate 3 mark && endsWord (line.drop 3)

/-- A line between documents. -/
def isOutside (line : List Char) : Bool :=
  isEmptyLine line || (isMarker '.' line && isEmptyLine (line.drop 3))

/-- The version of YAML in a line that gives it. -/
def isVersion (line : List Char) : Bool :=
  let parts := (((line.drop 5).dropWhile isSpace).takeWhile (!isSpace ·)).splitOn '.'
  parts.length == 2 && parts.all fun ds => !ds.isEmpty && ds.all fun c => (Digit.ofChar? c).isSome

/-- A line in front of a document that tells how to read it. -/
def isDirective (line : List Char) : Bool :=
  line.head? == some '%' && (line.take 5 != "%YAML".toList || isVersion line)

/-- The place where the only document starts and the lines after it; none inside is no
document.  `told` says that there have been directives. -/
def openDocument? (told : Bool) : List (List Char) → Option (Option (Bool × List (List Char)))
  | [] => if told then none else some none
  | line :: rest =>
      if isMarker '-' line then some (some (false, line.drop 3 :: rest))
      else if isOutside line then openDocument? told rest
      else if isDirective line then openDocument? true rest
      else if told || line.head? == some '%' then none
      else some (some (true, line :: rest))

/-- Reads the lines of a document, and checks that no other document follows. -/
def readDocument? (fresh : Bool) (lines : List (List Char)) : Option Layer.Members := do
  let body := lines.take 1 ++
    (lines.drop 1).takeWhile fun line => !isMarker '-' line && !isMarker '.' line
  let cs := ['\n'].intercalate body
  let start : Place := ⟨if fresh then 0 else 3, fresh, [], cs⟩
  let (v, p) ← readNode (4 * cs.length + 4) 0 0 .none start
  match v with
  | .table members =>
      if p.skip.rest.isEmpty ∧ (lines.drop body.length).all isOutside = true then some members
      else none
  | _ => none

/-- Reads a text. -/
def parse? (cs : List Char) : Option Layer.Members := do
  match ← openDocument? false ((unifyBreaks cs).splitOn '\n') with
  | none => some []
  | some (fresh, lines) => readDocument? fresh lines

end Yaml
end Audience
