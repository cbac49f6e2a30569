import Audience.Json.Document
import Audience.Keyed

/-!
# Values that are kept

A `Json` value is what a document means once its spelling is forgotten: objects
have their keys in order and without repetition, and numbers are integers or
doubles.

**Keeping a document.**  `Document.keep? levels` turns a document into a value if
all its strings have a text, all its numbers are in range and its arrays and objects
are nested at most `levels` deep.  Of repeated keys the last one counts.

**Numbers.**  A numeral without point and exponent is an integer when it fits into
64 bits, with or without a sign; every other numeral, and minus zero, is a double.

**Results.**
* `Document.keep?_string`: a string is kept as its text.
* `Json.document_text`, `Json.document_array`: how a value is written.
-/

namespace Audience

/-- A JSON value. -/
inductive Json
  | null
  | boolean (value : Bool)
  | integer (value : Int)
  | real (value : Binary64)
  | text (value : String)
  | array (items : List Json)
  | object (members : List (String × Json))

namespace Json

instance : Inhabited Json := ⟨null⟩

mutual

/-- Equality of values is decided along their structure. -/
def decEq : (a b : Json) → Decidable (a = b)
  | .null, .null => isTrue rfl
  | .boolean a, .boolean b =>
      if h : a = b then isTrue (by rw [h]) else isFalse (by simp [h])
  | .integer a, .integer b =>
      if h : a = b then isTrue (by rw [h]) else isFalse (by simp [h])
  | .real a, .real b =>
      if h : a = b then isTrue (by rw [h]) else isFalse (by simp [h])
  | .text a, .text b =>
      if h : a = b then isTrue (by rw [h]) else isFalse (by simp [h])
  | .array a, .array b =>
      match decEqItems a b with
      | isTrue h => isTrue (by rw [h])
      | isFalse h => isFalse (by simp [h])
  | .object a, .object b =>
      match decEqMembers a b with
      | isTrue h => isTrue (by rw [h])
      | isFalse h => isFalse (by simp [h])
  | .null, .boolean _ => isFalse (by simp)
  | .null, .integer _ => isFalse (by simp)
  | .null, .real _ => isFalse (by simp)
  | .null, .text _ => isFalse (by simp)
  | .null, .array _ => isFalse (by simp)
  | .null, .object _ => isFalse (by simp)
  | .boolean _, .null => isFalse (by simp)
  | .boolean _, .integer _ => isFalse (by simp)
  | .boolean _, .real _ => isFalse (by simp)
  | .boolean _, .text _ => isFalse (by simp)
  | .boolean _, .array _ => isFalse (by simp)
  | .boolean _, .object _ => isFalse (by simp)
  | .integer _, .null => isFalse (by simp)
  | .integer _, .boolean _ => isFalse (by simp)
  | .integer _, .real _ => isFalse (by simp)
  | .integer _, .text _ => isFalse (by simp)
  | .integer _, .array _ => isFalse (by simp)
  | .integer _, .object _ => isFalse (by simp)
  | .real _, .null => isFalse (by simp)
  | .real _, .boolean _ => isFalse (by simp)
  | .real _, .integer _ => isFalse (by simp)
  | .real _, .text _ => isFalse (by simp)
  | .real _, .array _ => isFalse (by simp)
  | .real _, .object _ => isFalse (by simp)
  | .text _, .null => isFalse (by simp)
  | .text _, .boolean _ => isFalse (by simp)
  | .text _, .integer _ => isFalse (by simp)
  | .text _, .real _ => isFalse (by simp)
  | .text _, .array _ => isFalse (by simp)
  | .text _, .object _ => isFalse (by simp)
  | .array _, .null => isFalse (by simp)
  | .array _, .boolean _ => isFalse (by simp)
  | .array _, .integer _ => isFalse (by simp)
  | .array _, .real _ => isFalse (by simp)
  | .array _, .text _ => isFalse (by simp)
  | .array _, .object _ => isFalse (by simp)
  | .object _, .null => isFalse (by simp)
  | .object _, .boolean _ => isFalse (by simp)
  | .object _, .integer _ => isFalse (by simp)
  | .object _, .real _ => isFalse (by simp)
  | .object _, .text _ => isFalse (by simp)
  | .object _, .array _ => isFalse (by simp)

/-- Equality of lists of values. -/
def decEqItems : (a b : List Json) → Decidable (a = b)
  | [], [] => isTrue rfl
  | [], _ :: _ => isFalse (by simp)
  | _ :: _, [] => isFalse (by simp)
  | a :: as, b :: bs =>
      match decEq a b, decEqItems as bs with
      | isTrue h, isTrue hs => isTrue (by rw [h, hs])
      | isFalse h, _ => isFalse (by simp [h])
      | _, isFalse hs => isFalse (by simp [hs])

/-- Equality of lists of members. -/
def decEqMembers : (a b : List (String × Json)) → Decidable (a = b)
  | [], [] => isTrue rfl
  | [], _ :: _ => isFalse (by simp)
  | _ :: _, [] => isFalse (by simp)
  | (j, a) :: as, (k, b) :: bs =>
      if hk : j = k then
        match decEq a b, decEqMembers as bs with
        | isTrue h, isTrue hs => isTrue (by rw [hk, h, hs])
        | isFalse h, _ => isFalse (by simp [h])
        | _, isFalse hs => isFalse (by simp [hs])
      else isFalse (by simp [hk])

end

instance : DecidableEq Json := decEq

/-- The value of a double: there is none for infinities and not-a-number. -/
def ofBinary64 (x : Binary64) : Json := if x.isFinite then .real x else .null

/-- The value of a numeral, if it is in range. -/
def ofNumeral? (n : Numeral) : Option Json :=
  let x := n.decimal.toBinary64
  let i := Text.valueOf n.whole
  if n.isWhole && !n.negative && i < 2 ^ 64 then some (.integer i)
  else if n.isWhole && n.negative && 0 < i && i ≤ 2 ^ 63 then some (.integer (-i))
  else if x.isFinite then some (.real x)
  else none

mutual

/-- The document of a value. -/
def document : Json → Document
  | .null => .null
  | .boolean b => .boolean b
  | .integer i => .number (Numeral.ofInt i)
  | .real x => .number (Numeral.ofBinary64 x)
  | .text s => .string s
  | .array items => .array (documents items)
  | .object members => .object (memberDocuments members)

/-- The documents of values. -/
def documents : List Json → List Document
  | [] => []
  | x :: rest => x.document :: documents rest

/-- The documents of members. -/
def memberDocuments : List (String × Json) → List (Quoted × Document)
  | [] => []
  | (k, x) :: rest => (.text k, x.document) :: memberDocuments rest

end

@[simp] theorem document_text (s : String) : (text s).document = .string s := rfl

@[simp] theorem document_array (items : List Json) :
    (array items).document = .array (documents items) := rfl

theorem documents_eq_map (items : List Json) : documents items = items.map document := by
  induction items with
  | nil => rfl
  | cons x rest ih => simp [documents, ih]

namespace Document

mutual

/-- The value of a document that is nested at most `levels` deep. -/
def keep? (levels : Nat) : Document → Option Json
  | .null => some .null
  | .boolean b => some (.boolean b)
  | .number n => ofNumeral? n
  | .quoted (.text s) => some (.text s)
  | .quoted .unpaired => none
  | .array items =>
      if levels = 0 then none else (keepItems (levels - 1) items).map .array
  | .object members =>
      if levels = 0 then none else (keepMembers (levels - 1) members []).map .object

/-- The values of items. -/
def keepItems (levels : Nat) : List Document → Option (List Json)
  | [] => some []
  | d :: rest => do
      let x ← d.keep? levels
      let xs ← keepItems levels rest
      return x :: xs

/-- The members so far with further ones inserted. -/
def keepMembers (levels : Nat) :
    List (Quoted × Document) → List (String × Json) → Option (List (String × Json))
  | [], kept => some kept
  | (.unpaired, _) :: _, _ => none
  | (.text k, d) :: rest, kept => do
      let x ← d.keep? levels
      keepMembers levels rest (Keyed.insert k x kept)

end

@[simp] theorem keep?_string (levels : Nat) (s : String) :
    (string s).keep? levels = some (.text s) := rfl

end Document
end Json
end Audience
