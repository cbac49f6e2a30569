import Audience.Number.Numeral

/-!
# Documents as they are written

A `Document` is a JSON text as a tree that keeps everything its writer chose: the
order of the members, repeated members, and how each number is spelled.

**Strings.**  An escape may leave half of a surrogate pair without the other half.
Such a string has no text; it is `unpaired`, and a reader may pass over it but
not use it.
-/

namespace Audience
namespace Json

/-- A string between quotes. -/
inductive Quoted
  | text (value : String)
  | unpaired
deriving DecidableEq

/-- A JSON text as a tree. -/
inductive Document
  | null
  | boolean (value : Bool)
  | number (value : Numeral)
  | quoted (value : Quoted)
  | array (items : List Document)
  | object (members : List (Quoted × Document))

namespace Document

instance : Inhabited Document := ⟨null⟩

/-- The document of a string. -/
def string (s : String) : Document := .quoted (.text s)

/-- The document of a natural number. -/
def natural (n : Nat) : Document := .number (Numeral.ofNat n)

/-- The document of an object with these members in this order. -/
def record (members : List (String × Document)) : Document :=
  .object (members.map fun m => (.text m.1, m.2))

/-- The document of an optional value: `null` for none. -/
def optional (d : Option Document) : Document := d.getD .null

end Document
end Json
end Audience
