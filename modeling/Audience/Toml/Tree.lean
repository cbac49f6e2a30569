import Audience.Keyed
import Audience.Number.Binary64

/-!
# Trees of TOML documents

A document is a table.  Its tables come about in four ways, and how one came about decides
whether a later line may add to it.

* A table with a *header* of its own takes no second header.
* A table on the *path* of a header may still get a header of its own.
* A *dotted* table, on the path of a dotted key, takes further dotted keys.
* An *inline* table is complete.

**Results.**
* `alter_nil`: altering an absent key makes it.
* `put_singleton_of_absent`: a new key stands at the end of its table.
-/

namespace Audience
namespace Toml

/-- How a table came about. -/
inductive Origin
  | header
  | path
  | dotted
  | inline
deriving DecidableEq

/-- A value that has no parts.  A moment is kept as text. -/
inductive Scalar
  | text (value : String)
  | moment (value : String)
  | integer (value : Int)
  | real (value : Binary64)
  | boolean (value : Bool)
deriving DecidableEq

/-- A value of a document.  `tables` are the tables whose headers have double brackets. -/
inductive Node
  | scalar (value : Scalar)
  | list (items : List Node)
  | table (origin : Origin) (members : List (String × Node))
  | tables (items : List (List (String × Node)))

instance : Inhabited Node := ⟨.list []⟩

/-- The members of a table. -/
abbrev Members := List (String × Node)

/-- Replaces the value at a key, or puts one at the end; none is a failure. -/
def alter (key : String) (f : Option Node → Option Node) : Members → Option Members
  | [] => (f none).map fun n => [(key, n)]
  | (k, n) :: rest =>
      if k = key then (f (some n)).map fun n => (k, n) :: rest
      else (alter key f rest).map fun rest => (k, n) :: rest

@[simp] theorem alter_nil (key : String) (f : Option Node → Option Node) :
    alter key f [] = (f none).map fun n => [(key, n)] := rfl

/-- Changes the last item of a list that is not empty. -/
def alterLast {α : Type} (f : α → Option α) : List α → Option (List α)
  | [] => none
  | [a] => (f a).map fun a => [a]
  | a :: b :: rest => (alterLast f (b :: rest)).map fun rest => a :: rest

/-- Puts a value at a dotted key; the last key must be new.  A table with a header may not be
on the way, unless it is one of several with the same header. -/
def put (value : Node) : List String → Members → Option Members
  | [], _ => none
  | [key], members =>
      alter key (fun
        | none => some value
        | some _ => none) members
  | key :: next :: rest, members =>
      alter key (fun
        | none => (put value (next :: rest) []).map (.table .dotted)
        | some (.table .dotted inner) =>
            (put value (next :: rest) inner).map (.table .dotted)
        | some (.table .path inner) =>
            if rest.isEmpty then none
            else (put value (next :: rest) inner).map (.table .path)
        | some (.tables items) =>
            if rest.isEmpty then none
            else (alterLast (put value (next :: rest)) items).map .tables
        | some _ => none) members

theorem put_singleton_of_absent (value : Node) {key : String} {members : Members}
    (h : Keyed.find? key members = none) :
    put value [key] members = some (members ++ [(key, value)]) := by
  induction members with
  | nil => rfl
  | cons m rest ih =>
      obtain ⟨k, n⟩ := m
      rw [Keyed.find?_cons] at h
      split at h
      · cases h
      · next hne =>
          have hrest := ih h
          simp only [put] at hrest
          simp [put, alter, Ne.symm hne, hrest]

/-- Changes the members of the table at the path of a header. -/
def within (f : Members → Option Members) : List String → Members → Option Members
  | [], members => f members
  | key :: path, members =>
      alter key (fun
        | none => (within f path []).map (.table .path)
        | some (.table .inline _) => none
        | some (.table origin inner) => (within f path inner).map (.table origin)
        | some (.tables items) => (alterLast (within f path) items).map .tables
        | some _ => none) members

/-- Starts the table of a header.  It stands at the end of the table around it. -/
def startTable (key : String) (members : Members) : Option Members :=
  match Keyed.find? key members with
  | none => some (members ++ [(key, .table .header [])])
  | some (.table .path inner) =>
      some (members.filter (·.1 != key) ++ [(key, .table .header inner)])
  | some _ => none

/-- Starts a further table of a header with double brackets. -/
def startItem (key : String) : Members → Option Members :=
  alter key fun
    | none => some (.tables [[]])
    | some (.tables items) => some (.tables (items ++ [[]]))
    | some _ => none

/-- The inline table of dotted keys with their values. -/
def inlineTable (pairs : List (List String × Node)) : Option Node :=
  (pairs.foldlM (fun members (keys, value) => put value keys members) []).map (.table .inline)

end Toml
end Audience
