import Audience.Evaluation

/-!
# Counting an audience

The result of matching a segment against a list of customers: how many there were, how
many are in the segment, and the identifiers of those in the order of the list.

**Chunks.**  A long list can be matched in chunks.  `Span.chunks` cuts a length into
consecutive spans of one size, the last of which may be shorter; a size of zero counts as
one.  The results of the chunks are joined in order.

**Giving up.**  A count may be given up while it runs.  Each chunk asks whether the count is
still wanted before it matches its customers, and this is asked again before the result of a
chunk is taken; the first refusal ends the count without a result.  A list without customers
has no chunk, so nothing is asked.

**Results.**
* `Population.join_nobody`, `Population.nobody_join`, `Population.join_assoc`: joining is
  associative and an empty list changes nothing.
* `Population.of_append`: the result of a list is that of its parts.
* `Population.ofChunks?_of_wanted`: a count that stays wanted gives the result of the chunks.
-/

namespace Audience

/-- The customers of a list who are in a segment. -/
structure Population where
  evaluated : Nat
  matchCount : Nat
  matchingIds : List String
deriving DecidableEq

namespace Population

/-- The result of an empty list. -/
def nobody : Population := ⟨0, 0, []⟩

/-- The result of a list followed by another one. -/
def join (earlier later : Population) : Population where
  evaluated := earlier.evaluated + later.evaluated
  matchCount := earlier.matchCount + later.matchCount
  matchingIds := earlier.matchingIds ++ later.matchingIds

/-- The result of a list of customers. -/
def of (s : Segment) (customers : List Customer) : Population where
  evaluated := customers.length
  matchCount := (customers.filter s.admits).length
  matchingIds := (customers.filter s.admits).map Customer.id

@[simp] theorem join_nobody (p : Population) : p.join nobody = p := by
  simp [join, nobody]

@[simp] theorem nobody_join (p : Population) : nobody.join p = p := by
  simp [join, nobody]

theorem join_assoc (p q r : Population) : (p.join q).join r = p.join (q.join r) := by
  simp [join, Nat.add_assoc]

@[simp] theorem of_nil (s : Segment) : of s [] = nobody := rfl

theorem of_append (s : Segment) (xs ys : List Customer) :
    of s (xs ++ ys) = (of s xs).join (of s ys) := by
  simp [of, join]

end Population

/-- The places from `start` up to but not including `stop`. -/
structure Span where
  start : Nat
  stop : Nat
deriving DecidableEq

namespace Span

/-- Cuts what is left from `start` up to `length` into spans of a positive size. -/
def cut (length size start : Nat) : Nat → List Span
  | 0 => []
  | fuel + 1 =>
      if start < length then
        ⟨start, min (start + size) length⟩ :: cut length size (start + size) fuel
      else []

/-- Cuts a length into spans of a size.  Each span takes at least one place, so the length
bounds their number. -/
def chunks (length size : Nat) : List Span := cut length (max size 1) 0 length

/-- The items at the places of a span. -/
def slice {α : Type} (items : List α) (span : Span) : List α :=
  (items.drop span.start).take (span.stop - span.start)

end Span

namespace Population

/-- The result of a list of customers, matched in chunks. -/
def ofChunks (s : Segment) (customers : List Customer) (size : Nat) : Population :=
  (Span.chunks customers.length size).foldl
    (fun total span => total.join (of s (span.slice customers))) nobody

end Population

/-- The moments at which a count in chunks asks whether it is still wanted. -/
inductive Check
  | matching (chunk : Span)
  | taking (chunk : Span)
deriving DecidableEq

namespace Population

/-- The result of a chunk, unless the count is not wanted any more. -/
def part? (wanted : Check → Bool) (s : Segment) (customers : List Customer) (chunk : Span) :
    Option Population :=
  if wanted (.matching chunk) then some (of s (chunk.slice customers)) else none

/-- Joins the results of chunks in order, for as long as the count is wanted. -/
def joinParts? (wanted : Check → Bool) (s : Segment) (customers : List Customer) :
    Population → List Span → Option Population
  | total, [] => some total
  | total, chunk :: rest =>
      if wanted (.taking chunk) then
        match part? wanted s customers chunk with
        | some part => joinParts? wanted s customers (total.join part) rest
        | none => none
      else none

/-- The result of a list of customers, matched in chunks unless the count is given up. -/
def ofChunks? (wanted : Check → Bool) (s : Segment) (customers : List Customer) (size : Nat) :
    Option Population :=
  joinParts? wanted s customers nobody (Span.chunks customers.length size)

theorem joinParts?_of_wanted {wanted : Check → Bool} (h : ∀ check, wanted check = true)
    (s : Segment) (customers : List Customer) (total : Population) (chunks : List Span) :
    joinParts? wanted s customers total chunks =
      some (chunks.foldl (fun total span => total.join (of s (span.slice customers))) total) := by
  induction chunks generalizing total with
  | nil => rfl
  | cons chunk rest ih =>
      simp only [joinParts?, part?, h, if_true, List.foldl_cons]
      exact ih _

theorem ofChunks?_of_wanted {wanted : Check → Bool} (h : ∀ check, wanted check = true)
    (s : Segment) (customers : List Customer) (size : Nat) :
    ofChunks? wanted s customers size = some (ofChunks s customers size) :=
  joinParts?_of_wanted h s customers nobody _

end Population
end Audience
