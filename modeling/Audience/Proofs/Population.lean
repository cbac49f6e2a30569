import Audience.Population

/-!
# Chunks make no difference

The spans that a length is cut into follow one another without a gap, from the first place
to the last one, so the customers at their places are the whole list in its order.  Joining
the results of the chunks gives the result of the list, whatever the size of the chunks.

**Machine words.**  The places of a list are words of 64 bits, and no list has more than half of
them.  Every start but the first is at least the size, so the sum of a start and the size is a
word even if the size is the largest one.

**Results.**
* `Span.tiles_chunks`: the chunks follow one another from the first place to the last one.
* `Span.Tiles.flatMap_slice`: spans that do so leave no item out and repeat none.
* `Span.partitions_chunks`: all of them but the last have the size.
* `Span.chunksInWords?_eq_chunks`: no sum of machine words overflows where they are cut.
* `Population.ofChunks_eq_of`: the result of a list does not depend on its chunks.
* `Population.counts_of`: it lists who is in the segment.
-/

namespace Audience

namespace Span

/-- The spans follow one another from a start to the end of a length, and none is empty. -/
inductive Tiles (length : Nat) : Nat → List Span → Prop
  | nil :
      Tiles length length []
  | cons {start stop : Nat} {spans : List Span} :
      start < stop →
      stop ≤ length →
      Tiles length stop spans →
      Tiles length start (⟨start, stop⟩ :: spans)

/-- With enough fuel, the cut goes on to the end; a start beyond the end counts as the end. -/
theorem tiles_cut
    {length size : Nat} (hsize : 0 < size) {start fuel : Nat} (hfuel : length ≤ start + fuel) :
    Tiles length (min start length) (cut length size start fuel) := by
  induction fuel generalizing start with
  | zero =>
      have hend : min start length = length := Nat.min_eq_right hfuel
      rw [hend]
      exact .nil
  | succ fuel ih =>
      unfold cut
      split
      · next hstart =>
          rw [Nat.min_eq_left (Nat.le_of_lt hstart)]
          refine .cons ?_ (Nat.min_le_right _ _) (ih (by omega))
          omega
      · next hstart =>
          rw [Nat.min_eq_right (Nat.le_of_not_lt hstart)]
          exact .nil

theorem tiles_chunks
    (length size : Nat) :
    Tiles length 0 (chunks length size) := by
  have hsize : 0 < max size 1 := by
    omega
  have htiles := tiles_cut hsize (Nat.le_of_eq (Nat.zero_add length).symm)
  rwa [Nat.zero_min] at htiles

theorem Tiles.flatMap_slice
    {α : Type} {items : List α} {start : Nat} {spans : List Span}
    (h : Tiles items.length start spans) :
    spans.flatMap (slice items) = items.drop start := by
  induction h with
  | nil =>
      rw [List.drop_length]
      rfl
  | @cons start stop spans hlt _ _ ih =>
      have hstop : start + (stop - start) = stop := by
        omega
      calc
        (⟨start, stop⟩ :: spans).flatMap (slice items)
            = (items.drop start).take (stop - start) ++ items.drop stop := by
          rw [List.flatMap_cons, ih, slice]
        _ = (items.drop start).take (stop - start) ++
              (items.drop start).drop (stop - start) := by
          rw [List.drop_drop, hstop]
        _ = items.drop start := List.take_append_drop _ _

/-- A length is cut into parts of a size, of which only the last may be shorter. -/
structure Partitions (length size : Nat) (spans : List Span) : Prop where
  tiles : Tiles length 0 spans
  size_le : ∀ span ∈ spans, span.stop - span.start ≤ size
  size_eq : ∀ span ∈ spans.dropLast, span.stop - span.start = size

section Cut

variable {length size start fuel : Nat} {span : Span}

theorem lt_of_cut_ne_nil (h : cut length size start fuel ≠ []) : start < length := by
  refine Nat.lt_of_not_le fun hend => h ?_
  cases fuel with
  | zero => rfl
  | succ fuel => exact if_neg (Nat.not_lt.mpr hend)

theorem size_le_of_mem_cut
    (h : span ∈ cut length size start fuel) :
    span.stop - span.start ≤ size := by
  induction fuel generalizing start with
  | zero =>
      cases h
  | succ fuel ih =>
      unfold cut at h
      split at h
      · rcases List.mem_cons.mp h with rfl | hrest
        · show min (start + size) length - start ≤ size
          omega
        · exact ih hrest
      · cases h

/-- A span with another one after it is not cut short by the end. -/
theorem size_eq_of_mem_dropLast_cut
    (h : span ∈ (cut length size start fuel).dropLast) :
    span.stop - span.start = size := by
  induction fuel generalizing start with
  | zero =>
      cases h
  | succ fuel ih =>
      unfold cut at h
      split at h
      · cases hrest : cut length size (start + size) fuel with
        | nil =>
            rw [hrest] at h
            cases h
        | cons next rest =>
            have hnext : start + size < length :=
              lt_of_cut_ne_nil (hrest ▸ List.cons_ne_nil next rest)
            rw [hrest, List.dropLast_cons_cons, ← hrest] at h
            rcases List.mem_cons.mp h with rfl | hmem
            · show min (start + size) length - start = size
              omega
            · exact ih hmem
      · cases h

end Cut

theorem partitions_chunks
    (length size : Nat) :
    Partitions length (max size 1) (chunks length size) where
  tiles := tiles_chunks length size
  size_le _ := size_le_of_mem_cut
  size_eq _ := size_eq_of_mem_dropLast_cut

section Words

/-- The sum of two machine words, unless it overflows. -/
def addWords? (a b : Nat) : Option Nat := if a + b < 2 ^ 64 then some (a + b) else none

/-- Cuts what is left with sums of machine words, unless one of them overflows. -/
def cutInWords? (length size start : Nat) : Nat → Option (List Span)
  | 0 => some []
  | fuel + 1 =>
      if start < length then do
        let next ← addWords? start size
        let rest ← cutInWords? length size next fuel
        return ⟨start, min next length⟩ :: rest
      else some []

/-- Cuts a length into spans of a size with sums of machine words. -/
def chunksInWords? (length size : Nat) : Option (List Span) :=
  cutInWords? length (max size 1) 0 length

variable {length size : Nat}

/-- A start is zero or not below the size, so a start within half of the words and a size that
is a word have a sum that is one. -/
theorem cutInWords?_eq
    (hlength : length < 2 ^ 63) (hsize : size < 2 ^ 64)
    {start : Nat} (hstart : start = 0 ∨ size ≤ start) (fuel : Nat) :
    cutInWords? length size start fuel = some (cut length size start fuel) := by
  induction fuel generalizing start with
  | zero =>
      rfl
  | succ fuel ih =>
      unfold cutInWords? cut
      split
      · next hlt =>
          have hword : start + size < 2 ^ 64 := by
            omega
          have hrest := ih (Or.inr (Nat.le_add_left size start))
          simp [addWords?, hword, hrest]
      · rfl

theorem chunksInWords?_eq_chunks
    (hlength : length < 2 ^ 63) (hsize : size < 2 ^ 64) :
    chunksInWords? length size = some (chunks length size) :=
  cutInWords?_eq hlength (by omega) (Or.inl rfl) length

/-- A length that a list can have is cut into spans of a size without an overflow.  They follow
one another from the first place to the last one, none is empty, and only the last one may be
shorter than the size. -/
theorem chunks_partition
    (hlength : length < 2 ^ 63) (hsize : size < 2 ^ 64) :
    chunksInWords? length size = some (chunks length size) ∧
      Partitions length (max size 1) (chunks length size) ∧
      (length = 0 → chunks length size = []) := by
  refine ⟨chunksInWords?_eq_chunks hlength hsize, partitions_chunks length size, ?_⟩
  rintro rfl
  rfl

/-- The longest list and the largest size. -/
theorem chunks_partition_largest :
    chunksInWords? (2 ^ 63 - 1) (2 ^ 64 - 1) = some (chunks (2 ^ 63 - 1) (2 ^ 64 - 1)) ∧
      Partitions (2 ^ 63 - 1) (max (2 ^ 64 - 1) 1) (chunks (2 ^ 63 - 1) (2 ^ 64 - 1)) := by
  have hlength : 2 ^ 63 - 1 < 2 ^ 63 := by decide
  have hsize : 2 ^ 64 - 1 < 2 ^ 64 := by decide
  obtain ⟨hwords, hparts, _⟩ := chunks_partition hlength hsize
  exact ⟨hwords, hparts⟩

end Words

end Span

namespace Population

/-- The result lists, in their order, the customers for whom the test holds. -/
structure Counts (member : Customer → Bool) (customers : List Customer) (p : Population) :
    Prop where
  evaluated : p.evaluated = customers.length
  matchingIds : p.matchingIds = (customers.filter member).map Customer.id
  matchCount : p.matchCount = p.matchingIds.length

theorem counts_of
    (s : Segment) (customers : List Customer) :
    (of s customers).Counts s.admits customers where
  evaluated := rfl
  matchingIds := rfl
  matchCount := (List.length_map _).symm

/-- The chunks that are joined to a result so far add the result of their customers. -/
theorem foldl_join
    (s : Segment) (customers : List Customer) (spans : List Span) (total : Population) :
    spans.foldl (fun total span => total.join (of s (span.slice customers))) total =
      total.join (of s (spans.flatMap (Span.slice customers))) := by
  induction spans generalizing total with
  | nil =>
      exact (join_nobody total).symm
  | cons span rest ih =>
      rw [List.foldl_cons, ih, join_assoc, List.flatMap_cons, of_append]

/-- Matching a list in chunks of any size gives the result of the list. -/
theorem ofChunks_eq_of
    (s : Segment) (customers : List Customer) (size : Nat) :
    ofChunks s customers size = of s customers := by
  have hslices := (Span.tiles_chunks customers.length size).flatMap_slice
  rw [ofChunks, foldl_join, nobody_join, hslices, List.drop_zero]

end Population

end Audience
