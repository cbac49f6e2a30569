import Audience.Error
import Audience.Keyed

/-!
# Indexes of schemas

An index says at which position of a list an identifier stands, so that it can be found without
a search.

**Building.**  `Index.build` enters one identifier after another at its position.  The first
that has been entered before is refused and named.  `Index.ofIds` enters them without looking,
so of equal identifiers it keeps the last position.

**Agreement.**  An index agrees with a list if it has exactly the positions of the list, each at
the identifier that stands there.  Every step of building keeps this for the part of the list
that has been entered.

**Results.**
* `Agrees.insert`: a new identifier, put at the next position, keeps the agreement.
* `Agrees.enter`: so all identifiers are entered, or the first repetition is found.
* `build_eq_ok_iff`: a list is accepted exactly if nothing is repeated in it.
* `agrees_ofIds`: the index of such a list agrees with it.
-/

namespace Audience
namespace Schema

/-- The first position of a list at which stands what has occurred before. -/
structure FirstRepeat (ids : List String) (pos : Nat) (id : String) : Prop where
  stands : ids[pos]? = some id
  before : id ∈ ids.take pos
  first : ∀ earlier < pos, ∀ other, ids[earlier]? = some other → other ∉ ids.take earlier

variable {ids front : List String} {id : String}

theorem notMem_take_of_nodup {pos : Nat} (h : ids.Nodup) (hpos : ids[pos]? = some id) :
    id ∉ ids.take pos := by
  have hdrop : id ∈ ids.drop pos :=
    List.mem_of_getElem? (i := 0) (by rw [List.getElem?_drop]; exact hpos)
  rw [← List.take_append_drop pos ids] at h
  exact fun hmem => (List.nodup_append.mp h).2.2 id hmem id hdrop rfl

theorem FirstRepeat.not_nodup {pos : Nat} (h : FirstRepeat ids pos id) : ¬ ids.Nodup :=
  fun hnodup => notMem_take_of_nodup hnodup h.stands h.before

/-- Behind a front without repetitions stands an identifier of the front. -/
theorem firstRepeat_of_mem {rest : List String} (hnodup : front.Nodup) (hmem : id ∈ front) :
    FirstRepeat (front ++ id :: rest) front.length id where
  stands := by simp
  before := by simpa using hmem
  first := by
    intro earlier hlt other hother
    rw [List.getElem?_append_left hlt] at hother
    rw [List.take_append_of_le_length (Nat.le_of_lt hlt)]
    exact notMem_take_of_nodup hnodup hother

/-- Positions by identifier. -/
abbrev Index := List (String × Nat)

namespace Index

/-- Enters identifiers at their positions; one that is there already is refused. -/
def enter (index : Index) : List (String × Nat) → Except Error Index
  | [] => .ok index
  | (id, pos) :: rest =>
      if (Keyed.find? id index).isSome then .error (.duplicateField id)
      else enter (Keyed.insert id pos index) rest

/-- The index of a list without repetitions. -/
def build (ids : List String) : Except Error Index := enter [] ids.zipIdx

/-- The index of a list, where of equal identifiers the last one counts. -/
def ofIds (ids : List String) : Index := Keyed.ofList ids.zipIdx

/-- The index has the positions of a list, and no others. -/
def Agrees (index : Index) (ids : List String) : Prop :=
  ∀ id pos, Keyed.find? id index = some pos ↔ ids[pos]? = some id

variable {index : Index}

theorem getElem?_concat_eq_some_iff {pos : Nat} {other : String} :
    (front ++ [id])[pos]? = some other ↔
      front[pos]? = some other ∨ pos = front.length ∧ other = id := by
  grind

theorem agrees_nil : Agrees [] [] := by
  intro id pos
  simp

theorem Agrees.isSome_iff (h : Agrees index ids) :
    (Keyed.find? id index).isSome = true ↔ id ∈ ids := by
  rw [Option.isSome_iff_exists, List.mem_iff_getElem?]
  exact exists_congr fun pos => h id pos

/-- The index has only one position at an identifier, so it stands at one only. -/
theorem Agrees.nodup (h : Agrees index ids) : ids.Nodup := by
  refine List.pairwise_iff_getElem.mpr fun i j hi hj hlt heq => ?_
  have hfirst : Keyed.find? ids[i] index = some i := (h _ i).mpr (List.getElem?_eq_getElem hi)
  have hsecond : Keyed.find? ids[j] index = some j := (h _ j).mpr (List.getElem?_eq_getElem hj)
  rw [heq, hsecond] at hfirst
  exact Nat.ne_of_gt hlt (Option.some.inj hfirst)

/-- One step of building: a new identifier is put at the next position. -/
theorem Agrees.insert (h : Agrees index front) (hnew : Keyed.find? id index = none) :
    Agrees (Keyed.insert id front.length index) (front ++ [id]) := by
  intro other pos
  rw [Keyed.find?_insert, getElem?_concat_eq_some_iff, ← h other pos]
  split
  · next hsame =>
      subst hsame
      simp [hnew, eq_comm]
  · next hother => simp [hother]

/-- All steps of building: the identifiers in front have been entered, and what is left is entered
as far as the first repetition. -/
theorem Agrees.enter (h : Agrees index front) (rest : List String) :
    (∃ grown, Index.enter index (rest.zipIdx front.length) = .ok grown ∧
      grown = (rest.zipIdx front.length).foldl (fun acc e => Keyed.insert e.1 e.2 acc) index ∧
      Agrees grown (front ++ rest)) ∨
    ∃ pos id, FirstRepeat (front ++ rest) pos id ∧
      Index.enter index (rest.zipIdx front.length) = .error (.duplicateField id) := by
  -- What has been entered moves to the front, so the front varies in the induction.
  induction rest generalizing index front with
  | nil =>
      rw [List.append_nil]
      exact .inl ⟨index, rfl, rfl, h⟩
  | cons id rest ih =>
      rw [List.zipIdx_cons, Index.enter]
      split
      · next hthere =>
          exact .inr ⟨front.length, id,
            firstRepeat_of_mem h.nodup (h.isSome_iff.mp hthere), rfl⟩
      · next hnew =>
          have hstep := ih (h.insert (Option.not_isSome_iff_eq_none.mp hnew))
          rw [List.length_append, List.append_assoc] at hstep
          exact hstep

/-- Building from the start, when there is nothing in front. -/
theorem build_cases (ids : List String) :
    (build ids = .ok (ofIds ids) ∧ Agrees (ofIds ids) ids) ∨
      ∃ pos id, FirstRepeat ids pos id ∧ build ids = .error (.duplicateField id) := by
  rcases agrees_nil.enter ids with ⟨grown, hbuild, rfl, hagrees⟩ | hrepeat
  · exact .inl ⟨hbuild, hagrees⟩
  · exact .inr hrepeat

theorem agrees_ofIds (h : ids.Nodup) : Agrees (ofIds ids) ids := by
  rcases build_cases ids with ⟨_, hagrees⟩ | ⟨pos, id, hrepeat, _⟩
  · exact hagrees
  · exact absurd h hrepeat.not_nodup

theorem build_eq_ok_iff : build ids = .ok index ↔ ids.Nodup ∧ index = ofIds ids := by
  rcases build_cases ids with ⟨hbuild, hagrees⟩ | ⟨pos, id, hrepeat, hbuild⟩
  · simp [hbuild, hagrees.nodup, eq_comm]
  · simp [hbuild, hrepeat.not_nodup]

end Index
end Schema
end Audience
