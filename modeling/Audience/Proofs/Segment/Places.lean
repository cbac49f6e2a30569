import Audience.Proofs.Segment.Edits

/-!
# The first group stays

Operations can be told in terms of places in a plain list of groups, which might as well be
empty: a group is added at the end, or looked up by an identifier and then removed or changed at
its place.  `Placed.run` does so, for groups with marks beside them that it never looks at.
Without the marks it is what operations do to segments, so the marks tell which groups are left
and where they stand.

**Marks.**  At the start each group is marked with its place.  A group that is added has no
place at the start.

**Invariant.**  The first item is the first group of the start, as it was but for its entries.
The marks increase, and unmarked groups come last.  A marked group has the identifiers of the
group that stood at its place.

**Results.**
* `Placed.map_snd_run`: operations on placed groups are operations on segments.
* `Placed.Moved.traced`: one operation preserves the invariant.
* `Segment.first_stays`: what any operations leave of the groups.
-/

namespace Audience

namespace Placed

variable {α : Type}

section Operations

/-- The place of the first group with an identifier. -/
def place (id : Uuid) (items : List (α × Group)) : Except Error (Fin items.length) :=
  match items.findFinIdx? (·.2.id = id) with
  | some i => .ok i
  | none => .error (.unknownGroup id)

/-- Changes the group at the place of an identifier. -/
def change (id : Uuid) (f : Group → Except Error Group) (items : List (α × Group)) :
    Except Error (List (α × Group)) := do
  let i ← place id items
  (f items[i].2).map fun g => items.set i (items[i].1, g)

/-- Removes the group at the place of an identifier, unless it is the first place. -/
def remove (id : Uuid) (items : List (α × Group)) : Except Error (List (α × Group)) := do
  let i ← place id items
  if i.val = 0 then .error .cannotRemoveFirstGroup else .ok (items.eraseIdx i)

/-- Turns the combinator at the place of an identifier, unless it is the first place. -/
def turn (id : Uuid) (items : List (α × Group)) : Except Error (List (α × Group)) := do
  let i ← place id items
  if i.val = 0 then .ok items else .ok (items.set i (items[i].1, items[i].2.turn))

/-- Makes an operation; a group that it adds gets the mark `new`. -/
def run (new : α) (items : List (α × Group)) : Operation → Except Error (List (α × Group))
  | .update group entry f => change group (Group.changeEntry entry f) items
  | .edit _ fresh .addGroup => .ok (items ++ [(new, Group.empty .or fresh)])
  | .edit _ _ (.removeGroup group) => remove group items
  | .edit _ _ (.turnGroup group) => turn group items
  | .edit schema fresh (.addCondition group field) => do
      let c ← Condition.on schema field fresh
      change group (fun g => .ok (g.append c)) items
  | .edit _ _ (.append group c) => change group (fun g => .ok (g.append c)) items
  | .edit _ _ (.removeEntry group entry) => change group (Group.removeEntry entry) items
  | .edit schema _ (.changeEntry group entry edit) =>
      change group (Group.changeEntry entry (Condition.change schema edit)) items

/-- Makes an operation.  One that fails leaves the groups as they are. -/
def attempt (new : α) (items : List (α × Group)) (op : Operation) : List (α × Group) :=
  match run new items op with
  | .ok items' => items'
  | .error _ => items

/-- Makes operations in order. -/
def attemptAll (new : α) (items : List (α × Group)) (ops : List Operation) :
    List (α × Group) := ops.foldl (attempt new) items

end Operations

section Correspondence

variable {id : Uuid} {f : Group → Except Error Group}

theorem place_cons
    (x : α × Group) (rest : List (α × Group)) :
    place id (x :: rest) =
      if x.2.id = id then .ok ⟨0, Nat.succ_pos _⟩ else (place id rest).map Fin.succ := by
  unfold place
  rw [List.findFinIdx?_cons]
  by_cases hid : x.2.id = id
  · simp [hid]
  · cases rest.findFinIdx? (·.2.id = id) <;> simp [hid, Except.map]

/-- Looking a group up by its place and changing it there is changing the first one. -/
theorem map_snd_change
    (items : List (α × Group)) :
    (change id f items).map (List.map Prod.snd) =
      Group.changeFirst id f (items.map Prod.snd) := by
  induction items with
  | nil =>
      rfl
  | cons x rest ih =>
      rw [List.map_cons, Group.changeFirst, ← ih, change, change, place_cons]
      split
      · show ((f x.2).map _).map _ = _
        cases f x.2 <;> rfl
      · cases hplace : place id rest with
        | error e =>
            rfl
        | ok i =>
            show ((f rest[i].2).map _).map _ = Except.map _ (((f rest[i].2).map _).map _)
            cases f rest[i].2 <;> rfl

theorem map_snd_erase
    (items : List (α × Group)) :
    (place id items).map (fun i => (items.eraseIdx i).map Prod.snd) =
      Group.removeFirst id (items.map Prod.snd) := by
  induction items with
  | nil =>
      rfl
  | cons x rest ih =>
      rw [List.map_cons, Group.removeFirst, ← ih, place_cons]
      split
      · rfl
      · cases place id rest <;> rfl

/-- In a list with a first group, only later groups are removed. -/
theorem map_snd_remove_cons
    (x : α × Group) (rest : List (α × Group)) :
    (remove id (x :: rest)).map (List.map Prod.snd) =
      if x.2.id = id then .error .cannotRemoveFirstGroup
      else (Group.removeFirst id (rest.map Prod.snd)).map (x.2 :: ·) := by
  rw [remove, place_cons, ← map_snd_erase]
  split
  · rfl
  · cases place id rest <;> rfl

/-- In a list with a first group, only later groups are turned. -/
theorem map_snd_turn_cons
    (x : α × Group) (rest : List (α × Group)) :
    (turn id (x :: rest)).map (List.map Prod.snd) =
      if x.2.id = id then .ok (x.2 :: rest.map Prod.snd)
      else (Group.changeFirst id (fun g => .ok g.turn) (rest.map Prod.snd)).map (x.2 :: ·) := by
  rw [turn, place_cons, ← map_snd_change, change]
  split
  · rfl
  · cases place id rest <;> rfl

variable {s : Segment} {items : List (α × Group)}

theorem map_snd_changeGroup
    (h : items.map Prod.snd = s.groups) :
    (change id f items).map (List.map Prod.snd) = (s.changeGroup id f).map Segment.groups := by
  rw [map_snd_change, h, Segment.groups, Group.changeFirst, Segment.changeGroup]
  split
  · cases f s.first <;> rfl
  · cases Group.changeFirst id f s.later <;> rfl

/-- Without the marks, operations on placed groups are operations on segments. -/
theorem map_snd_run
    (h : items.map Prod.snd = s.groups) (new : α) (op : Operation) :
    (run new items op).map (List.map Prod.snd) = (op.run s).map Segment.groups := by
  obtain ⟨x, rest, rfl, hfirst, hlater⟩ : ∃ x rest, items = x :: rest ∧ x.2 = s.first ∧
      rest.map Prod.snd = s.later := by
    cases items with
    | nil =>
        cases h
    | cons x rest =>
        obtain ⟨hfirst, hlater⟩ := List.cons.inj h
        exact ⟨x, rest, rfl, hfirst, hlater⟩
  cases op with
  | update group entry f =>
      exact map_snd_changeGroup h
  | edit schema fresh e =>
      cases e with
      | addGroup =>
          show Except.ok _ = Except.ok _
          rw [List.map_append, h]
          rfl
      | removeGroup group =>
          show (remove group _).map _ = (s.removeGroup group).map _
          rw [map_snd_remove_cons, Segment.removeGroup, hfirst, hlater]
          split
          · rfl
          · cases Group.removeFirst group s.later <;> rfl
      | turnGroup group =>
          show (turn group _).map _ = (s.turnGroup group).map _
          rw [map_snd_turn_cons, Segment.turnGroup, hfirst, hlater]
          split
          · rfl
          · cases Group.changeFirst group (fun g => .ok g.turn) s.later <;> rfl
      | addCondition group field =>
          show Except.map _ (Condition.on schema field fresh >>= _) =
            (s.addCondition schema group field fresh).map _
          rw [Segment.addCondition]
          cases Condition.on schema field fresh with
          | error e =>
              rfl
          | ok c =>
              exact map_snd_changeGroup (f := fun g => .ok (g.append c)) h
      | append group c =>
          exact map_snd_changeGroup (f := fun g => .ok (g.append c)) h
      | removeEntry group entry =>
          exact map_snd_changeGroup h
      | changeEntry group entry edit =>
          exact map_snd_changeGroup h

theorem map_snd_attempt
    (h : items.map Prod.snd = s.groups) (new : α) (op : Operation) :
    (attempt new items op).map Prod.snd = (s.attempt op).groups := by
  have hrun := map_snd_run h new op
  unfold attempt Segment.attempt
  cases hitems : run new items op with
  | error e =>
      cases hop : op.run s with
      | error e' =>
          exact h
      | ok s' =>
          rw [hitems, hop] at hrun
          cases hrun
  | ok items' =>
      cases hop : op.run s with
      | error e' =>
          rw [hitems, hop] at hrun
          cases hrun
      | ok s' =>
          rw [hitems, hop] at hrun
          exact Except.ok.inj hrun

theorem map_snd_attemptAll
    (h : items.map Prod.snd = s.groups) (new : α) (ops : List Operation) :
    (attemptAll new items ops).map Prod.snd = (s.attemptAll ops).groups := by
  induction ops generalizing s items with
  | nil =>
      exact h
  | cons op rest ih =>
      exact ih (map_snd_attempt h new op)

end Correspondence

section Inversion

variable {new : α} {items items' : List (α × Group)}

/-- What an operation may make of placed groups. -/
inductive Moved (new : α) (items : List (α × Group)) : List (α × Group) → Prop
  | same :
      Moved new items items
  | added (fresh : Uuid) :
      Moved new items (items ++ [(new, Group.empty .or fresh)])
  | removed {i : Fin items.length} :
      i.val ≠ 0 →
      Moved new items (items.eraseIdx i)
  | changed {i : Fin items.length} {g : Group} :
      g.id = items[i].2.id →
      g.storedId = items[i].2.storedId →
      (i.val = 0 → g.combinator = items[i].2.combinator) →
      Moved new items (items.set i (items[i].1, g))

/-- A change that keeps the names and the combinator of a group. -/
def KeepsHead (f : Group → Except Error Group) : Prop :=
  ∀ g g', f g = .ok g' → g'.id = g.id ∧ g'.storedId = g.storedId ∧ g'.combinator = g.combinator

theorem keepsHead_append
    (c : Condition) :
    KeepsHead fun g => .ok (g.append c) := by
  rintro g _ ⟨⟩
  exact ⟨rfl, rfl, rfl⟩

theorem keepsHead_removeEntry
    (entry : Uuid) :
    KeepsHead (Group.removeEntry entry) := by
  intro g g' h
  obtain ⟨entries, _, rfl⟩ := map_eq_ok_iff.mp h
  exact ⟨rfl, rfl, rfl⟩

theorem keepsHead_changeEntry
    (entry : Uuid) (f : Condition → Except Error Condition) :
    KeepsHead (Group.changeEntry entry f) := by
  intro g g' h
  obtain ⟨entries, _, rfl⟩ := map_eq_ok_iff.mp h
  exact ⟨rfl, rfl, rfl⟩

theorem moved_of_change
    {id : Uuid} {f : Group → Except Error Group} (hf : KeepsHead f)
    (h : change id f items = .ok items') :
    Moved new items items' := by
  obtain ⟨i, _, h⟩ := bind_eq_ok_iff.mp h
  obtain ⟨g, hg, rfl⟩ := map_eq_ok_iff.mp h
  obtain ⟨hid, hstored, hcombinator⟩ := hf _ _ hg
  exact .changed hid hstored fun _ => hcombinator

theorem moved_of_remove
    {id : Uuid} (h : remove id items = .ok items') :
    Moved new items items' := by
  obtain ⟨i, _, h⟩ := bind_eq_ok_iff.mp h
  split at h
  · cases h
  · next hne =>
      cases h
      exact .removed hne

theorem moved_of_turn
    {id : Uuid} (h : turn id items = .ok items') :
    Moved new items items' := by
  obtain ⟨i, _, h⟩ := bind_eq_ok_iff.mp h
  split at h
  · cases h
    exact .same
  · next hne =>
      cases h
      exact .changed rfl rfl fun hzero => absurd hzero hne

theorem moved_of_run
    {op : Operation} (h : run new items op = .ok items') :
    Moved new items items' := by
  cases op with
  | update group entry f =>
      exact moved_of_change (keepsHead_changeEntry entry f) h
  | edit schema fresh e =>
      cases e with
      | addGroup =>
          cases h
          exact .added fresh
      | removeGroup group =>
          exact moved_of_remove h
      | turnGroup group =>
          exact moved_of_turn h
      | addCondition group field =>
          obtain ⟨c, _, h⟩ := bind_eq_ok_iff.mp h
          exact moved_of_change (keepsHead_append c) h
      | append group c =>
          exact moved_of_change (keepsHead_append c) h
      | removeEntry group entry =>
          exact moved_of_change (keepsHead_removeEntry entry) h
      | changeEntry group entry edit =>
          exact moved_of_change (keepsHead_changeEntry entry (Condition.change schema edit)) h

theorem moved_attempt
    (new : α) (items : List (α × Group)) (op : Operation) :
    Moved new items (attempt new items op) := by
  unfold attempt
  split
  · next items' hrun =>
      exact moved_of_run hrun
  · exact .same

end Inversion

section Marks

/-- Marks increase, and missing ones come last. -/
def Before : Option Nat → Option Nat → Prop
  | some i, some j => i < j
  | _, none => True
  | none, some _ => False

/-- The group with this mark has the names that it had at its place at the start.  Without a mark
it has no stored name. -/
def Named (start : List Group) : Option Nat → Group → Prop
  | some i, g => ∃ g₀, start[i]? = some g₀ ∧ g.id = g₀.id ∧ g.storedId = g₀.storedId
  | none, g => g.storedId = none

/-- What is left of a list of groups with a first one. -/
structure Traced (first : Group) (start : List Group) (items : List (Option Nat × Group)) :
    Prop where
  ordered : (items.map Prod.fst).Pairwise Before
  named : ∀ x ∈ items, Named start x.1 x.2
  head : ∃ g rest, items = (some 0, g) :: rest ∧
    g.id = first.id ∧ g.storedId = first.storedId ∧ g.combinator = first.combinator

variable {first : Group} {start : List Group} {items items' : List (Option Nat × Group)}

theorem Named.congr
    {mark : Option Nat} {g g' : Group} (h : Named start mark g) (hid : g'.id = g.id)
    (hstored : g'.storedId = g.storedId) :
    Named start mark g' := by
  cases mark with
  | none =>
      exact hstored.trans h
  | some i =>
      obtain ⟨g₀, hg₀, hid₀, hstored₀⟩ := h
      exact ⟨g₀, hg₀, hid.trans hid₀, hstored.trans hstored₀⟩

theorem map_fst_set
    (items : List (α × Group)) (i : Fin items.length) (g : Group) :
    (items.set i (items[i].1, g)).map Prod.fst = items.map Prod.fst := by
  have hlt : i.val < (items.map Prod.fst).length := by
    simp
  have hmark : items[i].1 = (items.map Prod.fst)[i.val] := by
    simp
  rw [List.map_set, hmark, List.set_getElem_self]

/-- One operation preserves what is left of the groups. -/
theorem Moved.traced
    (hmoved : Moved none items items') (h : Traced first start items) :
    Traced first start items' := by
  obtain ⟨hordered, hnamed, g₀, rest, rfl, hid₀, hstored₀, hcombinator₀⟩ := h
  cases hmoved with
  | same =>
      exact ⟨hordered, hnamed, g₀, rest, rfl, hid₀, hstored₀, hcombinator₀⟩
  | added fresh =>
      refine ⟨?_, ?_, g₀, _, rfl, hid₀, hstored₀, hcombinator₀⟩
      · rw [List.map_append, List.pairwise_append]
        refine ⟨hordered, List.pairwise_singleton _ _, ?_⟩
        intro mark _ mark' hmark'
        rw [List.mem_singleton.mp hmark']
        cases mark <;> trivial
      · intro x hx
        rcases List.mem_append.mp hx with hx | hx
        · exact hnamed x hx
        · rw [List.mem_singleton.mp hx]
          rfl
  | @removed i hne =>
      have hsub := List.eraseIdx_sublist ((some 0, g₀) :: rest) i
      refine ⟨hordered.sublist (hsub.map Prod.fst), fun x hx => hnamed x (hsub.subset hx), ?_⟩
      cases hi : i.val with
      | zero =>
          exact absurd hi hne
      | succ j =>
          exact ⟨g₀, rest.eraseIdx j, rfl, hid₀, hstored₀, hcombinator₀⟩
  | @changed i g hid hstored hcombinator =>
      refine ⟨?_, ?_, ?_⟩
      · rwa [map_fst_set]
      · intro x hx
        rcases List.mem_or_eq_of_mem_set hx with hx | rfl
        · exact hnamed x hx
        · exact (hnamed _ (List.getElem_mem _)).congr hid hstored
      · obtain ⟨k, hk⟩ := i
        cases k with
        | zero =>
            exact ⟨g, rest, rfl, hid.trans hid₀, hstored.trans hstored₀,
              (hcombinator rfl).trans hcombinator₀⟩
        | succ k =>
            exact ⟨g₀, _, rfl, hid₀, hstored₀, hcombinator₀⟩

theorem Traced.attemptAll
    (h : Traced first start items) (ops : List Operation) :
    Traced first start (attemptAll none items ops) := by
  induction ops generalizing items with
  | nil =>
      exact h
  | cons op rest ih =>
      exact ih ((moved_attempt none items op).traced h)

end Marks

end Placed

theorem Group.error_of_removeFirst
    {id : Uuid} {groups : List Group} {e : Error} (h : removeFirst id groups = .error e) :
    e = .unknownGroup id := by
  induction groups with
  | nil =>
      cases h
      rfl
  | cons g rest ih =>
      rw [removeFirst] at h
      split at h
      · cases h
      · cases hrest : removeFirst id rest with
        | ok rest' =>
            rw [hrest] at h
            cases h
        | error e' =>
            rw [hrest] at h
            cases h
            exact ih hrest

namespace Segment

/-- The groups of a segment with their places. -/
def placed (s : Segment) : List (Option Nat × Group) :=
  s.groups.zipIdx.map fun (g, i) => (some i, g)

theorem map_snd_placed
    (s : Segment) :
    s.placed.map Prod.snd = s.groups := by
  rw [placed, List.map_map]
  exact List.zipIdx_map_fst 0 s.groups

theorem traced_placed
    (s : Segment) :
    Placed.Traced s.first s.groups s.placed := by
  refine ⟨?_, ?_, s.first, _, rfl, rfl, rfl, rfl⟩
  · have hmarks : s.placed.map Prod.fst = (List.range s.groups.length).map some := by
      rw [placed, List.map_map, List.range_eq_range', ← List.zipIdx_map_snd 0 s.groups, List.map_map]
      rfl
    rw [hmarks, List.pairwise_map]
    exact List.pairwise_lt_range
  · intro x hx
    obtain ⟨⟨g, i⟩, hmem, rfl⟩ := List.mem_map.mp hx
    exact ⟨g, List.mem_zipIdx_iff_getElem?.mp hmem, rfl, rfl⟩

theorem getElem?_last
    (s : Segment) :
    s.groups[s.groups.length - 1]? = some s.last := by
  rw [← List.getLast?_eq_getElem?, groups, List.getLast?_cons, last, List.getLastD_eq_getLast?]

theorem removeGroup_eq_cannotRemove_iff
    (s : Segment) (id : Uuid) :
    s.removeGroup id = .error .cannotRemoveFirstGroup ↔ s.first.id = id := by
  unfold removeGroup
  constructor
  · intro h
    split at h
    · next hid =>
        exact hid
    · cases hlater : Group.removeFirst id s.later with
      | ok later =>
          rw [hlater] at h
          cases h
      | error e =>
          rw [hlater, Group.error_of_removeFirst hlater] at h
          cases h
  · intro hid
    rw [if_pos hid]

/-- Whatever operations are made, some of which may fail, there is a first group, and it has the
identifiers and the combinator that it had at the start; so the first and the last place are in
the list.  The groups of the start that are left stand in the order that they had, and all
groups that were added stand after them.  A group cannot be removed for being the first one
exactly if the first group has the identifier that is asked for. -/
theorem first_stays
    (s : Segment) (ops : List Operation) :
    ∃ s', s.attemptAll ops = s' ∧
      0 < s'.groups.length ∧
      s'.groups[0]? = some s'.first ∧
      s'.groups[s'.groups.length - 1]? = some s'.last ∧
      s'.first.id = s.first.id ∧ s'.first.storedId = s.first.storedId ∧
      s'.first.combinator = s.first.combinator ∧
      (∃ items, Placed.attemptAll none s.placed ops = items ∧
        items.map Prod.snd = s'.groups ∧ Placed.Traced s.first s.groups items) ∧
      ∀ id, s'.removeGroup id = .error .cannotRemoveFirstGroup ↔ s'.first.id = id := by
  have hitems := Placed.map_snd_attemptAll s.map_snd_placed none ops
  have htraced := s.traced_placed.attemptAll ops
  obtain ⟨g, rest, hhead, hid, hstored, hcombinator⟩ := htraced.head
  obtain rfl : g = (s.attemptAll ops).first := by
    rw [hhead] at hitems
    exact (List.cons.inj hitems).1
  exact ⟨_, rfl, Nat.succ_pos _, rfl, getElem?_last _, hid, hstored, hcombinator,
    ⟨_, rfl, hitems, htraced⟩, removeGroup_eq_cannotRemove_iff _⟩

end Segment

end Audience
