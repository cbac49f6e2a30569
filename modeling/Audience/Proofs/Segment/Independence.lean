import Audience.Proofs.Segment.Places

/-!
# Operations on different groups are independent

An operation other than adding a group is addressed to one group, the first one with an
identifier.  Two operations that are addressed to different identifiers can be attempted in either
order: each of them fails or succeeds as it would alone, and the segment is the same in the end.

**Treatments.**  Whatever such an operation does, it looks its group up and then does one thing if
this is the first group of the segment, and another if it is a later one, which it may also remove.
A treatment has both, so an argument about treatments is one about all operations.  Adding a
condition may fail before the group is looked up, for a field that the schema does not have.

**Outcomes.**  Two steps fit together on a state if each has the same outcome on the state and
after the other one, and they meet when both succeed.  This is so for steps that work on different
parts of a state, and it carries over to a state that contains the one they work on.  So the list
of groups is followed to the first group that either step is addressed to.

**Results.**
* `Independent.of_parts`: steps on different parts of a state fit together.
* `Operation.exists_treatment`: an operation on a group is a treatment of the group.
* `Segment.independent_treat`: treatments of different groups fit together.
* `Segment.attempt_comm`: operations on different groups commute.
-/

namespace Audience

universe u v

section Outcomes

variable {ε : Type u} {α β σ τ : Type v}

/-- The outcomes of two steps on a state fit together: one that fails also fails after the other
one, with the same error, and two that succeed meet. -/
inductive Independent (a b : σ → Except ε σ) (s : σ) : Prop
  | neither {e e' : ε} :
      a s = .error e →
      b s = .error e' →
      Independent a b s
  | left {s₁ : σ} {e : ε} :
      a s = .ok s₁ →
      b s = .error e →
      b s₁ = .error e →
      Independent a b s
  | right {s₂ : σ} {e : ε} :
      a s = .error e →
      b s = .ok s₂ →
      a s₂ = .error e →
      Independent a b s
  | both {s₁ s₂ s' : σ} :
      a s = .ok s₁ →
      b s = .ok s₂ →
      b s₁ = .ok s' →
      a s₂ = .ok s' →
      Independent a b s

variable {a b : σ → Except ε σ} {s : σ}

theorem Independent.symm
    (h : Independent a b s) :
    Independent b a s := by
  cases h with
  | neither ha hb => exact .neither hb ha
  | left ha hb hab => exact .right hb ha hab
  | right ha hb hba => exact .left hb ha hba
  | both ha hb hab hba => exact .both hb ha hba hab

/-- A step that always fails with one error fits together with every other one. -/
theorem Independent.of_fails
    {e : ε} (h : ∀ s, a s = .error e) :
    Independent a b s := by
  cases hb : b s with
  | error e' =>
      exact .neither (h s) hb
  | ok s₂ =>
      exact .right (h s) hb (h s₂)

/-- Steps on a state fit together in every state that contains it. -/
theorem Independent.embed
    {a' b' : τ → Except ε τ} (put : σ → τ) (h : Independent a b s)
    (ha : ∀ s, a' (put s) = (a s).map put) (hb : ∀ s, b' (put s) = (b s).map put) :
    Independent a' b' (put s) := by
  have ha' : ∀ {s r}, a s = r → a' (put s) = r.map put := by
    rintro s _ rfl
    exact ha s
  have hb' : ∀ {s r}, b s = r → b' (put s) = r.map put := by
    rintro s _ rfl
    exact hb s
  cases h with
  | neither has hbs => exact .neither (ha' has) (hb' hbs)
  | left has hbs hab => exact .left (ha' has) (hb' hbs) (hb' hab)
  | right has hbs hba => exact .right (ha' has) (hb' hbs) (ha' hba)
  | both has hbs hab hba => exact .both (ha' has) (hb' hbs) (hb' hab) (ha' hba)

/-- Steps on different parts of a state fit together.  The second one has to work on its part only
beside what the first one starts from and what it makes of it. -/
theorem Independent.of_parts
    (put : α → β → σ) {x : α} {y : β} (ra : Except ε α) (rb : Except ε β)
    (ha : ∀ y', a (put x y') = ra.map (put · y'))
    (hb : ∀ x', x' = x ∨ ra = .ok x' → b (put x' y) = rb.map (put x')) :
    Independent a b (put x y) := by
  have hbefore : b (put x y) = rb.map (put x) := hb x (.inl rfl)
  cases ra with
  | error e =>
      cases rb with
      | error e' =>
          exact .neither (ha y) hbefore
      | ok y' =>
          exact .right (ha y) hbefore (ha y')
  | ok x' =>
      have hafter : b (put x' y) = rb.map (put x') := hb x' (.inr rfl)
      cases rb with
      | error e' =>
          exact .left (ha y) hbefore hafter
      | ok y' =>
          exact .both (ha y) hbefore hafter (ha y')

end Outcomes

/-- What is done to a group if it is the first one, and if it is a later one, of which nothing may
be left.  The group keeps its identifier. -/
structure Treatment where
  first : Group → Except Error Group
  later : Group → Except Error (Option Group)
  id_first : ∀ g g', first g = .ok g' → g'.id = g.id
  id_later : ∀ g g', later g = .ok (some g') → g'.id = g.id

namespace Treatment

/-- Removes a later group. -/
def remove : Treatment where
  first := fun _ => .error .cannotRemoveFirstGroup
  later := fun _ => .ok none
  id_first := fun _ _ h => nomatch h
  id_later := fun _ _ h => nomatch h

/-- Turns a later group. -/
def turn : Treatment where
  first := .ok
  later := fun g => .ok (some g.turn)
  id_first := by
    rintro g _ ⟨⟩
    rfl
  id_later := by
    rintro g _ ⟨⟩
    rfl

/-- Changes a group, be it the first one or a later one. -/
def change (f : Group → Except Error Group) (hf : Placed.KeepsHead f) : Treatment where
  first := f
  later := fun g => (f g).map some
  id_first := fun g g' h => (hf g g' h).1
  id_later := by
    intro g g' h
    obtain ⟨g'', hg, ⟨⟩⟩ := map_eq_ok_iff.mp h
    exact (hf g g' hg).1

end Treatment

/-- Changes or removes the first group with an identifier. -/
def Group.treatFirst (id : Uuid) (f : Group → Except Error (Option Group)) :
    List Group → Except Error (List Group)
  | [] => .error (.unknownGroup id)
  | g :: rest =>
      if g.id = id then (f g).map (·.toList ++ rest) else (treatFirst id f rest).map (g :: ·)

/-- Treats the first group with an identifier. -/
def Segment.treat (id : Uuid) (t : Treatment) (s : Segment) : Except Error Segment :=
  if s.first.id = id then (t.first s.first).map fun first => { s with first := first }
  else (Group.treatFirst id t.later s.later).map fun later => { s with later := later }

section Operations

variable {id : Uuid}

/-- The group that an operation is addressed to. -/
def Operation.group? : Operation → Option Uuid
  | edit _ _ .addGroup => none
  | edit _ _ (.removeGroup group) => some group
  | edit _ _ (.turnGroup group) => some group
  | edit _ _ (.addCondition group _) => some group
  | edit _ _ (.append group _) => some group
  | edit _ _ (.removeEntry group _) => some group
  | edit _ _ (.changeEntry group _ _) => some group
  | update group _ _ => some group

theorem Group.treatFirst_none
    (groups : List Group) :
    treatFirst id (fun _ => .ok none) groups = removeFirst id groups := by
  induction groups with
  | nil =>
      rfl
  | cons g rest ih =>
      rw [treatFirst, removeFirst, ih]
      rfl

theorem Group.treatFirst_some
    (f : Group → Except Error Group) (groups : List Group) :
    treatFirst id (fun g => (f g).map some) groups = changeFirst id f groups := by
  induction groups with
  | nil =>
      rfl
  | cons g rest ih =>
      rw [treatFirst, changeFirst, ih]
      cases f g <;> rfl

theorem Segment.treat_remove
    (s : Segment) :
    s.treat id .remove = s.removeGroup id := by
  rw [removeGroup, ← Group.treatFirst_none]
  rfl

theorem Segment.treat_turn
    (s : Segment) :
    s.treat id .turn = s.turnGroup id := by
  rw [turnGroup, ← Group.treatFirst_some]
  rfl

theorem Segment.treat_change
    {f : Group → Except Error Group} (hf : Placed.KeepsHead f) (s : Segment) :
    s.treat id (.change f hf) = s.changeGroup id f := by
  rw [changeGroup, ← Group.treatFirst_some]
  rfl

/-- An operation that is addressed to a group is a treatment of the group, unless it fails whatever
the segment is. -/
theorem Operation.exists_treatment
    {op : Operation} (h : op.group? = some id) :
    (∃ e, ∀ s, op.run s = .error e) ∨ ∃ t, ∀ s, op.run s = Segment.treat id t s := by
  cases op with
  | update group entry f =>
      cases h
      exact .inr ⟨.change _ (Placed.keepsHead_changeEntry entry f),
        fun s => (s.treat_change _).symm⟩
  | edit schema fresh e =>
      cases e with
      | addGroup =>
          cases h
      | removeGroup group =>
          cases h
          exact .inr ⟨.remove, fun s => s.treat_remove.symm⟩
      | turnGroup group =>
          cases h
          exact .inr ⟨.turn, fun s => s.treat_turn.symm⟩
      | addCondition group field =>
          cases h
          have hrun : ∀ s, run (.edit schema fresh (.addCondition id field)) s =
              Condition.on schema field fresh >>= fun c => s.append id c := fun _ => rfl
          cases hnew : Condition.on schema field fresh with
          | error e =>
              refine .inl ⟨e, fun s => ?_⟩
              rw [hrun, hnew]
              rfl
          | ok c =>
              refine .inr ⟨.change _ (Placed.keepsHead_append c), fun s => ?_⟩
              rw [hrun, hnew, Segment.treat_change]
              rfl
      | append group c =>
          cases h
          exact .inr ⟨.change _ (Placed.keepsHead_append c), fun s => (s.treat_change _).symm⟩
      | removeEntry group entry =>
          cases h
          exact .inr ⟨.change _ (Placed.keepsHead_removeEntry entry),
            fun s => (s.treat_change _).symm⟩
      | changeEntry group entry change =>
          cases h
          exact .inr ⟨.change _ (Placed.keepsHead_changeEntry entry _),
            fun s => (s.treat_change _).symm⟩

end Operations

section Independence

variable {i j : Uuid} {f k : Group → Except Error (Option Group)}

/-- What a treatment leaves of a group is passed over in search of another one. -/
theorem Group.treatFirst_toList_append
    {g? : Option Group} (h : ∀ g, g? = some g → g.id ≠ j) (rest : List Group) :
    treatFirst j k (g?.toList ++ rest) = (treatFirst j k rest).map (g?.toList ++ ·) := by
  cases g? with
  | none =>
      show treatFirst j k rest = (treatFirst j k rest).map fun rest => rest
      cases treatFirst j k rest <;> rfl
  | some g =>
      exact if_neg (h g rfl)

/-- If one step is addressed to the first group of a list, the other one works on the rest. -/
theorem Group.independent_of_head
    (hne : i ≠ j) (hf : ∀ g g', f g = .ok (some g') → g'.id = g.id) {g : Group} (hg : g.id = i)
    (rest : List Group) :
    Independent (treatFirst i f) (treatFirst j k) (g :: rest) := by
  refine Independent.of_parts (fun (g? : Option Group) rest => g?.toList ++ rest) (x := some g)
    (f g) (treatFirst j k rest) ?_ ?_
  · intro rest'
    exact if_pos hg
  · -- Whatever is left of the group still has the identifier of the first step.
    intro g? hsource
    refine treatFirst_toList_append ?_ rest
    rintro g' rfl
    rcases hsource with hsame | hmade
    · cases hsame
      exact hg ▸ hne
    · rw [hf g g' hmade, hg]
      exact hne

/-- Steps that are addressed to different groups of a list fit together. -/
theorem Group.independent_treatFirst
    (hne : i ≠ j) (hf : ∀ g g', f g = .ok (some g') → g'.id = g.id)
    (hk : ∀ g g', k g = .ok (some g') → g'.id = g.id) (groups : List Group) :
    Independent (treatFirst i f) (treatFirst j k) groups := by
  induction groups with
  | nil =>
      exact .neither rfl rfl
  | cons g rest ih =>
      by_cases hi : g.id = i
      · exact independent_of_head hne hf hi rest
      · by_cases hj : g.id = j
        · exact (independent_of_head hne.symm hk hj rest).symm
        · -- Both steps pass over the group.
          exact ih.embed (g :: ·) (fun _ => if_neg hi) (fun _ => if_neg hj)

/-- If one treatment is addressed to the first group of a segment, the other one works on the later
groups. -/
theorem Segment.independent_of_first
    (hne : i ≠ j) (t t' : Treatment) {first : Group} (hfirst : first.id = i)
    (later : List Group) :
    Independent (treat i t) (treat j t') ⟨first, later⟩ := by
  refine Independent.of_parts Segment.mk (t.first first) (Group.treatFirst j t'.later later) ?_ ?_
  · intro later'
    exact if_pos hfirst
  · intro first' hsource
    refine if_neg ?_
    rcases hsource with rfl | hmade
    · exact hfirst ▸ hne
    · rw [t.id_first first first' hmade, hfirst]
      exact hne

/-- Treatments of different groups of a segment fit together. -/
theorem Segment.independent_treat
    (hne : i ≠ j) (t t' : Treatment) (s : Segment) :
    Independent (treat i t) (treat j t') s := by
  obtain ⟨first, later⟩ := s
  by_cases hi : first.id = i
  · exact independent_of_first hne t t' hi later
  · by_cases hj : first.id = j
    · exact (independent_of_first hne.symm t' t hj later).symm
    · have hlater := Group.independent_treatFirst hne t.id_later t'.id_later later
      exact hlater.embed (Segment.mk first) (fun _ => if_neg hi) (fun _ => if_neg hj)

end Independence

namespace Segment

/-- Why an operation fails on a segment, if it does. -/
def refusal? (s : Segment) (op : Operation) : Option Error :=
  match op.run s with
  | .ok _ => none
  | .error e => some e

theorem independent_run
    {a b : Operation} {i j : Uuid} (ha : a.group? = some i) (hb : b.group? = some j)
    (hne : i ≠ j) (s : Segment) :
    Independent a.run b.run s := by
  rcases Operation.exists_treatment ha with ⟨e, hfails⟩ | ⟨t, ht⟩
  · exact .of_fails hfails
  · rcases Operation.exists_treatment hb with ⟨e, hfails⟩ | ⟨t', ht'⟩
    · exact (Independent.of_fails hfails).symm
    · rw [funext ht, funext ht']
      exact independent_treat hne t t' s

/-- Two operations on groups with different identifiers can be attempted in either order.  Each of
them succeeds, or fails with the error, as it does without the other one before it, and the segment
is the same after both. -/
theorem attempt_comm
    {a b : Operation} {i j : Uuid} (ha : a.group? = some i) (hb : b.group? = some j)
    (hne : i ≠ j) (s : Segment) :
    (s.attempt b).refusal? a = s.refusal? a ∧
      (s.attempt a).refusal? b = s.refusal? b ∧
      (s.attempt a).attempt b = (s.attempt b).attempt a := by
  unfold attempt refusal?
  cases independent_run ha hb hne s with
  | neither ha hb =>
      simp only [ha, hb, and_self]
  | left ha hb hab =>
      simp only [ha, hb, hab, and_self]
  | right ha hb hba =>
      simp only [ha, hb, hba, and_self]
  | both ha hb hab hba =>
      simp only [ha, hb, hab, hba, and_self]

/-- Four groups, of which the second and the last one have one identifier. -/
def crowded : Segment where
  first := Group.empty .and (.ofNat 0)
  later := [Group.empty .or (.ofNat 1), Group.empty .or (.ofNat 2), Group.empty .or (.ofNat 1)]

/-- Removing the second group moves the third one, which is turned before or after. -/
theorem attempt_comm_crowded :
    Uuid.ofNat 1 ≠ Uuid.ofNat 2 ∧
      ∀ (schema : Schema) (fresh : Uuid),
        (crowded.attempt (.edit schema fresh (.removeGroup (.ofNat 1)))).refusal?
            (.edit schema fresh (.turnGroup (.ofNat 2))) = none ∧
          (crowded.attempt (.edit schema fresh (.turnGroup (.ofNat 2)))).refusal?
            (.edit schema fresh (.removeGroup (.ofNat 1))) = none ∧
          (crowded.attempt (.edit schema fresh (.removeGroup (.ofNat 1)))).attempt
            (.edit schema fresh (.turnGroup (.ofNat 2))) =
          (crowded.attempt (.edit schema fresh (.turnGroup (.ofNat 2)))).attempt
            (.edit schema fresh (.removeGroup (.ofNat 1))) := by
  have hne : Uuid.ofNat 1 ≠ Uuid.ofNat 2 := by
    decide +kernel
  refine ⟨hne, ?_⟩
  intro schema fresh
  obtain ⟨hremove, hturn, hsame⟩ := attempt_comm
    (a := .edit schema fresh (.removeGroup (.ofNat 1)))
    (b := .edit schema fresh (.turnGroup (.ofNat 2))) rfl rfl hne crowded
  exact ⟨hturn.trans rfl, hremove.trans rfl, hsame⟩

end Segment

end Audience
