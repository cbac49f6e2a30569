import Audience.Segment.Composer

/-!
# What an operation makes of a segment

An operation on a segment is an edit under the schema of the moment, or a change of one
condition by any function.  It may fail; then the segment stays as it is.

**Inversion.**  If it succeeds, it adds a group without entries, or removes a later group, or
edits one group: it turns the combinator of a later one, appends an active condition, removes
an entry, or changes an active condition.  `Segment.Edited` says so once, with the place in the
lists, and what an operation preserves is derived from it by cases.

**Results.**
* `Operation.edited_of_run`: what a successful operation makes of a segment.
* `Group.Edited.entries`: what holds of all entries of a group keeps holding.
* `Segment.Edited.groups`: what holds of the first group and of the later ones keeps holding.
* `Segment.attemptAll_induction`: what each operation preserves, a sequence preserves.
-/

namespace Audience

/-- An edit, with the schema of the moment and an identifier for what it adds, or a change of
one condition by any function. -/
inductive Operation
  | edit (schema : Schema) (fresh : Uuid) (e : Edit)
  | update (group entry : Uuid) (f : Condition → Except Error Condition)

namespace Operation

def run : Operation → Segment → Except Error Segment
  | edit schema fresh e, s => e.run schema fresh s
  | update group entry f, s => s.changeEntry group entry f

/-- The operation may append the condition. -/
def Adds : Operation → Condition → Prop
  | edit schema fresh (.addCondition _ field), c => Condition.on schema field fresh = .ok c
  | edit _ _ (.append _ given), c => c = given
  | _, _ => False

/-- The operation may make the second condition of the first one. -/
def Changes : Operation → Condition → Condition → Prop
  | edit schema _ (.changeEntry _ _ change), c, c' => c.change schema change = .ok c'
  | update _ _ f, c, c' => f c = .ok c'
  | _, _, _ => False

end Operation

section Relations

variable (Adds : Condition → Prop) (Changes : Condition → Condition → Prop)

/-- What an operation may make of one group. -/
inductive Group.Edited (g : Group) : Group → Prop
  | turned :
      Edited g g.turn
  | appended {c : Condition} :
      Adds c →
      Edited g (g.append c)
  | removed {before after : List Entry} {e : Entry} :
      g.entries = before ++ e :: after →
      Edited g { g with entries := before ++ after }
  | changed {before after : List Entry} {c c' : Condition} :
      g.entries = before ++ .active c :: after →
      Changes c c' →
      Edited g { g with entries := before ++ .active c' :: after }

/-- What an operation may make of a segment.  The first group is neither removed nor turned. -/
inductive Segment.Edited (s : Segment) : Segment → Prop
  | same :
      Edited s s
  | added (fresh : Uuid) :
      Edited s (s.addGroup fresh)
  | removed {before after : List Group} {g : Group} :
      s.later = before ++ g :: after →
      Edited s { s with later := before ++ after }
  | first {g' : Group} :
      s.first.Edited Adds Changes g' →
      g'.combinator = s.first.combinator →
      Edited s { s with first := g' }
  | later {before after : List Group} {g g' : Group} :
      s.later = before ++ g :: after →
      g.Edited Adds Changes g' →
      Edited s { s with later := before ++ g' :: after }

end Relations

section Places

variable {id : Uuid}

theorem Entry.exists_of_removeFirst
    {entries entries' : List Entry} (h : removeFirst id entries = .ok entries') :
    ∃ before e after, entries = before ++ e :: after ∧ entries' = before ++ after := by
  induction entries generalizing entries' with
  | nil =>
      cases h
  | cons first rest ih =>
      simp only [removeFirst] at h
      split at h
      · cases h
        exact ⟨[], first, rest, rfl, rfl⟩
      · obtain ⟨rest', hrest, rfl⟩ := map_eq_ok_iff.mp h
        obtain ⟨before, e, after, rfl, rfl⟩ := ih hrest
        exact ⟨first :: before, e, after, rfl, rfl⟩

theorem Entry.exists_of_changeFirst
    {f : Condition → Except Error Condition} {entries entries' : List Entry}
    (h : changeFirst id f entries = .ok entries') :
    ∃ before c c' after, entries = before ++ active c :: after ∧ f c = .ok c' ∧
      entries' = before ++ active c' :: after := by
  induction entries generalizing entries' with
  | nil =>
      cases h
  | cons first rest ih =>
      simp only [changeFirst] at h
      split at h
      · obtain ⟨first', hfirst, rfl⟩ := map_eq_ok_iff.mp h
        cases first with
        | active c =>
            obtain ⟨c', hc, rfl⟩ := map_eq_ok_iff.mp hfirst
            exact ⟨[], c, c', rest, rfl, hc, rfl⟩
        | quarantined q =>
            cases hfirst
      · obtain ⟨rest', hrest, rfl⟩ := map_eq_ok_iff.mp h
        obtain ⟨before, c, c', after, rfl, hc, rfl⟩ := ih hrest
        exact ⟨first :: before, c, c', after, rfl, hc, rfl⟩

theorem Group.exists_of_removeFirst
    {groups groups' : List Group} (h : removeFirst id groups = .ok groups') :
    ∃ before g after, groups = before ++ g :: after ∧ groups' = before ++ after := by
  induction groups generalizing groups' with
  | nil =>
      cases h
  | cons first rest ih =>
      simp only [removeFirst] at h
      split at h
      · cases h
        exact ⟨[], first, rest, rfl, rfl⟩
      · obtain ⟨rest', hrest, rfl⟩ := map_eq_ok_iff.mp h
        obtain ⟨before, g, after, rfl, rfl⟩ := ih hrest
        exact ⟨first :: before, g, after, rfl, rfl⟩

theorem Group.exists_of_changeFirst
    {f : Group → Except Error Group} {groups groups' : List Group}
    (h : changeFirst id f groups = .ok groups') :
    ∃ before g g' after, groups = before ++ g :: after ∧ f g = .ok g' ∧
      groups' = before ++ g' :: after := by
  induction groups generalizing groups' with
  | nil =>
      cases h
  | cons first rest ih =>
      simp only [changeFirst] at h
      split at h
      · obtain ⟨first', hfirst, rfl⟩ := map_eq_ok_iff.mp h
        exact ⟨[], first, first', rest, rfl, hfirst, rfl⟩
      · obtain ⟨rest', hrest, rfl⟩ := map_eq_ok_iff.mp h
        obtain ⟨before, g, g', after, rfl, hg, rfl⟩ := ih hrest
        exact ⟨first :: before, g, g', after, rfl, hg, rfl⟩

end Places

section Inversion

variable {Adds : Condition → Prop} {Changes : Condition → Condition → Prop}
variable {s s' : Segment}

theorem Segment.edited_of_changeGroup
    {f : Group → Except Error Group} {id : Uuid}
    (hf : ∀ g g', f g = .ok g' →
      g.Edited Adds Changes g' ∧ g'.combinator = g.combinator)
    (h : s.changeGroup id f = .ok s') :
    s.Edited Adds Changes s' := by
  unfold changeGroup at h
  split at h
  · obtain ⟨first, hfirst, rfl⟩ := map_eq_ok_iff.mp h
    obtain ⟨hedited, hcombinator⟩ := hf s.first first hfirst
    exact .first hedited hcombinator
  · obtain ⟨later, hlater, rfl⟩ := map_eq_ok_iff.mp h
    obtain ⟨before, g, g', after, hplace, hg, rfl⟩ := Group.exists_of_changeFirst hlater
    exact .later hplace (hf g g' hg).1

theorem Segment.edited_of_append
    {group : Uuid} {c : Condition} (hc : Adds c) (h : s.append group c = .ok s') :
    s.Edited Adds Changes s' := by
  refine edited_of_changeGroup ?_ h
  rintro g _ ⟨⟩
  exact ⟨.appended hc, rfl⟩

theorem Segment.edited_of_removeEntry
    {group entry : Uuid} (h : s.removeEntry group entry = .ok s') :
    s.Edited Adds Changes s' := by
  refine edited_of_changeGroup ?_ h
  intro g g' hremove
  obtain ⟨entries, hentries, rfl⟩ := map_eq_ok_iff.mp hremove
  obtain ⟨before, e, after, hplace, rfl⟩ := Entry.exists_of_removeFirst hentries
  exact ⟨.removed hplace, rfl⟩

theorem Segment.edited_of_changeEntry
    {group entry : Uuid} {f : Condition → Except Error Condition}
    (hf : ∀ c c', f c = .ok c' → Changes c c') (h : s.changeEntry group entry f = .ok s') :
    s.Edited Adds Changes s' := by
  refine edited_of_changeGroup ?_ h
  intro g g' hchange
  obtain ⟨entries, hentries, rfl⟩ := map_eq_ok_iff.mp hchange
  obtain ⟨before, c, c', after, hplace, hc, rfl⟩ := Entry.exists_of_changeFirst hentries
  exact ⟨.changed hplace (hf c c' hc), rfl⟩

/-- What a successful operation makes of a segment. -/
theorem Operation.edited_of_run
    {op : Operation} (h : op.run s = .ok s') :
    s.Edited op.Adds op.Changes s' := by
  cases op with
  | update group entry f =>
      exact Segment.edited_of_changeEntry (fun _ _ hc => hc) h
  | edit schema fresh e =>
      cases e with
      | addGroup =>
          cases h
          exact .added fresh
      | removeGroup group =>
          simp only [run, Edit.run, Segment.removeGroup] at h
          split at h
          · cases h
          · obtain ⟨later, hlater, rfl⟩ := map_eq_ok_iff.mp h
            obtain ⟨before, g, after, hplace, rfl⟩ := Group.exists_of_removeFirst hlater
            exact .removed hplace
      | turnGroup group =>
          simp only [run, Edit.run, Segment.turnGroup] at h
          split at h
          · cases h
            exact .same
          · obtain ⟨later, hlater, rfl⟩ := map_eq_ok_iff.mp h
            obtain ⟨before, g, _, after, hplace, ⟨⟩, rfl⟩ := Group.exists_of_changeFirst hlater
            exact .later hplace .turned
      | addCondition group field =>
          obtain ⟨c, hc, happend⟩ := bind_eq_ok_iff.mp h
          exact Segment.edited_of_append hc happend
      | append group c =>
          exact Segment.edited_of_append rfl h
      | removeEntry group entry =>
          exact Segment.edited_of_removeEntry h
      | changeEntry group entry change =>
          exact Segment.edited_of_changeEntry (fun _ _ hc => hc) h

end Inversion

section Preservation

variable {Adds : Condition → Prop} {Changes : Condition → Condition → Prop}
variable {g g' : Group} {s s' : Segment}

theorem Group.Edited.id
    (h : g.Edited Adds Changes g') :
    g'.id = g.id := by
  cases h <;> rfl

theorem Group.Edited.storedId
    (h : g.Edited Adds Changes g') :
    g'.storedId = g.storedId := by
  cases h <;> rfl

/-- What holds of all entries of a group keeps holding, if it holds of what is appended and is
kept by what is changed. -/
theorem Group.Edited.entries
    {P : Entry → Prop} (h : g.Edited Adds Changes g')
    (hadds : ∀ c, Adds c → P (.active c))
    (hchanges : ∀ c c', Changes c c' → P (.active c) → P (.active c'))
    (hg : ∀ e ∈ g.entries, P e) :
    ∀ e ∈ g'.entries, P e := by
  cases h with
  | turned =>
      exact hg
  | appended hc =>
      intro e he
      rcases List.mem_append.mp he with he | he
      · exact hg e he
      · rw [List.mem_singleton.mp he]
        exact hadds _ hc
  | removed hplace =>
      intro e he
      refine hg e ?_
      rw [hplace]
      exact ((List.sublist_cons_self _ _).append_left _).subset he
  | changed hplace hc =>
      simp only [hplace, List.forall_mem_append, List.forall_mem_cons] at hg ⊢
      obtain ⟨hbefore, hold, hafter⟩ := hg
      exact ⟨hbefore, hchanges _ _ hc hold, hafter⟩

/-- What holds of the first group, and of all later ones, keeps holding, if editing a group keeps
it and it holds of a group without entries. -/
theorem Segment.Edited.groups
    {First Later : Group → Prop} (h : s.Edited Adds Changes s')
    (hfirst : ∀ g g' : Group, g.Edited Adds Changes g' → First g → First g')
    (hlater : ∀ g g' : Group, g.Edited Adds Changes g' → Later g → Later g')
    (hempty : ∀ fresh, Later (Group.empty .or fresh))
    (hs : First s.first ∧ ∀ g ∈ s.later, Later g) :
    First s'.first ∧ ∀ g ∈ s'.later, Later g := by
  obtain ⟨hhead, htail⟩ := hs
  cases h with
  | same =>
      exact ⟨hhead, htail⟩
  | added fresh =>
      refine ⟨hhead, ?_⟩
      intro g hg
      rcases List.mem_append.mp hg with hg | hg
      · exact htail g hg
      · rw [List.mem_singleton.mp hg]
        exact hempty fresh
  | removed hplace =>
      refine ⟨hhead, ?_⟩
      intro g hg
      refine htail g ?_
      rw [hplace]
      exact ((List.sublist_cons_self _ _).append_left _).subset hg
  | first hedited _ =>
      exact ⟨hfirst _ _ hedited hhead, htail⟩
  | later hplace hedited =>
      refine ⟨hhead, ?_⟩
      simp only [hplace, List.forall_mem_append, List.forall_mem_cons] at htail ⊢
      obtain ⟨hbefore, hold, hafter⟩ := htail
      exact ⟨hbefore, hlater _ _ hedited hold, hafter⟩

end Preservation

namespace Segment

/-- Makes an operation.  One that fails leaves the segment as it is. -/
def attempt (s : Segment) (op : Operation) : Segment :=
  match op.run s with
  | .ok s' => s'
  | .error _ => s

/-- Makes operations in order. -/
def attemptAll (s : Segment) (ops : List Operation) : Segment := ops.foldl attempt s

/-- What holds of a segment holds after any operations, if each one that succeeds preserves it. -/
theorem attemptAll_induction
    {P : Segment → Prop} {ops : List Operation}
    (hstep : ∀ op ∈ ops, ∀ s s', op.run s = .ok s' → P s → P s') {s : Segment} (hs : P s) :
    P (s.attemptAll ops) := by
  induction ops generalizing s with
  | nil =>
      exact hs
  | cons op rest ih =>
      refine ih (fun op hop => hstep op (List.mem_cons_of_mem _ hop)) ?_
      unfold attempt
      split
      · next s' hrun =>
          exact hstep op List.mem_cons_self s s' hrun hs
      · exact hs

end Segment

end Audience
