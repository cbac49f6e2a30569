import Audience.Script
import Audience.Proofs.Condition.Composed
import Audience.Proofs.Segment.Edits
import Mathlib.Logic.Relation

/-!
# Steps in composing a segment

One step in composing a segment under a schema is an edit, whose appended conditions are
composed under the schema, or a change of one condition by a function that takes composed
conditions to composed ones.

**Invariant.**  A step adds active conditions that are composed under the schema, and it
moves no entry to another group.  So whatever holds of the entries that were set aside in
the first group keeps holding there, and likewise for the later groups, and a stored
identifier stays with its group.

**Scripts.**  A script is a sequence of such steps.

**Results.**
* `Segment.Step.exists_operation`: a step is an operation that composes conditions.
* `Segment.Step.sound`: a step preserves the invariant.
* `Segment.sound_of_steps`: any sequence of steps preserves it.
* `Script.steps_of_build`: a script makes steps on a new segment.
-/

namespace Audience

section Soundness

variable (schema : Schema)

/-- An active entry is composed, and one that was set aside is as it should be. -/
def Entry.Sound (Aside : Quarantined → Prop) : Entry → Prop
  | active c => c.Composed (· = schema)
  | quarantined q => Aside q

/-- The stored identifier and the entries of a group are as they should be. -/
structure Group.Sound (Name : Option String → Prop) (Aside : Quarantined → Prop) (g : Group) :
    Prop where
  storedId : Name g.storedId
  entries : ∀ e ∈ g.entries, e.Sound schema Aside

/-- All groups are as they should be, the first one in its own way. -/
structure Segment.Sound (Name : Option String → Prop) (First Later : Quarantined → Prop)
    (s : Segment) : Prop where
  first : s.first.Sound schema Name First
  later : ∀ g ∈ s.later, g.Sound schema Name Later

/-- Conditions that are appended are composed under the schema. -/
def Edit.AppendsComposed : Edit → Prop
  | append _ c => c.Composed (· = schema)
  | _ => True

/-- One step in composing a segment under a schema. -/
inductive Segment.Step : Segment → Segment → Prop
  | edit {s s' : Segment} {e : Edit} {fresh : Uuid} :
      e.AppendsComposed schema →
      e.run schema fresh s = .ok s' →
      Step s s'
  | update {s s' : Segment} {groupId entryId : Uuid} {f : Condition → Except Error Condition} :
      (∀ c c' : Condition, c.Composed (· = schema) → f c = .ok c' →
        c'.Composed (· = schema)) →
      s.changeEntry groupId entryId f = .ok s' →
      Step s s'

/-- Segments that are composed under one schema, starting from an empty one or from what a
script composes. -/
inductive Segment.Composed : Segment → Prop
  | new (id : Uuid) :
      Composed (Segment.new id)
  | script {steps : List Script.Step} {ids : IdSource} {s : Segment} :
      Script.build schema steps ids = .ok s →
      Composed s
  | step {s s' : Segment} :
      Composed s →
      Segment.Step schema s s' →
      Composed s'

end Soundness

/-- Conditions that the operation appends are composed under the schemas of a kind, and so is
what it makes of one that was. -/
structure Operation.Composes (allowed : Schema → Prop) (op : Operation) : Prop where
  adds : ∀ c, op.Adds c → c.Composed allowed
  changes : ∀ c c', op.Changes c c' → c.Composed allowed → c'.Composed allowed

section Operations

variable {allowed : Schema → Prop}

theorem Operation.composes_edit
    {schema : Schema} {fresh : Uuid} {e : Edit} (hschema : allowed schema)
    (happend : ∀ group c, e = .append group c → c.Composed allowed) :
    (Operation.edit schema fresh e).Composes allowed := by
  constructor
  · intro c hc
    cases e with
    | addCondition group field =>
        exact .new hschema hc
    | append group given =>
        rw [show c = given from hc]
        exact happend group given rfl
    | addGroup | removeGroup | turnGroup | removeEntry | changeEntry =>
        exact False.elim hc
  · intro c c' hc hcomposed
    cases e with
    | changeEntry group entry change =>
        exact .changed hschema hcomposed hc
    | addGroup | removeGroup | turnGroup | addCondition | append | removeEntry =>
        exact False.elim hc

theorem Operation.composes_update
    {f : Condition → Except Error Condition}
    (hf : ∀ c c', c.Composed allowed → f c = .ok c' → c'.Composed allowed)
    (group entry : Uuid) :
    (Operation.update group entry f).Composes allowed where
  adds := fun _ hc => False.elim hc
  changes := fun c c' hc hcomposed => hf c c' hcomposed hc

/-- A step is an operation that composes. -/
theorem Segment.Step.exists_operation
    {schema : Schema} {s s' : Segment} (h : Step schema s s') :
    ∃ op : Operation, op.run s = .ok s' ∧ op.Composes (· = schema) := by
  cases h with
  | @edit e fresh he hrun =>
      refine ⟨.edit schema fresh e, hrun, Operation.composes_edit rfl ?_⟩
      rintro group c rfl
      exact he
  | @update groupId entryId f hf hchange =>
      exact ⟨.update groupId entryId f, hchange, Operation.composes_update hf groupId entryId⟩

end Operations

section Invariant

variable {schema : Schema} {Name : Option String → Prop}

theorem Group.sound_empty
    {Aside : Quarantined → Prop} (hnone : Name none) (combinator : Combinator) (id : Uuid) :
    (Group.empty combinator id).Sound schema Name Aside where
  storedId := hnone
  entries := fun _ he => nomatch he

theorem Group.Sound.edited
    {Aside : Quarantined → Prop} {g g' : Group} (h : g.Sound schema Name Aside)
    {op : Operation} (hop : op.Composes (· = schema))
    (hedited : g.Edited op.Adds op.Changes g') :
    g'.Sound schema Name Aside where
  storedId := hedited.storedId ▸ h.storedId
  entries := hedited.entries hop.adds hop.changes h.entries

end Invariant

namespace Segment

variable {schema : Schema} {Name : Option String → Prop} {First Later : Quarantined → Prop}
variable {s s' : Segment}

theorem sound_new
    (hnone : Name none) (id : Uuid) :
    (Segment.new id).Sound schema Name First Later where
  first := Group.sound_empty hnone .and id
  later := fun _ hg => nomatch hg

/-- A step preserves soundness. -/
theorem Step.sound
    (hnone : Name none) (hstep : Step schema s s') (h : s.Sound schema Name First Later) :
    s'.Sound schema Name First Later := by
  obtain ⟨op, hrun, hop⟩ := hstep.exists_operation
  obtain ⟨hfirst, hlater⟩ := (Operation.edited_of_run hrun).groups
    (fun _ _ hedited hg => Group.Sound.edited hg hop hedited)
    (fun _ _ hedited hg => Group.Sound.edited hg hop hedited)
    (fun fresh => Group.sound_empty hnone .or fresh) ⟨h.first, h.later⟩
  exact ⟨hfirst, hlater⟩

/-- Any sequence of steps preserves soundness. -/
theorem sound_of_steps
    (hnone : Name none) (hsteps : Relation.ReflTransGen (Step schema) s s')
    (h : s.Sound schema Name First Later) :
    s'.Sound schema Name First Later := by
  induction hsteps with
  | refl =>
      exact h
  | tail _ hstep ih =>
      exact hstep.sound hnone ih

end Segment

namespace Script

variable {schema : Schema}

theorem composed_of_makeCondition
    {id : Uuid} {field : String} {op : Operator} {value : TypedValue} {c : Condition}
    (h : makeCondition schema id field op value = .ok c) :
    c.Composed (· = schema) := by
  obtain ⟨c₀, hon, h⟩ := bind_eq_ok_iff.mp h
  obtain ⟨c₁, hop, hvalue⟩ := bind_eq_ok_iff.mp h
  have hop' : c₀.change schema (.operator op) = .ok c₁ := hop
  have hvalue' : c₁.change schema (.value value) = .ok c := hvalue
  exact .changed rfl (.changed rfl (.new rfl hon) hop') hvalue'

theorem composed_of_makeRange
    {id : Uuid} {field : String} {low high : TypedValue} {c : Condition}
    (h : makeRange schema id field low high = .ok c) :
    c.Composed (· = schema) := by
  obtain ⟨c₀, hlow, hhigh⟩ := bind_eq_ok_iff.mp h
  have hhigh' : c₀.change schema (.secondValue high) = .ok c := hhigh
  exact .changed rfl (composed_of_makeCondition hlow) hhigh'

/-- A step of a script is made of steps in composing its segment. -/
theorem steps_of_step
    {fresh : Uuid} {a : Step} {s s' : Segment}
    (h : step schema fresh s a = .ok s') :
    Relation.ReflTransGen (Segment.Step schema) s s' := by
  cases a with
  | condition field op value =>
      obtain ⟨c, hc, happend⟩ := bind_eq_ok_iff.mp h
      have hrun : (Edit.append s.last.id c).run schema fresh s = .ok s' := happend
      exact .single (.edit (e := .append s.last.id c) (composed_of_makeCondition hc) hrun)
  | between field low high =>
      obtain ⟨c, hc, happend⟩ := bind_eq_ok_iff.mp h
      have hrun : (Edit.append s.last.id c).run schema fresh s = .ok s' := happend
      exact .single (.edit (e := .append s.last.id c) (composed_of_makeRange hc) hrun)
  | andGroup =>
      have hadd : Edit.addGroup.run schema fresh s = .ok (s.addGroup fresh) := rfl
      have hturn : (Edit.turnGroup (s.addGroup fresh).last.id).run schema fresh
          (s.addGroup fresh) = .ok s' := h
      have hfirst : Segment.Step schema s (s.addGroup fresh) := .edit (e := .addGroup) trivial hadd
      have hsecond : Segment.Step schema (s.addGroup fresh) s' :=
        .edit (e := .turnGroup (s.addGroup fresh).last.id) trivial hturn
      exact (Relation.ReflTransGen.single hfirst).tail hsecond
  | orGroup =>
      have hadd : Edit.addGroup.run schema fresh s = .ok s' := h
      exact .single (.edit (e := .addGroup) trivial hadd)

theorem steps_of_run
    {steps : List Step} {s s' : Segment} {ids : IdSource}
    (h : run schema steps s ids = .ok s') :
    Relation.ReflTransGen (Segment.Step schema) s s' := by
  induction steps generalizing s ids with
  | nil =>
      cases h
      exact .refl
  | cons a rest ih =>
      obtain ⟨s₁, hfirst, hrest⟩ := bind_eq_ok_iff.mp h
      exact (steps_of_step hfirst).trans (ih hrest)

/-- A script makes steps on a new segment. -/
theorem steps_of_build
    {steps : List Step} {ids : IdSource} {s : Segment}
    (h : build schema steps ids = .ok s) :
    Relation.ReflTransGen (Segment.Step schema) (Segment.new ids.next) s :=
  steps_of_run h

end Script

/-- A composed segment is reached by steps from a new one. -/
theorem Segment.Composed.steps
    {schema : Schema} {s : Segment} (h : s.Composed schema) :
    ∃ id, Relation.ReflTransGen (Segment.Step schema) (Segment.new id) s := by
  induction h with
  | new id =>
      exact ⟨id, .refl⟩
  | @script steps ids s hbuild =>
      exact ⟨ids.next, Script.steps_of_build hbuild⟩
  | step _ hstep ih =>
      obtain ⟨id, hsteps⟩ := ih
      exact ⟨id, hsteps.tail hstep⟩

end Audience
