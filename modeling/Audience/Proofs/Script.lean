import Audience.Script
import Audience.Proofs.Segment.Composing
import Mathlib.Data.List.Forall2

/-!
# What a script composes

A script fails if one of its steps fails by itself, with the error of the first such step.
Otherwise it composes one group more than it has group steps, and each group holds the
conditions of the steps between two group steps.

**Requests.**  A condition step asks for a field, an operator and one or two values.  The checks
are made in this order, and no other step has any part in them.

**Invariant.**  The last group of the segment so far is the one that was opened last, and its
identifier is not one of those of the groups before it.  So a condition step finds it under its
identifier, and so does a step that turns a group it has just opened.

**Results.**
* `Script.step_of_request`, `Script.step_of_opens`: what one step does at the last group.
* `Script.run_eq_error_iff`: when a script fails, and how.
* `Script.sections_run`: what a script makes of the groups.
* `Script.build_realises`: both together, for a script on a new segment.
-/

namespace Audience

/-- The identifiers that the next draws give. -/
def IdSource.upcoming : Nat → IdSource → List Uuid
  | 0, _ => []
  | n + 1, ids => ids.next :: ids.advance.upcoming n

namespace Script

/-- What a condition step asks for. -/
structure Request where
  field : String
  operator : Operator
  values : List TypedValue

namespace Request

/-- The field of the request, if it offers the operator and accepts the values. -/
def target (schema : Schema) (r : Request) : Except Error Field := do
  let f ← schema.field r.field
  f.checkOperator r.operator
  r.values.forM f.check
  return f

/-- The condition on a field with the operator and the values of the request. -/
def condition (id : Uuid) (r : Request) (f : Field) : Condition where
  id := id
  field := r.field
  kind := f.type.kind
  operator := r.operator
  value := r.values[0]?
  secondValue := r.values[1]?

theorem target_eq_ok
    {schema : Schema} {r : Request} {f : Field} (h : r.target schema = .ok f) :
    schema.field r.field = .ok f := by
  obtain ⟨f', hf, h⟩ := bind_eq_ok_iff.mp h
  obtain ⟨_, _, h⟩ := bind_eq_ok_iff.mp h
  obtain ⟨_, _, h⟩ := bind_eq_ok_iff.mp h
  cases h
  exact hf

end Request

namespace Step

/-- What a step asks for, if it is a condition step. -/
def request? : Step → Option Request
  | condition field op value => some ⟨field, op, [value]⟩
  | between field low high => some ⟨field, .between, [low, high]⟩
  | andGroup => none
  | orGroup => none

/-- How the group is joined that a step opens, if it is a group step. -/
def opens? : Step → Option Combinator
  | condition _ _ _ => none
  | between _ _ _ => none
  | andGroup => some .and
  | orGroup => some .or

/-- A step is a condition step or a group step. -/
theorem request?_or_opens?
    (a : Step) :
    (∃ r, a.request? = some r ∧ a.opens? = none) ∨
      ∃ combinator, a.request? = none ∧ a.opens? = some combinator := by
  cases a with
  | condition => exact .inl ⟨_, rfl, rfl⟩
  | between => exact .inl ⟨_, rfl, rfl⟩
  | andGroup => exact .inr ⟨_, rfl, rfl⟩
  | orGroup => exact .inr ⟨_, rfl, rfl⟩

/-- Tests what a step asks for. -/
def check (schema : Schema) (a : Step) : Except Error Unit :=
  match a.request? with
  | some r => (r.target schema).map fun _ => ()
  | none => .ok ()

theorem check_of_request
    {schema : Schema} {a : Step} {r : Request} (h : a.request? = some r) :
    a.check schema = (r.target schema).map fun _ => () := by
  rw [check, h]

theorem check_of_not_request
    {schema : Schema} {a : Step} (h : a.request? = none) :
    a.check schema = .ok () := by
  rw [check, h]

end Step

section Conditions

variable {schema : Schema} {f : Field} {c : Condition}

theorem setOperator_of_field
    (hf : schema.field c.field = .ok f) (op : Operator) :
    c.setOperator schema op =
      (f.checkOperator op).map fun _ =>
        { c with operator := op, secondValue := if op.takesRange then c.secondValue else none } := by
  rw [Condition.setOperator, hf]
  cases hop : f.checkOperator op <;> simp [bind, Except.bind, Except.map, hop, pure, Except.pure]

theorem setValue_of_field
    (hf : schema.field c.field = .ok f) (v : TypedValue) :
    c.setValue schema v = (f.check v).map fun _ => { c with value := some v } := by
  rw [Condition.setValue, hf]
  cases hv : f.check v <;> simp [bind, Except.bind, Except.map, hv, pure, Except.pure]

theorem setSecondValue_of_field
    (hf : schema.field c.field = .ok f) (hop : c.operator = .between) (v : TypedValue) :
    c.setSecondValue schema v = (f.check v).map fun _ => { c with secondValue := some v } := by
  rw [Condition.setSecondValue, if_pos ((Operator.takesRange_iff c.operator).mpr hop), hf]
  cases hv : f.check v <;> simp [bind, Except.bind, Except.map, hv, pure, Except.pure]

/-- A condition is made by the checks of its request, and its identifier has no part in them. -/
theorem makeCondition_eq
    (id : Uuid) (field : String) (op : Operator) (value : TypedValue) :
    makeCondition schema id field op value =
      (Request.target schema ⟨field, op, [value]⟩).map
        (Request.condition id ⟨field, op, [value]⟩) := by
  cases hf : schema.field field with
  | error e =>
      simp [makeCondition, Request.target, Condition.on, hf, bind, Except.bind, Except.map]
  | ok f =>
      obtain rfl : f.id = field := ((schema.field_eq_ok_iff field f).mp hf).2
      have hop := setOperator_of_field (c := Condition.start id f) hf op
      have hvalue := setValue_of_field (c := { Condition.start id f with operator := op }) hf value
      simp only [makeCondition, Request.target, Condition.on, hf, bind, Except.bind, Except.map]
      rw [hop]
      cases f.checkOperator op with
      | error e =>
          rfl
      | ok _ =>
          -- A new condition has no second value that the operator could keep.
          simp only [Except.map, Condition.start, ite_self] at hvalue ⊢
          rw [hvalue]
          cases hv : f.check value <;>
            simp [List.forM_cons, hv, bind, Except.bind, pure, Except.pure, Request.condition]

theorem target_two
    (field : String) (op : Operator) (low high : TypedValue) :
    Request.target schema ⟨field, op, [low, high]⟩ =
      (Request.target schema ⟨field, op, [low]⟩).bind fun f => (f.check high).map fun _ => f := by
  unfold Request.target
  cases schema.field field with
  | error e =>
      rfl
  | ok f =>
      simp only [bind, Except.bind]
      cases f.checkOperator op with
      | error e =>
          rfl
      | ok _ =>
          cases hlow : f.check low <;> cases hhigh : f.check high <;>
            simp [List.forM_cons, hlow, hhigh, bind, Except.bind, Except.map, pure, Except.pure]

/-- A range is made by the checks of its request, the one of the second value last. -/
theorem makeRange_eq
    (id : Uuid) (field : String) (low high : TypedValue) :
    makeRange schema id field low high =
      (Request.target schema ⟨field, .between, [low, high]⟩).map
        (Request.condition id ⟨field, .between, [low, high]⟩) := by
  rw [makeRange, makeCondition_eq, target_two]
  cases htarget : Request.target schema ⟨field, .between, [low]⟩ with
  | error e =>
      rfl
  | ok f =>
      have hf : schema.field field = .ok f := Request.target_eq_ok htarget
      show (Request.condition id ⟨field, .between, [low]⟩ f).setSecondValue schema high = _
      rw [setSecondValue_of_field hf rfl]
      cases hhigh : f.check high <;> simp [Except.bind, Except.map, hhigh, Request.condition]

end Conditions

section Steps

variable {schema : Schema} {fresh : Uuid} {a : Step}

/-- A condition step appends the condition that it asks for to the last group. -/
theorem step_of_request
    {r : Request} (h : a.request? = some r) (s : Segment) :
    step schema fresh s a =
      (r.target schema).bind fun f => s.append s.last.id (r.condition fresh f) := by
  cases a with
  | condition field op value =>
      cases h
      rw [step, makeCondition_eq]
      cases Request.target schema ⟨field, op, [value]⟩ <;> rfl
  | between field low high =>
      cases h
      rw [step, makeRange_eq]
      cases Request.target schema ⟨field, .between, [low, high]⟩ <;> rfl
  | andGroup =>
      cases h
  | orGroup =>
      cases h

/-- A group step opens a group behind all others.  If its identifier is new, it is joined as
the step says. -/
theorem step_of_opens
    {combinator : Combinator} (h : a.opens? = some combinator) {s : Segment}
    (hfresh : ∀ g ∈ s.groups, g.id ≠ fresh) :
    step schema fresh s a = .ok (Segment.cut s.groups (Group.empty combinator fresh) []) := by
  cases a with
  | condition | between =>
      cases h
  | orGroup =>
      cases h
      rfl
  | andGroup =>
      cases h
      have hturn := Segment.turnGroup_cut (g := Group.empty .or fresh) hfresh s.groups_ne_nil []
      rw [step, Segment.addGroup_eq_cut, Segment.last_cut]
      exact hturn

/-- A step fails exactly if one of its checks does, whatever the segment so far. -/
theorem step_eq_error_iff
    {s : Segment} {e : Error} :
    step schema fresh s a = .error e ↔ a.check schema = .error e := by
  rcases a.request?_or_opens? with ⟨r, hr, _⟩ | ⟨combinator, hnone, _⟩
  · rw [step_of_request hr, Step.check_of_request hr]
    cases r.target schema with
    | error e' =>
        simp [Except.bind, Except.map]
    | ok f =>
        obtain ⟨s', hs'⟩ := s.exists_append_last (r.condition fresh f)
        simp [Except.bind, Except.map, hs']
  · rw [Step.check_of_not_request hnone]
    cases a with
    | condition | between =>
        cases hnone
    | orGroup =>
        simp [step]
    | andGroup =>
        obtain ⟨s', hs'⟩ := (s.addGroup fresh).exists_turnGroup_last
        simp [step, hs']

end Steps

section Failures

variable {schema : Schema}

theorem check_of_step
    {fresh : Uuid} {a : Step} {s s' : Segment} (h : step schema fresh s a = .ok s') :
    a.check schema = .ok () := by
  cases hcheck : a.check schema with
  | error e =>
      rw [step_eq_error_iff.mpr hcheck] at h
      cases h
  | ok _ =>
      rfl

theorem exists_step
    {a : Step} (h : a.check schema = .ok ()) (fresh : Uuid) (s : Segment) :
    ∃ s', step schema fresh s a = .ok s' := by
  cases hstep : step schema fresh s a with
  | error e =>
      rw [step_eq_error_iff.mp hstep] at h
      cases h
  | ok s' =>
      exact ⟨s', rfl⟩

/-- A script that succeeds has no step that fails. -/
theorem check_of_run
    {steps : List Step} {s s' : Segment} {ids : IdSource}
    (h : run schema steps s ids = .ok s') :
    ∀ a ∈ steps, a.check schema = .ok () := by
  induction steps generalizing s ids with
  | nil =>
      simp
  | cons first rest ih =>
      obtain ⟨s₁, hfirst, hrest⟩ := bind_eq_ok_iff.mp h
      exact List.forall_mem_cons.mpr ⟨check_of_step hfirst, ih hrest⟩

/-- A script fails with the error of its first step that fails. -/
theorem run_eq_error_iff
    {steps : List Step} {s : Segment} {ids : IdSource} {e : Error} :
    run schema steps s ids = .error e ↔
      ∃ before a after, steps = before ++ a :: after ∧
        (∀ b ∈ before, b.check schema = .ok ()) ∧ a.check schema = .error e := by
  induction steps generalizing s ids with
  | nil =>
      simp
  | cons first rest ih =>
      rw [run_cons]
      constructor
      · intro h
        rcases bind_eq_error_iff.mp h with hfirst | ⟨s', hfirst, hrest⟩
        · exact ⟨[], first, rest, rfl, by simp, step_eq_error_iff.mp hfirst⟩
        · obtain ⟨before, a, after, rfl, hbefore, ha⟩ := ih.mp hrest
          exact ⟨first :: before, a, after, rfl,
            List.forall_mem_cons.mpr ⟨check_of_step hfirst, hbefore⟩, ha⟩
      · rintro ⟨before, a, after, hsteps, hbefore, ha⟩
        rcases List.cons_eq_append_iff.mp hsteps with ⟨rfl, hcons⟩ | ⟨before', rfl, hrest⟩
        · cases hcons
          exact bind_eq_error_iff.mpr (.inl (step_eq_error_iff.mpr ha))
        · obtain ⟨hfirst, hbefore'⟩ := List.forall_mem_cons.mp hbefore
          obtain ⟨s', hs'⟩ := exists_step hfirst ids.next s
          exact bind_eq_error_iff.mpr (.inr ⟨s', hs', ih.mpr ⟨before', a, after, hrest, hbefore', ha⟩⟩)

/-- The step fails for this cause when it is all of a script. -/
def Step.Fails (schema : Schema) (e : Error) (a : Step) : Prop :=
  ∀ ids, build schema [a] ids = .error e

/-- The step succeeds when it is all of a script. -/
def Step.Works (schema : Schema) (a : Step) : Prop :=
  ∀ ids, ∃ s, build schema [a] ids = .ok s

theorem build_singleton
    (a : Step) (ids : IdSource) :
    build schema [a] ids = step schema ids.advance.next (Segment.new ids.next) a := by
  rw [build, run_cons]
  cases step schema ids.advance.next (Segment.new ids.next) a <;> rfl

theorem Step.fails_iff
    {a : Step} {e : Error} :
    a.Fails schema e ↔ a.check schema = .error e := by
  simp only [Fails, build_singleton, step_eq_error_iff]
  exact ⟨fun h => h (IdSource.seeded 0), fun h _ => h⟩

theorem Step.works_iff
    {a : Step} :
    a.Works schema ↔ a.check schema = .ok () := by
  simp only [Works, build_singleton]
  constructor
  · intro h
    obtain ⟨s, hs⟩ := h (IdSource.seeded 0)
    exact check_of_step hs
  · intro h ids
    exact exists_step h _ _

/-- Only condition steps fail. -/
theorem Step.opens?_of_check_error
    {a : Step} {e : Error} (h : a.check schema = .error e) :
    a.opens? = none := by
  rcases a.request?_or_opens? with ⟨_, _, hopens⟩ | ⟨_, hnone, _⟩
  · exact hopens
  · rw [check_of_not_request hnone] at h
    cases h

end Failures

section Sections

variable {schema : Schema}

/-- The entry is an active condition on the field of the step, with the operator and the values
that the step asks for. -/
def Step.Made (schema : Schema) (a : Step) (e : Entry) : Prop :=
  ∃ r f id, a.request? = some r ∧ schema.field r.field = .ok f ∧
    e = .active (r.condition id f)

/-- The steps between one group step and the next. -/
def sections (steps : List Step) : List (List Step) :=
  steps.splitOnP fun a => a.opens?.isSome

@[simp] theorem sections_nil : sections [] = [[]] := rfl

theorem sections_cons_of_opens
    {a : Step} {combinator : Combinator} (h : a.opens? = some combinator) (rest : List Step) :
    sections (a :: rest) = [] :: sections rest := by
  simp [sections, List.splitOnP_cons_eq_if_modifyHead, h]

theorem sections_cons_of_not_opens
    {a : Step} (h : a.opens? = none) (rest : List Step) :
    sections (a :: rest) = (sections rest).modifyHead (a :: ·) := by
  simp [sections, List.splitOnP_cons_eq_if_modifyHead, h]

/-- The segment has the groups of the steps, each with the conditions of its section. -/
structure Realises (schema : Schema) (steps : List Step) (s : Segment) : Prop where
  size : s.groups.length = (steps.filterMap Step.opens?).length + 1
  combinators : s.later.map Group.combinator = steps.filterMap Step.opens?
  conditions : List.Forall₂ (List.Forall₂ (Step.Made schema)) (sections steps)
    (s.groups.map Group.entries)

/-- What steps make of a segment that ends with a group: they append entries to this group, and
open further ones. -/
theorem sections_run
    {steps : List Step} {before : List Group} {g : Group} {ids : IdSource} {s' : Segment}
    (hids : ((before ++ [g]).map Group.id ++ ids.upcoming steps.length).Nodup)
    (h : run schema steps (Segment.cut before g []) ids = .ok s') :
    ∃ made later,
      s'.groups = before ++ { g with entries := g.entries ++ made } :: later ∧
      later.map Group.combinator = steps.filterMap Step.opens? ∧
      List.Forall₂ (List.Forall₂ (Step.Made schema)) (sections steps)
        (made :: later.map Group.entries) := by
  induction steps generalizing before g ids with
  | nil =>
      cases h
      refine ⟨[], [], ?_, rfl, .cons .nil .nil⟩
      rw [Segment.groups_cut, List.append_nil]
  | cons a rest ih =>
      obtain ⟨s₁, hstep, hrest⟩ := bind_eq_ok_iff.mp h
      rw [List.length_cons, IdSource.upcoming] at hids
      obtain ⟨hnodup, hnew, hdisjoint⟩ := List.nodup_append.mp hids
      rcases a.request?_or_opens? with ⟨r, hr, hopens⟩ | ⟨combinator, hnone, hopens⟩
      · -- The last group is found under its identifier, and gets one more entry.
        have hbefore : ∀ b ∈ before, b.id ≠ g.id := by
          rw [List.map_append, List.nodup_append] at hnodup
          exact fun b hb => hnodup.2.2 b.id (List.mem_map_of_mem hb) g.id (by simp)
        rw [step_of_request hr, Segment.last_cut] at hstep
        obtain ⟨f, htarget, happend⟩ := bind_eq_ok_iff.mp hstep
        rw [Segment.append_cut hbefore] at happend
        cases happend
        have hids' : ((before ++ [g.append (r.condition ids.next f)]).map Group.id ++
            ids.advance.upcoming rest.length).Nodup := by
          have hsame : (before ++ [g.append (r.condition ids.next f)]).map Group.id =
              (before ++ [g]).map Group.id := by
            simp [Group.append]
          rw [hsame]
          exact hids.sublist ((List.sublist_cons_self _ _).append_left _)
        obtain ⟨made, later, hgroups, hcombinators, hsections⟩ := ih hids' hrest
        have hmade : a.Made schema (.active (r.condition ids.next f)) :=
          ⟨r, f, ids.next, hr, Request.target_eq_ok htarget, rfl⟩
        refine ⟨.active (r.condition ids.next f) :: made, later, ?_, ?_, ?_⟩
        · rw [hgroups]
          simp [Group.append]
        · rw [hcombinators, List.filterMap_cons_none hopens]
        · obtain ⟨part, parts, hfirst, hmore, hparts⟩ := List.forall₂_cons_right_iff.mp hsections
          rw [sections_cons_of_not_opens hopens, hparts]
          exact .cons (.cons hmade hfirst) hmore
      · -- The group that is opened becomes the last one.
        have hfresh : ∀ b ∈ before ++ [g], b.id ≠ ids.next := fun b hb =>
          hdisjoint b.id (List.mem_map_of_mem hb) ids.next List.mem_cons_self
        rw [step_of_opens hopens (by simpa using hfresh), Segment.groups_cut] at hstep
        cases hstep
        have hids' : ((before ++ [g] ++ [Group.empty combinator ids.next]).map Group.id ++
            ids.advance.upcoming rest.length).Nodup := by
          rw [List.map_append, List.append_assoc]
          exact hids
        obtain ⟨made, later, hgroups, hcombinators, hsections⟩ := ih hids' hrest
        refine ⟨[], { Group.empty combinator ids.next with entries := made } :: later, ?_, ?_, ?_⟩
        · rw [hgroups]
          simp [Group.empty]
        · rw [List.filterMap_cons_some hopens, ← hcombinators]
          rfl
        · rw [sections_cons_of_opens hopens]
          exact .cons .nil hsections

/-- A script that succeeds on a new segment realises its steps. -/
theorem realises_of_build
    {steps : List Step} {ids : IdSource} {s : Segment}
    (hids : (ids.upcoming (steps.length + 1)).Nodup) (h : build schema steps ids = .ok s) :
    Realises schema steps s := by
  have hdistinct : (([] ++ [Group.empty .and ids.next]).map Group.id ++
      ids.advance.upcoming steps.length).Nodup := hids
  obtain ⟨made, later, hgroups, hcombinators, hsections⟩ := sections_run hdistinct h
  obtain ⟨first, later'⟩ := s
  cases hgroups
  exact ⟨by simp [Segment.groups, ← hcombinators], hcombinators, hsections⟩

end Sections

/-- A script fails if some condition step fails by itself, with the error that the first such step
gives by itself.  Otherwise, if the identifiers that it draws are all different, it realises its
steps. -/
theorem build_realises
    (schema : Schema) (steps : List Step) (ids : IdSource) :
    ((∃ e, build schema steps ids = .error e) ↔
      ∃ a ∈ steps, a.opens? = none ∧ ∃ e, a.Fails schema e) ∧
    (∀ e, build schema steps ids = .error e ↔
      ∃ before a after, steps = before ++ a :: after ∧ (∀ b ∈ before, b.Works schema) ∧
        a.Fails schema e) ∧
    ((ids.upcoming (steps.length + 1)).Nodup →
      (∀ a ∈ steps, a.Works schema) →
        ∃ s, build schema steps ids = .ok s ∧ Realises schema steps s) := by
  simp only [Step.fails_iff, Step.works_iff]
  refine ⟨?_, fun e => run_eq_error_iff, ?_⟩
  · constructor
    · rintro ⟨e, h⟩
      obtain ⟨before, a, after, rfl, _, ha⟩ := run_eq_error_iff.mp h
      exact ⟨a, by simp, Step.opens?_of_check_error ha, e, ha⟩
    · rintro ⟨a, hmem, _, e, ha⟩
      cases hbuild : build schema steps ids with
      | error e' =>
          exact ⟨e', rfl⟩
      | ok s =>
          cases (check_of_run hbuild a hmem).symm.trans ha
  · intro hids hworks
    cases hbuild : build schema steps ids with
    | error e =>
        obtain ⟨before, a, after, rfl, _, ha⟩ := run_eq_error_iff.mp hbuild
        cases (hworks a (by simp)).symm.trans ha
    | ok s =>
        exact ⟨s, rfl, realises_of_build hids hbuild⟩

/-- Two conditions, a range in a group joined by "and", and an option in one joined by "or". -/
def threeSections : List Step := [
  .contains "email" "@gmail.", .equals "isSubscribed" (.boolean true), .andGroup,
  .between "orderCount" (.number (.zero false)) (.number ⟨false, 1023 * 2 ^ 52, by decide⟩),
  .orGroup, .equals "tier" (.text "gold")]

theorem build_realises_threeSections :
    ((IdSource.seeded 0).upcoming 7).Nodup ∧
      (∀ a ∈ threeSections, a.Works Schema.standard) ∧
      ∃ s, build Schema.standard threeSections (IdSource.seeded 0) = .ok s ∧
        Realises Schema.standard threeSections s := by
  have hids : ((IdSource.seeded 0).upcoming 7).Nodup := by decide +kernel
  have hworks : ∀ a ∈ threeSections, a.Works Schema.standard := by
    simp only [Step.works_iff]
    decide +kernel
  exact ⟨hids, hworks,
    (build_realises Schema.standard threeSections (IdSource.seeded 0)).2.2 hids hworks⟩

end Script
end Audience
