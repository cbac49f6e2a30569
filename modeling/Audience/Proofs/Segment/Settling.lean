import Audience.Segment.Saving
import Audience.Proofs.Condition.Composed
import Audience.Proofs.Value

/-!
# Segments whose dates are settled

Settling a segment settles the dates of its active conditions.  It changes nothing that is
saved, and nothing else of the segment.

**Conditions.**  Fields do not look at dates, so a settled condition is assembled exactly if the
condition is.  One that was loaded is settled already.

**Results.**
* `Condition.stored_settled`: settling a condition does not change its stored form.
* `Condition.assemble_settled`: what is assembled from settled values.
* `Condition.settled_of_activate`: a loaded condition is settled.
* `Segment.settled_eq_self_iff`: what settling leaves alone.
-/

namespace Audience

/-- What was read has no stray leap second. -/
theorem StoredCondition.isStray_of_readTyped
    {fieldId : String} {x : Option Json} {value : Option TypedValue}
    (h : readTyped fieldId x = .ok value) :
    ∀ v ∈ value.toList, v.isStray = false := by
  intro v hv
  obtain rfl := Option.mem_toList.mp hv
  unfold readTyped at h
  split at h
  · cases h
  · cases h
  · split at h
    · next hread =>
        cases h
        exact TypedValue.isStray_of_ofJson? hread
    · cases h

namespace Condition

variable {schema : Schema} {c : Condition}

/-- The values of the condition, in order. -/
def values (c : Condition) : List TypedValue := c.value.toList ++ c.secondValue.toList

/-- The condition with settled values. -/
def settled (c : Condition) : Condition :=
  { c with
    value := c.value.map TypedValue.settled
    secondValue := c.secondValue.map TypedValue.settled }

theorem map_settled_eq_self_iff
    (value : Option TypedValue) :
    value.map TypedValue.settled = value ↔ ∀ v ∈ value.toList, v.isStray = false := by
  cases value with
  | none =>
      simp
  | some v =>
      simp [v.settled_eq_self_iff]

theorem settled_eq_self_iff
    (c : Condition) :
    c.settled = c ↔ ∀ v ∈ c.values, v.isStray = false := by
  rw [values, List.forall_mem_append, ← map_settled_eq_self_iff, ← map_settled_eq_self_iff]
  constructor
  · intro h
    exact ⟨congrArg value h, congrArg secondValue h⟩
  · rintro ⟨hvalue, hsecond⟩
    rw [settled, hvalue, hsecond]

/-- Settling a condition does not change its stored form. -/
@[simp] theorem stored_settled
    (c : Condition) :
    c.settled.stored = c.stored := by
  have hjson : TypedValue.json ∘ TypedValue.settled = TypedValue.json :=
    funext TypedValue.json_settled
  simp only [stored, settled, Option.map_map, hjson]

theorem checkValue_settled
    (f : Field) (value : Option TypedValue) :
    checkValue f (value.map TypedValue.settled) = checkValue f value := by
  cases value with
  | none =>
      rfl
  | some v =>
      exact f.check_settled v

theorem checkSecondValue_settled
    (f : Field) (op : Operator) (value : Option TypedValue) :
    checkSecondValue f op (value.map TypedValue.settled) = checkSecondValue f op value := by
  cases value with
  | none =>
      rfl
  | some v =>
      simp only [Option.map_some, checkSecondValue, f.check_settled v]

/-- From settled values the settled condition is assembled, or nothing for the same cause. -/
theorem assemble_settled
    (schema : Schema) (id : Uuid) (fieldId : String) (op : Operator)
    (value secondValue : Option TypedValue) :
    assemble schema id fieldId op (value.map TypedValue.settled)
        (secondValue.map TypedValue.settled) =
      (assemble schema id fieldId op value secondValue).map settled := by
  simp only [assemble, checkValue_settled, checkSecondValue_settled, map_bind]
  rfl

/-- A loaded condition is settled. -/
theorem settled_of_activate
    {raw : StoredCondition} {id : Uuid} (h : raw.activate schema id = .ok c) :
    c.settled = c := by
  obtain ⟨op, value, secondValue, _, hvalue, hsecond, h⟩ :=
    StoredCondition.activate_eq_ok_iff.mp h
  obtain ⟨f, _, rfl, _⟩ := assemble_eq_ok_iff.mp h
  rw [settled_eq_self_iff, values, List.forall_mem_append]
  exact ⟨StoredCondition.isStray_of_readTyped hvalue, StoredCondition.isStray_of_readTyped hsecond⟩

end Condition

namespace Entry

/-- The entry, settled if it is active. -/
def settled : Entry → Entry
  | active c => active c.settled
  | quarantined q => quarantined q

/-- The values of an active entry. -/
def values : Entry → List TypedValue
  | active c => c.values
  | quarantined _ => []

/-- Settling an entry does not change its stored form. -/
@[simp] theorem stored?_settled
    (e : Entry) :
    e.settled.stored? = e.stored? := by
  cases e with
  | active c =>
      exact congrArg some c.stored_settled
  | quarantined q =>
      rfl

theorem settled_eq_self_iff
    (e : Entry) :
    e.settled = e ↔ ∀ v ∈ e.values, v.isStray = false := by
  cases e with
  | active c =>
      simp only [settled, active.injEq]
      exact c.settled_eq_self_iff
  | quarantined q =>
      simp [settled, values]

end Entry

namespace Group

/-- The group with settled entries. -/
def settled (g : Group) : Group := { g with entries := g.entries.map Entry.settled }

/-- The values of the active entries, in order. -/
def values (g : Group) : List TypedValue := g.entries.flatMap Entry.values

theorem settled_eq_self_iff
    (g : Group) :
    g.settled = g ↔ ∀ v ∈ g.values, v.isStray = false := by
  have hentries : g.settled = g ↔ g.entries.map Entry.settled = g.entries := by
    constructor
    · intro h
      exact congrArg entries h
    · intro h
      rw [settled, h]
  rw [hentries, map_eq_self_iff, values, List.forall_mem_flatMap]
  exact forall₂_congr fun e _ => e.settled_eq_self_iff

end Group

namespace Segment

/-- The segment with settled groups. -/
def settled (s : Segment) : Segment := ⟨s.first.settled, s.later.map Group.settled⟩

/-- The values of the active entries, in order. -/
def values (s : Segment) : List TypedValue := s.groups.flatMap Group.values

theorem settled_eq_self_iff
    (s : Segment) :
    s.settled = s ↔ ∀ v ∈ s.values, v.isStray = false := by
  have hgroups : s.settled = s ↔ s.groups.map Group.settled = s.groups := by
    obtain ⟨first, later⟩ := s
    simp [settled, groups]
  rw [hgroups, map_eq_self_iff, values, List.forall_mem_flatMap]
  exact forall₂_congr fun g _ => g.settled_eq_self_iff

end Segment
end Audience
