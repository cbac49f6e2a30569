import Audience.Customer.Coercion
import Audience.Proofs.Evaluation.WellTyped
import Mathlib.Data.List.Nodup

/-!
# What coercion makes of plain attributes

Coercion looks at each member of an object by itself.  The member is skipped, or a value of the kind
of its field is stored at its key, or its key is rejected; never two of these.

**Numbers.**  A stored number is finite, wherever it came from.  The integers of a document are far
below the largest double, its other numbers are finite, and texts are tested.

**Comparisons.**  So the customer is well typed, and conditions that are well formed under the
schema compare its attributes content with content.

**Results.**
* `Coercion.finite_of_value?`: what can be coerced from a kept value is finite.
* `Coercion.get?_addAll_of_mem`, `Coercion.rejected_addAll`: what becomes of each member.
* `Customer.ofPlain_classifies`: the classes, and what they mean for conditions.
-/

namespace Audience

/-- Exactly one of three statements holds. -/
def ExactlyOne (p q r : Prop) : Prop :=
  p ∧ ¬ q ∧ ¬ r ∨ ¬ p ∧ q ∧ ¬ r ∨ ¬ p ∧ ¬ q ∧ r

namespace Coercion

variable {schema : Schema} {key : String} {x : Json} {f : Field} {v : TypedValue}

section Numbers

/-- The integers of documents have finite doubles. -/
theorem isFinite_numberOfInt
    {i : Int} (hlow : -(2 ^ 63) ≤ i) (hhigh : i < 2 ^ 64) :
    (TypedValue.numberOfInt i).isFinite = true := by
  have hbound : i.natAbs < 2 ^ 64 := by omega
  exact Decimal.isFinite_toBinary64 _ hbound (by decide)

theorem isFinite_of_number?
    {levels : Nat} {y : Binary64} (hkept : x.Kept levels) (h : number? x = some y) :
    y.isFinite = true := by
  cases x with
  | integer i =>
      cases h
      exact isFinite_numberOfInt hkept.1 hkept.2
  | real x =>
      cases h
      exact hkept
  | text s =>
      exact (Option.filter_eq_some_iff.mp h).2
  | null | boolean | array | object =>
      cases h

/-- What can be coerced from a kept value is finite. -/
theorem finite_of_value?
    {levels : Nat} (hkept : x.Kept levels) (h : value? f x = some v) :
    v.Finite := by
  unfold value? at h
  cases hkind : f.type.valueKind with
  | number =>
      rw [hkind] at h
      obtain ⟨y, hy, rfl⟩ := Option.map_eq_some_iff.mp h
      exact isFinite_of_number? hkept hy
  | text | boolean | date =>
      rw [hkind] at h
      obtain ⟨_, _, rfl⟩ := Option.map_eq_some_iff.mp h
      trivial

end Numbers

section Outcomes

namespace Outcome

/-- When a plain value at a key has an outcome. -/
def Means (schema : Schema) (key : String) (x : Json) : Outcome → Prop
  | skipped => x = .null ∨ schema.field? key = none
  | stored v => x ≠ .null ∧ ∃ f, schema.field? key = some f ∧ Coercion.value? f x = some v
  | rejected => x ≠ .null ∧ ∃ f, schema.field? key = some f ∧ Coercion.value? f x = none

/-- The value that is stored. -/
def value? : Outcome → Option TypedValue
  | stored v => some v
  | _ => none

theorem value?_eq_some_iff (outcome : Outcome) (v : TypedValue) :
    outcome.value? = some v ↔ outcome = .stored v := by
  cases outcome <;> simp [value?]

/-- The customer after an outcome at a key. -/
def putAt (key : String) (c : Customer) : Outcome → Customer
  | stored v => c.set key v
  | _ => c

@[simp] theorem putAt_id (key : String) (c : Customer) (outcome : Outcome) :
    (outcome.putAt key c).id = c.id := by
  cases outcome <;> rfl

theorem get?_putAt_self (key : String) (c : Customer) (outcome : Outcome) :
    (outcome.putAt key c).get? key = outcome.value?.or (c.get? key) := by
  cases outcome with
  | stored v => exact c.get?_set_self key v
  | skipped | rejected => rfl

theorem get?_putAt_of_ne
    {key other : String} (h : other ≠ key) (c : Customer) (outcome : Outcome) :
    (outcome.putAt key c).get? other = c.get? other := by
  cases outcome with
  | stored v => exact c.get?_set_of_ne h v
  | skipped | rejected => rfl

end Outcome

theorem classify_eq_iff
    (outcome : Outcome) :
    classify schema key x = outcome ↔ outcome.Means schema key x := by
  unfold classify
  by_cases hnull : x = .null
  · cases outcome <;> simp [Outcome.Means, hnull]
  · cases hfield : schema.field? key with
    | none =>
        cases outcome <;> simp [Outcome.Means, hnull, hfield]
    | some f =>
        cases hvalue : value? f x <;> cases outcome <;>
          simp [Outcome.Means, hnull, hfield, hvalue]

end Outcomes

section Members

variable {c : Customer} {members : List (String × Json)}

theorem addAll_cons
    (schema : Schema) (c : Customer) (key : String) (x : Json) (rest : List (String × Json)) :
    (addAll schema c ((key, x) :: rest)).1 =
      (addAll schema ((classify schema key x).putAt key c) rest).1 := by
  cases hout : classify schema key x <;> simp [addAll, hout, Outcome.putAt]

theorem id_addAll
    (schema : Schema) (c : Customer) (members : List (String × Json)) :
    (addAll schema c members).1.id = c.id := by
  induction members generalizing c with
  | nil =>
      rfl
  | cons m rest ih =>
      rw [addAll_cons, ih, Outcome.putAt_id]

/-- A key that no member has keeps its attribute. -/
theorem get?_addAll_of_notMem
    (h : key ∉ members.map Prod.fst) :
    (addAll schema c members).1.get? key = c.get? key := by
  induction members generalizing c with
  | nil =>
      rfl
  | cons m rest ih =>
      rw [List.map_cons, List.mem_cons, not_or] at h
      rw [addAll_cons, ih h.2, Outcome.get?_putAt_of_ne h.1]

/-- At a key that one member has, the customer has what is stored for this member. -/
theorem get?_addAll_of_mem
    (hdistinct : (members.map Prod.fst).Nodup) (hmem : (key, x) ∈ members) :
    (addAll schema c members).1.get? key =
      (classify schema key x).value?.or (c.get? key) := by
  induction members generalizing c with
  | nil =>
      cases hmem
  | cons m rest ih =>
      rw [List.map_cons, List.nodup_cons] at hdistinct
      rw [addAll_cons]
      rcases List.mem_cons.mp hmem with rfl | hrest
      · rw [get?_addAll_of_notMem hdistinct.1, Outcome.get?_putAt_self]
      · have hne : key ≠ m.1 := by
          intro heq
          exact hdistinct.1 (List.mem_map.mpr ⟨(key, x), hrest, heq⟩)
        rw [ih hdistinct.2 hrest, Outcome.get?_putAt_of_ne hne]

/-- The rejected keys are those of the members that are rejected by themselves. -/
theorem rejected_addAll
    (schema : Schema) (c : Customer) (members : List (String × Json)) :
    (addAll schema c members).2 =
      (members.filter fun m => classify schema m.1 m.2 = .rejected).map Prod.fst := by
  induction members generalizing c with
  | nil =>
      rfl
  | cons m rest ih =>
      obtain ⟨k, y⟩ := m
      cases hout : classify schema k y <;> simp [addAll, hout, ih]

end Members

end Coercion

namespace Customer

open Coercion

variable {schema : Schema} {members : List (String × Json)} {key : String}

theorem customer_ofPlain
    (schema : Schema) (id : String) (members : List (String × Json)) :
    (ofPlain schema id members).1 = (addAll schema (bare id) members).1 :=
  rfl

theorem rejected_ofPlain
    (schema : Schema) (id : String) (members : List (String × Json)) :
    (ofPlain schema id members).2 = (addAll schema (bare id) members).2.mergeSort :=
  rfl

/-- At a key of a member, the customer has what is stored for this member. -/
theorem get?_ofPlain_of_mem
    {x : Json} (id : String) (hdistinct : (members.map Prod.fst).Nodup)
    (hmem : (key, x) ∈ members) :
    (ofPlain schema id members).1.get? key = (classify schema key x).value? := by
  rw [customer_ofPlain, get?_addAll_of_mem hdistinct hmem, get?_bare, Option.or_none]

/-- The attributes are the stored members. -/
theorem get?_ofPlain_eq_some_iff
    (id : String) (hdistinct : (members.map Prod.fst).Nodup) (v : TypedValue) :
    (ofPlain schema id members).1.get? key = some v ↔
      ∃ x, (key, x) ∈ members ∧ classify schema key x = .stored v := by
  constructor
  · intro hget
    by_cases hkey : key ∈ members.map Prod.fst
    · obtain ⟨⟨_, x⟩, hmem, rfl⟩ := List.mem_map.mp hkey
      rw [get?_ofPlain_of_mem id hdistinct hmem, Outcome.value?_eq_some_iff] at hget
      exact ⟨x, hmem, hget⟩
    · rw [customer_ofPlain, get?_addAll_of_notMem hkey] at hget
      cases hget
  · rintro ⟨x, hmem, hout⟩
    rw [get?_ofPlain_of_mem id hdistinct hmem, Outcome.value?_eq_some_iff]
    exact hout

/-- The rejected keys are those of the rejected members. -/
theorem mem_rejected_ofPlain_iff
    (id : String) :
    key ∈ (ofPlain schema id members).2 ↔
      ∃ x, (key, x) ∈ members ∧ classify schema key x = .rejected := by
  rw [rejected_ofPlain, List.mem_mergeSort, rejected_addAll]
  simp

/-- Distinct keys increase when they are sorted. -/
theorem ascending_rejected_ofPlain
    (id : String) (hdistinct : (members.map Prod.fst).Nodup) :
    (ofPlain schema id members).2.Pairwise (· < ·) := by
  rw [rejected_ofPlain]
  have hnodup : (addAll schema (bare id) members).2.mergeSort.Nodup := by
    rw [(List.mergeSort_perm _ _).nodup_iff, rejected_addAll]
    exact hdistinct.sublist (List.filter_sublist.map _)
  have hsorted : (addAll schema (bare id) members).2.mergeSort.Pairwise (· ≤ ·) := by
    refine (List.pairwise_mergeSort ?_ ?_ _).imp of_decide_eq_true
    · intro i j k hij hjk
      exact decide_eq_true (String.le_trans (of_decide_eq_true hij) (of_decide_eq_true hjk))
    · intro i j
      rw [Bool.or_eq_true, decide_eq_true_iff, decide_eq_true_iff]
      exact String.le_total i j
  refine (hsorted.and hnodup).imp ?_
  rintro j k ⟨hle, hne⟩
  exact Std.lt_of_le_of_ne hle hne

/-- A customer and a list of keys are the classes of the members of an object: what is stored and
what is rejected. -/
structure Classifies (schema : Schema) (members : List (String × Json)) (customer : Customer)
    (keys : List String) : Prop where
  /-- Each member is in exactly one class. -/
  exactlyOne : ∀ key x, (key, x) ∈ members →
    ExactlyOne (x = .null ∨ schema.field? key = none) ((customer.get? key).isSome = true)
      (key ∈ keys)
  /-- The attributes are the members that can be coerced, as values of their fields. -/
  stored : ∀ key v, customer.get? key = some v ↔
    ∃ x, (key, x) ∈ members ∧ x ≠ .null ∧
      ∃ f, schema.field? key = some f ∧ Coercion.value? f x = some v
  /-- The keys are those of the members that have a field and cannot be coerced. -/
  rejected : ∀ key, key ∈ keys ↔
    ∃ x, (key, x) ∈ members ∧ x ≠ .null ∧
      ∃ f, schema.field? key = some f ∧ Coercion.value? f x = none
  /-- The keys increase from one to the next. -/
  ascending : keys.Pairwise (· < ·)

/-- A member is in the class of its own outcome only, since no other member has its key. -/
theorem exactlyOne_ofPlain
    {x : Json} (id : String) (hdistinct : (members.map Prod.fst).Nodup)
    (hmem : (key, x) ∈ members) :
    ExactlyOne (x = .null ∨ schema.field? key = none)
      (((ofPlain schema id members).1.get? key).isSome = true)
      (key ∈ (ofPlain schema id members).2) := by
  have hskipped : (x = .null ∨ schema.field? key = none) ↔
      classify schema key x = .skipped := (classify_eq_iff .skipped).symm
  have hrejected : key ∈ (ofPlain schema id members).2 ↔
      classify schema key x = .rejected := by
    rw [mem_rejected_ofPlain_iff]
    constructor
    · rintro ⟨y, hy, hout⟩
      cases List.inj_on_of_nodup_map hdistinct hmem hy rfl
      exact hout
    · intro hout
      exact ⟨x, hmem, hout⟩
  rw [get?_ofPlain_of_mem id hdistinct hmem, hskipped, hrejected]
  cases hout : classify schema key x <;> simp [ExactlyOne, Outcome.value?]

theorem classifies_ofPlain
    (id : String) (hdistinct : (members.map Prod.fst).Nodup) :
    Classifies schema members (ofPlain schema id members).1 (ofPlain schema id members).2 where
  exactlyOne := fun _ _ hmem => exactlyOne_ofPlain id hdistinct hmem
  stored := by
    intro key v
    simp only [get?_ofPlain_eq_some_iff id hdistinct, classify_eq_iff, Outcome.Means]
  rejected := by
    intro key
    simp only [mem_rejected_ofPlain_iff, classify_eq_iff, Outcome.Means]
  ascending := ascending_rejected_ofPlain id hdistinct

theorem wellTyped_ofPlain
    {levels : Nat} (id : String) (hdistinct : (members.map Prod.fst).Nodup)
    (hkept : Json.KeptMembers levels members) :
    (ofPlain schema id members).1.WellTyped schema := by
  intro key v hget
  obtain ⟨x, hmem, hout⟩ := (get?_ofPlain_eq_some_iff id hdistinct v).mp hget
  obtain ⟨_, f, hfield, hvalue⟩ := (classify_eq_iff _).mp hout
  have hx := (Json.keptMembers_iff levels members).mp hkept _ hmem
  exact ⟨f, hfield, kind_of_value? hvalue, finite_of_value? hx hvalue⟩

/-- Coercion puts each member of an object into one class and reports the rejected keys in order.
The customer is well typed, so conditions that are well formed and complete compare its attributes
content with content. -/
theorem ofPlain_classifies
    {levels : Nat} (schema : Schema) (id : String) (h : (Json.object members).Kept levels) :
    let made := ofPlain schema id members
    made.1.id = id ∧ Classifies schema members made.1 made.2 ∧ made.1.WellTyped schema ∧
      ∀ c : Condition, c.WellFormed schema → c.isComplete = true →
        (made.1.get? c.field).isSome = true → c.ComparesContents made.1 := by
  intro made
  obtain ⟨_, hordered, hmembers⟩ := h
  have hdistinct : (members.map Prod.fst).Nodup := Keyed.nodup_of_ordered hordered
  have htyped : made.1.WellTyped schema := wellTyped_ofPlain id hdistinct hmembers
  refine ⟨id_addAll schema (bare id) members, classifies_ofPlain id hdistinct, htyped, ?_⟩
  intro c hc hcomplete hget
  exact Condition.comparesContents_of_wellTyped htyped hc hcomplete hget

/-- Texts of numbers that are too large or infinite, a word for a Boolean, a time with an offset, the
largest integer of a document, a month that does not exist, `null`, and a key without a field. -/
def mixedMembers : List (String × Json) := [
  ("age", .text "1e400"),
  ("email", .null),
  ("favouriteColour", .text "green"),
  ("isSubscribed", .text "TRUE"),
  ("lastPurchaseDate", .text "2024-02-10T08:30:00+02:00"),
  ("orderCount", .integer (2 ^ 64 - 1)),
  ("signupDate", .text "2023-13-01"),
  ("totalSpent", .text " -inf ")]

/-- The order count is between the negative zero and 2^1000. -/
def ordersFromZero : Condition where
  id := default
  field := "orderCount"
  kind := .number
  operator := .between
  value := some (.number (.zero true))
  secondValue := some (.number (.ofMagnitude false (2023 * 2 ^ 52)))

/-- Three of the members are rejected, and the largest integer is compared as a number. -/
theorem ofPlain_classifies_mixedMembers :
    let made := ofPlain .standard "c-1" mixedMembers
    (Json.object mixedMembers).Kept 1 ∧ ordersFromZero.WellFormed .standard ∧
      ordersFromZero.isComplete = true ∧ (made.1.get? "orderCount").isSome = true ∧
      made.2 = ["age", "signupDate", "totalSpent"] ∧ ordersFromZero.ComparesContents made.1 := by
  intro made
  have hkept : (Json.object mixedMembers).Kept 1 := by
    refine ⟨by decide, ?_, ?_⟩
    · show List.Pairwise (· < ·) _
      decide
    · simp [mixedMembers, Json.KeptMembers, Json.Kept]
  have hwell : ordersFromZero.WellFormed .standard := by
    rw [Condition.wellFormed_iff_assemble]
    rfl
  have hstored : (made.1.get? "orderCount").isSome = true := by
    decide +kernel
  have hkeys : (addAll .standard (bare "c-1") mixedMembers).2 =
      ["age", "signupDate", "totalSpent"] := by
    decide +kernel
  have hrejected := calc
    made.2 = (addAll .standard (bare "c-1") mixedMembers).2.mergeSort := rejected_ofPlain _ _ _
    _ = ["age", "signupDate", "totalSpent"].mergeSort := by rw [hkeys]
    _ = ["age", "signupDate", "totalSpent"] := List.mergeSort_of_pairwise (by decide)
  obtain ⟨_, _, _, hcompares⟩ := ofPlain_classifies .standard "c-1" hkept
  exact ⟨hkept, hwell, rfl, hstored, hrejected, hcompares ordersFromZero hwell rfl hstored⟩

end Customer
end Audience
