import Audience.Field
import Audience.Proofs.Json.Values
import Audience.Proofs.Time.Timestamps

/-!
# Typed values that read back

A typed value is read back from its outside form, bit for bit if it is a number, provided
that the number is finite: infinities and not-a-number are written as `null`.

**Dates** are read back settled: a stray leap second comes back as the second after it.  Settling
a date changes neither its kind nor its outside form, and fields do not look at it.

**Results.**
* `exists_eq_text` and its like: a value of a kind has contents of that kind.
* `settled_eq_self_iff`: what settling leaves alone.
* `ofJson?_json`: a finite value is read back, settled.
* `isStray_of_ofJson?`: a value that was read has no stray leap second.
* `kept_json`: the outside form of a value is kept as it is in a document.
-/

namespace Audience

/-- A function leaves a list as it is if it leaves each of its items. -/
theorem map_eq_self_iff
    {α : Type} {f : α → α} {items : List α} :
    items.map f = items ↔ ∀ a ∈ items, f a = a := by
  have hcongr := List.map_inj_left (f := f) (g := id) (l := items)
  rwa [List.map_id] at hcongr

namespace TypedValue

section Kinds

variable {v : TypedValue}

theorem exists_eq_text (h : v.kind = .text) : ∃ s, v = .text s := by
  cases v with
  | text s => exact ⟨s, rfl⟩
  | number | boolean | date => cases h

theorem exists_eq_number (h : v.kind = .number) : ∃ x, v = .number x := by
  cases v with
  | number x => exact ⟨x, rfl⟩
  | text | boolean | date => cases h

theorem exists_eq_boolean (h : v.kind = .boolean) : ∃ b, v = .boolean b := by
  cases v with
  | boolean b => exact ⟨b, rfl⟩
  | text | number | date => cases h

theorem exists_eq_date (h : v.kind = .date) : ∃ t, v = .date t := by
  cases v with
  | date t => exact ⟨t, rfl⟩
  | text | number | boolean => cases h

end Kinds

/-- The value is not an infinite number or not-a-number. -/
def Finite : TypedValue → Prop
  | number x => x.isFinite = true
  | _ => True

section Settling

variable {v : TypedValue}

/-- A date with a stray leap second. -/
def isStray : TypedValue → Bool
  | date t => t.isStray
  | _ => false

/-- The value, settled if it is a date. -/
def settled : TypedValue → TypedValue
  | date t => date t.settled
  | v => v

theorem settled_eq_self_iff
    (v : TypedValue) :
    v.settled = v ↔ v.isStray = false := by
  cases v with
  | date t =>
      simp only [settled, isStray, date.injEq]
      exact t.settled_eq_self_iff
  | text | number | boolean =>
      simp [settled, isStray]

@[simp] theorem kind_settled
    (v : TypedValue) :
    v.settled.kind = v.kind := by
  cases v <;> rfl

/-- Settling a value does not change its contents. -/
@[simp] theorem contents_settled
    (v : TypedValue) :
    v.settled.contents = v.contents := by
  cases v with
  | date t =>
      simp only [settled, contents, Timestamp.toString, Timestamp.text_settled]
  | text | number | boolean =>
      rfl

/-- Settling a value does not change its outside form. -/
@[simp] theorem json_settled
    (v : TypedValue) :
    v.settled.json = v.json := by
  simp only [json, kind_settled, contents_settled]

theorem isStray_of_ofContents?
    {k : ValueKind} {contents : Json} (h : ofContents? k contents = some v) :
    v.isStray = false := by
  unfold ofContents? at h
  split at h
  · cases h
    rfl
  · cases h
    rfl
  · cases h
    rfl
  · cases h
    rfl
  · obtain ⟨t, ht, rfl⟩ := Option.map_eq_some_iff.mp h
    exact Timestamp.isStray_of_readRelaxed ht
  · cases h

theorem isStray_of_ofTagged?
    {name : Option String} {contents : Json} (h : name.bind (ofTagged? · contents) = some v) :
    v.isStray = false := by
  obtain ⟨name, _, h⟩ := Option.bind_eq_some_iff.mp h
  obtain ⟨k, _, h⟩ := Option.bind_eq_some_iff.mp h
  exact isStray_of_ofContents? h

/-- A value that was read has no stray leap second. -/
theorem isStray_of_ofJson?
    {x : Json} (h : ofJson? x = some v) :
    v.isStray = false := by
  unfold ofJson? at h
  split at h
  · split at h
    · exact isStray_of_ofTagged? h
    · cases h
  · exact isStray_of_ofTagged? h
  · cases h

end Settling

theorem ofContents?_contents
    {v : TypedValue} (h : v.Finite) :
    ofContents? v.kind v.contents = some v.settled := by
  cases v with
  | text | boolean =>
      rfl
  | number x =>
      have hreal : Json.ofBinary64 x = .real x := if_pos h
      simp only [kind, contents, hreal, ofContents?, settled]
  | date t =>
      have hread := Timestamp.readRelaxed_text t
      simp only [kind, contents, ofContents?, Timestamp.toString, String.toList_ofList, hread,
        Option.map_some, settled]

/-- A finite value is read back from its outside form, settled. -/
theorem ofJson?_json
    {v : TypedValue} (h : v.Finite) :
    ofJson? v.json = some v.settled := by
  show ofTagged? v.kind.name v.contents = some v.settled
  rw [ofTagged?_name]
  exact ofContents?_contents h

theorem json_ne_null (v : TypedValue) : v.json ≠ .null := by
  simp [json]

theorem kept_contents
    (v : TypedValue) (levels : Nat) :
    v.contents.Kept levels := by
  cases v with
  | text | boolean | date =>
      trivial
  | number x =>
      show (Json.ofBinary64 x).Kept levels
      unfold Json.ofBinary64
      split
      · next h =>
          exact h
      · trivial

/-- The outside form of a value is kept as it is. -/
theorem kept_json
    (v : TypedValue) {levels : Nat} (h : 0 < levels) :
    v.json.Kept levels := by
  refine ⟨h, ?_, trivial, v.kept_contents _, trivial⟩
  show List.Pairwise (· < ·) ["type", "value"]
  decide

end TypedValue

/-- Fields test a value as they test it settled. -/
@[simp] theorem Field.check_settled
    (f : Field) (v : TypedValue) :
    f.check v.settled = f.check v := by
  cases v <;> rfl

/-- Every value that a field accepts is finite. -/
theorem Field.finite_of_check
    {f : Field} {v : TypedValue}
    (h : f.check v = .ok ()) :
    v.Finite := by
  have hcontents := ((f.check_eq_ok_iff v).mp h).2
  cases v with
  | text | boolean | date =>
      trivial
  | number x =>
      show x.isFinite = true
      by_contra hinfinite
      rw [Field.checkContents, if_neg hinfinite] at hcontents
      cases hcontents

end Audience
