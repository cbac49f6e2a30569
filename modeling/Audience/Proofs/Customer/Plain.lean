import Audience.Proofs.Customer.Coercion

/-!
# Customers that are read back from plain values

Written as plain values, the attributes of a customer lose their kinds.  The schema knows the kinds,
so coercion gives the attributes back: texts and Booleans as they are, numbers bit for bit, and dates
through the strict form of timestamps, which fractions fit as well, and leap seconds that end their
minutes.

**Years.**  The strict form has four digits for the year and no sign, so dates before the year 0
or after 9999 are not read back.

**Stray leap seconds** are written as the second after them, and that second is read back.

**Results.**
* `Coercion.classify_contents`: a plain value that was written for a field is stored, settled.
* `Customer.ofPlain_plain`: a well-typed customer is read back from plain values, settled.
* `Customer.not_ofPlain_plain`: so it may come back as another one.
-/

namespace Audience

namespace TypedValue

variable {v : TypedValue}

/-- The value is no date, or its year has four digits and no sign. -/
def FourDigitYear : TypedValue → Prop
  | date t => 0 ≤ t.date.year ∧ t.date.year ≤ 9999
  | _ => True

theorem contents_ne_null
    (h : v.Finite) :
    v.contents ≠ .null := by
  cases v with
  | number x =>
      have hreal : Json.ofBinary64 x = .real x := if_pos h
      simp [contents, hreal]
  | text | boolean | date =>
      simp [contents]

end TypedValue

namespace Coercion

variable {schema : Schema} {key : String} {f : Field} {v : TypedValue}

/-- Contents are coerced to the value that they were written for, settled. -/
theorem ofKind?_contents
    (hfinite : v.Finite) (hyear : v.FourDigitYear) :
    ofKind? v.kind v.contents = some v.settled := by
  cases v with
  | text | boolean =>
      rfl
  | number x =>
      have hreal : Json.ofBinary64 x = .real x := if_pos hfinite
      simp only [TypedValue.kind, TypedValue.contents, hreal, ofKind?, number?, Option.map_some,
        TypedValue.settled]
  | date t =>
      have hread : Timestamp.readStrict (Timestamp.toString t).toList = some t.settled := by
        rw [Timestamp.toString, String.toList_ofList]
        exact Timestamp.readStrict_text hyear.1 hyear.2
      simp only [TypedValue.kind, TypedValue.contents, ofKind?, date?, hread, Option.some_or,
        Option.map_some, TypedValue.settled]

/-- A plain value that was written for a field is stored, settled. -/
theorem classify_contents
    (hfield : schema.field? key = some f) (hkind : v.kind = f.type.valueKind)
    (hfinite : v.Finite) (hyear : v.FourDigitYear) :
    classify schema key v.contents = .stored v.settled := by
  refine (classify_eq_iff (.stored v.settled)).mpr ⟨TypedValue.contents_ne_null hfinite, f, hfield, ?_⟩
  rw [value?, ← hkind]
  exact ofKind?_contents hfinite hyear

/-- Attributes that are stored behind those so far are put behind them. -/
theorem attributes_addAll
    {entries : List (String × TypedValue)} {c : Customer}
    (hordered : Keyed.Ordered (c.attributes ++ entries))
    (hstored : ∀ e ∈ entries, classify schema e.1 e.2.contents = .stored e.2) :
    (addAll schema c (entries.map fun e => (e.1, e.2.contents))).1.attributes =
      c.attributes ++ entries := by
  induction entries generalizing c with
  | nil =>
      simp [addAll]
  | cons e rest ih =>
      have hbelow : ∀ k ∈ c.attributes.map Prod.fst, k < e.1 :=
        Keyed.lt_of_ordered_append hordered
      have hset : (c.set e.1 e.2).attributes = c.attributes ++ [e] :=
        Keyed.insert_of_lt e.2 hbelow
      have hsplit : c.attributes ++ e :: rest = (c.set e.1 e.2).attributes ++ rest := by
        rw [hset, List.append_assoc, List.singleton_append]
      rw [hsplit] at hordered ⊢
      rw [List.map_cons, addAll_cons, hstored e List.mem_cons_self]
      exact ih hordered fun e' he' => hstored e' (List.mem_cons_of_mem _ he')

/-- If every plain value is stored, then no key is rejected. -/
theorem rejected_addAll_eq_nil
    {entries : List (String × TypedValue)}
    (hstored : ∀ e ∈ entries, classify schema e.1 e.2.contents = .stored e.2) (c : Customer) :
    (addAll schema c (entries.map fun e => (e.1, e.2.contents))).2 = [] := by
  rw [rejected_addAll, List.map_eq_nil_iff, List.filter_eq_nil_iff]
  intro m hm
  obtain ⟨e, he, rfl⟩ := List.mem_map.mp hm
  simp [hstored e he]

end Coercion

namespace Customer

open Coercion

/-- The attributes as plain values. -/
def plain (c : Customer) : List (String × Json) :=
  c.attributes.map fun e => (e.1, e.2.contents)

theorem eq_of_attributes
    {c c' : Customer} (hid : c.id = c'.id) (h : c.attributes = c'.attributes) :
    c = c' := by
  cases c
  cases c'
  cases hid
  cases h
  rfl

/-- The plain values of a customer are an object as it is kept in a document. -/
theorem kept_plain
    (c : Customer) :
    (Json.object c.plain).Kept 1 := by
  refine ⟨by decide, ?_, ?_⟩
  · show ((c.attributes.map fun e => (e.1, e.2.contents)).map Prod.fst).Pairwise (· < ·)
    rw [List.map_map]
    exact c.ordered
  · rw [Json.keptMembers_iff]
    intro m hm
    obtain ⟨e, _, rfl⟩ := List.mem_map.mp hm
    exact e.2.kept_contents 0

/-- The customer with settled attributes. -/
def settled (c : Customer) : Customer where
  id := c.id
  attributes := c.attributes.map fun e => (e.1, e.2.settled)
  ordered := by
    show ((c.attributes.map fun e => (e.1, e.2.settled)).map Prod.fst).Pairwise (· < ·)
    rw [List.map_map]
    exact c.ordered

theorem settled_eq_self_iff
    (c : Customer) :
    c.settled = c ↔ ∀ key v, c.get? key = some v → v.isStray = false := by
  have hattributes : c.settled = c ↔ ∀ e ∈ c.attributes, e.2.settled = e.2 := by
    have hmap : c.attributes.map (fun e => (e.1, e.2.settled)) = c.attributes ↔
        ∀ e ∈ c.attributes, (e.1, e.2.settled) = e := map_eq_self_iff
    simp only [Prod.ext_iff, true_and] at hmap
    rw [← hmap]
    exact ⟨congrArg attributes, fun h => eq_of_attributes rfl h⟩
  rw [hattributes]
  constructor
  · intro h key v hget
    exact v.settled_eq_self_iff.mp (h _ ((Keyed.find?_eq_some_iff c.ordered).mp hget))
  · intro h e he
    exact e.2.settled_eq_self_iff.mpr (h _ _ ((Keyed.find?_eq_some_iff c.ordered).mpr he))

/-- Settling a customer does not change its plain values. -/
theorem plain_settled
    (c : Customer) :
    c.settled.plain = c.plain := by
  simp only [plain, settled, List.map_map, Function.comp_def, TypedValue.contents_settled]

/-- Each plain value of a well-typed customer is stored for what it was written for, settled. -/
theorem classify_plain
    {schema : Schema} {c : Customer} (htyped : c.WellTyped schema)
    (hyears : ∀ key v, c.get? key = some v → v.FourDigitYear) :
    ∀ e ∈ c.settled.attributes, classify schema e.1 e.2.contents = .stored e.2 := by
  intro e he
  obtain ⟨⟨key, v⟩, hmem, rfl⟩ := List.mem_map.mp he
  have hget : c.get? key = some v := (Keyed.find?_eq_some_iff c.ordered).mpr hmem
  obtain ⟨f, hfield, hkind, hfinite⟩ := htyped key v hget
  rw [TypedValue.contents_settled]
  exact classify_contents hfield hkind hfinite (hyears key v hget)

/-- A well-typed customer whose dates have years of four digits is read back settled from its plain
values. -/
theorem ofPlain_plain_eq_settled
    {schema : Schema} {c : Customer} (htyped : c.WellTyped schema)
    (hyears : ∀ key v, c.get? key = some v → v.FourDigitYear) :
    ofPlain schema c.id c.plain = (c.settled, []) := by
  have hstored := classify_plain htyped hyears
  rw [← c.plain_settled]
  have hcustomer : (ofPlain schema c.id c.settled.plain).1 = c.settled :=
    eq_of_attributes (id_addAll schema (bare c.id) c.settled.plain)
      (attributes_addAll (c := bare c.id) c.settled.ordered hstored)
  have hrejected : (ofPlain schema c.id c.settled.plain).2 = [] := by
    rw [rejected_ofPlain, plain, rejected_addAll_eq_nil hstored, List.mergeSort_nil]
  exact Prod.ext hcustomer hrejected

/-- A well-typed customer whose dates have years of four digits is read back from an object of plain
values with its dates settled, and no key is rejected.  So it comes back as it was exactly if it
has no stray leap second. -/
theorem ofPlain_plain
    {schema : Schema} {c : Customer} (htyped : c.WellTyped schema)
    (hyears : ∀ key v, c.get? key = some v → v.FourDigitYear) :
    (Json.object c.plain).Kept 1 ∧ ofPlain schema c.id c.plain = (c.settled, []) ∧
      (ofPlain schema c.id c.plain = (c, []) ↔
        ∀ key v, c.get? key = some v → v.isStray = false) := by
  have hread := ofPlain_plain_eq_settled htyped hyears
  refine ⟨c.kept_plain, hread, ?_⟩
  rw [hread, Prod.mk.injEq, ← c.settled_eq_self_iff]
  simp

/-- A Boolean, a leap second and one nanosecond, an empty text, the first instant of the year 0, an
option, and the negative zero. -/
def fullCustomer : Customer where
  id := "c-7"
  attributes := [
    ("isSubscribed", .boolean false),
    ("lastPurchaseDate", .date
      ⟨⟨2016, 12, 31, by decide⟩, ⟨23, 59, 59, 10 ^ 9 + 1, by decide⟩⟩),
    ("name", .text ""),
    ("signupDate", .date ⟨⟨0, 1, 1, by decide⟩, Clock.midnight⟩),
    ("tier", .text "gold"),
    ("totalSpent", .number (.zero true))]
  ordered := by
    show List.Pairwise (· < ·) _
    decide

/-- All of these are read back. -/
theorem ofPlain_plain_fullCustomer :
    fullCustomer.WellTyped .standard ∧
      (∀ key v, fullCustomer.get? key = some v → v.FourDigitYear) ∧
      (∀ key v, fullCustomer.get? key = some v → v.isStray = false) ∧
      ofPlain .standard "c-7" fullCustomer.plain = (fullCustomer, []) := by
  have hattribute : ∀ key v, fullCustomer.get? key = some v →
      (∃ f, Schema.standard.field? key = some f ∧ v.kind = f.type.valueKind ∧ v.Finite) ∧
        v.FourDigitYear ∧ v.isStray = false := by
    intro key v hget
    have hmem := (Keyed.find?_eq_some_iff fullCustomer.ordered).mp hget
    simp only [fullCustomer, List.mem_cons, Prod.mk.injEq, List.not_mem_nil, or_false] at hmem
    rcases hmem with ⟨rfl, rfl⟩ | ⟨rfl, rfl⟩ | ⟨rfl, rfl⟩ | ⟨rfl, rfl⟩ | ⟨rfl, rfl⟩ | ⟨rfl, rfl⟩
    · exact ⟨⟨_, rfl, rfl, trivial⟩, trivial, rfl⟩
    · exact ⟨⟨_, rfl, rfl, trivial⟩, ⟨by decide, by decide⟩, by decide⟩
    · exact ⟨⟨_, rfl, rfl, trivial⟩, trivial, rfl⟩
    · exact ⟨⟨_, rfl, rfl, trivial⟩, ⟨by decide, by decide⟩, by decide⟩
    · exact ⟨⟨_, rfl, rfl, trivial⟩, trivial, rfl⟩
    · have hzero : (Binary64.zero true).isFinite = true := by decide
      exact ⟨⟨_, rfl, rfl, hzero⟩, trivial, rfl⟩
  have htyped : fullCustomer.WellTyped .standard := fun key v hget => (hattribute key v hget).1
  have hyears := fun key v hget => (hattribute key v hget).2.1
  have hstray := fun key v hget => (hattribute key v hget).2.2
  exact ⟨htyped, hyears, hstray, (ofPlain_plain htyped hyears).2.2.mpr hstray⟩

/-- A customer who signed up in a stray leap second. -/
def strayCustomer : Customer where
  id := "c-8"
  attributes := [("signupDate", .date Instant.strayNoon)]
  ordered := by
    show List.Pairwise (· < ·) _
    decide

/-- A customer with a stray leap second comes back as another one. -/
theorem not_ofPlain_plain :
    ¬ ∀ (schema : Schema) (c : Customer), c.WellTyped schema →
        (∀ key v, c.get? key = some v → v.FourDigitYear) →
        ofPlain schema c.id c.plain = (c, []) := by
  intro h
  have hattribute : ∀ key v, strayCustomer.get? key = some v →
      key = "signupDate" ∧ v = .date Instant.strayNoon := by
    intro key v hget
    have hmem := (Keyed.find?_eq_some_iff strayCustomer.ordered).mp hget
    simpa [strayCustomer] using hmem
  have htyped : strayCustomer.WellTyped .standard := by
    intro key v hget
    obtain ⟨rfl, rfl⟩ := hattribute key v hget
    exact ⟨_, rfl, rfl, trivial⟩
  have hyears : ∀ key v, strayCustomer.get? key = some v → v.FourDigitYear := by
    intro key v hget
    obtain ⟨rfl, rfl⟩ := hattribute key v hget
    exact ⟨by decide, by decide⟩
  have hread := h .standard strayCustomer htyped hyears
  rw [ofPlain_plain_eq_settled htyped hyears, Prod.mk.injEq, settled_eq_self_iff] at hread
  have hstray := hread.1 "signupDate" _ rfl
  revert hstray
  decide

end Customer
end Audience
