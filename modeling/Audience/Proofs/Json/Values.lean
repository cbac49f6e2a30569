import Audience.Json.Value
import Audience.Proofs.Json.Documents

/-!
# Values that are kept again

A kept value has its keys in order, its numbers in range and its nesting bounded.  A value
of this kind is kept as it is when its document is read again, and every document that can
be kept gives such a value.

**Results.**
* `keep?_document`: a kept value is kept again as it is.
* `kept_of_keep?`: keeping a document gives a kept value.
* `spelled_document`: the document of a value reads back from its text.
-/

namespace Audience
namespace Json

mutual

/-- Values as they are kept: at most `levels` deep, numbers in range, keys in order. -/
def Kept (levels : Nat) : Json → Prop
  | .integer i => -(2 ^ 63) ≤ i ∧ i < 2 ^ 64
  | .real x => x.isFinite = true
  | .array items => 0 < levels ∧ KeptItems (levels - 1) items
  | .object members =>
      0 < levels ∧ Keyed.Ordered members ∧ KeptMembers (levels - 1) members
  | _ => True

/-- Items as they are kept. -/
def KeptItems (levels : Nat) : List Json → Prop
  | [] => True
  | x :: rest => x.Kept levels ∧ KeptItems levels rest

/-- Members as they are kept, apart from the order of their keys. -/
def KeptMembers (levels : Nat) : List (String × Json) → Prop
  | [] => True
  | m :: rest => m.2.Kept levels ∧ KeptMembers levels rest

end

theorem keptMembers_iff
    (levels : Nat) (members : List (String × Json)) :
    KeptMembers levels members ↔ ∀ m ∈ members, m.2.Kept levels := by
  induction members with
  | nil =>
      simp [KeptMembers]
  | cons m rest ih =>
      simp [KeptMembers, ih]

mutual

/-- The document of a value reads back from its text. -/
theorem spelled_document
    (x : Json) :
    x.document.Spelled := by
  cases x with
  | null | boolean =>
      simp [document, Document.Spelled]
  | integer i =>
      simpa [document, Document.Spelled] using Numeral.spelled_ofInt i
  | real x =>
      simpa [document, Document.Spelled] using Numeral.spelled_ofBinary64 x
  | text s =>
      exact Document.spelled_string s
  | array items =>
      simpa [document, Document.Spelled] using spelledItems_documents items
  | object members =>
      simpa [document, Document.Spelled] using spelledMembers_memberDocuments members

theorem spelledItems_documents
    (items : List Json) :
    Document.SpelledItems (documents items) := by
  cases items with
  | nil =>
      simp [documents, Document.SpelledItems]
  | cons x rest =>
      simp [documents, Document.SpelledItems, spelled_document x, spelledItems_documents rest]

theorem spelledMembers_memberDocuments
    (members : List (String × Json)) :
    Document.SpelledMembers (memberDocuments members) := by
  cases members with
  | nil =>
      simp [memberDocuments, Document.SpelledMembers]
  | cons m rest =>
      obtain ⟨k, x⟩ := m
      simp [memberDocuments, Document.SpelledMembers, spelled_document x,
        spelledMembers_memberDocuments rest]

end

section Numbers

/-- The numeral of an integer in range is kept as that integer. -/
theorem ofNumeral?_ofInt
    {i : Int} (hlow : -(2 ^ 63) ≤ i) (hhigh : i < 2 ^ 64) :
    ofNumeral? (Numeral.ofInt i) = some (.integer i) := by
  have hwhole : Text.valueOf (Numeral.ofInt i).whole = i.natAbs :=
    Text.valueOf_digitsOf i.natAbs
  unfold ofNumeral?
  dsimp only
  rw [Numeral.isWhole_ofInt, hwhole]
  by_cases hneg : i < 0
  · have hnegative : (Numeral.ofInt i).negative = true := decide_eq_true hneg
    have hpos : 0 < i.natAbs := by omega
    have hbound : i.natAbs ≤ 2 ^ 63 := by omega
    have hback : -(i.natAbs : Int) = i := by omega
    rw [hnegative, decide_eq_true hpos, decide_eq_true hbound, if_neg (by simp),
      if_pos (by decide), hback]
  · have hnegative : (Numeral.ofInt i).negative = false := decide_eq_false hneg
    have hbound : i.natAbs < 2 ^ 64 := by omega
    have hback : (i.natAbs : Int) = i := by omega
    rw [hnegative, decide_eq_true hbound, if_pos (by decide), hback]

/-- The numeral of a finite double is kept as that double. -/
theorem ofNumeral?_ofBinary64
    {x : Binary64} (h : x.isFinite = true) :
    ofNumeral? (Numeral.ofBinary64 x) = some (.real x) := by
  unfold ofNumeral?
  rw [Numeral.isWhole_ofBinary64, Numeral.toBinary64_ofBinary64 h]
  simp [h]

theorem kept_of_ofNumeral?
    {levels : Nat} {n : Numeral} {x : Json}
    (h : ofNumeral? n = some x) :
    x.Kept levels := by
  simp only [ofNumeral?] at h
  split at h
  · next hi =>
      cases h
      simp only [Bool.and_eq_true, decide_eq_true_eq] at hi
      simp only [Kept]
      omega
  · split at h
    · next hi =>
        cases h
        simp only [Bool.and_eq_true, decide_eq_true_eq] at hi
        simp only [Kept]
        omega
    · split at h
      · next hfinite =>
          cases h
          exact hfinite
      · cases h

end Numbers

section Members

theorem mem_insert
    {key : String} {x : Json} {kept : List (String × Json)} {m : String × Json}
    (h : m ∈ Keyed.insert key x kept) :
    m = (key, x) ∨ m ∈ kept := by
  induction kept with
  | nil =>
      simpa using h
  | cons e rest ih =>
      obtain ⟨k, y⟩ := e
      unfold Keyed.insert at h
      split at h
      · rcases List.mem_cons.mp h with rfl | h
        · exact Or.inl rfl
        · exact Or.inr (List.mem_cons_of_mem _ h)
      · split at h
        · rcases List.mem_cons.mp h with rfl | h
          · exact Or.inl rfl
          · exact Or.inr h
        · rcases List.mem_cons.mp h with rfl | h
          · exact Or.inr List.mem_cons_self
          · rcases ih h with rfl | h
            · exact Or.inl rfl
            · exact Or.inr (List.mem_cons_of_mem _ h)

end Members

namespace Document

mutual

/-- A kept value is kept again as it is. -/
theorem keep?_document
    (x : Json) {levels : Nat} (h : x.Kept levels) :
    x.document.keep? levels = some x := by
  cases x with
  | null | boolean | text =>
      rfl
  | integer i =>
      exact ofNumeral?_ofInt h.1 h.2
  | real x =>
      exact ofNumeral?_ofBinary64 h
  | array items =>
      obtain ⟨hlevels, hitems⟩ := h
      have hne : levels ≠ 0 := by omega
      rw [document_array, keep?, if_neg hne, keepItems_documents items hitems]
      rfl
  | object members =>
      obtain ⟨hlevels, hordered, hmembers⟩ := h
      have hne : levels ≠ 0 := by omega
      have hkeep := keepMembers_memberDocuments members [] hmembers (by simpa using hordered)
      rw [Json.document, keep?, if_neg hne, hkeep]
      rfl

theorem keepItems_documents
    (items : List Json) {levels : Nat} (h : KeptItems levels items) :
    keepItems levels (documents items) = some items := by
  cases items with
  | nil =>
      rfl
  | cons x rest =>
      simp [documents, keepItems, keep?_document x h.1, keepItems_documents rest h.2]

/-- Members whose keys stand behind those so far are put behind them. -/
theorem keepMembers_memberDocuments
    (members kept : List (String × Json)) {levels : Nat} (h : KeptMembers levels members)
    (hordered : Keyed.Ordered (kept ++ members)) :
    keepMembers levels (memberDocuments members) kept = some (kept ++ members) := by
  cases members with
  | nil =>
      simp [memberDocuments, keepMembers]
  | cons m rest =>
      obtain ⟨k, x⟩ := m
      have hsplit : kept ++ (k, x) :: rest = (kept ++ [(k, x)]) ++ rest := by simp
      have hbelow : ∀ j ∈ kept.map Prod.fst, j < k := Keyed.lt_of_ordered_append hordered
      rw [hsplit] at hordered
      have hrest := keepMembers_memberDocuments rest (kept ++ [(k, x)]) h.2 hordered
      simp only [memberDocuments, keepMembers, keep?_document x h.1, Option.bind_eq_bind,
        Option.bind_some, Keyed.insert_of_lt x hbelow]
      rw [hrest, hsplit]

end

mutual

/-- Keeping a document gives a kept value. -/
theorem kept_of_keep?
    (d : Document) {levels : Nat} {x : Json}
    (h : d.keep? levels = some x) :
    x.Kept levels := by
  cases d with
  | null | boolean =>
      cases h
      trivial
  | number n =>
      exact kept_of_ofNumeral? h
  | quoted q =>
      cases q with
      | text s =>
          cases h
          trivial
      | unpaired =>
          cases h
  | array items =>
      rw [keep?] at h
      split at h
      · cases h
      · next hlevels =>
          obtain ⟨kept, hkept, rfl⟩ := Option.map_eq_some_iff.mp h
          exact ⟨by omega, keptItems_of_keepItems items hkept⟩
  | object members =>
      rw [keep?] at h
      split at h
      · cases h
      · next hlevels =>
          obtain ⟨kept, hkept, rfl⟩ := Option.map_eq_some_iff.mp h
          obtain ⟨hordered, hmembers⟩ :=
            keptMembers_of_keepMembers members hkept Keyed.ordered_nil trivial
          exact ⟨by omega, hordered, hmembers⟩

theorem keptItems_of_keepItems
    (items : List Document) {levels : Nat} {kept : List Json}
    (h : keepItems levels items = some kept) :
    KeptItems levels kept := by
  cases items with
  | nil =>
      cases h
      trivial
  | cons d rest =>
      obtain ⟨x, hx, h⟩ := Option.bind_eq_some_iff.mp h
      obtain ⟨xs, hxs, h⟩ := Option.bind_eq_some_iff.mp h
      cases h
      exact ⟨kept_of_keep? d hx, keptItems_of_keepItems rest hxs⟩

/-- Inserting further members keeps the order of the keys and the bounds of the values. -/
theorem keptMembers_of_keepMembers
    (members : List (Quoted × Document)) {levels : Nat} {sofar kept : List (String × Json)}
    (h : keepMembers levels members sofar = some kept)
    (hordered : Keyed.Ordered sofar) (hsofar : KeptMembers levels sofar) :
    Keyed.Ordered kept ∧ KeptMembers levels kept := by
  cases members with
  | nil =>
      cases h
      exact ⟨hordered, hsofar⟩
  | cons m rest =>
      obtain ⟨q, d⟩ := m
      cases q with
      | unpaired =>
          cases h
      | text k =>
          obtain ⟨x, hx, h⟩ := Option.bind_eq_some_iff.mp h
          have hvalue := kept_of_keep? d hx
          refine keptMembers_of_keepMembers rest h (Keyed.ordered_insert k x hordered) ?_
          rw [keptMembers_iff] at hsofar ⊢
          intro m hm
          rcases mem_insert hm with rfl | hm
          · exact hvalue
          · exact hsofar m hm

end

end Document
end Json
end Audience
