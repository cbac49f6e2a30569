import Audience.Stored
import Audience.Proofs.Json.Values

/-!
# Stored segments that read back

A stored segment whose values are kept values reads back from its text, and every stored
segment that was read is of this kind.

**Missing values.**  A value is missing if its key is missing or if it is `null`, so `null`
is not among the values of a condition that was read.

**Results.**
* `StoredSegment.parse?_text`: a stored segment reads back from its text.
* `StoredSegment.kept_of_parse?`: whatever is read can be written and read again.
-/

namespace Audience

open Json (Document)

section Lists

universe u v

variable {α : Type u} {β : Type v}

/-- A list is read back if each of its items is. -/
theorem mapM_map_of_inverse
    {write : α → β} {read : β → Option α} (items : List α)
    (h : ∀ a ∈ items, read (write a) = some a) :
    (items.map write).mapM read = some items := by
  induction items with
  | nil =>
      rfl
  | cons a rest ih =>
      have hrest := ih fun b hb => h b (List.mem_cons_of_mem a hb)
      have ha := h a List.mem_cons_self
      simp [ha, hrest]

/-- Each item that was read comes from somewhere. -/
theorem exists_of_mem_mapM
    {read : β → Option α} {items : List β} {found : List α}
    (h : items.mapM read = some found) {a : α} (ha : a ∈ found) :
    ∃ b ∈ items, read b = some a := by
  induction items generalizing found with
  | nil =>
      cases h
      cases ha
  | cons b rest ih =>
      rw [List.mapM_cons] at h
      obtain ⟨first, hfirst, h⟩ := Option.bind_eq_some_iff.mp h
      obtain ⟨others, hothers, h⟩ := Option.bind_eq_some_iff.mp h
      cases h
      rcases List.mem_cons.mp ha with rfl | ha
      · exact ⟨b, List.mem_cons_self, hfirst⟩
      · obtain ⟨c, hc, hread⟩ := ih hothers ha
        exact ⟨c, List.mem_cons_of_mem b hc, hread⟩

end Lists

namespace StoredCondition

/-- An optional value as it is read: not `null`, and kept. -/
def KeptValue (value : Option Json) : Prop :=
  ∀ x, value = some x → x ≠ .null ∧ x.Kept valueLevels

/-- A condition whose values are kept. -/
def Kept (c : StoredCondition) : Prop :=
  KeptValue c.value ∧ KeptValue c.secondValue

theorem document_ne_null
    {x : Json} (h : x ≠ .null) :
    x.document ≠ .null := by
  cases x with
  | null =>
      exact absurd rfl h
  | boolean | integer | real | text | array | object =>
      simp [Json.document, Document.string]

theorem ne_null_of_keep?
    {d : Document} {levels : Nat} {x : Json}
    (hd : d ≠ .null) (h : d.keep? levels = some x) :
    x ≠ .null := by
  rintro rfl
  cases d with
  | null =>
      exact hd rfl
  | boolean b =>
      simp [Document.keep?] at h
  | number n =>
      simp only [Document.keep?, Json.ofNumeral?] at h
      split at h
      · cases h
      · split at h
        · cases h
        · split at h <;> cases h
  | quoted q =>
      cases q <;> simp [Document.keep?] at h
  | array items =>
      simp only [Document.keep?] at h
      split at h <;> simp at h
  | object members =>
      simp only [Document.keep?] at h
      split at h <;> simp at h

theorem readValue?_some
    {d : Document} (h : d ≠ .null) :
    readValue? (some d) = (d.keep? valueLevels).map some := by
  cases d with
  | null =>
      exact absurd rfl h
  | boolean | number | quoted | array | object =>
      rfl

/-- An optional value is read back from its document. -/
theorem readValue?_document
    {value : Option Json} (h : KeptValue value) :
    readValue? (value.map Json.document) = some value := by
  cases value with
  | none =>
      rfl
  | some x =>
      obtain ⟨hne, hkept⟩ := h x rfl
      rw [Option.map_some, readValue?_some (document_ne_null hne),
        Document.keep?_document x hkept]
      rfl

theorem keptValue_of_readValue?
    {d : Option Document} {value : Option Json}
    (h : readValue? d = some value) :
    KeptValue value := by
  rintro x rfl
  cases d with
  | none =>
      cases h
  | some d =>
      by_cases hd : d = .null
      · subst hd
        cases h
      · rw [readValue?_some hd] at h
        obtain ⟨y, hy, hyx⟩ := Option.map_eq_some_iff.mp h
        cases hyx
        exact ⟨ne_null_of_keep? hd hy, Document.kept_of_keep? d hy⟩

/-- The slots of a condition's document. -/
theorem slots_document
    (c : StoredCondition) :
    c.document.slots ["id", "fieldId", "operatorId", "value", "secondValue"] =
      some [some (.string c.id), some (.string c.fieldId), some (.string c.operatorId),
        c.value.map Json.document, c.secondValue.map Json.document] := by
  obtain ⟨id, fieldId, operatorId, value, secondValue⟩ := c
  cases value <;> cases secondValue <;>
    simp [document, valueMember, Document.record, Document.slots, Document.keysReadable,
      Document.named, Document.slotAt, Document.valuesAt]

/-- A condition is read back from its document. -/
theorem ofDocument?_document
    {c : StoredCondition} (h : c.Kept) :
    ofDocument? c.document = some c := by
  rw [ofDocument?, slots_document]
  simp only [readValue?_document h.1, readValue?_document h.2]
  rfl

theorem kept_of_ofDocument?
    {d : Document} {c : StoredCondition}
    (h : ofDocument? d = some c) :
    c.Kept := by
  unfold ofDocument? at h
  split at h
  · obtain ⟨id, _, h⟩ := Option.bind_eq_some_iff.mp h
    obtain ⟨fieldId, _, h⟩ := Option.bind_eq_some_iff.mp h
    obtain ⟨operatorId, _, h⟩ := Option.bind_eq_some_iff.mp h
    obtain ⟨value, hvalue, h⟩ := Option.bind_eq_some_iff.mp h
    obtain ⟨secondValue, hsecond, h⟩ := Option.bind_eq_some_iff.mp h
    cases h
    exact ⟨keptValue_of_readValue? hvalue, keptValue_of_readValue? hsecond⟩
  · cases h

theorem spelled_document
    (c : StoredCondition) :
    c.document.Spelled := by
  obtain ⟨id, fieldId, operatorId, value, secondValue⟩ := c
  cases value <;> cases secondValue <;>
    simp [document, valueMember, Document.record, Document.Spelled, Document.SpelledMembers,
      Document.spelled_string, Json.spelled_document]

end StoredCondition

namespace StoredGroup

/-- A group whose conditions are kept. -/
def Kept (g : StoredGroup) : Prop := ∀ c ∈ g.conditions, c.Kept

/-- The slots of a group's document. -/
theorem slots_document
    (g : StoredGroup) :
    g.document.slots ["id", "combinator", "conditions"] =
      some [some (.string g.id), some (.string g.combinator.name),
        some (.array (g.conditions.map StoredCondition.document))] := by
  simp [document, Document.record, Document.slots, Document.keysReadable, Document.named,
    Document.slotAt, Document.valuesAt]

theorem combinator_ofDocument?
    (c : Combinator) :
    Combinator.ofDocument? (.string c.name) = some c :=
  Combinator.ofName?_name c

/-- A group is read back from its document. -/
theorem ofDocument?_document
    {g : StoredGroup} (h : g.Kept) :
    ofDocument? g.document = some g := by
  have hconditions : (g.conditions.map StoredCondition.document).mapM
      StoredCondition.ofDocument? = some g.conditions :=
    mapM_map_of_inverse g.conditions fun c hc => StoredCondition.ofDocument?_document (h c hc)
  rw [ofDocument?, slots_document]
  simp only [combinator_ofDocument?, readConditions?, Document.items?, Option.bind_some,
    hconditions]
  rfl

theorem kept_of_ofDocument?
    {d : Document} {g : StoredGroup}
    (h : ofDocument? d = some g) :
    g.Kept := by
  unfold ofDocument? at h
  split at h
  · next conditions _ =>
      obtain ⟨id, _, h⟩ := Option.bind_eq_some_iff.mp h
      obtain ⟨combinator, _, h⟩ := Option.bind_eq_some_iff.mp h
      obtain ⟨found, hfound, h⟩ := Option.bind_eq_some_iff.mp h
      cases h
      intro c hc
      cases conditions with
      | none =>
          cases hfound
          cases hc
      | some d =>
          obtain ⟨items, _, hitems⟩ := Option.bind_eq_some_iff.mp hfound
          obtain ⟨e, _, he⟩ := exists_of_mem_mapM hitems hc
          exact StoredCondition.kept_of_ofDocument? he
  · cases h

theorem spelled_document
    (g : StoredGroup) :
    g.document.Spelled := by
  have hconditions : Document.SpelledItems (g.conditions.map StoredCondition.document) := by
    rw [Document.spelledItems_iff]
    intro d hd
    obtain ⟨c, _, rfl⟩ := List.mem_map.mp hd
    exact c.spelled_document
  simp [document, Document.record, Document.Spelled, Document.SpelledMembers,
    Document.spelled_string, hconditions]

end StoredGroup

namespace StoredSegment

/-- A segment whose groups are kept. -/
def Kept (s : StoredSegment) : Prop := ∀ g ∈ s.groups, g.Kept

/-- A segment is read back from its document. -/
theorem ofDocument?_document
    {s : StoredSegment} (h : s.Kept) :
    ofDocument? s.document = some s := by
  have hslots : s.document.slots ["groups"] =
      some [some (.array (s.groups.map StoredGroup.document))] := by
    simp [document, Document.record, Document.slots, Document.keysReadable, Document.named,
      Document.slotAt, Document.valuesAt]
  have hgroups : (s.groups.map StoredGroup.document).mapM StoredGroup.ofDocument? =
      some s.groups :=
    mapM_map_of_inverse s.groups fun g hg => StoredGroup.ofDocument?_document (h g hg)
  rw [ofDocument?, hslots]
  simp only [Document.items?, Option.bind_eq_bind, Option.bind_some, hgroups]
  rfl

theorem spelled_document
    (s : StoredSegment) :
    s.document.Spelled := by
  have hgroups : Document.SpelledItems (s.groups.map StoredGroup.document) := by
    rw [Document.spelledItems_iff]
    intro d hd
    obtain ⟨g, _, rfl⟩ := List.mem_map.mp hd
    exact g.spelled_document
  simp [document, Document.record, Document.Spelled, Document.SpelledMembers, hgroups]

/-- A segment is read back from its text. -/
theorem parse?_text
    {s : StoredSegment} (h : s.Kept) :
    parse? s.text = some s := by
  rw [parse?, text, Json.parse?_text_of_spelled s.spelled_document, Option.bind_some]
  exact ofDocument?_document h

/-- Whatever is read can be written and read again. -/
theorem kept_of_parse?
    {text : String} {s : StoredSegment}
    (h : parse? text = some s) :
    s.Kept := by
  obtain ⟨d, _, h⟩ := Option.bind_eq_some_iff.mp h
  unfold ofDocument? at h
  split at h
  · obtain ⟨items, _, h⟩ := Option.bind_eq_some_iff.mp h
    obtain ⟨groups, hgroups, h⟩ := Option.bind_eq_some_iff.mp h
    cases h
    intro g hg
    obtain ⟨e, _, he⟩ := exists_of_mem_mapM hgroups hg
    exact StoredGroup.kept_of_ofDocument? he
  · cases h

end StoredSegment
end Audience
