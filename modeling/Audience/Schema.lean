import Audience.Field
import Audience.Schema.Index

/-!
# Schemas

A schema is the list of fields that conditions can be made on.  No two of its fields
have the same identifier.  Beside the list it keeps the index of the identifiers.

**Building.**  `Schema.ofFields` enters the fields into the index one after another.  It
refuses a list with a repeated identifier and names the first one that has occurred
before.

**Looking up.**  The index says where a field stands, and the list what stands there.  Each
position of the index is one of the list, so nothing is found only if the index has no entry.

**Results.**
* `Schema.agrees_index`: the index has the positions of the fields, and no others.
* `Schema.field_eq_ok_iff`: looking a field up finds the field of the list with that
  identifier, and nothing else.
-/

namespace Audience

/-- A list of fields with distinct identifiers, and the index of these. -/
structure Schema where
  fields : List Field
  distinct : (fields.map Field.id).Nodup
  index : Schema.Index := .ofIds (fields.map Field.id)
  index_eq : index = .ofIds (fields.map Field.id) := by rfl
deriving DecidableEq

namespace Schema

/-- The schema of a list of fields. -/
def ofFields (fields : List Field) : Except Error Schema :=
  match h : Index.build (fields.map Field.id) with
  | .ok index =>
      .ok {
        fields, index
        distinct := (Index.build_eq_ok_iff.mp h).1
        index_eq := (Index.build_eq_ok_iff.mp h).2 }
  | .error e => .error e

/-- The field with an identifier.  It stands in the list wherever the index says. -/
def field? (schema : Schema) (id : String) : Option Field := do
  let pos ← Keyed.find? id schema.index
  schema.fields[pos]?

/-- The field with an identifier, or the cause of its absence. -/
def field (schema : Schema) (id : String) : Except Error Field :=
  match schema.field? id with
  | some f => .ok f
  | none => .error (.unknownField id)

/-- The operators of a field. -/
def operatorsFor (schema : Schema) (id : String) : Except Error (List Operator) :=
  (schema.field id).map Field.operators

/-- The number of fields. -/
def size (schema : Schema) : Nat := schema.fields.length

theorem agrees_index (schema : Schema) :
    Index.Agrees schema.index (schema.fields.map Field.id) := by
  rw [schema.index_eq]
  exact Index.agrees_ofIds schema.distinct

theorem field?_eq_some_iff (schema : Schema) (id : String) (f : Field) :
    schema.field? id = some f ↔ f ∈ schema.fields ∧ f.id = id := by
  constructor
  · intro h
    obtain ⟨pos, hpos, hf⟩ := Option.bind_eq_some_iff.mp h
    have hid := (schema.agrees_index id pos).mp hpos
    rw [List.getElem?_map, hf] at hid
    exact ⟨List.mem_of_getElem? hf, Option.some.inj hid⟩
  · rintro ⟨hf, rfl⟩
    obtain ⟨pos, hpos⟩ := List.getElem?_of_mem hf
    have hid : (schema.fields.map Field.id)[pos]? = some f.id := by
      rw [List.getElem?_map, hpos]
      rfl
    exact Option.bind_eq_some_iff.mpr ⟨pos, (schema.agrees_index f.id pos).mpr hid, hpos⟩

theorem field_eq_ok_iff (schema : Schema) (id : String) (f : Field) :
    schema.field id = .ok f ↔ f ∈ schema.fields ∧ f.id = id := by
  rw [← field?_eq_some_iff]
  unfold field
  split <;> simp_all

theorem field?_eq_none_iff (schema : Schema) (id : String) :
    schema.field? id = none ↔ ∀ f ∈ schema.fields, f.id ≠ id := by
  rw [Option.eq_none_iff_forall_ne_some]
  simp only [ne_eq, field?_eq_some_iff, not_and]

theorem field_eq_error_iff {schema : Schema} {id : String} {e : Error} :
    schema.field id = .error e ↔ schema.field? id = none ∧ e = .unknownField id := by
  unfold field
  cases schema.field? id <;> simp [eq_comm]

/-- The attributes of a customer that are known without a schema of one's own. -/
def standard : Schema where
  fields := [
    ⟨"name", "Customer name", .text⟩,
    ⟨"email", "Email", .text⟩,
    ⟨"city", "City", .text⟩,
    ⟨"orderCount", "Order count", .number⟩,
    ⟨"totalSpent", "Total spent", .number⟩,
    ⟨"age", "Age", .number⟩,
    ⟨"lastPurchaseDate", "Last purchase date", .date⟩,
    ⟨"signupDate", "Signup date", .date⟩,
    ⟨"isSubscribed", "Subscribed to marketing", .boolean⟩,
    ⟨"hasAppInstalled", "Has app installed", .boolean⟩,
    ⟨"tier", "Loyalty tier", .select [
      ⟨"bronze", "Bronze"⟩, ⟨"silver", "Silver"⟩, ⟨"gold", "Gold"⟩,
      ⟨"platinum", "Platinum"⟩]⟩,
    ⟨"preferredChannel", "Preferred channel", .select [
      ⟨"email", "Email"⟩, ⟨"sms", "SMS"⟩, ⟨"push", "Push notification"⟩,
      ⟨"whatsapp", "WhatsApp"⟩]⟩]
  distinct := by decide

instance : Inhabited Schema := ⟨standard⟩

end Schema
end Audience
