import Audience.Segment

/-!
# When two segments agree

The two zeros of the binary64 format are one number, so segments that differ only in the
signs of their zeros say the same.  They agree although their texts differ.

**Algorithm.**  In both segments the negative zeros are folded into positive ones, and the
results are compared part by part.

**Results.**
* `Json.foldZeros_foldZeros`: folding the zeros of a value is idempotent.
* `Segment.agrees_iff`: agreement is equality after folding.
* `Segment.agrees_self`: every segment agrees with itself.
-/

namespace Audience

namespace Json

mutual

/-- The value with positive zeros only. -/
def foldZeros : Json → Json
  | .null => .null
  | .boolean b => .boolean b
  | .integer i => .integer i
  | .real x => .real x.foldZero
  | .text s => .text s
  | .array items => .array (foldZerosOfItems items)
  | .object members => .object (foldZerosOfMembers members)

/-- The items with positive zeros only. -/
def foldZerosOfItems : List Json → List Json
  | [] => []
  | x :: rest => x.foldZeros :: foldZerosOfItems rest

/-- The members with positive zeros only. -/
def foldZerosOfMembers : List (String × Json) → List (String × Json)
  | [] => []
  | (k, x) :: rest => (k, x.foldZeros) :: foldZerosOfMembers rest

end

mutual

@[simp] theorem foldZeros_foldZeros (x : Json) : x.foldZeros.foldZeros = x.foldZeros := by
  cases x with
  | null | boolean | integer | text => simp [foldZeros]
  | real x => simp [foldZeros]
  | array items => simp [foldZeros, foldZerosOfItems_idem items]
  | object members => simp [foldZeros, foldZerosOfMembers_idem members]

theorem foldZerosOfItems_idem (items : List Json) :
    foldZerosOfItems (foldZerosOfItems items) = foldZerosOfItems items := by
  cases items with
  | nil => simp [foldZerosOfItems]
  | cons x rest =>
      simp [foldZerosOfItems, foldZeros_foldZeros x, foldZerosOfItems_idem rest]

theorem foldZerosOfMembers_idem (members : List (String × Json)) :
    foldZerosOfMembers (foldZerosOfMembers members) = foldZerosOfMembers members := by
  cases members with
  | nil => simp [foldZerosOfMembers]
  | cons m rest =>
      obtain ⟨k, x⟩ := m
      simp [foldZerosOfMembers, foldZeros_foldZeros x, foldZerosOfMembers_idem rest]

end

end Json

/-- The value with a positive zero. -/
def TypedValue.foldZero : TypedValue → TypedValue
  | number x => number x.foldZero
  | v => v

/-- The stored condition with positive zeros only. -/
def StoredCondition.foldZeros (c : StoredCondition) : StoredCondition :=
  { c with value := c.value.map Json.foldZeros, secondValue := c.secondValue.map Json.foldZeros }

/-- The condition with positive zeros only. -/
def Condition.foldZeros (c : Condition) : Condition :=
  { c with
    value := c.value.map TypedValue.foldZero
    secondValue := c.secondValue.map TypedValue.foldZero }

/-- The entry with positive zeros only. -/
def Entry.foldZeros : Entry → Entry
  | active c => active c.foldZeros
  | quarantined q => quarantined { q with raw := q.raw.map StoredCondition.foldZeros }

/-- The group with positive zeros only. -/
def Group.foldZeros (g : Group) : Group :=
  { g with entries := g.entries.map Entry.foldZeros }

namespace Segment

/-- The segment with positive zeros only. -/
def foldZeros (s : Segment) : Segment :=
  { s with first := s.first.foldZeros, later := s.later.map Group.foldZeros }

/-- The segments differ in nothing but the signs of zeros. -/
def agrees (s t : Segment) : Bool := s.foldZeros = t.foldZeros

theorem agrees_iff (s t : Segment) : s.agrees t = true ↔ s.foldZeros = t.foldZeros := by
  simp [agrees]

@[simp] theorem agrees_self (s : Segment) : s.agrees s = true := by
  simp [agrees]

end Segment
end Audience
