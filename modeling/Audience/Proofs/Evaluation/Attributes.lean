import Audience.Proofs.Condition.Composed
import Audience.Proofs.Evaluation

/-!
# What a segment sees of a customer

A segment sees a customer through its active conditions only, and an active condition sees
the attribute at its field only.  A missing attribute makes a condition false, whatever its
operator, and nothing negates a condition.

**More attributes.**  So a customer who is given further attributes stays in every segment.

**Other attributes.**  Customers with the same attributes at the fields of the active
conditions are in the segment together or not at all.

**Results.**
* `Condition.admits_of_within`: a condition that holds keeps holding with more attributes.
* `Segment.admits_of_conditions`: a segment sees a customer through its active conditions.
* `Segment.admits_of_attributes`: missing attributes only exclude, and others do not matter.
-/

namespace Audience

/-- The other customer has all attributes of this one, with the same values. -/
def Customer.Within (customer other : Customer) : Prop :=
  ∀ field v, customer.get? field = some v → other.get? field = some v

/-- At the fields of the segment's active conditions both customers have the same attributes,
or none. -/
def Segment.Alike (s : Segment) (customer other : Customer) : Prop :=
  ∀ g ∈ s.groups, ∀ c ∈ g.conditions, other.get? c.field = customer.get? c.field

variable {customer other : Customer}

theorem Segment.Alike.symm
    {s : Segment} (h : s.Alike customer other) :
    s.Alike other customer :=
  fun g hg c hc => (h g hg c hc).symm

namespace Condition

/-- A condition sees the attribute at its field only. -/
theorem admits_congr
    {c : Condition} (h : other.get? c.field = customer.get? c.field) :
    c.admits other = c.admits customer := by
  unfold Condition.admits
  rw [h]

/-- A condition that holds has its attribute, so it keeps holding with more attributes. -/
theorem admits_of_within
    {c : Condition} (h : customer.Within other) (hc : c.admits customer = true) :
    c.admits other = true := by
  cases hget : customer.get? c.field with
  | none =>
      rw [admits_of_get?_eq_none hget] at hc
      cases hc
  | some v =>
      have hother : other.get? c.field = customer.get? c.field := by
        rw [hget]
        exact h c.field v hget
      rw [admits_congr hother]
      exact hc

end Condition

section Conditions

theorem Entry.admits_of_condition
    {e : Entry}
    (h : ∀ c, e.condition? = some c → c.admits customer = true → c.admits other = true)
    (he : e.admits customer = true) :
    e.admits other = true := by
  cases e with
  | active c =>
      exact h c rfl he
  | quarantined q =>
      cases he

theorem Group.admits_of_conditions
    {g : Group}
    (h : ∀ c ∈ g.conditions, c.admits customer = true → c.admits other = true)
    (hg : g.admits customer = true) :
    g.admits other = true := by
  have hentries : ∀ e ∈ g.entries, e.admits customer = true → e.admits other = true := by
    intro e he
    refine Entry.admits_of_condition ?_
    intro c hc
    exact h c (List.mem_filterMap.mpr ⟨e, he, hc⟩)
  exact Entry.all_admits_mono (List.forall₂_same.mpr hentries) hg

/-- A segment sees a customer through its active conditions only: if those that hold for one
customer hold for another, then the other one is in the segment if the first one is. -/
theorem Segment.admits_of_conditions
    {s : Segment}
    (h : ∀ g ∈ s.groups, ∀ c ∈ g.conditions,
      c.admits customer = true → c.admits other = true)
    (hs : s.admits customer = true) :
    s.admits other = true := by
  have hgroups : ∀ g ∈ s.groups, (g.combinator = .or → g.combinator = .or) ∧
      (g.admits customer = true → g.admits other = true) := by
    intro g hg
    exact ⟨id, Group.admits_of_conditions (h g hg)⟩
  exact Segment.admits_mono (List.forall₂_same.mpr hgroups) hs

theorem Segment.admits_of_alike
    {s : Segment} (h : s.Alike customer other) (hs : s.admits customer = true) :
    s.admits other = true := by
  refine Segment.admits_of_conditions ?_ hs
  intro g hg c hc hadmits
  rw [Condition.admits_congr (h g hg c hc)]
  exact hadmits

end Conditions

namespace Segment

/-- A customer with more attributes is in every segment that the customer with fewer is in, and
attributes at other fields than those of the active conditions do not matter at all. -/
theorem admits_of_attributes
    (s : Segment) (customer other : Customer) :
    (customer.Within other → s.admits customer = true → s.admits other = true) ∧
      (s.Alike customer other → (s.admits customer = true ↔ s.admits other = true)) := by
  constructor
  · intro hwithin
    exact admits_of_conditions fun _ _ _ _ => Condition.admits_of_within hwithin
  · intro halike
    exact ⟨admits_of_alike halike, admits_of_alike halike.symm⟩

/-- The field "x" does not equal "a" and an entry was set aside, or "x" does not equal "b". -/
def notEqualOrAside : Segment where
  first := ⟨default, .and,
    [.active (Condition.comparingText .notEquals "a"),
      .quarantined ⟨default, none, .emptySegment⟩], none⟩
  later := [⟨default, .or, [.active (Condition.comparingText .notEquals "b")], none⟩]

/-- A customer whose only attribute is "c" at the field "x", and another one who has an
attribute at "y" as well. -/
theorem admits_of_attributes_notEqualOrAside :
    let customer := (Customer.bare "p").set "x" (.text "c")
    let other := ((Customer.bare "q").set "x" (.text "c")).set "y" (.boolean true)
    customer.Within other ∧ notEqualOrAside.Alike customer other ∧
      notEqualOrAside.admits customer = true ∧ notEqualOrAside.admits other = true := by
  intro customer other
  have hwithin : customer.Within other := by
    intro field v hv
    by_cases hx : field = "x"
    · subst hx
      exact hv
    · rw [Customer.get?_set_of_ne hx] at hv
      cases hv
  have halike : notEqualOrAside.Alike customer other := by
    intro g hg c hc
    have hfield : c.field = "x" := by
      simp only [notEqualOrAside, groups, List.mem_cons, List.not_mem_nil, or_false] at hg
      rcases hg with rfl | rfl <;> cases List.mem_singleton.mp hc <;> rfl
    rw [hfield]
    rfl
  have hadmits : notEqualOrAside.admits customer = true := by
    decide +kernel
  obtain ⟨hmore, _⟩ := admits_of_attributes notEqualOrAside customer other
  exact ⟨hwithin, halike, hadmits, hmore hwithin hadmits⟩

end Segment

end Audience
