import Audience.Preview
import Audience.Proofs.Population

/-!
# The last ticket wins

Tickets can be issued, and counts can be run for any ticket, old, repeated or not yet issued,
in any order, each before the next.

**Invariant.**  The tickets issued so far are those from one up to the last one.  Of the
estimates that were answered, the first one with the greatest ticket is published, and its
ticket was issued.  A count for an outdated ticket changes nothing; a count for the last ticket
either replaces what is published or has the same ticket, and then the older one stays.

**Results.**
* `Preview.run_issued`: a count for the last ticket is not given up, whatever the chunks.
* `Preview.Recounts.perform`: each action preserves the invariant.
* `Preview.last_ticket_wins`: what is issued, answered and published in any sequence of actions.
* `Preview.published_of_current`: what is published after a count that was not outdated.
-/

namespace Audience

/-- The ticket that was counted for. -/
def PreviewOutcome.ticket : PreviewOutcome → Nat
  | current e => e.ticket
  | superseded ticket _ => ticket

/-- The estimate, unless the ticket was outdated. -/
def PreviewOutcome.estimate? : PreviewOutcome → Option Estimate
  | current e => some e
  | superseded _ _ => none

namespace Preview

section Actions

/-- What can be asked of previews. -/
inductive Action
  | issue
  | run (ticket : Nat) (s : Segment) (customers : List Customer)
  | request (s : Segment) (customers : List Customer)

/-- The answers to these actions. -/
inductive Answer
  | issued (ticket : Nat)
  | ran (outcome : PreviewOutcome)
  | requested (outcome : PreviewOutcome)
deriving DecidableEq

/-- The ticket that the action issued. -/
def Answer.ticket? : Answer → Option Nat
  | issued ticket => some ticket
  | ran _ => none
  | requested outcome => some outcome.ticket

/-- The estimate that the action answered. -/
def Answer.estimate? : Answer → Option Estimate
  | issued _ => none
  | ran outcome => outcome.estimate?
  | requested outcome => outcome.estimate?

/-- The tickets issued by actions with these answers. -/
def ticketsOf (answers : List Answer) : List Nat := answers.filterMap Answer.ticket?

/-- The estimates among the answers. -/
def estimatesOf (answers : List Answer) : List Estimate := answers.filterMap Answer.estimate?

def perform (p : Preview) : Action → Answer × Preview
  | .issue => (.issued p.issue.1, p.issue.2)
  | .run ticket s customers =>
      (.ran (p.run ticket s customers).1, (p.run ticket s customers).2)
  | .request s customers => (.requested (p.request s customers).1, (p.request s customers).2)

/-- Performs actions one after another and keeps their answers. -/
def performAll (p : Preview) : List Action → List Answer × Preview
  | [] => ([], p)
  | a :: rest =>
      let (answer, p) := p.perform a
      let (answers, last) := performAll p rest
      (answer :: answers, last)

@[simp] theorem performAll_nil
    (p : Preview) :
    p.performAll [] = ([], p) := rfl

@[simp] theorem performAll_cons
    (p : Preview) (a : Action) (rest : List Action) :
    p.performAll (a :: rest) =
      ((p.perform a).1 :: ((p.perform a).2.performAll rest).1,
        ((p.perform a).2.performAll rest).2) := rfl

end Actions

section Counts

/-- A count for the last ticket gives the result of one pass, and publishes it if it may. -/
theorem run_issued
    (p : Preview) (s : Segment) (customers : List Customer) :
    p.run p.issued s customers =
      (.current ⟨p.issued, Population.of s customers⟩,
        p.publish ⟨p.issued, Population.of s customers⟩) := by
  have hcurrent : p.isCurrent p.issued = true := by
    simp [isCurrent]
  have hcount : p.count? p.issued s customers = some (Population.of s customers) := by
    rw [count?, Population.ofChunks?_of_wanted (fun _ => hcurrent), Population.ofChunks_eq_of]
    simp [hcurrent]
  rw [run, hcount]

theorem outcome_run
    (p : Preview) (ticket : Nat) (s : Segment) (customers : List Customer) :
    (p.run ticket s customers).1 =
      if ticket = p.issued then .current ⟨ticket, Population.of s customers⟩
      else .superseded ticket p.issued := by
  split
  · next h =>
      rw [h, run_issued]
  · next h =>
      rw [run_of_ne (Ne.symm h)]

@[simp] theorem issued_publish
    (p : Preview) (e : Estimate) :
    (p.publish e).issued = p.issued := by
  unfold publish
  split <;> rfl

/-- What is published is replaced by a greater ticket only. -/
theorem published_publish
    (p : Preview) (e : Estimate) :
    (p.publish e).published = match p.published with
      | none => some e
      | some shown => if shown.ticket < e.ticket then some e else some shown := by
  unfold publish accepts
  cases hshown : p.published with
  | none =>
      rfl
  | some shown =>
      by_cases hlt : shown.ticket < e.ticket
      · simp [hlt]
      · simp [hlt, hshown]

/-- Nothing else decides what is published: an outdated count leaves it as it is. -/
theorem run_eq_or
    (p : Preview) (ticket : Nat) (s : Segment) (customers : List Customer) :
    (p.run ticket s customers).2 = p ∨
      ∃ e, (p.run ticket s customers).2 = p.publish e := by
  by_cases h : p.issued = ticket
  · subst h
    rw [run_issued]
    exact Or.inr ⟨_, rfl⟩
  · rw [run_of_ne h]
    exact Or.inl rfl

/-- The ticket of what is published never decreases. -/
theorem ticket_publish
    {p : Preview} {shown : Estimate} (h : p.published = some shown) (e : Estimate) :
    ∃ later, (p.publish e).published = some later ∧ shown.ticket ≤ later.ticket := by
  rw [published_publish, h]
  by_cases hlt : shown.ticket < e.ticket
  · exact ⟨e, if_pos hlt, Nat.le_of_lt hlt⟩
  · exact ⟨shown, if_neg hlt, Nat.le_refl _⟩

theorem ticket_run
    {p : Preview} {shown : Estimate} (h : p.published = some shown) (ticket : Nat) (s : Segment)
    (customers : List Customer) :
    ∃ later, (p.run ticket s customers).2.published = some later ∧
      shown.ticket ≤ later.ticket := by
  rcases run_eq_or p ticket s customers with hsame | ⟨e, hpublish⟩
  · rw [hsame]
    exact ⟨shown, h, Nat.le_refl _⟩
  · rw [hpublish]
    exact ticket_publish h e

theorem ticket_performAll
    {p : Preview} {shown : Estimate} (h : p.published = some shown) (actions : List Action) :
    ∃ later, (p.performAll actions).2.published = some later ∧
      shown.ticket ≤ later.ticket := by
  induction actions generalizing p shown with
  | nil =>
      exact ⟨shown, h, Nat.le_refl _⟩
  | cons a rest ih =>
      have hstep : ∃ next, (p.perform a).2.published = some next ∧
          shown.ticket ≤ next.ticket := by
        cases a with
        | issue =>
            exact ⟨shown, h, Nat.le_refl _⟩
        | run ticket s customers =>
            exact ticket_run h ticket s customers
        | request s customers =>
            exact ticket_run (p := p.issue.2) h p.issue.1 s customers
      obtain ⟨next, hnext, hle⟩ := hstep
      obtain ⟨later, hlater, hle'⟩ := ih hnext
      exact ⟨later, hlater, Nat.le_trans hle hle'⟩

end Counts

section Invariant

/-- The tickets that were issued and the estimates that were answered account for the state. -/
structure Recounts (tickets : List Nat) (answered : List Estimate) (p : Preview) : Prop where
  tickets : tickets = List.range' 1 p.issued
  issued : ∀ shown, p.published = some shown → shown.ticket ≤ p.issued
  first : ∀ shown, p.published = some shown →
    answered.find? (·.ticket = shown.ticket) = some shown
  greatest : ∀ e ∈ answered, ∃ shown, p.published = some shown ∧ e.ticket ≤ shown.ticket

variable {issued : List Nat} {answered : List Estimate} {p : Preview}

theorem recounts_start
    (size : Nat) :
    Recounts [] [] (start size) where
  tickets := rfl
  issued := fun _ h => nomatch h
  first := fun _ h => nomatch h
  greatest := fun _ he => nomatch he

theorem Recounts.issue
    (h : Recounts issued answered p) :
    Recounts (issued ++ [p.issue.1]) answered p.issue.2 where
  tickets := by
    rw [h.tickets, issued_issue, List.range'_concat, Nat.one_mul, Nat.add_comm 1]
    rfl
  issued := fun shown hshown => Nat.le_succ_of_le (h.issued shown hshown)
  first := h.first
  greatest := h.greatest

/-- An estimate for the last ticket is published if it is the first one for this ticket. -/
theorem Recounts.published_publish
    (h : Recounts issued answered p) {e : Estimate} (he : e.ticket = p.issued) :
    (p.publish e).published = (answered ++ [e]).find? (·.ticket = e.ticket) := by
  rw [Preview.published_publish, List.find?_append]
  cases hshown : p.published with
  | none =>
      have hnone : answered.find? (·.ticket = e.ticket) = none := by
        refine List.find?_eq_none.mpr ?_
        intro e' he'
        obtain ⟨_, hsome, _⟩ := h.greatest e' he'
        cases hshown.symm.trans hsome
      simp [hnone]
  | some shown =>
      by_cases hlt : shown.ticket < e.ticket
      · have hnone : answered.find? (·.ticket = e.ticket) = none := by
          refine List.find?_eq_none.mpr ?_
          intro e' he' heq
          obtain ⟨_, hsome, hle⟩ := h.greatest e' he'
          cases hshown.symm.trans hsome
          have := of_decide_eq_true heq
          omega
        simp [hnone, hlt]
      · have hle := h.issued shown hshown
        have heq : shown.ticket = e.ticket := by
          omega
        have hfirst := h.first shown hshown
        rw [heq] at hfirst
        simp [hfirst, hlt]

theorem Recounts.publish
    (h : Recounts issued answered p) {e : Estimate} (he : e.ticket = p.issued) :
    Recounts issued (answered ++ [e]) (p.publish e) := by
  have hpublished := h.published_publish he
  have hmem : ∃ shown, (p.publish e).published = some shown ∧ shown.ticket = e.ticket := by
    cases hfind : (answered ++ [e]).find? (·.ticket = e.ticket) with
    | none =>
        have hlast := List.find?_eq_none.mp hfind e (by simp)
        simp at hlast
    | some shown =>
        exact ⟨shown, hpublished.trans hfind, of_decide_eq_true (List.find?_some hfind :)⟩
  obtain ⟨shown, hshown, hticket⟩ := hmem
  refine ⟨by rw [issued_publish, h.tickets], ?_, ?_, ?_⟩
  · intro shown' hshown'
    cases hshown.symm.trans hshown'
    have heq : shown.ticket = (p.publish e).issued := by
      rw [issued_publish, hticket, he]
    exact Nat.le_of_eq heq
  · intro shown' hshown'
    cases hshown.symm.trans hshown'
    rw [hticket, ← hpublished, hshown]
  · intro e' he'
    refine ⟨shown, hshown, ?_⟩
    rcases List.mem_append.mp he' with he' | he'
    · obtain ⟨old, hold, hle⟩ := h.greatest e' he'
      have := h.issued old hold
      omega
    · rw [List.mem_singleton.mp he']
      omega

theorem Recounts.run
    (h : Recounts issued answered p) (ticket : Nat) (s : Segment) (customers : List Customer) :
    Recounts issued (answered ++ (p.run ticket s customers).1.estimate?.toList)
      (p.run ticket s customers).2 := by
  by_cases hticket : p.issued = ticket
  · subst hticket
    rw [run_issued]
    exact h.publish rfl
  · rw [run_of_ne hticket]
    have hnone : (PreviewOutcome.superseded ticket p.issued).estimate?.toList = [] := rfl
    rwa [hnone, List.append_nil]

theorem ticketsOf_append
    (answers : List Answer) (answer : Answer) :
    ticketsOf (answers ++ [answer]) = ticketsOf answers ++ answer.ticket?.toList := by
  unfold ticketsOf
  rw [List.filterMap_append]
  cases h : answer.ticket? <;> simp [h]

theorem estimatesOf_append
    (answers : List Answer) (answer : Answer) :
    estimatesOf (answers ++ [answer]) = estimatesOf answers ++ answer.estimate?.toList := by
  unfold estimatesOf
  rw [List.filterMap_append]
  cases h : answer.estimate? <;> simp [h]

/-- Each action preserves the invariant. -/
theorem Recounts.perform
    {answers : List Answer} (h : Recounts (ticketsOf answers) (estimatesOf answers) p) (a : Action) :
    Recounts (ticketsOf (answers ++ [(p.perform a).1])) (estimatesOf (answers ++ [(p.perform a).1]))
      (p.perform a).2 := by
  rw [ticketsOf_append, estimatesOf_append]
  cases a with
  | issue =>
      have hnone : (p.perform .issue).1.estimate?.toList = [] := rfl
      rw [hnone, List.append_nil]
      exact h.issue
  | run ticket s customers =>
      have hnone : (p.perform (.run ticket s customers)).1.ticket?.toList = [] := rfl
      rw [hnone, List.append_nil]
      exact h.run ticket s customers
  | request s customers =>
      have hticket : (p.perform (.request s customers)).1.ticket? = some p.issue.1 := by
        show some (p.issue.2.run p.issue.2.issued s customers).1.ticket = _
        rw [run_issued]
        rfl
      rw [hticket]
      exact h.issue.run p.issue.1 s customers

/-- Any sequence of actions preserves it. -/
theorem Recounts.performAll
    {answers : List Answer} (h : Recounts (ticketsOf answers) (estimatesOf answers) p)
    (actions : List Action) :
    Recounts (ticketsOf (answers ++ (p.performAll actions).1))
      (estimatesOf (answers ++ (p.performAll actions).1)) (p.performAll actions).2 := by
  induction actions generalizing answers p with
  | nil =>
      rwa [performAll_nil, List.append_nil]
  | cons a rest ih =>
      have hrest := ih (h.perform a)
      rwa [List.append_assoc] at hrest

theorem recounts_performAll
    {size : Nat} {actions : List Action} {answers : List Answer}
    (hrun : (start size).performAll actions = (answers, p)) :
    Recounts (ticketsOf answers) (estimatesOf answers) p := by
  have hstart : Recounts (ticketsOf []) (estimatesOf []) (start size) := recounts_start size
  have hall := hstart.performAll actions
  rwa [hrun] at hall

end Invariant

/-- In any sequence of actions the tickets one, two, three, … are issued.  After it, with the
last ticket that was issued, a count for a ticket is answered with the result of one pass over
its own customers if its ticket is this last one.  Otherwise it is answered as superseded and
changes nothing.  The ticket of what is published was issued and never decreases.  A request is
always answered with an estimate for the next ticket, which is published. -/
theorem last_ticket_wins
    (size : Nat) (actions : List Action) :
    ∃ answers p, (start size).performAll actions = (answers, p) ∧
      ticketsOf answers = List.range' 1 p.issued ∧
      (∀ shown, p.published = some shown → shown.ticket ≤ p.issued ∧
        ∀ more, ∃ later, (p.performAll more).2.published = some later ∧
          shown.ticket ≤ later.ticket) ∧
      ∀ (s : Segment) (customers : List Customer),
        (∀ ticket,
          (p.run ticket s customers).1 =
            (if ticket = p.issued then .current ⟨ticket, Population.of s customers⟩
              else .superseded ticket p.issued) ∧
          (ticket ≠ p.issued → (p.run ticket s customers).2 = p)) ∧
        ∃ p', p.request s customers =
            (.current ⟨p.issued + 1, Population.of s customers⟩, p') ∧
          p'.published = some ⟨p.issued + 1, Population.of s customers⟩ := by
  rcases hrun : (start size).performAll actions with ⟨answers, p⟩
  have h := recounts_performAll hrun
  refine ⟨answers, p, rfl, h.tickets, ?_, ?_⟩
  · intro shown hshown
    exact ⟨h.issued shown hshown, ticket_performAll hshown⟩
  · intro s customers
    refine ⟨?_, ?_⟩
    · intro ticket
      refine ⟨outcome_run p ticket s customers, ?_⟩
      intro hne
      rw [run_of_ne (Ne.symm hne)]
    · refine ⟨_, run_issued p.issue.2 s customers, ?_⟩
      rw [published_publish]
      cases hshown : p.issue.2.published with
      | none =>
          rfl
      | some shown =>
          have hlt : shown.ticket < p.issued + 1 := Nat.lt_succ_of_le (h.issued shown hshown)
          exact if_pos hlt

/-- What is published after a count that was not outdated has the ticket of the count.  It is the
first estimate that was ever answered for this ticket: this one, unless the ticket was counted for
before.  So it is this very estimate exactly if the first count for the ticket had the same
result. -/
theorem published_of_current
    {size ticket : Nat} {actions : List Action} {answers : List Answer} {p : Preview}
    {s : Segment} {customers : List Customer} {e : Estimate}
    (hrun : (start size).performAll actions = (answers, p))
    (hcurrent : (p.run ticket s customers).1 = .current e) :
    e = ⟨ticket, Population.of s customers⟩ ∧
      ∃ shown, (p.run ticket s customers).2.published = some shown ∧ shown.ticket = ticket ∧
        (estimatesOf answers ++ [e]).find? (·.ticket = ticket) = some shown ∧
        (shown = e ↔ ∀ earlier, (estimatesOf answers).find? (·.ticket = ticket) = some earlier →
          earlier.result = e.result) := by
  have h := recounts_performAll hrun
  have hticket : ticket = p.issued := by
    rw [outcome_run] at hcurrent
    split at hcurrent
    · next hlast =>
        exact hlast
    · cases hcurrent
  subst hticket
  rw [run_issued] at hcurrent ⊢
  cases hcurrent
  refine ⟨rfl, ?_⟩
  have hpublished := h.published_publish (e := ⟨p.issued, Population.of s customers⟩) rfl
  rw [hpublished, List.find?_append]
  cases hfind : (estimatesOf answers).find? (·.ticket = p.issued) with
  | none =>
      exact ⟨⟨p.issued, Population.of s customers⟩, by simp, rfl, by simp, by simp⟩
  | some earlier =>
      have hearlier : earlier.ticket = p.issued := of_decide_eq_true (List.find?_some hfind :)
      refine ⟨earlier, rfl, hearlier, rfl, ?_⟩
      constructor
      · rintro rfl _ ⟨⟩
        rfl
      · intro hresult
        have hsame := hresult earlier rfl
        cases earlier
        cases hearlier
        cases hsame
        rfl

/-- A ticket was issued and counted for, while the list of customers was still empty. -/
def countedNobody : List Action := [.issue, .run 1 default []]

/-- A second count for the ticket, now with a customer, leaves the first estimate published. -/
theorem published_of_current_again :
    (start 1).performAll countedNobody =
        ([.issued 1, .ran (.current ⟨1, Population.nobody⟩)],
          ⟨1, 1, some ⟨1, Population.nobody⟩, 1⟩) ∧
      ((start 1).performAll countedNobody).2.run 1 default [default] =
        (.current ⟨1, 1, 1, [""]⟩, ⟨1, 1, some ⟨1, Population.nobody⟩, 1⟩) ∧
      ∃ shown, shown ≠ (⟨1, 1, 1, [""]⟩ : Estimate) ∧ shown.ticket = 1 ∧
        (((start 1).performAll countedNobody).2.run 1 default [default]).2.published =
          some shown := by
  have hrun : (start 1).performAll countedNobody =
      ([.issued 1, .ran (.current ⟨1, Population.nobody⟩)],
        ⟨1, 1, some ⟨1, Population.nobody⟩, 1⟩) := by
    decide +kernel
  have hcurrent : (((start 1).performAll countedNobody).2.run 1 default [default]).1 =
      .current ⟨1, 1, 1, [""]⟩ := by
    decide +kernel
  refine ⟨hrun, by decide +kernel, ?_⟩
  obtain ⟨_, shown, hshown, hticket, _, hfirst⟩ := published_of_current rfl hcurrent
  refine ⟨shown, ?_, hticket, hshown⟩
  intro hsame
  have hresult := hfirst.mp hsame ⟨1, Population.nobody⟩ (by decide +kernel)
  exact absurd hresult (by decide)

/-- So it may happen, also where tickets are only issued and counted for, that the answer of a
count is not what is published after it. -/
theorem not_published_of_current :
    ¬ ∀ (size ticket : Nat) (actions : List Action) (s : Segment) (customers : List Customer)
        (e : Estimate),
      (∀ a ∈ actions, ∀ s customers, a ≠ .request s customers) →
      (((start size).performAll actions).2.run ticket s customers).1 = .current e →
        (((start size).performAll actions).2.run ticket s customers).2.published = some e := by
  intro h
  have hpublished := h 1 1 countedNobody default [default] ⟨1, 1, 1, [""]⟩ (by simp [countedNobody])
    (by decide +kernel)
  exact absurd hpublished (by decide +kernel)

end Preview

end Audience
