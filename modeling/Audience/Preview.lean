import Audience.Population

/-!
# Previews of an audience

While a segment is edited its audience is counted again and again, and only the count that
was asked for last is of interest.  Each request gets a ticket.  A count that is finished
is published if its ticket is the last one issued, and discarded otherwise.  The ticket is
looked at again at each chunk of the count, so that an outdated count is given up early, and
once more when the count is finished.

**Publication.**  What is published never goes back: a count replaces the published one
only if its ticket is greater.  `revision` counts the replacements, so that an observer can
tell whether anything has changed since it last looked.

**Results.**
* `Preview.run_of_ne`: a count that is not wanted any more changes nothing.
* `Preview.issued_issue`: tickets are numbered one by one.
-/

namespace Audience

/-- The count of an audience for a ticket. -/
structure Estimate where
  ticket : Nat
  result : Population
deriving DecidableEq

/-- What becomes of a finished count. -/
inductive PreviewOutcome
  | current (estimate : Estimate)
  | superseded (ticket latest : Nat)
deriving DecidableEq

/-- The tickets issued and the estimate published. -/
structure Preview where
  chunkSize : Nat
  issued : Nat
  published : Option Estimate
  revision : Nat
deriving DecidableEq

namespace Preview

/-- No ticket is issued and nothing is published. -/
def start (chunkSize : Nat) : Preview := ⟨chunkSize, 0, none, 0⟩

/-- Issues a ticket. -/
def issue (p : Preview) : Nat × Preview := (p.issued + 1, { p with issued := p.issued + 1 })

/-- The ticket is the last one issued. -/
def isCurrent (p : Preview) (ticket : Nat) : Bool := p.issued == ticket

/-- An estimate may replace the published one. -/
def accepts (p : Preview) (estimate : Estimate) : Bool :=
  match p.published with
  | none => true
  | some old => old.ticket < estimate.ticket

/-- Publishes an estimate if it is newer than the published one. -/
def publish (p : Preview) (estimate : Estimate) : Preview :=
  if p.accepts estimate then
    { p with published := some estimate, revision := p.revision + 1 }
  else p

/-- The result of a count for a ticket, unless the ticket is found to be outdated. -/
def count? (p : Preview) (ticket : Nat) (s : Segment) (customers : List Customer) :
    Option Population :=
  (Population.ofChunks? (fun _ => p.isCurrent ticket) s customers p.chunkSize).filter
    fun _ => p.isCurrent ticket

/-- Counts the audience of a segment for a ticket. -/
def run (p : Preview) (ticket : Nat) (s : Segment) (customers : List Customer) :
    PreviewOutcome × Preview :=
  match p.count? ticket s customers with
  | some result => (.current ⟨ticket, result⟩, p.publish ⟨ticket, result⟩)
  | none => (.superseded ticket p.issued, p)

/-- Issues a ticket and counts for it. -/
def request (p : Preview) (s : Segment) (customers : List Customer) :
    PreviewOutcome × Preview :=
  p.issue.2.run p.issue.1 s customers

theorem run_of_ne {p : Preview} {ticket : Nat} (h : p.issued ≠ ticket) (s : Segment)
    (customers : List Customer) :
    p.run ticket s customers = (.superseded ticket p.issued, p) := by
  have hcount : p.count? ticket s customers = none := by
    simp [count?, isCurrent, h]
  rw [run, hcount]

@[simp] theorem issued_issue (p : Preview) : p.issue.2.issued = p.issued + 1 := rfl

end Preview
end Audience
