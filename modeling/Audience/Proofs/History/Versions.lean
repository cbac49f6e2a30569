import Audience.Proofs.History
import Mathlib.Data.List.Nodup

/-!
# A version names one state

Each successful edit in a session takes the next number as its version.  Steps back and forth show
a state again with the version that it has, and an edit after a step back does not give a version
out twice, although the history forgets the states that it discards.

**The past.**  What a history has forgotten is still part of what was seen, so the argument is not
about the snapshots alone.  It keeps a ledger of all states that were ever made, the first one
included: the version of a state is its place in the ledger.  The snapshots of the history are some
of the ledger in its order, so a step back or forth shows something that is in the ledger.

**Logs.**  `Editing.Numbered` says what the log of a session looks like beside the ledger, and what
is said of versions follows from it by induction on the log.

**Results.**
* `History.Recorded.follows`: one action shows a state of the ledger or adds one to it.
* `History.Recorded.run`: so the log of any session is numbered.
* `Editing.Numbered.increasing`: an edit returns a version above all that were seen before it.
* `History.version_identifies`: in a session, a version names one state.
-/

namespace Audience

universe u v

section Logs

variable {ε : Type v} {α : Type u}

namespace Editing

/-- What is seen is a state with its version. -/
def View.snapshot (seen : View α) : Snapshot α := ⟨seen.version, seen.current⟩

/-- The answer to an edit that succeeded. -/
def Answer.isSuccess : Answer ε → Bool
  | .edited (.ok _) => true
  | _ => false

/-- The version that an answer gives. -/
def Answer.version? : Answer ε → Option Nat
  | .edited (.ok version) => some version
  | .edited (.error _) => none
  | .moved version => version

/-- A log that starts with a ledger of states and ends with another one.  An edit that succeeds adds
a state, whose version is its place.  Everything else shows a state that is there already. -/
inductive Numbered :
    List (Snapshot α) → List (Answer ε × View α) → List (Snapshot α) → Prop
  | nil (made : List (Snapshot α)) :
      Numbered made [] made
  | shown {made all : List (Snapshot α)} {answer : Answer ε} {seen : View α}
      {log : List (Answer ε × View α)} :
      answer.isSuccess = false →
      (∀ version, answer.version? = some version → version = seen.version) →
      seen.snapshot ∈ made →
      Numbered made log all →
      Numbered made ((answer, seen) :: log) all
  | edited {made all : List (Snapshot α)} {seen : View α} {log : List (Answer ε × View α)} :
      seen.version = made.length →
      Numbered (made ++ [seen.snapshot]) log all →
      Numbered made ((.edited (.ok made.length), seen) :: log) all

/-- The version of each state in a ledger is its place. -/
def IsLedger (made : List (Snapshot α)) : Prop :=
  made.map Snapshot.version = List.range made.length

theorem IsLedger.concat
    {made : List (Snapshot α)} (h : IsLedger made) {s : Snapshot α}
    (hs : s.version = made.length) :
    IsLedger (made ++ [s]) := by
  rw [IsLedger, List.map_append, h, List.length_append, List.length_singleton, List.range_succ,
    List.map_singleton, hs]

theorem IsLedger.version_lt
    {made : List (Snapshot α)} (h : IsLedger made) {s : Snapshot α} (hs : s ∈ made) :
    s.version < made.length := by
  have hmem : s.version ∈ made.map Snapshot.version := List.mem_map_of_mem hs
  rw [h] at hmem
  exact List.mem_range.mp hmem

theorem IsLedger.increasing
    {made : List (Snapshot α)} (h : IsLedger made) :
    made.Pairwise fun s s' => s.version < s'.version := by
  rw [← List.pairwise_map, h]
  exact List.pairwise_lt_range

/-- In a ledger a version names one state. -/
theorem IsLedger.eq_of_version
    {made : List (Snapshot α)} (h : IsLedger made) {s s' : Snapshot α} (hs : s ∈ made)
    (hs' : s' ∈ made) (heq : s.version = s'.version) :
    s = s' := by
  have hnodup : (made.map Snapshot.version).Nodup := by
    rw [h]
    exact List.nodup_range
  exact List.inj_on_of_nodup_map hnodup hs hs' heq

namespace Numbered

variable {made all : List (Snapshot α)} {log : List (Answer ε × View α)}

/-- Nothing is ever struck from the ledger. -/
theorem subset
    (h : Numbered made log all) :
    made ⊆ all := by
  induction h with
  | nil made =>
      exact fun _ hs => hs
  | shown _ _ _ _ ih =>
      exact ih
  | edited _ _ ih =>
      exact fun _ hs => ih (List.mem_append_left _ hs)

/-- Whatever is seen is in the ledger. -/
theorem seen
    (h : Numbered made log all) :
    ∀ x ∈ log, x.2.snapshot ∈ all := by
  induction h with
  | nil made =>
      exact fun _ hx => nomatch hx
  | shown _ _ hseen hrest ih =>
      exact List.forall_mem_cons.mpr ⟨hrest.subset hseen, ih⟩
  | edited _ hrest ih =>
      exact List.forall_mem_cons.mpr ⟨hrest.subset List.mem_concat_self, ih⟩

/-- The version that an answer gives is the one that is seen after it. -/
theorem answered
    (h : Numbered made log all) :
    ∀ x ∈ log, ∀ version, x.1.version? = some version → version = x.2.version := by
  induction h with
  | nil made =>
      exact fun _ hx => nomatch hx
  | shown _ hversion _ _ ih =>
      exact List.forall_mem_cons.mpr ⟨hversion, ih⟩
  | edited hversion _ ih =>
      refine List.forall_mem_cons.mpr ⟨?_, ih⟩
      rintro _ ⟨⟩
      exact hversion.symm

/-- Only edits that succeed add to the ledger. -/
theorem length
    (h : Numbered made log all) :
    all.length = made.length + log.countP fun x => x.1.isSuccess := by
  induction h with
  | nil made =>
      rfl
  | shown hanswer _ _ _ ih =>
      rw [ih, List.countP_cons_of_neg (by simp [hanswer])]
  | edited _ _ ih =>
      rw [ih, List.length_append, List.length_singleton, List.countP_cons_of_pos rfl]
      omega

/-- An edit returns a version that is not in the ledger yet. -/
theorem length_le
    (h : Numbered made log all) :
    ∀ x ∈ log, ∀ version, x.1 = .edited (.ok version) → made.length ≤ version := by
  induction h with
  | nil made =>
      exact fun _ hx => nomatch hx
  | shown hanswer _ _ _ ih =>
      refine List.forall_mem_cons.mpr ⟨?_, ih⟩
      rintro version rfl
      cases hanswer
  | edited _ _ ih =>
      refine List.forall_mem_cons.mpr ⟨?_, ?_⟩
      · rintro version ⟨⟩
        exact Nat.le_refl _
      · intro x hx version hedit
        have hle := ih x hx version hedit
        rw [List.length_append] at hle
        exact Nat.le_trans (Nat.le_add_right _ _) hle

/-- An edit returns a version above all that were seen before it. -/
theorem increasing
    (h : Numbered made log all) (hledger : IsLedger made) :
    log.Pairwise fun x y => ∀ version, y.1 = .edited (.ok version) → x.2.version < version := by
  induction h with
  | nil made =>
      exact List.Pairwise.nil
  | shown _ _ hseen hrest ih =>
      refine List.pairwise_cons.mpr ⟨?_, ih hledger⟩
      intro y hy version hedit
      exact Nat.lt_of_lt_of_le (hledger.version_lt hseen) (hrest.length_le y hy version hedit)
  | edited hversion hrest ih =>
      have hnext := hledger.concat (s := View.snapshot _) hversion
      refine List.pairwise_cons.mpr ⟨?_, ih hnext⟩
      intro y hy version hedit
      exact Nat.lt_of_lt_of_le (hnext.version_lt List.mem_concat_self)
        (hrest.length_le y hy version hedit)

end Numbered

end Editing

end Logs

namespace History

open Editing

variable {α : Type u} {ε : Type v}

/-- The snapshots of a history are some of a ledger in its order, and the next version is the next
place in it. -/
structure Recorded (made : List (Snapshot α)) (h : History α) : Prop where
  ledger : IsLedger made
  next : h.nextVersion = made.length
  sublist : h.snapshots.Sublist made

section Operations

variable {made : List (Snapshot α)} {h h' : History α}

theorem recorded_start
    (state : α) (depth : Nat) :
    (start state depth).Recorded [⟨0, state⟩] :=
  ⟨rfl, rfl, List.Sublist.refl _⟩

/-- The present state is in the ledger. -/
theorem Recorded.present_mem
    (hmade : h.Recorded made) :
    h.present ∈ made :=
  hmade.sublist.subset (List.get_mem _ _)

theorem present_push
    (state : α) (h : History α) :
    (h.push state).present = ⟨h.nextVersion, state⟩ :=
  congrArg Editor.present (toEditor_push state h)

/-- A new state takes the next place in the ledger, whatever the history forgets. -/
theorem Recorded.push
    (hmade : h.Recorded made) (state : α) :
    (h.push state).Recorded (made ++ [⟨made.length, state⟩]) where
  ledger := hmade.ledger.concat rfl
  next := by
    rw [List.length_append, ← hmade.next]
    rfl
  sublist := by
    -- What an edit drops, at the front and after the cursor, stays in the ledger.
    rw [← hmade.next]
    refine (List.drop_sublist _ _).trans ?_
    exact ((List.take_sublist _ _).trans hmade.sublist).append_right _

/-- A history with the same snapshots has the same ledger. -/
theorem Recorded.of_snapshots
    (hmade : h.Recorded made) (hsnapshots : h'.snapshots = h.snapshots)
    (hnext : h'.nextVersion = h.nextVersion) :
    h'.Recorded made where
  ledger := hmade.ledger
  next := hnext.trans hmade.next
  sublist := hsnapshots ▸ hmade.sublist

theorem nextVersion_undo
    (hu : h.undo? = some h') :
    h'.nextVersion = h.nextVersion := by
  unfold undo? at hu
  split at hu
  · cases hu
    rfl
  · cases hu

theorem nextVersion_redo
    (hr : h.redo? = some h') :
    h'.nextVersion = h.nextVersion := by
  unfold redo? at hr
  split at hr
  · cases hr
    rfl
  · cases hr

theorem Recorded.undo
    (hmade : h.Recorded made) (hu : h.undo? = some h') :
    h'.Recorded made :=
  hmade.of_snapshots (snapshots_undo hu).1 (nextVersion_undo hu)

theorem Recorded.redo
    (hmade : h.Recorded made) (hr : h.redo? = some h') :
    h'.Recorded made :=
  hmade.of_snapshots (snapshots_redo hr).1 (nextVersion_redo hr)

end Operations

section Sessions

variable {made : List (Snapshot α)} {h : History α}

/-- What an action answers and leaves beside a ledger: it shows a state of the ledger, or it is an
edit that succeeds, and adds the state that it shows. -/
inductive Follows (made : List (Snapshot α)) : Answer ε × History α → Prop
  | shown {answer : Answer ε} {h : History α} :
      answer.isSuccess = false →
      (∀ version, answer.version? = some version → version = h.version) →
      h.Recorded made →
      Follows made (answer, h)
  | edited {h : History α} :
      h.version = made.length →
      h.Recorded (made ++ [h.view.snapshot]) →
      Follows made (.edited (.ok made.length), h)

theorem Recorded.follows_apply
    (hmade : h.Recorded made) (edit : α → Except ε α) :
    Follows made (editing.perform h (.apply edit)) := by
  cases hedit : edit h.current with
  | error e =>
      have happly : h.apply edit = .error e := apply_error hedit
      simp only [Editing.perform, editing, happly]
      refine .shown rfl ?_ hmade
      rintro _ ⟨⟩
  | ok state =>
      have happly : h.apply edit = .ok (made.length, h.push state) := by
        simp only [apply, hedit, Except.map, hmade.next]
      have hpresent : (h.push state).view.snapshot = ⟨made.length, state⟩ :=
        (present_push state h).trans (by rw [hmade.next])
      simp only [Editing.perform, editing, happly]
      refine .edited (congrArg Snapshot.version hpresent) ?_
      rw [hpresent]
      exact hmade.push state

theorem Recorded.follows_move
    (hmade : h.Recorded made) {next : Option (History α)}
    (hnext : ∀ h', next = some h' → h'.Recorded made) :
    Follows (ε := ε) made (editing.move h next) := by
  cases next with
  | none =>
      refine .shown rfl ?_ hmade
      rintro _ ⟨⟩
  | some h' =>
      refine .shown rfl ?_ (hnext h' rfl)
      rintro _ ⟨⟩
      rfl

/-- One action follows the ledger. -/
theorem Recorded.follows
    (hmade : h.Recorded made) (a : Action ε α) :
    Follows made (editing.perform h a) := by
  cases a with
  | apply edit =>
      exact hmade.follows_apply edit
  | undo =>
      exact hmade.follows_move fun _ hu => hmade.undo hu
  | redo =>
      exact hmade.follows_move fun _ hr => hmade.redo hr

/-- The log of any session is numbered, and the history at its end is recorded again. -/
theorem Recorded.run
    (hmade : h.Recorded made) (actions : List (Action ε α)) :
    ∃ log last all, editing.run h actions = (log, last) ∧
      Numbered made log all ∧ last.Recorded all := by
  -- The ledger grows along the session, so the rest starts with another one.
  induction actions generalizing h made with
  | nil =>
      exact ⟨[], h, made, rfl, .nil made, hmade⟩
  | cons a rest ih =>
      have hstep := hmade.follows a
      rcases hperform : editing.perform h a with ⟨answer, h'⟩
      rw [hperform] at hstep
      have hcons : ∀ log last, editing.run h' rest = (log, last) →
          editing.run h (a :: rest) = ((answer, h'.view) :: log, last) := by
        intro log last hrun
        simp only [Editing.run, hperform, hrun]
        rfl
      cases hstep with
      | shown hanswer hversion hmade' =>
          obtain ⟨log, last, all, hrun, hlog, hlast⟩ := ih hmade'
          exact ⟨_, last, all, hcons log last hrun,
            .shown hanswer hversion hmade'.present_mem hlog, hlast⟩
      | edited hversion hmade' =>
          obtain ⟨log, last, all, hrun, hlog, hlast⟩ := ih hmade'
          exact ⟨_, last, all, hcons log last hrun, .edited hversion hlog, hlast⟩

end Sessions

/-- In any session, the version that is returned is the one that is seen next, and the version that
an edit returns is greater than every version that was seen before.  The versions of the snapshots
increase.  What is seen with one version at two moments is one state.  No version exceeds the
number of edits that succeeded. -/
theorem version_identifies
    (state : α) (depth : Nat) (actions : List (Action ε α)) :
    ∃ log h, editing.run (start state depth) actions = (log, h) ∧
      (∀ x ∈ log, ∀ version, x.1.version? = some version → version = x.2.version) ∧
      (∀ x ∈ log, ∀ version, x.1 = .edited (.ok version) →
        (start state depth).version < version) ∧
      (log.Pairwise fun x y => ∀ version, y.1 = .edited (.ok version) →
        x.2.version < version) ∧
      (h.snapshots.Pairwise fun s s' => s.version < s'.version) ∧
      ∀ seen ∈ (start state depth).view :: log.map Prod.snd,
        seen.version ≤ (log.countP fun x => x.1.isSuccess) ∧
        ∀ seen' ∈ (start state depth).view :: log.map Prod.snd,
          seen.version = seen'.version → seen.current = seen'.current := by
  obtain ⟨log, h, all, hrun, hlog, hlast⟩ := (recorded_start state depth).run actions
  have hledger : ∀ seen ∈ (start state depth).view :: log.map Prod.snd, seen.snapshot ∈ all := by
    refine List.forall_mem_cons.mpr ⟨?_, ?_⟩
    · exact hlog.subset List.mem_cons_self
    · exact List.forall_mem_map.mpr hlog.seen
  refine ⟨log, h, hrun, hlog.answered, ?_, ?_, ?_, ?_⟩
  · exact hlog.length_le
  · exact hlog.increasing rfl
  · exact hlast.ledger.increasing.sublist hlast.sublist
  · intro seen hseen
    constructor
    · have hlt := hlast.ledger.version_lt (hledger seen hseen)
      rw [hlog.length, List.length_singleton] at hlt
      exact Nat.lt_one_add_iff.mp hlt
    · intro seen' hseen' hversion
      have hsame := hlast.ledger.eq_of_version (hledger seen hseen) (hledger seen' hseen') hversion
      exact congrArg Snapshot.state hsame

end History

end Audience
