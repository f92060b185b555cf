import PortalCertificate.Core.Pin
import PortalCertificate.Library.Trace

/-!
# The course of a prompt

What a PIN prompt is for, without the coordinator around it: an automaton
whose phases are where a prompt can be, and whose histories are what can
happen to it, newest first.  The statements about a single prompt are
proved of these histories.
-/

namespace PortalCertificate.Core.PromptCourse

open PortalCertificate.Core.Coordinator
open PortalCertificate.Core.Pin
open PortalCertificate.Library.Der (Octets)
open PortalCertificate.Library.Trace

/-! ## Phases -/

/-- How far a prompt has got. -/
inductive Phase where
  | unborn
  | refused
  | queued
  /-- Active, and about to refresh, to be shown or to be answered. -/
  | deciding
  | refreshing
  | refreshed
  | waiting
  /-- Waiting, with a page for the attempt that follows. -/
  | holding
  | loggingIn
  | loginRefreshing (result : LoginResult)
  | loggedIn (result : LoginResult)
  /-- A login has ended and is about to be judged. -/
  | landed (succeeded : Bool)
  /-- Finished, and `done` has yet to run. -/
  | answering (outcome : CertificatePinOutcome) (succeeded : Bool)
  | answered
  | freed
  deriving DecidableEq

namespace Phase

/-- A worker refreshes the flags, or has just done so. -/
def refreshes : Phase → Bool
  | refreshing | refreshed => true
  | _ => false

/-- A worker logs in, or has just done so. -/
def logsIn : Phase → Bool
  | loggingIn | loginRefreshing _ | loggedIn _ => true
  | _ => false

/-- A worker has been started and has not returned. -/
def working : Phase → Bool
  | refreshing | loggingIn | loginRefreshing _ => true
  | _ => false

/-- The prompt has an interaction. -/
def onScreen : Phase → Bool
  | waiting | holding | loggingIn | loginRefreshing _ | loggedIn _
  | landed _ => true
  | _ => false

/-- The prompt is finished, or has never been. -/
def finished : Phase → Bool
  | unborn | refused | answering _ _ | answered | freed => true
  | _ => false

/-- The prompt is the active one. -/
def isActive : Phase → Bool
  | unborn | refused | queued | answering _ _ | answered | freed => false
  | _ => true

/-- No attempt is being made, or has been made without a retry. -/
def idles : Phase → Bool
  | queued | deciding | refreshing | refreshed | waiting | holding => true
  | _ => false

/-- `done` has run. -/
def isDone : Phase → Bool
  | refused | answered | freed => true
  | _ => false

/-- The reference that the prompt is made with. -/
def ownsItself : Phase → Bool
  | unborn | refused | answered | freed => false
  | _ => true

/-- No worker is in flight, and the prompt can be answered. -/
def answerable : Phase → Bool
  | queued | deciding | waiting | landed _ => true
  | _ => false

/-- A login has succeeded and the prompt knows. -/
def succeeded : Phase → Bool
  | landed succeeded | answering _ succeeded => succeeded
  | _ => false

end Phase

/-! ## Histories -/

/-- What can be given to C_Login. -/
def PinFits (protectedPath : Bool) : Option Octets → Prop
  | none => protectedPath = true
  | some pin => protectedPath = false ∧ pin ≠ [] ∧ pin.length ≤ 511

/-- The event is an attempt to log in. -/
def isAttempt : Event → Bool
  | .attempted _ _ => true
  | _ => false

/-- How many attempts there have been. -/
def attempts (history : List Event) : Nat := history.countP isAttempt

theorem attempts_attempted
    (id : Nat) (pin : Option Octets) (history : List Event) :
    attempts (.attempted id pin :: history) = attempts history + 1 :=
  List.countP_cons_of_pos rfl

/-- What `done` and `abandon` add to the history. -/
def doneEvents
    (login : PinLogin) (id : Nat) (outcome : CertificatePinOutcome)
    (succeeded : Bool) : List Event :=
  (if succeeded && outcome ≠ .ok && login.abandon then [.abandoned id]
    else []) ++ [.done id outcome]

/-- What the release of the last reference adds to the history. -/
def freeEvents (login : PinLogin) (id : Nat) : List Event :=
  if login.loginDataFree then [.loginDataFreed id] else []

/-- The histories that a prompt can have at each phase. -/
inductive Course (login : PinLogin) (protectedPath : Bool) (id : Nat) :
    Phase → List Event → Prop where
  | requested :
      Course login protectedPath id .queued [.requested id]
  | begun :
      Course login protectedPath id .deciding [.started id, .requested id]
  | started {history : List Event}
      (before : Course login protectedPath id .queued history) :
      Course login protectedPath id .deciding (.started id :: history)
  | refreshStarted {history : List Event}
      (before : Course login protectedPath id .deciding history) :
      Course login protectedPath id .refreshing
        (.refreshStarted id :: history)
  | refreshReturned {history : List Event}
      (before : Course login protectedPath id .refreshing history) :
      Course login protectedPath id .refreshed
        (.workerReturned id :: history)
  | refreshEnded {history : List Event}
      (before : Course login protectedPath id .refreshed history) :
      Course login protectedPath id .deciding history
  | shown {history : List Event}
      (before : Course login protectedPath id .deciding history) :
      Course login protectedPath id .waiting history
  | held {history : List Event} {secret : Nat}
      (before : Course login protectedPath id .waiting history)
      (typed : protectedPath = false) :
      Course login protectedPath id .holding (.held id secret :: history)
  | attempted {history : List Event} {phase : Phase} {pin : Option Octets}
      (before : Course login protectedPath id phase history)
      (ready : phase = if protectedPath then .waiting else .holding)
      (fits : PinFits protectedPath pin) :
      Course login protectedPath id .loggingIn
        (.attempted id pin :: history)
  | loginReturned {history : List Event} {result : LoginResult}
      (before : Course login protectedPath id .loggingIn history) :
      Course login protectedPath id (.loginRefreshing result)
        (.loginReturned id result :: history)
  | loginRefreshed {history : List Event} {result : LoginResult}
      (before :
        Course login protectedPath id (.loginRefreshing result) history) :
      Course login protectedPath id (.loggedIn result)
        (.workerReturned id :: history)
  | landed {history : List Event} {result : LoginResult}
      (before : Course login protectedPath id (.loggedIn result) history) :
      Course login protectedPath id (.landed (result = .ok ())) history
  | retried {history : List Event}
      (before : Course login protectedPath id (.landed false) history)
      (typed : protectedPath = false)
      (few : attempts history < pinMaxAttempts) :
      Course login protectedPath id .waiting history
  | answering {history : List Event} {phase : Phase}
      {outcome : CertificatePinOutcome}
      (before : Course login protectedPath id phase history)
      (ready : phase.answerable = true) :
      Course login protectedPath id (.answering outcome phase.succeeded)
        history
  | done {history : List Event} {outcome : CertificatePinOutcome}
      {succeeded : Bool}
      (before :
        Course login protectedPath id (.answering outcome succeeded)
          history) :
      Course login protectedPath id .answered
        (doneEvents login id outcome succeeded ++ history)
  | freed {history : List Event}
      (before : Course login protectedPath id .answered history) :
      Course login protectedPath id .freed (freeEvents login id ++ history)

/-! ## What histories are like -/

/-- Whether an event starts or ends a worker. -/
def workerEvent : Event → Option Bool
  | .refreshStarted _ | .attempted _ _ => some true
  | .workerReturned _ => some false
  | _ => none

/-- A worker has been started that has not returned. -/
def working (history : List Event) : Bool :=
  (history.findSome? workerEvent).getD false

/-- A login of the prompt has succeeded. -/
def LoggedIn (id : Nat) (history : List Event) : Prop :=
  .loginReturned id (.ok ()) ∈ history

/-- An answer, or what comes after it. -/
def isEnding : Event → Bool
  | .done _ _ | .abandoned _ | .loginDataFreed _ => true
  | _ => false

/-- The prompt has not been answered or freed. -/
def Open (history : List Event) : Prop :=
  ∀ event ∈ history, isEnding event = false

/-- What has to be the case when a prompt is answered, and afterwards. -/
def Lawful (login : PinLogin) (id : Nat) : Event → List Event → Prop
  | .done _ _, before => Open before ∧ working before = false
  | .abandoned _, before =>
      ∃ outcome earlier, before = .done id outcome :: earlier ∧
        Open earlier ∧ outcome ≠ .ok ∧ LoggedIn id earlier
  | .loginDataFreed _, before =>
      .loginDataFreed id ∉ before ∧
        ∃ outcome, .done id outcome ∈ before ∧
        (login.abandon = true → outcome ≠ .ok → LoggedIn id before →
          .abandoned id ∈ before)
  | _, _ => True

namespace Phase

/-- A login has succeeded, and the prompt may not know yet. -/
def loggedInOk : Phase → Bool
  | loginRefreshing result | loggedIn result => result = .ok ()
  | phase => phase.succeeded

/-- How many attempts there can have been. -/
def Allows (phase : Phase) (protectedPath : Bool) (count : Nat) : Prop :=
  match phase with
  | queued | deciding | refreshing | refreshed => count = 0
  | waiting | holding =>
      count < pinMaxAttempts ∧ (protectedPath = true → count = 0)
  | _ => count ≤ pinMaxAttempts ∧ (protectedPath = true → count ≤ 1)

end Phase

variable
  {login : PinLogin} {protectedPath : Bool} {id : Nat} {phase : Phase}
  {history : List Event}

/-- A prompt that is not done has not been answered or freed. -/
theorem Course.open_of_not_done
    (course : Course login protectedPath id phase history)
    (early : phase.isDone = false) : Open history := by
  induction course with
  | requested | begun => simp [Open, isEnding]
  | done | freed => cases early
  | refreshEnded before ih | shown before ih | landed before ih
  | retried before typed few ih => exact ih rfl
  | answering before ready ih =>
      apply ih
      cases ‹Phase› <;> first | rfl | cases ready
  | started before ih | refreshStarted before ih | refreshReturned before ih
  | held before typed ih | loginReturned before ih
  | loginRefreshed before ih => exact List.forall_mem_cons.mpr ⟨rfl, ih rfl⟩
  | attempted before ready fits ih =>
      refine List.forall_mem_cons.mpr ⟨rfl, ih ?_⟩
      rw [ready]
      split_ifs <;> rfl

theorem Course.working_eq
    (course : Course login protectedPath id phase history) :
    working history = phase.working := by
  induction course with
  | requested | begun | refreshStarted | refreshReturned | loginRefreshed
  | attempted => rfl
  | refreshEnded before ih | shown before ih | landed before ih
  | retried before typed few ih => exact ih
  | started before ih | held before typed ih | loginReturned before ih =>
      exact ih
  | answering before ready ih =>
      rw [ih]
      cases ‹Phase› <;> first | rfl | cases ready
  | @done history outcome succeeded before ih =>
      rw [doneEvents]
      split_ifs <;> exact ih
  | freed before ih =>
      rw [freeEvents]
      split_ifs <;> exact ih

theorem loggedIn_cons
    {event : Event} (other : event ≠ .loginReturned id (.ok ())) :
    LoggedIn id (event :: history) ↔ LoggedIn id history :=
  List.mem_cons.trans (or_iff_right other.symm)

theorem Course.loggedIn_iff
    (course : Course login protectedPath id phase history)
    (early : phase.isDone = false) :
    LoggedIn id history ↔ phase.loggedInOk = true := by
  induction course with
  | requested | begun => simp [LoggedIn, Phase.loggedInOk, Phase.succeeded]
  | done | freed => cases early
  | refreshEnded before ih | shown before ih | landed before ih
  | retried before typed few ih => exact ih rfl
  | started before ih | refreshStarted before ih | refreshReturned before ih
  | held before typed ih | loginRefreshed before ih =>
      rw [loggedIn_cons Event.noConfusion]
      exact ih rfl
  | @attempted history phase pin before ready fits ih =>
      rw [loggedIn_cons Event.noConfusion]
      subst ready
      have here := ih (by split_ifs <;> rfl)
      split_ifs at here <;> exact here
  | @loginReturned history result before ih =>
      have none : ¬ LoggedIn id history := by
        rw [ih rfl]
        exact Bool.noConfusion
      refine List.mem_cons.trans ((or_iff_left none).trans ?_)
      simp [Phase.loggedInOk, eq_comm]
  | @answering history phase outcome before ready ih =>
      cases phase <;> first | exact ih rfl | cases ready

/-- The number of attempts is one that the phase allows. -/
theorem Course.allows
    (course : Course login protectedPath id phase history) :
    phase.Allows protectedPath (attempts history) := by
  induction course with
  | requested | begun => rfl
  | started before ih | refreshStarted before ih | refreshReturned before ih
  | loginReturned before ih | loginRefreshed before ih => exact ih
  | held before typed ih => exact ih
  | refreshEnded before ih => exact ih
  | landed before ih => exact ih
  | shown before ih =>
      have none : attempts _ = 0 := ih
      exact ⟨by rw [none]; decide, fun _ => none⟩
  | retried before typed few ih =>
      refine ⟨few, fun path => ?_⟩
      rw [typed] at path
      cases path
  | @attempted history phase pin before ready fits ih =>
      have more := attempts_attempted id pin history
      subst ready
      have few : attempts history < pinMaxAttempts ∧
          (protectedPath = true → attempts history = 0) := by
        split_ifs at ih <;> exact ih
      refine ⟨by omega, fun path => ?_⟩
      rw [more, few.2 path]
  | @answering history phase outcome before ready ih =>
      cases phase with
      | queued | deciding =>
          have none : attempts history = 0 := ih
          exact ⟨by omega, fun _ => by omega⟩
      | waiting => exact ⟨by have := ih.1; omega, fun path => by
          have := ih.2 path; omega⟩
      | landed succeeded => exact ih
      | _ => cases ready
  | @done history outcome succeeded before ih =>
      have same : attempts (doneEvents login id outcome succeeded ++ history) =
          attempts history := by
        rw [doneEvents]
        split_ifs <;> rfl
      rw [same]
      exact ih
  | @freed history before ih =>
      have same : attempts (freeEvents login id ++ history) =
          attempts history := by
        rw [freeEvents]
        split_ifs <;> rfl
      rw [same]
      exact ih

/-- A prompt has been asked for. -/
theorem Course.requested_mem
    (course : Course login protectedPath id phase history) :
    .requested id ∈ history := by
  induction course with
  | requested | begun => simp
  | started before ih | refreshStarted before ih | refreshReturned before ih
  | held before typed ih | attempted before ready fits ih
  | loginReturned before ih | loginRefreshed before ih =>
      exact List.mem_cons_of_mem _ ih
  | done before ih | freed before ih => exact List.mem_append_right _ ih
  | refreshEnded before ih | shown before ih | landed before ih
  | retried before typed few ih | answering before ready ih => exact ih

/-! ## How a prompt ends -/

/-- An answer with a login that has to be undone undoes it. -/
def Undone (login : PinLogin) (id : Nat) (history : List Event) : Prop :=
  ∀ outcome, .done id outcome ∈ history → login.abandon = true →
    outcome ≠ .ok → LoggedIn id history → .abandoned id ∈ history

theorem Open.not_mem
    {event : Event} (still : Open history) (ending : isEnding event = true) :
    event ∉ history := by
  intro member
  rw [still event member] at ending
  cases ending

/-- An open prompt has nothing to undo. -/
theorem Open.undone (still : Open history) : Undone login id history :=
  fun _ member => absurd member (still.not_mem rfl)

theorem mem_doneEvents
    {event : Event} {outcome : CertificatePinOutcome} {succeeded : Bool}
    (member : event ∈ doneEvents login id outcome succeeded) :
    event = .done id outcome ∨ event = .abandoned id := by
  rw [doneEvents] at member
  split_ifs at member
  · simpa [or_comm] using member
  · exact .inl (by simpa using member)

theorem Course.answered_undone
    {history : List Event}
    (course : Course login protectedPath id .answered history) :
    Undone login id history := by
  cases course with
  | @done history outcome succeeded before =>
      intro other answered abandon failed logged
      have still := before.open_of_not_done rfl
      have same : other = outcome := by
        rcases List.mem_append.mp answered with member | member
        · rcases mem_doneEvents member with same | same
          · cases same
            rfl
          · cases same
        · exact absurd member (still.not_mem rfl)
      subst same
      have success : succeeded = true := by
        rcases List.mem_append.mp logged with member | member
        · rcases mem_doneEvents member with same | same <;> cases same
        · exact (before.loggedIn_iff rfl).mp member
      simp [doneEvents, success, failed, abandon]

/-- At every phase, a login that had to be undone has been. -/
theorem Course.undone
    (course : Course login protectedPath id phase history) :
    Undone login id history := by
  cases phase with
  | freed =>
      cases course with
      | @freed history before =>
          intro outcome answered abandon failed logged
          have inside : ∀ event, isEnding event = false ∨
              (∃ outcome, event = .done id outcome) →
              event ∈ freeEvents login id ++ history →
                event ∈ history := by
            intro event kind member
            rcases List.mem_append.mp member with freed | member
            · rw [freeEvents] at freed
              split_ifs at freed
              · rw [List.mem_singleton.mp freed] at kind
                rcases kind with kind | ⟨_, kind⟩ <;> cases kind
              · cases freed
            · exact member
          refine List.mem_append_right _ ?_
          exact before.answered_undone outcome
            (inside _ (.inr ⟨_, rfl⟩) answered) abandon failed
            (inside _ (.inl rfl) logged)
  | answered => exact course.answered_undone
  | refused => cases course
  | _ => exact (course.open_of_not_done rfl).undone

/-- The events of an open prompt are lawful. -/
theorem Open.lawful
    (still : Open history) : Each (Lawful login id) history := by
  intro since event before split
  have quiet := still event (by simp [split])
  cases event <;> trivial

theorem Course.answered_lawful
    {history : List Event}
    (course : Course login protectedPath id .answered history) :
    Each (Lawful login id) history ∧ .loginDataFreed id ∉ history ∧
      ∃ outcome, .done id outcome ∈ history := by
  cases course with
  | @done history outcome succeeded before =>
      have still := before.open_of_not_done rfl
      have rested := before.working_eq
      have answered : Lawful login id (.done id outcome) history :=
        ⟨still, rested⟩
      have first := each_cons.mpr ⟨answered, still.lawful⟩
      refine ⟨?_, ?_, outcome, by simp [doneEvents]⟩
      · rw [doneEvents]
        split_ifs with undo
        · simp only [Bool.and_eq_true, decide_eq_true_eq] at undo
          refine each_cons.mpr ⟨?_, first⟩
          have logged := (before.loggedIn_iff rfl).mpr undo.1.1
          exact ⟨outcome, history, rfl, still, undo.1.2, logged⟩
        · exact first
      · intro member
        rcases List.mem_append.mp member with member | member
        · rcases mem_doneEvents member with same | same <;> cases same
        · exact still.not_mem rfl member

/-- At every phase, all events of the prompt have been lawful. -/
theorem Course.lawful
    (course : Course login protectedPath id phase history) :
    Each (Lawful login id) history := by
  cases phase with
  | freed =>
      cases course with
      | @freed history before =>
          have lawful := before.answered_lawful
          rw [freeEvents]
          split_ifs
          · refine each_cons.mpr ⟨⟨?_, ?_⟩, lawful.1⟩
            · exact lawful.2.1
            · rcases lawful.2.2 with ⟨outcome, answered⟩
              exact ⟨outcome, answered, before.undone outcome answered⟩
          · exact lawful.1
  | answered => exact course.answered_lawful.1
  | refused => cases course
  | _ => exact (course.open_of_not_done rfl).lawful

end PortalCertificate.Core.PromptCourse
