import PortalCertificate.Core.PinLedger

/-!
# The life cycle of prompts

What holds of all prompts together: when their callbacks run, which of them
is active, and in which order the queue is served.  The course of each
prompt says this of its own events; the ledger says it of pages and of the
queue.
-/

namespace PortalCertificate.Core.PromptLife

open PortalCertificate.Core.Coordinator
open PortalCertificate.Core.Pin
open PortalCertificate.Core.PinLedger
open PortalCertificate.Core.PromptCourse
open PortalCertificate.Core.PromptDispatch
open PortalCertificate.Core.PromptFits
open PortalCertificate.Core.PromptMoves
open PortalCertificate.Core.PromptRuns
open PortalCertificate.Core.PromptSteps
open PortalCertificate.Core.PromptViews
open PortalCertificate.Core.Ui
open PortalCertificate.Library.Trace

/-! ## Statements -/

/-- The prompt has been answered. -/
def Answered (id : Nat) (trace : List Event) : Prop :=
  ∃ outcome, .done id outcome ∈ trace

/--
What has to be the case when a callback of a prompt runs, or when a prompt
is asked for or started.  `abandons` says which logins have an `abandon`
callback.
-/
def Permits (abandons : Nat → Bool) : Event → List Event → Prop
  | .done id _, before =>
      ¬ Answered id before ∧ working (history id before) = false ∧
        ∀ secret, .held id secret ∈ before →
          .secretFreed secret ∈ before
  | .abandoned id, before =>
      .abandoned id ∉ before ∧ LoggedIn id before ∧
        ∃ outcome, .done id outcome ∈ before ∧ outcome ≠ .ok
  | .loginDataFreed id, before =>
      .loginDataFreed id ∉ before ∧
        ∃ outcome, .done id outcome ∈ before ∧
        (abandons id = true → outcome ≠ .ok → LoggedIn id before →
          .abandoned id ∈ before)
  | .requested id, before =>
      ∀ other, .requested other ∈ before → other < id
  | .started id, before =>
      .requested id ∈ before ∧
        ∀ other, other < id → .requested other ∈ before →
          Begun before other
  | _, _ => True

/--
Every event of a prompt comes where it may, a failed login is abandoned as its
caller wants, and the active prompt and the queue are those that the trace
tells.
-/
structure LifeCycle (world : World) : Prop where
  permits : Each (Permits fun id => (world.prompts id).abandon) world.trace
  undone : ∀ id outcome, .done id outcome ∈ world.trace →
    (world.prompts id).abandon = true → outcome ≠ .ok →
      LoggedIn id world.trace → .abandoned id ∈ world.trace
  inFlight : ∀ id, ((world.prompts id).refreshInFlight ||
    (world.prompts id).loginInFlight) = true → ¬ Answered id world.trace
  active : ∀ id, world.pinActive = some id ↔
    .started id ∈ world.trace ∧ ¬ Answered id world.trace
  queued : ∀ id, id ∈ world.pinQueue ↔
    .requested id ∈ world.trace ∧ ¬ Begun world.trace id
  busy : world.pinActive = none → world.pinQueue = []

/-! ## Where a prompt is in its course -/

section Courses

variable
  {login : PinLogin} {protectedPath : Bool} {id : Nat} {phase : Phase}
  {past : List Event}

theorem Course.started_mem
    (course : Course login protectedPath id phase past)
    (active : phase.isActive = true) : .started id ∈ past := by
  induction course with
  | requested | done | freed => cases active
  | begun => simp
  | started => exact List.mem_cons_self ..
  | refreshStarted before ih | refreshReturned before ih
  | held before typed ih | loginReturned before ih
  | loginRefreshed before ih => exact List.mem_cons_of_mem _ (ih rfl)
  | refreshEnded before ih | shown before ih | landed before ih
  | retried before typed few ih => exact ih rfl
  | attempted before ready fits ih =>
      refine List.mem_cons_of_mem _ (ih ?_)
      rw [ready]
      split_ifs <;> rfl
  | answering => cases active

theorem Course.queued_eq
    (course : Course login protectedPath id .queued past) :
    past = [.requested id] := by
  cases course
  rfl

theorem Course.answered
    (course : Course login protectedPath id phase past)
    (ended : phase.isDone = true) : Answered id past := by
  cases course with
  | done before =>
      exact ⟨_, List.mem_append_left _
        (List.mem_append_right _ (List.mem_singleton_self _))⟩
  | freed before =>
      rcases before.answered_lawful.2.2 with ⟨outcome, answered⟩
      exact ⟨outcome, List.mem_append_right _ answered⟩
  | _ => cases ended

end Courses

/-! ## Events of one prompt -/

theorem mem_history
    {id : Nat} (event : Event) (about : concerns id event = true)
    {trace : List Event} : event ∈ history id trace ↔ event ∈ trace := by
  rw [history, List.mem_filter]
  exact and_iff_left about

section

variable {id : Nat} {trace : List Event}

theorem requested_history :
    .requested id ∈ history id trace ↔ .requested id ∈ trace :=
  mem_history (.requested id) (decide_eq_true rfl)

theorem started_history :
    .started id ∈ history id trace ↔ .started id ∈ trace :=
  mem_history (.started id) (decide_eq_true rfl)

theorem done_history {outcome : CertificatePinOutcome} :
    .done id outcome ∈ history id trace ↔ .done id outcome ∈ trace :=
  mem_history (.done id outcome) (decide_eq_true rfl)

theorem abandoned_history :
    .abandoned id ∈ history id trace ↔ .abandoned id ∈ trace :=
  mem_history (.abandoned id) (decide_eq_true rfl)

theorem loginDataFreed_history :
    .loginDataFreed id ∈ history id trace ↔ .loginDataFreed id ∈ trace :=
  mem_history (.loginDataFreed id) (decide_eq_true rfl)

theorem loggedIn_history :
    LoggedIn id (history id trace) ↔ LoggedIn id trace :=
  mem_history (.loginReturned id (.ok ())) (decide_eq_true rfl)

theorem answered_history :
    Answered id (history id trace) ↔ Answered id trace :=
  exists_congr fun _ => done_history

end

/-- What holds of a history holds at each event that is about the prompt. -/
theorem Each.of_history
    {property : Event → List Event → Prop} {id : Nat} {trace : List Event}
    (each : Each property (history id trace)) {since before : List Event}
    {event : Event} (split : trace = since ++ event :: before)
    (about : concerns id event = true) :
    property event (history id before) := by
  refine each (history id since) event (history id before) ?_
  rw [split, history, List.filter_append, List.filter_cons, if_pos about]
  rfl

/-- A login that has been refused. -/
theorem refused_lawful
    {login : PinLogin} (asked : PinLogin) {id : Nat}
    {outcome : CertificatePinOutcome} :
    Each (Lawful login id)
        (freeEvents asked id ++ [.done id outcome, .requested id]) ∧
      Undone login id
        (freeEvents asked id ++ [.done id outcome, .requested id]) := by
  have calm : Open [.requested id] := by simp [Open, isEnding]
  have answered : Each (Lawful login id)
      [.done id outcome, .requested id] :=
    each_cons.mpr ⟨⟨calm, rfl⟩, calm.lawful⟩
  have never : ¬ LoggedIn id [.done id outcome, .requested id] := by
    simp [LoggedIn]
  rw [freeEvents]
  split_ifs
  · refine ⟨each_cons.mpr
      ⟨⟨by simp, outcome, by simp, ?_⟩, answered⟩, ?_⟩
    · intro _ _ logged
      exact absurd logged never
    · intro _ _ _ _ logged
      exact absurd ((loggedIn_cons Event.noConfusion).mp logged) never
  · refine ⟨answered, ?_⟩
    intro _ _ _ _ logged
    exact absurd logged never

variable {frame : Frame}

/-- Every history is lawful, and what had to be undone has been. -/
theorem Coupled.lawful (coupled : Coupled frame) (id : Nat) :
    Each (Lawful (frame.world.prompts id).toPinLogin id)
        (history id frame.world.trace) ∧
      Undone (frame.world.prompts id).toPinLogin id
        (history id frame.world.trace) := by
  have lived := (coupled.fits id).lived
  cases phase : frame.phases id <;> rw [phase] at lived
  case unborn =>
    rw [lived.2]
    exact ⟨each_nil, nofun⟩
  case refused =>
    rcases lived with ⟨-, login, past⟩
    rw [past]
    exact refused_lawful login
  all_goals
    exact ⟨Course.lawful lived, Course.undone lived⟩

/-! ## Where each prompt is -/

/-- Between dispatches a prompt is started and not answered, or is not. -/
theorem Between.active_iff (between : Between frame) (id : Nat) :
    frame.world.pinActive = some id ↔
      .started id ∈ frame.world.trace ∧
        ¬ Answered id frame.world.trace := by
  have lived := (between.coupled.fits id).lived
  have calm := between.rests id
  rw [between.coupled.active, ← started_history, ← answered_history]
  cases phase : frame.phases id <;> rw [phase] at lived calm
  case unborn =>
    rw [lived.2]
    exact ⟨nofun, fun both => nomatch both.1⟩
  case refused =>
    rcases lived with ⟨-, login, past⟩
    rw [past]
    refine ⟨nofun, fun both => absurd ⟨.noDisplay, ?_⟩ both.2⟩
    exact List.mem_append_right _ (List.mem_cons_self ..)
  case queued =>
    rw [Course.queued_eq lived]
    refine ⟨nofun, fun both => ?_⟩
    cases List.mem_singleton.mp both.1
  case answered | freed =>
    exact ⟨nofun, fun both => absurd (Course.answered lived rfl) both.2⟩
  all_goals first
    | exact Bool.noConfusion calm
    | skip
  all_goals
    refine iff_of_true rfl ⟨Course.started_mem lived rfl, ?_⟩
    rintro ⟨outcome, answered⟩
    exact (Course.open_of_not_done lived rfl).not_mem rfl answered

/-- Between dispatches a prompt waits in the queue, or has begun. -/
theorem Between.queued_iff (between : Between frame) (id : Nat) :
    id ∈ frame.world.pinQueue ↔
      .requested id ∈ frame.world.trace ∧
        ¬ Begun frame.world.trace id := by
  have lived := (between.coupled.fits id).lived
  have calm := between.rests id
  have begun : Begun frame.world.trace id ↔
      Begun (history id frame.world.trace) id :=
    or_congr started_history.symm answered_history.symm
  rw [between.coupled.queued, ← requested_history, begun]
  cases phase : frame.phases id <;> rw [phase] at lived calm
  case unborn =>
    rw [lived.2]
    exact ⟨nofun, fun both => nomatch both.1⟩
  case refused =>
    rcases lived with ⟨-, login, past⟩
    rw [past]
    refine ⟨nofun, fun both => absurd (.inr ⟨.noDisplay, ?_⟩) both.2⟩
    exact List.mem_append_right _ (List.mem_cons_self ..)
  case queued =>
    rw [Course.queued_eq lived]
    refine iff_of_true rfl ⟨List.mem_singleton_self _, ?_⟩
    rintro (started | ⟨outcome, answered⟩)
    · cases List.mem_singleton.mp started
    · cases List.mem_singleton.mp answered
  case answered | freed =>
    refine ⟨nofun, fun both => absurd (.inr ?_) both.2⟩
    exact Course.answered lived rfl
  all_goals first
    | exact Bool.noConfusion calm
    | skip
  all_goals
    refine ⟨nofun, fun both => absurd (.inl ?_) both.2⟩
    exact Course.started_mem lived rfl

/-- A prompt that a worker is out for has not been answered. -/
theorem Coupled.inFlight
    (coupled : Coupled frame) {id : Nat}
    (flying : ((frame.world.prompts id).refreshInFlight ||
      (frame.world.prompts id).loginInFlight) = true) :
    ¬ Answered id frame.world.trace := by
  have fits := coupled.fits id
  have lived := fits.lived
  rw [fits.refreshInFlight, fits.loginInFlight] at flying
  rw [← answered_history]
  rintro ⟨outcome, answered⟩
  cases phase : frame.phases id <;> rw [phase] at lived flying
  all_goals first
    | exact Bool.noConfusion flying
    | exact (Course.open_of_not_done lived rfl).not_mem rfl answered

/-! ## Reachable states -/

/-- Every event in the trace has come where it may. -/
theorem Arrived.permits (arrived : Arrived frame) :
    Each (Permits fun id => (frame.world.prompts id).abandon)
      frame.world.trace := by
  have ledger := PinLedger.Arrived.ledger arrived
  intro since event before split
  have lawful (id : Nat) (about : concerns id event = true) :=
    Each.of_history (Coupled.lawful arrived.between.coupled id).1 split about
  cases event with
  | done id outcome =>
      have here := lawful id (decide_eq_true rfl)
      refine ⟨?_, here.2, ledger.pages.clean since _ before split⟩
      rw [← answered_history]
      rintro ⟨other, answered⟩
      exact here.1.not_mem rfl answered
  | abandoned id =>
      rcases lawful id (decide_eq_true rfl) with
        ⟨outcome, earlier, past, calm, failed, logged⟩
      have first : LoggedIn id (history id before) := by
        rw [past]
        exact List.mem_cons_of_mem _ logged
      have answered : .done id outcome ∈ history id before := by
        rw [past]
        exact List.mem_cons_self ..
      refine ⟨?_, loggedIn_history.mp first, outcome,
        done_history.mp answered, failed⟩
      intro again
      have inside := abandoned_history.mpr again
      rw [past] at inside
      have there := (List.mem_cons.mp inside).resolve_left Event.noConfusion
      exact calm.not_mem rfl there
  | loginDataFreed id =>
      rcases lawful id (decide_eq_true rfl) with
        ⟨once, outcome, answered, undone⟩
      refine ⟨?_, outcome, done_history.mp answered, ?_⟩
      · rwa [loginDataFreed_history] at once
      · intro abandon failed logged
        exact abandoned_history.mp
          (undone abandon failed (loggedIn_history.mpr logged))
  | requested id => exact ledger.order.ordered since _ before split
  | started id => exact ledger.order.ordered since _ before split
  | _ => trivial

/-- A login that took effect and ended badly has been undone, if its caller
wants that. -/
theorem Arrived.undone
    (arrived : Arrived frame) (id : Nat) (outcome : CertificatePinOutcome)
    (answered : .done id outcome ∈ frame.world.trace)
    (abandon : (frame.world.prompts id).abandon = true)
    (failed : outcome ≠ .ok) (logged : LoggedIn id frame.world.trace) :
    .abandoned id ∈ frame.world.trace :=
  abandoned_history.mp
    ((Coupled.lawful arrived.between.coupled id).2 outcome
      (done_history.mpr answered) abandon failed
      (loggedIn_history.mpr logged))

/-- Prompts live as they should in every reachable state. -/
theorem lifeCycle_of_reachable
    {world : World} (reachable : machine.Reachable world) :
    LifeCycle world := by
  rcases reachable_arrived reachable with ⟨frame, rfl, arrived⟩
  constructor
  · exact Arrived.permits arrived
  · exact Arrived.undone arrived
  · exact fun id => Coupled.inFlight arrived.between.coupled
  · exact Between.active_iff arrived.between
  · exact Between.queued_iff arrived.between
  · exact arrived.between.queue

/-- A login on a reader succeeds after it has been cancelled. -/
theorem lifeCycle_abandoned :
    ∃ world, LifeCycle world ∧ world.pinActive = some 1 ∧
      .done 0 .cancelled ∈ world.trace ∧ .abandoned 0 ∈ world.trace := by
  let start := World.start true true 0 fun _ =>
    ⟨true, ⟨false, false, false⟩⟩
  let actions : List Action :=
    [.login ⟨0, false, true, true, some 0, false⟩,
      .login ⟨0, false, true, true, none, false⟩, .send ⟨1, .ready⟩,
      .receive 0, .cancel 0, .cancelledIdle 0, .loginReturned 0 (.ok ()),
      .loginDone 0]
  have outcome : (machine.run start actions).any (fun world =>
      world.pinActive = some 1 ∧ .done 0 .cancelled ∈ world.trace ∧
        .abandoned 0 ∈ world.trace) = true := by decide +kernel
  rcases (Option.any_eq_true ..).mp outcome with ⟨world, ran, facts⟩
  have reached : machine.Reachable start := .initial ⟨_, _, _, _, rfl⟩
  exact ⟨world, lifeCycle_of_reachable (.run reached ran),
    of_decide_eq_true facts⟩

end PortalCertificate.Core.PromptLife
