import PortalCertificate.Core.InteractionTable
import PortalCertificate.Core.PromptCourse

/-!
# What a prompt is like in a phase

`Fits` says what the record, the interaction and the history of a prompt
are in each phase of its course, and who holds references to it.  It looks
at nothing else of the coordinator, so the lemmas here are about one prompt.
-/

namespace PortalCertificate.Core.PromptFits

open PortalCertificate.Core.Coordinator
open PortalCertificate.Core.Pin
open PortalCertificate.Core.PromptCourse
open PortalCertificate.Core.Secret
open PortalCertificate.Library.Der (Octets)

/-! ## The invariant of one prompt -/

/-- What the worker of a prompt is doing at each phase. -/
def WorksAs : Phase → Worker → Prop
  | .refreshing, worker => worker = .refreshing
  | .refreshed, worker => worker = .refreshed
  | .loggingIn, worker => ∃ secret, worker = .loggingIn secret
  | .loginRefreshing result, worker => worker = .loginRefreshing result
  | .loggedIn result, worker => worker = .loggedIn result
  | _, worker => worker = .none

/-- The prompt has a history of its phase, or has never been. -/
def Lived (prompt : PinPrompt) (id : Nat) :
    Phase → List Event → Prop
  | .unborn, history => prompt = .absent ∧ history = []
  | .refused, history =>
      prompt = .absent ∧ ∃ login, history =
        freeEvents login id ++ [.done id .noDisplay, .requested id]
  | phase, history =>
      Course prompt.toPinLogin prompt.protectedPath id phase history

/-- Only a prompt that is about to attempt a login has a page. -/
def Holds : Phase → Option XccSecret → Prop
  | .holding, secret => ∃ page, secret = some page ∧ Valid page
  | _, secret => secret = none

/-- The prompt has an interaction just at the phases that are on screen. -/
def Seen (phase : Phase) : Option Interaction → Prop
  | none => phase.onScreen = false
  | some found => phase.onScreen = true ∧ found.shown = true

/-- The references to a prompt; `running` is for its idle source. -/
def holders (phase : Phase) (running : Bool) (prompt : PinPrompt) : Nat :=
  phase.ownsItself.toNat + (phase.refreshes || phase.logsIn).toNat +
    prompt.tasks + prompt.cancelIdle.toNat + phase.onScreen.toNat +
    running.toNat

/-- The record of a prompt, its interaction and its history are those of its
phase. -/
structure Fits
    (id : Nat) (phase : Phase) (running : Bool) (prompt : PinPrompt)
    (screen : Option Interaction) (history : List Event) : Prop where
  lived : Lived prompt id phase history
  finished : prompt.finished = phase.finished
  refreshInFlight : prompt.refreshInFlight = phase.refreshes
  loginInFlight : prompt.loginInFlight = phase.logsIn
  worker : WorksAs phase prompt.worker
  deferred : prompt.cancelDeferred = true →
    (phase.refreshes || phase.logsIn) = true
  succeeded : phase.isDone = false →
    prompt.loginSucceeded = phase.succeeded
  secret : Holds phase prompt.secret
  attempts : prompt.attempts = attempts history
  retired : phase.finished = true →
    prompt.connected = false ∧ prompt.cancelIdle = false
  timed : prompt.loginTimeout = true → phase.logsIn = true
  screen : Seen phase screen
  refs : prompt.refs = holders phase running prompt
  answered : phase = .answered → 0 < prompt.refs
  freed : phase = .freed → prompt.refs = 0
  idle : phase.idles = true →
    prompt.busy = false ∧ prompt.protectedPathConfirmed = false
  unconfirmed : prompt.protectedPath = false →
    prompt.protectedPathConfirmed = false

variable
  {id : Nat} {phase : Phase} {running : Bool} {prompt : PinPrompt}
  {screen : Option Interaction} {history : List Event}

theorem Fits.alive
    (fits : Fits id phase running prompt screen history)
    (owns : phase.ownsItself = true) : 0 < prompt.refs := by
  rw [fits.refs, holders, owns]
  simp only [Bool.toNat_true]
  omega

theorem fits_unborn : Fits id .unborn false .absent none [] where
  lived := ⟨rfl, rfl⟩
  finished := rfl
  refreshInFlight := rfl
  loginInFlight := rfl
  worker := rfl
  deferred := nofun
  succeeded _ := rfl
  secret := rfl
  attempts := rfl
  retired _ := ⟨rfl, rfl⟩
  timed := nofun
  screen := rfl
  refs := rfl
  answered := nofun
  freed := nofun
  idle := nofun
  unconfirmed _ := rfl

theorem fits_refused (login : PinLogin) :
    Fits id .refused false .absent none
      (freeEvents login id ++ [.done id .noDisplay, .requested id]) where
  lived := ⟨rfl, login, rfl⟩
  finished := rfl
  refreshInFlight := rfl
  loginInFlight := rfl
  worker := rfl
  deferred := nofun
  succeeded := nofun
  secret := rfl
  attempts := by rw [freeEvents]; split_ifs <;> rfl
  retired _ := ⟨rfl, rfl⟩
  timed := nofun
  screen := rfl
  refs := rfl
  answered := nofun
  freed := nofun
  idle := nofun
  unconfirmed _ := rfl

/-- A prompt that has just been made; its cancellable may call at once. -/
theorem fits_new
    (login : PinLogin) (protectedPath : Bool)
    (connected : prompt = onCancelled (.new login protectedPath) ∨
      ∃ connected, prompt =
        { PinPrompt.new login protectedPath with connected }) :
    Fits id .queued false prompt none [.requested id] ∧
      Fits id .deciding false prompt none [.started id, .requested id] := by
  rcases connected with rfl | ⟨connected, rfl⟩
  all_goals
    constructor
    · exact ⟨.requested, rfl, rfl, rfl, rfl, nofun, fun _ => rfl,
        rfl, rfl, nofun, nofun, rfl, rfl, nofun, nofun,
        fun _ => ⟨rfl, rfl⟩, fun _ => rfl⟩
    · exact ⟨.begun, rfl, rfl, rfl, rfl, nofun, fun _ => rfl,
        rfl, rfl, nofun, nofun, rfl, rfl, nofun, nofun,
        fun _ => ⟨rfl, rfl⟩, fun _ => rfl⟩

/-! ## The worker of a refresh -/

theorem Fits.started
    (fits : Fits id .queued running prompt screen history) :
    Fits id .deciding running prompt screen (.started id :: history) :=
  { fits with
    lived := Course.started fits.lived
    retired := nofun
    answered := nofun
    freed := nofun }

theorem Fits.refreshStarted
    (fits : Fits id .deciding running prompt screen history) :
    Fits id .refreshing running
      { prompt with
        refreshInFlight := true, worker := .refreshing
        refs := prompt.refs + 1 } screen
      (.refreshStarted id :: history) :=
  { fits with
    lived := Course.refreshStarted fits.lived
    refreshInFlight := rfl
    worker := rfl
    deferred _ := rfl
    retired := nofun
    refs := by
      have refs := fits.refs
      simp only [holders, Phase.refreshes, Phase.logsIn, Phase.onScreen,
        Phase.ownsItself] at refs ⊢
      simp only [refs, Bool.or_false, Bool.toNat_true, Bool.toNat_false]
      omega
    answered := nofun
    freed := nofun }

theorem Fits.refreshReturned
    (fits : Fits id .refreshing running prompt screen history) :
    Fits id .refreshed running { prompt with worker := .refreshed } screen
      (.workerReturned id :: history) :=
  { fits with
    lived := Course.refreshReturned fits.lived
    worker := rfl
    retired := nofun
    answered := nofun
    freed := nofun }

theorem Fits.refreshEnded
    (fits : Fits id .refreshed running prompt screen history) :
    Fits id .deciding running
      { prompt with
        refreshInFlight := false, cancelDeferred := false, worker := .none
        tasks := prompt.tasks + 1 } screen history :=
  { fits with
    lived := Course.refreshEnded fits.lived
    refreshInFlight := rfl
    worker := rfl
    deferred := nofun
    retired := nofun
    refs := by
      have refs := fits.refs
      simp only [holders, Phase.refreshes, Phase.logsIn, Phase.onScreen,
        Phase.ownsItself] at refs ⊢
      simp only [refs, Bool.or_false, Bool.toNat_true, Bool.toNat_false]
      omega
    answered := nofun
    freed := nofun }

/-! ## The screen -/

theorem Fits.shown
    (fits : Fits id .deciding running prompt screen history)
    {found : Interaction} (shown : found.shown = true) :
    Fits id .waiting running { prompt with refs := prompt.refs + 1 }
      (some found) history :=
  { fits with
    lived := Course.shown fits.lived
    retired := nofun
    screen := ⟨rfl, shown⟩
    refs := by
      have refs := fits.refs
      simp only [holders, Phase.refreshes, Phase.logsIn, Phase.onScreen,
        Phase.ownsItself] at refs ⊢
      simp only [refs, Bool.toNat_true, Bool.toNat_false]
      omega
    answered := nofun
    freed := nofun }

/-- A prompt that is on screen has an interaction that is shown. -/
theorem Fits.found
    (fits : Fits id phase running prompt screen history)
    (visible : phase.onScreen = true) :
    ∃ found, screen = some found ∧ found.shown = true := by
  have seen := fits.screen
  cases screen with
  | none =>
      rw [Seen, visible] at seen
      cases seen
  | some found => exact ⟨found, rfl, seen.2⟩

theorem Fits.redrawn
    (fits : Fits id phase running prompt screen history)
    (visible : phase.onScreen = true) {found : Interaction}
    (shown : found.shown = true) :
    Fits id phase running prompt (some found) history :=
  { fits with screen := ⟨visible, shown⟩ }

/-! ## Attempts -/

/-- Fields that the phases do not look at. -/
theorem Fits.marked
    (fits : Fits id phase running prompt screen history)
    (alive : phase ≠ .unborn ∧ phase ≠ .refused)
    (busy pending : Bool) (idle : phase.idles = true → busy = false) :
    Fits id phase running { prompt with busy, warningPending := pending }
      screen history :=
  { fits with
    idle idles := ⟨idle idles, (fits.idle idles).2⟩
    lived := by
      have lived := fits.lived
      cases phase with
      | unborn => exact absurd rfl alive.1
      | refused => exact absurd rfl alive.2
      | _ => exact lived }

/-- A prompt that waits may be given a page. -/
theorem Fits.held
    (fits : Fits id .waiting running prompt screen history)
    (typed : prompt.protectedPath = false) {page : XccSecret}
    (valid : Valid page) (serial : Nat) :
    Fits id .holding running { prompt with secret := some page } screen
      (.held id serial :: history) :=
  { fits with
    lived := Course.held fits.lived typed
    secret := ⟨page, rfl, valid⟩
    retired := nofun
    answered := nofun
    freed := nofun }

theorem pinFits_view
    {page : XccSecret} (valid : Valid page) :
    PinFits false (xccSecretView (some page)) := by
  have inside : page.length ≤ page.data.length := valid.fits.le
  rw [valid.view]
  refine ⟨rfl, ?_, ?_⟩
  · intro empty
    have length := congrArg List.length empty
    rw [List.length_take, min_eq_left inside] at length
    exact absurd length valid.positive.ne'
  · rw [List.length_take]
    exact (min_le_left _ _).trans valid.bounded

/-- A prompt that is ready may attempt a login. -/
theorem Fits.attempted
    (fits : Fits id phase running prompt screen history)
    (ready : phase = if prompt.protectedPath then .waiting else .holding)
    (timeout pending confirmed : Bool)
    (typed : prompt.protectedPath = false → confirmed = false) :
    Fits id .loggingIn running
      { prompt with
        secret := none, attempts := prompt.attempts + 1
        loginInFlight := true, refs := prompt.refs + 1
        worker := .loggingIn prompt.secret, busy := true
        loginTimeout := timeout, warningPending := pending
        protectedPathConfirmed := confirmed } screen
      (.attempted id
        (if prompt.protectedPath then none
          else xccSecretView prompt.secret) :: history) := by
  have pin : PinFits prompt.protectedPath
      (if prompt.protectedPath then none
        else xccSecretView prompt.secret) := by
    split_ifs with path
    · exact path
    · rw [Bool.not_eq_true] at path
      have holds := fits.secret
      rw [ready, path] at holds
      rcases holds with ⟨page, same, valid⟩
      rw [path, same]
      exact pinFits_view valid
  have course : Course prompt.toPinLogin prompt.protectedPath id phase
      history := by
    have lived := fits.lived
    rw [ready] at lived ⊢
    split_ifs at lived ⊢ <;> exact lived
  have same : phase.refreshes = false ∧ phase.logsIn = false ∧
      phase.onScreen = true ∧ phase.ownsItself = true ∧
      phase.succeeded = false ∧ phase.isDone = false := by
    rw [ready]
    split_ifs <;> exact ⟨rfl, rfl, rfl, rfl, rfl, rfl⟩
  rcases same with ⟨refreshes, logsIn, onScreen, owns, succeeded, early⟩
  constructor
  · exact Course.attempted course ready pin
  · rw [fits.finished, ready]
    split_ifs <;> rfl
  · exact fits.refreshInFlight.trans refreshes
  · rfl
  · exact ⟨_, rfl⟩
  · exact fun _ => rfl
  · exact fun _ => (fits.succeeded early).trans succeeded
  · rfl
  · rw [attempts_attempted, ← fits.attempts]
  · exact nofun
  · exact fun _ => rfl
  · rcases fits.found onScreen with ⟨found, rfl, shown⟩
    exact ⟨rfl, shown⟩
  · have refs := fits.refs
    simp only [holders, refreshes, logsIn, onScreen, owns] at refs ⊢
    simp only [refs, Phase.refreshes, Phase.logsIn, Phase.onScreen,
      Phase.ownsItself, Bool.or_false, Bool.false_or, Bool.toNat_true,
      Bool.toNat_false]
    omega
  · exact nofun
  · exact nofun
  · exact nofun
  · exact typed

theorem Fits.loginReturned
    (fits : Fits id .loggingIn running prompt screen history)
    (result : LoginResult) :
    Fits id (.loginRefreshing result) running
      { prompt with worker := .loginRefreshing result } screen
      (.loginReturned id result :: history) :=
  { fits with
    lived := Course.loginReturned fits.lived
    worker := rfl
    retired := nofun
    answered := nofun
    freed := nofun }

theorem Fits.loginRefreshed
    {result : LoginResult}
    (fits : Fits id (.loginRefreshing result) running prompt screen
      history) :
    Fits id (.loggedIn result) running
      { prompt with worker := .loggedIn result } screen
      (.workerReturned id :: history) :=
  { fits with
    lived := Course.loginRefreshed fits.lived
    worker := rfl
    retired := nofun
    answered := nofun
    freed := nofun }

theorem Fits.loginEnded
    {result : LoginResult}
    (fits : Fits id (.loggedIn result) running prompt screen history) :
    Fits id (.landed (result = .ok ())) running
      { prompt with
        loginInFlight := false, cancelDeferred := false, worker := .none
        loginTimeout := false, tasks := prompt.tasks + 1
        loginSucceeded := prompt.loginSucceeded || result = .ok () }
      screen history :=
  { fits with
    lived := Course.landed fits.lived
    loginInFlight := rfl
    worker := rfl
    deferred := nofun
    succeeded _ := by
      have before : prompt.loginSucceeded = false := fits.succeeded rfl
      simp only [before, Bool.false_or]
      rfl
    retired := nofun
    timed := nofun
    refs := by
      have refs := fits.refs
      simp only [holders, Phase.refreshes, Phase.logsIn, Phase.onScreen,
        Phase.ownsItself] at refs ⊢
      simp only [refs, Bool.or_false, Bool.false_or, Bool.toNat_true,
        Bool.toNat_false]
      omega
    answered := nofun
    freed := nofun }

/-- A prompt may wait once more, if its attempts are not used up. -/
theorem Fits.retried
    (fits : Fits id (.landed false) running prompt screen history)
    (typed : prompt.protectedPath = false)
    (few : prompt.attempts < pinMaxAttempts) (idle : prompt.busy = false) :
    Fits id .waiting running { prompt with secret := none } screen history :=
  { fits with
    lived := by
      rw [fits.attempts] at few
      exact Course.retried fits.lived typed few
    secret := rfl
    retired := nofun
    answered := nofun
    freed := nofun
    idle _ := ⟨idle, fits.unconfirmed typed⟩ }

/-! ## Answers -/

theorem Fits.deferred_by
    (fits : Fits id phase running prompt screen history)
    (flying : (phase.refreshes || phase.logsIn) = true)
    (outcome : CertificatePinOutcome) :
    Fits id phase running
      { prompt with cancelDeferred := true, deferredOutcome := outcome }
      screen history :=
  { fits with
    lived := by
      have lived := fits.lived
      cases phase with
      | unborn | refused => cases flying
      | _ => exact lived
    deferred _ := flying }

/-- The record that `retire` and `close` leave. -/
def PinPrompt.shut (prompt : PinPrompt) (visible : Bool) : PinPrompt :=
  { prompt with
    finished := true, connected := false, cancelIdle := false
    loginTimeout := false, secret := none
    refs := prompt.refs - prompt.cancelIdle.toNat - visible.toNat }

/-- A prompt that can be answered may be shut for its answer. -/
theorem Fits.shut
    (fits : Fits id phase running prompt screen history)
    (ready : phase.answerable = true) (outcome : CertificatePinOutcome) :
    Fits id (.answering outcome phase.succeeded) running
      (PinPrompt.shut prompt screen.isSome) none history := by
  have visible : screen.isSome = phase.onScreen := by
    have seen := fits.screen
    cases screen with
    | none => exact seen.symm
    | some found => exact seen.1.symm
  have same : phase.refreshes = false ∧ phase.logsIn = false ∧
      phase.ownsItself = true ∧ phase.isDone = false ∧
      Course prompt.toPinLogin prompt.protectedPath id phase history ∧
      prompt.worker = .none := by
    have lived := fits.lived
    have worker := fits.worker
    cases phase with
    | queued | deciding | waiting | landed =>
        exact ⟨rfl, rfl, rfl, rfl, lived, worker⟩
    | _ => cases ready
  rcases same with ⟨refreshes, logsIn, owns, early, course, worker⟩
  constructor
  · exact Course.answering course ready
  · rfl
  · exact fits.refreshInFlight.trans refreshes
  · exact fits.loginInFlight.trans logsIn
  · exact worker
  · intro deferred
    have flying := fits.deferred deferred
    rw [refreshes, logsIn] at flying
    cases flying
  · exact fun _ => fits.succeeded early
  · rfl
  · exact fits.attempts
  · exact fun _ => ⟨rfl, rfl⟩
  · exact nofun
  · rfl
  · have refs := fits.refs
    have now : holders (.answering outcome phase.succeeded) running
        (PinPrompt.shut prompt screen.isSome) =
          1 + prompt.tasks + running.toNat := by
      simp [holders, PinPrompt.shut, Phase.refreshes, Phase.logsIn,
        Phase.onScreen, Phase.ownsItself]
    simp only [holders, refreshes, logsIn, owns, Bool.or_false,
      Bool.toNat_true, Bool.toNat_false] at refs
    rw [now, visible]
    show prompt.refs - prompt.cancelIdle.toNat - phase.onScreen.toNat = _
    omega
  · exact nofun
  · exact nofun
  · exact nofun
  · exact fits.unconfirmed

/-- The last reference is gone, so the login data is. -/
theorem Fits.lastReleased
    (fits : Fits id .answered running prompt screen history) {tasks : Nat}
    {running' : Bool}
    (none : holders .answered running' { prompt with tasks } = 0) :
    Fits id .freed running' { prompt with tasks, refs := 0 } screen
      (freeEvents prompt.toPinLogin id ++ history) :=
  { fits with
    lived := Course.freed fits.lived
    succeeded := nofun
    attempts := by
      rw [fits.attempts, freeEvents]
      split_ifs <;> rfl
    refs := none.symm
    answered := nofun
    freed _ := rfl }

/-- A worker or an idle source releases the prompt. -/
theorem Fits.released
    (fits : Fits id phase running prompt screen history)
    {tasks : Nat} {running' : Bool}
    (less : running'.toNat + tasks + 1 = running.toNat + prompt.tasks) :
    if prompt.refs = 1 then
      Fits id .freed running' { prompt with tasks, refs := 0 } screen
        (freeEvents prompt.toPinLogin id ++ history)
    else
      Fits id phase running'
        { prompt with tasks, refs := prompt.refs - 1 } screen history := by
  have refs := fits.refs
  have fewer : holders phase running' { prompt with tasks } + 1 =
      holders phase running prompt := by
    simp only [holders]
    omega
  have alive : phase ≠ .unborn ∧ phase ≠ .refused ∧
      phase ≠ .freed := by
    refine ⟨?_, ?_, ?_⟩
    · rintro rfl
      rw [fits.lived.1] at refs fewer
      rw [← refs] at fewer
      exact absurd fewer (Nat.succ_ne_zero _)
    · rintro rfl
      rw [fits.lived.1] at refs fewer
      rw [← refs] at fewer
      exact absurd fewer (Nat.succ_ne_zero _)
    · rintro rfl
      rw [fits.freed rfl] at refs
      omega
  split_ifs with last
  · have answered : phase = .answered := by
      have alone : phase.ownsItself = false := by
        cases owns : phase.ownsItself with
        | false => rfl
        | true =>
            simp only [holders, owns, Bool.toNat_true] at refs fewer
            omega
      cases phase with
      | unborn => exact absurd rfl alive.1
      | refused => exact absurd rfl alive.2.1
      | freed => exact absurd rfl alive.2.2
      | answered => rfl
      | _ => cases alone
    subst answered
    refine fits.lastReleased ?_
    omega
  · exact
      { fits with
        lived := by
          have lived := fits.lived
          cases phase with
          | unborn => exact absurd rfl alive.1
          | refused => exact absurd rfl alive.2.1
          | _ => exact lived
        refs := by
          have same : holders phase running'
              { prompt with tasks, refs := prompt.refs - 1 } =
                holders phase running' { prompt with tasks } := rfl
          rw [same]
          show prompt.refs - 1 = _
          omega
        answered := by
          rintro rfl
          have := fits.answered rfl
          show 0 < prompt.refs - 1
          omega
        freed same := absurd same alive.2.2 }

/-- `done` has run, and the reference of the prompt to itself is gone. -/
theorem Fits.done
    {outcome : CertificatePinOutcome} {succeeded : Bool}
    (fits : Fits id (.answering outcome succeeded) running prompt screen
      history) :
    if prompt.refs = 1 then
      Fits id .freed running { prompt with refs := 0 } screen
        (freeEvents prompt.toPinLogin id ++
          (doneEvents prompt.toPinLogin id outcome succeeded ++ history))
    else
      Fits id .answered running { prompt with refs := prompt.refs - 1 }
        screen
        (doneEvents prompt.toPinLogin id outcome succeeded ++ history) := by
  have course := Course.done fits.lived
  have refs := fits.refs
  have counted : prompt.attempts = PromptCourse.attempts
      (doneEvents prompt.toPinLogin id outcome succeeded ++ history) := by
    rw [fits.attempts, doneEvents]
    split_ifs <;> rfl
  simp only [holders, Phase.refreshes, Phase.logsIn, Phase.onScreen,
    Phase.ownsItself, Bool.or_false, Bool.toNat_true, Bool.toNat_false]
    at refs
  split_ifs with last
  · exact
      { fits with
        lived := Course.freed course
        succeeded := by rintro ⟨⟩
        attempts := by
          rw [counted, freeEvents]
          split_ifs <;> rfl
        refs := by
          simp only [holders, Phase.refreshes, Phase.logsIn,
            Phase.onScreen, Phase.ownsItself, Bool.or_false,
            Bool.toNat_false]
          omega
        answered := by rintro ⟨⟩
        freed _ := rfl }
  · exact
      { fits with
        lived := course
        succeeded := by rintro ⟨⟩
        attempts := counted
        refs := by
          simp only [holders, Phase.refreshes, Phase.logsIn,
            Phase.onScreen, Phase.ownsItself, Bool.or_false,
            Bool.toNat_false]
          omega
        answered _ := by
          show 0 < prompt.refs - 1
          omega
        freed := by rintro ⟨⟩ }

/-! ## Sources -/

theorem Fits.idleRuns
    (fits : Fits id phase false prompt screen history)
    (queued : prompt.cancelIdle = true) :
    Fits id phase true { prompt with cancelIdle := false } screen history :=
  have late : phase.finished = false := by
    cases finished : phase.finished with
    | false => rfl
    | true =>
        have idle := (fits.retired finished).2
        rw [queued] at idle
        cases idle
  { fits with
    lived := by
      have lived := fits.lived
      cases phase with
      | unborn | refused => cases late
      | _ => exact lived
    retired finished := by
      rw [late] at finished
      cases finished
    refs := by
      have refs := fits.refs
      simp only [holders, queued, Bool.toNat_true, Bool.toNat_false]
        at refs ⊢
      omega }

theorem Fits.timerFired
    (fits : Fits id phase running prompt screen history)
    (armed : prompt.loginTimeout = true) :
    Fits id phase running { prompt with loginTimeout := false } screen
      history :=
  { fits with
    lived := by
      have lived := fits.lived
      have flying := fits.timed armed
      cases phase with
      | unborn | refused => cases flying
      | _ => exact lived
    timed := nofun }

theorem Fits.cancelled
    (fits : Fits id phase running prompt screen history)
    (connected : prompt.connected = true) :
    Fits id phase running (onCancelled prompt) screen history := by
  have late : phase.finished = false := by
    cases finished : phase.finished with
    | false => rfl
    | true =>
        have gone := (fits.retired finished).1
        rw [connected] at gone
        cases gone
  unfold onCancelled
  split_ifs with queued
  · exact fits
  · rw [Bool.not_eq_true] at queued
    exact
      { fits with
        lived := by
          have lived := fits.lived
          cases phase with
          | unborn | refused => cases late
          | _ => exact lived
        retired finished := by
          rw [late] at finished
          cases finished
        refs := by
          have refs := fits.refs
          simp only [holders, queued, Bool.toNat_true, Bool.toNat_false]
            at refs ⊢
          omega
        answered same := by
          rw [same] at late
          cases late
        freed same := by
          rw [same] at late
          cases late }

end PortalCertificate.Core.PromptFits
