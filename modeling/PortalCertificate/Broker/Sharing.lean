import PortalCertificate.Broker.Ledger

/-!
# One login for many operations

At most one login of a session is in progress.  It is given to the operations
that waited for it before it was cancelled; an operation that comes later
opens the device again.  A login that took effect and was not wanted is
undone before anybody is told.
-/

namespace PortalCertificate.Broker.Sharing

open PortalCertificate.Broker.Device hiding Event State
open PortalCertificate.Broker.Ledger
open PortalCertificate.Broker.Login
open PortalCertificate.Broker.Machine
open PortalCertificate.Broker.Operations
open PortalCertificate.Broker.Places
open PortalCertificate.Core.Coordinator (CertificatePinOutcome)
open PortalCertificate.Core.Principals (XccSession)
open PortalCertificate.Glib
open PortalCertificate.Library.Der (Octets)
open PortalCertificate.Library.Trace
open PortalCertificate.Library.Transition
open PortalCertificate.Pkcs11

variable {world next : World} {later : List Nat} {held : Option Nat}
  {id interaction : Nat} {handle : CkUlong} {failure : Failure}
  {trace : List Event}

/-! ## Prompts and logins -/

/-- The last operation has left. -/
theorem shared_cancelInteraction (shared : Shared [] held world)
    (current : world.loginCancellable = some interaction)
    (left : world.waiters = []) :
    Shared [] held (cancelInteraction world interaction) := by
  have here := shared.current interaction current
  have continues : Continues (world.interactions interaction)
      { world.interactions interaction with cancelled := true } :=
    ⟨fun _ => rfl, rfl, rfl, shared.busy interaction⟩
  have cancelled := shared.setInteraction current continues here.performed
  have still := here.setInteraction continues here.performed
  refine cancelled.emit current rfl ⟨still.unsettled, ?_⟩ ?_
  · intro id asked
    have waits := here.left id asked
    rw [left] at waits
    exact (waits.resolve_left nofun).resolve_left nofun
  · refine still.emit (fun _ asked => .inr (asked_of_cons asked nofun nofun))
      nofun nofun nofun ?_ nofun
    intro _
    rw [interactions_setInteraction, if_pos rfl]

theorem shared_promptStep {action : PromptAction}
    (shared : Shared [] none world)
    (moves : promptStep world interaction action = some next) :
    Shared [] none next := by
  rcases Option.map_eq_some_iff.mp moves with ⟨later, after, rfl⟩
  have talking := finished_of_after (shared.busy interaction) after
  have before := (finished_after after).symm.trans talking
  have ⟨current, _⟩ := shared.of_talking before
  refine shared.setInteraction current
    ⟨fun same => same, rfl, finished_after after, ?_⟩ ?_
  · intro finished
    rw [talking] at finished
    cases finished
  · intro member
    have ⟨performed, landed⟩ :=
      (shared.current interaction current).performed member
    exact ⟨performed, landed_after landed after⟩

/-- A worker of the prompt goes on, before it has logged in. -/
theorem shared_setAttempt {attempt : Attempt}
    (shared : Shared [] none world)
    (busy :
      (world.interactions interaction).conversation.attempt ≠ .none)
    (apart : ¬Landed (world.interactions interaction).conversation) :
    Shared [] none (world.setAttempt interaction attempt) := by
  have talking := shared.talking_of_busy busy
  have ⟨current, _⟩ := shared.of_talking talking
  refine shared.setInteraction current ⟨fun same => same, rfl, rfl, ?_⟩ ?_
  · intro finished
    exact absurd (talking.symm.trans finished) nofun
  · intro member
    exact absurd ((shared.current interaction current).performed member).2
      apart

theorem not_landed {conversation : Conversation}
    (busy : conversation.attempt = .calling ∨
      conversation.attempt = .holding) : ¬Landed conversation := by
  rintro (returned | ⟨idle, -⟩)
  · rw [returned] at busy
    rcases busy with busy | busy <;> cases busy
  · rw [idle] at busy
    rcases busy with busy | busy <;> cases busy

theorem shared_doLogin {answers : OpenAnswers}
    (shared : Shared [] none world)
    (calling :
      (world.interactions interaction).conversation.attempt = .calling) :
    Shared [] none (doLogin world interaction answers) := by
  have busy : (world.interactions interaction).conversation.attempt ≠
      .none := by
    rw [calling]
    exact nofun
  have apart := not_landed (.inl calling)
  unfold doLogin
  split
  · exact shared_setAttempt shared busy apart
  · have opened : Apart world (ensureSessionLocked world answers).1 :=
      apart_ensureSessionLocked
    split
    all_goals
      rename_i result
      rw [result] at opened
      rw [← opened.interactions] at busy apart
    · exact shared_setAttempt (shared.apart opened) busy apart
    · exact (shared_setAttempt (shared.apart opened) busy apart).apart
        (apart_update rfl rfl rfl rfl rfl)

/-- A login that has succeeded, with the worker that has returned. -/
def landed (login : LoginInteraction) : LoginInteraction :=
  { login with
    performedLogin := true
    conversation := { login.conversation with attempt := .returned true } }

theorem setAttempt_loggedIn (world : World) (interaction : Nat) :
    ((world.setInteraction interaction
        { world.interactions interaction with performedLogin := true }).emit
        (.loggedIn interaction)).setAttempt interaction (.returned true) =
      (world.setInteraction interaction
        (landed (world.interactions interaction))).emit
        (.loggedIn interaction) := by
  simp [World.setAttempt, World.setInteraction, World.emit, landed]

/-- C_Login has succeeded. -/
theorem shared_loggedIn (shared : Shared [] none world)
    (busy :
      (world.interactions interaction).conversation.attempt ≠ .none)
    (apart : ¬Landed (world.interactions interaction).conversation) :
    Shared [] none
      (((world.setInteraction interaction
        { world.interactions interaction with performedLogin := true }).emit
        (.loggedIn interaction)).setAttempt interaction (.returned true)) := by
  let login := landed (world.interactions interaction)
  have talking := shared.talking_of_busy busy
  have ⟨current, _⟩ := shared.of_talking talking
  have here := shared.current interaction current
  have continues : Continues (world.interactions interaction) login :=
    ⟨fun same => same, rfl, rfl, fun finished =>
      absurd (talking.symm.trans finished) nofun⟩
  have performed : login.performedLogin = true ∧
      Landed login.conversation := ⟨rfl, .inl rfl⟩
  have still := here.setInteraction continues fun _ => performed
  rw [setAttempt_loggedIn]
  refine (shared.setInteraction current continues fun _ => performed).emit
    current rfl ⟨?_, here.talking talking⟩ ?_
  · exact fun member => apart (here.performed member).2
  · refine still.emit (fun _ asked => .inr (asked_of_cons asked nofun nofun))
      nofun nofun nofun nofun ?_
    intro _
    rw [interactions_setInteraction, if_pos rfl]
    exact performed

theorem shared_endLogin {rv : CkUlong} {found : Option (List CkUlong)}
    (shared : Shared [] none world)
    (holding :
      (world.interactions interaction).conversation.attempt = .holding) :
    Shared [] none (endLogin world interaction rv found) := by
  have busy : (world.interactions interaction).conversation.attempt ≠
      .none := by
    rw [holding]
    exact nofun
  have apart := not_landed (.inr holding)
  have unlocked : Apart world { world with deviceLocked := false } :=
    apart_update rfl rfl rfl rfl rfl
  unfold endLogin
  dsimp only
  split
  · exact shared_setAttempt (shared.apart unlocked) busy apart
  · split_ifs
    · exact shared_setAttempt (shared.apart unlocked) busy apart
    · unfold performLogin
      split
      · exact shared_setAttempt (shared.apart unlocked) busy apart
      · dsimp only
        have used (state : Device.State) : Shared [] none
            (World.useDevice { world with deviceLocked := false } state) :=
          (shared.apart unlocked).apart apart_useDevice
        split
        · have talking := shared.talking_of_busy busy
          have ⟨current, _⟩ := shared.of_talking talking
          refine shared_setAttempt ((used _).setInteraction current
            ⟨fun same => same, rfl, rfl, ?_⟩ ?_) ?_ ?_
          · exact (used _).busy interaction
          · intro member
            exact absurd (((used _).current interaction current).performed
              member).2 apart
          · rw [interactions_setInteraction, if_pos rfl]
            exact busy
          · rw [interactions_setInteraction, if_pos rfl]
            exact apart
        · exact shared_loggedIn (used _) busy apart

/-! ## Waiting -/

/-- An operation in hand joins the login in progress. -/
theorem shared_joinLogin (shared : Shared [] none world)
    (current : world.loginCancellable = some interaction)
    (apart : id ∉ world.waiters) (unanswered : ¬Answered id world.trace) :
    Shared [] none (joinLogin world id interaction) := by
  have here := shared.current interaction current
  have fresh : Event.joined interaction id true ∉ world.trace := by
    intro joined
    rcases here.left id (.inr ⟨true, joined⟩) with later | waits | answered
    · cases later
    · exact apart waits
    · exact unanswered answered
  have waits (retries : Bool) : Waits interaction id retries
      (.joined interaction id retries :: world.trace) := by
    cases retries
    · refine ⟨.inr (List.mem_cons_self ..), ?_⟩
      exact fun member => fresh ((List.mem_cons.mp member).resolve_left nofun)
    · exact List.mem_cons_self ..
  have joined (retries : Bool)
      (proper : Proper (.joined interaction id retries) world.trace) :
      Shared [id] none (world.emit (.joined interaction id retries)) := by
    refine (shared.mono nofun).emit current rfl proper ?_
    refine (here.mono nofun).emit ?_ ?_ nofun nofun nofun nofun
    · intro other asked
      by_cases this : other = id
      · exact .inl (List.mem_singleton.mpr this)
      · exact .inr (asked_of_cons asked nofun fun _ same =>
          this (by cases same; rfl))
    · rintro other member same
      cases same
      exact apart member
  exact (joined _ ⟨here.unsettled, shared.cancelling_of_ended current⟩).wait
    current (waits _)

/-- A login is asked for by an operation in hand. -/
theorem shared_askLogin (shared : Shared [] none world)
    (idle : world.loginInProgress = false)
    (retries : (world.operations id).retryLogin = false) :
    Shared [] none (askLogin world id) := by
  have nobody : world.loginCancellable = none := by
    simpa [idle] using shared.cancelling
  have empty : world.waiters = [] := by
    have waiting : world.loginWaiters = none := by
      simpa [idle] using shared.waiting
    exact congrArg (·.getD []) waiting
  have spare := shared.spare nobody
  let login := world.nextInteraction
  let asked : World :=
    ({ world with
      loginInProgress := true
      loginWaiters := some world.waiters
      loginCancellable := some login
      nextInteraction := login + 1 }.setInteraction login
      (.new .start)).emit (.asked login id)
  have started : asked.interactions login = .new .start :=
    Function.update_self ..
  have others {other : Nat} (this : other ≠ login) :
      asked.interactions other = world.interactions other :=
    Function.update_of_ne this ..
  have only {event : Event} (mentions : about event = some login)
      (member : event ∈ asked.trace) : event = .asked login id :=
    (List.mem_cons.mp member).resolve_right (shared.unknown mentions)
  have here : Current [id] asked login := by
    constructor
    case unsettled => exact fun member => absurd (only rfl member) nofun
    case waiters =>
        intro other member
        rw [show asked.waiters = [] from empty] at member
        cases member
    case left =>
        rintro other (asked | ⟨retries, joined⟩)
        · cases only rfl asked
          exact .inl (List.mem_singleton_self id)
        · cases only rfl joined
    case withdrawn => exact fun member => absurd (only rfl member) nofun
    case talking => exact fun _ _ member => absurd (only rfl member) nofun
    case ended =>
        rw [started]
        exact nofun
    case releasing =>
        intro releasing
        exact absurd (spare login).1 (Nat.ne_of_gt releasing)
    case performed => exact fun member => absurd (only rfl member) nofun
    case released =>
        exact fun member => absurd member (not_mem_released (spare login).1)
  have shares : Shared [id] none asked := by
    refine ⟨⟨rfl, rfl, ?_, ?_, ?_⟩, ?_, ?_, ?_, ?_, ?_⟩
    · intro other
      rw [show releasesFor asked other = 0 from (spare other).1]
      by_cases this : other = login
      · rw [this, started]
        exact (if_pos rfl).symm
      · rw [others this, (spare other).2, if_pos rfl, if_neg (by exact nofun),
          if_neg]
        exact fun same => this (Option.some.inj same).symm
    · intro other same
      cases Option.some.inj same
      rfl
    · intro other
      by_cases this : other = login
      · rw [this, started]
        exact fun _ => rfl
      · rw [others this]
        exact shared.busy other
    · intro other same
      cases Option.some.inj same
      exact here
    · intro other known apart
      have older : other < login :=
        Nat.lt_of_le_of_ne (Nat.le_of_lt_succ known) fun this =>
          apart (congrArg some this.symm)
      exact List.mem_cons_of_mem _
        (shared.settled other older (by rw [nobody]; exact nofun))
    · intro event member other mentions
      rcases List.mem_cons.mp member with rfl | member
      · cases mentions
        exact Nat.lt_succ_self _
      · exact Nat.lt_succ_of_lt (shared.known event member other mentions)
    · intro other retries
      exact (shared.retries other retries).elim nofun fun rest =>
        .inr (rest.imp_right Answered.cons)
    · refine each_cons.mpr
        ⟨⟨?_, fun earlier older => ?_⟩, shared.proper⟩
      · exact fun event member mentions => shared.unknown mentions member
      · exact shared.settled earlier older (by rw [nobody]; exact nofun)
  have waits : Shared [] none
      ((asked.setOperation id
        { world.operations id with loginCancelId := true }).addWaiter id) := by
    refine shares.wait rfl ?_
    show Waits login id (world.operations id).retryLogin _
    rw [retries]
    exact ⟨.inl (List.mem_cons_self ..), fun member =>
      absurd (only rfl member) nofun⟩
  exact waits

/-! ## A waiter that is cancelled -/

/-- An operation that has not been answered fails now. -/
theorem answered_operationFail
    (unanswered : (world.operations id).answered = false) :
    Answered id (operationFail world id failure).trace := by
  rw [operationFail_of_unanswered unanswered]
  exact ⟨_, List.mem_cons_self ..⟩

theorem shared_waiterCancelledIdle
    (accounted : Accounted [] world) (shared : Shared [] none world) :
    Shared [] none (waiterCancelledIdle world id) := by
  let idle := world.setOperation id
    { world.operations id with loginCancelIdle := false }
  have idled : Apart world idle := apart_setOperation rfl
  have still : Accounted [] idle := accounted.moved (moved_setOperation rfl)
  unfold waiterCancelledIdle
  dsimp only
  split
  · rename_i waits
    let left := detachWaiterCancel (idle.removeWaiter id) id
    have detached : Apart (idle.removeWaiter id) left :=
      apart_setOperation rfl
    have removed := ((shared.apart idled).removeWaiter waits).apart detached
    have hand : Accounted [id] left :=
      (still.moved (moved_removeWaiter waits)).moved moved_detachWaiterCancel
    have fails : Apart left (operationFail left id cancelledFailure) :=
      tended_operationFail.apart
    have failed : Shared [] none (operationFail left id cancelledFailure) :=
      (removed.apart fails).done
        (answered_operationFail (hand.unanswered (List.mem_cons_self ..)).2)
    split
    · rename_i interaction empty current
      exact shared_cancelInteraction failed
        (fails.cancellable.trans current) (fails.waiters.trans empty)
    · exact failed
  · exact shared.apart idled

/-! ## The end of a login -/

/-- The prompt has finished, and the coordinator has the login in hand. -/
theorem shared_ended {login : LoginInteraction}
    (shared : Shared [] none world)
    (quiet : (world.interactions interaction).conversation.quiet = true)
    (cancelled : (world.interactions interaction).cancelled = true →
      login.cancelled = true)
    (performed : login.performedLogin =
      (world.interactions interaction).performedLogin)
    (kept : login.outcome = .ok →
      (world.interactions interaction).cancelled = false)
    (closed : login.conversation = .closed) :
    Shared [] (some interaction)
      ((world.setInteraction interaction login).emit
        (.ended interaction login.outcome)) := by
  have talking := (Conversation.quiet_iff.mp quiet).2
  have ⟨current, spare, _⟩ := shared.of_talking talking
  have here := shared.current interaction current
  let ended := (world.setInteraction interaction login).emit
    (.ended interaction login.outcome)
  have same : ended.interactions interaction = login :=
    Function.update_self ..
  have others {other : Nat} (this : other ≠ interaction) :
      ended.interactions other = world.interactions other :=
    Function.update_of_ne this ..
  have older {event : Event}
      (apart : event ≠ .ended interaction login.outcome)
      (member : event ∈ ended.trace) : event ∈ world.trace :=
    (List.mem_cons.mp member).resolve_left apart
  have now : Current [] ended interaction := by
    constructor
    case unsettled => exact fun member => here.unsettled (older nofun member)
    case waiters =>
        exact fun id waits => waits_cons (here.waiters id waits) nofun
    case left =>
        exact fun id asked =>
          (here.left id (asked_of_cons asked nofun nofun)).imp_right
            (Or.imp_right Answered.cons)
    case withdrawn =>
        rw [same]
        exact fun member => cancelled (here.withdrawn (older nofun member))
    case talking =>
        rw [same, closed]
        exact nofun
    case ended =>
        rw [same]
        exact fun _ => List.mem_cons_self ..
    case releasing =>
        exact fun releasing => absurd spare (Nat.ne_of_gt releasing)
    case performed =>
        rw [same, performed, closed]
        exact fun member => ⟨(here.performed (older nofun member)).1,
          .inr ⟨rfl, .inr rfl⟩⟩
    case released => exact fun member => absurd member (not_mem_released spare)
  refine ⟨⟨shared.waiting, shared.cancelling, ?_, shared.latest, ?_⟩,
    ?_, ?_, ?_, ?_, ?_⟩
  · intro other
    have balance := shared.balance other
    rw [if_neg (show ¬none = some other from nofun)] at balance
    show releasesFor world other + (if (ended.interactions other
      ).conversation.finished then 0 else 1) + _ =
        if world.loginCancellable = some other then 1 else 0
    by_cases this : other = interaction
    · rw [this, same, closed, spare, if_pos current, if_pos rfl]
      rfl
    · rw [others this, if_neg fun same => this (Option.some.inj same).symm]
      exact balance
  · intro other
    by_cases this : other = interaction
    · rw [this, same, closed]
      exact fun _ => rfl
    · rw [others this]
      exact shared.busy other
  · intro other there
    cases Option.some.inj (current.symm.trans there)
    exact now
  · exact fun other known there =>
      List.mem_cons_of_mem _ (shared.settled other known there)
  · intro event member other mentions
    rcases List.mem_cons.mp member with rfl | member
    · cases mentions
      show interaction < world.nextInteraction
      rw [shared.latest interaction current]
      exact Nat.lt_succ_self _
    · exact shared.known event member other mentions
  · exact fun id retries => (shared.retries id retries).imp_right
      (Or.imp_right Answered.cons)
  · refine each_cons.mpr
      ⟨⟨here.talking talking, fun ok member => ?_⟩, shared.proper⟩
    exact absurd ((here.withdrawn member).symm.trans (kept ok)) nofun

theorem releasesFor_releaseDeviceAsyncFull (interaction other : Nat) :
    releasesFor (releaseDeviceAsyncFull world (some interaction)) other =
      releasesFor world other +
        if some interaction = some other then 1 else 0 := by
  simp only [releasesFor, releaseDeviceAsyncFull, List.count_append,
    List.count_singleton, beq_iff_eq]
  omega

/-- The device is released before the login in hand is settled. -/
theorem shared_releaseDeviceAsyncFull
    (shared : Shared [] (some interaction) world)
    (unwanted : (world.interactions interaction).cancelled = true ∧
      (world.interactions interaction).outcome ≠ .ok) :
    Shared [] none (releaseDeviceAsyncFull world (some interaction)) := by
  have ⟨current, finished, spare⟩ := shared.of_held rfl
  refine { shared with balance := ?_, current := ?_ }
  · intro other
    have balance := shared.balance other
    rw [releasesFor_releaseDeviceAsyncFull,
      if_neg (show ¬none = some other from nofun)]
    show _ + (if (world.interactions other).conversation.finished then 0
      else 1) + 0 = if world.loginCancellable = some other then 1 else 0
    rw [← balance]
    omega
  · intro other there
    have here := shared.current other there
    cases Option.some.inj (current.symm.trans there)
    exact { here with releasing := fun _ => unwanted }

/-- What is known while the operations are told of a login. -/
structure Telling (interaction : Nat) (later : List Nat) (world : World) :
    Prop extends Shared later none world where
  idle : world.loginCancellable = none
  recent : interaction < world.nextInteraction
  told : .settled interaction ∈ world.trace
  ended : .ended interaction (world.interactions interaction).outcome ∈
    world.trace
  waits : ∀ id ∈ later, Waits interaction id
    (world.operations id).retryLogin world.trace

theorem Telling.apart (telling : Telling interaction later world)
    (apart : Apart world next) : Telling interaction later next where
  toShared := telling.toShared.apart apart
  idle := apart.cancellable.trans telling.idle
  recent := by
    rw [apart.latest]
    exact telling.recent
  told := apart.trace.subset telling.told
  ended := by
    rw [apart.interactions]
    exact apart.trace.subset telling.ended
  waits id member := by
    rw [apart.waits_iff, apart.retries]
    exact telling.waits id member

/-- An operation is told, or opens the device again. -/
theorem Telling.emit {event : Event}
    (telling : Telling interaction later world)
    (mentions : about event = some interaction)
    (joins : ∀ id, event ≠ .joined interaction id true)
    (proper : Proper event world.trace) :
    Telling interaction later (world.emit event) where
  waiting := telling.waiting
  cancelling := telling.cancelling
  balance := telling.balance
  latest := telling.latest
  busy := telling.busy
  current other here := absurd (telling.idle.symm.trans here) nofun
  settled other known here :=
    List.mem_cons_of_mem _ (telling.settled other known here)
  known other member mentioned here := by
    rcases List.mem_cons.mp member with rfl | member
    · cases Option.some.inj (mentions.symm.trans here)
      exact telling.recent
    · exact telling.known other member mentioned here
  retries id retries := (telling.retries id retries).imp_right
    (Or.imp_right Answered.cons)
  proper := each_cons.mpr ⟨proper, telling.proper⟩
  idle := telling.idle
  recent := telling.recent
  told := List.mem_cons_of_mem _ telling.told
  ended := List.mem_cons_of_mem _ telling.ended
  waits id member := waits_cons (telling.waits id member) (joins id)

/-- One operation less is to be told. -/
theorem Telling.tail (telling : Telling interaction (id :: later) world)
    (done : (world.operations id).retryLogin = false) :
    Telling interaction later world where
  toBalanced := telling.toBalanced
  current other here := absurd (telling.idle.symm.trans here) nofun
  settled := telling.settled
  known := telling.known
  retries other retries := by
    refine (telling.retries other retries).imp_left fun member => ?_
    refine (List.mem_cons.mp member).resolve_left fun this => ?_
    rw [this, done] at retries
    cases retries
  proper := telling.proper
  idle := telling.idle
  recent := telling.recent
  told := telling.told
  ended := telling.ended
  waits other member := telling.waits other (List.mem_cons_of_mem _ member)

theorem telling_finishWaiter {hand : List Nat}
    (accounted : Accounted (id :: hand) world)
    (telling : Telling interaction (id :: later) world)
    (once : id ∉ later) :
    Telling interaction later (finishWaiter interaction world id) := by
  have detached : Apart world (detachWaiterCancel world id) :=
    apart_setOperation rfl
  have unanswered := unanswered_of_hand accounted (List.mem_cons_self ..)
  have telling := telling.apart detached
  have waits := telling.waits id (List.mem_cons_self ..)
  unfold finishWaiter
  dsimp only
  split
  · rename_i retries
    rw [retries] at waits
    let world := detachWaiterCancel world id
    let taken := world.setOperation id
      { world.operations id with retryLogin := false }
    have retryLogin (other : Nat) :
        (taken.operations other).retryLogin =
          if other = id then false else (world.operations other).retryLogin :=
      retryLogin_update world id other
    have taking : Telling interaction later taken := by
      refine { telling with current := ?_, retries := ?_, waits := ?_ }
      · exact fun other here => absurd (telling.idle.symm.trans here) nofun
      · intro other retries
        rw [retryLogin] at retries
        split_ifs at retries with this
        refine (telling.retries other retries).imp_left fun member => ?_
        exact (List.mem_cons.mp member).resolve_left this
      · intro other member
        have apart : other ≠ id := fun this => once (this ▸ member)
        rw [retryLogin, if_neg apart]
        exact telling.waits other (List.mem_cons_of_mem _ member)
    have told : Telling interaction later
        (taken.emit (.reopened interaction id)) :=
      taking.emit rfl nofun ⟨telling.told, waits, unanswered⟩
    exact told.apart tended_openOperation.apart
  · rename_i settles
    rw [Bool.not_eq_true] at settles
    rw [settles] at waits
    have told : Telling interaction later
        ((detachWaiterCancel world id).emit
          (.told interaction id (world.interactions interaction).outcome)) :=
      (telling.tail settles).emit rfl nofun
        ⟨telling.told, telling.ended, waits, unanswered⟩
    exact told.apart tended_applyLoginOutcome.apart

theorem telling_finishWaiters
    (accounted : Accounted later world)
    (telling : Telling interaction later world) (nodup : later.Nodup) :
    Telling interaction [] (later.foldl (finishWaiter interaction) world) := by
  induction later generalizing world with
  | nil => exact telling
  | cons id rest ih =>
      have ⟨once, nodup⟩ := List.nodup_cons.mp nodup
      exact ih (accounted_finishWaiter accounted)
        (telling_finishWaiter accounted telling once) nodup

/-- The login in hand is settled. -/
theorem shared_finishLogin
    (accounted : Accounted [] world)
    (shared : Shared [] (some interaction) world)
    (clean : (world.interactions interaction).outcome ≠ .ok →
      .loggedIn interaction ∈ world.trace →
        Undone interaction (world.interactions interaction).outcome
          world.trace) :
    Shared [] none (finishLogin world interaction) := by
  have ⟨current, finished, _⟩ := shared.of_held rfl
  have here := shared.current interaction current
  have recent : interaction < world.nextInteraction := by
    rw [shared.latest interaction current]
    exact Nat.lt_succ_self interaction
  have hand := accounted_settle interaction accounted
  rw [List.append_nil] at hand
  refine (telling_finishWaiters hand ?_ accounted.waiters_nodup).toShared
  refine ⟨⟨⟨rfl, rfl, ?_, nofun, shared.busy⟩, nofun, ?_, ?_, ?_, ?_⟩,
    rfl, recent, List.mem_cons_self ..,
    List.mem_cons_of_mem _ (here.ended finished), ?_⟩
  · intro other
    have balance := shared.balance other
    show releasesFor world other + (if (world.interactions other
      ).conversation.finished then 0 else 1) + 0 = 0
    by_cases this : interaction = other
    · have same : some interaction = some other := congrArg some this
      rw [current, if_pos same] at balance
      omega
    · have apart : ¬some interaction = some other :=
        fun same => this (Option.some.inj same)
      rw [current, if_neg apart] at balance
      exact balance
  · intro other known _
    by_cases this : other = interaction
    · rw [this]
      exact List.mem_cons_self ..
    · refine List.mem_cons_of_mem _ (shared.settled other known ?_)
      rw [current]
      exact fun same => this (Option.some.inj same).symm
  · intro event member other mentions
    rcases List.mem_cons.mp member with rfl | member
    · cases mentions
      exact recent
    · exact shared.known event member other mentions
  · intro id retries
    rcases shared.retries id retries with later | waits | answered
    · cases later
    · exact .inl waits
    · exact .inr (.inr answered.cons)
  · exact each_cons.mpr
      ⟨⟨here.unsettled, _, here.ended finished, clean⟩, shared.proper⟩
  · exact fun id waits => waits_cons (here.waiters id waits) nofun

theorem shared_onPinDone {outcome : CertificatePinOutcome}
    (accounted : Accounted [] world) (shared : Shared [] none world)
    (quiet : (world.interactions interaction).conversation.quiet = true) :
    Shared [] none (onPinDone world interaction outcome) := by
  let kept := keptOutcome (world.interactions interaction) outcome
  let login : LoginInteraction :=
    { world.interactions interaction with
      outcome := kept
      cancelled := (world.interactions interaction).cancelled ||
        (kept ≠ .ok && (world.interactions interaction).performedLogin)
      conversation := .closed }
  have cancelled : (world.interactions interaction).cancelled = true →
      login.cancelled = true := fun cancelled => by
    show (_ || _) = true
    rw [cancelled, Bool.true_or]
  have ended := shared_ended shared quiet cancelled rfl
    cancelled_of_keptOutcome rfl
  let next := (world.setInteraction interaction login).emit
    (.ended interaction kept)
  have here : next.interactions interaction = login :=
    Function.update_self ..
  have counted : Accounted [] next :=
    accounted.moved (moved_setInteraction.trans (moved_emit fun _ => rfl))
  unfold onPinDone
  dsimp only
  split
  · rename_i undone
    refine shared_releaseDeviceAsyncFull ended ?_
    show (next.interactions interaction).cancelled = true ∧
      (next.interactions interaction).outcome ≠ .ok
    rw [here]
    refine ⟨?_, ?_⟩
    · show (_ || _) = true
      rw [show (decide (kept ≠ .ok) && _) = true from undone, Bool.or_true]
    · simp only [Bool.and_eq_true, decide_eq_true_eq] at undone
      exact undone.1
  · rename_i wanted
    refine shared_finishLogin counted ended ?_
    show (next.interactions interaction).outcome ≠ .ok → _
    rw [here]
    intro failed member
    have ⟨current, _⟩ := ended.of_held rfl
    have performed := ((ended.current interaction current).performed member).1
    rw [show ((world.setInteraction interaction login).emit _).interactions
      interaction = login from here] at performed
    simp only [Bool.and_eq_true, decide_eq_true_eq, not_and] at wanted
    exact absurd performed (wanted failed)

/-! ## Releases -/

theorem releasesFor_releaseThread
    (member : some interaction ∈ world.releases) (other : Nat) :
    releasesFor (releaseThread world (some interaction)) other =
      releasesFor world other := by
  have perm := (List.perm_cons_erase member).count_eq (some other)
  simp only [releasesFor, releaseThread, World.emit, List.count_append,
    List.count_cons, List.count_nil, World.useDevice] at perm ⊢
  omega

theorem shared_releaseThread (shared : Shared [] none world)
    (member : some interaction ∈ world.releases) :
    Shared [] none (releaseThread world (some interaction)) := by
  have releasing : 0 < releasesFor world interaction :=
    Nat.add_pos_left (List.count_pos_iff.mpr member) _
  have ⟨current, finished, _⟩ := shared.of_releasing releasing
  have used : Apart world
      (world.useDevice (certificateDeviceClose ⟨world.device, []⟩)) :=
    apart_useDevice
  have here := (shared.current interaction current).apart used
  have ended := here.ended (by rw [used.interactions]; exact finished)
  have noted : Current []
      ((world.useDevice (certificateDeviceClose ⟨world.device, []⟩)).emit
        (.released interaction)) interaction :=
    here.emit (fun _ asked => .inr (asked_of_cons asked nofun nofun)) nofun
      nofun nofun nofun nofun
  have told : Shared [] none
      ((world.useDevice (certificateDeviceClose ⟨world.device, []⟩)).emit
        (.released interaction)) :=
    (shared.apart used).emit current rfl
      ⟨_, (here.releasing (used.releasesFor ▸ releasing)).2, ended⟩ noted
  refine { told with balance := ?_, current := ?_ }
  · intro other
    rw [releasesFor_releaseThread member]
    exact shared.balance other
  · intro other there
    cases Option.some.inj (current.symm.trans there)
    refine { noted with releasing := ?_, released := ?_ }
    · intro releasing
      rw [releasesFor_releaseThread member] at releasing
      exact noted.releasing releasing
    · exact fun _ => since_now ended

theorem releasesFor_erase (member : some interaction ∈ world.released)
    (other : Nat) :
    releasesFor
        { world with released := world.released.erase (some interaction) }
        other + (if some interaction = some other then 1 else 0) =
      releasesFor world other := by
  have perm := (List.perm_cons_erase member).count_eq (some other)
  simp only [releasesFor, List.count_cons, beq_iff_eq] at perm ⊢
  omega

theorem shared_onDeviceReleased {login : Option Nat}
    (accounted : Accounted [] world) (shared : Shared [] none world)
    (member : login ∈ world.released) :
    Shared [] none (onDeviceReleased world login) := by
  cases login with
  | none =>
      have taken : Apart world
          { world with released := world.released.erase none } :=
        ⟨rfl, fun _ => rfl,
          fun _ => List.count_erase_of_ne (by exact nofun), fun _ => rfl,
          .refl _⟩
      exact shared.apart taken
  | some interaction =>
      have releasing : 0 < releasesFor world interaction :=
        Nat.add_pos_right _ (List.count_pos_iff.mpr member)
      have ⟨current, _⟩ := shared.of_releasing releasing
      have here := shared.current interaction current
      have undone := here.released member
      let taken : World :=
        { world with released := world.released.erase (some interaction) }
      have held : Shared [] (some interaction) taken := by
        refine { shared with balance := ?_, current := ?_ }
        · intro other
          have balance := shared.balance other
          have count : releasesFor taken other +
              (if some interaction = some other then 1 else 0) =
                releasesFor world other := releasesFor_erase member other
          rw [if_neg (show ¬none = some other from nofun)] at balance
          show releasesFor taken other + (if (world.interactions other
            ).conversation.finished then 0 else 1) + _ =
              if world.loginCancellable = some other then 1 else 0
          omega
        · intro other there
          cases Option.some.inj (current.symm.trans there)
          exact { here with
            releasing := fun _ => here.releasing releasing
            released := fun _ => undone }
      have counted : Accounted [] taken :=
        accounted.moved ⟨fun _ => rfl, rfl, fun _ => rfl, fun _ => rfl⟩
      exact shared_finishLogin counted held fun _ _ => undone

/-! ## Runs -/

/-- What is in hand waits for nothing. -/
theorem settled_of_hand
    (accounted : Accounted later world) (shared : Shared [] none world)
    (member : id ∈ later) :
    (world.operations id).retryLogin = false := by
  by_contra retries
  rw [Bool.not_eq_false] at retries
  rcases shared.retries id retries with later | waits | answered
  · cases later
  · exact accounted.not_waiting member waits
  · exact unanswered_of_hand accounted member answered

/-- An operation that is still to come waits for nothing. -/
theorem settled_of_unknown
    (accounted : Accounted later world) (shared : Shared [] none world) :
    (world.operations world.nextOperation).retryLogin = false := by
  by_contra retries
  rw [Bool.not_eq_false] at retries
  rcases shared.retries _ retries with later | waits | answered
  · cases later
  · have placed := accounted.placed world.nextOperation
    have there := List.count_pos_iff.mpr waits
    rw [if_neg (fun known => Nat.lt_irrefl _ known.1), load] at placed
    omega
  · exact Nat.lt_irrefl _ (known_of_answered accounted answered).1

theorem shared_onOpened {opened : Except Failure Bool} {display : Bool}
    (accounted : Accounted [id] world) (shared : Shared [] none world) :
    Shared [] none (onOpened world id opened display) := by
  have member : id ∈ [id] := List.mem_singleton_self id
  unfold onOpened
  dsimp only
  split
  · exact shared.apart tended_failTask.apart
  · split
    · exact shared.apart tended_operationFail.apart
    · split_ifs with progress
      · split
        · rename_i interaction current
          exact shared_joinLogin shared current
            (accounted.not_waiting member)
            (unanswered_of_hand accounted member)
        · exact shared.apart tended_operationFail.apart
      · exact shared.apart tended_openOperation.apart
      · have asked := shared_askLogin shared (by simpa using progress)
          (settled_of_hand accounted shared member)
        unfold beginLogin
        split
        · exact asked
        · refine shared_onPinDone (accounted_askLogin accounted) asked ?_
          show ((Function.update world.interactions world.nextInteraction
            (.new .start)) world.nextInteraction).conversation.quiet = true
          rw [Function.update_self]
          rfl
      · exact shared.apart tended_runOperation.apart

theorem shared_step {action : Action}
    (accounted : Accounted [] world) (shared : Shared [] none world)
    (moves : step world action = some next) : Shared [] none next := by
  cases action with
  | perform =>
      cases moves
      exact shared.apart
        (apart_brokerPerform (settled_of_unknown accounted shared))
  | tick =>
      cases moves
      exact shared.apart (apart_update rfl rfl rfl rfl rfl)
  | cancel =>
      rw [step] at moves
      split_ifs at moves
      cases moves
      exact shared.apart tended_cancelOperation.apart
  | close =>
      cases moves
      exact shared.apart tended_sessionClose.apart
  | openThread =>
      rw [step] at moves
      split_ifs at moves
      cases moves
      exact shared.apart (apart_openThread.trans apart_returnOpen)
  | opened =>
      rcases Option.map_eq_some_iff.mp moves with
        ⟨⟨id, opened⟩, entry, rfl⟩
      exact shared_onOpened (accounted.moved (moved_takeOpened entry))
        (shared.apart (apart_update rfl rfl rfl rfl rfl))
  | signThread =>
      rw [step] at moves
      split_ifs at moves
      cases moves
      exact shared.apart apart_signThread
  | signPerform =>
      rw [step] at moves
      split at moves
      all_goals cases moves
      exact shared.apart apart_signPerform
  | promptContext =>
      rw [step] at moves
      split at moves
      all_goals cases moves
      exact shared.apart
        ((apart_emit (by rfl)).trans (apart_update rfl rfl rfl rfl rfl))
  | contextPrompt =>
      rw [step, contextPrompt] at moves
      split at moves
      · rcases Option.map_eq_some_iff.mp moves with ⟨later, -, rfl⟩
        exact shared.apart (apart_update rfl rfl rfl rfl rfl)
      · cases moves
  | contextLogin =>
      rw [step, contextLogin] at moves
      split at moves
      · split_ifs at moves
        cases moves
        exact shared.apart
          (apart_doContextLogin.trans (apart_update rfl rfl rfl rfl rfl))
      · cases moves
  | contextDone =>
      rw [step, contextDone] at moves
      split at moves
      · split_ifs at moves
        cases moves
        exact shared.apart (apart_update rfl rfl rfl rfl rfl)
      · cases moves
  | signResume =>
      rw [step] at moves
      split at moves
      · split_ifs at moves
        cases moves
        exact shared.apart apart_signResume
      · cases moves
  | signed =>
      rcases Option.map_eq_some_iff.mp moves with ⟨⟨id, signed⟩, -, rfl⟩
      have taken (index : Nat) : Apart world
          { world with signed := world.signed.eraseIdx index } :=
        apart_update rfl rfl rfl rfl rfl
      exact shared.apart ((taken _).trans tended_onSigned.apart)
  | prompt => exact shared_promptStep shared moves
  | login =>
      rw [step] at moves
      split_ifs at moves with ready
      cases moves
      exact shared_doLogin shared ready.1
  | endLogin =>
      rw [step] at moves
      split_ifs at moves with holding
      cases moves
      exact shared_endLogin shared holding
  | pinDone =>
      rw [step] at moves
      split_ifs at moves with quiet
      cases moves
      exact shared_onPinDone accounted shared quiet
  | release login =>
      rw [step] at moves
      split_ifs at moves with ready
      cases moves
      cases login with
      | none => exact shared.apart apart_releaseThread
      | some => exact shared_releaseThread shared ready.1
  | released =>
      rw [step] at moves
      split_ifs at moves with member
      cases moves
      exact shared_onDeviceReleased accounted shared member
  | waiterCancelled =>
      rw [step] at moves
      split_ifs at moves
      cases moves
      exact shared_waiterCancelledIdle accounted shared

/-- What is kept holds in every reachable state. -/
theorem shared_of_reachable (reachable : machine.Reachable world) :
    Shared [] none world := by
  refine reachable.invariant ?_ fun _ _ _ before shared =>
    shared_step (accounted_of_reachable before) shared
  rintro _ ⟨session, now, -, rfl⟩
  constructor
  case toBalanced => exact ⟨rfl, rfl, fun _ => rfl, nofun, fun _ _ => rfl⟩
  case current => exact fun _ current => absurd current nofun
  case settled => exact fun _ known => absurd known (Nat.not_lt_zero _)
  case known => exact fun _ member => absurd member List.not_mem_nil
  case retries => exact fun _ retries => Bool.noConfusion retries
  case proper => exact each_nil

end PortalCertificate.Broker.Sharing
