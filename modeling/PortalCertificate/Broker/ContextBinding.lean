import PortalCertificate.Broker.SharedLogin

/-!
# Authentication for one operation

While an operation waits for its own PIN, the lock of the device is free, and
the device may be closed and opened again.  The PIN is given, and the result
asked for, in the session in which the operation was initialised, as long as
a module does not use the handle of a session again.
-/

namespace PortalCertificate.Broker.ContextBinding

open PortalCertificate.Broker.Device hiding Event State
open PortalCertificate.Broker.DeviceBinding
  (exampleOpen exampleToken refreshLogin_cases)
open PortalCertificate.Broker.Ledger
  (Tells Tended tended_applyLoginOutcome tended_cancelOperation
    tended_failTask tended_onSigned tended_openOperation
    tended_operationFail tended_runOperation tended_sessionClose)
open PortalCertificate.Broker.Login
open PortalCertificate.Broker.Machine
open PortalCertificate.Broker.Operations
open PortalCertificate.Broker.SharedLogin
open PortalCertificate.Core.Coordinator (CertificatePinOutcome)
open PortalCertificate.Glib
open PortalCertificate.Library.Der (Octets)
open PortalCertificate.Library.Trace
open PortalCertificate.Library.Transition
open PortalCertificate.Pkcs11
open PortalCertificate.Tokens.Discovery

variable {world next : World} {id interaction : Nat} {handle : CkUlong}
  {failure : Failure} {trace later : List Event}

/-! ## What a history tells -/

/-- The handle of a session that is opened. -/
def openedHandle : Event → Option CkUlong
  | .device (.opened session _) => some session
  | _ => none

/-- No handle of a session is used twice. -/
def Fresh (trace : List Event) : Prop :=
  (trace.filterMap openedHandle).Nodup

/-- The device is not closed, and no operation is initialised. -/
def Undisturbed : Event → Prop
  | .device .closed | .initialised _ _ => False
  | _ => True

/-- An operation has been initialised, and nothing has disturbed it. -/
def Ready (id : Nat) (handle : CkUlong) : List Event → Prop :=
  Since (.initialised id handle) Undisturbed fun _ => True

/-- The token authenticates and finishes the operation that is ready. -/
def Bound : Event → List Event → Prop
  | .contextLogin id handle, before => Ready id handle before
  | .submitted id handle _, before => Ready id handle before
  | _, _ => True

/-- No session is opened or closed. -/
def Calm : Device.Event → Prop
  | .opened _ _ | .closed => False
  | _ => True

/-- Events that are neither about a session nor about the use of a key. -/
def Elsewhere : Event → Prop
  | .device event => Calm event
  | .initialised _ _ | .contextLogin _ _ | .submitted _ _ _ => False
  | _ => True

theorem bound_of_elsewhere {event : Event} (elsewhere : Elsewhere event) :
    Bound event trace := by
  cases event
  all_goals trivial

theorem undisturbed_of_elsewhere {event : Event}
    (elsewhere : Elsewhere event) : Undisturbed event := by
  cases event
  case device event => cases event <;> trivial
  all_goals trivial

theorem openedHandle_of_elsewhere {event : Event}
    (elsewhere : Elsewhere event) : openedHandle event = none := by
  cases event
  case device event => cases event <;> first | rfl | cases elsewhere
  all_goals rfl

theorem opened_append {news : List Event}
    (member : handle ∈ trace.filterMap openedHandle) :
    handle ∈ (news ++ trace).filterMap openedHandle := by
  rw [List.filterMap_append]
  exact List.mem_append_right _ member

theorem Fresh.of_adds {kinds : Event → Prop} (fresh : Fresh later)
    (adds : Adds kinds trace later) : Fresh trace := by
  rcases adds with ⟨news, rfl, -⟩
  rw [Fresh, List.filterMap_append] at fresh
  exact fresh.of_append_right

/-! ## Between two steps -/

/-- The session in which the operation with the lock was initialised. -/
def handleOf : Stage → Option CkUlong
  | .checked => none
  | .asking handle | .prompting handle _ | .told handle _ => some handle

/-- While the device has the session in which the operation with the lock was
initialised, the operation is ready. -/
structure Held (world : World) : Prop where
  opened : world.device.module.isSome = true →
    world.device.session ∈ world.trace.filterMap openedHandle
  initialised : ∀ id stage handle,
    world.signing = some (id, stage) → handleOf stage = some handle →
      handle ∈ world.trace.filterMap openedHandle ∧
        (world.device.module.isSome = true →
          world.device.session = handle → Ready id handle world.trace)
  bound : Each Bound world.trace

/-- Nothing has happened to the session of the device. -/
structure Aside (world next : World) : Prop where
  module : next.device.module = world.device.module
  session : next.device.session = world.device.session
  signing : next.signing = world.signing
  trace : Adds Elsewhere world.trace next.trace

theorem Aside.refl (world : World) : Aside world world :=
  ⟨rfl, rfl, rfl, .refl _⟩

theorem Aside.trans {third : World} (first : Aside world next)
    (second : Aside next third) : Aside world third where
  module := second.module.trans first.module
  session := second.session.trans first.session
  signing := second.signing.trans first.signing
  trace := first.trace.trans second.trace

theorem filterMap_of_adds (adds : Adds Elsewhere trace later) :
    later.filterMap openedHandle = trace.filterMap openedHandle := by
  rcases adds with ⟨news, rfl, fits⟩
  have none : news.filterMap openedHandle = [] :=
    List.filterMap_eq_nil_iff.mpr fun event member =>
      openedHandle_of_elsewhere (fits event member)
  rw [List.filterMap_append, none, List.nil_append]

theorem Held.aside (held : Held world) (aside : Aside world next) :
    Held next where
  opened := by
    rw [aside.module, aside.session, filterMap_of_adds aside.trace]
    exact held.opened
  initialised id stage handle signing stands := by
    rw [aside.signing] at signing
    rw [aside.module, aside.session, filterMap_of_adds aside.trace]
    have ⟨opened, ready⟩ := held.initialised id stage handle signing stands
    exact ⟨opened, fun module same => (ready module same).adds
      (aside.trace.mono fun _ => undisturbed_of_elsewhere)⟩
  bound := aside.trace.each held.bound fun _ _ => bound_of_elsewhere

/-- The worker with the lock goes on with the same session, or gives the lock
up. -/
theorem Held.stage {signing : Option (Nat × Stage)} {locked : Bool}
    (held : Held world)
    (same : ∀ id stage handle, signing = some (id, stage) →
      handleOf stage = some handle →
        ∃ earlier, world.signing = some (id, earlier) ∧
          handleOf earlier = some handle) :
    Held { world with signing := signing, deviceLocked := locked } where
  opened := held.opened
  initialised id stage handle here stands := by
    rcases same id stage handle here stands with ⟨earlier, there, stood⟩
    exact held.initialised id earlier handle there stood
  bound := held.bound

/-! ## The coordinator -/

theorem aside_emit {event : Event} (elsewhere : Elsewhere event) :
    Aside world (world.emit event) :=
  ⟨rfl, rfl, rfl, (Adds.refl _).cons elsewhere⟩

/-- The parts of a world that are not about the token are changed. -/
theorem aside_update (device : next.device = world.device)
    (signing : next.signing = world.signing)
    (trace : next.trace = world.trace) : Aside world next :=
  ⟨congrArg _ device, congrArg _ device, signing, by
    rw [trace]
    exact .refl _⟩

theorem aside_setOperation {operation : PendingOperation} :
    Aside world (world.setOperation id operation) :=
  aside_update rfl rfl rfl

theorem aside_setInteraction {login : LoginInteraction} :
    Aside world (world.setInteraction interaction login) :=
  aside_update rfl rfl rfl

theorem elsewhere_of_tells {event : Event} (tells : Tells event) :
    Elsewhere event := by
  cases event
  all_goals trivial

theorem aside_of_tended (tended : Tended world next) : Aside world next where
  module := congrArg _ tended.device
  session := congrArg _ tended.device
  signing := tended.signing
  trace := tended.trace.mono fun _ => elsewhere_of_tells

theorem aside_foldl {Index : Type} {body : World → Index → World}
    (leaves : ∀ world index, Aside world (body world index))
    (indices : List Index) : Aside world (indices.foldl body world) := by
  induction indices generalizing world with
  | nil => exact .refl _
  | cons index rest ih => exact (leaves world index).trans ih

theorem aside_finishWaiter :
    Aside world (finishWaiter interaction world id) := by
  have detached : Aside world (detachWaiterCancel world id) :=
    aside_setOperation
  unfold finishWaiter
  dsimp only
  split
  · exact ((detached.trans aside_setOperation).trans
      (aside_emit (by trivial))).trans (aside_of_tended tended_openOperation)
  · exact (detached.trans (aside_emit (by trivial))).trans
      (aside_of_tended tended_applyLoginOutcome)

theorem aside_finishLogin : Aside world (finishLogin world interaction) := by
  have settled : Aside world
      ({ world with
        loginInProgress := false
        loginGeneration := world.loginGeneration + 1
        loginWaiters := none
        loginCancellable := none }.emit (.settled interaction)) :=
    ⟨rfl, rfl, rfl, (Adds.refl _).cons trivial⟩
  exact settled.trans (aside_foldl (fun _ _ => aside_finishWaiter) _)

theorem aside_onPinDone {outcome : CertificatePinOutcome} :
    Aside world (onPinDone world interaction outcome) := by
  have ended {login : LoginInteraction} {kept : CertificatePinOutcome} :
      Aside world ((world.setInteraction interaction login).emit
        (.ended interaction kept)) :=
    aside_setInteraction.trans (aside_emit trivial)
  unfold onPinDone
  dsimp only
  split
  · exact ended.trans (aside_update rfl rfl rfl)
  · exact ended.trans aside_finishLogin

theorem aside_waiterCancelledIdle :
    Aside world (waiterCancelledIdle world id) := by
  have left : Aside world
      (detachWaiterCancel ((world.setOperation id
        { world.operations id with
          loginCancelIdle := false }).removeWaiter id) id) :=
    aside_update rfl rfl rfl
  unfold waiterCancelledIdle
  dsimp only
  split
  · split
    · exact (left.trans (aside_of_tended tended_operationFail)).trans
        (aside_setInteraction.trans (aside_emit trivial))
    · exact left.trans (aside_of_tended tended_operationFail)
  · exact aside_setOperation

theorem aside_askLogin : Aside world (askLogin world id) :=
  ⟨rfl, rfl, rfl, (Adds.refl _).cons trivial⟩

theorem aside_onOpened {opened : Except Failure Bool} {display : Bool} :
    Aside world (onOpened world id opened display) := by
  unfold onOpened
  dsimp only
  split
  · exact aside_of_tended tended_failTask
  · split
    · exact aside_of_tended tended_operationFail
    · split_ifs
      · split
        · exact ⟨rfl, rfl, rfl, (Adds.refl _).cons trivial⟩
        · exact aside_of_tended tended_operationFail
      · exact aside_of_tended tended_openOperation
      · unfold beginLogin
        split
        · exact aside_askLogin
        · exact aside_askLogin.trans aside_onPinDone
      · exact aside_of_tended tended_runOperation

theorem aside_brokerPerform {decrypt : Bool}
    {operationId mechanismName : Option String}
    {parameters : Option Vardict} {data : Octets} :
    Aside world (brokerPerform world decrypt operationId mechanismName
      parameters data) := by
  unfold brokerPerform
  split
  · exact aside_emit trivial
  · exact ⟨rfl, rfl, rfl, (Adds.refl _).cons trivial⟩

theorem aside_onDeviceReleased {login : Option Nat} :
    Aside world (onDeviceReleased world login) := by
  have taken : Aside world
      { world with released := world.released.erase login } :=
    aside_update rfl rfl rfl
  cases login with
  | none => exact taken
  | some => exact taken.trans aside_finishLogin

/-! ## The device -/

/-- The device has kept its session. -/
structure Stays (earlier later : Device.State) : Prop where
  module : later.device.module = earlier.device.module
  session : later.device.session = earlier.device.session
  trace : Adds Calm earlier.trace later.trace

theorem Stays.refl (state : Device.State) : Stays state state :=
  ⟨rfl, rfl, .refl _⟩

theorem Stays.trans {first second third : Device.State}
    (here : Stays first second) (there : Stays second third) :
    Stays first third where
  module := there.module.trans here.module
  session := there.session.trans here.session
  trace := here.trace.trans there.trace

theorem stays_findPrivateKey (state : Device.State)
    (candidate : CertificateCandidate) (found : Option (List CkUlong)) :
    Stays state (findPrivateKey state candidate found) := by
  unfold findPrivateKey
  split <;> exact ⟨rfl, rfl, (Adds.refl _).cons trivial⟩

theorem stays_noteLogin (state : Device.State) (loggedIn : Bool) :
    Stays state (noteLogin state loggedIn) :=
  ⟨rfl, rfl, (Adds.refl _).cons trivial⟩

theorem stays_refreshLogin (state : Device.State)
    (info : Except CkUlong CkUlong) (found : Option (List CkUlong)) :
    Stays state (certificateDeviceRefreshLogin state info found).1 := by
  rcases refreshLogin_cases state info found with
    same | ⟨loggedIn, noted | ⟨own, -, searched⟩⟩
  · rw [same]
    exact .refl state
  · rw [noted]
    exact stays_noteLogin state loggedIn
  · rw [searched]
    exact (stays_noteLogin state loggedIn).trans (stays_findPrivateKey ..)

theorem stays_deviceLogin (state : Device.State)
    (candidate : CertificateCandidate) (rv : CkUlong)
    (found : Option (List CkUlong)) :
    Stays state (certificateDeviceLogin state candidate rv found).1 := by
  unfold certificateDeviceLogin
  split_ifs
  · exact .refl state
  · exact .refl state
  · dsimp only
    split_ifs
    · exact (stays_noteLogin state true).trans (stays_findPrivateKey ..)
    · exact stays_noteLogin state true

/-- A session that is there has just been opened. -/
def Reopened (state : Device.State) : Prop :=
  state.device.module.isSome = true →
    ∃ token, .opened state.device.session token ∈ state.trace

theorem Reopened.stays {first second : Device.State}
    (reopened : Reopened first) (stays : Stays first second) :
    Reopened second := by
  intro module
  rw [stays.module] at module
  rcases reopened module with ⟨token, opened⟩
  rw [stays.session]
  exact ⟨token, stays.trace.subset opened⟩

theorem reopened_openSession (state : Device.State)
    (candidate : CertificateCandidate) (answers : OpenAnswers) :
    Reopened (openSession state candidate answers).1 := by
  unfold openSession
  dsimp only
  split
  · exact fun module => Bool.noConfusion module
  · refine Reopened.stays (fun _ => ?_)
      ((stays_findPrivateKey ..).trans (stays_refreshLogin ..))
    exact ⟨_, List.mem_cons_self ..⟩

theorem deviceOpen_cases (state : Device.State)
    (candidate : CertificateCandidate) (answers : OpenAnswers) :
    Stays state (certificateDeviceOpen state candidate answers).1 ∨
      Reopened (certificateDeviceOpen state candidate answers).1 := by
  unfold certificateDeviceOpen
  split_ifs
  · exact .inl (stays_refreshLogin ..)
  · exact .inr (reopened_openSession _ candidate answers)
  · exact .inr (reopened_openSession _ candidate answers)

theorem not_isSome_close (state : Device.State) :
    ¬(certificateDeviceClose state).device.module.isSome = true := by
  unfold certificateDeviceClose
  split
  · rename_i none
    rw [none]
    exact Bool.noConfusion
  · exact Bool.noConfusion

theorem aside_useDevice {state : Device.State}
    (stays : Stays ⟨world.device, []⟩ state) :
    Aside world (world.useDevice state) where
  module := stays.module
  session := stays.session
  signing := rfl
  trace := by
    refine ⟨state.trace.map .device, rfl, ?_⟩
    intro event member
    rcases List.mem_map.mp member with ⟨noted, past, rfl⟩
    exact (stays.trace.mem past).resolve_right List.not_mem_nil

/-- The device has a new session, or none. -/
theorem Held.reopened {state : Device.State} (held : Held world)
    (reopened : Reopened state)
    (fresh : Fresh (world.useDevice state).trace) :
    Held (world.useDevice state) := by
  let news := state.trace.map Event.device
  have opened (module : state.device.module.isSome = true) :
      state.device.session ∈ news.filterMap openedHandle := by
    rcases reopened module with ⟨token, opened⟩
    exact List.mem_filterMap.mpr
      ⟨_, List.mem_map.mpr ⟨_, opened, rfl⟩, rfl⟩
  have split : (world.useDevice state).trace = news ++ world.trace := rfl
  constructor
  case opened =>
      intro module
      rw [split, List.filterMap_append]
      exact List.mem_append_left _ (opened module)
  case initialised =>
      intro id stage handle signing stands
      have ⟨past, _⟩ := held.initialised id stage handle signing stands
      refine ⟨opened_append past, fun module same => ?_⟩
      rw [Fresh, split, List.filterMap_append] at fresh
      exact absurd past
        (List.disjoint_of_nodup_append fresh (same ▸ opened module))
  case bound =>
      refine held.bound.append fun event member before => ?_
      rcases List.mem_map.mp member with ⟨noted, -, rfl⟩
      trivial

/-! ## Workers -/

/-- A stretch that only adds to the history, and keeps what is kept. -/
structure Safe (world next : World) : Prop where
  grows : Adds (fun _ => True) world.trace next.trace
  keeps : Fresh next.trace → Held world → Held next

theorem Safe.trans {third : World} (first : Safe world next)
    (second : Safe next third) : Safe world third where
  grows := first.grows.trans second.grows
  keeps fresh held :=
    second.keeps fresh (first.keeps (fresh.of_adds second.grows) held)

theorem Aside.safe (aside : Aside world next) : Safe world next where
  grows := aside.trace.mono fun _ _ => trivial
  keeps _ held := held.aside aside

theorem safe_update (device : next.device = world.device)
    (signing : next.signing = world.signing)
    (trace : next.trace = world.trace) : Safe world next :=
  (aside_update device signing trace).safe

theorem safe_reopened {state : Device.State} (reopened : Reopened state) :
    Safe world (world.useDevice state) where
  grows := ⟨_, rfl, fun _ _ => trivial⟩
  keeps fresh held := held.reopened reopened fresh

theorem safe_close : Safe world
    (world.useDevice (certificateDeviceClose ⟨world.device, []⟩)) :=
  safe_reopened fun module => absurd module (not_isSome_close _)

theorem safe_ensureSessionLocked {answers : OpenAnswers} :
    Safe world (ensureSessionLocked world answers).1 := by
  unfold ensureSessionLocked
  split
  · exact (Aside.refl _).safe
  · rename_i candidate _
    rcases deviceOpen_cases ⟨world.device, []⟩ candidate answers with
      stays | reopened
    · exact (aside_useDevice stays).safe
    · exact safe_reopened reopened

theorem safe_openThread {answers : OpenAnswers} :
    Safe world (openThread world id answers).1 := by
  unfold openThread
  split
  · exact (Aside.refl _).safe
  · have locked : Safe world (ensureSessionLocked world answers).1 :=
      safe_ensureSessionLocked
    split
    all_goals
      rename_i result
      rw [result] at locked
      exact locked

/-- The worker with the lock goes on with the same session, or gives the lock
up. -/
theorem safe_stage {signing : Option (Nat × Stage)} {locked : Bool}
    (same : ∀ id stage handle, signing = some (id, stage) →
      handleOf stage = some handle →
        ∃ earlier, world.signing = some (id, earlier) ∧
          handleOf earlier = some handle) :
    Safe world { world with signing := signing, deviceLocked := locked } where
  grows := .refl _
  keeps _ held := by
    refine ⟨held.opened, ?_, held.bound⟩
    intro id stage handle here stands
    rcases same id stage handle here stands with ⟨earlier, there, stood⟩
    exact held.initialised id earlier handle there stood

theorem safe_returnSign {signed : Signed} :
    Safe world (returnSign world id signed) := by
  have given : Safe world
      { world with signing := none, deviceLocked := false } :=
    safe_stage nofun
  exact given.trans (safe_update rfl rfl rfl)

theorem safe_submit {result : Except CkUlong Octets}
    (ready : Held world → Ready id world.device.session world.trace) :
    Safe world (submit world id result) := by
  have submitted : Safe world
      (world.emit (.submitted id world.device.session world.now)) := by
    refine ⟨(Adds.refl _).cons trivial, fun _ held => ?_⟩
    refine ⟨held.opened, ?_, each_cons.mpr ⟨ready held, held.bound⟩⟩
    intro other stage handle signing stands
    have ⟨opened, still⟩ :=
      held.initialised other stage handle signing stands
    exact ⟨opened, fun module same => (still module same).cons trivial⟩
  exact submitted.trans safe_returnSign

theorem safe_signThread {info : Except CkUlong CkUlong}
    {found : Option (List CkUlong)} :
    Safe world (signThread world id info found) := by
  have locked : Safe world
      { world with
        signs := world.signs.erase id
        signing := some (id, .checked)
        deviceLocked := true } := by
    have checked : Safe world
        { world with
          signing := some (id, .checked), deviceLocked := true } := by
      refine safe_stage ?_
      intro other stage handle here stands
      cases here
      cases stands
    exact checked.trans (safe_update rfl rfl rfl)
  unfold signThread
  dsimp only
  split
  · exact (safe_update rfl rfl rfl)
  · split
    · exact locked
    · let taken : World :=
        { world with
          signs := world.signs.erase id
          signing := some (id, .checked)
          deviceLocked := true }
      have refreshed : Safe taken (taken.useDevice _) :=
        (aside_useDevice
          (stays_refreshLogin ⟨taken.device, []⟩ info found)).safe
      split
      · exact (locked.trans refreshed).trans safe_returnSign
      · exact locked.trans refreshed

/-- The operation with the lock is initialised. -/
theorem safe_initialised {signing : Option (Nat × Stage)} {locked : Bool}
    (module : world.device.module.isSome = true)
    (here : ∀ other stage handle, signing = some (other, stage) →
      handleOf stage = some handle →
        other = id ∧ handle = world.device.session) :
    Safe world
      { world.emit (.initialised id world.device.session) with
        signing := signing
        deviceLocked := locked } := by
  refine ⟨(Adds.refl _).cons trivial, fun _ held => ?_⟩
  refine ⟨held.opened, ?_, each_cons.mpr ⟨trivial, held.bound⟩⟩
  intro other stage handle there stands
  rcases here other stage handle there stands with ⟨rfl, rfl⟩
  exact ⟨held.opened module, fun _ _ => since_now trivial⟩

theorem safe_devicePerform {answers : SignAnswers}
    (module : world.device.module.isSome = true)
    (here : world.signing = some (id, .checked)) :
    Safe world (devicePerform world id answers) := by
  have entered : Aside world (world.emit (.entered id world.now)) :=
    aside_emit trivial
  have used : Aside world
      ((world.emit (.entered id world.now)).emit
        (.device (.used world.device.session world.device.privateKey))) :=
    entered.trans (aside_emit trivial)
  unfold devicePerform
  dsimp only
  split
  · exact entered.safe.trans safe_returnSign
  · split
    · exact used.safe.trans safe_returnSign
    · split
      · refine used.safe.trans (safe_initialised module ?_)
        intro other stage handle there stands
        cases there
        cases stands
        exact ⟨rfl, rfl⟩
      · refine (used.safe.trans (safe_initialised module ?_)).trans
          (safe_submit fun _ => since_now trivial)
        intro other stage handle there stands
        cases here.symm.trans there
        cases stands

theorem safe_signPerform {answers : SignAnswers}
    (here : world.signing = some (id, .checked)) :
    Safe world (signPerform world id answers) := by
  unfold signPerform
  split
  · exact safe_returnSign
  · split_ifs with closed
    · exact safe_returnSign
    · refine safe_devicePerform ?_ here
      rw [Bool.or_eq_true, not_or] at closed
      exact Option.isSome_iff_ne_none.mpr (by simpa using closed.1)

theorem contextAuthenticated_ok {outcome : CertificatePinOutcome}
    (authenticated : contextAuthenticated world id handle outcome = .ok ()) :
    world.device.module.isSome = true ∧ world.device.session = handle := by
  unfold contextAuthenticated at authenticated
  split at authenticated
  · cases authenticated
  · split at authenticated
    · cases authenticated
    · split at authenticated
      · cases authenticated
      · rename_i apart
        rw [Bool.or_eq_true, not_or, decide_eq_true_eq, not_not] at apart
        exact ⟨Option.isSome_iff_ne_none.mpr (by simpa using apart.1),
          apart.2⟩

theorem safe_signResume {outcome told : CertificatePinOutcome}
    {result : Except CkUlong Octets}
    (here : world.signing = some (id, .told handle told)) :
    Safe world (signResume world id handle outcome result) := by
  have kept : Safe world
      (world.setOperation id
        { world.operations id with contextOutcome := outcome }) :=
    aside_setOperation.safe
  unfold signResume
  dsimp only
  split
  · exact (kept.trans safe_close).trans safe_returnSign
  · rename_i authenticated
    have ⟨module, same⟩ := contextAuthenticated_ok authenticated
    refine kept.trans (safe_submit fun held => ?_)
    rw [same]
    exact (held.initialised id _ handle here rfl).2 module same

theorem safe_doContextLogin {rv : CkUlong} {conversation : Conversation}
    (here : world.signing = some (id, .prompting handle conversation)) :
    Safe world (doContextLogin world id handle rv).1 := by
  unfold doContextLogin
  split
  · exact (Aside.refl _).safe
  · split_ifs with other closed
    · exact (Aside.refl _).safe
    · exact (Aside.refl _).safe
    · rw [not_not] at other
      rw [Bool.or_eq_true, not_or] at closed
      have module : world.device.module.isSome = true :=
        Option.isSome_iff_ne_none.mpr (by simpa using closed.1)
      refine ⟨(Adds.refl _).cons trivial, fun _ held => ?_⟩
      have ready : Ready id world.device.session world.trace := by
        rw [other]
        exact (held.initialised id _ handle here rfl).2 module other
      refine ⟨held.opened, ?_, each_cons.mpr ⟨ready, held.bound⟩⟩
      intro other stage handle signing stands
      have ⟨opened, still⟩ :=
        held.initialised other stage handle signing stands
      exact ⟨opened, fun module same => (still module same).cons trivial⟩

theorem safe_doLogin {answers : OpenAnswers} :
    Safe world (doLogin world interaction answers) := by
  unfold doLogin
  split
  · exact aside_setInteraction.safe
  · have locked : Safe world (ensureSessionLocked world answers).1 :=
      safe_ensureSessionLocked
    split
    all_goals
      rename_i result
      rw [result] at locked
    · exact locked.trans aside_setInteraction.safe
    · exact locked.trans (safe_update rfl rfl rfl)

theorem safe_performLogin {rv : CkUlong} {found : Option (List CkUlong)} :
    Safe world (performLogin world interaction rv found).1 := by
  unfold performLogin
  split
  · exact (Aside.refl _).safe
  · rename_i candidate _
    have used : Aside world _ := aside_useDevice
      (stays_deviceLogin ⟨world.device, []⟩ candidate rv found)
    dsimp only
    split
    · exact (used.trans aside_setInteraction).safe
    · exact ((used.trans aside_setInteraction).trans
        (aside_emit (by trivial))).safe

theorem safe_endLogin {rv : CkUlong} {found : Option (List CkUlong)} :
    Safe world (endLogin world interaction rv found) := by
  have unlocked : Safe world { world with deviceLocked := false } :=
    (safe_update rfl rfl rfl)
  unfold endLogin
  dsimp only
  split
  · exact unlocked.trans aside_setInteraction.safe
  · split_ifs
    · exact unlocked.trans aside_setInteraction.safe
    · exact (unlocked.trans safe_performLogin).trans
        aside_setInteraction.safe

theorem safe_releaseThread {login : Option Nat} :
    Safe world (releaseThread world login) := by
  have closed : Safe world
      { world.useDevice (certificateDeviceClose ⟨world.device, []⟩) with
        releases := world.releases.erase login
        released := world.released ++ [login] } :=
    safe_close.trans (safe_update rfl rfl rfl)
  cases login with
  | none => exact closed
  | some => exact closed.trans (aside_emit (by trivial)).safe

/-! ## Runs -/

theorem safe_step {action : Action}
    (moves : step world action = some next) : Safe world next := by
  cases action with
  | perform =>
      cases moves
      exact aside_brokerPerform.safe
  | tick =>
      cases moves
      exact (safe_update rfl rfl rfl)
  | cancel =>
      rw [step] at moves
      split_ifs at moves
      cases moves
      exact (aside_of_tended tended_cancelOperation).safe
  | close =>
      cases moves
      exact (aside_of_tended tended_sessionClose).safe
  | openThread =>
      rw [step] at moves
      split_ifs at moves
      cases moves
      exact safe_openThread.trans (safe_update rfl rfl rfl)
  | opened index =>
      rcases Option.map_eq_some_iff.mp moves with ⟨⟨id, opened⟩, -, rfl⟩
      have taken : Aside world
          { world with opened := world.opened.eraseIdx index } :=
        aside_update rfl rfl rfl
      exact (taken.trans aside_onOpened).safe
  | signThread =>
      rw [step] at moves
      split_ifs at moves
      cases moves
      exact safe_signThread
  | signPerform =>
      rw [step] at moves
      split at moves
      · rename_i here
        cases moves
        exact safe_signPerform here
      · cases moves
  | promptContext display =>
      rw [step] at moves
      split at moves
      · rename_i id handle here
        cases moves
        refine (aside_emit (by trivial)).safe.trans (safe_stage ?_)
        intro other stage stood there stands
        cases there
        refine ⟨_, here, ?_⟩
        cases display
        all_goals exact stands
      · cases moves
  | contextPrompt =>
      rw [step, contextPrompt] at moves
      split at moves
      · rename_i here
        rcases Option.map_eq_some_iff.mp moves with ⟨later, -, rfl⟩
        refine safe_stage ?_
        intro other stage stood there stands
        cases there
        exact ⟨_, here, stands⟩
      · cases moves
  | contextLogin rv =>
      rw [step, contextLogin] at moves
      split at moves
      · rename_i id handle conversation here
        split_ifs at moves
        cases moves
        have signing : (doContextLogin world id handle rv).1.signing =
            world.signing := Places.signing_doContextLogin
        refine (safe_doContextLogin here).trans
          (safe_stage ?_)
        intro other stage stood there stands
        cases there
        exact ⟨_, signing.trans here, stands⟩
      · cases moves
  | contextDone =>
      rw [step, contextDone] at moves
      split at moves
      · rename_i here
        split_ifs at moves
        cases moves
        refine safe_stage ?_
        intro other stage stood there stands
        cases there
        exact ⟨_, here, stands⟩
      · cases moves
  | signResume =>
      rw [step] at moves
      split at moves
      · rename_i here
        split_ifs at moves
        cases moves
        exact safe_signResume here
      · cases moves
  | signed index =>
      rcases Option.map_eq_some_iff.mp moves with ⟨⟨id, signed⟩, -, rfl⟩
      have taken : Aside world
          { world with signed := world.signed.eraseIdx index } :=
        aside_update rfl rfl rfl
      exact (taken.trans (aside_of_tended tended_onSigned)).safe
  | prompt =>
      rcases Option.map_eq_some_iff.mp moves with ⟨later, -, rfl⟩
      exact aside_setInteraction.safe
  | login =>
      rw [step] at moves
      split_ifs at moves
      cases moves
      exact safe_doLogin
  | endLogin =>
      rw [step] at moves
      split_ifs at moves
      cases moves
      exact safe_endLogin
  | pinDone =>
      rw [step] at moves
      split_ifs at moves
      cases moves
      exact aside_onPinDone.safe
  | release =>
      rw [step] at moves
      split_ifs at moves
      cases moves
      exact safe_releaseThread
  | released =>
      rw [step] at moves
      split_ifs at moves
      cases moves
      exact aside_onDeviceReleased.safe
  | waiterCancelled =>
      rw [step] at moves
      split_ifs at moves
      cases moves
      exact aside_waiterCancelledIdle.safe

theorem held_of_reachable (reachable : machine.Reachable world) :
    Fresh world.trace → Held world := by
  refine @System.Reachable.invariant _ _ machine
    (fun world => Fresh world.trace → Held world) ?_ ?_ _ reachable
  · rintro _ ⟨session, now, -, rfl⟩ -
    exact ⟨nofun, nofun, each_nil⟩
  · intro world action next _ held moves fresh
    have safe := safe_step moves
    exact safe.keeps fresh (held (fresh.of_adds safe.grows))

/-- As long as handles of sessions are not used again, an operation is
authenticated, and its result asked for, in the session in which it was
initialised, which is still open and has no other operation. -/
theorem contexts_bound (reachable : machine.Reachable world)
    (fresh : Fresh world.trace) : Each Bound world.trace :=
  (held_of_reachable reachable fresh).bound

/-- C_Login on behalf of one operation. -/
def isContextLogin (id : Nat) : Event → Bool
  | .contextLogin other _ => other = id
  | _ => false

/-- The token is opened under this handle. -/
def exampleReopen (session key : CkUlong) : OpenAnswers :=
  { exampleOpen key with
    slots := [⟨0, some exampleToken, false, .ok session⟩] }

/-- The prompt of a login, up to where C_Login has succeeded. -/
def exampleLogin (interaction : Nat) (answers : OpenAnswers) : List Action :=
  [.prompt interaction .attempt, .login interaction answers,
    .endLogin interaction 0 none]

/-- A login that has succeeded is told. -/
def exampleTold (interaction : Nat) : List Action :=
  [.prompt interaction .judge, .pinDone interaction .ok]

/-- The token has initialised a signature, and asks for another PIN. -/
def exampleAsking (id : Nat) : List Action :=
  [.signThread id (.ok 1) none, .signPerform ⟨true, ckrOk, .ok []⟩,
    .promptContext true, .contextPrompt .attempt]

/-- The first operation asks for its PIN.  The second one logs in again and
is cancelled, so the device is closed; and the third one opens it. -/
def exampleReopened : List Action :=
  [exampleSign, .openThread 0 (exampleOpen 5), .opened 0 true] ++
  exampleLogin 0 (exampleOpen 5) ++ exampleTold 0 ++ exampleAsking 0 ++
  [exampleSign, .openThread 1 (exampleOpen 5), .opened 0 true] ++
  exampleLogin 1 (exampleOpen 5) ++ [.cancel 1, .waiterCancelled 1] ++
  exampleTold 1 ++ [.release (some 1), .released (some 1)] ++
  [exampleSign, .openThread 2 (exampleReopen 8 6), .opened 0 true] ++
  exampleLogin 2 (exampleReopen 8 6) ++ exampleTold 2

/-- The PIN of the first operation comes for a session that is gone, and the
third operation signs in a session of its own. -/
def exampleContext : List Action :=
  exampleReopened ++
  [.contextLogin ckrOk, .contextPrompt .judge, .contextDone .deviceError,
    .signResume (.ok [3, 4]), .signed 0] ++
  [.signThread 2 (.ok 1) none, .signPerform ⟨true, ckrOk, .ok []⟩,
    .signed 0, .openThread 2 (exampleReopen 9 6), .opened 0 true] ++
  exampleLogin 3 (exampleReopen 9 6) ++ exampleTold 3 ++ exampleAsking 2 ++
  [.contextLogin ckrOk, .contextPrompt .judge, .contextDone .ok,
    .signResume (.ok [3, 4])]

set_option maxRecDepth 4000 in
/-- Of the two operations that were initialised, only the one whose session
is still open is authenticated and submitted. -/
theorem contexts_bound_reopened :
    ∃ world,
      machine.run (.start exampleSession 0) exampleContext = some world ∧
        world.trace.filterMap openedHandle = [9, 8, 7] ∧
        .initialised 0 7 ∈ world.trace ∧
        (∀ handle, .contextLogin 0 handle ∉ world.trace) ∧
        ∃ before, world.trace = .submitted 2 9 0 :: before ∧
          Ready 2 9 before := by
  have run : ∃ world,
      machine.run (.start exampleSession 0) exampleContext = some world ∧
        world.trace.filterMap openedHandle = [9, 8, 7] ∧
        .initialised 0 7 ∈ world.trace ∧
        (∀ event ∈ world.trace, isContextLogin 0 event = false) ∧
        ∃ before, world.trace = .submitted 2 9 0 :: before :=
    ⟨_, rfl, rfl, by decide, by decide, _, rfl⟩
  rcases run with ⟨world, moved, opened, first, none, before, split⟩
  have fresh : Fresh world.trace := by
    rw [Fresh, opened]
    decide
  have bound := contexts_bound (exampleStart_reachable.run moved) fresh
  refine ⟨world, moved, opened, first, fun handle login => ?_, before, split,
    bound [] _ before split⟩
  cases none _ login

end PortalCertificate.Broker.ContextBinding
