import PortalCertificate.Broker.Places

/-!
# What is kept of a shared login

The login of a session in a world and in its history, and the functions that
leave it alone.
-/

namespace PortalCertificate.Broker.Ledger

open PortalCertificate.Broker.Device hiding Event State
open PortalCertificate.Broker.Login
open PortalCertificate.Broker.Machine
open PortalCertificate.Broker.Operations
open PortalCertificate.Broker.Places
open PortalCertificate.Core.Coordinator (CertificatePinOutcome)
open PortalCertificate.Core.Principals (XccSession)
open PortalCertificate.Glib
open PortalCertificate.Library.Der (Octets)
open PortalCertificate.Library.Trace
open PortalCertificate.Library.Transition
open PortalCertificate.Pkcs11

variable {world next : World} {later : List Nat} {held : Option Nat}
  {id interaction : Nat} {handle : CkUlong} {failure : Failure}
  {trace : List Event}

/-! ## What a history tells -/

/-- The login that an event is about. -/
def about : Event → Option Nat
  | .asked interaction _ | .joined interaction _ _ | .withdrawn interaction
  | .loggedIn interaction | .ended interaction _ | .released interaction
  | .settled interaction | .told interaction _ _
  | .reopened interaction _ => some interaction
  | _ => none

/-- An operation has waited for a login. -/
def Asked (interaction id : Nat) (trace : List Event) : Prop :=
  .asked interaction id ∈ trace ∨
    ∃ retries, .joined interaction id retries ∈ trace

/-- An operation waits for a login, or for its end in order to open the
device again. -/
def Waits
    (interaction id : Nat) (retries : Bool) (trace : List Event) : Prop :=
  if retries then .joined interaction id true ∈ trace
  else
    (.asked interaction id ∈ trace ∨
      .joined interaction id false ∈ trace) ∧
      .joined interaction id true ∉ trace

/-- The operation has its answer. -/
def Answered (id : Nat) (trace : List Event) : Prop :=
  ∃ result, .answered id result ∈ trace

/-- The device has been released for a login since it ended. -/
def Undone
    (interaction : Nat) (outcome : CertificatePinOutcome)
    (trace : List Event) : Prop :=
  Since (.released interaction) (fun _ => True)
    (fun earlier => .ended interaction outcome ∈ earlier) trace

/-- What has to be the case when something happens to a login. -/
def Proper : Event → List Event → Prop
  | .asked interaction _, before =>
      (∀ event ∈ before, about event ≠ some interaction) ∧
        ∀ earlier < interaction, .settled earlier ∈ before
  | .joined interaction _ retries, before =>
      .settled interaction ∉ before ∧
        (.withdrawn interaction ∈ before ∨
            (∃ outcome, .ended interaction outcome ∈ before) →
          retries = true)
  | .withdrawn interaction, before =>
      .settled interaction ∉ before ∧
        ∀ id, Asked interaction id before → Answered id before
  | .loggedIn interaction, before =>
      .loggedIn interaction ∉ before ∧
        ∀ outcome, .ended interaction outcome ∉ before
  | .ended interaction outcome, before =>
      (∀ earlier, .ended interaction earlier ∉ before) ∧
        (outcome = .ok → .withdrawn interaction ∉ before)
  | .released interaction, before =>
      ∃ outcome, outcome ≠ .ok ∧ .ended interaction outcome ∈ before
  | .settled interaction, before =>
      .settled interaction ∉ before ∧
        ∃ outcome, .ended interaction outcome ∈ before ∧
          (outcome ≠ .ok → .loggedIn interaction ∈ before →
            Undone interaction outcome before)
  | .told interaction id outcome, before =>
      .settled interaction ∈ before ∧
        .ended interaction outcome ∈ before ∧
        Waits interaction id false before ∧ ¬Answered id before
  | .reopened interaction id, before =>
      .settled interaction ∈ before ∧ Waits interaction id true before ∧
        ¬Answered id before
  | _, _ => True

theorem proper_of_elsewhere {event : Event} (elsewhere : about event = none) :
    Proper event trace := by
  cases event
  all_goals trivial

/-! ## Between two steps -/

/-- How many releases a login waits for. -/
def releasesFor (world : World) (interaction : Nat) : Nat :=
  world.releases.count (some interaction) +
    world.released.count (some interaction)

/-- No worker of the prompt calls the login function any more. -/
def Landed (conversation : Conversation) : Prop :=
  conversation.attempt = .returned true ∨
    conversation.attempt = .none ∧
      (conversation.succeeded = true ∨ conversation.finished = true)

/-- A login in progress has a prompt, waits for the release of the device, or
is held by the coordinator. -/
structure Balanced (held : Option Nat) (world : World) : Prop where
  waiting : world.loginWaiters.isSome = world.loginInProgress
  cancelling : world.loginCancellable.isSome = world.loginInProgress
  balance : ∀ interaction, releasesFor world interaction +
      (if (world.interactions interaction).conversation.finished then 0
        else 1) +
      (if held = some interaction then 1 else 0) =
    if world.loginCancellable = some interaction then 1 else 0
  latest : ∀ interaction, world.loginCancellable = some interaction →
    world.nextInteraction = interaction + 1
  busy : ∀ interaction,
    (world.interactions interaction).conversation.finished = true →
      (world.interactions interaction).conversation.attempt = .none

/-- The login in progress, and what the history tells of it. -/
structure Current
    (later : List Nat) (world : World) (interaction : Nat) : Prop where
  unsettled : .settled interaction ∉ world.trace
  waiters : ∀ id ∈ world.waiters, Waits interaction id
    (world.operations id).retryLogin world.trace
  left : ∀ id, Asked interaction id world.trace →
    id ∈ later ∨ id ∈ world.waiters ∨ Answered id world.trace
  withdrawn : .withdrawn interaction ∈ world.trace →
    (world.interactions interaction).cancelled = true
  talking :
    (world.interactions interaction).conversation.finished = false →
      ∀ outcome, .ended interaction outcome ∉ world.trace
  ended : (world.interactions interaction).conversation.finished = true →
    .ended interaction (world.interactions interaction).outcome ∈ world.trace
  releasing : 0 < releasesFor world interaction →
    (world.interactions interaction).cancelled = true ∧
      (world.interactions interaction).outcome ≠ .ok
  performed : .loggedIn interaction ∈ world.trace →
    (world.interactions interaction).performedLogin = true ∧
      Landed (world.interactions interaction).conversation
  released : some interaction ∈ world.released →
    Undone interaction (world.interactions interaction).outcome world.trace

/-- What is kept.  Later, some operations are still to be told or answered;
held is a login that the coordinator has in hand. -/
structure Shared
    (later : List Nat) (held : Option Nat) (world : World) : Prop
    extends Balanced held world where
  current : ∀ interaction, world.loginCancellable = some interaction →
    Current later world interaction
  settled : ∀ interaction < world.nextInteraction,
    world.loginCancellable ≠ some interaction →
      .settled interaction ∈ world.trace
  known : ∀ event ∈ world.trace, ∀ interaction,
    about event = some interaction → interaction < world.nextInteraction
  retries : ∀ id, (world.operations id).retryLogin = true →
    id ∈ later ∨ id ∈ world.waiters ∨ Answered id world.trace
  proper : Each Proper world.trace

/-! ## What is about no login -/

/-- The login of a session. -/
def ledger (world : World) :=
  (world.loginInProgress, world.loginWaiters, world.loginCancellable,
    world.interactions, world.nextInteraction)

/-- Nothing has happened to a login. -/
structure Apart (world next : World) : Prop where
  same : ledger next = ledger world
  releases : ∀ interaction, next.releases.count (some interaction) =
    world.releases.count (some interaction)
  released : ∀ interaction, next.released.count (some interaction) =
    world.released.count (some interaction)
  retries : ∀ id, (next.operations id).retryLogin =
    (world.operations id).retryLogin
  trace : Adds (fun event => about event = none) world.trace next.trace

namespace Apart

theorem inProgress (apart : Apart world next) :
    next.loginInProgress = world.loginInProgress :=
  congrArg (·.1) apart.same

theorem loginWaiters (apart : Apart world next) :
    next.loginWaiters = world.loginWaiters :=
  congrArg (·.2.1) apart.same

theorem waiters (apart : Apart world next) :
    next.waiters = world.waiters :=
  congrArg (·.getD []) apart.loginWaiters

theorem cancellable (apart : Apart world next) :
    next.loginCancellable = world.loginCancellable :=
  congrArg (·.2.2.1) apart.same

theorem interactions (apart : Apart world next) :
    next.interactions = world.interactions :=
  congrArg (·.2.2.2.1) apart.same

theorem latest (apart : Apart world next) :
    next.nextInteraction = world.nextInteraction :=
  congrArg (·.2.2.2.2) apart.same

theorem refl (world : World) : Apart world world :=
  ⟨rfl, fun _ => rfl, fun _ => rfl, fun _ => rfl, .refl _⟩

theorem trans {third : World} (first : Apart world next)
    (second : Apart next third) : Apart world third where
  same := second.same.trans first.same
  releases id := (second.releases id).trans (first.releases id)
  released id := (second.released id).trans (first.released id)
  retries id := (second.retries id).trans (first.retries id)
  trace := first.trace.trans second.trace

theorem mem_iff {event : Event} (apart : Apart world next)
    (mentions : about event = some interaction) :
    event ∈ next.trace ↔ event ∈ world.trace := by
  refine ⟨fun member => (apart.trace.mem member).resolve_left ?_,
    apart.trace.subset⟩
  rw [mentions]
  exact nofun

theorem asked_iff (apart : Apart world next) :
    Asked interaction id next.trace ↔ Asked interaction id world.trace :=
  or_congr (apart.mem_iff (by rfl))
    (exists_congr fun _ => apart.mem_iff (by rfl))

theorem waits_iff {retries : Bool} (apart : Apart world next) :
    Waits interaction id retries next.trace ↔
      Waits interaction id retries world.trace := by
  cases retries
  · exact and_congr
      (or_congr (apart.mem_iff (by rfl)) (apart.mem_iff (by rfl)))
      (not_congr (apart.mem_iff (by rfl)))
  · exact apart.mem_iff (by rfl)

theorem answered (apart : Apart world next)
    (answered : Answered id world.trace) : Answered id next.trace :=
  answered.imp fun _ member => apart.trace.subset member

theorem undone {outcome : CertificatePinOutcome} (apart : Apart world next)
    (undone : Undone interaction outcome world.trace) :
    Undone interaction outcome next.trace :=
  undone.adds (apart.trace.mono fun _ _ => trivial)

theorem releasesFor (apart : Apart world next) :
    releasesFor next interaction = releasesFor world interaction :=
  congrArg₂ (· + ·) (apart.releases interaction)
    (apart.released interaction)

end Apart

theorem Balanced.apart (balanced : Balanced held world)
    (apart : Apart world next) : Balanced held next where
  waiting := by
    rw [apart.loginWaiters, apart.inProgress, balanced.waiting]
  cancelling := by
    rw [apart.cancellable, apart.inProgress, balanced.cancelling]
  balance interaction := by
    rw [apart.releasesFor, apart.interactions, apart.cancellable,
      balanced.balance]
  latest interaction current := by
    rw [apart.latest]
    exact balanced.latest interaction (apart.cancellable ▸ current)
  busy interaction := by
    rw [apart.interactions]
    exact balanced.busy interaction

theorem Current.apart (current : Current later world interaction)
    (apart : Apart world next) : Current later next interaction where
  unsettled settled :=
    current.unsettled ((apart.mem_iff (by rfl)).mp settled)
  waiters id waits := by
    rw [apart.waiters] at waits
    rw [apart.waits_iff, apart.retries id]
    exact current.waiters id waits
  left id asked := by
    rw [apart.waiters]
    exact (current.left id (apart.asked_iff.mp asked)).imp_right
      (Or.imp_right apart.answered)
  withdrawn withdrawn := by
    rw [apart.interactions]
    exact current.withdrawn ((apart.mem_iff (by rfl)).mp withdrawn)
  talking talking outcome ended := by
    rw [apart.interactions] at talking
    exact current.talking talking outcome ((apart.mem_iff (by rfl)).mp ended)
  ended := by
    rw [apart.interactions, apart.mem_iff (by rfl)]
    exact current.ended
  releasing := by
    rw [apart.releasesFor, apart.interactions]
    exact current.releasing
  performed performed := by
    rw [apart.interactions]
    exact current.performed ((apart.mem_iff (by rfl)).mp performed)
  released released := by
    rw [← List.count_pos_iff, apart.released, List.count_pos_iff] at released
    rw [apart.interactions]
    exact apart.undone (current.released released)

theorem Shared.apart (shared : Shared later held world)
    (apart : Apart world next) : Shared later held next where
  toBalanced := shared.toBalanced.apart apart
  current interaction current :=
    (shared.current interaction (apart.cancellable ▸ current)).apart apart
  settled interaction known other := by
    rw [apart.cancellable] at other
    exact apart.trace.subset
      (shared.settled interaction (apart.latest ▸ known) other)
  known event member interaction mentions := by
    rw [apart.latest]
    exact shared.known event ((apart.mem_iff mentions).mp member) interaction
      mentions
  retries id retries := by
    rw [apart.waiters]
    exact (shared.retries id ((apart.retries id).symm.trans retries)).imp_right
      (Or.imp_right apart.answered)
  proper := apart.trace.each shared.proper fun _ _ => proper_of_elsewhere

/-! ## Functions that leave the login alone -/

theorem apart_emit {event : Event} (elsewhere : about event = none) :
    Apart world (world.emit event) where
  same := rfl
  releases _ := rfl
  released _ := rfl
  retries _ := rfl
  trace := (Adds.refl _).cons elsewhere

/-- The parts of a world that a login does not use are changed. -/
theorem apart_update (same : ledger next = ledger world)
    (releases : next.releases = world.releases)
    (released : next.released = world.released)
    (operations : next.operations = world.operations)
    (trace : next.trace = world.trace) : Apart world next where
  same := same
  releases _ := by rw [releases]
  released _ := by rw [released]
  retries _ := by rw [operations]
  trace := by rw [trace]; exact .refl _

theorem retryLogin_setOperation {operation : PendingOperation}
    (same : operation.retryLogin = (world.operations id).retryLogin)
    (other : Nat) :
    ((world.setOperation id operation).operations other).retryLogin =
      (world.operations other).retryLogin := by
  show (Function.update world.operations id operation other).retryLogin = _
  by_cases this : other = id
  · rw [this, Function.update_self, same]
  · rw [Function.update_of_ne this]

theorem apart_setOperation {operation : PendingOperation}
    (same : operation.retryLogin = (world.operations id).retryLogin) :
    Apart world (world.setOperation id operation) where
  same := rfl
  releases _ := rfl
  released _ := rfl
  retries := retryLogin_setOperation same
  trace := .refl _

theorem apart_useDevice {state : Device.State} :
    Apart world (world.useDevice state) where
  same := rfl
  releases _ := rfl
  released _ := rfl
  retries _ := rfl
  trace := by
    refine ⟨state.trace.map .device, rfl, ?_⟩
    intro event member
    rcases List.mem_map.mp member with ⟨noted, -, rfl⟩
    rfl

/-! ## Functions that tend to operations -/

/-- The events of operations that come to an end. -/
def Tells : Event → Prop
  | .answered _ _ | .cancelled _ | .sessionClosed => True
  | _ => False

theorem about_of_tells {event : Event} (tells : Tells event) :
    about event = none := by
  cases event
  all_goals first | rfl | cases tells

/-- Operations have been queued, cancelled or answered. -/
structure Tended (world next : World) : Prop where
  apart : Apart world next
  device : next.device = world.device
  signing : next.signing = world.signing
  trace : Adds Tells world.trace next.trace

theorem Tended.refl (world : World) : Tended world world :=
  ⟨.refl _, rfl, rfl, .refl _⟩

theorem Tended.trans {third : World} (first : Tended world next)
    (second : Tended next third) : Tended world third where
  apart := first.apart.trans second.apart
  device := second.device.trans first.device
  signing := second.signing.trans first.signing
  trace := first.trace.trans second.trace

theorem tended_emit {event : Event} (tells : Tells event) :
    Tended world (world.emit event) :=
  ⟨apart_emit (about_of_tells tells), rfl, rfl, (Adds.refl _).cons tells⟩

theorem tended_setOperation {operation : PendingOperation}
    (same : operation.retryLogin = (world.operations id).retryLogin) :
    Tended world (world.setOperation id operation) :=
  ⟨apart_setOperation same, rfl, rfl, .refl _⟩

theorem tended_operationFail :
    Tended world (operationFail world id failure) := by
  unfold operationFail
  dsimp only
  split
  · exact .refl _
  · exact (tended_setOperation (by rfl)).trans (tended_emit trivial)

theorem tended_operationSucceed {value : Octets} :
    Tended world (operationSucceed world id value) := by
  unfold operationSucceed
  dsimp only
  split
  · exact .refl _
  · exact (tended_setOperation (by rfl)).trans (tended_emit trivial)

theorem tended_cancelOperation :
    Tended world (cancelOperation world id) := by
  unfold cancelOperation
  dsimp only
  split
  · exact .refl _
  · exact (tended_setOperation (by rfl)).trans (tended_emit trivial)

theorem tended_cancelUnanswered :
    Tended world (cancelUnanswered world id) := by
  unfold cancelUnanswered
  split
  · exact .refl _
  · exact tended_cancelOperation

theorem tended_foldl {Index : Type} {body : World → Index → World}
    (tends : ∀ world index, Tended world (body world index))
    (indices : List Index) : Tended world (indices.foldl body world) := by
  induction indices generalizing world with
  | nil => exact .refl _
  | cons index rest ih => exact (tends world index).trans ih

theorem tended_releaseDeviceAsync :
    Tended world (releaseDeviceAsync world) := by
  unfold releaseDeviceAsync
  split
  · exact .refl _
  · refine ⟨⟨rfl, fun _ => ?_, fun _ => rfl, fun _ => rfl, .refl _⟩,
      rfl, rfl, .refl _⟩
    show (world.releases ++ [none]).count _ = _
    rw [List.count_append]
    rfl

theorem tended_sessionClose : Tended world (sessionClose world) := by
  unfold sessionClose
  split
  · exact .refl _
  · have closed : Tended world
        { world with session := { world.session with closed := true } } :=
      ⟨apart_update rfl rfl rfl rfl rfl, rfl, rfl, .refl _⟩
    have told : Tended world ({ world with
        session := { world.session with closed := true } }.emit
        .sessionClosed) :=
      closed.trans (tended_emit trivial)
    exact (told.trans
      (tended_foldl (fun _ _ => tended_cancelUnanswered) _)).trans
      tended_releaseDeviceAsync

theorem tended_openOperation : Tended world (openOperation world id) := by
  have noted : Tended world
      (world.setOperation id
        { world.operations id with
          openLoginGeneration := world.loginGeneration }) :=
    tended_setOperation rfl
  exact noted.trans ⟨apart_update rfl rfl rfl rfl rfl, rfl, rfl, .refl _⟩

theorem tended_runOperation : Tended world (runOperation world id) :=
  ⟨apart_update rfl rfl rfl rfl rfl, rfl, rfl, .refl _⟩

theorem tended_applyLoginOutcome {outcome : CertificatePinOutcome} :
    Tended world (applyLoginOutcome world id outcome) := by
  unfold applyLoginOutcome
  split
  · exact tended_operationFail
  · split
    · exact tended_runOperation
    · exact tended_sessionClose.trans tended_operationFail
    · exact tended_operationFail

theorem tended_failTask : Tended world (failTask world id failure) := by
  unfold failTask
  split
  · exact tended_sessionClose.trans tended_operationFail
  · exact tended_operationFail

theorem tended_onSigned {signed : Signed} :
    Tended world (onSigned world id signed) := by
  unfold onSigned
  dsimp only
  split
  · split_ifs
    · exact tended_operationFail
    · exact (tended_setOperation (by rfl)).trans tended_openOperation
  · split_ifs
    · exact tended_applyLoginOutcome
    · exact tended_failTask
  · split_ifs
    · split
      · exact tended_operationFail
      · exact tended_operationSucceed
    · exact tended_operationSucceed

/-! ## Workers that leave the login alone -/

theorem apart_ensureSessionLocked {answers : OpenAnswers} :
    Apart world (ensureSessionLocked world answers).1 := by
  unfold ensureSessionLocked
  split
  · exact .refl _
  · exact apart_useDevice

theorem apart_openThread {answers : OpenAnswers} :
    Apart world (openThread world id answers).1 := by
  unfold openThread
  split
  · exact .refl _
  · have opened : Apart world (ensureSessionLocked world answers).1 :=
      apart_ensureSessionLocked
    split
    all_goals
      rename_i result
      rw [result] at opened
      exact opened

theorem apart_returnOpen {opened : Except Failure Bool} :
    Apart world (returnOpen world id opened) :=
  apart_update rfl rfl rfl rfl rfl

theorem apart_returnSign {signed : Signed} :
    Apart world (returnSign world id signed) :=
  apart_update rfl rfl rfl rfl rfl

theorem apart_submit {result : Except CkUlong Octets} :
    Apart world (submit world id result) :=
  (apart_emit (by rfl)).trans apart_returnSign

theorem apart_signThread {info : Except CkUlong CkUlong}
    {found : Option (List CkUlong)} :
    Apart world (signThread world id info found) := by
  have locked : Apart world
      { world with
        signs := world.signs.erase id
        signing := some (id, .checked)
        deviceLocked := true } := apart_update rfl rfl rfl rfl rfl
  unfold signThread
  dsimp only
  split
  · exact apart_update rfl rfl rfl rfl rfl
  · split
    · exact locked
    · split
      · exact (locked.trans apart_useDevice).trans apart_returnSign
      · exact locked.trans apart_useDevice

theorem apart_devicePerform {answers : SignAnswers} :
    Apart world (devicePerform world id answers) := by
  have entered : Apart world (world.emit (.entered id world.now)) :=
    apart_emit rfl
  have used : Apart world
      ((world.emit (.entered id world.now)).emit
        (.device (.used world.device.session world.device.privateKey))) :=
    entered.trans (apart_emit rfl)
  have initialised : Apart world
      (((world.emit (.entered id world.now)).emit
        (.device (.used world.device.session world.device.privateKey))).emit
          (.initialised id world.device.session)) :=
    used.trans (apart_emit rfl)
  unfold devicePerform
  dsimp only
  split
  · exact entered.trans apart_returnSign
  · split
    · exact used.trans apart_returnSign
    · split
      · exact initialised.trans (apart_update rfl rfl rfl rfl rfl)
      · exact initialised.trans apart_submit

theorem apart_signPerform {answers : SignAnswers} :
    Apart world (signPerform world id answers) := by
  unfold signPerform
  split
  · exact apart_returnSign
  · split_ifs
    · exact apart_returnSign
    · exact apart_devicePerform

theorem apart_signResume {outcome : CertificatePinOutcome}
    {result : Except CkUlong Octets} :
    Apart world (signResume world id handle outcome result) := by
  have kept : Apart world
      (world.setOperation id
        { world.operations id with contextOutcome := outcome }) :=
    apart_setOperation rfl
  unfold signResume
  dsimp only
  split
  · exact (kept.trans apart_useDevice).trans apart_returnSign
  · exact kept.trans apart_submit

theorem apart_doContextLogin {rv : CkUlong} :
    Apart world (doContextLogin world id handle rv).1 := by
  unfold doContextLogin
  split
  · exact .refl _
  · split_ifs
    · exact .refl _
    · exact .refl _
    · exact apart_emit rfl

theorem apart_brokerPerform {decrypt : Bool}
    {operationId mechanismName : Option String}
    {parameters : Option Vardict} {data : Octets}
    (fresh : (world.operations world.nextOperation).retryLogin = false) :
    Apart world (brokerPerform world decrypt operationId mechanismName
      parameters data) := by
  unfold brokerPerform
  split
  · exact apart_emit rfl
  · have accepted (session : XccSession Grant) (operation : Operation) :
        Apart world
          ({ world with
            session := session
            nextOperation := world.nextOperation + 1 }.setOperation
            world.nextOperation (.new operation)) :=
      ⟨rfl, fun _ => rfl, fun _ => rfl, retryLogin_setOperation fresh.symm,
        .refl _⟩
    exact ((accepted _ _).trans (apart_emit rfl)).trans
      tended_openOperation.apart

theorem apart_releaseThread :
    Apart world (releaseThread world none) := by
  refine apart_useDevice.trans ⟨rfl, ?_, ?_, fun _ => rfl, .refl _⟩
  · intro interaction
    show (world.releases.erase none).count _ = _
    exact List.count_erase_of_ne (by exact nofun)
  · intro interaction
    show (world.released ++ [none]).count _ = _
    rw [List.count_append]
    rfl

/-! ## Prompts -/

theorem finished_after {action : PromptAction}
    {conversation next : Conversation}
    (moves : conversation.after action = some next) :
    next.finished = conversation.finished := by
  cases action
  case judge =>
      simp only [Conversation.after, Conversation.judged] at moves
      split at moves
      all_goals cases moves
      all_goals rfl
  all_goals
    simp only [Conversation.after] at moves
    split_ifs at moves
    cases moves
    rfl

/-- A prompt moves only while it is not over. -/
theorem finished_of_after {action : PromptAction}
    {conversation next : Conversation}
    (busy : conversation.finished = true → conversation.attempt = .none)
    (moves : conversation.after action = some next) :
    next.finished = false := by
  rw [finished_after moves]
  by_contra finished
  rw [Bool.not_eq_false] at finished
  have idle := busy finished
  cases action
  all_goals
    simp [Conversation.after, Conversation.mayStart, Conversation.quiet,
      Conversation.judged, finished, idle] at moves

theorem landed_after {action : PromptAction}
    {conversation next : Conversation} (landed : Landed conversation)
    (moves : conversation.after action = some next) : Landed next := by
  cases action
  case judge =>
      simp only [Conversation.after, Conversation.judged] at moves
      split at moves
      all_goals cases moves
      · rename_i refreshing
        rcases landed with returned | ⟨idle, -⟩
        · rw [returned] at refreshing
          cases refreshing
        · rw [idle] at refreshing
          cases refreshing
      · rename_i returned
        rcases landed with returned' | ⟨idle, -⟩
        · rw [returned'] at returned
          cases returned
          exact .inr ⟨rfl, .inl (Bool.or_true _)⟩
        · rw [idle] at returned
          cases returned
  case defer =>
      simp only [Conversation.after] at moves
      split_ifs at moves with attempt
      cases moves
      exact landed.imp_right fun idle => absurd idle.1 attempt
  all_goals
    simp only [Conversation.after] at moves
    split_ifs at moves with starts
    simp only [Conversation.mayStart, Conversation.quiet, Bool.and_eq_true,
      decide_eq_true_eq, Bool.not_eq_true'] at starts
    rcases landed with returned | ⟨-, succeeded | finished⟩
    · rw [returned] at starts
      cases starts.1.1.1
    · rw [starts.2] at succeeded
      cases succeeded
    · rw [starts.1.1.2] at finished
      cases finished

/-! ## The login in progress -/

/-- A prompt that has not finished is that of the login in progress, which
neither waits for a release nor is in hand. -/
theorem Balanced.of_talking (balanced : Balanced held world)
    (talking :
      (world.interactions interaction).conversation.finished = false) :
    world.loginCancellable = some interaction ∧
      releasesFor world interaction = 0 ∧ held ≠ some interaction := by
  have balance := balanced.balance interaction
  rw [talking] at balance
  by_cases current : world.loginCancellable = some interaction
  · rw [if_pos current] at balance
    refine ⟨current, by simp at balance; omega, fun here => ?_⟩
    simp [here] at balance
  · simp [current] at balance

/-- A release that is under way is that of the login in progress, whose prompt
has finished. -/
theorem Balanced.of_releasing (balanced : Balanced held world)
    (releasing : 0 < releasesFor world interaction) :
    world.loginCancellable = some interaction ∧
      (world.interactions interaction).conversation.finished = true ∧
      releasesFor world interaction = 1 ∧ held ≠ some interaction := by
  have balance := balanced.balance interaction
  split_ifs at balance with finished here current
  all_goals first | omega | exact ⟨‹_›, ‹_›, by omega, ‹_›⟩

/-- The login in hand is the one in progress, and its prompt has finished. -/
theorem Balanced.of_held (balanced : Balanced held world)
    (here : held = some interaction) :
    world.loginCancellable = some interaction ∧
      (world.interactions interaction).conversation.finished = true ∧
      releasesFor world interaction = 0 := by
  have balance := balanced.balance interaction
  split_ifs at balance with finished current
  all_goals first | omega | exact ⟨‹_›, ‹_›, by omega⟩

theorem Balanced.talking_of_busy (balanced : Balanced held world)
    (busy :
      (world.interactions interaction).conversation.attempt ≠ .none) :
    (world.interactions interaction).conversation.finished = false := by
  by_contra finished
  exact busy (balanced.busy interaction (by simpa using finished))

theorem not_mem_released (spare : releasesFor world interaction = 0) :
    some interaction ∉ world.released := by
  rw [releasesFor, Nat.add_eq_zero_iff] at spare
  exact List.count_eq_zero.mp spare.2

theorem known_of_answered (accounted : Accounted later world)
    (answered : Answered id world.trace) :
    id < world.nextOperation ∧ (world.operations id).answered = true := by
  by_contra unknown
  rcases answered with ⟨result, answered⟩
  have counted := accounted.answers id
  rw [if_neg unknown, Places.answers, List.countP_eq_zero] at counted
  exact counted _ answered (decide_eq_true rfl)

theorem unanswered_of_hand (accounted : Accounted later world)
    (member : id ∈ later) : ¬Answered id world.trace := by
  intro answered
  have told := (known_of_answered accounted answered).2
  rw [(accounted.unanswered member).2] at told
  cases told

/-- How a prompt can change. -/
structure Continues (login next : LoginInteraction) : Prop where
  cancelled : login.cancelled = true → next.cancelled = true
  outcome : next.outcome = login.outcome
  finished : next.conversation.finished = login.conversation.finished
  busy : next.conversation.finished = true →
    next.conversation.attempt = .none

theorem interactions_setInteraction
    (world : World) (interaction : Nat) (login : LoginInteraction)
    (other : Nat) :
    (world.setInteraction interaction login).interactions other =
      if other = interaction then login else world.interactions other :=
  Function.update_apply ..

theorem Balanced.setInteraction {login : LoginInteraction}
    (balanced : Balanced held world)
    (continues : Continues (world.interactions interaction) login) :
    Balanced held (world.setInteraction interaction login) where
  waiting := balanced.waiting
  cancelling := balanced.cancelling
  balance other := by
    rw [interactions_setInteraction]
    by_cases this : other = interaction
    · rw [this, if_pos rfl, continues.finished]
      exact balanced.balance interaction
    · rw [if_neg this]
      exact balanced.balance other
  latest := balanced.latest
  busy other := by
    rw [interactions_setInteraction]
    by_cases this : other = interaction
    · rw [if_pos this]
      exact continues.busy
    · rw [if_neg this]
      exact balanced.busy other

theorem Current.setInteraction {login : LoginInteraction}
    (current : Current later world interaction)
    (continues : Continues (world.interactions interaction) login)
    (performed : .loggedIn interaction ∈ world.trace →
      login.performedLogin = true ∧ Landed login.conversation) :
    Current later (world.setInteraction interaction login) interaction := by
  have here : (world.setInteraction interaction login).interactions
      interaction = login := Function.update_self ..
  constructor
  case performed =>
      rw [here]
      exact performed
  case withdrawn =>
      rw [here]
      exact fun withdrawn => continues.cancelled (current.withdrawn withdrawn)
  case talking =>
      rw [here, continues.finished]
      exact current.talking
  case ended =>
      rw [here, continues.finished, continues.outcome]
      exact current.ended
  case releasing =>
      rw [here, continues.outcome]
      intro releasing
      have ⟨cancelled, wanted⟩ := current.releasing releasing
      exact ⟨continues.cancelled cancelled, wanted⟩
  case released =>
      rw [here, continues.outcome]
      exact current.released
  case unsettled => exact current.unsettled
  case waiters => exact current.waiters
  case left => exact current.left

theorem Shared.setInteraction {login : LoginInteraction}
    (shared : Shared later held world)
    (current : world.loginCancellable = some interaction)
    (continues : Continues (world.interactions interaction) login)
    (performed : .loggedIn interaction ∈ world.trace →
      login.performedLogin = true ∧ Landed login.conversation) :
    Shared later held (world.setInteraction interaction login) where
  toBalanced := shared.toBalanced.setInteraction continues
  current other here := by
    cases Option.some.inj (current.symm.trans here)
    exact (shared.current interaction current).setInteraction continues
      performed
  settled := shared.settled
  known := shared.known
  retries := shared.retries
  proper := shared.proper

theorem Answered.cons {event : Event} (answered : Answered id trace) :
    Answered id (event :: trace) :=
  answered.imp fun _ => List.mem_cons_of_mem event

theorem waits_cons {event : Event} {retries : Bool}
    (waits : Waits interaction id retries trace)
    (other : event ≠ .joined interaction id true) :
    Waits interaction id retries (event :: trace) := by
  cases retries
  · rcases waits with ⟨waits, settles⟩
    refine ⟨waits.imp (List.mem_cons_of_mem _) (List.mem_cons_of_mem _), ?_⟩
    exact fun member => (List.mem_cons.mp member).elim
      (fun this => other this.symm) settles
  · exact List.mem_cons_of_mem _ waits

theorem asked_of_cons {event : Event}
    (asked : Asked interaction id (event :: trace))
    (asks : event ≠ .asked interaction id)
    (joins : ∀ retries, event ≠ .joined interaction id retries) :
    Asked interaction id trace := by
  rcases asked with asked | ⟨retries, joined⟩
  · exact .inl ((List.mem_cons.mp asked).resolve_left fun this =>
      asks this.symm)
  · exact .inr ⟨retries, (List.mem_cons.mp joined).resolve_left fun this =>
      joins retries this.symm⟩

/-- An event that is about the login in progress, and is neither its
beginning nor its end. -/
theorem Current.emit {event : Event}
    (current : Current later world interaction)
    (asks : ∀ id, Asked interaction id (event :: world.trace) →
      id ∈ later ∨ Asked interaction id world.trace)
    (joins : ∀ id ∈ world.waiters,
      event ≠ .joined interaction id true)
    (settles : event ≠ .settled interaction)
    (ends : ∀ outcome, event ≠ .ended interaction outcome)
    (withdrawn : event = .withdrawn interaction →
      (world.interactions interaction).cancelled = true)
    (performed : event = .loggedIn interaction →
      (world.interactions interaction).performedLogin = true ∧
        Landed (world.interactions interaction).conversation) :
    Current later (world.emit event) interaction where
  unsettled settled := (List.mem_cons.mp settled).elim
    (fun this => settles this.symm) current.unsettled
  waiters id waits := waits_cons (current.waiters id waits) (joins id waits)
  left id asked := (asks id asked).elim .inl fun asked =>
    (current.left id asked).imp_right (Or.imp_right Answered.cons)
  withdrawn member := (List.mem_cons.mp member).elim
    (fun this => withdrawn this.symm) current.withdrawn
  talking talking outcome ended := (List.mem_cons.mp ended).elim
    (fun this => ends outcome this.symm) (current.talking talking outcome)
  ended finished := List.mem_cons_of_mem _ (current.ended finished)
  releasing := current.releasing
  performed member := (List.mem_cons.mp member).elim
    (fun this => performed this.symm) current.performed
  released released := (current.released released).cons trivial

theorem Shared.emit {event : Event} (shared : Shared later held world)
    (current : world.loginCancellable = some interaction)
    (mentions : about event = some interaction)
    (proper : Proper event world.trace)
    (still : Current later (world.emit event) interaction) :
    Shared later held (world.emit event) where
  toBalanced := ⟨shared.waiting, shared.cancelling, shared.balance,
    shared.latest, shared.busy⟩
  current other here := by
    cases Option.some.inj (current.symm.trans here)
    exact still
  settled other known here :=
    List.mem_cons_of_mem _ (shared.settled other known here)
  known other member mentioned here := by
    rcases List.mem_cons.mp member with rfl | member
    · cases Option.some.inj (mentions.symm.trans here)
      show interaction < world.nextInteraction
      rw [shared.latest interaction current]
      exact Nat.lt_succ_self interaction
    · exact shared.known other member mentioned here
  retries id retries := (shared.retries id retries).imp_right
    (Or.imp_right Answered.cons)
  proper := each_cons.mpr ⟨proper, shared.proper⟩

/-! ## Waiting -/

theorem retryLogin_update {operation : PendingOperation}
    (world : World) (id other : Nat) :
    ((world.setOperation id operation).operations other).retryLogin =
      if other = id then operation.retryLogin
      else (world.operations other).retryLogin := by
  show (Function.update world.operations id operation other).retryLogin = _
  rw [Function.update_apply]
  split <;> rfl

theorem Current.mono {wider : List Nat}
    (current : Current later world interaction)
    (grows : ∀ id ∈ later, id ∈ wider) :
    Current wider world interaction :=
  { current with
    left := fun id asked => (current.left id asked).imp_left (grows id) }

theorem Shared.mono {wider : List Nat} (shared : Shared later held world)
    (grows : ∀ id ∈ later, id ∈ wider) : Shared wider held world :=
  { shared with
    current := fun interaction here =>
      (shared.current interaction here).mono grows
    retries := fun id retries =>
      (shared.retries id retries).imp_left (grows id) }

/-- An operation in hand waits for the login in progress. -/
theorem Shared.wait {operation : PendingOperation}
    (shared : Shared [id] none world)
    (current : world.loginCancellable = some interaction)
    (waits : Waits interaction id operation.retryLogin world.trace) :
    Shared [] none ((world.setOperation id operation).addWaiter id) := by
  have here := shared.current interaction current
  have joins (other : Nat) :
      other ∈ ((world.setOperation id operation).addWaiter id).waiters ↔
        other ∈ world.waiters ∨ other = id := by
    show other ∈ world.waiters ++ [id] ↔ _
    rw [List.mem_append, List.mem_singleton]
  have retryLogin (other : Nat) :
      (((world.setOperation id operation).addWaiter id).operations
          other).retryLogin =
        if other = id then operation.retryLogin
        else (world.operations other).retryLogin :=
    retryLogin_update world id other
  have waiting : true = world.loginInProgress := by
    rw [← shared.cancelling, current]
    rfl
  refine { shared with waiting, current := ?_, retries := ?_ }
  · intro other there
    cases Option.some.inj (current.symm.trans there)
    refine { here with waiters := ?_, left := ?_ }
    · intro other member
      rw [retryLogin]
      by_cases this : other = id
      · rw [if_pos this, this]
        exact waits
      · rw [if_neg this]
        exact here.waiters other (((joins other).mp member).resolve_right this)
    · intro other asked
      rw [joins]
      rcases here.left other asked with later | member | answered
      · exact .inr (.inl (.inr (List.mem_singleton.mp later)))
      · exact .inr (.inl (.inl member))
      · exact .inr (.inr answered)
  · intro other retries
    rw [retryLogin] at retries
    rw [joins]
    by_cases this : other = id
    · exact .inr (.inl (.inr this))
    · rw [if_neg this] at retries
      rcases shared.retries other retries with later | member | answered
      · exact absurd (List.mem_singleton.mp later) this
      · exact .inr (.inl (.inl member))
      · exact .inr (.inr answered)

/-- A login that has been withdrawn or has ended is being cancelled. -/
theorem Shared.cancelling_of_ended (shared : Shared later none world)
    (current : world.loginCancellable = some interaction)
    (past : .withdrawn interaction ∈ world.trace ∨
      ∃ outcome, .ended interaction outcome ∈ world.trace) :
    pinLoginIsCancelling (world.interactions interaction) = true := by
  have here := shared.current interaction current
  rcases past with withdrawn | ⟨outcome, ended⟩
  · rw [pinLoginIsCancelling, here.withdrawn withdrawn, Bool.true_or]
  · have finished :
        (world.interactions interaction).conversation.finished = true := by
      by_contra talking
      exact here.talking (by simpa using talking) outcome ended
    have balance := shared.balance interaction
    rw [finished, if_pos rfl, if_neg nofun, if_pos current] at balance
    rw [pinLoginIsCancelling, (here.releasing (by omega)).1, Bool.true_or]

/-- A login that is new to the history. -/
theorem Shared.unknown {event : Event} (shared : Shared later held world)
    (mentions : about event = some world.nextInteraction) :
    event ∉ world.trace :=
  fun member => Nat.lt_irrefl _ (shared.known event member _ mentions)

/-- Between logins nothing is left to do for any of them. -/
theorem Shared.spare (shared : Shared later none world)
    (nobody : world.loginCancellable = none) (interaction : Nat) :
    releasesFor world interaction = 0 ∧
      (world.interactions interaction).conversation.finished = true := by
  have balance := shared.balance interaction
  rw [nobody, if_neg (show ¬none = some interaction from nofun)] at balance
  split_ifs at balance with finished
  exact ⟨by omega, finished⟩

theorem Shared.done (shared : Shared [id] held world)
    (answered : Answered id world.trace) : Shared [] held world :=
  { shared with
    current := fun interaction current =>
      let here := shared.current interaction current
      { here with
        left := fun other asked =>
          (here.left other asked).elim
            (fun later => by
              rw [List.mem_singleton.mp later]
              exact .inr (.inr answered))
            .inr }
    retries := fun other retries =>
      (shared.retries other retries).elim
        (fun later => by
          rw [List.mem_singleton.mp later]
          exact .inr (.inr answered))
        .inr }

/-- A waiter leaves, and is in hand. -/
theorem Shared.removeWaiter (shared : Shared [] held world)
    (waits : id ∈ world.waiters) :
    Shared [id] held (world.removeWaiter id) := by
  have waiting : true = world.loginInProgress := by
    rw [← shared.waiting]
    cases here : world.loginWaiters with
    | none =>
        rw [World.waiters, here] at waits
        cases waits
    | some => rfl
  have stays {other : Nat} (member : other ∈ world.waiters) :
      other ∈ [id] ∨ other ∈ (world.removeWaiter id).waiters := by
    by_cases this : other = id
    · exact .inl (List.mem_singleton.mpr this)
    · exact .inr ((List.mem_erase_of_ne this).mpr member)
  have left {other : Nat} (past : other ∈ [] ∨ other ∈ world.waiters ∨
      Answered other world.trace) : other ∈ [id] ∨
        other ∈ (world.removeWaiter id).waiters ∨
        Answered other world.trace := by
    rcases past with later | member | answered
    · cases later
    · exact (stays member).imp_right .inl
    · exact .inr (.inr answered)
  refine { shared with waiting, current := ?_, retries := ?_ }
  · intro interaction current
    have here := shared.current interaction current
    exact { here with
      waiters := fun other member =>
        here.waiters other (List.mem_of_mem_erase member)
      left := fun other asked => left (here.left other asked) }
  · exact fun other retries => left (shared.retries other retries)

end PortalCertificate.Broker.Ledger
