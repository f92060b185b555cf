import Mathlib.Logic.Function.Basic
import PortalCertificate.Broker.Device
import PortalCertificate.Broker.EcdsaSignature
import PortalCertificate.Broker.Operations

/-!
# Operations that share a login

`operations.c` after an operation has been accepted, for the operations of
one session: the part that runs on the coordinator.  The operations that need
a login wait for one prompt, which belongs to the session, and a request that
is cancelled leaves the others waiting.

Of a prompt the broker sees a conversation: workers call its login function,
one after another, and in the end it calls `done` once.  The prompts of
`pin.c` converse in this way; that is shown of their own machine.
-/

namespace PortalCertificate.Broker.Login

open PortalCertificate.Broker.Device hiding Event State
open PortalCertificate.Broker.EcdsaSignature
open PortalCertificate.Broker.Mechanism
open PortalCertificate.Broker.Operations
open PortalCertificate.Core.Coordinator
  (CertificatePinOutcome CertificatePkcs11ErrorCode)
open PortalCertificate.Core.Principals (XccSession)
open PortalCertificate.Library.Der (Octets)
open PortalCertificate.Pkcs11

/-! ## Failures -/

/-- `certificate_pkcs11_error_code`. -/
def certificatePkcs11ErrorCode (rv : CkUlong) : CertificatePkcs11ErrorCode :=
  if rv = 0xa0 ∨ rv = 0xa1 ∨ rv = 0xa2 then .pinIncorrect
  else if rv = 0xa4 then .pinLocked
  else if rv = 0xe0 ∨ rv = 0x32 ∨ rv = 0xb3 then .tokenRemoved
  else if rv = 0x1 ∨ rv = 0x50 then .cancelled
  else if rv = 0x70 ∨ rv = 0x71 ∨ rv = 0x54 then .notSupported
  else .failed

/-- Why an operation or a login fails. -/
inductive Failure where
  /-- `G_IO_ERROR_CANCELLED`, of a task whose cancellable is cancelled. -/
  | taskCancelled
  | literal (code : CertificatePkcs11ErrorCode) (message : String)
  | device (error : DeviceError)
  | raw (error : InvalidData)
  deriving DecidableEq, Repr

/-- The code, of a failure that comes from the token. -/
def Failure.code : Failure → Option CertificatePkcs11ErrorCode
  | .literal code _ | .device (.literal code _) => some code
  | .device (.call rv _) => some (certificatePkcs11ErrorCode rv)
  | .taskCancelled | .raw _ => none

/-- The failure of a request that is cancelled. -/
def cancelledFailure : Failure := .literal .cancelled "Request cancelled"

/-- The failure for an outcome other than `CERTIFICATE_PIN_OK`. -/
def outcomeFailure : CertificatePinOutcome → Failure
  | .cancelled => .literal .cancelled "User cancelled the PIN prompt"
  | .locked => .literal .pinLocked "Token is locked"
  | .tokenRemoved => .literal .tokenRemoved "Token removed"
  | .incorrect => .literal .pinIncorrect "Token refused login"
  | .timedOut => .literal .loginTimeout "Token login timed out"
  | .noDisplay => .literal .noDisplay "PIN entry requires a display"
  | .deviceError | .ok => .literal .failed "Token refused login"

/-! ## Conversations -/

/-- Where the worker of a prompt is, from its start until what it returns is
judged. -/
inductive Attempt where
  | none
  | refreshing
  /-- About to call the login function. -/
  | calling
  /-- In the login function, with the lock of the device. -/
  | holding
  | returned (succeeded : Bool)
  deriving DecidableEq, Repr

/-- A prompt; `deferred` is an answer that waits for the worker. -/
structure Conversation where
  attempt : Attempt
  deferred : Bool
  succeeded : Bool
  finished : Bool
  deriving DecidableEq, Repr

/-- What goes on in a prompt before it ends. -/
inductive PromptAction where
  /-- A worker refreshes the flags of the token. -/
  | refresh
  /-- A worker is about to call the login function. -/
  | attempt
  /-- An answer waits for the worker. -/
  | defer
  /-- The worker has returned, and the result is judged. -/
  | judge
  deriving DecidableEq, Repr

namespace Conversation

/-- A prompt that has been asked for. -/
def start : Conversation := ⟨.none, false, false, false⟩

/-- `done` has been called, or no prompt has been asked for. -/
def closed : Conversation := ⟨.none, false, false, true⟩

/-- No worker is busy; `done` is called once, and only then. -/
def quiet (conversation : Conversation) : Bool :=
  conversation.attempt = .none && !conversation.finished

theorem quiet_iff {conversation : Conversation} :
    conversation.quiet = true ↔
      conversation.attempt = .none ∧ conversation.finished = false := by
  simp [quiet]

/-- A prompt starts no worker when an answer waits, or once a login has
succeeded. -/
def mayStart (conversation : Conversation) : Bool :=
  conversation.quiet && !conversation.deferred && !conversation.succeeded

/-- The end of an attempt is looked at, and a login that has succeeded is
remembered. -/
def judged (conversation : Conversation) : Option Conversation :=
  match conversation.attempt with
  | .refreshing => some { conversation with attempt := .none }
  | .returned succeeded =>
      some
        { conversation with
          attempt := .none
          succeeded := conversation.succeeded || succeeded }
  | _ => none

/-- What the prompt does next, where it may. -/
def after (conversation : Conversation) :
    PromptAction → Option Conversation
  | .refresh =>
      if conversation.mayStart then
        some { conversation with attempt := .refreshing }
      else none
  | .attempt =>
      if conversation.mayStart then
        some { conversation with attempt := .calling }
      else none
  | .defer =>
      if conversation.attempt ≠ .none then
        some { conversation with deferred := true }
      else none
  | .judge => conversation.judged

end Conversation

/-! ## Data -/

/-- An operation that has been accepted. -/
structure PendingOperation extends Operation where
  /-- Its cancellable is cancelled. -/
  cancelled : Bool
  answered : Bool
  loginCancelId : Bool
  loginCancelIdle : Bool
  contextOutcome : CertificatePinOutcome
  retriedOpen : Bool
  retryLogin : Bool
  openLoginGeneration : Nat

/-- An operation that has just been accepted. -/
def PendingOperation.new (operation : Operation) : PendingOperation where
  toOperation := operation
  cancelled := false
  answered := false
  loginCancelId := false
  loginCancelIdle := false
  contextOutcome := .ok
  retriedOpen := false
  retryLogin := false
  openLoginGeneration := 0

/-- `LoginInteraction`; its cancellable is that of the prompt. -/
structure LoginInteraction where
  cancelled : Bool
  outcome : CertificatePinOutcome
  performedLogin : Bool
  conversation : Conversation

/-- A login interaction that has just begun. -/
def LoginInteraction.new (conversation : Conversation) :
    LoginInteraction where
  cancelled := false
  outcome := .ok
  performedLogin := false
  conversation := conversation

/-- What `sign_thread` returns. -/
inductive Signed where
  | failed (failure : Failure)
  /-- Nothing, with `retry_open`. -/
  | retries
  | result (value : Octets)

/-- Where the worker is that has the lock of operations. -/
inductive Stage where
  /-- It has refreshed the login, and has the lock of the device. -/
  | checked
  /-- It waits for `prompt_context_pin`. -/
  | asking (handle : CkUlong)
  | prompting (handle : CkUlong) (conversation : Conversation)
  /-- `on_context_pin_done` has run. -/
  | told (handle : CkUlong) (outcome : CertificatePinOutcome)
  deriving DecidableEq

/-- What happens to the operations and the logins of a session. -/
inductive Event where
  /-- `certificate_broker_perform` has failed. -/
  | refused (error : OperationError)
  | accepted (id : Nat) (decrypt : Bool)
  | answered (id : Nat) (result : Except Failure Octets)
  /-- The request is cancelled. -/
  | cancelled (id : Nat)
  | sessionClosed
  /-- A login is asked for, or waited for, by an operation. -/
  | asked (interaction id : Nat)
  | joined (interaction id : Nat) (retries : Bool)
  /-- The last operation has left, and the prompt is cancelled. -/
  | withdrawn (interaction : Nat)
  /-- C_Login has succeeded. -/
  | loggedIn (interaction : Nat)
  /-- `on_pin_done`, with the outcome that is kept. -/
  | ended (interaction : Nat) (outcome : CertificatePinOutcome)
  /-- The device is released for a login that has ended. -/
  | released (interaction : Nat)
  | settled (interaction : Nat)
  /-- The outcome of a login is given to an operation. -/
  | told (interaction id : Nat) (outcome : CertificatePinOutcome)
  | reopened (interaction id : Nat)
  /-- `certificate_device_perform` is entered. -/
  | entered (id : Nat) (now : Int)
  | initialised (id : Nat) (handle : CkUlong)
  /-- A PIN is asked for on behalf of one operation. -/
  | contextAsked (id : Nat)
  /-- C_Login for one operation. -/
  | contextLogin (id : Nat) (handle : CkUlong)
  /-- C_Sign or C_Decrypt. -/
  | submitted (id : Nat) (handle : CkUlong) (now : Int)
  | device (event : Device.Event)
  deriving DecidableEq, Repr

/-- A session with its operations.  An operation is with a task that has yet
to run or to be delivered, with the worker that has the lock, or waits for
the login. -/
structure World where
  session : XccSession Grant
  now : Int
  device : CertificateDevice
  deviceLocked : Bool
  loginInProgress : Bool
  loginGeneration : Nat
  loginWaiters : Option (List Nat)
  /-- The interaction whose cancellable it is. -/
  loginCancellable : Option Nat
  operations : Nat → PendingOperation
  nextOperation : Nat
  interactions : Nat → LoginInteraction
  nextInteraction : Nat
  /-- Tasks of `open_thread`, and those that have returned. -/
  opens : List Nat
  opened : List (Nat × Except Failure Bool)
  /-- Tasks of `sign_thread`, the one with the lock, and those that have
  returned. -/
  signs : List Nat
  signing : Option (Nat × Stage)
  signed : List (Nat × Signed)
  /-- Tasks of `release_thread`, and those that have returned, with the
  login that waits for the release. -/
  releases : List (Option Nat)
  released : List (Option Nat)
  trace : List Event

/-- The operation of a number that is not in use. -/
def operationAbsent : PendingOperation :=
  { PendingOperation.new
      { decrypt := false
        operationId := none
        mechanism :=
          { name := "", type := 0, hash := .none, encoding := .raw
            pss := none, oaep := none, label := none, expectedInput := 0
            digestInfo := none }
        payload := [] } with answered := true }

/-- A session whose device has not been used. -/
def World.start (session : XccSession Grant) (now : Int) : World where
  session := session
  now := now
  device := .closed
  deviceLocked := false
  loginInProgress := false
  loginGeneration := 0
  loginWaiters := none
  loginCancellable := none
  operations := fun _ => operationAbsent
  nextOperation := 0
  interactions := fun _ => .new .closed
  nextInteraction := 0
  opens := []
  opened := []
  signs := []
  signing := none
  signed := []
  releases := []
  released := []
  trace := []

namespace World

variable (world : World)

/-- The event is added to the trace. -/
def emit (event : Event) : World :=
  { world with trace := event :: world.trace }

/-- The record of an operation is replaced. -/
def setOperation (id : Nat) (operation : PendingOperation) : World :=
  { world with operations := Function.update world.operations id operation }

/-- The record of a login interaction is replaced. -/
def setInteraction (id : Nat) (interaction : LoginInteraction) : World :=
  { world with
    interactions := Function.update world.interactions id interaction }

/-- The device with what has been noted of its use. -/
def useDevice (state : Device.State) : World :=
  { world with
    device := state.device
    trace := state.trace.map .device ++ world.trace }

/-- What an interaction's prompt is doing is replaced. -/
def setAttempt (id : Nat) (attempt : Attempt) : World :=
  let login := world.interactions id
  world.setInteraction id
    { login with conversation := { login.conversation with attempt } }

/-- The operations that wait for the login. -/
def waiters : List Nat := world.loginWaiters.getD []

/-- The operation waits for the login too. -/
def addWaiter (id : Nat) : World :=
  { world with loginWaiters := some (world.waiters ++ [id]) }

/-- The operation does not wait for the login any more. -/
def removeWaiter (id : Nat) : World :=
  { world with loginWaiters := some (world.waiters.erase id) }

end World

/-! ## Answers -/

/-- `operation_fail`. -/
def operationFail (world : World) (id : Nat) (failure : Failure) : World :=
  let operation := world.operations id
  if operation.answered then world
  else
    (world.setOperation id { operation with answered := true }).emit
      (.answered id (.error failure))

/-- `operation_succeed`. -/
def operationSucceed (world : World) (id : Nat) (result : Octets) : World :=
  let operation := world.operations id
  if operation.answered then world
  else
    (world.setOperation id { operation with answered := true }).emit
      (.answered id (.ok result))

/-- `operation_still_authorised`, for any cancellable. -/
def stillAuthorised (world : World) (cancelled : Bool) :
    Except Failure Unit :=
  if cancelled then .error cancelledFailure
  else if world.session.closed then
    .error (.literal .failed "Session closed")
  else if isExpired world.session.rest world.now then
    .error (.literal .failed "Grant expired")
  else .ok ()

/-- Neither the session nor the operation has been given up. -/
def operationStillAuthorised (world : World) (id : Nat) :
    Except Failure Unit :=
  stillAuthorised world (world.operations id).cancelled

/-! ## Closing -/

/-- `xcc_session_release_device_async_full`, for a login that waits. -/
def releaseDeviceAsyncFull (world : World) (login : Option Nat) : World :=
  { world with releases := world.releases ++ [login] }

/-- `xcc_session_release_device_async`.  A lock that is held is not tried
again. -/
def releaseDeviceAsync (world : World) : World :=
  if !world.deviceLocked && world.device.module.isNone then world
  else releaseDeviceAsyncFull world none

/-- `g_cancellable_cancel` on the cancellable of a request, with
`on_waiter_cancelled`. -/
def cancelOperation (world : World) (id : Nat) : World :=
  let operation := world.operations id
  if operation.cancelled then world
  else
    (world.setOperation id
      { operation with
        cancelled := true
        loginCancelIdle :=
          operation.loginCancelId || operation.loginCancelIdle }).emit
      (.cancelled id)

/-- The operation is cancelled, unless it has its answer. -/
def cancelUnanswered (world : World) (id : Nat) : World :=
  if (world.operations id).answered then world else cancelOperation world id

/-- `xcc_session_close_internal`. -/
def sessionClose (world : World) : World :=
  if world.session.closed then world
  else
    let closed :=
      { world with session := { world.session with closed := true } }.emit
        .sessionClosed
    releaseDeviceAsync
      ((List.range world.nextOperation).foldl cancelUnanswered closed)

/-! ## Tasks -/

/-- `open_operation`. -/
def openOperation (world : World) (id : Nat) : World :=
  let operation := world.operations id
  let world :=
    world.setOperation id
      { operation with openLoginGeneration := world.loginGeneration }
  { world with opens := world.opens ++ [id] }

/-- `run_operation`. -/
def runOperation (world : World) (id : Nat) : World :=
  { world with signs := world.signs ++ [id] }

/-! ## The login -/

/-- `apply_login_outcome`. -/
def applyLoginOutcome
    (world : World) (id : Nat) (outcome : CertificatePinOutcome) : World :=
  -- A cancelled waiter must not receive a result of the shared login.
  if (world.operations id).cancelled then
    operationFail world id cancelledFailure
  else
    match outcome with
    | .ok => runOperation world id
    | .tokenRemoved =>
        operationFail (sessionClose world) id (outcomeFailure .tokenRemoved)
    | outcome => operationFail world id (outcomeFailure outcome)

/-- `detach_waiter_cancel`. -/
def detachWaiterCancel (world : World) (id : Nat) : World :=
  world.setOperation id
    { world.operations id with
      loginCancelId := false, loginCancelIdle := false }

/-- One round of the loop of `finish_login`. -/
def finishWaiter (interaction : Nat) (world : World) (id : Nat) : World :=
  let world := detachWaiterCancel world id
  let operation := world.operations id
  if operation.retryLogin then
    openOperation
      ((world.setOperation id { operation with retryLogin := false }).emit
        (.reopened interaction id)) id
  else
    let outcome := (world.interactions interaction).outcome
    applyLoginOutcome (world.emit (.told interaction id outcome)) id outcome

/-- `finish_login`. -/
def finishLogin (world : World) (interaction : Nat) : World :=
  let settled :=
    { world with
      loginInProgress := false
      loginGeneration := world.loginGeneration + 1
      loginWaiters := none
      loginCancellable := none }.emit (.settled interaction)
  world.waiters.foldl (finishWaiter interaction) settled

/-- The outcome that `on_pin_done` keeps: a cancellation may still be queued
when the worker completes. -/
def keptOutcome (interaction : LoginInteraction)
    (outcome : CertificatePinOutcome) : CertificatePinOutcome :=
  if outcome = .ok && interaction.cancelled then .cancelled else outcome

theorem cancelled_of_keptOutcome
    {interaction : LoginInteraction} {outcome : CertificatePinOutcome}
    (ok : keptOutcome interaction outcome = .ok) :
    interaction.cancelled = false := by
  unfold keptOutcome at ok
  split at ok
  · cases ok
  · rename_i kept
    rw [ok] at kept
    simpa using kept

/-- `on_pin_done`, which the prompt calls once it has finished. -/
def onPinDone
    (world : World) (id : Nat) (outcome : CertificatePinOutcome) : World :=
  let interaction := world.interactions id
  let outcome := keptOutcome interaction outcome
  let undone := outcome ≠ .ok && interaction.performedLogin
  let world :=
    (world.setInteraction id
      { interaction with
        outcome
        cancelled := interaction.cancelled || undone
        conversation := .closed }).emit (.ended id outcome)
  -- New requests wait until the session of the cancelled login has closed.
  if undone then releaseDeviceAsyncFull world (some id)
  else finishLogin world id

/-- `certificate_pin_login_is_cancelling` for the cancellable of a login. -/
def pinLoginIsCancelling (interaction : LoginInteraction) : Bool :=
  interaction.cancelled || interaction.conversation.deferred

/-- `g_cancellable_cancel` on the cancellable of a login. -/
def cancelInteraction (world : World) (id : Nat) : World :=
  (world.setInteraction id
    { world.interactions id with cancelled := true }).emit (.withdrawn id)

/-- `waiter_cancelled_idle`. -/
def waiterCancelledIdle (world : World) (id : Nat) : World :=
  let idle :=
    world.setOperation id
      { world.operations id with loginCancelIdle := false }
  if id ∈ idle.waiters then
    let left := detachWaiterCancel (idle.removeWaiter id) id
    let failed := operationFail left id cancelledFailure
    match left.waiters, left.loginCancellable with
    | [], some interaction => cancelInteraction failed interaction
    | _, _ => failed
  else
    idle

/-! ## Tasks that have returned -/

/-- The error of a task, for which the session is invalidated if its token
has been removed. -/
def failTask (world : World) (id : Nat) (failure : Failure) : World :=
  operationFail
    (if failure.code = some .tokenRemoved then sessionClose world else world)
    id failure

/-- An operation waits for the login in progress. -/
def joinLogin (world : World) (id interaction : Nat) : World :=
  let retries := pinLoginIsCancelling (world.interactions interaction)
  let joined :=
    world.setOperation id
      { world.operations id with
        retryLogin := retries, loginCancelId := true }
  (joined.addWaiter id).emit (.joined interaction id retries)

/-- A login that has been asked for by an operation. -/
def askLogin (world : World) (id : Nat) : World :=
  let waiting :=
    world.setOperation id { world.operations id with loginCancelId := true }
  let asked :=
    { waiting.addWaiter id with
      loginInProgress := true
      loginCancellable := some world.nextInteraction
      nextInteraction := world.nextInteraction + 1 }.setInteraction
      world.nextInteraction (.new .start)
  asked.emit (.asked world.nextInteraction id)

/-- Without a display there is no prompt. -/
def beginLogin (world : World) (id : Nat) (display : Bool) : World :=
  if display then askLogin world id
  else onPinDone (askLogin world id) world.nextInteraction .noDisplay

/-- `on_opened`. -/
def onOpened
    (world : World) (id : Nat) (opened : Except Failure Bool)
    (display : Bool) : World :=
  let operation := world.operations id
  match if operation.cancelled then .error .taskCancelled else opened with
  | .error failure => failTask world id failure
  | .ok needsLogin =>
      match operationStillAuthorised world id with
      | .error failure => operationFail world id failure
      | .ok () =>
          if world.loginInProgress then
            match world.loginCancellable with
            | some interaction => joinLogin world id interaction
            -- Not reached: a login in progress has a cancellable.
            | none => operationFail world id cancelledFailure
          else if needsLogin &&
              operation.openLoginGeneration ≠ world.loginGeneration then
            openOperation world id
          else if needsLogin then
            beginLogin world id display
          else
            runOperation world id

/-- `on_signed`. -/
def onSigned (world : World) (id : Nat) (signed : Signed) : World :=
  let operation := world.operations id
  match if operation.cancelled then .failed .taskCancelled else signed with
  | .retries =>
      if operation.retriedOpen then
        operationFail world id
          (.literal .failed "Token login state did not settle")
      else
        openOperation
          (world.setOperation id { operation with retriedOpen := true }) id
  | .failed failure =>
      if operation.contextOutcome ≠ .ok then
        applyLoginOutcome world id operation.contextOutcome
      else
        failTask world id failure
  | .result value =>
      if operation.mechanism.type = ckmEcdsa &&
          operation.mechanism.encoding = .der then
        match certificateEcdsaRawToDer value with
        | .error error => operationFail world id (.raw error)
        | .ok der => operationSucceed world id der
      else
        operationSucceed world id value

end PortalCertificate.Broker.Login
