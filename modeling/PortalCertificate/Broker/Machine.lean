import PortalCertificate.Broker.Login
import PortalCertificate.Library.Transition

/-!
# The broker as a transition system

The workers of `operations.c`, and all of them with the coordinator.  The
tasks of a session run in any order, their results are delivered in any
order, and prompts, requests and the clock go on meanwhile.

A worker checks the authority of its operation more than once.  From one
check to the next it is one action: the checks read what the coordinator
writes, and the rest touches the device, whose lock the worker has.  What
the coordinator does during such a part could as well come before or after
it.

This is the machine of one session.  What prompts do and what the context
asks of the session are actions that can come at any time, and both machines
accept an operation by the same `certificateBrokerPerform`.  So what is
proved here holds in every order in which the machines of prompts and of the
context take their steps; no product of the machines is built.
-/

namespace PortalCertificate.Broker.Machine

open PortalCertificate.Broker.Device hiding Event State
open PortalCertificate.Broker.Login
open PortalCertificate.Broker.Operations
open PortalCertificate.Core.Coordinator (CertificatePinOutcome)
open PortalCertificate.Core.Principals (XccSession)
open PortalCertificate.Glib
open PortalCertificate.Library.Der (Octets)
open PortalCertificate.Library.Transition
open PortalCertificate.Pkcs11

/-! ## Opening -/

/-- `ensure_session_locked`. -/
def ensureSessionLocked (world : World) (answers : OpenAnswers) :
    World × Except Failure Unit :=
  match world.session.rest.candidate with
  -- Not reached: an operation is accepted with a candidate.
  | none => (world, .error (.device tokenRemoved))
  | some candidate =>
      let (state, result) :=
        certificateDeviceOpen ⟨world.device, []⟩ candidate answers
      (world.useDevice state, result.mapError .device)

/-- A private key may be there without a login. -/
def needsLogin (world : World) : Bool :=
  !world.device.loggedIn &&
    ((world.session.rest.candidate.any fun candidate =>
        candidate.token.loginRequired) ||
      world.device.privateKey == ckInvalidHandle)

/-- `open_thread`. -/
def openThread (world : World) (id : Nat) (answers : OpenAnswers) :
    World × Except Failure Bool :=
  match operationStillAuthorised world id with
  | .error failure => (world, .error failure)
  | .ok () =>
      match ensureSessionLocked world answers with
      | (world, .error failure) => (world, .error failure)
      | (world, .ok ()) => (world, .ok (needsLogin world))

/-- The task that opens the device for an operation has returned. -/
def returnOpen (world : World) (id : Nat) (opened : Except Failure Bool) :
    World :=
  { world with
    opens := world.opens.erase id
    opened := world.opened ++ [(id, opened)] }

/-! ## Performing -/

/-- The end of `sign_thread`; failures to decrypt look alike. -/
def returnSign (world : World) (id : Nat) (signed : Signed) : World :=
  { world with
    signing := none
    deviceLocked := false
    signed := world.signed ++ [(id, signed)] }

/-- The failure of a token's operation, which is not told for a decryption. -/
def performFailure (world : World) (id : Nat) (failure : Failure) : Signed :=
  .failed
    (if (world.operations id).decrypt then
      .literal .failed "Decryption failed"
    else failure)

/-- C_Sign or C_Decrypt, and the end of `sign_thread`. -/
def submit (world : World) (id : Nat) (result : Except CkUlong Octets) :
    World :=
  let submitted :=
    world.emit (.submitted id world.device.session world.now)
  returnSign submitted id
    (match result with
    | .ok value => .result value
    | .error rv =>
        performFailure world id
          (.device (.call rv
            (if (world.operations id).decrypt then "C_Decrypt"
              else "C_Sign"))))

/-- `sign_thread` up to the refresh of the login, with both locks. -/
def signThread
    (world : World) (id : Nat) (info : Except CkUlong CkUlong)
    (found : Option (List CkUlong)) : World :=
  let taken := { world with signs := world.signs.erase id }
  match operationStillAuthorised world id with
  | .error failure =>
      { taken with signed := taken.signed ++ [(id, .failed failure)] }
  | .ok () =>
      let locked :=
        { taken with signing := some (id, .checked), deviceLocked := true }
      if world.device.module.isNone then locked
      else
        let (state, result) :=
          certificateDeviceRefreshLogin ⟨world.device, []⟩ info found
        match result with
        | .error error =>
            returnSign (locked.useDevice state) id (.failed (.device error))
        | .ok () => locked.useDevice state

/-- What is answered from `certificate_device_perform` on. -/
structure SignAnswers where
  alwaysAuthenticate : Bool
  init : CkUlong
  result : Except CkUlong Octets

/-- `certificate_device_perform` up to the authentication, if there is
one, or to its end. -/
def devicePerform (world : World) (id : Nat) (answers : SignAnswers) :
    World :=
  let entered := world.emit (.entered id world.now)
  if world.device.privateKey == ckInvalidHandle then
    returnSign entered id (performFailure world id
      (.device (.literal .noPrivateKey
        "No private key is available on this token")))
  else
    let used :=
      entered.emit
        (.device (.used world.device.session world.device.privateKey))
    if answers.init != ckrOk then
      returnSign used id (performFailure world id
        (.device (.call answers.init
          (if (world.operations id).decrypt then "C_DecryptInit"
            else "C_SignInit"))))
    else
      let initialised := used.emit (.initialised id world.device.session)
      if answers.alwaysAuthenticate then
        { initialised with
          signing := some (id, .asking world.device.session)
          deviceLocked := false }
      else
        submit initialised id answers.result

/-- `sign_thread` after the refresh of the login. -/
def signPerform (world : World) (id : Nat) (answers : SignAnswers) : World :=
  match operationStillAuthorised world id with
  | .error failure => returnSign world id (.failed failure)
  | .ok () =>
      if world.device.module.isNone || needsLogin world then
        returnSign world id .retries
      else
        devicePerform world id answers

/-- `authenticate_context`, once the lock is taken again. -/
def contextAuthenticated
    (world : World) (id : Nat) (handle : CkUlong)
    (outcome : CertificatePinOutcome) : Except Failure Unit :=
  if outcome ≠ .ok then
    .error (.literal .failed "Token refused authentication")
  else
    match operationStillAuthorised world id with
    | .error failure => .error failure
    | .ok () =>
        if world.device.module.isNone || world.device.session ≠ handle then
          .error (.device tokenRemoved)
        else .ok ()

/-- The rest of `certificate_device_perform` after an authentication. -/
def signResume
    (world : World) (id : Nat) (handle : CkUlong)
    (outcome : CertificatePinOutcome) (result : Except CkUlong Octets) :
    World :=
  let kept :=
    world.setOperation id
      { world.operations id with contextOutcome := outcome }
  match contextAuthenticated kept id handle outcome with
  | .error failure =>
      let state := certificateDeviceClose ⟨kept.device, []⟩
      returnSign (kept.useDevice state) id (performFailure kept id failure)
  | .ok () => submit kept id result

/-- `prompt_context_pin`. -/
def promptContextPin
    (world : World) (id : Nat) (handle : CkUlong) (display : Bool) : World :=
  { world.emit (.contextAsked id) with
    signing :=
      some (id,
        if display then .prompting handle .start
        else .told handle .noDisplay) }

/-- `do_context_login`; `rv` is what C_Login returns. -/
def doContextLogin
    (world : World) (id : Nat) (handle rv : CkUlong) : World × Bool :=
  match operationStillAuthorised world id with
  | .error _ => (world, false)
  | .ok () =>
      if world.device.session ≠ handle then (world, false)
      else if world.device.module.isNone ||
          world.device.session == ckInvalidHandle then (world, false)
      else (world.emit (.contextLogin id world.device.session), rv == ckrOk)

/-! ## Logins -/

/-- `do_login` up to its second check. -/
def doLogin (world : World) (interaction : Nat) (answers : OpenAnswers) :
    World :=
  match stillAuthorised world (world.interactions interaction).cancelled with
  | .error _ => world.setAttempt interaction (.returned false)
  | .ok () =>
      match ensureSessionLocked world answers with
      | (world, .error _) => world.setAttempt interaction (.returned false)
      | (world, .ok ()) =>
          { world.setAttempt interaction .holding with deviceLocked := true }

/-- C_Login for a login. -/
def performLogin
    (world : World) (interaction : Nat) (rv : CkUlong)
    (found : Option (List CkUlong)) : World × Bool :=
  match world.session.rest.candidate with
  -- Not reached: an operation is accepted with a candidate.
  | none => (world, false)
  | some candidate =>
      let (state, result) :=
        certificateDeviceLogin ⟨world.device, []⟩ candidate rv found
      let used := world.useDevice state
      let login := used.interactions interaction
      match result with
      | .error _ =>
          (used.setInteraction interaction
            { login with performedLogin := false }, false)
      | .ok () =>
          ((used.setInteraction interaction
            { login with performedLogin := true }).emit
            (.loggedIn interaction), true)

/-- `do_login` from its second check on.  Another request may have logged
in meanwhile. -/
def endLogin
    (world : World) (interaction : Nat) (rv : CkUlong)
    (found : Option (List CkUlong)) : World :=
  let world := { world with deviceLocked := false }
  let (next, succeeded) :=
    match stillAuthorised world
        (world.interactions interaction).cancelled with
    | .error _ => (world, false)
    | .ok () =>
        if world.device.loggedIn then (world, true)
        else performLogin world interaction rv found
  next.setAttempt interaction (.returned succeeded)

/-! ## Releases -/

/-- `release_thread`. -/
def releaseThread (world : World) (login : Option Nat) : World :=
  let state := certificateDeviceClose ⟨world.device, []⟩
  let world :=
    { world.useDevice state with
      releases := world.releases.erase login
      released := world.released ++ [login] }
  match login with
  | none => world
  | some interaction => world.emit (.released interaction)

/-- `on_device_released`. -/
def onDeviceReleased (world : World) (login : Option Nat) : World :=
  let world := { world with released := world.released.erase login }
  match login with
  | none => world
  | some interaction => finishLogin world interaction

/-! ## Accepting -/

/-- `certificate_broker_perform`. -/
def brokerPerform
    (world : World) (decrypt : Bool)
    (operationId mechanismName : Option String)
    (parameters : Option Vardict) (data : Octets) : World :=
  match certificateBrokerPerform world.session world.now decrypt operationId
      mechanismName parameters data with
  | .error error => world.emit (.refused error)
  | .ok (operation, charged) =>
      let id := world.nextOperation
      let accepted :=
        ({ world with
          session := charged
          nextOperation := id + 1 }.setOperation id
          (.new operation)).emit (.accepted id decrypt)
      openOperation accepted id

/-! ## The machine -/

/-- What can happen next: a call, a worker that gets on, or a step of a
prompt. -/
inductive Action where
  | perform (decrypt : Bool) (operationId mechanismName : Option String)
      (parameters : Option Vardict) (data : Octets)
  | tick (seconds : Nat)
  | cancel (id : Nat)
  /-- `xcc_session_close` or `xcc_session_invalidate`. -/
  | close
  | openThread (id : Nat) (answers : OpenAnswers)
  /-- `on_opened` for one of the tasks that have returned. -/
  | opened (index : Nat) (display : Bool)
  | signThread (id : Nat) (info : Except CkUlong CkUlong)
      (found : Option (List CkUlong))
  | signPerform (answers : SignAnswers)
  | promptContext (display : Bool)
  | contextPrompt (action : PromptAction)
  | contextLogin (rv : CkUlong)
  /-- `on_context_pin_done`. -/
  | contextDone (outcome : CertificatePinOutcome)
  | signResume (result : Except CkUlong Octets)
  /-- `on_signed` for one of the tasks that have returned. -/
  | signed (index : Nat)
  | prompt (interaction : Nat) (action : PromptAction)
  | login (interaction : Nat) (answers : OpenAnswers)
  | endLogin (interaction : Nat) (rv : CkUlong)
      (found : Option (List CkUlong))
  | pinDone (interaction : Nat) (outcome : CertificatePinOutcome)
  | release (login : Option Nat)
  | released (login : Option Nat)
  | waiterCancelled (id : Nat)

/-- A worker that is refused before it takes a lock needs none. -/
def refusedAtOnce (world : World) (id : Nat) : Bool :=
  !(operationStillAuthorised world id).toBool

/-- The prompt of the operation with the lock goes on. -/
def contextPrompt (world : World) (action : PromptAction) : Option World :=
  match world.signing with
  | some (id, .prompting handle conversation) =>
      (conversation.after action).map fun conversation =>
        { world with signing := some (id, .prompting handle conversation) }
  | _ => none

/-- A worker of that prompt calls `do_context_login`. -/
def contextLogin (world : World) (rv : CkUlong) : Option World :=
  match world.signing with
  | some (id, .prompting handle conversation) =>
      if conversation.attempt = .calling ∧ world.deviceLocked = false then
        let (next, succeeded) := doContextLogin world id handle rv
        let returned := { conversation with attempt := .returned succeeded }
        some { next with signing := some (id, .prompting handle returned) }
      else none
  | _ => none

/-- `on_context_pin_done`. -/
def contextDone (world : World) (outcome : CertificatePinOutcome) :
    Option World :=
  match world.signing with
  | some (id, .prompting handle conversation) =>
      if conversation.quiet then
        some { world with signing := some (id, .told handle outcome) }
      else none
  | _ => none

/-- The prompt of a login goes on. -/
def promptStep (world : World) (interaction : Nat) (action : PromptAction) :
    Option World :=
  let login := world.interactions interaction
  (login.conversation.after action).map fun conversation =>
    world.setInteraction interaction { login with conversation }

/-- One action, where the broker is ready for it. -/
def step (world : World) : Action → Option World
  | .perform decrypt operationId mechanismName parameters data =>
      some (brokerPerform world decrypt operationId mechanismName parameters
        data)
  | .tick seconds => some { world with now := world.now + seconds }
  | .cancel id =>
      if id < world.nextOperation then some (cancelOperation world id)
      else none
  | .close => some (sessionClose world)
  | .openThread id answers =>
      if id ∈ world.opens ∧
          (refusedAtOnce world id || !world.deviceLocked) then
        let (next, opened) := openThread world id answers
        some (returnOpen next id opened)
      else none
  | .opened index display =>
      world.opened[index]?.map fun (id, opened) =>
        let delivered :=
          { world with opened := world.opened.eraseIdx index }
        onOpened delivered id opened display
  | .signThread id info found =>
      if id ∈ world.signs ∧
          (refusedAtOnce world id ||
            !world.deviceLocked && world.signing.isNone) then
        some (signThread world id info found)
      else none
  | .signPerform answers =>
      match world.signing with
      | some (id, .checked) => some (signPerform world id answers)
      | _ => none
  | .promptContext display =>
      match world.signing with
      | some (id, .asking handle) =>
          some (promptContextPin world id handle display)
      | _ => none
  | .contextPrompt action => contextPrompt world action
  | .contextLogin rv => contextLogin world rv
  | .contextDone outcome => contextDone world outcome
  | .signResume result =>
      match world.signing with
      | some (id, .told handle outcome) =>
          if world.deviceLocked then none
          else some (signResume world id handle outcome result)
      | _ => none
  | .signed index =>
      world.signed[index]?.map fun (id, result) =>
        let delivered :=
          { world with signed := world.signed.eraseIdx index }
        onSigned delivered id result
  | .prompt interaction action => promptStep world interaction action
  | .login interaction answers =>
      if (world.interactions interaction).conversation.attempt = .calling ∧
          world.deviceLocked = false then
        some (doLogin world interaction answers)
      else none
  | .endLogin interaction rv found =>
      if (world.interactions interaction).conversation.attempt = .holding then
        some (endLogin world interaction rv found)
      else none
  | .pinDone interaction outcome =>
      if (world.interactions interaction).conversation.quiet then
        some (onPinDone world interaction outcome)
      else none
  | .release login =>
      if login ∈ world.releases ∧ world.deviceLocked = false then
        some (releaseThread world login)
      else none
  | .released login =>
      if login ∈ world.released then some (onDeviceReleased world login)
      else none
  | .waiterCancelled id =>
      if (world.operations id).loginCancelIdle then
        some (waiterCancelledIdle world id)
      else none

/-- A session that has been granted, whose operations are all to come. -/
def machine : System World Action where
  initial world := ∃ session now,
    session.rest.decryptCount = 0 ∧ world = .start session now
  step := step

end PortalCertificate.Broker.Machine
