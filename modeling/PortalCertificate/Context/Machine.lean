import PortalCertificate.Context.Acquire

/-!
# A context as a transition system

An action is one callback of the coordinator's main loop, one part of what
the desktop does, or a call of a client.  A callback is one atomic step: all
of them run on the thread of the main loop, which nothing interrupts.  The
main loop takes posts in their order, and everything else that is ready in
any order; the parts of a delivery are separate, so the coordinator goes on
between them.  What a worker returns is not restricted.

Prompts for a PIN and the replies of the UI are those of its own machine.
-/

namespace PortalCertificate.Context.Machine

open PortalCertificate.Broker.Operations
  (OperationError Operation Grant certificateBrokerPerform onOperationDone)
open PortalCertificate.Context.Acquire
open PortalCertificate.Context.Completion
open PortalCertificate.Context.Requests
open PortalCertificate.Context.Sessions
open PortalCertificate.Core.Coordinator (XccErrorCode Reply)
open PortalCertificate.Core.Principals (XccPrincipal XccSessionSpec XccSession)
open PortalCertificate.Core.Specs
  (XccAcquireSpec XccSignSpec xccAcquireAsync xccSignAsyncParsed filterZero)
open PortalCertificate.Library.Der (Octets)
open PortalCertificate.Library.Transition
open PortalCertificate.Tokens.Discovery
open PortalCertificate.Tokens.Watcher

/-! ## Requests of clients -/

/-- A new request is scheduled. -/
def schedule (world : World) (asked : Asked) (principal : XccPrincipal) :
    World :=
  xccRequestSchedule
    { world.setRequest world.nextRequest (xccRequestNew asked principal) with
      nextRequest := world.nextRequest + 1 } world.nextRequest

/-- `xcc_acquire_async`. -/
def acquireAsync
    (world : World) (session : Nat) (spec : Option XccAcquireSpec) : World :=
  let request := xccAcquireAsync session spec ⟨0, .ok, false⟩
  schedule world
    { kind := .acquire, session := some session
      validationError := request.validationError
      purpose := request.purpose, genericPurpose := request.genericPurpose
      lifetime := request.lifetime, maySign := request.maySign
      interactionForbidden := request.interactionForbidden
      filter := request.filter
      operationId := none, mechanism := none, parameters := none
      input := [] }
    request.principal

/-- `xcc_sign_async_parsed`. -/
def signAsync
    (world : World) (session : Nat) (spec : Option XccSignSpec)
    (validParameters : Bool) : World :=
  let request :=
    xccSignAsyncParsed session spec validParameters ⟨0, .ok, false⟩
  schedule world
    { kind := .sign, session := some session
      validationError := request.validationError
      purpose := .clientAuth, genericPurpose := false, lifetime := 0
      maySign := false, interactionForbidden := false, filter := filterZero
      operationId := request.operationId, mechanism := request.mechanism
      parameters := request.parameters, input := request.input }
    request.principal

/-- `xcc_get_capabilities_async`. -/
def getCapabilitiesAsync (world : World) : World :=
  schedule world { requestAbsent.toAsked with kind := .capabilities } .zero

/-- `xcc_request_cancel`. -/
def xccRequestCancel
    (world : World) (id : Nat) (reason : XccCancelReason) : World :=
  if world.ui.stopping then world
  else (intend world id reason).post (.cancel id reason)

/-- `xcc_context_shutdown_async`. -/
def xccContextShutdownAsync (world : World) : World :=
  if world.shutdownStarted then world
  else { world with shutdownStarted := true }.post .shutdownStart

/-! ## Starts -/

/-- The request is handed to an operation or to a worker. -/
def handOver (world : World) (id : Nat) : World :=
  world.setRequest id { world.requests id with working := true }

/-- The start of a signature with the grant of its session. -/
def brokerPerform (world : World) (request : XccRequest) (session : Nat) :
    Except OperationError (Operation × XccSession Grant) :=
  let holder := world.sessions session
  certificateBrokerPerform
    { holder with rest := holder.rest.toGrant } world.now false
    request.operationId request.mechanism request.parameters request.input

/-- `xcc_sign_start`. -/
def xccSignStart (world : World) (id : Nat) : World :=
  let (error, world) := xccRequestValidate world id
  if error ≠ .ok then
    xccRequestComplete world id error
  else
    let request := world.requests id
    match request.session with
    | none => world
    | some session =>
        match brokerPerform world request session with
        | .error error => xccRequestComplete world id (onOperationDone error)
        | .ok _ => (handOver world id).emit (.signing id session)

/-- `capabilities_start`. -/
def capabilitiesStart (world : World) (id : Nat) : World :=
  let (error, world) := xccRequestValidate world id
  if error ≠ .ok then xccRequestComplete world id error
  else handOver world id

/-- A request is started, as its kind says. -/
def start (world : World) (id : Nat) : World :=
  match (world.requests id).kind with
  | .acquire => xccAcquireStart world id
  | .sign => xccSignStart world id
  | .capabilities => capabilitiesStart world id

/-- `on_operation_done` and the answer to a signature. -/
def operationDone
    (world : World) (id : Nat) (outcome : Except OperationError Octets) :
    World :=
  match outcome with
  | .error error => xccRequestComplete world id (onOperationDone error)
  | .ok value =>
      xccRequestComplete
        (world.setRequest id
          { world.requests id with signature := some value }) id .ok

/-! ## Posts -/

/-- The function of a post. -/
def runPost (world : World) : Post → World
  | .start id => start world id
  | .cancel id reason => cancel world id reason
  | .rollbackAcquisition id => rollbackAcquisition world id
  | .completionAck id => completionAck world id
  | .generation value => generation world value
  | .shutdownStart => shutdownStart world
  | .sessionNewRegister spec => sessionNewRegister world spec
  | .principalCheck session principal =>
      (checkPrincipal world session principal).2
  | .sessionCall session reason => sessionCall world session reason

/-- `coordinator_post`. -/
def coordinatorPost (world : World) (post : Post) : World :=
  xccContextCheckShutdown (runPost world post)

/-! ## The UI -/

/-- What the UI, its replies and its logins do by themselves. -/
def uiAlone : Core.Ui.Action → Bool
  | .chooser .. | .updateChooser .. | .readTokens .. | .stop | .shutdown =>
      false
  | .cancel cancellable => cancellable % 2 = 1
  | _ => true

/-- Whether an action of the UI is one of the coordinator's main loop. -/
def uiCoordinates : Core.Ui.Action → Bool
  | .send _ | .deliver => false
  | _ => true

/-- The chooser that an action may end, with the reply that it receives. -/
def mayEnd (ui : Core.Coordinator.World) :
    Core.Ui.Action → Option (Nat × Option Reply)
  | .receive index =>
      ui.inbox[index]?.bind fun reply =>
        (Core.Ui.named ui reply).bind fun found =>
          match found.subject with
          | .chooser chooser => some (chooser, some reply)
          | .pin _ => none
  | .chooserCancelledIdle chooser => some (chooser, none)
  | _ => none

/-- What a chooser that has ended calls back with. -/
def ended (before after : Core.Coordinator.World) (chooser : Nat) :
    Option (Option CertificateCandidate × XccErrorCode) :=
  if (before.choosers chooser).finished ||
      !(after.choosers chooser).finished then
    none
  else
    match after.trace.head? with
    | some (.chooserDone _ chosen error) => some (chosen, error)
    | _ => none

/-- The request of a chooser. -/
def owner (chooser : Core.Coordinator.Chooser) : Nat :=
  chooser.cancellable.getD 0 / 2

/-- An action of the UI, with the callback of the chooser that it ends. -/
def afterUi
    (world : World) (action : Core.Ui.Action)
    (ui : Core.Coordinator.World) : World :=
  let next := { world with ui }
  match mayEnd world.ui action with
  | none => next
  | some (chooser, reply) =>
      match ended world.ui ui chooser with
      | none => next
      | some (chosen, error) =>
          let view := world.ui.choosers chooser
          let id := owner view
          onChooserDone
            (next.emit (.concluded id reply (Core.Chooser.chooserView view)
              chosen (world.requests id).enumerating world.events))
            id chosen error

/-- `ui_deliver` on the desktop. -/
def uiDelivered : Core.Ui.Action → World → World
  | .deliver, world => world.emit .uiDelivered
  | _, world => world

/-- A step of the coordinator by itself, and what it means to the context. -/
def uiStep (world : World) (action : Core.Ui.Action) : Option World :=
  if uiAlone action &&
      !(uiCoordinates action && world.ui.shutdownPosted) then
    (Core.Ui.step world.ui action).map fun ui =>
      uiDelivered action (afterUi world action ui)
  else
    none

/-! ## Actions -/

/-- What can happen next: a call of a client, a turn of the main loop, or a
step of the desktop. -/
inductive Action where
  /-- Clients. -/
  | acquire (session : Nat) (spec : Option XccAcquireSpec)
  | sign
      (session : Nat) (spec : Option XccSignSpec) (validParameters : Bool)
  | capabilities
  | cancel (request : Nat) (reason : XccCancelReason)
  | sessionNew (spec : XccSessionSpec)
  | checkPrincipal (session : Nat) (principal : XccPrincipal)
  | sessionClose (session : Nat)
  | sessionInvalidate (session : Nat) (reason : InvalidationReason)
  | setOwnerGeneration (value : Nat)
  | shutdown
  /-- Clocks, cards and what is counted elsewhere. -/
  | tick (now : Int)
  | hold (held : Nat)
  | watchEmit (event : WatchEvent)
  /-- The main loop of the coordinator. -/
  | post
  | dispatchEvents
  | enumerated
      (request enumeration : Nat) (outcome : Enumerated)
      (tokensPresent : Bool) (realTime : Int)
  | operationDone (request : Nat) (outcome : Except OperationError Octets)
  | capabilitiesDone (request : Nat)
  | lifetimeExpired (session : Nat)
  | watchStopped
  | shutdownPoll
  | ui (action : Core.Ui.Action)
  /-- The desktop. -/
  | deliver
  | proceed

/-- A callback of the main loop, which runs until the shutdown is posted. -/
def coordinates (world : World) (enabled : Bool) (next : World) :
    Option World :=
  if !world.ui.shutdownPosted && enabled then some next else none

/-- A request that waits for an operation or for a worker. -/
def awaits (world : World) (id : Nat) (kind : XccResultKind) : Bool :=
  (world.requests id).working && !(world.requests id).answered &&
    (world.requests id).kind = kind

/-- The desktop goes on with a delivery. -/
def proceed (world : World) : Option World :=
  match world.desktop with
  | .idle => none
  | .delivering id => some (completionSettles world id)
  | .calling id => some (completionCalls world id)

/-- One action, where the context is ready for it. -/
def step (world : World) : Action → Option World
  | .acquire session spec =>
      if session < world.nextSession then
        some (acquireAsync world session spec)
      else none
  | .sign session spec validParameters =>
      if session < world.nextSession then
        some (signAsync world session spec validParameters)
      else none
  | .capabilities => some (getCapabilitiesAsync world)
  | .cancel request reason =>
      if request < world.nextRequest then
        some (xccRequestCancel world request reason)
      else none
  | .sessionNew spec =>
      if sessionSpecRefused spec then none
      else some (world.post (.sessionNewRegister spec))
  | .checkPrincipal session principal =>
      if session < world.nextSession then
        some (world.post (.principalCheck session principal))
      else none
  | .sessionClose session =>
      if session < world.nextSession then
        some (world.post (.sessionCall session none))
      else none
  | .sessionInvalidate session reason =>
      if session < world.nextSession then
        some (world.post (.sessionCall session (some reason)))
      else none
  | .setOwnerGeneration value => some (world.post (.generation value))
  | .shutdown => some (xccContextShutdownAsync world)
  | .tick now => if world.now ≤ now then some { world with now } else none
  | .hold held => some { world with held }
  | .watchEmit event => some { world with events := world.events ++ [event] }
  | .post =>
      match world.posts with
      | [] => none
      | post :: rest =>
          coordinates world true
            (coordinatorPost { world with posts := rest } post)
  | .dispatchEvents => coordinates world true (dispatchPending world)
  | .enumerated request enumeration outcome tokensPresent realTime =>
      coordinates world
        (world.enumerations.contains (request, enumeration))
        (onEnumerated world request enumeration outcome tokensPresent
          realTime)
  | .operationDone request outcome =>
      coordinates world (awaits world request .sign)
        (operationDone world request outcome)
  | .capabilitiesDone request =>
      coordinates world (awaits world request .capabilities)
        (xccRequestComplete world request .ok)
  | .lifetimeExpired session =>
      coordinates world (world.sessions session).rest.expirySource
        (onLifetimeExpired world session)
  | .watchStopped =>
      coordinates world world.ui.stopping
        (xccContextCheckShutdown { world with watchStopped := true })
  | .shutdownPoll =>
      coordinates world world.ui.stopping (xccContextCheckShutdown world)
  | .ui action => uiStep world action
  | .deliver =>
      match world.desktop, world.queue with
      | .idle, delivery :: rest =>
          some (Completion.deliver { world with queue := rest } delivery)
      | _, _ => none
  | .proceed => proceed world

/-- The context, with its coordinator. -/
def machine : System World Action where
  initial world := ∃ ui generation now,
    Core.Ui.machine.initial ui ∧ world = .start ui generation now
  step := step

end PortalCertificate.Context.Machine
