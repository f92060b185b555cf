import PortalCertificate.Adapter.Options
import PortalCertificate.Adapter.Responses
import PortalCertificate.Context.Machine

/-!
# The adapter as a transition system

`certificate-impl.c`, `request-impl.c` and `session-impl.c` on top of a
context.  The adapter runs on the thread of the desktop: it handles one call
of the bus at a time, and the coordinator goes on meanwhile.  A call that
makes a session or checks a principal waits until the coordinator has run
what it has posted; apart from these waits, what a handler does to the
context happens at once.

What the bus answers to a lookup, and whether it exports an object, is part
of an action.  A session of the adapter has the number of its core session,
a transaction that of its core request.

The trace lists what is seen on the bus, newest first.
-/

namespace PortalCertificate.Adapter.Machine

open PortalCertificate.Adapter.Options
open PortalCertificate.Adapter.Responses
open PortalCertificate.Context.Machine
  (acquireAsync signAsync getCapabilitiesAsync xccRequestCancel
    xccContextShutdownAsync)
open PortalCertificate.Context.Requests
open PortalCertificate.Context.Sessions
open PortalCertificate.Core.Coordinator (XccErrorCode)
open PortalCertificate.Core.Principals
open PortalCertificate.Glib
open PortalCertificate.Library.Transition

/-! ## Calls -/

/-- The methods of the interfaces, with their arguments. -/
inductive Method where
  | createSession (handle sessionHandle appId : String)
  | acquireCredential
      (handle sessionHandle appId parentWindow : String) (options : Vardict)
  | sign
      (handle sessionHandle appId parentWindow : String) (options : Vardict)
  | getCapabilities
  /-- `Close` of the request of a transaction. -/
  | closeRequest (transaction : Nat)
  /-- `Close` of a session. -/
  | closeSession (session : Nat)

/-- The session and the application that a call names. -/
def Method.names : Method → Option (String × String)
  | .acquireCredential _ path appId _ _ | .sign _ path appId _ _ =>
      some (path, appId)
  | _ => none

/-- A call on the bus, and who has made it. -/
structure Call where
  sender : String
  method : Method

/-- The replies to the lookups of one authorization; the first of them is
made only while no owner is known. -/
structure Lookups where
  initial : Option String
  confirming : Option String

/-- What the bus does while a call is handled.  The lookups of the handler
of `Close` come before those of its class closure. -/
structure Bus where
  lookups : Lookups
  closing : Lookups
  requestExports : Bool
  sessionExports : Bool

/-- What a call is answered with. -/
inductive Reply where
  | accessDenied
  | answer (answer : Answer)
  | capabilities (results : Vardict)
  | closed

/-! ## Objects -/

/-- `CertificateImplRequest`, while its transaction lasts. -/
structure CertificateImplRequest where
  sender : String
  appId : String
  id : String
  exported : Bool

/-- `CertificateImplSession`, with the name that owned the bus when it was
made. -/
structure CertificateImplSession where
  id : String
  appId : String
  owner : String
  exported : Bool
  invalidated : Bool

/-- No session, for the numbers that are not in use. -/
def sessionAbsent : CertificateImplSession := ⟨"", "", "", false, false⟩

/-- `Transaction`, once it has a request. -/
structure Transaction where
  invocation : Nat
  session : Nat
  request : CertificateImplRequest
  cancelledCode : Option String

/-- No transaction, for the numbers that are not in use. -/
def transactionAbsent : Transaction := ⟨0, 0, ⟨"", "", "", false⟩, none⟩

/-- What the handler of a call waits for, with the result once it is
`ready`. -/
inductive Waiting where
  /-- In `xcc_session_new`; the new session, if there is one. -/
  | creating
      (invocation : Nat) (sender path appId : String) (spec : XccSessionSpec)
      (sessionExports : Bool) (made : Option (Option Nat))
  /-- In `xcc_session_check_principal`. -/
  | checking
      (invocation : Nat) (sender : String) (session : Nat)
      (arguments : Arguments) (options : Vardict) (principal : XccPrincipal)
      (requestExports : Bool) (verdict : Option XccErrorCode)

/-- The call whose handler waits. -/
def Waiting.invocation : Waiting → Nat
  | .creating invocation .. | .checking invocation .. => invocation

/-- What the adapter does, as the bus and the context see it. -/
inductive Event where
  | received (invocation : Nat) (call : Call)
  | lookedUp (owner : Option String)
  /-- A call has passed `certificate_impl_sender_is_frontend`. -/
  | authorized (invocation : Nat) (sender : String)
  | ownerChanged (owner : Option String)
  | requestExported (invocation : Nat)
  | requestUnexported (invocation : Nat)
  | sessionExported (session : Nat) (path : String)
  | sessionUnexported (session : Nat)
  | answered (invocation : Nat) (reply : Reply)
  | sessionInvalidated (path : String) (reason : InvalidationReason)
  | sessionClosed (path : String)

/-- `CertificateImpl` and the context; `asking` are the calls of
`GetCapabilities` in flight. -/
structure World where
  core : Context.Requests.World
  ownerGeneration : Nat
  frontendOwner : Option String
  ownerResolved : Bool
  shutdownComplete : Bool
  /-- The loop of `certificate_impl_shutdown` has been left. -/
  drained : Bool
  hasDisplay : Bool
  sessions : List (String × Nat)
  objects : Nat → CertificateImplSession
  transactions : List Nat
  ledger : Nat → Transaction
  asking : List Nat
  asked : Nat → Nat
  waiting : Option Waiting
  nextInvocation : Nat
  trace : List Event

/-- An adapter that has just been made. -/
def World.start (core : Context.Requests.World) (hasDisplay : Bool) :
    World where
  core := core
  ownerGeneration := 0
  frontendOwner := none
  ownerResolved := false
  shutdownComplete := false
  drained := false
  hasDisplay := hasDisplay
  sessions := []
  objects := fun _ => sessionAbsent
  transactions := []
  ledger := fun _ => transactionAbsent
  asking := []
  asked := fun _ => 0
  waiting := none
  nextInvocation := 0
  trace := []

namespace World

variable (world : World)

/-- The event is added to the trace. -/
def emit (event : Event) : World :=
  { world with trace := event :: world.trace }

/-- The call is answered, and its invocation is spent. -/
def answer (invocation : Nat) (reply : Reply) : World :=
  world.emit (.answered invocation reply)

/-- The record of a session is replaced. -/
def setObject (session : Nat) (object : CertificateImplSession) : World :=
  { world with objects := Function.update world.objects session object }

/-- The record of a transaction is replaced. -/
def setTransaction (id : Nat) (transaction : Transaction) : World :=
  { world with ledger := Function.update world.ledger id transaction }

/-- `g_hash_table_remove` from the sessions. -/
def removeSession (path : String) : World :=
  { world with
    sessions := world.sessions.filter fun entry => entry.1 ≠ path }

end World

/-! ## Sessions -/

/-- `certificate_impl_session_close`. -/
def certificateImplSessionClose (world : World) (session : Nat) : World :=
  if (world.core.sessions session).closed then world
  else { world with core := world.core.post (.sessionCall session none) }

/-- `certificate_impl_session_unexport`. -/
def certificateImplSessionUnexport (world : World) (session : Nat) : World :=
  let object := world.objects session
  if object.exported then
    (world.setObject session { object with exported := false }).emit
      (.sessionUnexported session)
  else
    world

/-- A session that the table or a transaction holds. -/
def held (world : World) (session : Nat) : Bool :=
  world.sessions.any (fun entry => entry.2 = session) ||
    world.transactions.any fun id => (world.ledger id).session = session

/-- `on_core_invalidated`, which a finalized session has detached. -/
def onCoreInvalidated
    (world : World) (session : Nat) (reason : InvalidationReason) : World :=
  if held world session then
    let object := world.objects session
    let told :=
      (world.setObject session { object with invalidated := true }).emit
        (.sessionInvalidated object.id reason)
    if object.exported then told.emit (.sessionClosed object.id) else told
  else
    world

/-! ## Transactions -/

/-- The reason that `cancel_transactions` gives to the core. -/
def cancelReason (code : String) : XccCancelReason :=
  if code = "owner_gone" then .ownerGone
  else if code = "backend_gone" then .backendGone
  else .sessionClosed

/-- The transaction is marked, and its request is cancelled. -/
def cancelTransaction (code : String) (world : World) (id : Nat) : World :=
  let marked :=
    world.setTransaction id
      { world.ledger id with cancelledCode := some code }
  { marked with core := xccRequestCancel marked.core id (cancelReason code) }

/-- `cancel_transactions`; without a session all of them are. -/
def cancelTransactions
    (world : World) (session : Option Nat) (code : String) : World :=
  (world.transactions.filter fun id =>
    session.all fun session => (world.ledger id).session = session).foldl
      (cancelTransaction code) world

/-- `certificate_impl_request_unexport`. -/
def certificateImplRequestUnexport (world : World) (id : Nat) : World :=
  let transaction := world.ledger id
  if transaction.request.exported then
    (world.setTransaction id
      { transaction with
        request := { transaction.request with exported := false } }).emit
          (.requestUnexported transaction.invocation)
  else
    world

/-- `g_ptr_array_remove_fast`: the last entry takes the place. -/
def removeFast (entries : List Nat) (entry : Nat) : List Nat :=
  match entries.getLast? with
  | some last =>
      if entry ∈ entries then
        (entries.set (entries.idxOf entry) last).dropLast
      else
        entries
  | none => entries

/-- `transaction_respond`, which frees the transaction. -/
def transactionRespond (world : World) (id : Nat) (answer : Answer) : World :=
  let unexported := certificateImplRequestUnexport world id
  { unexported.answer (world.ledger id).invocation (.answer answer) with
    transactions := removeFast world.transactions id }

/-! ## The frontend -/

/-- The body of the second loop of `invalidate_foreign_sessions`. -/
def invalidateForeignSession (world : World) (session : Nat) : World :=
  let cancelled := cancelTransactions world (some session) "owner_gone"
  let closed :=
    certificateImplSessionUnexport
      (certificateImplSessionClose cancelled session) session
  closed.removeSession (world.objects session).id

/-- `invalidate_foreign_sessions`. -/
def invalidateForeignSessions (world : World) (owner : Option String) :
    World :=
  let foreign :=
    world.sessions.filter fun entry =>
      owner ≠ some (world.objects entry.2).owner
  (foreign.map Prod.snd).foldl invalidateForeignSession world

/-- `set_frontend_owner`. -/
def setFrontendOwner (world : World) (owner : Option String) : World :=
  if world.frontendOwner = owner then
    world
  else
    let generation := world.ownerGeneration + 1
    let fenced :=
      { world with
        ownerGeneration := generation
        core := world.core.post (.generation generation) }
    { invalidateForeignSessions fenced owner with
      frontendOwner := owner }.emit (.ownerChanged owner)

/-- `resolve_frontend_owner`. -/
def resolveFrontendOwner (world : World) (reply : Option String) : World :=
  setFrontendOwner
    ({ world with ownerResolved := true }.emit (.lookedUp reply)) reply

/-- The name watch may not have told the owner yet. -/
def ownerKnown (world : World) (reply : Option String) : World :=
  if world.ownerResolved then world else resolveFrontendOwner world reply

/-- `certificate_impl_sender_is_frontend`. -/
def certificateImplSenderIsFrontend
    (world : World) (sender : String) (lookups : Lookups) : Bool × World :=
  let known := ownerKnown world lookups.initial
  if known.frontendOwner ≠ some sender then
    (false, known)
  else
    let confirmed := resolveFrontendOwner known lookups.confirming
    (confirmed.frontendOwner = some sender, confirmed)

/-- `reject_stranger`; `none` is a call that has been answered. -/
def rejectStranger
    (world : World) (invocation : Nat) (sender : String)
    (lookups : Lookups) : World ⊕ World :=
  let (accepted, world) :=
    certificateImplSenderIsFrontend world sender lookups
  if accepted then .inr (world.emit (.authorized invocation sender))
  else .inl (world.answer invocation .accessDenied)

/-- The loop of `close_and_forget_all`; no caller gives a reason. -/
def closeAndUnexport (world : World) (session : Nat) : World :=
  certificateImplSessionUnexport
    (certificateImplSessionClose world session) session

/-- `close_and_forget_all`. -/
def closeAndForgetAll (world : World) : World :=
  { (world.sessions.map Prod.snd).foldl closeAndUnexport world with
    sessions := [] }

/-- `on_frontend_appeared`. -/
def onFrontendAppeared (world : World) (owner : String) : World :=
  { setFrontendOwner world (some owner) with ownerResolved := true }

/-- `on_frontend_vanished`. -/
def onFrontendVanished (world : World) : World :=
  let gone := { setFrontendOwner world none with ownerResolved := true }
  cancelTransactions (closeAndForgetAll gone) none "owner_gone"

/-! ## CreateSession -/

/-- The specification of `certificate_impl_session_new_for_context`. -/
def sessionSpec (generation : Nat) (appId : String) : XccSessionSpec where
  structSize := sizeofXccSessionSpec
  abiVersion := xccAbiVersion
  ownerGeneration := generation
  appId := appId
  identityLevel := 0
  identityPresent := false

/-- The second half of `handle_create_session`, in which the path is free:
the request is exported for a moment, and the session is posted. -/
def startSession
    (world : World) (invocation : Nat) (sender path appId : String)
    (bus : Bus) : World :=
  if !bus.requestExports then
    world.answer invocation (.answer (refusal "invalid_request"))
  else
    let shown :=
      (world.emit (.requestExported invocation)).emit
        (.requestUnexported invocation)
    let spec := sessionSpec world.ownerGeneration appId
    if world.core.ui.shutdownPosted then
      shown.answer invocation (.answer (refusal "no_such_session"))
    else
      { shown with
        core := shown.core.post (.sessionNewRegister spec)
        waiting := some (.creating invocation sender path appId spec
          bus.sessionExports none) }

/-- `handle_create_session` after the authorization. -/
def handleCreateSession
    (world : World) (invocation : Nat) (sender path appId : String)
    (bus : Bus) : World :=
  match world.sessions.lookup path with
  | none => startSession world invocation sender path appId bus
  | some existing =>
      if (world.core.sessions existing).closed then
        let dropped :=
          (closeAndUnexport world existing).removeSession path
        startSession dropped invocation sender path appId bus
      else
        world.answer invocation (.answer (refusal "invalid_request"))

/-- The session that `session_new_register` makes. -/
def registers
    (core : Context.Requests.World) (spec : XccSessionSpec) : Option Nat :=
  if !core.ui.stopping && spec.ownerGeneration = core.generation then
    some core.nextSession
  else
    none

/-- The end of `handle_create_session`, with the new core session. -/
def finishSession
    (world : World) (made : Option Nat) (invocation : Nat)
    (sender path appId : String) (sessionExports : Bool) : World :=
  match made with
  | none => world.answer invocation (.answer (refusal "no_such_session"))
  | some session =>
      if !sessionExports then
        world.answer invocation (.answer (refusal "invalid_request"))
      else
        let exported :=
          (world.setObject session ⟨path, appId, sender, true, false⟩).emit
            (.sessionExported session path)
        { exported with
          sessions := (path, session) :: exported.sessions }.answer
            invocation (.answer ⟨responseSuccess, emptyResults⟩)

/-! ## Acquisitions and signatures -/

/-- `lookup_session`. -/
def lookupSession (world : World) (path appId : String) : Option Nat :=
  (world.sessions.lookup path).filter fun session =>
    !(world.core.sessions session).closed &&
      (world.objects session).appId = appId

/-- What `handle_acquire_credential` reads before it checks the principal,
or the reason to refuse. -/
def acquirePrincipal (arguments : Arguments) (options : Vardict) :
    Except String XccPrincipal :=
  match (lookupText options "purpose").bind certificatePurposeParse with
  | none => .error "invalid_purpose"
  | some _ =>
      match parseAcquireOptions options with
      | none => .error "invalid_request"
      | some parsed =>
          .ok (principal arguments.generation arguments.appId parsed.level)

/-- A transaction gets its request and its core request. -/
def register
    (world : World) (invocation : Nat) (sender : String) (session : Nat)
    (arguments : Arguments)
    (asks : Context.Requests.World → Context.Requests.World) : World :=
  let id := world.core.nextRequest
  let exported := world.emit (.requestExported invocation)
  let registered :=
    exported.setTransaction id
      { invocation, session, cancelledCode := none
        request := ⟨sender, arguments.appId, arguments.handle, true⟩ }
  { registered with
    transactions := registered.transactions ++ [id]
    core := asks registered.core }

/-- `handle_acquire_credential` after the authorization, up to the check of
the principal. -/
def handleAcquireCredential
    (world : World) (invocation : Nat) (sender path : String)
    (arguments : Arguments) (options : Vardict) (bus : Bus) : World :=
  match lookupSession world path arguments.appId with
  | none => world.answer invocation (.answer (refusal "no_such_session"))
  | some session =>
      match acquirePrincipal arguments options with
      | .error code => world.answer invocation (.answer (refusal code))
      | .ok principal =>
          if world.core.ui.shutdownPosted then
            world.answer invocation
              (.answer (refusal (errorReason .backendGone)))
          else
            { world with
              core := world.core.post (.principalCheck session principal)
              waiting := some (.checking invocation sender session arguments
                options principal bus.requestExports none) }

/-- The end of `handle_acquire_credential`, with the verdict of the check. -/
def finishAcquire
    (world : World) (verdict : XccErrorCode) (invocation : Nat)
    (sender : String) (session : Nat) (arguments : Arguments)
    (options : Vardict) (requestExports : Bool) : World :=
  match acquireFilter arguments options (fun _ => verdict) errorReason with
  | .error code => world.answer invocation (.answer (refusal code))
  | .ok (parsed, filter) =>
      if !requestExports then
        world.answer invocation (.answer (refusal "invalid_request"))
      else
        register world invocation sender session arguments fun core =>
          acquireAsync core session (acquireSpec arguments parsed filter)

/-- `handle_key_operation` after the authorization. -/
def handleKeyOperation
    (world : World) (invocation : Nat) (sender path : String)
    (arguments : Arguments) (options : Vardict) (bus : Bus) : World :=
  match lookupSession world path arguments.appId with
  | none => world.answer invocation (.answer (refusal "no_such_session"))
  | some session =>
      match readSignCall options with
      | none =>
          world.answer invocation (.answer (refusal "invalid_request"))
      | some call =>
          if !bus.requestExports then
            world.answer invocation (.answer (refusal "invalid_request"))
          else
            register world invocation sender session arguments fun core =>
              signAsync core session (signSpec arguments call)
                (!(takeParameters call.mechanism call.parameters).bad)

/-- `handle_get_capabilities` after the authorization. -/
def handleGetCapabilities (world : World) (invocation : Nat) : World :=
  let id := world.core.nextRequest
  { world with
    asking := id :: world.asking
    asked := Function.update world.asked id invocation
    core := getCapabilitiesAsync world.core }

/-! ## Close -/

/-- `certificate_impl_session_forget`. -/
def certificateImplSessionForget (world : World) (session : Nat) : World :=
  let cancelled := cancelTransactions world (some session) "no_such_session"
  let unexported := certificateImplSessionUnexport cancelled session
  let path := (world.objects session).id
  if unexported.sessions.lookup path = some session then
    unexported.removeSession path
  else
    unexported

/-- `handle_close` of a session after the authorization. -/
def handleCloseSession (world : World) (invocation session : Nat) : World :=
  (certificateImplSessionForget (certificateImplSessionClose world session)
    session).answer invocation .closed

/-- `certificate_impl_request_handle_close` after the authorization. -/
def handleCloseRequest (world : World) (invocation id : Nat) : World :=
  let cancelled :=
    { world with core := xccRequestCancel world.core id .user }
  (certificateImplRequestUnexport cancelled id).answer invocation .closed

/-! ## Dispatch -/

/-- The arguments of a call that has been authorized. -/
def World.arguments (world : World) (handle appId parentWindow : String) :
    Arguments :=
  ⟨world.ownerGeneration, handle, appId, parentWindow⟩

/-- The handler of a call that has been authorized. -/
def handle
    (world : World) (invocation : Nat) (sender : String) (bus : Bus) :
    Method → World
  | .createSession _ path appId =>
      handleCreateSession world invocation sender path appId bus
  | .acquireCredential handle path appId parentWindow options =>
      handleAcquireCredential world invocation sender path
        (world.arguments handle appId parentWindow) options bus
  | .sign handle path appId parentWindow options =>
      handleKeyOperation world invocation sender path
        (world.arguments handle appId parentWindow) options bus
  | .getCapabilities => handleGetCapabilities world invocation
  | .closeRequest id => handleCloseRequest world invocation id
  | .closeSession session => handleCloseSession world invocation session

/-- `on_request_close`, which runs before the class closure. -/
def beforeClosure (world : World) (sender : String) (bus : Bus) :
    Method → World
  | .closeRequest _ =>
      (certificateImplSenderIsFrontend world sender bus.lookups).2
  | _ => world

/-- The lookups of the authorization that decides. -/
def decidingLookups (bus : Bus) : Method → Lookups
  | .closeRequest _ => bus.closing
  | _ => bus.lookups

/-- A call that the bus has dispatched. -/
def receive (world : World) (call : Call) (bus : Bus) : World :=
  let invocation := world.nextInvocation
  let received :=
    { world with nextInvocation := invocation + 1 }.emit
      (.received invocation call)
  match rejectStranger
      (beforeClosure received call.sender bus call.method) invocation
      call.sender (decidingLookups bus call.method) with
  | .inl rejected => rejected
  | .inr accepted => handle accepted invocation call.sender bus call.method

/-- Whether the object of a call is on the bus. -/
def dispatchable (world : World) : Method → Bool
  | .closeRequest id =>
      world.transactions.contains id && (world.ledger id).request.exported
  | .closeSession session => (world.objects session).exported
  | _ => true

/-! ## The core -/

/-- The post that a handler waits for. -/
def Waiting.post : Waiting → Option Post
  | .creating _ _ _ _ spec _ none => some (.sessionNewRegister spec)
  | .checking _ _ session _ _ principal _ none =>
      some (.principalCheck session principal)
  | _ => none

/-- The coordinator has run the post, which has found the context
`before`. -/
def Waiting.told (before : Context.Requests.World) : Waiting → Waiting
  | .creating invocation sender path appId spec sessionExports _ =>
      .creating invocation sender path appId spec sessionExports
        (some (registers before spec))
  | .checking invocation sender session arguments options principal
      requestExports _ =>
      .checking invocation sender session arguments options principal
        requestExports (some (checkPrincipal before session principal).1)

/-- The handler that has its result goes on. -/
def resume (world : World) : Waiting → Option World
  | .creating invocation sender path appId _ sessionExports (some made) =>
      some (finishSession world made invocation sender path appId
        sessionExports)
  | .checking invocation sender session arguments options _ requestExports
      (some verdict) =>
      some (finishAcquire world verdict invocation sender session arguments
        options requestExports)
  | _ => none

/-- What only the adapter asks of the context. -/
def clientCall : Context.Machine.Action → Bool
  | .acquire .. | .sign .. | .capabilities | .cancel .. | .sessionNew _
  | .checkPrincipal .. | .sessionClose _ | .sessionInvalidate ..
  | .setOwnerGeneration _ | .shutdown => true
  | _ => false

/-- What the desktop does. -/
def onDesktop : Context.Machine.Action → Bool
  | .deliver | .proceed | .ui .deliver => true
  | _ => false

/-- The handler that waits may go on. -/
def proceeds : Context.Machine.Action → Bool
  | .proceed => true
  | _ => false

/-- The desktop is about to call the client of a request back. -/
def calling (core : Context.Requests.World) : Option Nat :=
  match core.desktop with
  | .calling id => some id
  | _ => none

/-- An action of the core may be taken while the adapter waits, or by the
desktop; callbacks of requests are actions of their own. -/
def mayTake (world : World) (action : Context.Machine.Action) : Bool :=
  !clientCall action &&
    !(onDesktop action && (world.waiting.isSome || world.drained)) &&
    !(proceeds action && (calling world.core).isSome)

/-- The adapter after an action of the core. -/
def afterCore (world : World) (core : Context.Requests.World) :
    Context.Machine.Action → World
  | .deliver =>
      match world.core.queue with
      | .invalidated session reason :: _ =>
          onCoreInvalidated { world with core } session reason
      | .shutdownDelivered :: _ =>
          { world with core, shutdownComplete := true }
      | _ => { world with core }
  | .post =>
      { world with
        core
        waiting := world.waiting.map fun waiting =>
          if waiting.post.isSome && world.core.posts.head? = waiting.post then
            waiting.told world.core
          else
            waiting }
  | _ => { world with core }

/-- `core_done` and `on_capabilities`, with what the context reports of its
tokens. -/
def calledBack
    (world : World) (id : Nat) (mechanisms : List String)
    (protectedPath : Bool) : World :=
  let request := world.core.requests id
  let next :=
    { world with
      core := Context.Completion.completionCalls world.core id }
  if request.kind = .capabilities then
    { next.answer (world.asked id)
        (.capabilities
          (capabilitiesResults mechanisms protectedPath world.hasDisplay)) with
      asking := world.asking.erase id }
  else
    transactionRespond next id
      (coreAnswer request.kind (world.ledger id).cancelledCode
        request.result)

/-! ## Actions -/

/-- What can happen next: a call or a change of owner, a step of the context,
or the handler that waits. -/
inductive Action where
  /-- The bus. -/
  | call (call : Call) (bus : Bus)
  | appeared (owner : String)
  | vanished
  /-- The context. -/
  | core (action : Context.Machine.Action)
  /-- The handler that waits. -/
  | resumed
  | called (mechanisms : List String) (protectedPath : Bool)
  /-- What `certificate_impl_shutdown` does before and after its loop. -/
  | shutdown
  | closeAll

/-- The desktop takes something up. -/
def ready (world : World) : Bool :=
  world.waiting.isNone && world.core.desktop = .idle && !world.drained

/-- One action, where the adapter is ready for it. -/
def step (world : World) : Action → Option World
  | .call call bus =>
      if ready world && dispatchable world call.method then
        some (receive world call bus)
      else none
  | .appeared owner =>
      if ready world then some (onFrontendAppeared world owner) else none
  | .vanished =>
      if ready world then some (onFrontendVanished world) else none
  | .core action =>
      if mayTake world action then
        (Context.Machine.step world.core action).map fun core =>
          afterCore world core action
      else none
  | .resumed => world.waiting.bind (resume { world with waiting := none })
  | .called mechanisms protectedPath =>
      if world.waiting.isNone && !world.drained then
        (calling world.core).map fun id =>
          calledBack world id mechanisms protectedPath
      else none
  | .shutdown =>
      if ready world then
        some { world with core := xccContextShutdownAsync world.core }
      else none
  | .closeAll =>
      if ready world && world.shutdownComplete then
        some { closeAndForgetAll world with drained := true }
      else none

/-- The adapter, with the context that it drives. -/
def machine : System World Action where
  initial world := ∃ core hasDisplay,
    Context.Machine.machine.initial core ∧ core.generation = 0 ∧
      world = .start core hasDisplay
  step := step

end PortalCertificate.Adapter.Machine
