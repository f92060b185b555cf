import PortalCertificate.Library.Trace
import PortalCertificate.Library.Transition
import PortalCertificate.Module.Requests
import PortalCertificate.Module.Statics

/-!
# The portal client as a transition system

`portal.c` runs on two kinds of threads.  The client's own thread dispatches
the owner of the bus name, the signals of the portal and the callbacks of
requests.  The callers probe the capabilities, acquire grants and ask for
operations; each of their steps is what happens in one hold of a lock, or
between two of them.

`owner_changed` is two steps, because the callers may look at the owner
before the requests of the owner before are completed.  The owner's
generation is a number without a bound; the code counts it in 64 bits.

The trace lists, newest first, what reached each request, what was sent, and
what the callers were told.
-/

namespace PortalCertificate.Module.PortalClient

open PortalCertificate.Library.Der (Octets)
open PortalCertificate.Library.Transition
open PortalCertificate.Module.Calls
open PortalCertificate.Module.Requests
open PortalCertificate.Module.Statics (OperationKind)

/-! ## Data -/

/-- The connection to the session bus, and the process. -/
structure Bus where
  uniqueName : Option BusName
  pid : Nat

/-- `PortalGrant` as `portal_client_acquire` fills it. -/
structure Grant where
  sessionHandle : ObjectPath
  owner : Option BusName
  /-- A `guint64` in the code, and without a bound here. -/
  ownerGeneration : Nat
  certificateDer : Octets
  keyType : String
  keySize : UInt32
  keyCurve : Option String
  supportedMechanisms : List String
  maySign : Bool
  mayDecrypt : Bool
  expiresAt : Int
  deriving DecidableEq, Repr

/-- The arguments of `operation`. -/
structure Operation where
  kind : OperationKind
  grant : Grant
  mechanism : String
  data : Octets
  deriving DecidableEq, Repr

/-- The method that an operation calls. -/
def operationMethod : OperationKind → PortalMethod
  | .sign => .sign
  | .decrypt => .decrypt

/-- `result_key`. -/
def resultKey : OperationKind → String
  | .sign => "signature"
  | .decrypt => "plaintext"

/-- The entry that `result_key` names. -/
def operationResult (kind : OperationKind) (results : Results) :
    Option Octets :=
  match kind with
  | .sign => results.signature
  | .decrypt => results.plaintext

/-- Why a caller runs `portal_client_available`. -/
inductive Purpose where
  | available
  | mechanisms
  | acquire
  deriving DecidableEq, Repr

/-- Where a caller is, with the local variables it still needs. -/
inductive Pc where
  | idle
  /-- At the probe lock. -/
  | entering (purpose : Purpose)
  /-- In `GetCapabilities`, with the probe lock. -/
  | probing (purpose : Purpose) (owner : BusName) (generation : Nat)
  /-- About to read `available`. -/
  | reading (purpose : Purpose)
  /-- About to copy the mechanisms. -/
  | copying
  /-- About to take the owner and its generation. -/
  | snapshotting
  | creatingSession (owner : Option BusName) (generation : Nat)
  /-- About to take the token of the session. -/
  | namingSession
      (owner : Option BusName) (generation : Nat) (token : String)
  | awaitingSession (owner : Option BusName) (generation request : Nat)
  | acquiring
      (owner : Option BusName) (generation : Nat) (session : ObjectPath)
  | awaitingGrant
      (owner : Option BusName) (generation : Nat) (session : ObjectPath)
      (request : Nat)
  /-- About to look whether the new grant is gone. -/
  | granting
      (owner : Option BusName) (generation : Nat) (session : ObjectPath)
      (request : Nat) (results : Results)
  /-- About to look whether the grant is gone. -/
  | operating (operation : Operation)
  | requesting
      (operation : Operation) (token : String) (path : Option ObjectPath)
  | awaitingResult (operation : Operation) (request : Nat)
  /-- About to look once more whether the grant is gone. -/
  | confirming (operation : Operation) (request : Nat) (results : Results)
  deriving DecidableEq, Repr

/-! ## Events -/

/-- What reaches a request on the client's thread. -/
inductive RequestEvent where
  | sent (owner : BusName)
  /-- The client is cancelled, or the owner has changed before the start. -/
  | abandoned (code : PortalErrorCode)
  | methodReturned (reply : Except CallError ObjectPath)
  | response (response : UInt32) (results : Results)
  | timedOut
  | cancelled
  | ownerChanged

/-- What happens to the requests of a client, and what its callers get. -/
inductive Event where
  | ownerChanged (owner : Option BusName) (generation : Nat)
  /-- A caller queues a request, for an operation with its grant. -/
  | queued
      (request : Nat) (method : PortalMethod) (generation : Nat)
      (grant : Option Grant)
  | arrived (request : Nat) (event : RequestEvent)
  | closed (request : Nat) (owner : Option BusName) (path : ObjectPath)
  | completed (request : Nat)
  | sessionClosed (owner : Option BusName) (session : ObjectPath)
  /-- A probe takes the owner whose capabilities it asks for. -/
  | probeStarted (owner : BusName) (generation : Nat)
  | probeReturned
      (owner : BusName) (generation : Nat)
      (capabilities : Option (Option (List String)))
  /-- A caller learns whether the portal is available. -/
  | available (answer : Bool)
  | mechanismsCopied (mechanisms : Option (List String))
  | snapshotTaken
      (thread : Nat) (owner : Option BusName) (generation : Nat)
  | granted (thread request : Nat) (grant : Grant)
  | returned (request : Nat) (operation : Operation) (result : Octets)
  /-- A caller is given an error instead of a grant or a result. -/
  | refused (error : Option RequestError)

/-! ## The client -/

/--
`_PortalClient`, its requests and its callers.  `ownerSweep` says that
`owner_changed` has yet to complete the requests of the owner before.
-/
structure World where
  owner : Option BusName
  /-- A `guint64` in the code, and without a bound here. -/
  ownerGeneration : Nat
  ownerKnown : Bool
  ownerSweep : Bool
  available : Bool
  mechanisms : Option (List String)
  capabilitiesDirty : Bool
  capabilitiesRetryAt : Nat
  probeLocked : Bool
  counter : Int32
  invalidated : List ObjectPath
  live : List Nat
  cancelled : Bool
  draining : Bool
  requests : Nat → Option PortalRequest
  nextRequest : Nat
  threads : Nat → Pc
  trace : List Event

/-- `portal_client_new` before the owner is known. -/
def World.start : World where
  owner := none
  ownerGeneration := 0
  ownerKnown := false
  ownerSweep := false
  available := false
  mechanisms := none
  capabilitiesDirty := false
  capabilitiesRetryAt := 0
  probeLocked := false
  counter := 0
  invalidated := []
  live := []
  cancelled := false
  draining := false
  requests := fun _ => none
  nextRequest := 0
  threads := fun _ => .idle
  trace := []

/-- The event is added to the trace. -/
def World.emit (world : World) (event : Event) : World :=
  { world with trace := event :: world.trace }

/-- A thread gets on. -/
def World.goes (world : World) (thread : Nat) (pc : Pc) : World :=
  { world with threads := Function.update world.threads thread pc }

theorem World.goes_threads
    (world : World) (thread : Nat) (pc : Pc) (other : Nat) :
    (world.goes thread pc).threads other =
      if other = thread then pc else world.threads other :=
  Function.update_apply ..

/-! ## Requests on the client's thread -/

/-- The events that a callback adds, newest first. -/
def callbackEvents
    (id : Nat) (event : RequestEvent) (before after : PortalRequest)
    (closes : List ObjectPath) : List Event :=
  (if after.completed && !before.completed then [.completed id] else []) ++
    closes.reverse.map (.closed id after.owner) ++ [.arrived id event]

/-- A callback runs; a request that it completes is live no longer. -/
def World.callback
    (world : World) (id : Nat) (request : PortalRequest)
    (event : RequestEvent)
    (handler : PortalRequest → PortalRequest × List ObjectPath) : World :=
  let (next, closes) := handler request
  { world with
    requests := Function.update world.requests id (some next)
    live :=
      if next.completed && !request.completed then
        world.live.erase id
      else
        world.live
    trace := callbackEvents id event request next closes ++ world.trace }

/-- A callback of a request that the main loop holds for it. -/
def World.dispatch
    (world : World) (id : Nat) (held : PortalRequest → Bool)
    (event : RequestEvent)
    (handler : PortalRequest → PortalRequest × List ObjectPath) :
    Option World :=
  match world.requests id with
  | none => none
  | some request =>
      if held request then
        some (world.callback id request event handler)
      else
        none

/-- The loop over `live` that completes every request in it. -/
def World.sweep
    (world : World) (event : RequestEvent)
    (handler : PortalRequest → PortalRequest × List ObjectPath) : World :=
  world.live.foldl
    (fun world id =>
      match world.requests id with
      | none => world
      | some request => world.callback id request event handler)
    world

/-- `request_start`. -/
def requestStart
    (world : World) (id : Nat) (request : PortalRequest) : World :=
  match world.owner with
  | some owner =>
      if world.ownerGeneration = request.ownerGeneration then
        if world.cancelled then
          world.callback id request (.abandoned .cancelled)
            (abandon .cancelled)
        else
          let sent := world.callback id request (.sent owner) (send owner)
          { sent with live := id :: sent.live }
      else
        let code := if world.cancelled then .cancelled else .invalidated
        world.callback id request (.abandoned code) (abandon code)
  | none =>
      let code := if world.cancelled then .cancelled else .invalidated
      world.callback id request (.abandoned code) (abandon code)

/-- `owner_changed` up to where it releases the lock. -/
def ownerChanged (world : World) (owner : Option BusName) : World :=
  if world.owner = owner then
    { world with ownerKnown := true }
  else
    { world with
      owner
      ownerGeneration := world.ownerGeneration + 1
      ownerKnown := true
      ownerSweep := true
      available := false
      mechanisms := none
      capabilitiesDirty := true
      capabilitiesRetryAt := 0
      trace :=
        .ownerChanged owner (world.ownerGeneration + 1) :: world.trace }

/-! ## Callers -/

/-- `request_token`. -/
def requestToken (bus : Bus) (label : String) (counter : Int32) : String :=
  label ++ toString bus.pid ++ "_" ++ toString counter

/-- The unique name, as it stands in the path of a request. -/
def senderOf (uniqueName : BusName) : String :=
  let letters :=
    match uniqueName.toList with
    | ':' :: rest => rest
    | letters => letters
  String.ofList (letters.map fun letter => if letter = '.' then '_' else letter)

/-- `request_path_for`. -/
def requestPathFor (bus : Bus) (token : String) : Option ObjectPath :=
  bus.uniqueName.map fun unique =>
    "/org/freedesktop/portal/desktop/request/" ++ senderOf unique ++ "/" ++
      token

/-- `portal_request` up to where it waits. -/
def World.queue
    (world : World) (method : PortalMethod) (parameters : Parameters)
    (path : Option ObjectPath) (generation : Nat) (grant : Option Grant) :
    World :=
  let request := PortalRequest.new method parameters path generation
  { world with
    requests :=
      Function.update world.requests world.nextRequest (some request)
    nextRequest := world.nextRequest + 1
    trace :=
      .queued world.nextRequest method generation grant :: world.trace }

/-- `portal_client_grant_gone`. -/
def World.grantGone
    (world : World) (generation : Nat) (session : ObjectPath) : Bool :=
  world.owner.isNone ||
    world.ownerGeneration != generation ||
    world.invalidated.contains session

/-- The retry delay of a failed probe, in microseconds. -/
def capabilitiesRetry : Nat := 1000 * 1000

/-- It is time to ask for the capabilities again. -/
def capabilitiesTimeNeeded (world : World) (now : Nat) : Bool :=
  world.capabilitiesDirty && !(now < world.capabilitiesRetryAt)

/-- `probe_capabilities` after `GetCapabilities` has returned. -/
def finishProbe
    (world : World) (generation : Nat) (now : Nat)
    (reply : Option (Option (List String))) : World :=
  if world.ownerGeneration = generation then
    { world with
      mechanisms := reply.join
      available := reply.join.any fun mechanisms => !mechanisms.isEmpty
      capabilitiesDirty := reply.isNone
      capabilitiesRetryAt :=
        if reply.isNone then now + capabilitiesRetry else 0
      probeLocked := false }
  else
    { world with probeLocked := false }

/-- The grant of a successful `AcquireCredential`. -/
def grantOf
    (owner : Option BusName) (generation : Nat) (session : ObjectPath)
    (results : Results) (certificate : Octets) : Grant where
  sessionHandle := session
  owner := owner
  ownerGeneration := generation
  certificateDer := certificate
  keyType := results.keyType.getD "RSA"
  keySize := results.keySize.getD 0
  keyCurve := results.keyCurve
  supportedMechanisms := results.supportedMechanisms.getD []
  maySign := (results.permittedOperations.getD []).contains "sign"
  mayDecrypt := (results.permittedOperations.getD []).contains "decrypt"
  expiresAt := results.expiresAt.getD 0

/-- What a finished request hands to its caller. -/
def World.answer (world : World) (id : Nat) :
    Option (Option Results × Option RequestError) :=
  (world.requests id).bind fun request =>
    if request.done then some request.outcome else none

/-- The call of the thread ends with an error. -/
def World.refuse
    (world : World) (thread : Nat) (error : Option RequestError) : World :=
  (world.emit (.refused error)).goes thread .idle

/-- The error of a connection without a name. -/
def noNameError : RequestError :=
  .portal .unavailable "Bus connection has no name"

/-- The error of a portal without an owner. -/
def unavailableError : RequestError :=
  .portal .unavailable "Certificate portal is unavailable"

/-- The error of an answer without a session. -/
def noSessionError : RequestError :=
  .portal .failed "CreateSession returned no session handle"

/-- The error of an owner that has changed in between. -/
def ownerChangedError : RequestError :=
  .portal .invalidated "Frontend owner changed"

/-- The error of an answer without a certificate. -/
def noCertificateError : RequestError :=
  .portal .failed "AcquireCredential returned no certificate"

/-- The error of a grant that has gone. -/
def grantUnavailableError : RequestError :=
  .portal .invalidated "Grant is unavailable"

/-- The error of an answer without a result. -/
def noResultError (kind : OperationKind) : RequestError :=
  .portal .failed
    ((operationMethod kind).name ++ " returned no " ++ resultKey kind)

/-- `probe_capabilities` with the probe lock, up to where it calls. -/
def World.beginProbe
    (world : World) (thread : Nat) (purpose : Purpose) (now : Nat) : World :=
  match world.owner with
  | none => world.goes thread (.reading purpose)
  | some owner =>
      if capabilitiesTimeNeeded world now then
        ({ world with probeLocked := true }.emit
          (.probeStarted owner world.ownerGeneration)).goes thread
          (.probing purpose owner world.ownerGeneration)
      else
        world.goes thread (.reading purpose)

/-- `portal_client_available` has the answer. -/
def World.told
    (world : World) (thread : Nat) (purpose : Purpose) : World :=
  let told := world.emit (.available world.available)
  match purpose, world.available with
  | .available, _ => told.goes thread .idle
  | .mechanisms, true => told.goes thread .copying
  | .mechanisms, false =>
      (told.emit (.mechanismsCopied none)).goes thread .idle
  | .acquire, true => told.goes thread .snapshotting
  | .acquire, false => told.refuse thread (some unavailableError)

/-- `create_session` up to its second token, which names the session. -/
def World.beginSession
    (world : World) (bus : Bus) (thread : Nat) (owner : Option BusName)
    (generation : Nat) : World :=
  let token := requestToken bus "pkcs11c" world.counter
  { world with counter := world.counter + 1 }.goes thread
    (.namingSession owner generation token)

/-- `create_session` from there up to where it waits. -/
def World.createSession
    (world : World) (bus : Bus) (thread : Nat) (owner : Option BusName)
    (generation : Nat) (token : String) : World :=
  let sessionToken := requestToken bus "pkcs11s" world.counter
  let numbered := { world with counter := world.counter + 1 }
  match requestPathFor bus token with
  | none => numbered.refuse thread (some noNameError)
  | some path =>
      (numbered.queue .createSession ⟨none, token, some sessionToken⟩
        (some path) generation none).goes thread
        (.awaitingSession owner generation world.nextRequest)

/-- `create_session` once its request is done. -/
def World.takeSession
    (world : World) (thread : Nat) (owner : Option BusName)
    (generation : Nat) (answer : Option Results × Option RequestError) :
    World :=
  match answer with
  | (none, error) => world.refuse thread error
  | (some results, _) =>
      match results.sessionHandle with
      | none => world.refuse thread (some noSessionError)
      | some session =>
          world.goes thread (.acquiring owner generation session)

/-- `portal_client_acquire` from there up to where it waits. -/
def World.acquire
    (world : World) (bus : Bus) (thread : Nat) (owner : Option BusName)
    (generation : Nat) (session : ObjectPath) : World :=
  let token := requestToken bus "pkcs11a" world.counter
  let numbered := { world with counter := world.counter + 1 }
  (numbered.queue .acquireCredential ⟨some session, token, none⟩
    (requestPathFor bus token) generation none).goes thread
    (.awaitingGrant owner generation session world.nextRequest)

/-- `portal_client_acquire` once `AcquireCredential` is done. -/
def World.takeGrant
    (world : World) (thread : Nat) (owner : Option BusName)
    (generation : Nat) (session : ObjectPath) (request : Nat)
    (answer : Option Results × Option RequestError) : World :=
  match answer with
  | (none, error) =>
      (world.emit (.sessionClosed owner session)).refuse thread error
  | (some results, _) =>
      world.goes thread (.granting owner generation session request results)

/-- `portal_client_acquire` once `AcquireCredential` has succeeded. -/
def World.finishGrant
    (world : World) (thread : Nat) (owner : Option BusName)
    (generation : Nat) (session : ObjectPath) (request : Nat)
    (results : Results) : World :=
  if world.grantGone generation session then
    (world.emit (.sessionClosed owner session)).refuse thread
      (some ownerChangedError)
  else
    match results.certificateDer with
    | none =>
        (world.emit (.sessionClosed owner session)).refuse thread
          (some noCertificateError)
    | some certificate =>
        (world.emit (.granted thread request
          (grantOf owner generation session results certificate))).goes
          thread .idle

/-- `operation` up to where it has looked for the grant. -/
def World.beginOperation
    (world : World) (bus : Bus) (thread : Nat) (operation : Operation) :
    World :=
  let token := requestToken bus "pkcs11o" world.counter
  let numbered := { world with counter := world.counter + 1 }
  if world.grantGone operation.grant.ownerGeneration
      operation.grant.sessionHandle then
    numbered.refuse thread (some grantUnavailableError)
  else
    numbered.goes thread
      (.requesting operation token (requestPathFor bus token))

/-- `operation` from there up to where it waits. -/
def World.requestOperation
    (world : World) (thread : Nat) (operation : Operation)
    (token : String) (path : Option ObjectPath) : World :=
  (world.queue (operationMethod operation.kind)
    ⟨some operation.grant.sessionHandle, token, none⟩ path
    operation.grant.ownerGeneration (some operation.grant)).goes thread
    (.awaitingResult operation world.nextRequest)

/-- `operation` once its request is done. -/
def World.takeResult
    (world : World) (thread : Nat) (operation : Operation) (request : Nat)
    (answer : Option Results × Option RequestError) : World :=
  match answer with
  | (none, error) => world.refuse thread error
  | (some results, _) =>
      world.goes thread (.confirming operation request results)

/-- `operation` once its request has succeeded. -/
def World.finishOperation
    (world : World) (thread : Nat) (operation : Operation) (request : Nat)
    (results : Results) : World :=
  if world.grantGone operation.grant.ownerGeneration
      operation.grant.sessionHandle then
    world.refuse thread (some ownerChangedError)
  else
    match operationResult operation.kind results with
    | none => world.refuse thread (some (noResultError operation.kind))
    | some result =>
        (world.emit (.returned request operation result)).goes thread .idle

/-- One step of a caller; `now` and `reply` are the clock and the bus. -/
def advance
    (bus : Bus) (world : World) (thread : Nat) (now : Nat)
    (reply : Option (Option (List String))) : Option World :=
  match world.threads thread with
  | .idle => none
  | .entering purpose =>
      if world.probeLocked then
        none
      else
        some (world.beginProbe thread purpose now)
  | .probing purpose owner generation =>
      some (((finishProbe world generation now reply).emit
        (.probeReturned owner generation reply)).goes thread
        (.reading purpose))
  | .reading purpose => some (world.told thread purpose)
  | .copying =>
      some ((world.emit (.mechanismsCopied world.mechanisms)).goes
        thread .idle)
  | .snapshotting =>
      some ((world.emit
        (.snapshotTaken thread world.owner world.ownerGeneration)).goes thread
        (.creatingSession world.owner world.ownerGeneration))
  | .creatingSession owner generation =>
      some (world.beginSession bus thread owner generation)
  | .namingSession owner generation token =>
      some (world.createSession bus thread owner generation token)
  | .awaitingSession owner generation request =>
      (world.answer request).map (world.takeSession thread owner generation)
  | .acquiring owner generation session =>
      some (world.acquire bus thread owner generation session)
  | .awaitingGrant owner generation session request =>
      (world.answer request).map
        (world.takeGrant thread owner generation session request)
  | .granting owner generation session request results =>
      some (world.finishGrant thread owner generation session request
        results)
  | .operating operation => some (world.beginOperation bus thread operation)
  | .requesting operation token path =>
      some (world.requestOperation thread operation token path)
  | .awaitingResult operation request =>
      (world.answer request).map (world.takeResult thread operation request)
  | .confirming operation request results =>
      some (world.finishOperation thread operation request results)

/-! ## The system -/

/-- What a caller asks for. -/
inductive Entry where
  | available
  | dupMechanisms
  | acquire
  | operation (operation : Operation)

/-- Where a thread begins. -/
def Entry.pc : Entry → Pc
  | .available => .entering .available
  | .dupMechanisms => .entering .mechanisms
  | .acquire => .entering .acquire
  | .operation asked => .operating asked

/-- Operations are asked for with grants that the client has returned. -/
def World.admits (world : World) (entry : Entry) : Bool :=
  match entry with
  | .operation asked =>
      world.trace.any fun event =>
        match event with
        | .granted _ _ grant => grant = asked.grant
        | _ => false
  | _ => true

/-- A signal or a timer comes in, or a thread gets on. -/
inductive Action where
  | ownerChanged (owner : Option BusName)
  /-- The rest of `owner_changed`. -/
  | ownerSweep
  /-- `GrantInvalidated` or `Closed` for a session. -/
  | invalidated (session : ObjectPath)
  | start (request : Nat)
  | methodReturned (request : Nat) (reply : Except CallError ObjectPath)
  | response
      (request : Nat) (path : ObjectPath) (response : UInt32)
      (results : Results)
  | timedOut (request : Nat)
  | cancelRequests
  | beginDrain
  | enter (thread : Nat) (entry : Entry)
  | advance
      (thread : Nat) (now : Nat) (reply : Option (Option (List String)))

/-- The step of the client's thread, which is not in `owner_changed`. -/
def clientStep (world : World) : Action → Option World
  | .ownerChanged owner =>
      if world.draining then none else some (ownerChanged world owner)
  | .invalidated session =>
      if world.draining then
        none
      else
        some { world with invalidated := session :: world.invalidated }
  | .start id =>
      match world.requests id with
      | none => none
      | some request =>
          if request.queued then
            some (requestStart world id request)
          else
            none
  | .methodReturned id reply =>
      world.dispatch id PortalRequest.calling (.methodReturned reply)
        (onMethodReturned reply)
  | .response id path response results =>
      -- A signal may still be on its way when the request is completed.
      world.dispatch id
        (fun request =>
          request.listens path || (request.sent && request.completed))
        (.response response results) (onResponse response results)
  | .timedOut id =>
      world.dispatch id PortalRequest.timeoutArmed .timedOut
        onRequestTimeout
  | .cancelRequests =>
      some ({ world with cancelled := true }.sweep .cancelled
        onCancelRequests)
  | .beginDrain => some { world with cancelled := true, draining := true }
  | .ownerSweep | .enter _ _ | .advance _ _ _ => none

/-- One action, where it may come. -/
def step (bus : Bus) (world : World) : Action → Option World
  | .ownerSweep =>
      if world.ownerSweep then
        some { world.sweep .ownerChanged onOwnerChanged with
          ownerSweep := false }
      else
        none
  | .enter thread entry =>
      if world.threads thread = .idle ∧ world.ownerKnown ∧
          world.admits entry then
        some (world.goes thread entry.pc)
      else
        none
  | .advance thread now reply => advance bus world thread now reply
  | action =>
      if world.ownerSweep then none else clientStep world action

/-- A client, from its making on. -/
def machine (bus : Bus) : System World Action where
  initial world := world = .start
  step := step bus

end PortalCertificate.Module.PortalClient
