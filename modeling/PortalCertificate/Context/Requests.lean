import PortalCertificate.Broker.Operations
import PortalCertificate.Core.Ui
import PortalCertificate.Tokens.Watcher

/-!
# Requests of a context

What `context.c`, `session.c` and `acquire.c` share.  A context has a
coordinator, which owns the requests and the sessions.  Clients, workers and
the UI reach it by posts, which it takes in their order, and what a client is
told is handed to the thread of the desktop, which takes it in its order.

Requests and sessions are numbered.  The cancellable of a request has twice
its number; the odd numbers are left to the cancellables of logins.
-/

namespace PortalCertificate.Context.Requests

open PortalCertificate.Broker.Operations (Grant)
open PortalCertificate.Core.Coordinator (XccErrorCode XccChooserView Reply)
open PortalCertificate.Core.Principals
open PortalCertificate.Glib
open PortalCertificate.Library.Der (Octets)
open PortalCertificate.Tokens.Discovery
open PortalCertificate.Tokens.Filter
open PortalCertificate.Tokens.Watcher

/-! ## Requests -/

/-- `XccResultKind`. -/
inductive XccResultKind where
  | acquire
  | sign
  | capabilities
  deriving DecidableEq, Repr

/-- `XccCancelReason`. -/
inductive XccCancelReason where
  | user
  | ownerGone
  | sessionClosed
  | backendGone
  | tokenRemoved
  | device
  deriving DecidableEq, Repr

/-- The table `codes`. -/
def XccCancelReason.code : XccCancelReason → XccErrorCode
  | .user => .cancelled
  | .ownerGone => .ownerGone
  | .sessionClosed => .noSuchSession
  | .backendGone => .backendGone
  | .tokenRemoved => .tokenRemoved
  | .device => .device

theorem XccCancelReason.code_ne_ok (reason : XccCancelReason) :
    reason.code ≠ .ok := by
  cases reason <;> exact XccErrorCode.noConfusion

/-- `XccResult`, with what it owns. -/
structure XccResult where
  error : XccErrorCode
  candidatePresent : Bool
  signaturePresent : Bool
  mechanismsPresent : Bool
  candidate : Option CertificateCandidate
  maySign : Bool
  signature : Option Octets
  deriving DecidableEq, Repr

/-- A result that has not been written. -/
def XccResult.zero : XccResult :=
  ⟨.ok, false, false, false, none, false, none⟩

/-- What a request asks for; it does not change. -/
structure Asked where
  kind : XccResultKind
  session : Option Nat
  validationError : XccErrorCode
  purpose : CertificatePurpose
  genericPurpose : Bool
  lifetime : UInt32
  maySign : Bool
  interactionForbidden : Bool
  filter : CertificateFilter
  operationId : Option String
  mechanism : Option String
  parameters : Option Vardict
  input : Octets

/-- `struct XccRequest`.  `working` stands for the operation or the worker
that a request has been handed to. -/
structure XccRequest extends Asked where
  principal : XccPrincipal
  answered : Bool
  detached : Bool
  cancelIntent : Option XccCancelReason
  cancelledCode : XccErrorCode
  result : XccResult
  candidate : Option CertificateCandidate
  signature : Option Octets
  chooser : Option Nat
  enumerating : Bool
  enumerateAgain : Bool
  chooserCompleted : Bool
  pendingChosen : Option CertificateCandidate
  pendingError : XccErrorCode
  working : Bool

/-- `xcc_request_new`. -/
def xccRequestNew (asked : Asked) (principal : XccPrincipal) : XccRequest where
  toAsked := asked
  principal := principal
  answered := false
  detached := false
  cancelIntent := none
  cancelledCode := .ok
  result := .zero
  candidate := none
  signature := none
  chooser := none
  enumerating := false
  enumerateAgain := false
  chooserCompleted := false
  pendingChosen := none
  pendingError := .ok
  working := false

/-! ## Sessions -/

/-- The fields of a session beside its principal. -/
structure SessionState extends Grant where
  purpose : CertificatePurpose
  genericPurpose : Bool
  lifetime : UInt32
  expirySource : Bool
  invalidating : Bool
  deriving DecidableEq, Repr

/-- A session without a grant. -/
def SessionState.zero : SessionState where
  toGrant := ⟨false, false, none, false, false, 0, 0⟩
  purpose := .clientAuth
  genericPurpose := false
  lifetime := 0
  expirySource := false
  invalidating := false

/-- A session of the context. -/
abbrev Session := XccSession SessionState

/-- No session, for the numbers that are not in use. -/
def sessionAbsent : Session := ⟨0, "", 0, false, true, .zero⟩

/-- `certificate_session_reasons`. -/
inductive InvalidationReason where
  | expired
  | tokenRemoved
  | policy
  | backendGone
  | error
  deriving DecidableEq, Repr

/-! ## Messages between the threads -/

/-- What a post of the context is to do. -/
inductive Post where
  /-- A request is started. -/
  | start (request : Nat)
  | cancel (request : Nat) (reason : XccCancelReason)
  | rollbackAcquisition (request : Nat)
  | completionAck (request : Nat)
  | generation (value : Nat)
  | shutdownStart
  | sessionNewRegister (spec : XccSessionSpec)
  | principalCheck (session : Nat) (principal : XccPrincipal)
  /-- `session_call`. -/
  | sessionCall (session : Nat) (reason : Option InvalidationReason)
  deriving DecidableEq

/-- What the coordinator hands to the desktop; messages of the UI are
counted, and have a queue of their own. -/
inductive Delivery where
  | completion (request : Nat)
  | invalidated (session : Nat) (reason : InvalidationReason)
  | shutdownDelivered
  deriving DecidableEq, Repr

/-- What the desktop is in the middle of: a `completion` has read the cancel
intent, or it is about to call back. -/
inductive Desktop where
  | idle
  | delivering (request : Nat)
  | calling (request : Nat)
  deriving DecidableEq, Repr

/-- How an enumeration fails, as far as the context tells. -/
inductive EnumerateError where
  | cancelled
  | failed
  deriving DecidableEq, Repr

/-- What a worker that enumerates returns. -/
abbrev Enumerated := Except EnumerateError (List CertificateCandidate)

/-! ## The context -/

/-- What happens to the requests and the sessions of a context. -/
inductive Event where
  /-- A request is taken up under the generation of that moment. -/
  | validated (request generation : Nat)
  | enumerationStarted (request enumeration : Nat)
  | enumerated (request enumeration : Nat) (outcome : Enumerated)
  | dispatched (event : WatchEvent)
  /-- A list goes to the chooser of a request. -/
  | published
      (request enumeration : Nat) (candidates : List CertificateCandidate)
  | emptied (request : Nat)
  /-- A chooser ends; with the reply that ended it, its view, whether an
  enumeration was running and which events had not been dispatched. -/
  | concluded
      (request : Nat) (reply : Option Reply) (view : XccChooserView)
      (chosen : Option CertificateCandidate) (refreshing : Bool)
      (queued : List WatchEvent)
  | granted (request session : Nat) (candidate : CertificateCandidate)
  | rolledBack (request : Nat)
  /-- A signature passes the checks of `certificate_broker_perform`. -/
  | signing (request session : Nat)
  | ownerGeneration (value : Nat)
  /-- A delivery reads the cancel intent, and fixes the error. -/
  | delivering
      (request : Nat) (intent : Option XccCancelReason) (error : XccErrorCode)
  | done (request : Nat) (result : XccResult)
  | sessionInvalidated (session : Nat) (reason : InvalidationReason)
  | uiDelivered
  | shutdownDone

/-- The context, its coordinator, and what is on its way between them. -/
structure World where
  ui : Core.Coordinator.World
  requests : Nat → XccRequest
  nextRequest : Nat
  /-- `requests` of the context. -/
  active : List Nat
  sessions : Nat → Session
  nextSession : Nat
  /-- `sessions` of the context. -/
  live : List Nat
  generation : Nat
  watchStopped : Bool
  shutdownStarted : Bool
  /-- Device releases and handles of the UI, which are made elsewhere. -/
  held : Nat
  /-- The queue of presence events. -/
  events : List WatchEvent
  /-- Enumerations whose callback has not been processed. -/
  enumerations : List (Nat × Nat)
  nextEnumeration : Nat
  posts : List Post
  queue : List Delivery
  desktop : Desktop
  /-- Monotonic seconds. -/
  now : Int
  trace : List Event

/-- No request, for the numbers that are not in use. -/
def requestAbsent : XccRequest :=
  xccRequestNew
    { kind := .capabilities, session := none, validationError := .ok
      purpose := .clientAuth, genericPurpose := false, lifetime := 0
      maySign := false, interactionForbidden := false
      filter := Core.Specs.filterZero
      operationId := none, mechanism := none, parameters := none
      input := [] }
    .zero

/-- A context that has just been made. -/
def World.start (ui : Core.Coordinator.World) (generation : Nat) (now : Int) :
    World where
  ui := ui
  requests := fun _ => requestAbsent
  nextRequest := 0
  active := []
  sessions := fun _ => sessionAbsent
  nextSession := 0
  live := []
  generation := generation
  watchStopped := false
  shutdownStarted := false
  held := 0
  events := []
  enumerations := []
  nextEnumeration := 0
  posts := []
  queue := []
  desktop := .idle
  now := now
  trace := []

/-- The number of the cancellable of a request. -/
def cancellable (request : Nat) : Nat := 2 * request

namespace World

variable (world : World)

/-- The event is added to the trace. -/
def emit (event : Event) : World :=
  { world with trace := event :: world.trace }

/-- The record of a request is replaced. -/
def setRequest (id : Nat) (request : XccRequest) : World :=
  { world with requests := Function.update world.requests id request }

@[simp]
theorem setRequest_self (id : Nat) (request : XccRequest) :
    (world.setRequest id request).requests id = request :=
  Function.update_self ..

/-- A field of the requests that is not written. -/
theorem setRequest_field {Value : Type} (field : XccRequest → Value)
    {id : Nat} {request : XccRequest}
    (same : field request = field (world.requests id)) (other : Nat) :
    field ((world.setRequest id request).requests other) =
      field (world.requests other) := by
  show field (Function.update world.requests id request other) = _
  by_cases here : other = id
  · rw [here, Function.update_self, same]
  · rw [Function.update_of_ne here]

/-- The record of a session is replaced. -/
def setSession (id : Nat) (session : Session) : World :=
  { world with sessions := Function.update world.sessions id session }

@[simp]
theorem setSession_self (id : Nat) (session : Session) :
    (world.setSession id session).sessions id = session :=
  Function.update_self ..

/-- `dispatch.post`, to the desktop. -/
def dispatch (delivery : Delivery) : World :=
  { world with queue := world.queue ++ [delivery] }

/-- `xcc_context_post`; nothing is posted after the shutdown. -/
def post (post : Post) : World :=
  if world.ui.shutdownPosted then world
  else { world with posts := world.posts ++ [post] }

@[simp]
theorem ui_post (post : Post) : (world.post post).ui = world.ui := by
  rw [World.post]
  split_ifs <;> rfl

/-- `g_cancellable_is_cancelled` of a request. -/
def isCancelled (request : Nat) : Bool :=
  world.ui.cancelled (cancellable request)

/-- `g_cancellable_cancel` of a request. -/
def cancelRequest (request : Nat) : World :=
  { world with ui := Core.Ui.cancel world.ui (cancellable request) }

end World

end PortalCertificate.Context.Requests
