import PortalCertificate.Library.Der
import PortalCertificate.Module.Calls

/-!
# Requests of the portal client

The `PortalRequest` record of `portal.c` and the callbacks that work on it.
A callback returns the changed request together with the object paths for
which it sends `Close`, in order.

Only the client's thread runs these callbacks, one at a time.
-/

namespace PortalCertificate.Module.Requests

open PortalCertificate.Library.Der (Octets)
open PortalCertificate.Module.Calls

/-- A name on the bus. -/
abbrev BusName := String

/-- The path of an object on the bus. -/
abbrev ObjectPath := String

/-! ## Calls and their answers -/

/-- The methods that the module calls. -/
inductive PortalMethod where
  | createSession
  | acquireCredential
  | sign
  | decrypt
  deriving DecidableEq, Repr

/-- The name of a method. -/
def PortalMethod.name : PortalMethod → String
  | .createSession => "CreateSession"
  | .acquireCredential => "AcquireCredential"
  | .sign => "Sign"
  | .decrypt => "Decrypt"

/-- The codes of `G_DBUS_ERROR` that the client tells apart. -/
inductive DBusFault where
  | noReply
  | timeout
  | timedOut
  | disconnected
  | other
  deriving DecidableEq, Repr

/-- An error of `g_dbus_connection_call_finish`. -/
structure CallError where
  isRemoteError : Bool
  fault : DBusFault
  deriving DecidableEq, Repr

/-- The other side has refused the call; nothing is left at a path. -/
def CallError.refused (error : CallError) : Bool :=
  error.isRemoteError &&
    error.fault != .noReply &&
    error.fault != .timeout &&
    error.fault != .timedOut &&
    error.fault != .disconnected

/-- The error of a request: of the module's own domain, or of the call. -/
inductive RequestError where
  | portal (code : PortalErrorCode) (message : String)
  | call (error : CallError)
  deriving DecidableEq, Repr

/-- The entries that the client looks up in the results of a Response. -/
structure Results where
  reason : Option String
  sessionHandle : Option ObjectPath
  certificateDer : Option Octets
  keyType : Option String
  keyCurve : Option String
  keySize : Option UInt32
  expiresAt : Option Int
  supportedMechanisms : Option (List String)
  permittedOperations : Option (List String)
  signature : Option Octets
  plaintext : Option Octets
  deriving DecidableEq, Repr, Inhabited

/-! ## The record -/

/-- What a call says about paths: its session, and the tokens for new ones. -/
structure Parameters where
  session : Option ObjectPath
  handleToken : String
  sessionHandleToken : Option String
  deriving DecidableEq, Repr, Inhabited

/--
`PortalRequest`, without its lock and its reference count.  The last three
fields say what the main loop still holds for the request: the source of
`request_start`, the method callback and the timeout source.
-/
structure PortalRequest where
  method : PortalMethod
  parameters : Parameters
  requestPath : Option ObjectPath
  returnedPath : Option ObjectPath
  closedPath : Option ObjectPath
  owner : Option BusName
  ownerGeneration : Nat
  done : Bool
  completed : Bool
  responded : Bool
  sent : Bool
  methodFailed : Bool
  response : UInt32
  results : Option Results
  error : Option RequestError
  /-- The path of the `Response` subscription; a `NULL` path matches all. -/
  subscription : Option (Option ObjectPath)
  queued : Bool
  calling : Bool
  timeoutArmed : Bool
  deriving DecidableEq, Repr

/-- The request as `portal_request` creates and queues it. -/
def PortalRequest.new
    (method : PortalMethod) (parameters : Parameters)
    (requestPath : Option ObjectPath) (ownerGeneration : Nat) :
    PortalRequest where
  method := method
  parameters := parameters
  requestPath := requestPath
  returnedPath := none
  closedPath := none
  owner := none
  ownerGeneration := ownerGeneration
  done := false
  completed := false
  responded := false
  sent := false
  methodFailed := false
  response := 0
  results := none
  error := none
  subscription := none
  queued := true
  calling := false
  timeoutArmed := false

/-- A signal from this path is delivered to the request. -/
def PortalRequest.listens
    (request : PortalRequest) (path : ObjectPath) : Bool :=
  match request.subscription with
  | none => false
  | some none => true
  | some (some subscribed) => subscribed == path

/-! ## Callbacks -/

/-- `request_close_at_portal`, with the path that is closed. -/
def requestCloseAtPortal
    (request : PortalRequest) (path : Option ObjectPath) :
    PortalRequest × List ObjectPath :=
  match path with
  | none => (request, [])
  | some path =>
      if request.closedPath = some path then
        (request, [])
      else
        ({ request with closedPath := some path }, [path])

/-- `request_complete`, with the paths that are closed. -/
def requestComplete (request : PortalRequest) :
    PortalRequest × List ObjectPath :=
  if request.completed then
    (request, [])
  else
    let request := { request with completed := true }
    let (request, closes) :=
      if request.sent && !request.responded && !request.methodFailed then
        -- The predicted path serves until the portal has returned one.
        requestCloseAtPortal request
          (request.returnedPath.or request.requestPath)
      else
        (request, [])
    ({ request with
        timeoutArmed := false
        subscription := none
        done := true },
      closes)

/-- `on_response`. -/
def onResponse
    (response : UInt32) (results : Results) (request : PortalRequest) :
    PortalRequest × List ObjectPath :=
  if request.completed then
    (request, [])
  else
    requestComplete
      { request with
        response
        results := some results
        responded := true }

/-- `subscribe_response`. -/
def subscribeResponse
    (request : PortalRequest) (path : Option ObjectPath) : PortalRequest :=
  { request with subscription := some path }

/-- The error of a request that has timed out. -/
def timeoutError (method : PortalMethod) : RequestError :=
  .portal .timeout (method.name ++ " produced no Response in time")

/-- `on_request_timeout`. -/
def onRequestTimeout (request : PortalRequest) :
    PortalRequest × List ObjectPath :=
  requestComplete
    { request with
      timeoutArmed := false
      error := some (timeoutError request.method) }

/-- `on_method_returned`. -/
def onMethodReturned
    (reply : Except CallError ObjectPath) (request : PortalRequest) :
    PortalRequest × List ObjectPath :=
  let request := { request with calling := false }
  match reply with
  | .ok returned =>
      if request.completed then
        -- The reply may name a path that has not been closed yet.
        if request.responded then
          (request, [])
        else
          requestCloseAtPortal request (some returned)
      else
        let request := { request with returnedPath := some returned }
        if request.requestPath = some returned then
          (request, [])
        else
          (subscribeResponse request (some returned), [])
  | .error error =>
      if request.completed then
        (request, [])
      else
        requestComplete
          { request with
            methodFailed := error.refused
            error := some (.call error) }

/-- The error of a request that is given up. -/
def abandonedError
    (method : PortalMethod) (code : PortalErrorCode) : RequestError :=
  .portal code (method.name ++ " was abandoned")

/-- `request_start` when the client is cancelled or the owner has changed. -/
def abandon
    (code : PortalErrorCode) (request : PortalRequest) :
    PortalRequest × List ObjectPath :=
  requestComplete
    { request with
      queued := false
      error := some (abandonedError request.method code) }

/-- `request_start` when it sends the call to the current owner. -/
def send (owner : BusName) (request : PortalRequest) :
    PortalRequest × List ObjectPath :=
  let request :=
    { request with
      queued := false
      owner := some owner
      sent := true }
  let request := subscribeResponse request request.requestPath
  ({ request with calling := true, timeoutArmed := true }, [])

/-- What `owner_changed` does to a live request. -/
def onOwnerChanged (request : PortalRequest) :
    PortalRequest × List ObjectPath :=
  requestComplete
    { request with
      error := some (.portal .invalidated "Frontend owner changed") }

/-- What `cancel_requests` does to a live request. -/
def onCancelRequests (request : PortalRequest) :
    PortalRequest × List ObjectPath :=
  requestComplete
    { request with
      error := request.error.or
        (some (abandonedError request.method .cancelled)) }

/-! ## The waiting caller -/

/-- The reasons that a response may name. -/
def responseReasons : List (String × PortalErrorCode) :=
  [("cancelled", .cancelled),
    ("pin_locked", .pinLocked),
    ("token_removed", .invalidated),
    ("grant_gone", .invalidated),
    ("session_closed", .invalidated),
    ("no_such_session", .invalidated),
    ("owner_gone", .invalidated),
    ("backend_gone", .invalidated),
    ("device_error", .device),
    ("interaction_required", .loginRequired),
    ("invalid_request", .invalidRequest),
    ("invalid_purpose", .invalidRequest),
    ("invalid_filter", .invalidRequest)]

/-- The code for the reason of a response. -/
def responseError (results : Option Results) : PortalErrorCode :=
  match results.bind Results.reason with
  | none => .failed
  | some reason => (responseReasons.lookup reason).getD .failed

/-- What `portal_request` returns once the request is done. -/
def PortalRequest.outcome (request : PortalRequest) :
    Option Results × Option RequestError :=
  match request.error with
  | some error => (none, some error)
  | none =>
      if request.response = 1 then
        (none,
          some (.portal .cancelled (request.method.name ++ " was cancelled")))
      else if request.response ≠ 0 then
        (none,
          some (.portal (responseError request.results)
            (request.method.name ++ " answered " ++
              toString request.response)))
      else
        (request.results, none)

end PortalCertificate.Module.Requests
