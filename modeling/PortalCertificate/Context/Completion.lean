import PortalCertificate.Context.Sessions

/-!
# Answers to requests

`context.c`.  The coordinator answers a request once, and the desktop calls
the client back.  Between the two a cancellation can still replace the
answer; a grant that has been made for it is then rolled back by the
coordinator, before the client is called.
-/

namespace PortalCertificate.Context.Completion

open PortalCertificate.Context.Requests
open PortalCertificate.Context.Sessions
open PortalCertificate.Core.Coordinator (XccErrorCode)

/-! ## On the coordinator -/

/-- The error that a request is answered with. -/
def answerError (world : World) (id : Nat) (error : XccErrorCode) :
    XccErrorCode :=
  let request := world.requests id
  if request.cancelledCode ≠ .ok then request.cancelledCode
  else if world.isCancelled id then .cancelled
  else error

/-- The result of `xcc_request_complete`. -/
def answerResult (request : XccRequest) (error : XccErrorCode) : XccResult :=
  { request.result with
    error
    candidatePresent := error = .ok && request.candidate.isSome
    signaturePresent := error = .ok && request.signature.isSome
    mechanismsPresent := error = .ok && request.kind = .capabilities
    candidate := if error = .ok then request.candidate else none
    signature :=
      if error = .ok && request.signature.isSome then request.signature
      else request.result.signature }

/-- `xcc_request_complete`. -/
def xccRequestComplete
    (world : World) (id : Nat) (error : XccErrorCode) : World :=
  let request := world.requests id
  if request.answered then
    world
  else
    let result := answerResult request (answerError world id error)
    (world.setRequest id { request with answered := true, result }).dispatch
      (.completion id)

theorem xccRequestComplete_open {world : World} {id : Nat}
    {error : XccErrorCode}
    (unanswered : (world.requests id).answered = false) :
    xccRequestComplete world id error =
      (world.setRequest id
        { world.requests id with
          answered := true
          result := answerResult (world.requests id)
            (answerError world id error) }).dispatch (.completion id) := by
  rw [xccRequestComplete, unanswered]
  rfl

@[simp]
theorem ui_xccRequestComplete
    (world : World) (id : Nat) (error : XccErrorCode) :
    (xccRequestComplete world id error).ui = world.ui := by
  rw [xccRequestComplete]
  dsimp only
  split_ifs <;> rfl

/-- `xcc_request_schedule`. -/
def xccRequestSchedule (world : World) (id : Nat) : World :=
  if world.ui.shutdownPosted then
    let request := world.requests id
    xccRequestComplete (world.setRequest id { request with detached := true })
      id .backendGone
  else
    world.post (.start id)

/-- The end of `xcc_request_validate`: the principal. -/
def validatePrincipal (world : World) (id : Nat) : XccErrorCode × World :=
  let request := world.requests id
  match request.session with
  | some session =>
      if request.principal.appId.isNone then (.invalidRequest, world)
      else checkPrincipal world session request.principal
  | none =>
      let principal :=
        { request.principal with ownerGeneration := world.generation }
      (.ok, world.setRequest id { request with principal })

/-- The checks of `xcc_request_validate`. -/
def validateError (world : World) (id : Nat) : XccErrorCode × World :=
  let request := world.requests id
  if world.ui.stopping then
    (.backendGone, world)
  else if request.cancelIntent.isSome then
    (.cancelled, world)
  else if request.cancelledCode ≠ .ok then
    (request.cancelledCode, world)
  else if world.isCancelled id then
    (.cancelled, world)
  else if request.validationError ≠ .ok then
    (request.validationError, world)
  else
    validatePrincipal world id

/-- `xcc_request_validate`. -/
def xccRequestValidate (world : World) (id : Nat) : XccErrorCode × World :=
  validateError
    ({ world with active := world.active ++ [id] }.emit
      (.validated id world.generation)) id

/-- `cancel`, which a client has posted. -/
def cancel (world : World) (id : Nat) (reason : XccCancelReason) : World :=
  cancelOpen (firstCode world id reason.code) id

/-- `rollback_acquisition`. -/
def rollbackAcquisition (world : World) (id : Nat) : World :=
  let request := world.requests id
  let restored :=
    match request.session with
    | some session =>
        world.setSession session (rolledBack (world.sessions session))
    | none => world
  ((restored.setRequest id { request with candidate := none }).emit
    (.rolledBack id)).dispatch (.completion id)

@[simp]
theorem ui_rollbackAcquisition (world : World) (id : Nat) :
    (rollbackAcquisition world id).ui = world.ui := by
  rw [rollbackAcquisition]
  cases (world.requests id).session <;> rfl

/-- `completion_ack`. -/
def completionAck (world : World) (id : Nat) : World :=
  { world with active := world.active.erase id }

/-- The owner that a request stands for. -/
def requestGeneration (world : World) (request : XccRequest) : Nat :=
  match request.session with
  | some session => (world.sessions session).ownerGeneration
  | none => request.principal.ownerGeneration

/-- The body of the first loop of `generation`. -/
def fence (world : World) (id : Nat) : World :=
  let request := world.requests id
  if requestGeneration world request ≠ world.generation then
    let overruled := overrule world id .ownerGone
    if request.answered then
      overruled
    else
      (overruled.setRequest id
        { overruled.requests id with
          cancelledCode := .ownerGone }).cancelRequest id
  else
    world

/-- `generation`. -/
def generation (world : World) (value : Nat) : World :=
  let set := { world with generation := value }.emit (.ownerGeneration value)
  eachSession (eachRequest set fence) fun world session =>
    if (world.sessions session).ownerGeneration ≠ world.generation then
      xccSessionCloseInternal world session
    else
      world

/-! ## The shutdown -/

/-- The body of the loop of `shutdown_start`. -/
def abandon (world : World) (id : Nat) : World :=
  let overruled := overrule world id .backendGone
  if (world.requests id).answered then
    overruled
  else
    (overruled.setRequest id
      { overruled.requests id with
        cancelledCode := .backendGone }).cancelRequest id

/-- `shutdown_start`. -/
def shutdownStart (world : World) : World :=
  let stopping := { world with ui := { world.ui with stopping := true } }
  eachSession (eachRequest stopping abandon) fun world session =>
    xccSessionInvalidateInternal world session .backendGone

/-- What `xcc_context_check_shutdown` waits for. -/
def shutdownReady (world : World) : Bool :=
  world.ui.stopping && world.watchStopped && !world.ui.shutdownPosted &&
    world.active.isEmpty && world.posts.isEmpty && world.ui.inbox.isEmpty &&
    world.ui.interactions.isEmpty && world.ui.pending.isEmpty &&
    world.held = 0

/-- `xcc_context_check_shutdown`; it is also called while a post runs, which
is then still counted. -/
def xccContextCheckShutdown (world : World) : World :=
  if shutdownReady world then
    { world with
      ui := { world.ui with shutdownPosted := true }
      live := [] }.dispatch .shutdownDelivered
  else
    world

/-! ## On the desktop -/

/-- The result of a delivery that finds a cancel intent. -/
def cancelledResult
    (result : XccResult) (reason : XccCancelReason) : XccResult :=
  { result with
    error := reason.code, candidatePresent := false
    signaturePresent := false, mechanismsPresent := false
    candidate := none, signature := none }

/-- The result that a delivery reads. -/
def readResult (request : XccRequest) : XccResult :=
  match request.cancelIntent with
  | some reason => cancelledResult request.result reason
  | none => request.result

/-- The first part of `completion`: the intent is read. -/
def completionReads (world : World) (id : Nat) : World :=
  let request := world.requests id
  let result := readResult request
  { world.setRequest id { request with result } with
    desktop := .delivering id }.emit
      (.delivering id request.cancelIntent result.error)

/-- The second part: a grant is rolled back, or it is given free. -/
def completionSettles (world : World) (id : Nat) : World :=
  let request := world.requests id
  if request.kind = .acquire && request.candidate.isSome then
    if request.result.error ≠ .ok then
      { world.post (.rollbackAcquisition id) with desktop := .idle }
    else
      match request.session with
      | some session =>
          let granted := world.sessions session
          { world.setSession session
              { granted with
                rest := { granted.rest with grantPending := false } } with
            desktop := .calling id }
      | none => { world with desktop := .calling id }
  else
    { world with desktop := .calling id }

@[simp]
theorem ui_completionSettles (world : World) (id : Nat) :
    (completionSettles world id).ui = world.ui := by
  rw [completionSettles]
  dsimp only
  split_ifs
  · exact world.ui_post _
  · split <;> rfl
  · rfl

/-- The third part: the client is called back. -/
def completionCalls (world : World) (id : Nat) : World :=
  let request := world.requests id
  let told :=
    { world.emit (.done id request.result) with desktop := .idle }
  if request.detached then told else told.post (.completionAck id)

@[simp]
theorem ui_completionCalls (world : World) (id : Nat) :
    (completionCalls world id).ui = world.ui := by
  rw [completionCalls]
  dsimp only
  split_ifs
  · rfl
  · exact World.ui_post _ _

/-- The desktop takes what has been handed to it. -/
def deliver (world : World) : Delivery → World
  | .completion id => completionReads world id
  | .invalidated session reason =>
      world.emit (.sessionInvalidated session reason)
  | .shutdownDelivered => world.emit .shutdownDone

end PortalCertificate.Context.Completion
