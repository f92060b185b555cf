import PortalCertificate.Context.Completion

/-!
# Acquisitions

`acquire.c`.  An acquisition enumerates the certificates, shows what its
filter leaves in a chooser, and enumerates again after presence events.  The
choice of a row is recorded before the events in the queue are dispatched,
and it waits for an enumeration that is running.

No callback of a dispatch dispatches, so the flag that keeps a dispatch from
starting inside of another is never found set.
-/

namespace PortalCertificate.Context.Acquire

open PortalCertificate.Context.Completion
open PortalCertificate.Context.Requests
open PortalCertificate.Context.Sessions
open PortalCertificate.Core.Coordinator (XccErrorCode Reply)
open PortalCertificate.Tokens.Discovery
open PortalCertificate.Tokens.Filter
open PortalCertificate.Tokens.Watcher

/-! ## Enumerations -/

/-- `start_enumeration`, with the number of the worker. -/
def startEnumeration (world : World) (id : Nat) : World :=
  let request := world.requests id
  { world.setRequest id
      { request with enumerating := true, enumerateAgain := false } with
    enumerations := world.enumerations ++ [(id, world.nextEnumeration)]
    nextEnumeration := world.nextEnumeration + 1 }.emit
      (.enumerationStarted id world.nextEnumeration)

/-- The worker of an enumeration has been processed. -/
def landed (world : World) (id enumeration : Nat) : World :=
  { world.setRequest id
      { world.requests id with enumerating := false } with
    enumerations := world.enumerations.erase (id, enumeration) }

@[simp]
theorem landed_self (world : World) (id enumeration : Nat) :
    (landed world id enumeration).requests id =
      { world.requests id with enumerating := false } :=
  Function.update_self ..

/-! ## Presence events -/

/-- The list of a chooser is emptied. -/
def emptyChooser (world : World) (id chooser : Nat) : World :=
  { world with
    ui := Core.Chooser.chooserUpdate world.ui chooser [] false }.emit
      (.emptied id)

/-- The chooser shows that the tokens are read. -/
def readTokens (world : World) (chooser : Nat) : World :=
  { world with
    ui := Core.Chooser.chooserSetTokensReading world.ui chooser true }

/-- Another enumeration is to follow for the request. -/
def askAgain (world : World) (id : Nat) : World :=
  world.setRequest id { world.requests id with enumerateAgain := true }

/-- An event for a request whose chooser has ended. -/
def completedEvent (world : World) (event : WatchEvent) (id : Nat) : World :=
  let request := world.requests id
  match request.pendingChosen with
  | none => world
  | some chosen =>
      if !event.added &&
          certificateTokenSame chosen.token
            event.token.toCertificateToken &&
          !world.isCancelled id then
        (world.setRequest id
          { request with cancelledCode := .tokenRemoved }).cancelRequest id
      else
        askAgain world id

/-- What an event does to a list that is shown. -/
def tellChooser (world : World) (event : WatchEvent) (id : Nat) : World :=
  match (world.requests id).chooser with
  | some chooser =>
      if event.added then readTokens world chooser
      else emptyChooser world id chooser
  | none => world

/-- An event for a request that is choosing or about to. -/
def openEvent (world : World) (event : WatchEvent) (id : Nat) : World :=
  let request := world.requests id
  if request.chooser.isNone && !request.enumerating then
    world
  else
    let told := tellChooser world event id
    if request.enumerating then askAgain told id
    else startEnumeration told id

/-- The body of the loop of `xcc_acquire_token_event`. -/
def acquireEvent (event : WatchEvent) (world : World) (id : Nat) : World :=
  let request := world.requests id
  if request.answered || request.kind ≠ .acquire then world
  else if request.chooserCompleted then completedEvent world event id
  else openEvent world event id

/-- `token_event`. -/
def tokenEvent (world : World) (event : WatchEvent) : World :=
  let told :=
    eachRequest (world.emit (.dispatched event)) (acquireEvent event)
  if event.added then
    told
  else
    eachSession told fun world session =>
      if xccSessionUsesToken (world.sessions session)
          event.token.toCertificateToken then
        xccSessionInvalidateInternal world session .tokenRemoved
      else
        world

/-- `certificate_tokens_dispatch_pending`. -/
def dispatchPending (world : World) : World :=
  world.events.foldl tokenEvent { world with events := [] }

/-! ## Grants -/

/-- A grant is made, and the request remembers its candidate. -/
def grantRequest
    (world : World) (id session : Nat) (candidate : CertificateCandidate) :
    World :=
  let request := world.requests id
  let granted :=
    xccSessionGrant (world.sessions session) candidate request.purpose
      (request.maySign && candidate.canSign) false request.lifetime world.now
  let pending : Session :=
    { granted with
      rest := { granted.rest with
        grantPending := true, genericPurpose := request.genericPurpose } }
  ((world.setSession session pending).setRequest id
    { request with
      candidate := some candidate
      result := { request.result with maySign := request.maySign } }).emit
        (.granted id session candidate)

@[simp]
theorem grantRequest_self (world : World) (id session : Nat)
    (candidate : CertificateCandidate) :
    (grantRequest world id session candidate).requests id =
      { world.requests id with
        candidate := some candidate
        result := { (world.requests id).result with
          maySign := (world.requests id).maySign } } :=
  Function.update_self ..

/-- `finish_acquire`. -/
def finishAcquire
    (world : World) (id : Nat) (candidate : CertificateCandidate) : World :=
  let request := world.requests id
  if request.cancelIntent.isSome then
    xccRequestComplete world id .cancelled
  else
    match request.session with
    | none => xccRequestComplete world id .noSuchSession
    | some session =>
        if (world.sessions session).closed then
          xccRequestComplete world id .noSuchSession
        else if !candidate.token.hasSerial then
          xccRequestComplete world id .device
        else
          xccRequestComplete (grantRequest world id session candidate) id .ok

/-! ## The end of a chooser -/

/-- What `on_chooser_done` records first. -/
def conclude
    (request : XccRequest) (chosen : Option CertificateCandidate)
    (error : XccErrorCode) : XccRequest :=
  if request.chooserCompleted then
    { request with chooser := none }
  else
    { request with
      chooser := none, chooserCompleted := true, pendingError := error
      pendingChosen := chosen }

/-- The rest of `on_chooser_done`, after the dispatch. -/
def settleChooser
    (world : World) (id : Nat) (chosen : Option CertificateCandidate)
    (error : XccErrorCode) : World :=
  let request := world.requests id
  if request.enumerating then
    world
  else if error ≠ .ok then
    xccRequestComplete world id error
  else if request.cancelledCode ≠ .ok then
    xccRequestComplete world id request.cancelledCode
  else
    match chosen with
    | none => xccRequestComplete world id .cancelled
    | some candidate =>
        if world.isCancelled id then xccRequestComplete world id .cancelled
        else finishAcquire world id candidate

/-- `on_chooser_done`. -/
def onChooserDone
    (world : World) (id : Nat) (chosen : Option CertificateCandidate)
    (error : XccErrorCode) : World :=
  settleChooser
    (dispatchPending
      (world.setRequest id (conclude (world.requests id) chosen error)))
    id chosen error

/-! ## The end of an enumeration -/

/-- A list of candidates goes to the chooser, which may be new. -/
def publish
    (world : World) (id enumeration : Nat)
    (candidates : List CertificateCandidate) (tokensPresent : Bool) :
    World :=
  let request := world.requests id
  match request.chooser with
  | some chooser =>
      { world with
        ui := Core.Chooser.chooserUpdate world.ui chooser candidates
          tokensPresent }.emit (.published id enumeration candidates)
  | none =>
      { world with
        ui := Core.Chooser.chooserShow world.ui (some (cancellable id))
          candidates tokensPresent }.setRequest id
        { request with chooser := some world.ui.nextChooser } |>.emit
          (.published id enumeration candidates)

/-- The enumeration ends after the chooser. -/
def enumeratedCompleted
    (world : World) (id : Nat) (outcome : Enumerated) (realTime : Int) :
    World :=
  let request := world.requests id
  match request.pendingChosen with
  | none => onChooserDone world id none request.pendingError
  | some chosen =>
      if request.cancelledCode ≠ .ok || world.isCancelled id then
        onChooserDone world id (some chosen) request.pendingError
      else
        match outcome with
        | .error _ => xccRequestComplete world id .device
        | .ok candidates =>
            if request.enumerateAgain then
              startEnumeration world id
            else
              let matching :=
                certificateFilterApply candidates request.filter realTime
              match matching.find? (certificateCandidateSame chosen) with
              | some candidate =>
                  onChooserDone world id (some candidate)
                    request.pendingError
              | none => xccRequestComplete world id .tokenRemoved

/-- The enumeration fails. -/
def enumeratedFailed (world : World) (id : Nat) (error : EnumerateError) :
    World :=
  let request := world.requests id
  if request.chooser.isSome then
    let told :=
      if error = .cancelled then world
      else world.setRequest id { request with cancelledCode := .device }
    told.cancelRequest id
  else if error = .cancelled then
    if request.cancelledCode ≠ .ok then
      xccRequestComplete world id request.cancelledCode
    else
      xccRequestComplete world id .cancelled
  else
    xccRequestComplete world id .device

/-- `on_enumerated` after the dispatch. -/
def settleEnumerated
    (world : World) (id enumeration : Nat) (outcome : Enumerated)
    (tokensPresent : Bool) (realTime : Int) : World :=
  let request := world.requests id
  if request.cancelIntent.isSome && request.chooser.isNone then
    xccRequestComplete world id .cancelled
  else if request.chooserCompleted then
    enumeratedCompleted world id outcome realTime
  else
    match outcome with
    | .error error => enumeratedFailed world id error
    | .ok candidates =>
        if request.interactionForbidden then
          xccRequestComplete world id .interactionRequired
        else if !world.ui.chooserAvailable then
          xccRequestComplete world id .noDisplay
        else if request.enumerateAgain then
          startEnumeration world id
        else
          publish world id enumeration
            (certificateFilterApply candidates request.filter realTime)
            tokensPresent

/-- What the task of an enumeration gives to its callback. -/
def propagated (world : World) (id : Nat) (outcome : Enumerated) :
    Enumerated :=
  if world.isCancelled id then .error .cancelled else outcome

/-- `on_enumerated`. -/
def onEnumerated
    (world : World) (id enumeration : Nat) (outcome : Enumerated)
    (tokensPresent : Bool) (realTime : Int) : World :=
  let outcome := propagated world id outcome
  let dispatched :=
    dispatchPending (world.emit (.enumerated id enumeration outcome))
  settleEnumerated (landed dispatched id enumeration) id enumeration outcome
    tokensPresent realTime

/-! ## The start -/

/-- Another acquisition of the same session has not been answered. -/
def acquisitionPending (world : World) (id : Nat) : Bool :=
  world.active.any fun other =>
    other ≠ id && (world.requests other).session =
        (world.requests id).session &&
      (world.requests other).kind = .acquire &&
      !(world.requests other).answered

/-- The session of a request has been granted something. -/
def alreadyGranted (world : World) (request : XccRequest) : Bool :=
  request.session.any fun session => (world.sessions session).rest.granted

/-- `xcc_acquire_start`. -/
def xccAcquireStart (world : World) (id : Nat) : World :=
  let (error, world) := xccRequestValidate world id
  if error ≠ .ok then
    xccRequestComplete world id error
  else if alreadyGranted world (world.requests id) then
    xccRequestComplete world id .invalidRequest
  else if acquisitionPending world id then
    xccRequestComplete world id .invalidRequest
  else
    startEnumeration world id

end PortalCertificate.Context.Acquire
