import PortalCertificate.Module.SessionCalls

/-!
# Searches and acquisitions

`ensure_grant` and `C_FindObjectsInit`.  The lock is released at two places:
while another thread acquires, and around `portal_client_acquire`.  A body
therefore ends in one of three ways, and the local variables that survive an
unlocked stretch are records of their own.
-/

namespace PortalCertificate.Module.Acquire

open PortalCertificate.Module.Calls
open PortalCertificate.Module.Objects
open PortalCertificate.Module.Session
open PortalCertificate.Module.SessionCalls
open PortalCertificate.Module.Statics
open PortalCertificate.Module.Template
open PortalCertificate.Pkcs11

/-- The local variables of `C_FindObjectsInit`. -/
structure Search where
  handle : Nat
  template : CkTemplate
  lifecycle : UInt32
  serial : UInt32
  deriving DecidableEq, Repr

/--
The local variables of `ensure_grant` while it acquires, with the numbers of
the acquisition and of the session that requests it.
-/
structure Acquisition where
  search : Search
  client : Option PortalClient
  generation : UInt32
  number : Nat
  birth : Nat
  deriving DecidableEq, Repr

/-- The grace period after a refusal, in microseconds. -/
def refusalGrace : Int := 10 * 1000000

/-- How a locked stretch ends. -/
inductive Progress where
  | returned (reply : Reply)
  /-- In `g_cond_wait`, until nobody acquires or the module finalizes. -/
  | waits (search : Search)
  /-- In `portal_client_acquire`. -/
  | acquires (acquisition : Acquisition)
  /-- `C_Finalize` in `g_cond_wait`, until nobody acquires. -/
  | finalizes
  deriving DecidableEq, Repr

/-- The session of a search is looked up again after a wait. -/
def searchRevalidate (state : State) (search : Search) :
    State × Option PortalSession :=
  sessionRevalidate state search.handle search.lifecycle search.serial

/-- `C_FindObjectsInit` after `ensure_grant` has returned `acquired`. -/
def finishSearch
    (state : State) (search : Search) (acquired : Bool) : State × Reply :=
  match searchRevalidate state search with
  | (state, none) => (state, answer .sessionHandleInvalid)
  | (state, some session) =>
      if session.find.active then
        (state, answer .operationActive)
      else
        let results :=
          if acquired then
            portalObjectsFind state.objects search.template
          else
            []
        let state := state.updateSession search.handle fun session =>
          { session with find := { active := true, results, position := 0 } }
        (state, answer .ok)

/-- The search goes on without having released the lock. -/
def searchReturns
    (state : State) (search : Search) (acquired : Bool) :
    State × Progress :=
  let (state, reply) := finishSearch state search acquired
  (state, .returned reply)

/-- A refusal still counts. -/
def refused (state : State) : Bool :=
  state.refusalTime != 0 &&
    state.monotonicTime - state.refusalTime < refusalGrace

/-- `ensure_grant` up to where it releases the lock to acquire. -/
def beginAcquire
    (state : State) (search : Search) (session : PortalSession) :
    State × Progress :=
  let number := state.acquisitions
  ({ state.emit (.acquireStarted number session.birth) with
      acquiring := true
      refusalTime := 0
      acquisitions := number + 1 },
    .acquires
      { search
        client := state.client
        generation := state.generation
        number
        birth := session.birth })

/-- `ensure_grant` once the search has been found valid. -/
def ensureGrant
    (host : Host) (state : State) (search : Search) : State × Progress :=
  match grantStillGood state with
  | (state, true) => searchReturns state search true
  | (state, false) =>
      match searchRevalidate state search with
      | (state, none) => searchReturns state search false
      | (state, some session) =>
          if !portalClientAvailable state.client then
            searchReturns state search false
          else if !portalTemplateWantsCredential search.template
              state.issuedIds state.enumerate host.enumerateSetting then
            searchReturns state search false
          else if refused state then
            searchReturns state search false
          else
            beginAcquire state search session

/-- `ensure_grant` from its start, and again after each wait. -/
def continueSearch
    (host : Host) (state : State) (search : Search) : State × Progress :=
  if state.acquiring && !state.finalizing then
    (state, .waits search)
  else if state.acquiring then
    searchReturns state search false
  else
    match searchRevalidate state search with
    | (state, none) => searchReturns state search false
    | (state, some _) => ensureGrant host state search

/-- `C_FindObjectsInit`, up to its first wait. -/
def cFindObjectsInit
    (host : Host) (state : State) (handle : Nat)
    (template : CkTemplate) : State × Progress :=
  if state.finalizing then
    (state, .returned (answer .cryptokiNotInitialized))
  else
    match sessionLookup state handle with
    | (state, none) => (state, .returned (answer .sessionHandleInvalid))
    | (state, some session) =>
        if session.find.active then
          (state, .returned (answer .operationActive))
        else
          continueSearch host state
            { handle
              template
              lifecycle := state.lifecycle
              serial := session.serial }

/-! ## After the acquisition -/

/-- `portal_client_release` on the client the acquisition used. -/
def releaseAcquired
    (state : State) (acquisition : Acquisition) : State :=
  if acquisition.client.any PortalClient.connected then
    state.emit (.released acquisition.number)
  else
    state

/-- `g_hash_table_add (module_issued_ids, identifier)`. -/
def issueIdentifier (state : State) (identifier : List UInt8) : State :=
  match state.issuedIds with
  | none => state.emit .nullTable
  | some issued =>
      { state with
        issuedIds := some
          (if issued.contains identifier then issued
            else identifier :: issued) }

/-- The grant becomes `module_grant`. -/
def setGrant (state : State) (grant : PortalGrant) : State :=
  { state.emit
      (.installed grant.acquisition grant.sessionHandle) with
    grant := some grant
    generation := state.generation + 1 }

/-- A grant whose certificate is refused is released again. -/
def installGrant
    (host : Host) (state : State) (grant : PortalGrant) : State × Bool :=
  let state := setGrant state grant
  match host.portalObjectsNew grant state.generation with
  | none => (releaseGrant state, false)
  | some objects =>
      (issueIdentifier { state with objects := some objects }
        objects.identifier, true)

/-- `ensure_grant` with a grant in hand. -/
def acceptGrant
    (host : Host) (state : State) (acquisition : Acquisition)
    (grant : PortalGrant) : State × Bool :=
  if state.client.map PortalClient.address !=
        acquisition.client.map PortalClient.address ||
      state.generation != acquisition.generation then
    (releaseAcquired state acquisition, false)
  else
    match searchRevalidate state acquisition.search with
    | (state, none) => (releaseAcquired state acquisition, false)
    | (state, some _) =>
        if state.grant.isSome then
          grantStillGood (releaseAcquired state acquisition)
        else
          installGrant host state
            { grant with acquisition := acquisition.number }

/-- The lock is taken again, and waiting searches may go on. -/
def endAcquire
    (state : State) (acquisition : Acquisition) (granted : Bool) : State :=
  { state.emit (.acquireReturned acquisition.number granted) with
    acquiring := false }

/-- A refusal by the user silences searches for a while. -/
def noteRefusal (state : State) (code : PortalErrorCode) : State :=
  if code = .cancelled then
    { state with refusalTime := state.monotonicTime }
  else
    state

/-- The rest of the call after `portal_client_acquire` has returned. -/
def afterAcquire
    (host : Host) (state : State) (acquisition : Acquisition)
    (result : Except PortalErrorCode PortalGrant) : State × Reply :=
  match result with
  | .error code =>
      finishSearch (noteRefusal (endAcquire state acquisition false) code)
        acquisition.search false
  | .ok grant =>
      let (state, acquired) := acceptGrant host
        (endAcquire state acquisition true) acquisition grant
      finishSearch state acquisition.search acquired

end PortalCertificate.Module.Acquire
