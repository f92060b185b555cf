import PortalCertificate.Context.Requests

/-!
# Sessions of a context

`session.c`, on the coordinator.  What a session does to its requests is
done to the requests that the coordinator has taken up and not yet let go.
-/

namespace PortalCertificate.Context.Sessions

open PortalCertificate.Context.Requests
open PortalCertificate.Core.Coordinator (XccErrorCode)
open PortalCertificate.Core.Principals
open PortalCertificate.Tokens.Discovery
open PortalCertificate.Tokens.Filter

/-! ## Cancellation of requests -/

/-- The compare-and-exchange of a cancel intent; the first one wins. -/
def intend (world : World) (id : Nat) (reason : XccCancelReason) : World :=
  let request := world.requests id
  if request.cancelIntent.isSome then
    world
  else
    world.setRequest id { request with cancelIntent := some reason }

/-- The write of a cancel intent. -/
def overrule (world : World) (id : Nat) (reason : XccCancelReason) : World :=
  world.setRequest id
    { world.requests id with cancelIntent := some reason }

/-- The first code of a request that has not been answered. -/
def firstCode (world : World) (id : Nat) (code : XccErrorCode) : World :=
  let request := world.requests id
  if !request.answered && request.cancelledCode = .ok then
    world.setRequest id { request with cancelledCode := code }
  else
    world

/-- A request that has not been answered is cancelled. -/
def cancelOpen (world : World) (id : Nat) : World :=
  if (world.requests id).answered then world else world.cancelRequest id

/-- A loop over the requests of the context. -/
def eachRequest (world : World) (body : World → Nat → World) : World :=
  world.active.foldl body world

/-- A loop over the requests of one session. -/
def eachOfSession
    (world : World) (session : Nat) (body : World → Nat → World) : World :=
  eachRequest world fun world id =>
    if (world.requests id).session = some session then body world id
    else world

/-! ## Grants -/

/-- `xcc_session_grant`. -/
def xccSessionGrant
    (session : Session) (candidate : CertificateCandidate)
    (purpose : CertificatePurpose) (maySign mayDecrypt : Bool)
    (lifetime : UInt32) (now : Int) : Session :=
  { session with
    rest := { session.rest with
      candidate := some candidate, purpose, maySign, mayDecrypt
      decryptCount := 0, lifetime, expiresAt := now + lifetime.toNat
      granted := true, expirySource := true } }

/-- The session after `xcc_acquire_rollback`. -/
def rolledBack (session : Session) : Session :=
  { session with
    rest := { session.rest with
      expirySource := false, granted := false, candidate := none
      purpose := .clientAuth, genericPurpose := false, maySign := false
      mayDecrypt := false, decryptCount := 0, lifetime := 0, expiresAt := 0
      grantPending := false } }

/-- `xcc_session_uses_token`. -/
def xccSessionUsesToken
    (session : Session) (token : CertificateToken) : Bool :=
  session.rest.candidate.any fun candidate =>
    certificateTokenSame candidate.token token

/-! ## The end of a session -/

/-- `xcc_session_close_internal`. -/
def xccSessionCloseInternal (world : World) (id : Nat) : World :=
  let session := world.sessions id
  if session.closed then
    world
  else
    let closed := world.setSession id { session with closed := true }
    let told := eachOfSession closed id fun world request =>
      cancelOpen
        (firstCode (intend world request .sessionClosed) request
          .noSuchSession) request
    let session := told.sessions id
    let silent := told.setSession id
      { session with rest := { session.rest with expirySource := false } }
    { silent with live := silent.live.erase id }

/-- The reason that an invalidation gives to the requests. -/
def InvalidationReason.cancel : InvalidationReason → XccCancelReason
  | .tokenRemoved => .tokenRemoved
  | .backendGone => .backendGone
  | .expired | .policy | .error => .device

/-- `xcc_session_invalidate_internal`. -/
def xccSessionInvalidateInternal
    (world : World) (id : Nat) (reason : InvalidationReason) : World :=
  let session := world.sessions id
  if session.closed || session.rest.invalidating then
    world
  else
    let cancel := InvalidationReason.cancel reason
    let marked := world.setSession id
      { session with rest := { session.rest with invalidating := true } }
    let told := eachOfSession marked id fun world request =>
      firstCode (intend world request cancel) request cancel.code
    xccSessionCloseInternal (told.dispatch (.invalidated id reason)) id

/-- `on_lifetime_expired`. -/
def onLifetimeExpired (world : World) (id : Nat) : World :=
  let session := world.sessions id
  xccSessionInvalidateInternal
    (world.setSession id
      { session with rest := { session.rest with expirySource := false } })
    id .expired

/-- `session_call`. -/
def sessionCall
    (world : World) (id : Nat) : Option InvalidationReason → World
  | some reason => xccSessionInvalidateInternal world id reason
  | none => xccSessionCloseInternal world id

/-- The sessions of the context, one after another. -/
def eachSession (world : World) (body : World → Nat → World) : World :=
  world.live.foldl body world

/-! ## New sessions and principals -/

/-- What `xcc_session_new` checks before it posts. -/
def sessionSpecRefused (spec : XccSessionSpec) : Bool :=
  spec.appId.isNone || spec.structSize < sizeofXccSessionSpec ||
    spec.abiVersion ≠ xccAbiVersion ||
    (spec.identityPresent && identityUnknown < spec.identityLevel)

/-- `session_new_register`. -/
def sessionNewRegister (world : World) (spec : XccSessionSpec) : World :=
  if world.ui.stopping || spec.ownerGeneration ≠ world.generation then
    world
  else
    let session : Session :=
      { ownerGeneration := spec.ownerGeneration
        appId := spec.appId.getD ""
        identityLevel := spec.identityLevel
        identitySeen := spec.identityPresent
        closed := false, rest := .zero }
    { world.setSession world.nextSession session with
      nextSession := world.nextSession + 1
      live := world.live ++ [world.nextSession] }

@[simp]
theorem ui_sessionNewRegister (world : World) (spec : XccSessionSpec) :
    (sessionNewRegister world spec).ui = world.ui := by
  rw [sessionNewRegister]
  split_ifs <;> rfl

/-- `principal_check`, which the adapter waits for or a request makes. -/
def checkPrincipal
    (world : World) (id : Nat) (principal : XccPrincipal) :
    XccErrorCode × World :=
  let (error, session) :=
    Core.Principals.principalCheck world.generation (world.sessions id)
      principal
  (error, world.setSession id session)

end PortalCertificate.Context.Sessions
