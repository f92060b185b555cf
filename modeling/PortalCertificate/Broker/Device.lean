import PortalCertificate.Core.Coordinator
import PortalCertificate.Library.Der
import PortalCertificate.Pkcs11
import PortalCertificate.Tokens.Discovery

/-!
# The device of a session

`CertificateDevice` with the functions that open it, log in and use its key.
Tokens answer as they like, so each function takes the answers to the calls
that it makes.  The locks are not part of a device.

The trace is the history of the calls on the token that matter for the key,
newest first.
-/

namespace PortalCertificate.Broker.Device

open PortalCertificate.Core.Coordinator (CertificatePkcs11ErrorCode)
open PortalCertificate.Library.Der (Octets)
open PortalCertificate.Pkcs11
open PortalCertificate.Tokens.Discovery

/-! ## Data -/

/-- `CK_INVALID_HANDLE`. -/
def ckInvalidHandle : CkUlong := 0

def ckrOk : CkUlong := 0
def ckrUserAlreadyLoggedIn : CkUlong := 0x100

def cksRoUserFunctions : CkUlong := 1
def cksRwUserFunctions : CkUlong := 3

/-- A function list is known by its place among the loaded ones. -/
structure CertificateDevice where
  module : Option Nat
  session : CkUlong
  privateKey : CkUlong
  loggedIn : Bool
  candidate : Option CertificateCandidate
  deriving DecidableEq, Repr

/-- A device of zeros. -/
def CertificateDevice.closed : CertificateDevice where
  module := none
  session := ckInvalidHandle
  privateKey := ckInvalidHandle
  loggedIn := false
  candidate := none

/-- An error of the device, with its text, or with the call that has failed. -/
inductive DeviceError where
  | literal (code : CertificatePkcs11ErrorCode) (message : String)
  /-- `certificate_pkcs11_set_error`. -/
  | call (rv : CkUlong) (what : String)
  deriving DecidableEq, Repr

/-- The error of a device that is not open. -/
def tokenRemoved : DeviceError :=
  .literal .tokenRemoved "The security token is no longer present"

/-- What is done with the token, and what is seen of it. -/
inductive Event where
  /-- `C_OpenSession` on a token. -/
  | opened (session : CkUlong) (token : CertificateToken)
  /-- A search for private keys with a `CKA_ID`. -/
  | searched (session : CkUlong) (ckaId : Option Octets)
      (found : Option (List CkUlong))
  /-- The session is seen to be logged in, or not. -/
  | observed (loggedIn : Bool)
  /-- The device is closed. -/
  | closed
  /-- An operation is initialised with a key. -/
  | used (session key : CkUlong)
  /-- `certificate_device_open` has succeeded. -/
  | granted (candidate : CertificateCandidate)
  /-- `certificate_device_open` has failed. -/
  | refused
  deriving DecidableEq, Repr

/-- The device, and the trace of what it has done. -/
structure State where
  device : CertificateDevice
  trace : List Event
  deriving DecidableEq, Repr

/-- The event is added to the trace. -/
def State.emit (state : State) (event : Event) : State :=
  { state with trace := event :: state.trace }

/-! ## Opening -/

/-- A slot with a token, and what the module answers for it. -/
structure SlotAnswer where
  module : Nat
  /-- `token_from_slot`. -/
  token : Option CertificateToken
  /-- `token_skip_reason` has a reason. -/
  skipped : Bool
  /-- The handle of `C_OpenSession`, or its return code. -/
  opens : Except CkUlong CkUlong

/-- The token is returned with the session that is opened on it. -/
def certificateTokensOpenSession
    (token : CertificateToken) :
    List SlotAnswer → Except DeviceError (Nat × CkUlong × CertificateToken)
  | [] => .error tokenRemoved
  | slot :: slots =>
      match slot.token with
      | none => certificateTokensOpenSession token slots
      | some present =>
          -- A different card may occupy the same slot.
          if !certificateTokenSame present token then
            certificateTokensOpenSession token slots
          else if slot.skipped then
            certificateTokensOpenSession token slots
          else
            match slot.opens with
            | .error rv => .error (.call rv "C_OpenSession")
            | .ok session => .ok (slot.module, session, present)

/-- `found` is what `certificate_pkcs11_find_objects` returns. -/
def findPrivateKey
    (state : State) (candidate : CertificateCandidate)
    (found : Option (List CkUlong)) : State :=
  let state :=
    state.emit (.searched state.device.session candidate.ckaId found)
  match found with
  | some (key :: _) =>
      { state with device := { state.device with privateKey := key } }
  | _ => state

/-- The digests of the certificates and the tokens are compared. -/
def deviceIsBoundTo
    (device : CertificateDevice) (candidate : CertificateCandidate) : Bool :=
  device.candidate.any fun own =>
    own.certificateId = candidate.certificateId &&
      certificateTokenSame own.token candidate.token

/-- `certificate_device_close`. -/
def certificateDeviceClose (state : State) : State :=
  match state.device.module with
  | none => { state with device := { state.device with candidate := none } }
  | some _ => { state.emit .closed with device := .closed }

/-- A logout makes the key invalid. -/
def noteLogin (state : State) (loggedIn : Bool) : State :=
  { state.emit (.observed loggedIn) with
    device :=
      { state.device with
        privateKey :=
          if state.device.loggedIn && !loggedIn then
            ckInvalidHandle
          else
            state.device.privateKey
        loggedIn } }

/-- `info` is the state that `C_GetSessionInfo` tells. -/
def certificateDeviceRefreshLogin
    (state : State) (info : Except CkUlong CkUlong)
    (found : Option (List CkUlong)) : State × Except DeviceError Unit :=
  if state.device.module.isNone ||
      state.device.session == ckInvalidHandle then
    (state, .error tokenRemoved)
  else
    match info with
    | .error rv => (state, .error (.call rv "C_GetSessionInfo"))
    | .ok session =>
        let loggedIn :=
          session == cksRoUserFunctions || session == cksRwUserFunctions
        let state := noteLogin state loggedIn
        if loggedIn && state.device.privateKey == ckInvalidHandle then
          match state.device.candidate with
          -- Not reached: an open device has a candidate.
          | none => (state, .ok ())
          | some candidate => (findPrivateKey state candidate found, .ok ())
        else
          (state, .ok ())

/-- What is answered while a device is opened. -/
structure OpenAnswers where
  slots : List SlotAnswer
  /-- The first search. -/
  found : Option (List CkUlong)
  info : Except CkUlong CkUlong
  /-- The search of `certificate_device_refresh_login`. -/
  refound : Option (List CkUlong)

/-- A new session for a device without one. -/
def openSession
    (state : State) (candidate : CertificateCandidate)
    (answers : OpenAnswers) : State × Except DeviceError Unit :=
  let device :=
    { state.device with
      privateKey := ckInvalidHandle
      session := ckInvalidHandle }
  match certificateTokensOpenSession candidate.token answers.slots with
  | .error error =>
      ({ state with device := { device with module := none } },
        .error error)
  | .ok (module, session, present) =>
      let state : State :=
        { state.emit (.opened session present) with
          device :=
            { device with
              module := some module
              session
              loggedIn := false
              candidate := some candidate } }
      certificateDeviceRefreshLogin
        (findPrivateKey state candidate answers.found) answers.info
        answers.refound

/-- A replacement credential requires a fresh session and login. -/
def certificateDeviceOpen
    (state : State) (candidate : CertificateCandidate)
    (answers : OpenAnswers) : State × Except DeviceError Unit :=
  if state.device.module.isSome then
    if deviceIsBoundTo state.device candidate then
      certificateDeviceRefreshLogin state answers.info answers.refound
    else
      openSession (certificateDeviceClose state) candidate answers
  else
    openSession state candidate answers

/-! ## Login -/

/-- `rv` is what `C_Login` returns for the PIN. -/
def certificateDeviceLogin
    (state : State) (candidate : CertificateCandidate) (rv : CkUlong)
    (found : Option (List CkUlong)) : State × Except DeviceError Unit :=
  if state.device.module.isNone ||
      state.device.session == ckInvalidHandle then
    (state, .error tokenRemoved)
  else if rv != ckrOk && rv != ckrUserAlreadyLoggedIn then
    (state, .error (.call rv "C_Login"))
  else
    let state := noteLogin state true
    -- Some tokens expose private keys only after login.
    if state.device.privateKey == ckInvalidHandle then
      (findPrivateKey state candidate found, .ok ())
    else
      (state, .ok ())

/-! ## Operations -/

/-- What is answered while an operation is performed. -/
structure PerformAnswers where
  /-- `CKA_ALWAYS_AUTHENTICATE` of the key. -/
  alwaysAuthenticate : Bool
  /-- What `C_SignInit` or `C_DecryptInit` returns. -/
  init : CkUlong
  /-- The callback, if there is one, and its answer. -/
  authenticate : Option (Except DeviceError Unit)
  /-- The result of the two calls that follow, or a return code. -/
  result : Except CkUlong Octets

/-- `certificate_device_perform`, as far as the session and the key are
concerned. -/
def certificateDevicePerform
    (state : State) (decrypt : Bool) (answers : PerformAnswers) :
    State × Except DeviceError Octets :=
  if state.device.module.isNone then
    (state, .error tokenRemoved)
  else if state.device.privateKey == ckInvalidHandle then
    -- A missing private key does not imply token removal.
    (state, .error (.literal .noPrivateKey
      "No private key is available on this token"))
  else
    let state :=
      state.emit (.used state.device.session state.device.privateKey)
    if answers.init != ckrOk then
      (state, .error (.call answers.init
        (if decrypt then "C_DecryptInit" else "C_SignInit")))
    else
      let authenticated : Except DeviceError Unit :=
        if answers.alwaysAuthenticate then
          answers.authenticate.getD (.error (.literal .failed
            "Key requires authentication for this operation"))
        else
          .ok ()
      match authenticated with
      | .error error => (certificateDeviceClose state, .error error)
      | .ok () =>
          (state, answers.result.mapError fun rv =>
            .call rv (if decrypt then "C_Decrypt" else "C_Sign"))

end PortalCertificate.Broker.Device
