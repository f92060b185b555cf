import PortalCertificate.Module.Calls
import PortalCertificate.Module.Statics

/-!
# Calls on one session

The locked bodies of the calls that name a session, other than
`C_CloseSession` and the search calls that may acquire.  A body takes the
state and the answers of the libraries it calls, and returns the state and
the reply.
-/

namespace PortalCertificate.Module.SessionCalls

open PortalCertificate.Library.Der (Octets)
open PortalCertificate.Module.Calls
open PortalCertificate.Module.Mechanism
open PortalCertificate.Module.Objects
open PortalCertificate.Module.Session
open PortalCertificate.Module.Sign
open PortalCertificate.Module.Statics
open PortalCertificate.Pkcs11

/-- What the code called by one body answers. -/
structure Answers where
  /-- `gnutls_hash_init` succeeds. -/
  hashInit : Bool
  /-- `gnutls_hash` succeeds. -/
  hashed : Bool
  /-- The portal's answer to a request. -/
  portal : Except PortalErrorCode Octets
  /-- `portal_client_new`; `none` when the process is excluded. -/
  client : Option PortalClient
  /-- The process identifier as the serial number shows it. -/
  process : String

/-- A body that starts with `session_lookup`. -/
def withSession
    (state : State) (handle : Nat)
    (body : State → PortalSession → State × Reply) : State × Reply :=
  match sessionLookup state handle with
  | (state, none) => (state, answer .sessionHandleInvalid)
  | (state, some session) => body state session

/-- A body that starts with `operation_session_lookup`. -/
def withOperationSession
    (state : State) (handle : Nat)
    (body : State → PortalSession → State × Reply) : State × Reply :=
  match operationSessionLookup state handle with
  | (state, .error rv) => (state, answer rv)
  | (state, .ok session) => body state session

/-! ## Session state -/

/-- `C_GetSessionInfo`. -/
def cGetSessionInfo (state : State) (handle : Nat) : State × Reply :=
  withSession state handle fun state session =>
    (state, ⟨.ok, .sessionInfo state.loggedIn session.flags⟩)

/-- `C_Login`, which asks for no PIN. -/
def cLogin (state : State) (handle : Nat) : State × Reply :=
  withSession state handle fun state _ =>
    if state.loggedIn then
      (state, answer .userAlreadyLoggedIn)
    else
      ({ state with loggedIn := true }, answer .ok)

/-- The grant is released even when nobody is logged in. -/
def cLogout (state : State) (handle : Nat) : State × Reply :=
  withSession state handle fun state _ =>
    let rv : CkRv := if state.loggedIn then .ok else .userNotLoggedIn
    let state : State := { state.emit .loggedOut with loggedIn := false }
    (releaseGrant state, answer rv)

/-! ## Search results and attributes -/

/-- `C_FindObjects`. -/
def cFindObjects
    (state : State) (handle maxCount : Nat) : State × Reply :=
  withSession state handle fun state session =>
    if !session.find.active then
      (state, answer .operationNotInitialized)
    else
      let produced :=
        (session.find.results.drop session.find.position).take maxCount
      let state := state.updateSession handle fun session =>
        { session with
          find :=
            { session.find with
              position := session.find.position + produced.length } }
      (state, ⟨.ok, .objects produced⟩)

/-- `C_FindObjectsFinal`. -/
def cFindObjectsFinal (state : State) (handle : Nat) : State × Reply :=
  withSession state handle fun state session =>
    if !session.find.active then
      (state, answer .operationNotInitialized)
    else
      let state := state.updateSession handle fun session =>
        { session with find := .idle }
      (state, answer .ok)

/-- `C_GetAttributeValue`. -/
def cGetAttributeValue
    (state : State) (handle : Nat) (object : CkUlong)
    (template : CkTemplate) : State × Reply :=
  withSession state handle fun state _ =>
    match portalObjectsLookup state.objects object with
    | none => (state, answer .objectHandleInvalid)
    | some object =>
        let (rv, template) := portalObjectGetAttributes object template
        (state, ⟨rv, .attributes template⟩)

/-! ## Initialising operations -/

/-- The granted private key a key handle names. -/
def grantedKey
    (state : State) (key : CkUlong) : Option PortalGrant :=
  match state.grant, portalObjectsLookup state.objects key with
  | some grant, some object =>
      if object.objectClass = ckoPrivateKey then some grant else none
  | _, _ => none

/-- The signature of a session is reset. -/
def resetSign (state : State) (handle : Nat) : State :=
  state.updateSession handle sessionResetSign

/-- The decryption of a session is reset. -/
def resetDecrypt (state : State) (handle : Nat) : State :=
  state.updateSession handle sessionResetDecrypt

/-- `C_SignInit`. -/
def cSignInit
    (state : State) (handle : Nat) (mechanism : CkMechanism)
    (key : CkUlong) (answers : Answers) : State × Reply :=
  withSession state handle fun state session =>
    if session.sign.active then
      (state, answer .operationActive)
    else
      match grantedKey state key with
      | none => (state, answer .keyHandleInvalid)
      | some grant =>
          if !grant.maySign then
            (state, answer .keyFunctionNotPermitted)
          else
            match signSetup grant session.sign mechanism
                answers.hashInit with
            | .error rv => (resetSign state handle, answer rv)
            | .ok sign =>
                let state := state.updateSession handle fun session =>
                  { session with sign }
                (state.emit
                    (.operationInitialised .sign session.birth
                      grant.acquisition grant.sessionHandle),
                  answer .ok)

/-- `PKCS11_PORTAL_REASON_MAX`. -/
def reasonMax : Nat := 256

/-- The OAEP parameters `C_DecryptInit` accepts. -/
def decryptSetup
    (operation : DecryptOperation) (mechanism : CkMechanism) :
    Except CkRv DecryptOperation :=
  match mechanism.parameter with
  | none => .error .mechanismParamInvalid
  | some memory =>
      if mechanism.parameterLen ≠ sizeofOaepParams then
        .error .mechanismParamInvalid
      else
        let parameters := memory.oaep
        match portalHashFromCkDigest parameters.hashAlg,
            portalMgfHash parameters.mgf with
        | some hash, some mgfHash =>
            if hash ≠ mgfHash then
              .error .mechanismParamInvalid
            else
              let prepared : DecryptOperation :=
                { operation with
                  active := true
                  hash := some hash
                  mgf1Hash := some mgfHash }
              if parameters.sourceDataLen = 0 then
                .ok prepared
              else
                match parameters.sourceData with
                | none => .error .mechanismParamInvalid
                | some label =>
                    if parameters.source ≠ ckzDataSpecified ∨
                        parameters.sourceDataLen.toNat > reasonMax then
                      .error .mechanismParamInvalid
                    else
                      .ok
                        { prepared with
                          label := some
                            (label.take parameters.sourceDataLen.toNat) }
        | _, _ => .error .mechanismParamInvalid

/-- `C_DecryptInit`. -/
def cDecryptInit
    (state : State) (handle : Nat) (mechanism : CkMechanism)
    (key : CkUlong) : State × Reply :=
  withSession state handle fun state session =>
    if session.decrypt.active then
      (state, answer .operationActive)
    else
      match grantedKey state key with
      | none => (state, answer .keyHandleInvalid)
      | some grant =>
          if !grant.mayDecrypt then
            (state, answer .keyFunctionNotPermitted)
          else if !(portalMechanismLookup ckmRsaPkcsOaep).any fun entry =>
              portalMechanismAvailable entry
                (some grant.supportedMechanisms) then
            (state, answer .mechanismInvalid)
          else
            match decryptSetup session.decrypt mechanism with
            | .error rv => (state, answer rv)
            | .ok decrypt =>
                let state := state.updateSession handle fun session =>
                  { session with decrypt }
                (state.emit
                    (.operationInitialised .decrypt session.birth
                      grant.acquisition grant.sessionHandle),
                  answer .ok)

/-! ## Performing operations -/

/-- The size of a signature in octets, in 32-bit arithmetic. -/
def signatureLength (grant : Option PortalGrant) : Nat :=
  match grant with
  | none => 0
  | some grant =>
      if grant.keySize = 0 then
        0
      else if grant.keyType = "EC" then
        (2 * ((grant.keySize + 7) / 8)).toNat
      else
        ((grant.keySize + 7) / 8).toNat

/--
`portal_client_sign` and `portal_client_decrypt`.  Without a grant nothing
is requested, and the answer of a gone grant is not used.
-/
def portalRequest
    (request : OperationRequest) (state : State) (session : PortalSession)
    (portal : Except PortalErrorCode Octets) :
    State × Except CkRv Octets :=
  match state.grant with
  | none => (state, .error (portalErrorToRv .invalidated))
  | some grant =>
      let state := state.emit
        (.operationRequested request session.birth grant.acquisition
          grant.sessionHandle)
      if portalClientGrantGone state.client grant then
        (state, .error (portalErrorToRv .invalidated))
      else
        match portal with
        | .error code => (state, .error (portalErrorToRv code))
        | .ok octets => (state, .ok octets)

/-- `sign_perform`. -/
def signPerform
    (host : Host) (state : State) (session : PortalSession)
    (answers : Answers) : State × Except CkRv Octets :=
  match signRequest host.hashes session.sign with
  | .error rv => (state, .error rv)
  | .ok request =>
      portalRequest (.sign request) state session answers.portal

/-- Size queries leave the operation as it is. -/
def signFinish
    (host : Host) (state : State) (handle : Nat)
    (session : PortalSession) (answers : Answers)
    (out : Bool) (outLen : Nat) : State × Reply :=
  let expected := signatureLength state.grant
  if !out then
    (state, ⟨.ok, .length expected⟩)
  else if outLen < expected then
    (state, ⟨.bufferTooSmall, .length expected⟩)
  else
    match signPerform host state session answers with
    | (state, .error rv) => (resetSign state handle, answer rv)
    | (state, .ok signature) =>
        if outLen < signature.length then
          (resetSign state handle, answer .functionFailed)
        else
          (resetSign state handle, ⟨.ok, .octets signature⟩)

/-- `C_Sign`. -/
def cSign
    (host : Host) (state : State) (handle : Nat) (data : CkBuffer)
    (signature : Bool) (signatureLen : Nat) (answers : Answers) :
    State × Reply :=
  withOperationSession state handle fun state session =>
    let expected := signatureLength state.grant
    if !session.sign.active then
      (state, answer .operationNotInitialized)
    else if !signature then
      (state, ⟨.ok, .length expected⟩)
    else if signatureLen < expected then
      (state, ⟨.bufferTooSmall, .length expected⟩)
    else
      match signFeed session.sign data answers.hashed with
      | .error rv => (resetSign state handle, answer rv)
      | .ok sign =>
          let state := state.updateSession handle fun session =>
            { session with sign }
          signFinish host state handle { session with sign } answers
            signature signatureLen

/-- `C_SignUpdate`. -/
def cSignUpdate
    (state : State) (handle : Nat) (part : CkBuffer)
    (answers : Answers) : State × Reply :=
  withOperationSession state handle fun state session =>
    if !session.sign.active then
      (state, answer .operationNotInitialized)
    else
      match signFeed session.sign part answers.hashed with
      | .error rv => (resetSign state handle, answer rv)
      | .ok sign =>
          let state := state.updateSession handle fun session =>
            { session with sign }
          (state, answer .ok)

/-- `C_SignFinal`. -/
def cSignFinal
    (host : Host) (state : State) (handle : Nat)
    (signature : Bool) (signatureLen : Nat) (answers : Answers) :
    State × Reply :=
  withOperationSession state handle fun state session =>
    if !session.sign.active then
      (state, answer .operationNotInitialized)
    else
      signFinish host state handle session answers signature signatureLen

/-- The request `C_Decrypt` hands to the portal client. -/
def decryptRequest
    (operation : DecryptOperation) (data : Octets) : DecryptRequest where
  hash := operation.hash
  mgf1Hash := operation.mgf1Hash
  label := operation.label
  data

/-- A plaintext that does not fit leaves the operation active. -/
def cDecrypt
    (state : State) (handle : Nat) (ciphertext : CkBuffer)
    (plaintext : Bool) (plaintextLen : Nat) (answers : Answers) :
    State × Reply :=
  withOperationSession state handle fun state session =>
    if !session.decrypt.active then
      (state, answer .operationNotInitialized)
    else if !plaintext then
      (state, ⟨.ok, .length (signatureLength state.grant)⟩)
    else
      match ciphertext with
      | .null _ => (resetDecrypt state handle, answer .argumentsBad)
      | .octets data =>
          match portalRequest (.decrypt (decryptRequest session.decrypt data))
              state session answers.portal with
          | (state, .error rv) => (resetDecrypt state handle, answer rv)
          | (state, .ok result) =>
              if plaintextLen < result.length then
                (state, ⟨.bufferTooSmall, .length result.length⟩)
              else
                (resetDecrypt state handle, ⟨.ok, .octets result⟩)

end PortalCertificate.Module.SessionCalls
