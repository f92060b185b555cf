import PortalCertificate.Broker.Mechanism
import PortalCertificate.Core.Specs

/-!
# Operations on a granted key

The start of an operation: `xcc_sign_start` and `certificate_broker_perform`
up to the first use of the token, and the codes of `on_operation_done` with
their names on the wire.
-/

namespace PortalCertificate.Broker.Operations

open PortalCertificate.Broker.Mechanism
open PortalCertificate.Core.Coordinator
open PortalCertificate.Core.Principals
open PortalCertificate.Core.Specs
open PortalCertificate.Glib
open PortalCertificate.Library.Der (Octets)
open PortalCertificate.Tokens.Discovery

/-! ## Grants -/

/-- What a session has been granted; times are in seconds. -/
structure Grant where
  granted : Bool
  grantPending : Bool
  candidate : Option CertificateCandidate
  maySign : Bool
  mayDecrypt : Bool
  decryptCount : Nat
  expiresAt : Int
  deriving DecidableEq, Repr

/-- `CERTIFICATE_MAX_DECRYPTS_PER_GRANT`. -/
def certificateMaxDecryptsPerGrant : Nat := 32

/-- `certificate_broker_decrypts_spent`. -/
def certificateBrokerDecryptsSpent (grant : Grant) : Bool :=
  certificateMaxDecryptsPerGrant ≤ grant.decryptCount

/-- `xcc_session_is_expired`. -/
def isExpired (grant : Grant) (now : Int) : Bool :=
  grant.granted && grant.expiresAt ≤ now

/-! ## Errors -/

/-- The error of an operation that is not accepted. -/
inductive OperationError where
  | io (error : GError)
  | pkcs11 (code : CertificatePkcs11ErrorCode) (message : String)
  deriving DecidableEq, Repr

/-- `on_operation_done`. -/
def onOperationDone : OperationError → XccErrorCode
  | .io error =>
      match error.code with
      | .notSupported => .notSupported
      | .invalidArgument => .invalidRequest
  | .pkcs11 code _ =>
      match code with
      | .cancelled => .cancelled
      | .pinLocked => .pinLocked
      | .tokenRemoved => .tokenRemoved
      | .loginTimeout => .loginTimeout
      | .pinIncorrect => .pinIncorrect
      | .noDisplay => .noDisplay
      | .notSupported => .notSupported
      | _ => .device

/-- `xcc_error_wire_name`. -/
def xccErrorWireName : XccErrorCode → Option String
  | .ok => none
  | .cancelled => "cancelled"
  | .ownerGone => "owner_gone"
  | .backendGone => "backend_gone"
  | .noSuchSession => "no_such_session"
  | .invalidRequest => "invalid_request"
  | .invalidPurpose => "invalid_purpose"
  | .invalidFilter => "invalid_filter"
  | .device => "device_error"
  | .interactionRequired => "interaction_required"
  | .noDisplay => "no_display"
  | .pinLocked => "pin_locked"
  | .tokenRemoved => "token_removed"
  | .pinIncorrect => "device_error"
  | .loginTimeout => "device_error"
  | .notSupported => "invalid_request"

/-- The reasons a mechanism is refused for have one name on the wire. -/
@[simp]
theorem wireName_io (error : GError) :
    xccErrorWireName (onOperationDone (.io error)) =
      some "invalid_request" := by
  rcases error with ⟨code, message⟩
  cases code <;> rfl

/-! ## The start of an operation -/

/-- What a token is asked to do. -/
structure Operation where
  decrypt : Bool
  operationId : Option String
  mechanism : CertificateMechanism
  payload : Octets
  deriving DecidableEq, Repr

/-- The checks of `certificate_broker_perform` before the mechanism. -/
def grantRefusal
    (session : XccSession Grant) (now : Int) (decrypt : Bool) :
    Except OperationError CertificateCandidate :=
  let grant := session.rest
  if grant.grantPending then
    .error (.io (invalidArgument "Acquisition is pending"))
  else
    match grant.candidate.filter fun _ => grant.granted with
    | none => .error (.pkcs11 .failed "Session has no credential")
    | some candidate =>
        if session.closed then
          .error (.pkcs11 .failed "Session closed")
        else if isExpired grant now then
          .error (.pkcs11 .failed "Grant expired")
        else if decrypt && certificateBrokerDecryptsSpent grant then
          .error (.pkcs11 .notSupported
            ("Grant decryption limit reached (" ++
              toString certificateMaxDecryptsPerGrant ++
              "); acquire a new grant"))
        else if !(if decrypt then grant.mayDecrypt else grant.maySign) then
          .error (.pkcs11 .notSupported
            ("Grant does not permit " ++
              if decrypt then "decryption" else "signing"))
        else
          .ok candidate

/-- A mechanism with the payload that it makes of the data. -/
def parseOperation
    (candidate : CertificateCandidate) (decrypt : Bool)
    (operationId mechanismName : Option String)
    (parameters : Option Vardict) (data : Octets) :
    Except GError Operation := do
  let mechanism ←
    certificateMechanismParse mechanismName parameters candidate.keyType
      (UInt32.ofNat candidate.keySize) decrypt
  let payload ← certificateMechanismPrepare mechanism data
  return { decrypt, operationId, mechanism, payload }

/-- `certificate_broker_perform` up to `open_operation`. -/
def certificateBrokerPerform
    (session : XccSession Grant) (now : Int) (decrypt : Bool)
    (operationId mechanismName : Option String)
    (parameters : Option Vardict) (data : Octets) :
    Except OperationError (Operation × XccSession Grant) := do
  let candidate ← grantRefusal session now decrypt
  let operation ←
    (parseOperation candidate decrypt operationId mechanismName parameters
      data).mapError .io
  -- A failed attempt is charged too.
  let charged :=
    { session.rest with
      decryptCount :=
        session.rest.decryptCount + if decrypt then 1 else 0 }
  return (operation, { session with rest := charged })

/-- An attempt at a decryption is charged once. -/
theorem certificateBrokerPerform_charged
    {session charged : XccSession Grant} {now : Int} {decrypt : Bool}
    {operationId mechanismName : Option String}
    {parameters : Option Vardict} {data : Octets} {operation : Operation}
    (started : certificateBrokerPerform session now decrypt operationId
      mechanismName parameters data = .ok (operation, charged)) :
    charged.rest.decryptCount =
      session.rest.decryptCount + if decrypt then 1 else 0 := by
  simp only [certificateBrokerPerform, bind, Except.bind, pure,
    Except.pure] at started
  split at started
  · cases started
  split at started
  · cases started
  · cases started
    rfl

/-- `xcc_sign_start`; the code is that of a request completed at once. -/
def xccSignStart
    (world : World Grant) (request : XccSignRequest) (index : Nat)
    (session : XccSession Grant) (now : Int) :
    Except XccErrorCode (Operation × XccSession Grant) :=
  match (xccRequestValidate world request.toXccRequest index session).1 with
  | .ok =>
      (certificateBrokerPerform session now false request.operationId
        request.mechanism request.parameters request.input).mapError
        onOperationDone
  | error => .error error

end PortalCertificate.Broker.Operations
