import PortalCertificate.Broker.Operations
import PortalCertificate.Context.Requests

/-!
# Answers of the adapter

The part of `certificate-impl.c` that turns the results of the core into
dictionaries of the wire.  A refusal names its reason, and a cancelled
acquisition has no reason to name.
-/

namespace PortalCertificate.Adapter.Responses

open PortalCertificate.Broker.Operations (xccErrorWireName)
open PortalCertificate.Context.Requests
open PortalCertificate.Core.Coordinator (XccErrorCode)
open PortalCertificate.Glib
open PortalCertificate.Tokens.Discovery

/-! ## Response codes -/

/-- The response of a success. -/
def responseSuccess : Nat := 0

/-- The response of a cancellation. -/
def responseCancelled : Nat := 1

/-- The response of every other error. -/
def responseOther : Nat := 2

/-- `xcc_error_wire_response`. -/
def xccErrorWireResponse : XccErrorCode → Nat
  | .ok => responseSuccess
  | .cancelled => responseCancelled
  | _ => responseOther

/-- The response and the results of a method. -/
structure Answer where
  response : Nat
  results : Vardict

/-! ## Dictionaries -/

/-- Results without an entry. -/
def emptyResults : Vardict := []

/-- The results of an error, which name its code. -/
def errorResults (code : String) : Vardict := [("reason", .string code)]

/-- The name of an error; a success is not asked for its name. -/
def errorReason (error : XccErrorCode) : String :=
  (xccErrorWireName error).getD ""

/-- The answer to a call that is refused. -/
def refusal (code : String) : Answer := ⟨responseOther, errorResults code⟩

/-- The serial of the card is left out. -/
def tokenDisplayFor (token : CertificateToken) : Vardict :=
  [("label", .string (token.label.getD "")),
    ("manufacturer", .string (token.manufacturer.getD "")),
    ("model", .string (token.model.getD "")),
    ("reader", .string (token.readerName.getD "")),
    ("protected_authentication_path",
      .boolean token.protectedAuthenticationPath)]

/-- The curve of a key on an elliptic curve. -/
def curveEntry : Option String → Vardict
  | some curve => [("key_curve", .string curve)]
  | none => []

/-- The results of `AcquireCredential` for a chosen certificate. -/
def certificateImplAcquireResults
    (candidate : CertificateCandidate) (maySign : Bool) : Vardict :=
  [("certificate_der", .byteString candidate.der),
    ("chain_der", .byteStrings []),
    ("chain_status", .string "leaf_only"),
    ("token_display", .vardict (tokenDisplayFor candidate.token)),
    ("key_type", .string candidate.keyType),
    ("key_size", .uint32 (UInt32.ofNat candidate.keySize))] ++
  curveEntry candidate.keyCurve ++
  [("supported_mechanisms", .strings candidate.supportedMechanisms),
    ("permitted_operations",
      .strings (if maySign && candidate.canSign then ["sign"] else [])),
    ("may_prompt_later", .boolean true)]

/-! ## The callbacks of the core -/

/-- The results of a success. -/
def successResults (kind : XccResultKind) (result : XccResult) : Vardict :=
  match kind with
  | .acquire =>
      match result.candidate with
      | some candidate =>
          certificateImplAcquireResults candidate result.maySign
      | none => emptyResults
  | _ => [("signature", .byteString (result.signature.getD []))]

/-- What `core_done` answers, when the adapter may have cancelled the
transaction. -/
def coreAnswer
    (kind : XccResultKind) (cancelledCode : Option String)
    (result : XccResult) : Answer :=
  match cancelledCode with
  | some code => refusal code
  | none =>
      if result.error = .ok then
        ⟨responseSuccess, successResults kind result⟩
      else if result.error = .cancelled && kind = .acquire then
        ⟨xccErrorWireResponse result.error, emptyResults⟩
      else
        ⟨xccErrorWireResponse result.error,
          errorResults (errorReason result.error)⟩

/-- What `on_capabilities` answers. -/
def capabilitiesResults
    (mechanisms : List String) (protectedPath hasDisplay : Bool) : Vardict :=
  [("purposes", .strings ["client_auth", "signing", "email", "ssh"]),
    ("operations", .strings ["sign"]),
    ("mechanisms", .strings mechanisms),
    ("protected_authentication_path", .boolean protectedPath),
    ("has_display", .boolean hasDisplay)]

/-- The response is that of a success only for one. -/
theorem response_coreAnswer {kind : XccResultKind} {result : XccResult}
    {cancelledCode : Option String}
    (success : (coreAnswer kind cancelledCode result).response =
      responseSuccess) :
    cancelledCode = none ∧ result.error = .ok := by
  cases cancelledCode with
  | some code => cases success
  | none =>
      refine ⟨rfl, ?_⟩
      by_contra bad
      have wire : xccErrorWireResponse result.error = responseSuccess := by
        rw [coreAnswer] at success
        simp only [if_neg bad] at success
        split_ifs at success <;> exact success
      revert bad wire
      cases result.error <;> simp [xccErrorWireResponse, responseSuccess,
        responseCancelled, responseOther]

end PortalCertificate.Adapter.Responses
