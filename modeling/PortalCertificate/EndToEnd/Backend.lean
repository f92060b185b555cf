import PortalCertificate.EndToEnd.Tables

/-!
# What the backend makes of a forwarded request

The frontend forwards the mechanism name, the parameters and the data of a
request unchanged, so the backend's answer is a function of the request and
the key.  This file evaluates that function for the requests the module can
send.  The backend refuses them for the type or the size of the key only.
-/

namespace PortalCertificate.EndToEnd.Backend

open PortalCertificate.Broker.Mechanism
open PortalCertificate.EndToEnd.Tables
open PortalCertificate.Glib
open PortalCertificate.Library.Der (Octets)
open PortalCertificate.Library.DigestInfo
open PortalCertificate.Module.Mechanism (rsaV15 rsaPss ecdsa shaName)
open PortalCertificate.Module.Sign
open PortalCertificate.Pkcs11
open PortalCertificate.Pkcs11Signing

/-- Parsing and preparing a forwarded signing request. -/
def backendSign
    (request : SignRequest) (keyType : Option String) (keySize : UInt32) :
    Except GError TokenSignature :=
  match certificateMechanismParse (some request.mechanism)
      (some request.parameters) keyType keySize false with
  | .error error => .error error
  | .ok mechanism =>
      match certificateMechanismPrepare mechanism request.data with
      | .error error => .error error
      | .ok payload =>
          .ok ⟨certificateMechanismToCk mechanism, payload⟩

/--
The type and size of the key allow the signature: PKCS#1 v1.5 needs eleven
octets beside the payload, PSS needs the salt and two octets, and the
backend counts the whole octets of the modulus.
-/
def KeyAdmits
    (keyType : Option String) (keySize : UInt32)
    (signature : TokenSignature) : Prop :=
  match signature.mechanism.parameter with
  | .pss parameters =>
      keyType = some "RSA" ∧
        signature.payload.length + parameters.sLen.toNat + 2 ≤
          emLength keySize
  | _ =>
      if signature.mechanism.mechanism = ckmRsaPkcs then
        keyType = some "RSA" ∧
          signature.payload.length + 11 ≤ (keySize / 8).toNat
      else
        keyType = some "EC"

/-- The backend signs as told, or refuses because of the key. -/
def AnswersWith
    (signature : TokenSignature) (keyType : Option String)
    (keySize : UInt32) (answer : Except GError TokenSignature) : Prop :=
  (KeyAdmits keyType keySize signature ∧ answer = .ok signature) ∨
    (¬ KeyAdmits keyType keySize signature ∧
      ∃ error, answer = .error error)

/-! ## Requests of the module -/

/-- What is sent for a PKCS #1 v1.5 signature of a digest. -/
def rsaPkcsRequest (sha : Sha) (digest : Octets) : SignRequest where
  mechanism := rsaV15
  hash := some (shaName sha)
  mgf := none
  saltLength := none
  data := digest

/-- What is sent for a PSS signature of a digest. -/
def rsaPssRequest
    (sha : Sha) (saltLength : UInt32) (digest : Octets) : SignRequest where
  mechanism := rsaPss
  hash := some (shaName sha)
  mgf := some (shaMgfName sha)
  saltLength := some saltLength
  data := digest

/-- What is sent for an ECDSA signature of a digest. -/
def ecdsaRequest (sha : Sha) (digest : Octets) : SignRequest where
  mechanism := ecdsa
  hash := some (shaName sha)
  mgf := none
  saltLength := none
  data := digest

/-- The PSS parameters the backend hands to the token. -/
def pssParams (sha : Sha) (saltLength : UInt32) : CkRsaPkcsPssParams where
  hashAlg := sha.digestMechanism
  mgf := shaMgf sha
  sLen := saltLength.toUInt64

/-- Every parameter the module sends is in the backend's vocabulary. -/
theorem parametersAreKnown_request (request : SignRequest) :
    parametersAreKnown (some request.parameters) false = .ok () := by
  obtain ⟨mechanism, hash, mgf, saltLength, data⟩ := request
  cases hash <;> cases mgf <;> cases saltLength <;> rfl

/-- The module leaves the signature encoding at its default. -/
theorem parseEncoding_request (request : SignRequest) :
    parseEncoding (some request.parameters) = .ok .raw := by
  obtain ⟨mechanism, hash, mgf, saltLength, data⟩ := request
  cases hash <;> cases mgf <;> cases saltLength <;> rfl

theorem parseHash_request
    (request : SignRequest) (sha : Sha)
    (named : request.hash = some (shaName sha)) :
    parseHash (some request.parameters) = .ok (brokerHash sha) := by
  have found : lookupText request.parameters "hash" =
      some (shaName sha) := by
    simp [SignRequest.parameters, named, lookupText, lookupValue_cons]
  simp [parseHash, found]

private theorem parseMgf_request
    (sha : Sha) (saltLength : UInt32) (digest : Octets) :
    parseMgf (some (rsaPssRequest sha saltLength digest).parameters)
        (brokerHash sha) =
      .ok (brokerHash sha) := by
  have found :
      lookupString (some (rsaPssRequest sha saltLength digest).parameters)
          "mgf" =
        .ok (some (shaMgfName sha)) := by
    rfl
  simp [parseMgf, found]

private theorem parseSaltLength_request
    (sha : Sha) (saltLength : UInt32) (digest : Octets)
    (entry : HashEntry) :
    parseSaltLength
        (some (rsaPssRequest sha saltLength digest).parameters) entry =
      .ok saltLength := rfl

/-- An input of the expected length is only wrapped. -/
theorem certificateMechanismPrepare_ok
    {mechanism : CertificateMechanism} {digest : Octets}
    (length : digest.length = mechanism.expectedInput) :
    certificateMechanismPrepare mechanism digest =
      .ok (mechanism.digestInfo.getD [] ++ digest) := by
  rw [certificateMechanismPrepare, if_neg (fun bad => bad.2 length)]
  cases mechanism.digestInfo <;> rfl

private theorem parse_rsaPkcs
    (request : SignRequest) (keyType : Option String) (keySize : UInt32)
    (isRsaPkcs : request.mechanism = rsaV15) :
    certificateMechanismParse (some request.mechanism)
        (some request.parameters) keyType keySize false =
      parseRsaPkcs rsaV15 (some request.parameters)
        keyType keySize .raw := by
  simp only [certificateMechanismParse, parametersAreKnown_request,
    parseEncoding_request, isRsaPkcs]
  rfl

private theorem parse_rsaPss
    (request : SignRequest) (keyType : Option String) (keySize : UInt32)
    (isRsaPss : request.mechanism = rsaPss) :
    certificateMechanismParse (some request.mechanism)
        (some request.parameters) keyType keySize false =
      parseRsaPss rsaPss (some request.parameters)
        keyType keySize .raw := by
  simp only [certificateMechanismParse, parametersAreKnown_request,
    parseEncoding_request, isRsaPss]
  rfl

private theorem parse_ecdsa
    (request : SignRequest) (keyType : Option String) (keySize : UInt32)
    (isEcdsa : request.mechanism = ecdsa) :
    certificateMechanismParse (some request.mechanism)
        (some request.parameters) keyType keySize false =
      parseEcdsa ecdsa (some request.parameters) keyType .raw := by
  simp only [certificateMechanismParse, parametersAreKnown_request,
    parseEncoding_request, isEcdsa]
  rfl

private theorem backendSign_ok
    {request : SignRequest} {keyType : Option String} {keySize : UInt32}
    {mechanism : CertificateMechanism}
    (parsed :
      certificateMechanismParse (some request.mechanism)
          (some request.parameters) keyType keySize false =
        .ok mechanism)
    (length : request.data.length = mechanism.expectedInput) :
    backendSign request keyType keySize =
      .ok
        ⟨certificateMechanismToCk mechanism,
          mechanism.digestInfo.getD [] ++ request.data⟩ := by
  simp only [backendSign, parsed, certificateMechanismPrepare_ok length]

private theorem backendSign_error
    {request : SignRequest} {keyType : Option String} {keySize : UInt32}
    (refused : ∃ error,
      certificateMechanismParse (some request.mechanism)
          (some request.parameters) keyType keySize false =
        .error error) :
    ∃ error, backendSign request keyType keySize = .error error := by
  obtain ⟨error, parsed⟩ := refused
  exact ⟨error, by simp only [backendSign, parsed]⟩

/-- The backend wraps a digest as the module would, or refuses the key. -/
theorem backendSign_rsaPkcs
    (sha : Sha) {digest : Octets} (length : digest.length = sha.length)
    (keyType : Option String) (keySize : UInt32) :
    AnswersWith (rawRsaPkcs (digestInfo sha.oid .null digest))
      keyType keySize
      (backendSign (rsaPkcsRequest sha digest) keyType keySize) := by
  have payloadLength := brokerHash_digestInfo_length sha length
  have admits :
      KeyAdmits keyType keySize
          (rawRsaPkcs (digestInfo sha.oid .null digest)) ↔
        RsaPkcsKey keyType keySize (brokerHash sha).entry := by
    simp [KeyAdmits, RsaPkcsKey, rawRsaPkcs, ← payloadLength]
  have parsed := parse_rsaPkcs (rsaPkcsRequest sha digest)
    keyType keySize rfl
  have named := parseHash_request (rsaPkcsRequest sha digest) sha rfl
  by_cases key : RsaPkcsKey keyType keySize (brokerHash sha).entry
  · left
    refine ⟨admits.mpr key, ?_⟩
    rw [parseRsaPkcs_ok named key] at parsed
    rw [backendSign_ok parsed (by simpa [rsaPkcsRequest] using length)]
    exact congrArg
      (fun payload =>
        Except.ok (TokenSignature.mk ⟨ckmRsaPkcs, .null⟩ payload))
      (brokerHash_digestInfo sha length)
  · right
    refine ⟨fun allowed => key (admits.mp allowed), ?_⟩
    exact backendSign_error (parsed ▸ parseRsaPkcs_error named key)

/-- The backend pads a digest with the parameters of the request, or refuses
the key. -/
theorem backendSign_rsaPss
    (sha : Sha) (saltLength : UInt32) {digest : Octets}
    (length : digest.length = sha.length)
    (keyType : Option String) (keySize : UInt32) :
    AnswersWith (rawRsaPss (pssParams sha saltLength) digest)
      keyType keySize
      (backendSign (rsaPssRequest sha saltLength digest)
        keyType keySize) := by
  have admits :
      KeyAdmits keyType keySize
          (rawRsaPss (pssParams sha saltLength) digest) ↔
        RsaPssKey keyType keySize (brokerHash sha).entry saltLength := by
    simp [KeyAdmits, RsaPssKey, rawRsaPss, pssParams, length]
  have parsed := parse_rsaPss (rsaPssRequest sha saltLength digest)
    keyType keySize rfl
  have named :=
    parseHash_request (rsaPssRequest sha saltLength digest) sha rfl
  have mgf := parseMgf_request sha saltLength digest
  have salt := parseSaltLength_request sha saltLength digest
    (brokerHash sha).entry
  by_cases key :
      RsaPssKey keyType keySize (brokerHash sha).entry saltLength
  · left
    refine ⟨admits.mpr key, ?_⟩
    rw [parseRsaPss_ok named mgf salt key] at parsed
    rw [backendSign_ok parsed (by simpa [rsaPssRequest] using length)]
    simp [certificateMechanismToCk, rawRsaPss, pssParams, rsaPssRequest]
  · right
    refine ⟨fun allowed => key (admits.mp allowed), ?_⟩
    exact backendSign_error
      (parsed ▸ parseRsaPss_error named mgf salt key)

/-- The backend signs the digest as it is, or refuses the key. -/
theorem backendSign_ecdsa
    (sha : Sha) {digest : Octets} (length : digest.length = sha.length)
    (keyType : Option String) (keySize : UInt32) :
    AnswersWith (rawEcdsa digest) keyType keySize
      (backendSign (ecdsaRequest sha digest) keyType keySize) := by
  have parsed := parse_ecdsa (ecdsaRequest sha digest) keyType keySize rfl
  have named := parseHash_request (ecdsaRequest sha digest) sha rfl
  by_cases key : keyType = some "EC"
  · left
    refine ⟨key, ?_⟩
    rw [parseEcdsa_ok named key] at parsed
    rw [backendSign_ok parsed (by simpa [ecdsaRequest] using length)]
    rfl
  · right
    exact ⟨key, backendSign_error (parsed ▸ parseEcdsa_error key)⟩

end PortalCertificate.EndToEnd.Backend
