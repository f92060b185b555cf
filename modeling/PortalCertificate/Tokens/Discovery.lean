import PortalCertificate.Library.Der

/-!
# Tokens and certificates on tokens

`discovery.c` identifies a token by attributes that stay the same wherever
the token is inserted, and a certificate by its token, its digest and the
identifier of its key.  A token without a serial is not the same as any
token, not even as itself.
-/

namespace PortalCertificate.Tokens.Discovery

open PortalCertificate.Library.Der (Octets)

/-- The attributes of `CertificateToken` that do not change. -/
structure CertificateToken where
  label : Option String
  manufacturer : Option String
  model : Option String
  serial : Option String
  readerName : Option String
  protectedAuthenticationPath : Bool
  loginRequired : Bool
  deriving DecidableEq, Repr

/-- The token tells its serial number. -/
def CertificateToken.hasSerial (token : CertificateToken) : Bool :=
  token.serial.any fun serial => serial ≠ ""

/-- `certificate_token_same` for tokens that are there. -/
def certificateTokenSame (first second : CertificateToken) : Bool :=
  first.hasSerial && first.serial = second.serial &&
    first.label = second.label && first.model = second.model &&
    first.manufacturer = second.manufacturer

/-- `CertificateCandidate`. -/
structure CertificateCandidate where
  token : CertificateToken
  der : Octets
  ckaId : Option Octets
  certificateId : Option String
  issuerDer : Option Octets
  notBefore : Int
  notAfter : Int
  ekuOids : Option (List String)
  keyUsage : Option (List String)
  pivSlot : Option String
  keyType : String
  keySize : Nat
  keyCurve : Option String
  canSign : Bool
  canDecrypt : Bool
  supportedMechanisms : List String
  deriving DecidableEq, Repr

/-- `certificate_candidate_same` for candidates that are there. -/
def certificateCandidateSame (first second : CertificateCandidate) : Bool :=
  certificateTokenSame first.token second.token &&
    first.certificateId = second.certificateId &&
    first.ckaId.isSome && first.ckaId = second.ckaId

@[simp]
theorem certificateTokenSame_iff {first second : CertificateToken} :
    certificateTokenSame first second = true ↔
      first.hasSerial = true ∧ first.serial = second.serial ∧
        first.label = second.label ∧ first.model = second.model ∧
        first.manufacturer = second.manufacturer := by
  simp only [certificateTokenSame, Bool.and_eq_true, decide_eq_true_eq,
    and_assoc]

theorem certificateTokenSame_comm (first second : CertificateToken) :
    certificateTokenSame first second =
      certificateTokenSame second first := by
  rw [Bool.eq_iff_iff, certificateTokenSame_iff, certificateTokenSame_iff]
  constructor
  · rintro ⟨serial, same, rest⟩
    refine ⟨?_, same.symm, rest.1.symm, rest.2.1.symm, rest.2.2.symm⟩
    rwa [CertificateToken.hasSerial, ← same]
  · rintro ⟨serial, same, rest⟩
    refine ⟨?_, same.symm, rest.1.symm, rest.2.1.symm, rest.2.2.symm⟩
    rwa [CertificateToken.hasSerial, ← same]

theorem certificateTokenSame_trans
    {first second third : CertificateToken}
    (here : certificateTokenSame first second = true)
    (there : certificateTokenSame second third = true) :
    certificateTokenSame first third = true := by
  rw [certificateTokenSame_iff] at here there ⊢
  rcases here with ⟨serial, here⟩
  rcases there with ⟨-, there⟩
  exact ⟨serial, here.1.trans there.1, here.2.1.trans there.2.1,
    here.2.2.1.trans there.2.2.1, here.2.2.2.trans there.2.2.2⟩

/-- What makes two candidates the same. -/
theorem certificateCandidateSame_iff
    {first second : CertificateCandidate} :
    certificateCandidateSame first second = true ↔
      certificateTokenSame first.token second.token = true ∧
        first.certificateId = second.certificateId ∧
        first.ckaId.isSome = true ∧ first.ckaId = second.ckaId := by
  simp only [certificateCandidateSame, Bool.and_eq_true,
    decide_eq_true_eq, and_assoc]

theorem certificateCandidateSame_trans
    {first second third : CertificateCandidate}
    (here : certificateCandidateSame first second = true)
    (there : certificateCandidateSame second third = true) :
    certificateCandidateSame first third = true := by
  rw [certificateCandidateSame_iff] at here there ⊢
  rcases here with ⟨token, digest, present, key⟩
  rcases there with ⟨token', digest', -, key'⟩
  exact ⟨certificateTokenSame_trans token token', digest.trans digest',
    present, key.trans key'⟩

end PortalCertificate.Tokens.Discovery
