import PortalCertificate.Glib
import PortalCertificate.Tokens.Discovery

/-!
# Filters of certificates

`filter.c`.  The constraints of a filter are intersected, and an absent
constraint is none.  A filter with a constraint that is not understood is
refused as a whole.
-/

namespace PortalCertificate.Tokens.Filter

open PortalCertificate.Glib
open PortalCertificate.Library.Der (Octets)
open PortalCertificate.Tokens.Discovery

/-- `XccPurpose`; a number that is no purpose is told apart. -/
inductive CertificatePurpose where
  | clientAuth
  | signing
  | email
  | ssh
  | other (value : Nat)
  deriving DecidableEq, Repr

/-- A set of operations. -/
structure CertificateOperations where
  sign : Bool
  decrypt : Bool
  deriving DecidableEq, Repr

/-- No operation. -/
def operationNone : CertificateOperations := ⟨false, false⟩

/-- Signing, and nothing else. -/
def operationSign : CertificateOperations := ⟨true, false⟩

/-- Some operation is in both. -/
def CertificateOperations.meets
    (left right : CertificateOperations) : Bool :=
  (left.sign && right.sign) || (left.decrypt && right.decrypt)

/-- `CertificateFilter`. -/
@[ext]
structure CertificateFilter where
  purpose : CertificatePurpose
  operations : CertificateOperations
  issuers : Option (List Octets)
  keyUsage : Option (List String)
  ekuOids : Option (List String)
  keyAlgorithms : Option (List String)
  tokenLabel : Option String
  pivSlot : Option String
  deriving DecidableEq, Repr

/-! ## What a certificate allows -/

/-- The usage that stands for all. -/
def ekuAny : String := "2.5.29.37.0"
/-- The usage for client authentication. -/
def ekuClientAuth : String := "1.3.6.1.5.5.7.3.2"
/-- The usage for signed code. -/
def ekuCodeSigning : String := "1.3.6.1.5.5.7.3.3"
/-- The usage for mail. -/
def ekuEmailProtection : String := "1.3.6.1.5.5.7.3.4"
/-- The usage for a logon with a card. -/
def ekuSmartcardLogon : String := "1.3.6.1.4.1.311.20.2.2"

/-- `strv_has`. -/
def strvHas (strv : Option (List String)) (needle : String) : Bool :=
  strv.any fun texts => texts.contains needle

/-- `strv_has_ci`, which does not tell the cases of ASCII apart. -/
def strvHasCi (strv : Option (List String)) (needle : String) : Bool :=
  strv.any fun texts => texts.any fun text => asciiCaseEqual text needle

/-- `eku_unrestricted`. -/
def ekuUnrestricted (candidate : CertificateCandidate) : Bool :=
  candidate.ekuOids.isNone

/-- `eku_allows`. -/
def ekuAllows (candidate : CertificateCandidate) (oid : String) : Bool :=
  ekuUnrestricted candidate || strvHas candidate.ekuOids ekuAny ||
    strvHas candidate.ekuOids oid

/-- `key_usage_allows_signing`. -/
def keyUsageAllowsSigning (candidate : CertificateCandidate) : Bool :=
  candidate.keyUsage.isNone ||
    strvHas candidate.keyUsage "digital_signature" ||
    strvHas candidate.keyUsage "content_commitment"

/-- `key_usage_allows_decryption`. -/
def keyUsageAllowsDecryption (candidate : CertificateCandidate) : Bool :=
  candidate.keyUsage.isNone ||
    strvHas candidate.keyUsage "key_encipherment" ||
    strvHas candidate.keyUsage "data_encipherment"

/-- `candidate_signs`. -/
def candidateSigns (candidate : CertificateCandidate) : Bool :=
  candidate.canSign && keyUsageAllowsSigning candidate

/-- `candidate_decrypts`. -/
def candidateDecrypts (candidate : CertificateCandidate) : Bool :=
  candidate.canDecrypt && keyUsageAllowsDecryption candidate

/-- `certificate_purpose_operations`. -/
def certificatePurposeOperations
    (candidate : CertificateCandidate) (purpose : CertificatePurpose) :
    CertificateOperations :=
  match purpose with
  | .clientAuth =>
      if candidateSigns candidate && (ekuUnrestricted candidate ||
          ekuAllows candidate ekuClientAuth ||
          strvHas candidate.ekuOids ekuSmartcardLogon) then
        operationSign
      else
        operationNone
  | .signing =>
      if candidateSigns candidate && (ekuUnrestricted candidate ||
          strvHas candidate.ekuOids ekuAny ||
          strvHas candidate.ekuOids ekuCodeSigning ||
          strvHas candidate.ekuOids ekuEmailProtection ||
          strvHas candidate.ekuOids ekuClientAuth ||
          strvHas candidate.ekuOids ekuSmartcardLogon) then
        operationSign
      else
        operationNone
  | .email =>
      if ekuAllows candidate ekuEmailProtection then
        ⟨candidateSigns candidate, candidateDecrypts candidate⟩
      else
        operationNone
  | .ssh =>
      -- The raw key is used, whatever the certificate says.
      if candidate.canSign &&
          (candidate.keyType = "RSA" || candidate.keyType = "EC") then
        operationSign
      else
        operationNone
  | .other _ => operationNone

/-- `certificate_purpose_matches`. -/
def certificatePurposeMatches
    (candidate : CertificateCandidate) (purpose : CertificatePurpose)
    (permitted : CertificateOperations) : Bool :=
  (certificatePurposeOperations candidate purpose).meets permitted

/-! ## Matching -/

/-- `issuer_matches`; no issuer stands for any. -/
def issuerMatches
    (candidate : CertificateCandidate) (issuers : Option (List Octets)) :
    Bool :=
  match issuers with
  | none | some [] => true
  | some issuers =>
      candidate.issuerDer.any fun issuer => issuers.contains issuer

/-- Key types, supported mechanisms and prefixes of TLS schemes. -/
def keyAlgorithmMatches
    (candidate : CertificateCandidate) (algorithms : Option (List String)) :
    Bool :=
  match algorithms with
  | none | some [] => true
  | some algorithms =>
      algorithms.any fun wanted =>
        asciiCaseEqual wanted candidate.keyType ||
          strvHasCi (some candidate.supportedMechanisms) wanted ||
          (asciiCaseStarts wanted "rsa" && candidate.keyType = "RSA") ||
          ((asciiCaseStarts wanted "ecdsa" || asciiCaseStarts wanted "ec") &&
            candidate.keyType = "EC")

/-- An empty text is no constraint. -/
def textMatches (wanted : Option String) (value : Option String) : Bool :=
  match wanted with
  | none | some "" => true
  | some wanted => value = some wanted

/-- `certificate_filter_matches`. -/
def certificateFilterMatches
    (candidate : CertificateCandidate) (filter : CertificateFilter) : Bool :=
  certificatePurposeMatches candidate filter.purpose filter.operations &&
    issuerMatches candidate filter.issuers &&
    (filter.keyUsage.getD []).all (strvHasCi candidate.keyUsage) &&
    (filter.ekuOids.getD []).all (ekuAllows candidate) &&
    keyAlgorithmMatches candidate filter.keyAlgorithms &&
    textMatches filter.tokenLabel candidate.token.label &&
    textMatches filter.pivSlot candidate.pivSlot

/-- `certificate_candidate_is_expired`. -/
def certificateCandidateIsExpired
    (candidate : CertificateCandidate) (now : Int) : Bool :=
  0 < candidate.notAfter && candidate.notAfter < now

/-- `certificate_candidate_is_not_yet_valid`. -/
def certificateCandidateIsNotYetValid
    (candidate : CertificateCandidate) (now : Int) : Bool :=
  0 < candidate.notBefore && now < candidate.notBefore

/-- Currently valid certificates come first. -/
def certificateFilterApply
    (candidates : List CertificateCandidate) (filter : CertificateFilter)
    (now : Int) : List CertificateCandidate :=
  let matching := candidates.filter fun candidate =>
    certificateFilterMatches candidate filter
  let unusable (candidate : CertificateCandidate) : Bool :=
    certificateCandidateIsExpired candidate now ||
      certificateCandidateIsNotYetValid candidate now
  matching.filter (fun candidate => !unusable candidate) ++
    matching.filter unusable

/-- Applying a filter neither adds nor loses a matching candidate. -/
theorem mem_certificateFilterApply
    {candidates : List CertificateCandidate} {filter : CertificateFilter}
    {now : Int} {candidate : CertificateCandidate} :
    candidate ∈ certificateFilterApply candidates filter now ↔
      candidate ∈ candidates ∧
        certificateFilterMatches candidate filter = true := by
  simp only [certificateFilterApply, List.mem_append, List.mem_filter,
    Bool.not_eq_true', ← and_or_left]
  apply and_iff_left
  exact (Bool.eq_false_or_eq_true _).symm

/-! ## Filters of the wire -/

/-- The keys that a filter may have. -/
def filterKeys : List String :=
  ["issuers", "key_usage", "eku", "key_algorithms", "token_label",
    "piv_slot"]

/-- The slots that a filter may name. -/
def pivSlots : List String :=
  ["authentication", "signature", "key_management", "card_authentication"]

/-- The issuers that a filter names. -/
def parseIssuers (filter : Vardict) :
    Except GError (Option (List Octets)) :=
  match lookupValue filter "issuers" with
  | none => .ok none
  | some (.byteStrings issuers) => .ok (some issuers)
  | some _ =>
      .error (invalidArgument
        "certificate_filter.issuers must be an array of byte arrays")

/-- `strv_from_variant`. -/
def strvFromVariant (filter : Vardict) (key : String) :
    Except GError (Option (List String)) :=
  match lookupValue filter key with
  | none => .ok none
  | some (.strings texts) => .ok (some texts)
  | some _ =>
      .error (invalidArgument
        ("certificate_filter." ++ key ++ " must be an array of strings"))

/-- The label that a filter names. -/
def parseTokenLabel (filter : Vardict) : Except GError (Option String) :=
  match lookupValue filter "token_label" with
  | none => .ok none
  | some (.string text) => .ok (some text)
  | some _ =>
      .error (invalidArgument
        "certificate_filter.token_label must be a string")

/-- The slot that a filter names, which has to be one of PIV. -/
def parsePivSlot (filter : Vardict) : Except GError (Option String) :=
  match lookupValue filter "piv_slot" with
  | none => .ok none
  | some (.string text) =>
      if pivSlots.contains text then
        .ok (some text)
      else
        .error (invalidArgument
          ("certificate_filter.piv_slot '" ++ text ++
            "' is not a PIV slot"))
  | some _ =>
      .error (invalidArgument
        "certificate_filter.piv_slot must be a string")

/-- The constraints of a `certificate_filter` that is a dictionary. -/
def parseConstraints
    (filter : Vardict) (purpose : CertificatePurpose)
    (operations : CertificateOperations) :
    Except GError CertificateFilter :=
  match filter.find? fun entry => !filterKeys.contains entry.1 with
  | some entry =>
      .error (invalidArgument
        ("Unknown certificate_filter key '" ++ entry.1 ++ "'"))
  | none => do
      let issuers ← parseIssuers filter
      let keyUsage ← strvFromVariant filter "key_usage"
      let ekuOids ← strvFromVariant filter "eku"
      let keyAlgorithms ← strvFromVariant filter "key_algorithms"
      let tokenLabel ← parseTokenLabel filter
      let pivSlot ← parsePivSlot filter
      return { purpose, operations, issuers, keyUsage, ekuOids,
               keyAlgorithms, tokenLabel, pivSlot }

/-- `certificate_filter_parse`, without the fields that a failure leaves
behind. -/
def certificateFilterParse
    (options : Option Vardict) (purpose : CertificatePurpose)
    (operations : CertificateOperations) : Except GError CertificateFilter :=
  match options.bind fun options =>
      lookupValue options "certificate_filter" with
  | none =>
      .ok { purpose, operations, issuers := none, keyUsage := none
            ekuOids := none, keyAlgorithms := none, tokenLabel := none
            pivSlot := none }
  | some (.vardict filter) => parseConstraints filter purpose operations
  | some _ =>
      .error (invalidArgument "certificate_filter must be a vardict")

end PortalCertificate.Tokens.Filter
