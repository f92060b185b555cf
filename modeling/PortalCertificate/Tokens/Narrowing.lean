import PortalCertificate.Tokens.Filter

/-!
# Filters narrow

A filter with more constraints matches fewer certificates, and a certificate
with fewer restrictions is good for more.  An absent list of a filter asks
for nothing and an empty one neither; an absent list of a certificate allows
everything and an empty one nothing.

The matching certificates are returned in two groups, and each group keeps
the order of discovery.
-/

namespace PortalCertificate.Tokens.Narrowing

open PortalCertificate.Tokens.Discovery
open PortalCertificate.Tokens.Filter

/-! ## More constraints -/

/-- The second filter is the first one with further constraints. -/
structure Constrains (first second : CertificateFilter) : Prop where
  purpose : second.purpose = first.purpose
  operations : second.operations = first.operations
  issuers : first.issuers.getD [] = [] ∨ second.issuers = first.issuers
  keyUsage : first.keyUsage.getD [] ⊆ second.keyUsage.getD []
  ekuOids : first.ekuOids.getD [] ⊆ second.ekuOids.getD []
  keyAlgorithms :
    first.keyAlgorithms.getD [] = [] ∨
      second.keyAlgorithms = first.keyAlgorithms
  tokenLabel :
    first.tokenLabel.getD "" = "" ∨ second.tokenLabel = first.tokenLabel
  pivSlot : first.pivSlot.getD "" = "" ∨ second.pivSlot = first.pivSlot

theorem issuerMatches_unasked
    {issuers : Option (List Library.Der.Octets)}
    (unasked : issuers.getD [] = []) (candidate : CertificateCandidate) :
    issuerMatches candidate issuers = true := by
  cases issuers with
  | none => rfl
  | some issuers =>
      cases unasked
      rfl

theorem keyAlgorithmMatches_unasked
    {algorithms : Option (List String)} (unasked : algorithms.getD [] = [])
    (candidate : CertificateCandidate) :
    keyAlgorithmMatches candidate algorithms = true := by
  cases algorithms with
  | none => rfl
  | some algorithms =>
      cases unasked
      rfl

theorem textMatches_unasked
    {wanted : Option String} (unasked : wanted.getD "" = "")
    (value : Option String) : textMatches wanted value = true := by
  cases wanted with
  | none => rfl
  | some wanted =>
      cases unasked
      rfl

/-- What the filter asks of a candidate. -/
theorem certificateFilterMatches_iff
    {candidate : CertificateCandidate} {filter : CertificateFilter} :
    certificateFilterMatches candidate filter = true ↔
      certificatePurposeMatches candidate filter.purpose
          filter.operations = true ∧
        issuerMatches candidate filter.issuers = true ∧
        (∀ usage ∈ filter.keyUsage.getD [],
          strvHasCi candidate.keyUsage usage = true) ∧
        (∀ oid ∈ filter.ekuOids.getD [],
          ekuAllows candidate oid = true) ∧
        keyAlgorithmMatches candidate filter.keyAlgorithms = true ∧
        textMatches filter.tokenLabel candidate.token.label = true ∧
        textMatches filter.pivSlot candidate.pivSlot = true := by
  simp only [certificateFilterMatches, Bool.and_eq_true, List.all_eq_true,
    and_assoc]

/-- What fits the narrower filter fits the wider one. -/
theorem Constrains.matches
    {first second : CertificateFilter} (constrains : Constrains first second)
    {candidate : CertificateCandidate}
    (fits : certificateFilterMatches candidate second = true) :
    certificateFilterMatches candidate first = true := by
  rw [certificateFilterMatches_iff] at fits ⊢
  rcases fits with
    ⟨purpose, issuers, keyUsage, ekuOids, algorithms, label, slot⟩
  rw [constrains.purpose, constrains.operations] at purpose
  refine ⟨purpose, ?_, ?_, ?_, ?_, ?_, ?_⟩
  · rcases constrains.issuers with unasked | same
    · exact issuerMatches_unasked unasked candidate
    · rwa [← same]
  · exact fun usage member => keyUsage usage (constrains.keyUsage member)
  · exact fun oid member => ekuOids oid (constrains.ekuOids member)
  · rcases constrains.keyAlgorithms with unasked | same
    · exact keyAlgorithmMatches_unasked unasked candidate
    · rwa [← same]
  · rcases constrains.tokenLabel with unasked | same
    · exact textMatches_unasked unasked _
    · rwa [← same]
  · rcases constrains.pivSlot with unasked | same
    · exact textMatches_unasked unasked _
    · rwa [← same]

/-! ## Fewer restrictions -/

/-- A list of a certificate is absent now, or has only grown. -/
def Relaxes (first second : Option (List String)) : Prop :=
  ∀ wider ∈ second, ∃ narrower ∈ first, narrower ⊆ wider

/-- The second certificate has weaker restrictions of its key usage and of
its extended key usage. -/
structure Unrestricts (first second : CertificateCandidate) : Prop where
  keyUsage : Relaxes first.keyUsage second.keyUsage
  ekuOids : Relaxes first.ekuOids second.ekuOids
  else_same : second =
    { first with keyUsage := second.keyUsage, ekuOids := second.ekuOids }

theorem Relaxes.isNone
    {first second : Option (List String)} (relaxes : Relaxes first second)
    (free : first.isNone = true) : second.isNone = true := by
  cases second with
  | none => rfl
  | some wider =>
      rcases relaxes wider rfl with ⟨narrower, present, -⟩
      cases present
      cases free

/-- What is allowed by a restriction is allowed by a weaker one. -/
theorem Relaxes.has
    {first second : Option (List String)} (relaxes : Relaxes first second)
    {needle : String} (has : strvHas first needle = true) :
    second.isNone = true ∨ strvHas second needle = true := by
  cases second with
  | none => exact .inl rfl
  | some wider =>
      right
      rcases relaxes wider rfl with ⟨narrower, present, grows⟩
      cases present
      simp only [strvHas, Option.any_some, List.contains_iff_mem] at has ⊢
      exact grows has

section Unrestricts

variable {first second : CertificateCandidate}

theorem Unrestricts.signs
    (unrestricts : Unrestricts first second)
    (signs : candidateSigns first = true) :
    candidateSigns second = true := by
  have able : second.canSign = first.canSign := by
    rw [unrestricts.else_same]
  simp only [candidateSigns, keyUsageAllowsSigning, able,
    Bool.and_eq_true, Bool.or_eq_true] at signs ⊢
  refine ⟨signs.1, ?_⟩
  rcases signs.2 with (free | has) | has
  · exact .inl (.inl (unrestricts.keyUsage.isNone free))
  · rcases unrestricts.keyUsage.has has with free | has
    · exact .inl (.inl free)
    · exact .inl (.inr has)
  · rcases unrestricts.keyUsage.has has with free | has
    · exact .inl (.inl free)
    · exact .inr has

theorem Unrestricts.decrypts
    (unrestricts : Unrestricts first second)
    (decrypts : candidateDecrypts first = true) :
    candidateDecrypts second = true := by
  have able : second.canDecrypt = first.canDecrypt := by
    rw [unrestricts.else_same]
  simp only [candidateDecrypts, keyUsageAllowsDecryption, able,
    Bool.and_eq_true, Bool.or_eq_true] at decrypts ⊢
  refine ⟨decrypts.1, ?_⟩
  rcases decrypts.2 with (free | has) | has
  · exact .inl (.inl (unrestricts.keyUsage.isNone free))
  · rcases unrestricts.keyUsage.has has with free | has
    · exact .inl (.inl free)
    · exact .inl (.inr has)
  · rcases unrestricts.keyUsage.has has with free | has
    · exact .inl (.inl free)
    · exact .inr has

theorem Unrestricts.freeEku
    (unrestricts : Unrestricts first second)
    (free : ekuUnrestricted first = true) :
    ekuUnrestricted second = true :=
  unrestricts.ekuOids.isNone free

theorem Unrestricts.hasEku
    (unrestricts : Unrestricts first second) {oid : String}
    (has : strvHas first.ekuOids oid = true) :
    ekuUnrestricted second = true ∨
      strvHas second.ekuOids oid = true :=
  unrestricts.ekuOids.has has

theorem Unrestricts.allows
    (unrestricts : Unrestricts first second) {oid : String}
    (allows : ekuAllows first oid = true) :
    ekuAllows second oid = true := by
  simp only [ekuAllows, Bool.or_eq_true] at allows ⊢
  rcases allows with (free | any) | named
  · exact .inl (.inl (unrestricts.freeEku free))
  · rcases unrestricts.hasEku any with free | any
    · exact .inl (.inl free)
    · exact .inl (.inr any)
  · rcases unrestricts.hasEku named with free | named
    · exact .inl (.inl free)
    · exact .inr named

end Unrestricts

/-! ## The operations of a purpose -/

/-- The extended usages with which client authentication is allowed. -/
def clientUsages (candidate : CertificateCandidate) : Prop :=
  ekuUnrestricted candidate = true ∨
    ekuAllows candidate ekuClientAuth = true ∨
    strvHas candidate.ekuOids ekuSmartcardLogon = true

/-- The extended usages with which signing is allowed. -/
def signingUsages (candidate : CertificateCandidate) : Prop :=
  ekuUnrestricted candidate = true ∨
    ∃ oid ∈ [ekuAny, ekuCodeSigning, ekuEmailProtection, ekuClientAuth,
        ekuSmartcardLogon],
      strvHas candidate.ekuOids oid = true

theorem clientAuth_sign_iff {candidate : CertificateCandidate} :
    (certificatePurposeOperations candidate .clientAuth).sign = true ↔
      candidateSigns candidate = true ∧ clientUsages candidate := by
  simp only [certificatePurposeOperations, clientUsages]
  split
  next holds =>
    simp only [Bool.and_eq_true, Bool.or_eq_true, or_assoc] at holds
    simpa [operationSign] using holds
  next fails =>
    simp only [Bool.and_eq_true, Bool.or_eq_true, or_assoc] at fails
    simpa [operationNone] using fails

theorem signing_sign_iff {candidate : CertificateCandidate} :
    (certificatePurposeOperations candidate .signing).sign = true ↔
      candidateSigns candidate = true ∧ signingUsages candidate := by
  simp only [certificatePurposeOperations, signingUsages,
    List.exists_mem_cons_iff, List.not_mem_nil, false_and, exists_false,
    or_false]
  split
  next holds =>
    simp only [Bool.and_eq_true, Bool.or_eq_true, or_assoc] at holds
    simpa [operationSign] using holds
  next fails =>
    simp only [Bool.and_eq_true, Bool.or_eq_true, or_assoc] at fails
    simpa [operationNone] using fails

theorem email_operations_iff {candidate : CertificateCandidate} :
    ((certificatePurposeOperations candidate .email).sign = true ↔
        ekuAllows candidate ekuEmailProtection = true ∧
          candidateSigns candidate = true) ∧
      ((certificatePurposeOperations candidate .email).decrypt = true ↔
        ekuAllows candidate ekuEmailProtection = true ∧
          candidateDecrypts candidate = true) := by
  simp only [certificatePurposeOperations]
  split
  next allows => simp [allows]
  next refuses => simp [refuses, operationNone]

/-- Only a purpose of mail ever asks for a decryption. -/
theorem decrypt_email
    {candidate : CertificateCandidate} {purpose : CertificatePurpose}
    (decrypt :
      (certificatePurposeOperations candidate purpose).decrypt = true) :
    purpose = .email := by
  cases purpose with
  | email => rfl
  | clientAuth =>
      simp only [certificatePurposeOperations] at decrypt
      split at decrypt
      · cases decrypt
      · cases decrypt
  | signing =>
      simp only [certificatePurposeOperations] at decrypt
      split at decrypt
      · cases decrypt
      · cases decrypt
  | ssh =>
      simp only [certificatePurposeOperations] at decrypt
      split at decrypt
      · cases decrypt
      · cases decrypt
  | other value => cases decrypt

theorem canSign_of_sign
    {candidate : CertificateCandidate} {purpose : CertificatePurpose}
    (sign : (certificatePurposeOperations candidate purpose).sign = true) :
    candidate.canSign = true := by
  have able (signs : candidateSigns candidate = true) :
      candidate.canSign = true := by
    simp only [candidateSigns, Bool.and_eq_true] at signs
    exact signs.1
  cases purpose with
  | clientAuth => exact able (clientAuth_sign_iff.mp sign).1
  | signing => exact able (signing_sign_iff.mp sign).1
  | email => exact able (email_operations_iff.1.mp sign).2
  | ssh =>
      simp only [certificatePurposeOperations] at sign
      split at sign
      next holds =>
        simp only [Bool.and_eq_true] at holds
        exact holds.1
      next => cases sign
  | other value => cases sign

theorem canDecrypt_of_decrypt
    {candidate : CertificateCandidate} {purpose : CertificatePurpose}
    (decrypt :
      (certificatePurposeOperations candidate purpose).decrypt = true) :
    candidate.canDecrypt = true := by
  cases decrypt_email decrypt
  have decrypts := (email_operations_iff.2.mp decrypt).2
  simp only [candidateDecrypts, Bool.and_eq_true] at decrypts
  exact decrypts.1

section Unrestricts

variable {first second : CertificateCandidate}

theorem Unrestricts.client
    (unrestricts : Unrestricts first second)
    (allowed : clientUsages first) : clientUsages second := by
  rcases allowed with free | client | logon
  · exact .inl (unrestricts.freeEku free)
  · exact .inr (.inl (unrestricts.allows client))
  · rcases unrestricts.hasEku logon with free | logon
    · exact .inl free
    · exact .inr (.inr logon)

theorem Unrestricts.signing
    (unrestricts : Unrestricts first second)
    (allowed : signingUsages first) : signingUsages second := by
  rcases allowed with free | ⟨oid, listed, has⟩
  · exact .inl (unrestricts.freeEku free)
  · rcases unrestricts.hasEku has with free | has
    · exact .inl free
    · exact .inr ⟨oid, listed, has⟩

theorem Unrestricts.ssh
    (unrestricts : Unrestricts first second) :
    certificatePurposeOperations second .ssh =
      certificatePurposeOperations first .ssh := by
  have able : second.canSign = first.canSign := by
    rw [unrestricts.else_same]
  have type : second.keyType = first.keyType := by
    rw [unrestricts.else_same]
  simp only [certificatePurposeOperations, able, type]

theorem Unrestricts.sign
    (unrestricts : Unrestricts first second) {purpose : CertificatePurpose}
    (sign : (certificatePurposeOperations first purpose).sign = true) :
    (certificatePurposeOperations second purpose).sign = true := by
  cases purpose with
  | clientAuth =>
      rcases clientAuth_sign_iff.mp sign with ⟨signs, allowed⟩
      apply clientAuth_sign_iff.mpr
      constructor
      · exact unrestricts.signs signs
      · exact unrestricts.client allowed
  | signing =>
      rcases signing_sign_iff.mp sign with ⟨signs, allowed⟩
      apply signing_sign_iff.mpr
      constructor
      · exact unrestricts.signs signs
      · exact unrestricts.signing allowed
  | email =>
      rcases email_operations_iff.1.mp sign with ⟨allows, signs⟩
      apply email_operations_iff.1.mpr
      constructor
      · exact unrestricts.allows allows
      · exact unrestricts.signs signs
  | ssh =>
      rw [unrestricts.ssh]
      exact sign
  | other value => cases sign

theorem Unrestricts.decrypt
    (unrestricts : Unrestricts first second) {purpose : CertificatePurpose}
    (decrypt :
      (certificatePurposeOperations first purpose).decrypt = true) :
    (certificatePurposeOperations second purpose).decrypt = true := by
  cases decrypt_email decrypt
  rcases email_operations_iff.2.mp decrypt with ⟨allows, decrypts⟩
  apply email_operations_iff.2.mpr
  constructor
  · exact unrestricts.allows allows
  · exact unrestricts.decrypts decrypts

end Unrestricts

/-! ## Two groups -/

/-- The two arrays of `certificate_filter_apply`. -/
structure Groups where
  usable : List CertificateCandidate
  unusable : List CertificateCandidate

/-- The certificate has expired, or is not valid yet. -/
def outsideValidity (now : Int) (candidate : CertificateCandidate) : Bool :=
  certificateCandidateIsExpired candidate now ||
    certificateCandidateIsNotYetValid candidate now

/-- The body of the loop over the candidates. -/
def Groups.add
    (filter : CertificateFilter) (now : Int) (groups : Groups)
    (candidate : CertificateCandidate) : Groups :=
  if !certificateFilterMatches candidate filter then
    groups
  else if outsideValidity now candidate then
    { groups with unusable := groups.unusable ++ [candidate] }
  else
    { groups with usable := groups.usable ++ [candidate] }

/-- `certificate_filter_apply` with its loops. -/
def filterApplyLoops
    (candidates : List CertificateCandidate) (filter : CertificateFilter)
    (now : Int) : List CertificateCandidate :=
  let groups := candidates.foldl (Groups.add filter now) ⟨[], []⟩
  groups.unusable.foldl (fun usable candidate => usable ++ [candidate])
    groups.usable

theorem foldl_snoc {α : Type} (first second : List α) :
    second.foldl (fun list element => list ++ [element]) first =
      first ++ second := by
  induction second generalizing first with
  | nil => rw [List.foldl_nil, List.append_nil]
  | cons element second step =>
      rw [List.foldl_cons, step, List.append_assoc]
      rfl

theorem foldl_add
    (filter : CertificateFilter) (now : Int)
    (candidates : List CertificateCandidate) (groups : Groups) :
    candidates.foldl (Groups.add filter now) groups =
      { usable := groups.usable ++
          (candidates.filter fun candidate =>
            certificateFilterMatches candidate filter).filter
              fun candidate => !outsideValidity now candidate
        unusable := groups.unusable ++
          (candidates.filter fun candidate =>
            certificateFilterMatches candidate filter).filter
              (outsideValidity now) } := by
  induction candidates generalizing groups with
  | nil => simp
  | cons candidate candidates step =>
      rw [List.foldl_cons, step, Groups.add]
      cases fits : certificateFilterMatches candidate filter with
      | false => simp [fits]
      | true =>
          cases late : outsideValidity now candidate with
          | false => simp [fits, late]
          | true => simp [fits, late]

/-- The loops compute what the model says. -/
theorem filterApplyLoops_eq
    (candidates : List CertificateCandidate) (filter : CertificateFilter)
    (now : Int) :
    filterApplyLoops candidates filter now =
      certificateFilterApply candidates filter now := by
  rw [filterApplyLoops, foldl_snoc, foldl_add]
  rfl

/-- What is returned for candidates: exactly the matching ones, each once,
the valid ones first and either group in the order of the candidates. -/
structure Arranged
    (candidates : List CertificateCandidate) (filter : CertificateFilter)
    (now : Int) (result usable unusable : List CertificateCandidate) :
    Prop where
  result_eq : result = usable ++ unusable
  usable_ordered : usable.Sublist candidates
  unusable_ordered : unusable.Sublist candidates
  usable_valid : ∀ candidate ∈ usable,
    certificateCandidateIsExpired candidate now = false ∧
      certificateCandidateIsNotYetValid candidate now = false
  unusable_invalid : ∀ candidate ∈ unusable,
    certificateCandidateIsExpired candidate now = true ∨
      certificateCandidateIsNotYetValid candidate now = true
  matching : result.Perm (candidates.filter fun candidate =>
    certificateFilterMatches candidate filter)

theorem certificateFilterApply_arranged
    (candidates : List CertificateCandidate) (filter : CertificateFilter)
    (now : Int) :
    ∃ usable unusable,
      Arranged candidates filter now
        (filterApplyLoops candidates filter now) usable unusable := by
  rw [filterApplyLoops_eq]
  refine ⟨_, _, rfl, ?_, ?_, ?_, ?_, ?_⟩
  · exact List.filter_sublist.trans List.filter_sublist
  · exact List.filter_sublist.trans List.filter_sublist
  · intro candidate member
    simpa using (List.mem_filter.mp member).2
  · intro candidate member
    simpa using (List.mem_filter.mp member).2
  · exact List.perm_append_comm.trans (List.filter_append_perm _ _)

/-- Further constraints only narrow, the operations of a purpose are those
of the key, a weaker restriction removes none of them, and the matching
candidates are returned in order. -/
theorem filtering_narrows :
    (∀ first second candidate, Constrains first second →
        certificateFilterMatches candidate second = true →
        certificateFilterMatches candidate first = true) ∧
      (∀ candidate purpose,
        ((certificatePurposeOperations candidate purpose).sign = true →
          candidate.canSign = true) ∧
        ((certificatePurposeOperations candidate purpose).decrypt = true →
          candidate.canDecrypt = true)) ∧
      (∀ first second purpose, Unrestricts first second →
        ((certificatePurposeOperations first purpose).sign = true →
          (certificatePurposeOperations second purpose).sign = true) ∧
        ((certificatePurposeOperations first purpose).decrypt = true →
          (certificatePurposeOperations second purpose).decrypt = true)) ∧
      ∀ candidates filter now, ∃ usable unusable,
        Arranged candidates filter now
          (filterApplyLoops candidates filter now) usable unusable := by
  refine ⟨?_, ?_, ?_, ?_⟩
  · intro first second candidate constrains fits
    exact constrains.matches fits
  · intro candidate purpose
    exact ⟨canSign_of_sign, canDecrypt_of_decrypt⟩
  · intro first second purpose unrestricts
    exact ⟨unrestricts.sign, unrestricts.decrypt⟩
  · exact certificateFilterApply_arranged

/-! ## A certificate for email -/

/-- A certificate for email that may sign and decipher. -/
def emailCandidate : CertificateCandidate where
  token :=
    { label := some "Card", manufacturer := none, model := none
      serial := some "1", readerName := none
      protectedAuthenticationPath := false, loginRequired := true }
  der := []
  ckaId := some [1]
  certificateId := none
  issuerDer := some [0x30, 0x00]
  notBefore := 0
  notAfter := 0
  ekuOids := some [ekuEmailProtection]
  keyUsage := some ["digital_signature", "key_encipherment"]
  pivSlot := some "signature"
  keyType := "RSA"
  keySize := 2048
  keyCurve := none
  canSign := true
  canDecrypt := true
  supportedMechanisms := ["RSA_PKCS"]

/-- The filter asks for one usage of the key. -/
def emailFilter : CertificateFilter where
  purpose := .email
  operations := ⟨true, true⟩
  issuers := none
  keyUsage := some ["digital_signature"]
  ekuOids := none
  keyAlgorithms := some []
  tokenLabel := some ""
  pivSlot := none

/-- The filter asks for more in every place. -/
def narrowFilter : CertificateFilter :=
  { emailFilter with
    issuers := some [[0x30, 0x00], [0x05]]
    keyUsage := some ["key_encipherment", "digital_signature"]
    ekuOids := some [ekuEmailProtection]
    keyAlgorithms := some ["rsa_pss_rsae_sha256"]
    tokenLabel := some "Card"
    pivSlot := some "signature" }

theorem constrains_narrowFilter : Constrains emailFilter narrowFilter where
  purpose := rfl
  operations := rfl
  issuers := .inl rfl
  keyUsage := by decide
  ekuOids := by decide
  keyAlgorithms := .inl rfl
  tokenLabel := .inl rfl
  pivSlot := .inl rfl

/-- The certificate without any restriction. -/
def freeCandidate : CertificateCandidate :=
  { emailCandidate with ekuOids := none, keyUsage := none }

/-- What the narrow filter matches is matched by the other one, and the
certificate keeps its operations without its restrictions. -/
theorem filtering_narrows_email :
    certificateFilterMatches emailCandidate narrowFilter = true ∧
      certificateFilterMatches emailCandidate emailFilter = true ∧
      certificatePurposeOperations emailCandidate .email = ⟨true, true⟩ ∧
      (certificatePurposeOperations freeCandidate .email).sign = true ∧
      (certificatePurposeOperations freeCandidate .email).decrypt = true := by
  have narrow : certificateFilterMatches emailCandidate narrowFilter =
      true := by decide
  have unrestricts : Unrestricts emailCandidate freeCandidate := by
    refine ⟨?_, ?_, rfl⟩
    · intro wider present
      cases present
    · intro wider present
      cases present
  have operations : certificatePurposeOperations emailCandidate .email =
      ⟨true, true⟩ := by decide
  rcases filtering_narrows with ⟨narrows, -, keeps, -⟩
  have kept := keeps _ _ .email unrestricts
  rw [operations] at kept
  refine ⟨narrow, ?_, operations, kept.1 rfl, kept.2 rfl⟩
  exact narrows _ _ _ constrains_narrowFilter narrow

end PortalCertificate.Tokens.Narrowing
