import PortalCertificate.EndToEnd.Signing

/-!
# DigestInfo from the application to the token

An application passes a DigestInfo to `CKM_RSA_PKCS`.  The module takes it
apart, and the backend builds a DigestInfo again from the hash name and the
digest.

Building and then parsing gives the hash and the digest back.  Parsing and
then building gives the application's octets back when they carry `NULL`
parameters.  The parser also accepts an algorithm identifier without
parameters, and the backend then signs the encoding with `NULL`.
-/

namespace PortalCertificate.EndToEnd.DigestInfo

open PortalCertificate.Broker.Mechanism
open PortalCertificate.EndToEnd.Backend
open PortalCertificate.EndToEnd.Signing
open PortalCertificate.EndToEnd.Tables
open PortalCertificate.Glib
open PortalCertificate.Gnutls (HashFunctions constantHashes)
open PortalCertificate.Library.Der
open PortalCertificate.Library.DigestInfo
open PortalCertificate.Module.Mechanism (portalDigestinfoParse shaName
  portalDigestinfoParse_sound portalDigestinfoParse_complete rsaV15)
open PortalCertificate.Module.Session
open PortalCertificate.Module.Sign
open PortalCertificate.Pkcs11
open PortalCertificate.Pkcs11Signing

/-! ## The two forms -/

/-- The two encodings of a digest differ in their length octets. -/
theorem digestInfo_null_ne_absent
    (sha : Sha) {digest : Octets} (length : digest.length = sha.length) :
    digestInfo sha.oid .null digest ≠ digestInfo sha.oid .absent digest := by
  cases sha <;>
    simp only [Sha.length] at length <;>
    simp [digestInfo, digestInfoItem, algorithmItem, algorithmParts,
      oidItem, nullItem, octetStringItem, Tlv.constructed, Tlv.encode,
      lengthOctets, Sha.oid, length]

theorem digestInfo_null_eq_iff
    (sha : Sha) (parameters : Parameters) {digest : Octets}
    (length : digest.length = sha.length) :
    digestInfo sha.oid .null digest =
        digestInfo sha.oid parameters digest ↔
      parameters = .null := by
  cases parameters with
  | null => simp
  | absent => simp [digestInfo_null_ne_absent sha length]

/-! ## Building, then parsing -/

private theorem parse_digestInfo
    (sha : Sha) (parameters : Parameters) {digest : Octets}
    (length : digest.length = sha.length) :
    portalDigestinfoParse (digestInfo sha.oid parameters digest) =
      some (shaName sha, digest) :=
  portalDigestinfoParse_complete
    ((mem_moduleHashTable_iff (moduleEntry sha)).mpr ⟨sha, rfl⟩)
    parameters length

/-- A mechanism parsed for PKCS#1 v1.5 carries the entry of its hash. -/
private theorem rsaPkcs_parsed
    {parameters : Option Vardict} {keyType : Option String}
    {keySize : UInt32} {mechanism : CertificateMechanism}
    (parsed :
      certificateMechanismParse (some rsaV15) parameters keyType keySize
          false =
        .ok mechanism) :
    ∃ sha : Sha, mechanism.hash = (brokerHash sha).val ∧
      mechanism.expectedInput = sha.length ∧
      mechanism.digestInfo = some (brokerHash sha).entry.digestInfo := by
  simp only [certificateMechanismParse] at parsed
  cases known : parametersAreKnown parameters false with
  | error error => simp [known, bind, Except.bind] at parsed
  | ok _ =>
      cases encoded : parseEncoding parameters with
      | error error => simp [known, encoded, bind, Except.bind] at parsed
      | ok encoding =>
          have branch :
              parseRsaPkcs rsaV15 parameters keyType keySize encoding =
                .ok mechanism := by
            simpa [known, encoded, bind, Except.bind, rsaV15] using parsed
          cases named : parseHash parameters with
          | error error =>
              by_cases rsa : keyType = some "RSA" <;>
                simp [parseRsaPkcs, named, rsa, bind, Except.bind, throw,
                  throwThe, MonadExceptOf.throw] at branch
          | ok hash =>
              by_cases key : RsaPkcsKey keyType keySize hash.entry
              · rw [parseRsaPkcs_ok named key] at branch
                obtain rfl := Except.ok.inj branch
                obtain ⟨sha, rfl⟩ := brokerHash_surjective hash
                exact ⟨sha, rfl, brokerHash_entry_length sha, rfl⟩
              · obtain ⟨error, refused⟩ :=
                  parseRsaPkcs_error named key
                rw [refused] at branch
                cases branch

theorem parse_prepare
    {parameters : Option Vardict} {keyType : Option String}
    {keySize : UInt32} {mechanism : CertificateMechanism}
    (parsed :
      certificateMechanismParse (some rsaV15) parameters keyType keySize
          false =
        .ok mechanism)
    {digest : Octets}
    (length : digest.length = certificateHashLength mechanism.hash) :
    ∃ payload, certificateMechanismPrepare mechanism digest = .ok payload ∧
      portalDigestinfoParse payload =
        some (certificateHashToString mechanism.hash, digest) := by
  obtain ⟨sha, hash, expected, wrapped⟩ := rsaPkcs_parsed parsed
  rw [hash, certificateHashLength_brokerHash] at length
  refine ⟨digestInfo sha.oid .null digest, ?_, ?_⟩
  · rw [certificateMechanismPrepare_ok (length.trans expected.symm),
      wrapped, Option.getD_some, brokerHash_digestInfo sha length]
  · rw [hash, certificateHashToString_brokerHash]
    exact parse_digestInfo sha .null length

/-! ## Parsing, then building -/

/-- The request for a DigestInfo the module accepts. -/
theorem request_plainRsaPkcs
    {hashes : HashFunctions} {grant : PortalGrant}
    {mechanism : CkMechanism} {hashInit : Bool}
    {operation fed : SignOperation} {parts : SignParts}
    {request : SignRequest}
    (plain : mechanism.mechanism = ckmRsaPkcs)
    (setup : signSetup grant .idle mechanism hashInit = .ok operation)
    (feeding : signFeedAll operation parts = .ok fed)
    (sends : signRequest hashes fed = .ok request) :
    ∃ (sha : Sha) (digest : Octets) (parameters : Parameters),
      messageOf parts = digestInfo sha.oid parameters digest ∧
      digest.length = sha.length ∧ request = rsaPkcsRequest sha digest := by
  obtain ⟨entry, parsed, signing, type, accepted, rfl⟩ :=
    signSetup_ok setup
  obtain rfl := plainRsaPkcs_of_type signing (type.trans plain)
  cases accepted with
  | pss _ _ _ isPss => exact absurd isPss (by simp [plainRsaPkcsEntry])
  | none =>
      have requested := signRequest_buffered rfl rfl feeding sends
      simp only [signRequest, signPayload, plainRsaPkcsEntry,
        Option.getD_some, Bool.false_eq_true, if_false, if_true]
        at requested
      cases parsed : portalDigestinfoParse (messageOf parts) with
      | none =>
          simp only [parsed] at requested
          split_ifs at requested
      | some result =>
          obtain ⟨hash, digest⟩ := result
          obtain ⟨entry, listed, rfl, length, parameters, input⟩ :=
            portalDigestinfoParse_sound parsed
          obtain ⟨sha, rfl⟩ := (mem_moduleHashTable_iff entry).mp listed
          simp only [parsed] at requested
          obtain rfl := Except.ok.inj requested
          exact ⟨sha, digest, parameters, input, length, rfl⟩

/--
Parsing inverts building.  Building after parsing gives the encoding with
`NULL` parameters of the same hash and digest, which is what the application
passed exactly when that had `NULL` parameters.
-/
theorem digestInfo_translation :
    (∀ (parameters : Option Vardict) (keyType : Option String)
        (keySize : UInt32) (mechanism : CertificateMechanism)
        (digest : Octets),
      certificateMechanismParse (some rsaV15) parameters keyType keySize
          false =
        .ok mechanism →
      digest.length = certificateHashLength mechanism.hash →
      ∃ payload,
        certificateMechanismPrepare mechanism digest = .ok payload ∧
        portalDigestinfoParse payload =
          some (certificateHashToString mechanism.hash, digest)) ∧
    (∀ (hashes : HashFunctions) (grant : PortalGrant)
        (mechanism : CkMechanism) (hashInit : Bool)
        (operation fed : SignOperation) (parts : SignParts)
        (request : SignRequest),
      mechanism.mechanism = ckmRsaPkcs →
      signSetup grant .idle mechanism hashInit = .ok operation →
      signFeedAll operation parts = .ok fed →
      signRequest hashes fed = .ok request →
      ∃ (sha : Sha) (digest : Octets) (parameters : Parameters),
        messageOf parts = digestInfo sha.oid parameters digest ∧
        (∀ keyType keySize,
          AnswersWith (rawRsaPkcs (digestInfo sha.oid .null digest))
            keyType keySize (backendSign request keyType keySize)) ∧
        (digestInfo sha.oid .null digest = messageOf parts ↔
          parameters = .null)) := by
  constructor
  · intro parameters keyType keySize mechanism digest parsed length
    exact parse_prepare parsed length
  · intro hashes grant mechanism hashInit operation fed parts request
      plain setup feeding sends
    obtain ⟨sha, digest, parameters, input, length, rfl⟩ :=
      request_plainRsaPkcs plain setup feeding sends
    refine ⟨sha, digest, parameters, input, ?_, ?_⟩
    · exact backendSign_rsaPkcs sha length
    · rw [input]
      exact digestInfo_null_eq_iff sha parameters length

/-- A grant for a 2048-bit RSA key. -/
def rsaGrant : PortalGrant where
  acquisition := 0
  sessionHandle := "/session/1"
  owner := ":1.1"
  ownerGeneration := 1
  certificateDer := []
  keyType := "RSA"
  keySize := 2048
  keyCurve := none
  supportedMechanisms := [rsaV15]
  maySign := true
  mayDecrypt := false
  expiresAt := 0

/-- A digest of SHA-256. -/
def zeroDigest : Octets := List.replicate 32 0

/-- A DigestInfo for SHA-256 without parameters. -/
def bareDigestInfo : Octets := digestInfo Sha.sha256.oid .absent zeroDigest

/-- A DigestInfo without parameters comes out with them. -/
theorem digestInfo_translation_bare :
    (∃ payload,
      certificateMechanismPrepare
          { name := rsaV15, type := ckmRsaPkcs, hash := .sha256
            encoding := .raw, pss := none, oaep := none, label := none
            expectedInput := 32, digestInfo := some digestInfoSha256 }
          zeroDigest =
        .ok payload ∧
      portalDigestinfoParse payload = some ("SHA256", zeroDigest)) ∧
    ∃ (sha : Sha) (digest : Octets) (parameters : Parameters),
      bareDigestInfo ++ [] = digestInfo sha.oid parameters digest ∧
      (∀ keyType keySize,
        AnswersWith (rawRsaPkcs (digestInfo sha.oid .null digest))
          keyType keySize
          (backendSign (rsaPkcsRequest .sha256 zeroDigest)
            keyType keySize)) ∧
      (digestInfo sha.oid .null digest = bareDigestInfo ++ [] ↔
        parameters = .null) :=
  ⟨digestInfo_translation.1
      (some [("hash", .string "SHA256")]) (some "RSA") 2048 _ zeroDigest
      rfl rfl,
    digestInfo_translation.2 constantHashes rsaGrant
      ⟨ckmRsaPkcs, none, 0⟩ true _ _ [(.octets bareDigestInfo, true)]
      (rsaPkcsRequest .sha256 zeroDigest) rfl rfl rfl rfl⟩

/-- The accepted DigestInfo without parameters is not what is signed. -/
theorem bareDigestInfo_rebuilt :
    portalDigestinfoParse bareDigestInfo = some ("SHA256", zeroDigest) ∧
      ∃ payload,
        backendSign (rsaPkcsRequest .sha256 zeroDigest) (some "RSA") 2048 =
          .ok (rawRsaPkcs payload) ∧
        payload ≠ bareDigestInfo := by
  have length : zeroDigest.length = Sha.sha256.length := by decide
  refine ⟨parse_digestInfo .sha256 .absent length,
    digestInfo Sha.sha256.oid .null zeroDigest, by rfl, ?_⟩
  exact digestInfo_null_ne_absent .sha256 length

end PortalCertificate.EndToEnd.DigestInfo
