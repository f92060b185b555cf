import PortalCertificate.Broker.Mechanism

/-!
# Sizes of RSA keys

RFC 8017 bounds what a key can sign or decrypt by the length of its modulus
in octets, rounded up.  The parser rounds up for PSS, and rounds down for
PKCS#1 v1.5 and OAEP, so that it agrees with the RFC on every key for PSS
only.
-/

namespace PortalCertificate.Broker.KeySizes

open PortalCertificate.Broker.Mechanism
open PortalCertificate.Glib
open PortalCertificate.Library.Der (Octets)

/-! ## The bounds -/

/-- The octets of a number of so many bits. -/
def octetLength (bits : Nat) : Nat := (bits + 7) / 8

/-- `emLen` of a DigestInfo needs eleven octets more. -/
def pkcsNeeds (hash : NamedHash) : Nat :=
  hash.entry.digestInfo.length + hash.entry.length + 11

/-- The octets that PSS needs for a hash and a salt. -/
def pssNeeds (hash : NamedHash) (saltLength : UInt32) : Nat :=
  hash.entry.length + saltLength.toNat + 2

/-- The octets that OAEP needs besides the message. -/
def oaepNeeds (hash : NamedHash) : Nat := 2 * hash.entry.length + 2

/-- The parser accepts a mechanism for an RSA key. -/
def Accepts
    (name : String) (parameters : Option Vardict) (keySize : UInt32)
    (forDecrypt : Bool) : Prop :=
  ∃ mechanism,
    certificateMechanismParse name parameters (some "RSA") keySize
      forDecrypt = .ok mechanism

/-! ## Parameters without an error -/

/-- The parameters of a signature are known and name a hash. -/
structure SignParameters
    (parameters : Option Vardict) (hash : NamedHash) : Prop where
  known : parametersAreKnown parameters false = .ok ()
  encoding : ∃ encoding, parseEncoding parameters = .ok encoding
  named : parseHash parameters = .ok hash

/-- The parameters name a hash, a mask generation function and a salt length. -/
structure PssParameters
    (parameters : Option Vardict) (hash : NamedHash) (saltLength : UInt32) :
    Prop extends SignParameters parameters hash where
  mgf : ∃ mgfHash, parseMgf parameters hash = .ok mgfHash
  salt : parseSaltLength parameters hash.entry = .ok saltLength

/-- The parameters of a decryption name a hash, MGF1 with the same one, and a
label at most. -/
structure OaepParameters
    (parameters : Option Vardict) (hash : NamedHash) : Prop where
  known : parametersAreKnown parameters true = .ok ()
  named : parseHash parameters = .ok hash
  mgf1 : parseMgf1Hash parameters hash = .ok ()
  label : ∃ label, parseLabel parameters = .ok label

/-! ## The rules of the RFC -/

/-- PKCS #1 v1.5 is accepted for just the keys that its padding fits. -/
def PkcsSizes
    (parameters : Option Vardict) (hash : NamedHash) (keySize : UInt32) :
    Prop :=
  Accepts "RSA_PKCS1_V1_5" parameters keySize false ↔
    pkcsNeeds hash ≤ octetLength keySize.toNat

/-- `emLen` is that of one bit less; it is computed in 32 bits, as
`key_size - 1 + 7`. -/
def PssSizes
    (parameters : Option Vardict) (hash : NamedHash) (saltLength : UInt32)
    (keySize : UInt32) : Prop :=
  (Accepts "RSA_PSS" parameters keySize false ↔
    pssNeeds hash saltLength ≤ octetLength (keySize.toNat - 1)) ∧
  1 ≤ keySize.toNat ∧ keySize.toNat - 1 + 7 < 2 ^ 32

/-- A ciphertext has the length of the modulus. -/
def OaepSizes
    (parameters : Option Vardict) (hash : NamedHash) (keySize : UInt32) :
    Prop :=
  (Accepts "RSA_OAEP" parameters keySize true ↔
    oaepNeeds hash ≤ octetLength keySize.toNat) ∧
  ∀ mechanism,
    certificateMechanismParse (some "RSA_OAEP") parameters (some "RSA")
        keySize true = .ok mechanism →
      ∀ ciphertext : Octets,
        (∃ payload,
          certificateMechanismPrepare mechanism ciphertext = .ok payload) ↔
          ciphertext.length = octetLength keySize.toNat

/-! ## What the parser computes -/

section Parser

variable
    {parameters : Option Vardict} {hash : NamedHash} {keySize : UInt32}

theorem accepts_pkcs (good : SignParameters parameters hash) :
    Accepts "RSA_PKCS1_V1_5" parameters keySize false ↔
      pkcsNeeds hash ≤ keySize.toNat / 8 := by
  rcases good.encoding with ⟨encoding, encoded⟩
  have parsed :
      certificateMechanismParse "RSA_PKCS1_V1_5" parameters (some "RSA")
          keySize false =
        parseRsaPkcs "RSA_PKCS1_V1_5" parameters (some "RSA") keySize
          encoding := by
    simp only [certificateMechanismParse, good.known, encoded]
    rfl
  have key : RsaPkcsKey (some "RSA") keySize hash.entry ↔
      pkcsNeeds hash ≤ keySize.toNat / 8 := by
    simp [RsaPkcsKey, pkcsNeeds]
  rw [Accepts, parsed, ← key]
  constructor
  · rintro ⟨mechanism, accepted⟩
    by_contra small
    rcases parseRsaPkcs_error good.named small with ⟨error, refused⟩
    rw [refused] at accepted
    cases accepted
  · intro fits
    exact ⟨_, parseRsaPkcs_ok good.named fits⟩

theorem accepts_pss
    {saltLength : UInt32} (good : PssParameters parameters hash saltLength) :
    Accepts "RSA_PSS" parameters keySize false ↔
      pssNeeds hash saltLength ≤ emLength keySize := by
  rcases good.encoding with ⟨encoding, encoded⟩
  rcases good.mgf with ⟨mgfHash, mgf⟩
  have parsed :
      certificateMechanismParse "RSA_PSS" parameters (some "RSA") keySize
          false =
        parseRsaPss "RSA_PSS" parameters (some "RSA") keySize encoding := by
    simp only [certificateMechanismParse, good.known, encoded]
    rfl
  have key : RsaPssKey (some "RSA") keySize hash.entry saltLength ↔
      pssNeeds hash saltLength ≤ emLength keySize := by
    simp [RsaPssKey, pssNeeds]
  rw [Accepts, parsed, ← key]
  constructor
  · rintro ⟨mechanism, accepted⟩
    by_contra small
    rcases parseRsaPss_error good.named mgf good.salt small with
      ⟨error, refused⟩
    rw [refused] at accepted
    cases accepted
  · intro fits
    exact ⟨_, parseRsaPss_ok good.named mgf good.salt fits⟩

/-- The parser's verdict on OAEP, and the length that it expects. -/
theorem parse_oaep
    (good : OaepParameters parameters hash) :
    (keySize.toNat / 8 < oaepNeeds hash ∧
      ∃ error,
        certificateMechanismParse (some "RSA_OAEP") parameters (some "RSA")
          keySize true = .error error) ∨
    (oaepNeeds hash ≤ keySize.toNat / 8 ∧
      ∃ mechanism,
        certificateMechanismParse (some "RSA_OAEP") parameters (some "RSA")
            keySize true = .ok mechanism ∧
          mechanism.expectedInput = keySize.toNat / 8 ∧
          mechanism.digestInfo = none) := by
  rcases good.label with ⟨label, labelled⟩
  have octets : (keySize / 8).toNat = keySize.toNat / 8 := by simp
  have parsed :
      certificateMechanismParse (some "RSA_OAEP") parameters (some "RSA")
          keySize true =
        parseDecrypt "RSA_OAEP" parameters (some "RSA") keySize := by
    simp only [certificateMechanismParse, good.known]
    rfl
  rw [parsed]
  simp only [parseDecrypt, good.named, ne_eq, not_true_eq_false, if_false]
  simp only [bind, Except.bind, good.mgf1, labelled, octets]
  by_cases small : keySize.toNat / 8 < oaepNeeds hash
  · left
    exact ⟨small, _, if_pos small⟩
  · right
    exact ⟨not_lt.mp small, _, if_neg small, rfl, rfl⟩

end Parser

/-! ## Where the parser agrees with the RFC -/

theorem emLength_eq
    {keySize : UInt32} (positive : 1 ≤ keySize.toNat)
    (fits : keySize.toNat - 1 + 7 < 2 ^ 32) :
    emLength keySize = octetLength (keySize.toNat - 1) := by
  have less : (keySize - 1).toNat = keySize.toNat - 1 := by
    rw [UInt32.toNat_sub_of_le]
    · rfl
    · rw [UInt32.le_iff_toNat_le]
      exact positive
  have more : (keySize - 1 + 7).toNat = keySize.toNat - 1 + 7 := by
    rw [UInt32.toNat_add, less]
    exact Nat.mod_eq_of_lt fits
  rw [emLength, octetLength, UInt32.toNat_div, more]
  rfl

theorem pkcsSizes_iff
    {parameters : Option Vardict} {hash : NamedHash} {keySize : UInt32}
    (good : SignParameters parameters hash) :
    PkcsSizes parameters hash keySize ↔
      keySize.toNat % 8 = 0 ∨ keySize.toNat / 8 + 1 ≠ pkcsNeeds hash := by
  rw [PkcsSizes, accepts_pkcs good, octetLength]
  omega

theorem pssSizes_iff
    {parameters : Option Vardict} {hash : NamedHash}
    {saltLength keySize : UInt32}
    (good : PssParameters parameters hash saltLength) :
    PssSizes parameters hash saltLength keySize ↔
      1 ≤ keySize.toNat ∧ keySize.toNat - 1 + 7 < 2 ^ 32 := by
  constructor
  · exact And.right
  · rintro ⟨positive, fits⟩
    refine ⟨?_, positive, fits⟩
    rw [accepts_pss good, emLength_eq positive fits]

/-- A prepared ciphertext has the length that the mechanism expects. -/
theorem prepare_ok_iff
    {mechanism : CertificateMechanism} {ciphertext : Octets}
    (expects : mechanism.expectedInput ≠ 0) :
    (∃ payload,
      certificateMechanismPrepare mechanism ciphertext = .ok payload) ↔
      ciphertext.length = mechanism.expectedInput := by
  rw [certificateMechanismPrepare]
  by_cases same : ciphertext.length = mechanism.expectedInput
  · simp only [same, ne_eq, not_true_eq_false, and_false, if_false,
      iff_true]
    cases mechanism.digestInfo with
    | none => exact ⟨_, rfl⟩
    | some digestInfo => exact ⟨_, rfl⟩
  · simp only [expects, same, ne_eq, not_false_eq_true, and_self, if_true,
      iff_false]
    rintro ⟨payload, prepared⟩
    split_ifs at prepared

theorem oaepSizes_iff
    {parameters : Option Vardict} {hash : NamedHash} {keySize : UInt32}
    (good : OaepParameters parameters hash) :
    OaepSizes parameters hash keySize ↔
      keySize.toNat % 8 = 0 ∨
        octetLength keySize.toNat < oaepNeeds hash := by
  have needs : 2 ≤ oaepNeeds hash := Nat.le_add_left ..
  rcases @parse_oaep _ _ keySize good with
    ⟨small, error, refused⟩ | ⟨fits, mechanism, parsed, expected, -⟩
  · have none : ¬ Accepts "RSA_OAEP" parameters keySize true := by
      rintro ⟨mechanism, accepted⟩
      rw [refused] at accepted
      cases accepted
    rw [OaepSizes, octetLength]
    constructor
    · rintro ⟨accepts, -⟩
      have := mt accepts.mpr none
      omega
    · intro agrees
      constructor
      · simp only [none, false_iff]
        omega
      · intro mechanism accepted
        rw [refused] at accepted
        cases accepted
  · have accepted : Accepts "RSA_OAEP" parameters keySize true :=
      ⟨mechanism, parsed⟩
    have expects : mechanism.expectedInput ≠ 0 := by omega
    rw [OaepSizes, octetLength]
    constructor
    · rintro ⟨-, ciphertexts⟩
      have exact := (ciphertexts mechanism parsed
        (List.replicate mechanism.expectedInput 0)).mp
          ((prepare_ok_iff expects).mpr List.length_replicate)
      rw [List.length_replicate] at exact
      omega
    · intro agrees
      constructor
      · simp only [accepted, true_iff]
        omega
      · intro other otherParsed ciphertext
        rw [parsed] at otherParsed
        cases otherParsed
        rw [prepare_ok_iff expects, expected]
        omega

/-- The rules of the RFC hold for PSS unless the length wraps around, for
PKCS#1 v1.5 unless a size that is no whole number of octets is on the bound,
and for OAEP if the size is one, or too small. -/
theorem sizes_iff (hash : NamedHash) (keySize : UInt32) :
    (∀ parameters, SignParameters parameters hash →
      (PkcsSizes parameters hash keySize ↔
        keySize.toNat % 8 = 0 ∨ keySize.toNat / 8 + 1 ≠ pkcsNeeds hash)) ∧
    (∀ parameters saltLength, PssParameters parameters hash saltLength →
      (PssSizes parameters hash saltLength keySize ↔
        1 ≤ keySize.toNat ∧ keySize.toNat - 1 + 7 < 2 ^ 32)) ∧
    ∀ parameters, OaepParameters parameters hash →
      (OaepSizes parameters hash keySize ↔
        keySize.toNat % 8 = 0 ∨
          octetLength keySize.toNat < oaepNeeds hash) := by
  refine ⟨?_, ?_, ?_⟩
  · intro parameters good
    exact pkcsSizes_iff good
  · intro parameters saltLength good
    exact pssSizes_iff good
  · intro parameters good
    exact oaepSizes_iff good

/-- A dictionary that names a hash only. -/
def sha256Parameters : Option Vardict := some [("hash", .string "SHA256")]

/-- SHA-256, as a hash with a name. -/
def sha256 : NamedHash := ⟨.sha256, CertificateHash.noConfusion⟩

/-- SHA-256 with keys of 2048 bits, and of 2047 bits where the padding is
probabilistic. -/
theorem sizes_iff_sha256 :
    PkcsSizes sha256Parameters sha256 2048 ∧
      PssSizes sha256Parameters sha256 32 2047 ∧
      OaepSizes sha256Parameters sha256 2048 := by
  have signs : SignParameters sha256Parameters sha256 :=
    ⟨rfl, ⟨.raw, rfl⟩, rfl⟩
  refine ⟨?_, ?_, ?_⟩
  · exact ((sizes_iff sha256 2048).1 sha256Parameters signs).mpr
      (.inl (by decide))
  · exact ((sizes_iff sha256 2047).2.1 sha256Parameters 32
      { signs with mgf := ⟨sha256, rfl⟩, salt := rfl }).mpr (by decide)
  · exact ((sizes_iff sha256 2048).2.2 sha256Parameters
      ⟨rfl, rfl, rfl, ⟨[], rfl⟩⟩).mpr (.inl (by decide))

/-- A key of 2047 bits has a modulus of 256 octets, and a ciphertext of so
many octets is refused. -/
theorem sizes_rounded_down :
    OaepParameters sha256Parameters sha256 ∧
      ¬ OaepSizes sha256Parameters sha256 2047 := by
  have good : OaepParameters sha256Parameters sha256 :=
    ⟨rfl, rfl, rfl, ⟨[], rfl⟩⟩
  refine ⟨good, ?_⟩
  rw [oaepSizes_iff good]
  decide

end PortalCertificate.Broker.KeySizes
