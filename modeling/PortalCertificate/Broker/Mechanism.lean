import PortalCertificate.Glib
import PortalCertificate.Library.DigestInfo
import PortalCertificate.Pkcs11

/-!
# Mechanisms at the backend

`broker/mechanism.c` validates the mechanism name and parameters of a portal
request against the key, and prepares the payload for the token.

A parsed mechanism carries the `CK_MECHANISM` parameters, the length its
input must have, and the DigestInfo prefix when the payload is wrapped.  The
last section connects the prefixes of the table to the distinguished
encoding they abbreviate.
-/

namespace PortalCertificate.Broker.Mechanism

open PortalCertificate.Glib
open PortalCertificate.Library.Der
open PortalCertificate.Library.DigestInfo
open PortalCertificate.Pkcs11

/-! ## Hashes -/

/-- `CertificateHash`. -/
inductive CertificateHash where
  | none
  | sha1
  | sha224
  | sha256
  | sha384
  | sha512
  deriving DecidableEq, Repr

/-- The hashes a request can name. -/
abbrev NamedHash := { hash : CertificateHash // hash ≠ .none }

/-- A row of `hash_table`. -/
structure HashEntry where
  name : String
  hash : NamedHash
  length : Nat
  ckHash : CkUlong
  mgf : CkUlong
  digestInfo : Octets
  deriving DecidableEq, Repr

/-- The prefix of a DigestInfo of SHA-1. -/
def digestInfoSha1 : Octets :=
  [ 0x30, 0x21, 0x30, 0x09, 0x06, 0x05, 0x2b, 0x0e,
    0x03, 0x02, 0x1a, 0x05, 0x00, 0x04, 0x14 ]
/-- The prefix of a DigestInfo of SHA-224. -/
def digestInfoSha224 : Octets :=
  [ 0x30, 0x2d, 0x30, 0x0d, 0x06, 0x09, 0x60, 0x86, 0x48, 0x01,
    0x65, 0x03, 0x04, 0x02, 0x04, 0x05, 0x00, 0x04, 0x1c ]
/-- The prefix of a DigestInfo of SHA-256. -/
def digestInfoSha256 : Octets :=
  [ 0x30, 0x31, 0x30, 0x0d, 0x06, 0x09, 0x60, 0x86, 0x48, 0x01,
    0x65, 0x03, 0x04, 0x02, 0x01, 0x05, 0x00, 0x04, 0x20 ]
/-- The prefix of a DigestInfo of SHA-384. -/
def digestInfoSha384 : Octets :=
  [ 0x30, 0x41, 0x30, 0x0d, 0x06, 0x09, 0x60, 0x86, 0x48, 0x01,
    0x65, 0x03, 0x04, 0x02, 0x02, 0x05, 0x00, 0x04, 0x30 ]
/-- The prefix of a DigestInfo of SHA-512. -/
def digestInfoSha512 : Octets :=
  [ 0x30, 0x51, 0x30, 0x0d, 0x06, 0x09, 0x60, 0x86, 0x48, 0x01,
    0x65, 0x03, 0x04, 0x02, 0x03, 0x05, 0x00, 0x04, 0x40 ]

/-- The hash functions that have a name. -/
def hashTable : List HashEntry :=
  [ ⟨"SHA1", ⟨.sha1, nofun⟩, 20,
      ckmSha1, ckgMgf1Sha1, digestInfoSha1⟩,
    ⟨"SHA224", ⟨.sha224, nofun⟩, 28,
      ckmSha224, ckgMgf1Sha224, digestInfoSha224⟩,
    ⟨"SHA256", ⟨.sha256, nofun⟩, 32,
      ckmSha256, ckgMgf1Sha256, digestInfoSha256⟩,
    ⟨"SHA384", ⟨.sha384, nofun⟩, 48,
      ckmSha384, ckgMgf1Sha384, digestInfoSha384⟩,
    ⟨"SHA512", ⟨.sha512, nofun⟩, 64,
      ckmSha512, ckgMgf1Sha512, digestInfoSha512⟩ ]

/-- The row of a hash function, which `CERTIFICATE_HASH_NONE` does not have. -/
def hashEntry (hash : CertificateHash) : Option HashEntry :=
  hashTable.find? fun entry => entry.hash.val == hash

theorem hashEntry_isSome (hash : NamedHash) :
    (hashEntry hash.val).isSome := by
  obtain ⟨hash, named⟩ := hash
  cases hash with
  | none => exact absurd rfl named
  | sha1 | sha224 | sha256 | sha384 | sha512 => rfl

/-- The entry the parser asserts to exist. -/
def NamedHash.entry (hash : NamedHash) : HashEntry :=
  (hashEntry hash.val).get (hashEntry_isSome hash)

/-- The spelling with a dash after `SHA`. -/
def dashedName (entry : HashEntry) : String :=
  "SHA-" ++ textFrom entry.name 3

/-- Names are compared without case, with or without the dash. -/
def certificateHashParse (name : Option String) : Option NamedHash :=
  match name with
  | none => none
  | some name =>
      (hashTable.find? fun entry =>
        asciiCaseEqual name entry.name ||
          asciiCaseEqual name (dashedName entry)).map HashEntry.hash

/-- `certificate_hash_to_string`. -/
def certificateHashToString (hash : CertificateHash) : String :=
  match hashEntry hash with
  | some entry => entry.name
  | none => "NONE"

/-- `certificate_hash_length`. -/
def certificateHashLength (hash : CertificateHash) : Nat :=
  match hashEntry hash with
  | some entry => entry.length
  | none => 0

/-! ## Parsed mechanisms -/

/-- `CertificateSignatureEncoding`. -/
inductive CertificateSignatureEncoding where
  | raw
  | der
  deriving DecidableEq, Repr

/--
`CertificateMechanism`.  An absent parameter structure stands for a clear
`has_pss` or `has_oaep`, and an absent prefix for a `NULL` `digest_info`.
-/
structure CertificateMechanism where
  name : String
  type : CkUlong
  hash : CertificateHash
  encoding : CertificateSignatureEncoding
  pss : Option CkRsaPkcsPssParams
  oaep : Option CkRsaPkcsOaepParams
  label : Option Octets
  expectedInput : Nat
  digestInfo : Option Octets
  deriving DecidableEq, Repr

/-- Only an absent key has a default; a present value must be a string. -/
def lookupString (parameters : Option Vardict) (key : String) :
    Except GError (Option String) :=
  match parameters with
  | none => .ok none
  | some parameters =>
      match lookupValue parameters key with
      | none => .ok none
      | some (.string text) => .ok (some text)
      | some _ =>
          .error (invalidArgument
            ("Parameter '" ++ key ++ "' must be a string"))

/-- The encoding of a signature, which is raw if none is named. -/
def parseEncoding (parameters : Option Vardict) :
    Except GError CertificateSignatureEncoding :=
  match lookupString parameters "signature_encoding" with
  | .error error => .error error
  | .ok none => .ok .raw
  | .ok (some text) =>
      if text = "raw" then
        .ok .raw
      else if text = "der" then
        .ok .der
      else
        .error (invalidArgument
          ("Unknown signature_encoding '" ++ text ++
            "'; expected 'raw' or 'der'"))

/-- The hash function, which has to be named. -/
def parseHash (parameters : Option Vardict) :
    Except GError NamedHash :=
  match parameters.bind fun parameters => lookupText parameters "hash" with
  | none => .error (invalidArgument "Parameter 'hash' is required")
  | some text =>
      match certificateHashParse (some text) with
      | none => .error (invalidArgument ("Unknown hash '" ++ text ++ "'"))
      | some hash => .ok hash

/-- The keys that the parameters of a signature may have. -/
def signKeys : List String :=
  ["hash", "mgf", "salt_length", "signature_encoding"]
/-- The keys that the parameters of a decryption may have. -/
def decryptKeys : List String := ["hash", "mgf1_hash", "label"]

/-- The first key outside the operation's vocabulary is refused. -/
def parametersAreKnown (parameters : Option Vardict) (forDecrypt : Bool) :
    Except GError Unit :=
  let known := if forDecrypt then decryptKeys else signKeys
  match parameters with
  | none => .ok ()
  | some parameters =>
      match parameters.find? fun entry => !known.contains entry.1 with
      | none => .ok ()
      | some entry =>
          .error (invalidArgument
            ("Unknown parameter '" ++ entry.1 ++ "'"))

/-- `CERTIFICATE_MAX_LABEL_SIZE`. -/
def certificateMaxLabelSize : Nat := 256

/-- The OAEP branch's check that MGF1 uses the OAEP hash. -/
def parseMgf1Hash (parameters : Option Vardict) (hash : NamedHash) :
    Except GError Unit :=
  match lookupString parameters "mgf1_hash" with
  | .error error => .error error
  | .ok none => .ok ()
  | .ok (some text) =>
      match certificateHashParse (some text) with
      | none =>
          .error (invalidArgument ("Unknown mgf1_hash '" ++ text ++ "'"))
      | some mgf1Hash =>
          if mgf1Hash = hash then
            .ok ()
          else
            .error (invalidArgument
              ("mgf1_hash '" ++ text ++ "' must match hash"))

/-- The OAEP branch's label; an absent one is empty. -/
def parseLabel (parameters : Option Vardict) : Except GError Octets :=
  match parameters.bind fun parameters => lookupValue parameters "label" with
  | none => .ok []
  | some (.byteString label) =>
      if label.length > certificateMaxLabelSize then
        .error (invalidArgument
          ("A 'label' of " ++ toString label.length ++
            " bytes is longer than the " ++
            toString certificateMaxLabelSize ++ " this interface allows"))
      else
        .ok label
  | some _ => .error (invalidArgument "label must be a byte array")

/-- The decryption branch of `certificate_mechanism_parse`. -/
def parseDecrypt
    (name : String) (parameters : Option Vardict)
    (keyType : Option String) (keySize : UInt32) :
    Except GError CertificateMechanism := do
  if name ≠ "RSA_OAEP" then
    throw (notSupported
      ("Mechanism '" ++ name ++ "' cannot decrypt; RSA_OAEP is required"))
  if keyType ≠ some "RSA" then
    throw (notSupported "RSA_OAEP needs an RSA key")
  let hash ← parseHash parameters
  let entry := hash.entry
  parseMgf1Hash parameters hash
  let label ← parseLabel parameters
  if (keySize / 8).toNat < 2 * entry.length + 2 then
    throw (invalidArgument
      ("A " ++ toString keySize.toNat ++
        "-bit RSA key is too small for RSA-OAEP over " ++ entry.name))
  let sourceData := if label = [] then none else some label
  return {
    name
    type := ckmRsaPkcsOaep
    hash
    encoding := .raw
    pss := none
    oaep := some
      { hashAlg := entry.ckHash
        mgf := entry.mgf
        source := ckzDataSpecified
        sourceData
        sourceDataLen := UInt64.ofNat label.length }
    label := sourceData
    expectedInput := (keySize / 8).toNat
    digestInfo := none }

/-- The PKCS#1 v1.5 branch. -/
def parseRsaPkcs
    (name : String) (parameters : Option Vardict)
    (keyType : Option String) (keySize : UInt32)
    (encoding : CertificateSignatureEncoding) :
    Except GError CertificateMechanism := do
  if keyType ≠ some "RSA" then
    throw (notSupported "RSA_PKCS1_V1_5 needs an RSA key")
  let hash ← parseHash parameters
  let entry := hash.entry
  -- Eight padding bytes and the leading `00 01` must fit.
  if (keySize / 8).toNat < entry.digestInfo.length + entry.length + 11 then
    throw (invalidArgument
      ("A " ++ toString keySize.toNat ++
        "-bit RSA key is too small for a " ++ entry.name ++
        " PKCS#1 v1.5 signature"))
  return {
    name
    type := ckmRsaPkcs
    hash
    encoding
    pss := none
    oaep := none
    label := none
    expectedInput := entry.length
    digestInfo := some entry.digestInfo }

/-- `MGF1` stands for the signature's own hash. -/
def mgfHashName (mgfName : String) (entry : HashEntry) : Option String :=
  if asciiCaseStarts mgfName "MGF1-" then
    some (textFrom mgfName 5)
  else if asciiCaseEqual mgfName "MGF1" then
    some entry.name
  else
    none

/-- The PSS branch's mask generation hash. -/
def parseMgf (parameters : Option Vardict) (hash : NamedHash) :
    Except GError NamedHash :=
  match lookupString parameters "mgf" with
  | .error error => .error error
  | .ok none => .ok hash
  | .ok (some mgfName) =>
      match certificateHashParse (mgfHashName mgfName hash.entry) with
      | some mgfHash => .ok mgfHash
      | none =>
          .error (invalidArgument
            ("Unknown mask generation function '" ++ mgfName ++
              "'; expected MGF1-<hash>"))

/-- The PSS branch's salt length; the default is the digest length. -/
def parseSaltLength (parameters : Option Vardict) (entry : HashEntry) :
    Except GError UInt32 :=
  match parameters.bind fun parameters =>
      lookupValue parameters "salt_length" with
  | none => .ok (UInt32.ofNat entry.length)
  | some (.uint32 saltLength) => .ok saltLength
  | some _ => .error (invalidArgument "salt_length must be a uint32")

/-- `emLen`, in the code's 32-bit arithmetic. -/
def emLength (keySize : UInt32) : Nat :=
  ((keySize - 1 + 7) / 8).toNat

/-- The PSS branch. -/
def parseRsaPss
    (name : String) (parameters : Option Vardict)
    (keyType : Option String) (keySize : UInt32)
    (encoding : CertificateSignatureEncoding) :
    Except GError CertificateMechanism := do
  if keyType ≠ some "RSA" then
    throw (notSupported "RSA_PSS needs an RSA key")
  let hash ← parseHash parameters
  let entry := hash.entry
  let mgfHash ← parseMgf parameters hash
  let saltLength ← parseSaltLength parameters entry
  -- Salt and digest must fit the encoded message with two more bytes.
  if emLength keySize < entry.length + saltLength.toNat + 2 then
    throw (invalidArgument
      ("A salt of " ++ toString saltLength.toNat ++
        " bytes does not fit in a " ++ toString keySize.toNat ++
        "-bit RSA-PSS signature over " ++ entry.name))
  return {
    name
    type := ckmRsaPkcsPss
    hash
    encoding
    pss := some
      { hashAlg := entry.ckHash
        mgf := mgfHash.entry.mgf
        sLen := saltLength.toUInt64 }
    oaep := none
    label := none
    expectedInput := entry.length
    digestInfo := none }

/-- The ECDSA branch. -/
def parseEcdsa
    (name : String) (parameters : Option Vardict)
    (keyType : Option String)
    (encoding : CertificateSignatureEncoding) :
    Except GError CertificateMechanism := do
  if keyType ≠ some "EC" then
    throw (notSupported "ECDSA needs an EC key")
  let hash ← parseHash parameters
  return {
    name
    type := ckmEcdsa
    hash
    encoding
    pss := none
    oaep := none
    label := none
    expectedInput := certificateHashLength hash
    digestInfo := none }

/-- `certificate_mechanism_parse`. -/
def certificateMechanismParse
    (name : Option String) (parameters : Option Vardict)
    (keyType : Option String) (keySize : UInt32) (forDecrypt : Bool) :
    Except GError CertificateMechanism :=
  match name with
  | none => .error (invalidArgument "Mechanism is required")
  | some name => do
      parametersAreKnown parameters forDecrypt
      if forDecrypt then
        parseDecrypt name parameters keyType keySize
      else do
        let encoding ← parseEncoding parameters
        if name = "RSA_PKCS1_V1_5" then
          parseRsaPkcs name parameters keyType keySize encoding
        else if name = "RSA_PSS" then
          parseRsaPss name parameters keyType keySize encoding
        else if name = "ECDSA" then
          parseEcdsa name parameters keyType encoding
        else
          throw (notSupported ("Unknown mechanism '" ++ name ++ "'"))

/-! ## The token's mechanism and payload -/

/-- `certificate_mechanism_to_ck`. -/
def certificateMechanismToCk (mechanism : CertificateMechanism) :
    CkTokenMechanism where
  mechanism := mechanism.type
  parameter :=
    match mechanism.pss, mechanism.oaep with
    | some pss, _ => .pss pss
    | none, some oaep => .oaep oaep
    | none, none => .null

/-! ## The branches, once the hash is known -/

section Branches

variable
    {name : String} {parameters : Option Vardict}
    {keyType : Option String} {keySize : UInt32}
    {encoding : CertificateSignatureEncoding} {hash : NamedHash}

/-- The key PKCS#1 v1.5 signatures need. -/
def RsaPkcsKey
    (keyType : Option String) (keySize : UInt32) (entry : HashEntry) :
    Prop :=
  keyType = some "RSA" ∧
    entry.digestInfo.length + entry.length + 11 ≤ (keySize / 8).toNat

/-- The key PSS signatures need. -/
def RsaPssKey
    (keyType : Option String) (keySize : UInt32) (entry : HashEntry)
    (saltLength : UInt32) : Prop :=
  keyType = some "RSA" ∧
    entry.length + saltLength.toNat + 2 ≤ emLength keySize

/-- PKCS #1 v1.5 is accepted with a key that admits it. -/
theorem parseRsaPkcs_ok
    (named : parseHash parameters = .ok hash)
    (key : RsaPkcsKey keyType keySize hash.entry) :
    parseRsaPkcs name parameters keyType keySize encoding =
      .ok
        { name, type := ckmRsaPkcs, hash, encoding
          pss := none, oaep := none, label := none
          expectedInput := hash.entry.length
          digestInfo := some hash.entry.digestInfo } := by
  obtain ⟨rfl, fits⟩ := key
  simp only [parseRsaPkcs, named, ne_eq, not_true_eq_false, if_false]
  exact if_neg (Nat.not_lt.mpr fits)

/-- PKCS #1 v1.5 is refused with any other key. -/
theorem parseRsaPkcs_error
    (named : parseHash parameters = .ok hash)
    (key : ¬ RsaPkcsKey keyType keySize hash.entry) :
    ∃ error,
      parseRsaPkcs name parameters keyType keySize encoding =
        .error error := by
  by_cases rsa : keyType = some "RSA"
  · have small := Nat.not_le.mp fun fits => key ⟨rsa, fits⟩
    simp only [parseRsaPkcs, named, rsa, ne_eq, not_true_eq_false, if_false]
    exact ⟨_, if_pos small⟩
  · exact ⟨_, if_pos rsa⟩

/-- PSS is accepted with a key that admits it. -/
theorem parseRsaPss_ok
    {mgfHash : NamedHash} {saltLength : UInt32}
    (named : parseHash parameters = .ok hash)
    (mgf : parseMgf parameters hash = .ok mgfHash)
    (salt : parseSaltLength parameters hash.entry = .ok saltLength)
    (key : RsaPssKey keyType keySize hash.entry saltLength) :
    parseRsaPss name parameters keyType keySize encoding =
      .ok
        { name, type := ckmRsaPkcsPss, hash, encoding
          pss := some
            { hashAlg := hash.entry.ckHash
              mgf := mgfHash.entry.mgf
              sLen := saltLength.toUInt64 }
          oaep := none, label := none
          expectedInput := hash.entry.length
          digestInfo := none } := by
  obtain ⟨rfl, fits⟩ := key
  simp only [parseRsaPss, named, ne_eq, not_true_eq_false, if_false]
  simp only [bind, Except.bind, mgf, salt]
  exact if_neg (Nat.not_lt.mpr fits)

/-- PSS is refused with any other key. -/
theorem parseRsaPss_error
    {mgfHash : NamedHash} {saltLength : UInt32}
    (named : parseHash parameters = .ok hash)
    (mgf : parseMgf parameters hash = .ok mgfHash)
    (salt : parseSaltLength parameters hash.entry = .ok saltLength)
    (key : ¬ RsaPssKey keyType keySize hash.entry saltLength) :
    ∃ error,
      parseRsaPss name parameters keyType keySize encoding =
        .error error := by
  by_cases rsa : keyType = some "RSA"
  · have small := Nat.not_le.mp fun fits => key ⟨rsa, fits⟩
    simp only [parseRsaPss, named, rsa, ne_eq, not_true_eq_false, if_false]
    simp only [bind, Except.bind, mgf, salt]
    exact ⟨_, if_pos small⟩
  · exact ⟨_, if_pos rsa⟩

/-- ECDSA is accepted with a key on a curve. -/
theorem parseEcdsa_ok
    (named : parseHash parameters = .ok hash)
    (key : keyType = some "EC") :
    parseEcdsa name parameters keyType encoding =
      .ok
        { name, type := ckmEcdsa, hash, encoding
          pss := none, oaep := none, label := none
          expectedInput := certificateHashLength hash
          digestInfo := none } := by
  subst key
  simp only [parseEcdsa, named, ne_eq, not_true_eq_false, if_false]
  rfl

/-- ECDSA is refused with any other key. -/
theorem parseEcdsa_error (key : keyType ≠ some "EC") :
    ∃ error,
      parseEcdsa name parameters keyType encoding = .error error :=
  ⟨_, if_pos key⟩

end Branches

/-- Wraps RSA PKCS#1 v1.5 digests and checks the length of every input. -/
def certificateMechanismPrepare
    (mechanism : CertificateMechanism) (data : Octets) :
    Except GError Octets :=
  if mechanism.expectedInput ≠ 0 ∧
      data.length ≠ mechanism.expectedInput then
    if mechanism.oaep.isSome then
      .error (invalidArgument
        ("An RSA-OAEP ciphertext must be exactly " ++
          toString mechanism.expectedInput ++
          " bytes for this key, not " ++ toString data.length))
    else
      .error (invalidArgument
        ("Expected a " ++ toString mechanism.expectedInput ++ "-byte " ++
          certificateHashToString mechanism.hash ++ " digest, got " ++
          toString data.length ++ " bytes"))
  else
    match mechanism.digestInfo with
    | none => .ok data
    | some digestInfo => .ok (digestInfo ++ data)

end PortalCertificate.Broker.Mechanism
