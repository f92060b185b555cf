import PortalCertificate.Gnutls
import PortalCertificate.Library.DigestInfo
import PortalCertificate.Module.Der
import PortalCertificate.Pkcs11
import PortalCertificate.Pkcs11Signing

/-!
# The module's hash and mechanism tables

The tables of `module/mechanism.c`, their lookups, and the parser of the
DigestInfo that an application passes to `CKM_RSA_PKCS`.  Hash and mechanism
names are the strings the portal carries.

The parser accepts exactly the two encodings that RFC 8017 allows for a
digest of a listed hash: with `NULL` parameters and without parameters.
-/

namespace PortalCertificate.Module.Mechanism

open PortalCertificate.Gnutls (GnutlsDigest)
open PortalCertificate.Library.Der
open PortalCertificate.Library.DigestInfo
open PortalCertificate.Module.Der
open PortalCertificate.Pkcs11
open PortalCertificate.Pkcs11Signing (Sha)

/-! ## Tables -/

/-- A row of `hash_table`. -/
structure HashEntry where
  name : String
  length : Nat
  gnutlsDigest : GnutlsDigest
  ckDigest : CkUlong
  mgf : CkUlong
  oid : Octets
  deriving DecidableEq, Repr

/-- The contents of SHA-1's object identifier. -/
def oidSha1 : Octets := [0x2b, 0x0e, 0x03, 0x02, 0x1a]
/-- The contents of SHA-224's object identifier. -/
def oidSha224 : Octets :=
  [0x60, 0x86, 0x48, 0x01, 0x65, 0x03, 0x04, 0x02, 0x04]
/-- The contents of SHA-256's object identifier. -/
def oidSha256 : Octets :=
  [0x60, 0x86, 0x48, 0x01, 0x65, 0x03, 0x04, 0x02, 0x01]
/-- The contents of SHA-384's object identifier. -/
def oidSha384 : Octets :=
  [0x60, 0x86, 0x48, 0x01, 0x65, 0x03, 0x04, 0x02, 0x02]
/-- The contents of SHA-512's object identifier. -/
def oidSha512 : Octets :=
  [0x60, 0x86, 0x48, 0x01, 0x65, 0x03, 0x04, 0x02, 0x03]

/-- `hash_table`. -/
def hashTable : List HashEntry :=
  [ ⟨"SHA1", 20, .sha1, ckmSha1, ckgMgf1Sha1, oidSha1⟩,
    ⟨"SHA224", 28, .sha224, ckmSha224, ckgMgf1Sha224, oidSha224⟩,
    ⟨"SHA256", 32, .sha256, ckmSha256, ckgMgf1Sha256, oidSha256⟩,
    ⟨"SHA384", 48, .sha384, ckmSha384, ckgMgf1Sha384, oidSha384⟩,
    ⟨"SHA512", 64, .sha512, ckmSha512, ckgMgf1Sha512, oidSha512⟩ ]

/-- The name the module sends. -/
def shaName : Sha → String
  | .sha1 => "SHA1"
  | .sha224 => "SHA224"
  | .sha256 => "SHA256"
  | .sha384 => "SHA384"
  | .sha512 => "SHA512"

/-- The table lists the hash functions of the standard, with their lengths
and registered numbers. -/
theorem hashTable_sha :
    hashTable.map (fun entry => (entry.name, entry.length, entry.oid)) =
      Sha.all.map fun sha =>
        (shaName sha, sha.length, objectIdentifier sha.arcs) := by
  simp only [← Sha.oid_eq]
  rfl

/-- `PortalMechanism`; `hash` is `none` when inferred from the input. -/
structure PortalMechanism where
  type : CkUlong
  portalMechanism : String
  hash : Option String
  hashLocally : Bool
  digestInfo : Bool
  inferHash : Bool
  pss : Bool
  canSign : Bool
  canDecrypt : Bool
  deriving DecidableEq, Repr

/-- The portal's name for PKCS #1 v1.5 signatures. -/
def rsaV15 : String := "RSA_PKCS1_V1_5"
/-- The portal's name for PSS signatures. -/
def rsaPss : String := "RSA_PSS"
/-- The portal's name for ECDSA signatures. -/
def ecdsa : String := "ECDSA"
/-- The portal's name for OAEP. -/
def rsaOaep : String := "RSA_OAEP"

/-- `mechanism_table`. -/
def mechanismTable : List PortalMechanism :=
  [ ⟨ckmRsaPkcs, rsaV15, none,
      false, true, false, false, true, false⟩,
    ⟨ckmSha1RsaPkcs, rsaV15, some "SHA1",
      true, false, false, false, true, false⟩,
    ⟨ckmSha224RsaPkcs, rsaV15, some "SHA224",
      true, false, false, false, true, false⟩,
    ⟨ckmSha256RsaPkcs, rsaV15, some "SHA256",
      true, false, false, false, true, false⟩,
    ⟨ckmSha384RsaPkcs, rsaV15, some "SHA384",
      true, false, false, false, true, false⟩,
    ⟨ckmSha512RsaPkcs, rsaV15, some "SHA512",
      true, false, false, false, true, false⟩,
    ⟨ckmRsaPkcsPss, rsaPss, none,
      false, false, false, true, true, false⟩,
    ⟨ckmSha1RsaPkcsPss, rsaPss, some "SHA1",
      true, false, false, true, true, false⟩,
    ⟨ckmSha224RsaPkcsPss, rsaPss, some "SHA224",
      true, false, false, true, true, false⟩,
    ⟨ckmSha256RsaPkcsPss, rsaPss, some "SHA256",
      true, false, false, true, true, false⟩,
    ⟨ckmSha384RsaPkcsPss, rsaPss, some "SHA384",
      true, false, false, true, true, false⟩,
    ⟨ckmSha512RsaPkcsPss, rsaPss, some "SHA512",
      true, false, false, true, true, false⟩,
    ⟨ckmEcdsa, ecdsa, none,
      false, false, true, false, true, false⟩,
    ⟨ckmEcdsaSha1, ecdsa, some "SHA1",
      true, false, false, false, true, false⟩,
    ⟨ckmEcdsaSha224, ecdsa, some "SHA224",
      true, false, false, false, true, false⟩,
    ⟨ckmEcdsaSha256, ecdsa, some "SHA256",
      true, false, false, false, true, false⟩,
    ⟨ckmEcdsaSha384, ecdsa, some "SHA384",
      true, false, false, false, true, false⟩,
    ⟨ckmEcdsaSha512, ecdsa, some "SHA512",
      true, false, false, false, true, false⟩,
    ⟨ckmRsaPkcsOaep, rsaOaep, none,
      false, false, false, false, false, true⟩ ]

/-! ## Lookups -/

/-- A `NULL` name has no entry. -/
def hashEntry (hash : Option String) : Option HashEntry :=
  match hash with
  | none => none
  | some name => hashTable.find? fun entry => entry.name == name

/-- `portal_mechanism_lookup`. -/
def portalMechanismLookup (type : CkUlong) : Option PortalMechanism :=
  mechanismTable.find? fun mechanism => mechanism.type == type

/-- `none` is a `NULL` list of names. -/
def portalMechanismAvailable
    (mechanism : PortalMechanism) (names : Option (List String)) : Bool :=
  match names with
  | none => false
  | some names => names.any fun name => name == mechanism.portalMechanism

/-- Unknown hashes return zero. -/
def portalHashLength (hash : Option String) : Nat :=
  match hashEntry hash with
  | some entry => entry.length
  | none => 0

/-- `portal_hash_for_length`. -/
def portalHashForLength (length : Nat) : Option String :=
  (hashTable.find? fun entry => entry.length == length).map HashEntry.name

/-- `portal_hash_gnutls`. -/
def portalHashGnutls (hash : Option String) : GnutlsDigest :=
  match hashEntry hash with
  | some entry => entry.gnutlsDigest
  | none => .unknown

/-- `portal_hash_from_ck_digest`. -/
def portalHashFromCkDigest (digest : CkUlong) : Option String :=
  (hashTable.find? fun entry => entry.ckDigest == digest).map
    HashEntry.name

/-- `portal_mgf_hash`. -/
def portalMgfHash (mgf : CkUlong) : Option String :=
  (hashTable.find? fun entry => entry.mgf == mgf).map HashEntry.name

/-- The portal's names for mask generation functions. -/
def mgfNames : List String :=
  [ "MGF1-SHA1", "MGF1-SHA224", "MGF1-SHA256", "MGF1-SHA384",
    "MGF1-SHA512" ]

/-- The table of names is indexed by the position in the hash table. -/
def portalMgfName (mgf : CkUlong) : Option String :=
  match hashTable.findIdx? fun entry => entry.mgf == mgf with
  | some index => mgfNames[index]?
  | none => none

/-! ## DigestInfo -/

/--
The parameters of the algorithm identifier: absent, or one `NULL` that ends
the identifier.
-/
def digestParametersAccepted (algorithm oid : PortalDerTlv) : Bool :=
  if oid.consumed ≠ algorithm.value.length then
    match portalDerReadTag (algorithm.value.drop oid.consumed)
        portalDerNull with
    | none => false
    | some parameters =>
        parameters.value.length = 0 ∧
          oid.consumed + parameters.consumed = algorithm.value.length
  else
    true

/-- The hash name and the digest; a `NULL` buffer is the empty one. -/
def portalDigestinfoParse (data : Octets) : Option (String × Octets) := do
  guard (data ≠ [])
  let outer ← portalDerReadTag data portalDerSequence
  guard (outer.consumed = data.length)
  let algorithm ← portalDerReadTag outer.value portalDerSequence
  let oid ← portalDerReadTag algorithm.value portalDerOid
  guard (digestParametersAccepted algorithm oid)
  let entry ← hashTable.find? fun entry => oid.value == entry.oid
  let value ← portalDerReadTag (outer.value.drop algorithm.consumed)
    portalDerOctetString
  guard (algorithm.consumed + value.consumed = outer.value.length)
  guard (value.value.length = entry.length)
  return (entry.name, value.value)

/-- Every listed hash is found by its own object identifier. -/
theorem hashTable_find?_oid
    {entry : HashEntry} (listed : entry ∈ hashTable) :
    hashTable.find? (fun other => entry.oid == other.oid) =
      some entry := by
  have all : ∀ entry ∈ hashTable,
      hashTable.find? (fun other => entry.oid == other.oid) =
        some entry := by
    decide
  exact all entry listed

/-- Every listed hash is found by its own name. -/
theorem hashEntry_name
    {entry : HashEntry} (listed : entry ∈ hashTable) :
    hashEntry (some entry.name) = some entry := by
  have all : ∀ entry ∈ hashTable,
      hashEntry (some entry.name) = some entry := by
    decide
  exact all entry listed

theorem hashTable_lengths
    {entry : HashEntry} (listed : entry ∈ hashTable) :
    entry.length ≤ 64 ∧ entry.oid.length ≤ 9 := by
  have all : ∀ entry ∈ hashTable,
      entry.length ≤ 64 ∧ entry.oid.length ≤ 9 := by
    decide
  exact all entry listed

private theorem readTag_sound
    {data : Octets} {tag : UInt8} {tlv : PortalDerTlv}
    (read : portalDerReadTag data tag = some tlv) :
    tlv.tag = tag ∧
      tlv.consumed = tlv.item.encode.length ∧
      ∃ rest, tlv.item.encode ++ rest = data := by
  obtain ⟨read, tagEq⟩ := (portalDerReadTag_eq_some_iff _ _ _).mp read
  obtain ⟨-, consumed, starts⟩ := portalDerRead_sound read
  exact ⟨tagEq, consumed, starts⟩

private theorem eq_encode_of_consumed
    {data : Octets} {tlv : PortalDerTlv} {rest : Octets}
    (split : tlv.item.encode ++ rest = data)
    (consumed : tlv.item.encode.length = data.length) :
    tlv.item.encode = data := by
  have empty : rest = [] := by
    rw [← split, List.length_append] at consumed
    exact List.length_eq_zero_iff.mp (by omega)
  rw [← split, empty, List.append_nil]

private theorem parametersAccepted_sound
    {algorithm oid : PortalDerTlv} {rest : Octets}
    (tagEq : oid.tag = portalDerOid)
    (consumed : oid.consumed = oid.item.encode.length)
    (split : oid.item.encode ++ rest = algorithm.value)
    (accepted : digestParametersAccepted algorithm oid = true) :
    ∃ parameters,
      algorithm.value = (algorithmItem oid.value parameters).value := by
  have oidEq : oid.item = oidItem oid.value :=
    PortalDerTlv.item_eq tagEq rfl
  by_cases whole : oid.consumed = algorithm.value.length
  · refine ⟨.absent, ?_⟩
    rw [algorithmItem_value_absent, ← oidEq]
    exact (eq_encode_of_consumed split (by omega)).symm
  · refine ⟨.null, ?_⟩
    have dropped : algorithm.value.drop oid.consumed = rest := by
      rw [← split, consumed, List.drop_left]
    simp only [digestParametersAccepted, ne_eq, whole, not_false_eq_true,
      if_true, dropped] at accepted
    cases read : portalDerReadTag rest portalDerNull with
    | none => simp [read] at accepted
    | some parameters =>
        simp only [read, Bool.decide_and, Bool.and_eq_true,
          decide_eq_true_eq] at accepted
        obtain ⟨empty, ends⟩ := accepted
        obtain ⟨nullTag, nullConsumed, tail, nullSplit⟩ :=
          readTag_sound read
        have nullEq : parameters.item = nullItem :=
          PortalDerTlv.item_eq nullTag
            (List.length_eq_zero_iff.mp empty)
        have restEq : parameters.item.encode = rest := by
          apply eq_encode_of_consumed nullSplit
          rw [← split, List.length_append] at ends
          omega
        rw [algorithmItem_value_null, ← oidEq, ← nullEq, restEq, split]

/-- An accepted input is an encoding of the digest it is read as. -/
theorem portalDigestinfoParse_sound
    {data digest : Octets} {name : String}
    (parsed : portalDigestinfoParse data = some (name, digest)) :
    ∃ entry ∈ hashTable, entry.name = name ∧
      digest.length = entry.length ∧
      ∃ parameters, data = digestInfo entry.oid parameters digest := by
  simp only [portalDigestinfoParse, Option.bind_eq_bind,
    Option.bind_eq_some_iff, Option.guard_eq_some', Option.pure_def,
    Option.some.injEq, Prod.mk.injEq] at parsed
  obtain ⟨-, -, outer, outerRead, -, outerEnds, algorithm, algorithmRead,
    oid, oidRead, -, accepted, entry, found, value, valueRead, -,
    valueEnds, -, lengthEq, nameEq, digestEq⟩ := parsed
  obtain ⟨outerTag, outerConsumed, outerRest, outerSplit⟩ :=
    readTag_sound outerRead
  obtain ⟨algorithmTag, algorithmConsumed, algorithmRest,
    algorithmSplit⟩ := readTag_sound algorithmRead
  obtain ⟨oidTag, oidConsumed, oidRest, oidSplit⟩ := readTag_sound oidRead
  obtain ⟨valueTag, valueConsumed, valueRest, valueSplit⟩ :=
    readTag_sound valueRead
  obtain ⟨parameters, algorithmValue⟩ :=
    parametersAccepted_sound oidTag oidConsumed oidSplit accepted
  have oidEq : oid.value = entry.oid := by
    simpa using List.find?_some found
  have algorithmEq :
      algorithm.item = algorithmItem entry.oid parameters :=
    PortalDerTlv.item_eq algorithmTag (oidEq ▸ algorithmValue)
  have dropped :
      outer.value.drop algorithm.consumed = algorithmRest := by
    rw [← algorithmSplit, algorithmConsumed, List.drop_left]
  have valueEq : value.item = octetStringItem digest :=
    PortalDerTlv.item_eq valueTag digestEq
  have restEq : value.item.encode = algorithmRest := by
    rw [dropped] at valueSplit
    apply eq_encode_of_consumed valueSplit
    rw [← algorithmSplit, List.length_append] at valueEnds
    omega
  have outerEq :
      outer.item = digestInfoItem entry.oid parameters digest := by
    apply PortalDerTlv.item_eq outerTag
    rw [digestInfoItem_value, ← algorithmEq, ← valueEq, restEq,
      algorithmSplit]
  refine ⟨entry, List.mem_of_find?_eq_some found, nameEq,
    digestEq ▸ lengthEq, parameters, ?_⟩
  rw [digestInfo, ← outerEq]
  exact (eq_encode_of_consumed outerSplit (by omega)).symm

private theorem readTag_item
    {data rest : Octets} (tag : UInt8) (item : Tlv)
    (split : data = item.encode ++ rest)
    (tagEq : tag = item.tag)
    (single : tag &&& 0x1f ≠ 0x1f)
    (short : item.value.length < 128) :
    portalDerReadTag data tag =
      some
        { tag := item.tag
          value := item.value
          consumed := item.encode.length } := by
  subst split tagEq
  exact portalDerReadTag_encode item ⟨single, by omega⟩ rest

private theorem parametersAccepted_complete
    (oid : Octets) (parameters : Parameters) (consumed : Nat) :
    digestParametersAccepted
        { tag := 0x30
          value := (algorithmItem oid parameters).value
          consumed }
        { tag := 0x06
          value := oid
          consumed := (oidItem oid).encode.length } = true := by
  cases parameters with
  | absent =>
      simp [digestParametersAccepted]
  | null =>
      have null : portalDerReadTag nullItem.encode portalDerNull =
          some { tag := 0x05, value := [], consumed := 2 } := by
        decide
      have nullLength : nullItem.encode.length = 2 := by decide
      simp [digestParametersAccepted, null, nullLength]

/-- Both encodings of a digest of a listed hash are accepted. -/
theorem portalDigestinfoParse_complete
    {entry : HashEntry} (listed : entry ∈ hashTable)
    (parameters : Parameters) {digest : Octets}
    (lengthEq : digest.length = entry.length) :
    portalDigestinfoParse (digestInfo entry.oid parameters digest) =
      some (entry.name, digest) := by
  obtain ⟨digestShort, oidShort⟩ := hashTable_lengths listed
  have oidEncoded : (oidItem entry.oid).encode.length =
      entry.oid.length + 2 :=
    encode_length_of_short (oidItem entry.oid) (by
      simp only [oidItem]
      omega)
  have digestEncoded : (octetStringItem digest).encode.length =
      digest.length + 2 :=
    encode_length_of_short (octetStringItem digest) (by
      simp only [octetStringItem]
      omega)
  have algorithmShort :
      (algorithmItem entry.oid parameters).value.length ≤ 13 := by
    have nullLength : nullItem.encode.length = 2 := by decide
    cases parameters <;> simp [nullLength] <;> omega
  have algorithmEncoded :
      (algorithmItem entry.oid parameters).encode.length =
        (algorithmItem entry.oid parameters).value.length + 2 :=
    encode_length_of_short _ (by omega)
  have outerShort :
      (digestInfoItem entry.oid parameters digest).value.length < 128 := by
    rw [digestInfoItem_value, List.length_append]
    omega
  have outerRead := readTag_item portalDerSequence
    (digestInfoItem entry.oid parameters digest)
    (List.append_nil (digestInfo entry.oid parameters digest)).symm
    rfl (by decide) outerShort
  have algorithmRead := readTag_item portalDerSequence
    (algorithmItem entry.oid parameters)
    (digestInfoItem_value entry.oid parameters digest)
    rfl (by decide) (by omega)
  obtain ⟨oidRest, algorithmSplit⟩ : ∃ rest,
      (algorithmItem entry.oid parameters).value =
        (oidItem entry.oid).encode ++ rest := by
    cases parameters with
    | null => exact ⟨_, algorithmItem_value_null entry.oid⟩
    | absent =>
        exact ⟨[], by rw [algorithmItem_value_absent, List.append_nil]⟩
  have oidRead := readTag_item portalDerOid
    (oidItem entry.oid) algorithmSplit rfl (by decide) (by
      simp only [oidItem]
      omega)
  have nonempty : digestInfo entry.oid parameters digest ≠ [] := by
    simp [digestInfo, Tlv.encode]
  have dropped :
      (digestInfoItem entry.oid parameters digest).value.drop
          (algorithmItem entry.oid parameters).encode.length =
        (octetStringItem digest).encode := by
    rw [digestInfoItem_value, List.drop_left]
  have valueRead := readTag_item portalDerOctetString
    (octetStringItem digest) (dropped.trans (List.append_nil _).symm)
    rfl (by decide) (by
      simp only [octetStringItem]
      omega)
  have valueEnds :
      (algorithmItem entry.oid parameters).encode.length +
          (octetStringItem digest).encode.length =
        (digestInfoItem entry.oid parameters digest).value.length := by
    rw [digestInfoItem_value, List.length_append]
  have accepted := parametersAccepted_complete entry.oid parameters
    (algorithmItem entry.oid parameters).encode.length
  have found := hashTable_find?_oid listed
  simp only [portalDigestinfoParse, Option.bind_eq_bind,
    Option.bind_eq_some_iff, Option.guard_eq_some', Option.pure_def]
  exact ⟨(), nonempty, _, outerRead, (), rfl, _, algorithmRead, _, oidRead,
    (), accepted, entry, found, _, valueRead, (), valueEnds,
    (), lengthEq, rfl⟩

/-- The accepted language, in full. -/
theorem portalDigestinfoParse_eq_some_iff
    (data digest : Octets) (name : String) :
    portalDigestinfoParse data = some (name, digest) ↔
      ∃ entry ∈ hashTable, entry.name = name ∧
        digest.length = entry.length ∧
        ∃ parameters, data = digestInfo entry.oid parameters digest := by
  constructor
  · exact portalDigestinfoParse_sound
  · rintro ⟨entry, listed, rfl, lengthEq, parameters, rfl⟩
    exact portalDigestinfoParse_complete listed parameters lengthEq

/-- The two encodings of a short digest differ in their length. -/
theorem digestInfo_null_length
    {entry : HashEntry} (listed : entry ∈ hashTable) {digest : Octets}
    (length : digest.length = entry.length) :
    (digestInfo entry.oid .null digest).length =
      (digestInfo entry.oid .absent digest).length + 2 := by
  rcases hashTable_lengths listed with ⟨digestShort, oidShort⟩
  have oidEncoded : (oidItem entry.oid).encode.length =
      entry.oid.length + 2 :=
    encode_length_of_short (oidItem entry.oid) (by
      simp only [oidItem]
      omega)
  have digestEncoded : (octetStringItem digest).encode.length =
      digest.length + 2 :=
    encode_length_of_short (octetStringItem digest) (by
      simp only [octetStringItem]
      omega)
  have nullEncoded : nullItem.encode.length = 2 := by decide
  have nullShort : (algorithmItem entry.oid .null).encode.length =
      entry.oid.length + 6 := by
    rw [encode_length_of_short _ (by simp [oidEncoded, nullEncoded]; omega)]
    simp [oidEncoded, nullEncoded]
  have absentShort : (algorithmItem entry.oid .absent).encode.length =
      entry.oid.length + 4 := by
    rw [encode_length_of_short _ (by simp [oidEncoded]; omega)]
    simp [oidEncoded]
  rw [digestInfo, digestInfo, encode_length_of_short,
    encode_length_of_short] <;>
    simp only [digestInfoItem_value, List.length_append, digestEncoded,
      nullShort, absentShort] <;> omega

/-- Two hashes of the table have different names. -/
theorem eq_of_name
    {first second : HashEntry} (listed : first ∈ hashTable)
    (other : second ∈ hashTable) (named : first.name = second.name) :
    first = second := by
  have found := hashEntry_name listed
  rw [named, hashEntry_name other] at found
  exact (Option.some.inj found).symm

/-- What is accepted is a whole DigestInfo of a listed hash, and a digest of
a listed hash has two of them.  The listed hashes are those of the standard,
under their registered numbers. -/
theorem accepts_digestInfo_exactly :
    hashTable.map (fun entry => (entry.name, entry.length, entry.oid)) =
      Sha.all.map (fun sha =>
        (shaName sha, sha.length, objectIdentifier sha.arcs)) ∧
    (∀ (data digest : Octets) (name : String),
      portalDigestinfoParse data = some (name, digest) ↔
        ∃ entry ∈ hashTable, entry.name = name ∧
          digest.length = entry.length ∧
          ∃ parameters, data = digestInfo entry.oid parameters digest) ∧
      ∀ entry ∈ hashTable, ∀ digest : Octets,
        digest.length = entry.length →
          digestInfo entry.oid .null digest ≠
              digestInfo entry.oid .absent digest ∧
            ∀ data,
              portalDigestinfoParse data = some (entry.name, digest) ↔
                data = digestInfo entry.oid .null digest ∨
                  data = digestInfo entry.oid .absent digest := by
  refine ⟨hashTable_sha, portalDigestinfoParse_eq_some_iff, ?_⟩
  intro entry listed digest length
  constructor
  · intro same
    have longer := digestInfo_null_length listed length
    rw [same] at longer
    omega
  · intro data
    rw [portalDigestinfoParse_eq_some_iff]
    constructor
    · rintro ⟨other, otherListed, named, -, parameters, rfl⟩
      have same := eq_of_name otherListed listed named
      subst same
      cases parameters with
      | null => exact Or.inl rfl
      | absent => exact Or.inr rfl
    · rintro (rfl | rfl)
      · exact ⟨entry, listed, rfl, length, .null, rfl⟩
      · exact ⟨entry, listed, rfl, length, .absent, rfl⟩

/-- Both encodings of a digest are accepted. -/
theorem accepts_digestInfo_exactly_sha1 :
    let digest : Octets := List.replicate 20 0
    digestInfo oidSha1 .null digest ≠ digestInfo oidSha1 .absent digest ∧
      portalDigestinfoParse (digestInfo oidSha1 .null digest) =
        some ("SHA1", digest) ∧
      portalDigestinfoParse (digestInfo oidSha1 .absent digest) =
        some ("SHA1", digest) := by
  intro digest
  rcases accepts_digestInfo_exactly.2.2
      ⟨"SHA1", 20, .sha1, ckmSha1, ckgMgf1Sha1, oidSha1⟩
      (List.mem_cons_self ..) digest rfl with ⟨apart, accepted⟩
  exact ⟨apart, (accepted _).mpr (.inl rfl), (accepted _).mpr (.inr rfl)⟩

end PortalCertificate.Module.Mechanism
