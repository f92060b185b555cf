import PortalCertificate.Broker.Mechanism
import PortalCertificate.Module.Sign
import PortalCertificate.Pkcs11Signing

/-!
# Agreement of the hash and mechanism tables

The module and the backend each have a table of hash functions, and they meet
only through names.  Both tables are compared here with the standard's
enumeration: every entry is the entry of one hash function, every name the
module sends is parsed back to that function, and the backend's DigestInfo
prefixes are the encodings they stand for.
-/

namespace PortalCertificate.EndToEnd.Tables

open PortalCertificate.Broker
open PortalCertificate.Gnutls (GnutlsDigest HashFunctions)
open PortalCertificate.Library.Der
open PortalCertificate.Library.DigestInfo
open PortalCertificate.Module.Mechanism
open PortalCertificate.Pkcs11
open PortalCertificate.Pkcs11Signing

/-! ## Names of the standard's hash functions -/

/-- The mask generation function the module sends. -/
def shaMgfName : Sha → String
  | .sha1 => "MGF1-SHA1"
  | .sha224 => "MGF1-SHA224"
  | .sha256 => "MGF1-SHA256"
  | .sha384 => "MGF1-SHA384"
  | .sha512 => "MGF1-SHA512"

/-- The mask generation function that PKCS #11 names for a hash. -/
def shaMgf : Sha → CkUlong
  | .sha1 => ckgMgf1Sha1
  | .sha224 => ckgMgf1Sha224
  | .sha256 => ckgMgf1Sha256
  | .sha384 => ckgMgf1Sha384
  | .sha512 => ckgMgf1Sha512

/-- The hash as GnuTLS names it. -/
def shaGnutls : Sha → GnutlsDigest
  | .sha1 => .sha1
  | .sha224 => .sha224
  | .sha256 => .sha256
  | .sha384 => .sha384
  | .sha512 => .sha512

/-- The hash functions GnuTLS computes. -/
def shaHash (hashes : HashFunctions) (sha : Sha) : Octets → Octets :=
  hashes.hash (shaGnutls sha)

theorem shaHash_length
    (hashes : HashFunctions) (sha : Sha) (message : Octets) :
    (shaHash hashes sha message).length = sha.length := by
  rw [shaHash, hashes.hash_length]
  cases sha <;> rfl

/-! ## The module's table -/

/-- The row of the module's hash table for a hash. -/
def moduleEntry (sha : Sha) : HashEntry where
  name := shaName sha
  length := sha.length
  gnutlsDigest := shaGnutls sha
  ckDigest := sha.digestMechanism
  mgf := shaMgf sha
  oid := sha.oid

theorem moduleHashTable_eq : hashTable = Sha.all.map moduleEntry := rfl

theorem mem_moduleHashTable_iff (entry : HashEntry) :
    entry ∈ hashTable ↔ ∃ sha, entry = moduleEntry sha := by
  rw [moduleHashTable_eq, List.mem_map]
  constructor
  · rintro ⟨sha, -, rfl⟩
    exact ⟨sha, rfl⟩
  · rintro ⟨sha, rfl⟩
    exact ⟨sha, sha.mem_all, rfl⟩

@[simp]
theorem portalHashLength_shaName (sha : Sha) :
    portalHashLength (some (shaName sha)) = sha.length := by
  cases sha <;> decide

@[simp]
theorem portalHashGnutls_shaName (sha : Sha) :
    portalHashGnutls (some (shaName sha)) = shaGnutls sha := by
  cases sha <;> decide

/-- A length that names a hash is the length of that hash. -/
theorem portalHashForLength_eq_some
    {length : Nat} {name : String}
    (found : portalHashForLength length = some name) :
    ∃ sha : Sha, name = shaName sha ∧ length = sha.length := by
  obtain ⟨entry, lookup, rfl⟩ := Option.map_eq_some_iff.mp found
  obtain ⟨sha, rfl⟩ := (mem_moduleHashTable_iff entry).mp
    (List.mem_of_find?_eq_some lookup)
  have matching := List.find?_some lookup
  exact ⟨sha, rfl, (beq_iff_eq.mp matching).symm⟩

/-- A digest mechanism names its own hash. -/
theorem portalHashFromCkDigest_eq_some
    {digest : CkUlong} {name : String}
    (found : portalHashFromCkDigest digest = some name) :
    ∃ sha : Sha, name = shaName sha ∧ digest = sha.digestMechanism := by
  obtain ⟨entry, lookup, rfl⟩ := Option.map_eq_some_iff.mp found
  obtain ⟨sha, rfl⟩ := (mem_moduleHashTable_iff entry).mp
    (List.mem_of_find?_eq_some lookup)
  have matching := List.find?_some lookup
  exact ⟨sha, rfl, (beq_iff_eq.mp matching).symm⟩

theorem shaName_injective {first second : Sha}
    (same : shaName first = shaName second) : first = second := by
  revert same
  cases first <;> cases second <;> decide

theorem portalMgfHash_eq_some
    {mgf : CkUlong} {sha : Sha}
    (found : portalMgfHash mgf = some (shaName sha)) :
    mgf = shaMgf sha := by
  obtain ⟨entry, lookup, name⟩ := Option.map_eq_some_iff.mp found
  obtain ⟨other, rfl⟩ := (mem_moduleHashTable_iff entry).mp
    (List.mem_of_find?_eq_some lookup)
  have matching := List.find?_some lookup
  rw [← shaName_injective name]
  exact (beq_iff_eq.mp matching).symm

@[simp]
theorem portalMgfName_shaMgf (sha : Sha) :
    portalMgfName (shaMgf sha) = some (shaMgfName sha) := by
  cases sha <;> decide

/-! ## The backend's table -/

/-- The backend's number for a hash function. -/
def brokerHash : Sha → Mechanism.NamedHash
  | .sha1 => ⟨.sha1, Mechanism.CertificateHash.noConfusion⟩
  | .sha224 => ⟨.sha224, Mechanism.CertificateHash.noConfusion⟩
  | .sha256 => ⟨.sha256, Mechanism.CertificateHash.noConfusion⟩
  | .sha384 => ⟨.sha384, Mechanism.CertificateHash.noConfusion⟩
  | .sha512 => ⟨.sha512, Mechanism.CertificateHash.noConfusion⟩

/-- The broker knows no other hash functions. -/
theorem brokerHash_surjective (hash : Mechanism.NamedHash) :
    ∃ sha, brokerHash sha = hash := by
  obtain ⟨hash, named⟩ := hash
  cases hash with
  | none => exact absurd rfl named
  | sha1 => exact ⟨.sha1, rfl⟩
  | sha224 => exact ⟨.sha224, rfl⟩
  | sha256 => exact ⟨.sha256, rfl⟩
  | sha384 => exact ⟨.sha384, rfl⟩
  | sha512 => exact ⟨.sha512, rfl⟩

/-- A name the module sends is parsed back. -/
@[simp]
theorem certificateHashParse_shaName (sha : Sha) :
    Mechanism.certificateHashParse (some (shaName sha)) =
      some (brokerHash sha) := by
  cases sha <;> decide

@[simp]
theorem mgfHashName_shaMgfName
    (sha : Sha) (entry : Mechanism.HashEntry) :
    Mechanism.mgfHashName (shaMgfName sha) entry = some (shaName sha) := by
  cases sha <;> rfl

@[simp]
theorem brokerHash_entry_length (sha : Sha) :
    (brokerHash sha).entry.length = sha.length := by
  cases sha <;> rfl

@[simp]
theorem brokerHash_entry_name (sha : Sha) :
    (brokerHash sha).entry.name = shaName sha := by
  cases sha <;> rfl

@[simp]
theorem brokerHash_entry_ckHash (sha : Sha) :
    (brokerHash sha).entry.ckHash = sha.digestMechanism := by
  cases sha <;> rfl

@[simp]
theorem brokerHash_entry_mgf (sha : Sha) :
    (brokerHash sha).entry.mgf = shaMgf sha := by
  cases sha <;> rfl

@[simp]
theorem certificateHashLength_brokerHash (sha : Sha) :
    Mechanism.certificateHashLength (brokerHash sha).val = sha.length := by
  cases sha <;> rfl

@[simp]
theorem certificateHashToString_brokerHash (sha : Sha) :
    Mechanism.certificateHashToString (brokerHash sha).val =
      shaName sha := by
  cases sha <;> rfl

/-- The prefix of the table completes a digest to its DigestInfo. -/
theorem brokerHash_digestInfo
    (sha : Sha) {digest : Octets} (length : digest.length = sha.length) :
    (brokerHash sha).entry.digestInfo ++ digest =
      digestInfo sha.oid .null digest := by
  cases sha <;>
    simp only [Sha.length] at length <;>
    simp [digestInfo, digestInfoItem, algorithmItem, algorithmParts,
      oidItem, nullItem, octetStringItem, Tlv.constructed, Tlv.encode,
      lengthOctets, Sha.oid, length] <;>
    rfl

/-- The prefix and the digest make a whole DigestInfo. -/
theorem brokerHash_digestInfo_length
    (sha : Sha) {digest : Octets} (length : digest.length = sha.length) :
    (brokerHash sha).entry.digestInfo.length + sha.length =
      (digestInfo sha.oid .null digest).length := by
  rw [← brokerHash_digestInfo sha length, List.length_append, length]

end PortalCertificate.EndToEnd.Tables
