import PortalCertificate.Library.DigestInfo
import PortalCertificate.Pkcs11

/-!
# What a signing mechanism means

PKCS#11 composes its signing mechanisms from three raw ones.  A mechanism
that carries a hash signs the digest of its input, and `CKM_RSA_PKCS` signs a
DigestInfo.  This file states that meaning for the mechanisms of the
interface, without reference to any table of the repository: the standard's
hash functions are an enumeration with their registered numbers.
-/

namespace PortalCertificate.Pkcs11Signing

open PortalCertificate.Library.Der (Octets objectIdentifier)
open PortalCertificate.Library.DigestInfo
open PortalCertificate.Pkcs11

/-- The hash functions of the Secure Hash Standard in use. -/
inductive Sha where
  | sha1
  | sha224
  | sha256
  | sha384
  | sha512
  deriving DecidableEq, Repr

namespace Sha

/-- The hash functions that the mechanisms know. -/
def all : List Sha := [.sha1, .sha224, .sha256, .sha384, .sha512]

theorem mem_all (sha : Sha) : sha ∈ all := by
  cases sha <;> decide

/-- The length of a digest in octets. -/
def length : Sha → Nat
  | .sha1 => 20
  | .sha224 => 28
  | .sha256 => 32
  | .sha384 => 48
  | .sha512 => 64

/-- The object identifiers of RFC 8017, appendix B.1. -/
def oid : Sha → Octets
  | .sha1 => [0x2b, 0x0e, 0x03, 0x02, 0x1a]
  | .sha224 => [0x60, 0x86, 0x48, 0x01, 0x65, 0x03, 0x04, 0x02, 0x04]
  | .sha256 => [0x60, 0x86, 0x48, 0x01, 0x65, 0x03, 0x04, 0x02, 0x01]
  | .sha384 => [0x60, 0x86, 0x48, 0x01, 0x65, 0x03, 0x04, 0x02, 0x02]
  | .sha512 => [0x60, 0x86, 0x48, 0x01, 0x65, 0x03, 0x04, 0x02, 0x03]

/-- The numbers under which the hash functions are registered. -/
def arcs : Sha → List Nat
  | .sha1 => [1, 3, 14, 3, 2, 26]
  | .sha224 => [2, 16, 840, 1, 101, 3, 4, 2, 4]
  | .sha256 => [2, 16, 840, 1, 101, 3, 4, 2, 1]
  | .sha384 => [2, 16, 840, 1, 101, 3, 4, 2, 2]
  | .sha512 => [2, 16, 840, 1, 101, 3, 4, 2, 3]

theorem oid_eq (sha : Sha) : sha.oid = objectIdentifier sha.arcs := by
  cases sha <;> decide

/-- The digest mechanism, which also names the hash in parameters. -/
def digestMechanism : Sha → CkUlong
  | .sha1 => ckmSha1
  | .sha224 => ckmSha224
  | .sha256 => ckmSha256
  | .sha384 => ckmSha384
  | .sha512 => ckmSha512

/-- The mechanism that hashes, and signs as PKCS #1 v1.5 does. -/
def rsaPkcs : Sha → CkUlong
  | .sha1 => ckmSha1RsaPkcs
  | .sha224 => ckmSha224RsaPkcs
  | .sha256 => ckmSha256RsaPkcs
  | .sha384 => ckmSha384RsaPkcs
  | .sha512 => ckmSha512RsaPkcs

/-- The mechanism that hashes, and signs as PSS does. -/
def rsaPkcsPss : Sha → CkUlong
  | .sha1 => ckmSha1RsaPkcsPss
  | .sha224 => ckmSha224RsaPkcsPss
  | .sha256 => ckmSha256RsaPkcsPss
  | .sha384 => ckmSha384RsaPkcsPss
  | .sha512 => ckmSha512RsaPkcsPss

/-- The mechanism that hashes, and signs as ECDSA does. -/
def ecdsa : Sha → CkUlong
  | .sha1 => ckmEcdsaSha1
  | .sha224 => ckmEcdsaSha224
  | .sha256 => ckmEcdsaSha256
  | .sha384 => ckmEcdsaSha384
  | .sha512 => ckmEcdsaSha512

end Sha

/-- A mechanism handed to the token and the octets it signs. -/
structure TokenSignature where
  mechanism : CkTokenMechanism
  payload : Octets
  deriving DecidableEq, Repr

/-- A `CKM_RSA_PKCS` signature of a payload. -/
def rawRsaPkcs (payload : Octets) : TokenSignature where
  mechanism := ⟨ckmRsaPkcs, .null⟩
  payload := payload

/-- A `CKM_RSA_PKCS_PSS` signature of a digest. -/
def rawRsaPss
    (parameters : CkRsaPkcsPssParams) (payload : Octets) :
    TokenSignature where
  mechanism := ⟨ckmRsaPkcsPss, .pss parameters⟩
  payload := payload

/-- A `CKM_ECDSA` signature of a digest. -/
def rawEcdsa (payload : Octets) : TokenSignature where
  mechanism := ⟨ckmEcdsa, .null⟩
  payload := payload

/--
`Means hash mechanism message signature` says that signing `message` with
`mechanism` is signing the payload with the raw mechanism of `signature`.
-/
inductive Means (hash : Sha → Octets → Octets) :
    CkMechanism → Octets → TokenSignature → Prop where
  | rsaPkcs (sha : Sha) (memory : Option CkParameterMemory)
      (parameterLen : CkUlong) (message : Octets) :
      Means hash ⟨sha.rsaPkcs, memory, parameterLen⟩ message
        (rawRsaPkcs (digestInfo sha.oid .null (hash sha message)))
  | rsaPss (memory : CkParameterMemory) (parameterLen : CkUlong)
      (digest : Octets) :
      Means hash ⟨ckmRsaPkcsPss, some memory, parameterLen⟩ digest
        (rawRsaPss memory.pss digest)
  | rsaPssHashed (sha : Sha) (memory : CkParameterMemory)
      (parameterLen : CkUlong) (message : Octets)
      (same : memory.pss.hashAlg = sha.digestMechanism) :
      Means hash ⟨sha.rsaPkcsPss, some memory, parameterLen⟩ message
        (rawRsaPss memory.pss (hash sha message))
  | ecdsa (memory : Option CkParameterMemory) (parameterLen : CkUlong)
      (digest : Octets) :
      Means hash ⟨ckmEcdsa, memory, parameterLen⟩ digest (rawEcdsa digest)
  | ecdsaHashed (sha : Sha) (memory : Option CkParameterMemory)
      (parameterLen : CkUlong) (message : Octets) :
      Means hash ⟨sha.ecdsa, memory, parameterLen⟩ message
        (rawEcdsa (hash sha message))

end PortalCertificate.Pkcs11Signing
