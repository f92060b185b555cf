import Mathlib.Data.List.Basic

/-!
# Hashing through GnuTLS

The module hashes messages with GnuTLS.  The library is represented by its
hash functions and the one fact the module relies on, that a digest has the
length of its algorithm.
-/

namespace PortalCertificate.Gnutls

/-- What hash functions take and give. -/
abbrev Octets := List UInt8

/-- The digest identifiers the module uses. -/
inductive GnutlsDigest where
  | unknown
  | sha1
  | sha224
  | sha256
  | sha384
  | sha512
  deriving DecidableEq, Repr

/-- `gnutls_hash_get_len`; an unknown digest has no length. -/
def GnutlsDigest.length : GnutlsDigest → Nat
  | .unknown => 0
  | .sha1 => 20
  | .sha224 => 28
  | .sha256 => 32
  | .sha384 => 48
  | .sha512 => 64

/-- The hash functions, with digests of the documented lengths. -/
structure HashFunctions where
  hash : GnutlsDigest → Octets → Octets
  hash_length : ∀ digest input, (hash digest input).length = digest.length

/-- Constant digests, to run the model with. -/
def constantHashes : HashFunctions where
  hash digest _ := List.replicate digest.length 0
  hash_length := by simp

instance : Inhabited HashFunctions := ⟨constantHashes⟩

/-- `gnutls_hash_hd_t`: the algorithm and what has been hashed so far. -/
structure HashHandle where
  digest : GnutlsDigest
  fed : Octets
  deriving DecidableEq, Repr

end PortalCertificate.Gnutls
