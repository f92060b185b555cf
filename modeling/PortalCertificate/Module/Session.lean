import PortalCertificate.Gnutls
import PortalCertificate.Module.Mechanism

/-!
# Sessions and grants of the module

The records of `module.c` and `grant.h`.  A session holds at most one search,
one signing operation and one decryption.  The fields of each operation are
grouped, so that resetting an operation is one update.

Grants carry the number of the acquisition that returned them, and sessions
the number of their opening.  Both numbers are of the model only: no function
of the module reads them, and they tell apart grants and sessions that the
module's own handles and counters may confuse.
-/

namespace PortalCertificate.Module.Session

open PortalCertificate.Gnutls (HashHandle)
open PortalCertificate.Library.Der (Octets)
open PortalCertificate.Module.Mechanism
open PortalCertificate.Pkcs11

/-- `PortalGrant`: what the portal answered to an acquisition. -/
structure PortalGrant where
  acquisition : Nat
  sessionHandle : String
  owner : String
  ownerGeneration : UInt64
  certificateDer : Octets
  keyType : String
  keySize : UInt32
  keyCurve : Option String
  supportedMechanisms : List String
  maySign : Bool
  mayDecrypt : Bool
  expiresAt : Int
  deriving DecidableEq, Repr

/-- The `find_` fields. -/
structure FindOperation where
  active : Bool
  results : List CkUlong
  position : Nat
  deriving DecidableEq, Repr

/-- The `sign_` fields. -/
structure SignOperation where
  active : Bool
  mechanism : Option PortalMechanism
  hash : Option String
  mgf : Option String
  haveSalt : Bool
  salt : UInt32
  digest : Option HashHandle
  buffer : Option Octets
  deriving DecidableEq, Repr

/-- The `decrypt_` fields. -/
structure DecryptOperation where
  active : Bool
  hash : Option String
  mgf1Hash : Option String
  label : Option Octets
  deriving DecidableEq, Repr

/-- No search is active. -/
def FindOperation.idle : FindOperation where
  active := false
  results := []
  position := 0

/-- No signature is active. -/
def SignOperation.idle : SignOperation where
  active := false
  mechanism := none
  hash := none
  mgf := none
  haveSalt := false
  salt := 0
  digest := none
  buffer := none

/-- No decryption is active. -/
def DecryptOperation.idle : DecryptOperation where
  active := false
  hash := none
  mgf1Hash := none
  label := none

/-- `PortalSession`. -/
structure PortalSession where
  birth : Nat
  handle : Nat
  serial : UInt32
  flags : CkUlong
  find : FindOperation
  sign : SignOperation
  decrypt : DecryptOperation
  deriving DecidableEq, Repr

/-- `session_reset_sign`. -/
def sessionResetSign (session : PortalSession) : PortalSession :=
  { session with sign := .idle }

/-- `session_reset_decrypt`. -/
def sessionResetDecrypt (session : PortalSession) : PortalSession :=
  { session with decrypt := .idle }

@[simp]
theorem sessionResetSign_handle (session : PortalSession) :
    (sessionResetSign session).handle = session.handle := rfl

@[simp]
theorem sessionResetDecrypt_handle (session : PortalSession) :
    (sessionResetDecrypt session).handle = session.handle := rfl

/-- An octet argument and its length; `null` is a `NULL` pointer. -/
inductive CkBuffer where
  | null (size : Nat)
  | octets (octets : Octets)
  deriving DecidableEq, Repr

/-- The octets an argument carries. -/
def CkBuffer.contents : CkBuffer → Octets
  | .null _ => []
  | .octets given => given

end PortalCertificate.Module.Session
