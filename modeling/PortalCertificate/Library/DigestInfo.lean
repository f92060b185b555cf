import PortalCertificate.Library.Der

/-!
# DigestInfo

RFC 8017 signs the distinguished encoding of

`SEQUENCE { SEQUENCE { OID, parameters }, OCTET STRING }`,

where the object identifier names a hash function and the octet string is a
digest.  The parameters of a hash function are `NULL` or absent; a signer
writes `NULL`, and a verifier accepts both.
-/

namespace PortalCertificate.Library.DigestInfo

open PortalCertificate.Library.Der

/-- The two forms of the parameters of a hash algorithm. -/
inductive Parameters where
  | null
  | absent
  deriving DecidableEq, Repr

/-- An OBJECT IDENTIFIER, given by its contents. -/
def oidItem (oid : Octets) : Tlv where
  tag := 0x06
  value := oid

/-- The item NULL. -/
def nullItem : Tlv where
  tag := 0x05
  value := []

/-- An OCTET STRING. -/
def octetStringItem (octets : Octets) : Tlv where
  tag := 0x04
  value := octets

/-- The parts of the algorithm identifier. -/
def algorithmParts (oid : Octets) : Parameters → List Tlv
  | .null => [oidItem oid, nullItem]
  | .absent => [oidItem oid]

/-- An AlgorithmIdentifier. -/
def algorithmItem (oid : Octets) (parameters : Parameters) : Tlv :=
  .constructed 0x30 (algorithmParts oid parameters)

/-- A DigestInfo, as PKCS #1 defines it. -/
def digestInfoItem
    (oid : Octets) (parameters : Parameters) (digest : Octets) : Tlv :=
  .constructed 0x30
    [algorithmItem oid parameters, octetStringItem digest]

/-- The encoding of a digest under a hash algorithm. -/
def digestInfo
    (oid : Octets) (parameters : Parameters) (digest : Octets) : Octets :=
  (digestInfoItem oid parameters digest).encode

@[simp]
theorem algorithmItem_value_null (oid : Octets) :
    (algorithmItem oid .null).value =
      (oidItem oid).encode ++ nullItem.encode := by
  simp [algorithmItem, algorithmParts, Tlv.constructed]

@[simp]
theorem algorithmItem_value_absent (oid : Octets) :
    (algorithmItem oid .absent).value = (oidItem oid).encode := by
  simp [algorithmItem, algorithmParts, Tlv.constructed]

@[simp]
theorem digestInfoItem_value
    (oid : Octets) (parameters : Parameters) (digest : Octets) :
    (digestInfoItem oid parameters digest).value =
      (algorithmItem oid parameters).encode ++
        (octetStringItem digest).encode := by
  simp [digestInfoItem, Tlv.constructed]

theorem encode_length_of_short (item : Tlv) (short : item.value.length < 128) :
    item.encode.length = item.value.length + 2 := by
  simp [Tlv.encode_short item short]

end PortalCertificate.Library.DigestInfo
