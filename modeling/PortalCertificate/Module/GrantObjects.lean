import PortalCertificate.Module.Der
import PortalCertificate.Module.Objects
import PortalCertificate.Module.Session

/-!
# The objects made for a grant

`portal_objects_new` presents the certificate of a grant as three objects, the
certificate and its two keys.  What GnuTLS reads from the certificate is a
parameter.

The handle of an object is made of the number of grant releases and of the
object's index, and has 32 bits.  It determines the index, but the number
only modulo `2 ^ 28`.
-/

namespace PortalCertificate.Module.GrantObjects

open PortalCertificate.Library.Der (Octets)
open PortalCertificate.Module.Der
open PortalCertificate.Module.Objects
open PortalCertificate.Module.Session
open PortalCertificate.Module.Template (portalObjectLabel)
open PortalCertificate.Pkcs11

/-! ## Attributes -/

/-- `add_bytes`. -/
def addBytes (type : CkUlong) (value : Octets) : PortalAttribute :=
  ⟨type, some value, false⟩

/-- `add_ulong`. -/
def addUlong (type value : CkUlong) : PortalAttribute :=
  addBytes type (ulongOctets value)

/-- `add_bool`. -/
def addBool (type : CkUlong) (value : Bool) : PortalAttribute :=
  addBytes type [if value then 1 else 0]

/-- `add_sensitive`. -/
def addSensitive (type : CkUlong) : PortalAttribute :=
  ⟨type, none, true⟩

/-! ## Handles -/

/-- `HANDLE_CERTIFICATE`. -/
def handleCertificate : UInt32 := 1
/-- `HANDLE_PUBLIC_KEY`. -/
def handlePublicKey : UInt32 := 2
/-- `HANDLE_PRIVATE_KEY`. -/
def handlePrivateKey : UInt32 := 3

/-- The handle `object_new` makes, at the width of `guint`. -/
def objectHandle (generation index : UInt32) : CkUlong :=
  (generation <<< 4 ||| index).toUInt64

/-- `object_new`. -/
def objectNew
    (generation index : UInt32) (objectClass : CkUlong)
    (attributes : List PortalAttribute) : PortalObject where
  handle := objectHandle generation index
  objectClass := objectClass
  attributes := addUlong ckaClass objectClass :: attributes

/-! ## Certificates -/

/-- What GnuTLS answers about an imported certificate. -/
structure Certificate where
  /-- A public key could be imported from it. -/
  publicKey : Bool
  /-- `gnutls_pubkey_export2`. -/
  exported : Option Octets
  rawDn : Option Octets
  rawIssuerDn : Option Octets
  serial : Option Octets
  /-- `gnutls_pubkey_export_rsa_raw`: the modulus and the exponent. -/
  rsaRaw : Option (Octets × Octets)
  deriving DecidableEq, Repr

/-- The functions of GnuTLS that `parse_certificate` calls. -/
structure CertificateLibrary where
  /-- `gnutls_x509_crt_init` succeeds. -/
  initialises : Bool
  /-- `gnutls_x509_crt_import`. -/
  imports : Octets → Option Certificate
  /-- `gnutls_hash_fast` with `GNUTLS_DIG_SHA1`. -/
  sha1 : Octets → Option Octets

/-- What is read in the certificate of a grant. -/
structure ParsedCertificate where
  certificate : Certificate
  spki : Octets
  identifier : Octets
  subject : Octets
  issuer : Octets
  serial : Octets
  deriving DecidableEq, Repr

/-- An error carries its message. -/
def parseCertificate
    (gnutls : CertificateLibrary) (der : Octets) :
    Except String ParsedCertificate :=
  if !gnutls.initialises then
    .error "Certificate allocation failed"
  else
    match gnutls.imports der with
    | none => .error "Portal returned an invalid certificate"
    | some certificate =>
        if !certificate.publicKey then
          .error "Certificate has no usable public key"
        else
          match certificate.exported with
          | none => .error "Public key export failed"
          | some spki =>
              match gnutls.sha1 spki with
              | none => .error "Object identifier derivation failed"
              | some identifier =>
                  .ok
                    { certificate
                      spki
                      identifier
                      subject := certificate.rawDn.getD []
                      issuer := certificate.rawIssuerDn.getD []
                      serial :=
                        match certificate.serial with
                        | some serial =>
                            portalDerEncode portalDerInteger serial
                        | none => [] }

/-- The algorithm's parameters, if there are any, and the key's octets. -/
def spkiSplit (spki : Octets) : Option (Option Octets × Octets) := do
  let outer ← portalDerReadTag spki portalDerSequence
  let algorithm ← portalDerReadTag outer.value portalDerSequence
  let oid ← portalDerReadTag algorithm.value portalDerOid
  let bits ← portalDerReadTag (outer.value.drop algorithm.consumed)
    portalDerBitString
  -- The first octet counts the unused bits.
  match bits.value with
  | 0 :: key =>
      some
        (if oid.consumed < algorithm.value.length then
          some (algorithm.value.drop oid.consumed)
        else
          none, key)
  | _ => none

/-- At least one octet stays. -/
def stripLeadingZeros : Octets → Octets
  | 0 :: next :: rest => stripLeadingZeros (next :: rest)
  | octets => octets

/-- `add_key_public_parts`. -/
def addKeyPublicParts
    (parsed : ParsedCertificate) (isRsa : Bool) : List PortalAttribute :=
  if isRsa then
    match parsed.certificate.rsaRaw with
    | none => []
    | some (modulus, exponent) =>
        let modulus := stripLeadingZeros modulus
        [ addBytes ckaModulus modulus,
          addUlong ckaModulusBits (UInt64.ofNat (modulus.length * 8)),
          addBytes ckaPublicExponent (stripLeadingZeros exponent) ]
  else
    match spkiSplit parsed.spki with
    | none => []
    | some (parameters, key) =>
        (parameters.map (addBytes ckaEcParams)).toList ++
          [addBytes ckaEcPoint (portalDerEncode portalDerOctetString key)]

/-! ## Objects -/

/-- The certificate of a grant. -/
def certificateObject
    (grant : PortalGrant) (generation : UInt32)
    (parsed : ParsedCertificate) : PortalObject :=
  objectNew generation handleCertificate ckoCertificate
    [ addBool ckaToken true,
      addBool ckaPrivate false,
      addBool ckaModifiable false,
      addBool ckaDestroyable false,
      addBool ckaTrusted false,
      addUlong ckaCertificateType ckcX509,
      addUlong ckaCertificateCategory ckCertificateCategoryTokenUser,
      addBytes ckaLabel portalObjectLabel,
      addBytes ckaId parsed.identifier,
      addBytes ckaSubject parsed.subject,
      addBytes ckaIssuer parsed.issuer,
      addBytes ckaSerialNumber parsed.serial,
      addBytes ckaValue grant.certificateDer ]

/-- What both keys say at their start. -/
def keyAttributes
    (parsed : ParsedCertificate) (isPrivate isRsa : Bool) :
    List PortalAttribute :=
  [ addBool ckaToken true,
    addBool ckaPrivate isPrivate,
    addBool ckaModifiable false,
    addBool ckaDestroyable false,
    addBool ckaLocal false,
    addUlong ckaKeyType (if isRsa then ckkRsa else ckkEc),
    addBytes ckaLabel portalObjectLabel,
    addBytes ckaId parsed.identifier,
    addBytes ckaSubject parsed.subject ]

/-- The public key of a grant. -/
def publicKeyObject
    (grant : PortalGrant) (generation : UInt32)
    (parsed : ParsedCertificate) (isRsa : Bool) : PortalObject :=
  objectNew generation handlePublicKey ckoPublicKey
    (keyAttributes parsed false isRsa ++
    [ addBool ckaVerify true,
      addBool ckaVerifyRecover false,
      addBool ckaEncrypt grant.mayDecrypt,
      addBool ckaWrap false,
      addBool ckaDerive false ] ++
    addKeyPublicParts parsed isRsa)

/-- The private key of a grant. -/
def privateKeyObject
    (grant : PortalGrant) (generation : UInt32)
    (parsed : ParsedCertificate) (isRsa : Bool) : PortalObject :=
  objectNew generation handlePrivateKey ckoPrivateKey
    (keyAttributes parsed true isRsa ++
    [ addBool ckaSign grant.maySign,
      addBool ckaSignRecover false,
      addBool ckaDecrypt grant.mayDecrypt,
      addBool ckaUnwrap false,
      addBool ckaDerive false,
      addBool ckaSensitive true,
      addBool ckaAlwaysSensitive true,
      addBool ckaExtractable false,
      addBool ckaNeverExtractable true,
      addBool ckaAlwaysAuthenticate false ] ++
    addKeyPublicParts parsed isRsa ++
    [addSensitive ckaValue] ++
    if isRsa then
      [ addSensitive ckaPrivateExponent,
        addSensitive ckaPrime1,
        addSensitive ckaPrime2,
        addSensitive ckaExponent1,
        addSensitive ckaExponent2,
        addSensitive ckaCoefficient ]
    else
      [])

/-- `portal_objects_new`. -/
def portalObjectsNew
    (gnutls : CertificateLibrary) (grant : PortalGrant)
    (generation : UInt32) : Except String PortalObjects :=
  match parseCertificate gnutls grant.certificateDer with
  | .error message => .error message
  | .ok parsed =>
      let isRsa := grant.keyType != "EC"
      .ok
        { objects :=
            [ certificateObject grant generation parsed,
              publicKeyObject grant generation parsed isRsa,
              privateKeyObject grant generation parsed isRsa ]
          identifier := parsed.identifier }

/-! ## What handles tell -/

/-- A handle holds the index and 28 bits of the generation. -/
theorem toNat_objectHandle
    {index : UInt32} (small : index.toNat < 16) (generation : UInt32) :
    (objectHandle generation index).toNat =
      16 * (generation.toNat % 2 ^ 28) + index.toNat := by
  have shifted : (generation <<< 4).toNat =
      2 ^ 4 * (generation.toNat % 2 ^ 28) := by
    rw [UInt32.toNat_shiftLeft]
    show generation.toNat <<< 4 % 2 ^ 32 = _
    rw [Nat.shiftLeft_eq]
    omega
  rw [objectHandle, UInt32.toNat_toUInt64, UInt32.toNat_or, shifted,
    ← Nat.two_pow_add_eq_or_of_lt small]

/-- The handles of one grant are those of its generation. -/
def handlesOf (generation : UInt32) : List CkUlong :=
  [handleCertificate, handlePublicKey, handlePrivateKey].map
    (objectHandle generation)

/-- The numbers of the objects fit into the low bits of a handle. -/
theorem index_small :
    ∀ index ∈ [handleCertificate, handlePublicKey, handlePrivateKey],
      index.toNat < 16 := by
  simp only [List.forall_mem_cons, List.not_mem_nil, false_imp_iff,
    implies_true, and_true]
  decide

/-- Two generations share a handle just when they agree in 28 bits. -/
theorem mem_handlesOf_iff
    {first : UInt32} {handle : CkUlong} (member : handle ∈ handlesOf first)
    (second : UInt32) :
    handle ∈ handlesOf second ↔
      first.toNat % 2 ^ 28 = second.toNat % 2 ^ 28 := by
  have small := index_small
  rcases List.mem_map.mp member with ⟨index, known, rfl⟩
  constructor
  · intro shared
    rcases List.mem_map.mp shared with ⟨other, known', same⟩
    have numbers := congrArg UInt64.toNat same
    rw [toNat_objectHandle (small _ known'),
      toNat_objectHandle (small _ known)] at numbers
    have bound := small _ known
    have bound' := small _ known'
    omega
  · intro congruent
    refine List.mem_map.mpr ⟨index, known, UInt64.toNat_inj.mp ?_⟩
    rw [toNat_objectHandle (small _ known),
      toNat_objectHandle (small _ known), congruent]

/-- The objects of a grant have the handles of its generation. -/
theorem handles_portalObjectsNew
    {gnutls : CertificateLibrary} {grant : PortalGrant}
    {generation : UInt32} {objects : PortalObjects}
    (created : portalObjectsNew gnutls grant generation = .ok objects) :
    objects.objects.map PortalObject.handle = handlesOf generation := by
  unfold portalObjectsNew at created
  split at created
  · cases created
  · rw [← Except.ok.inj created]
    rfl

/-- An object resolves exactly when its handle is among the objects'. -/
theorem isSome_portalObjectsLookup
    (objects : PortalObjects) (handle : CkUlong) :
    (portalObjectsLookup (some objects) handle).isSome ↔
      handle ∈ objects.objects.map PortalObject.handle := by
  rw [portalObjectsLookup, List.find?_isSome, List.mem_map]
  simp only [beq_iff_eq]

end PortalCertificate.Module.GrantObjects
