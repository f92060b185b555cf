import PortalCertificate.Library.DerInteger
import PortalCertificate.Module.ObjectHandles
import PortalCertificate.Module.Submissions

/-!
# The size of an RSA key

The module tells the size of an RSA key in three places.  `CKA_MODULUS` holds
the octets of the modulus that GnuTLS exports, without the zeros in front.
`CKA_MODULUS_BITS` is made from the number of these octets.  The size of a
signature is made from the bits that the grant reports.

The size of a signature is the length of `CKA_MODULUS`.  `CKA_MODULUS_BITS` is
the length of the modulus in bits only where that is a multiple of eight.
-/

namespace PortalCertificate.Module.RsaMetadata

open PortalCertificate.Library.Der
open PortalCertificate.Library.DerInteger
open PortalCertificate.Library.Transition
open PortalCertificate.Module.Acquire
open PortalCertificate.Module.Calls
open PortalCertificate.Module.GrantBinding
open PortalCertificate.Module.GrantObjects
open PortalCertificate.Module.Lifecycle
open PortalCertificate.Module.Machine
open PortalCertificate.Module.ObjectHandles
open PortalCertificate.Module.Objects
open PortalCertificate.Module.Session
open PortalCertificate.Module.SessionCalls
open PortalCertificate.Module.Statics
open PortalCertificate.Module.Submissions
open PortalCertificate.Module.Threads
open PortalCertificate.Pkcs11

/-! ## The modulus -/

/-- Octets without zeros in front are the shortest of their number. -/
theorem stripLeadingZeros_eq
    {octets : Octets} (positive : 0 < ofBigEndian octets) :
    stripLeadingZeros octets = bigEndian (ofBigEndian octets) := by
  induction octets using stripLeadingZeros.induct with
  | case1 next rest ih =>
      rw [ofBigEndian_zero_cons] at positive ⊢
      rw [stripLeadingZeros, ih positive]
  | case2 octets longer =>
      have leading : octets.head? ≠ some 0 := by
        rcases octets with - | ⟨first, - | ⟨next, rest⟩⟩
        · simp
        · rintro zero
          cases Option.some.inj zero
          exact absurd positive (by decide)
        · rintro zero
          cases Option.some.inj zero
          exact longer next rest rfl
      rw [stripLeadingZeros.eq_2 octets longer,
        bigEndian_ofBigEndian octets leading]

/-! ## The keys of a grant -/

/-- The value a caller reads, unless the attribute is sensitive. -/
def attributeValue (object : PortalObject) (type : CkUlong) :
    Option Octets :=
  (findAttribute object type).bind PortalAttribute.value

/-- The object is a key. -/
def isKey (object : PortalObject) : Bool :=
  object.objectClass == ckoPublicKey || object.objectClass == ckoPrivateKey

/-- The keys that the module presents. -/
def keyObjects (state : State) : List PortalObject :=
  (state.objects.elim [] PortalObjects.objects).filter isKey

/-- An RSA grant with a modulus, as GnuTLS exports it. -/
structure RsaGrant
    (gnutls : CertificateLibrary) (grant : PortalGrant) (number : Nat) :
    Prop where
  keyType : grant.keyType ≠ "EC"
  positive : 0 < number
  /-- The size of a datum has 32 bits. -/
  exported : ∃ certificate modulus exponent,
    gnutls.imports grant.certificateDer = some certificate ∧
    certificate.rsaRaw = some (modulus, exponent) ∧
    modulus.length < 2 ^ 32 ∧ ofBigEndian modulus = number

theorem parseCertificate_imports
    {gnutls : CertificateLibrary} {der : Octets} {parsed : ParsedCertificate}
    (parses : parseCertificate gnutls der = .ok parsed) :
    gnutls.imports der = some parsed.certificate := by
  unfold parseCertificate at parses
  split_ifs at parses
  split at parses
  · cases parses
  · rename_i certificate imported
    split_ifs at parses
    split at parses
    · cases parses
    · split at parses
      · cases parses
      · rw [imported, ← Except.ok.inj parses]

/-- What the public parts of an RSA key say about the modulus. -/
theorem addKeyPublicParts_rsa
    {parsed : ParsedCertificate} {modulus exponent : Octets}
    (exported : parsed.certificate.rsaRaw = some (modulus, exponent))
    (positive : 0 < ofBigEndian modulus) :
    addKeyPublicParts parsed true =
      [ addBytes ckaModulus (bigEndian (ofBigEndian modulus)),
        addUlong ckaModulusBits (UInt64.ofNat
          ((bigEndian (ofBigEndian modulus)).length * 8)),
        addBytes ckaPublicExponent (stripLeadingZeros exponent) ] := by
  simp only [addKeyPublicParts, if_true, exported,
    stripLeadingZeros_eq positive]

/-- The keys among the objects of a grant. -/
theorem keys_of_created
    {gnutls : CertificateLibrary} {grant : PortalGrant}
    {generation : UInt32} {objects : PortalObjects}
    (created : portalObjectsNew gnutls grant generation = .ok objects) :
    ∃ parsed, gnutls.imports grant.certificateDer =
        some parsed.certificate ∧
      objects.objects.filter isKey =
        [ publicKeyObject grant generation parsed (grant.keyType != "EC"),
          privateKeyObject grant generation parsed
            (grant.keyType != "EC") ] := by
  unfold portalObjectsNew at created
  split at created
  · cases created
  · rename_i parsed parses
    rw [← Except.ok.inj created]
    exact ⟨parsed, parseCertificate_imports parses, rfl⟩

/-- What a key tells about the modulus. -/
structure TellsModulus (number : Nat) (object : PortalObject) : Prop where
  modulus : attributeValue object ckaModulus = some (bigEndian number)
  bits : attributeValue object ckaModulusBits = some (ulongOctets
    (UInt64.ofNat ((bigEndian number).length * 8)))

theorem tellsModulus_of_created
    {gnutls : CertificateLibrary} {grant : PortalGrant}
    {generation : UInt32} {objects : PortalObjects} {number : Nat}
    (rsa : RsaGrant gnutls grant number)
    (created : portalObjectsNew gnutls grant generation = .ok objects) :
    ∀ object ∈ objects.objects.filter isKey,
      TellsModulus number object := by
  rcases keys_of_created created with ⟨parsed, imported, keys⟩
  rcases rsa.exported with
    ⟨certificate, modulus, exponent, imported', exported, -, rfl⟩
  cases Option.some.inj (imported.symm.trans imported')
  have isRsa : (grant.keyType != "EC") = true := by
    simpa using rsa.keyType
  have parts := addKeyPublicParts_rsa exported rsa.positive
  rw [keys, isRsa, publicKeyObject, privateKeyObject, parts]
  simp only [List.forall_mem_cons, List.not_mem_nil, false_imp_iff,
    implies_true, and_true]
  exact ⟨⟨rfl, rfl⟩, ⟨rfl, rfl⟩⟩

/-! ## The objects in every state -/

variable {host : Host} {gnutls : CertificateLibrary}

/-- The objects have been made for the grant. -/
def PresentsGrant (gnutls : CertificateLibrary) (state : State) : Prop :=
  ∀ grant, state.grant = some grant → ∃ generation objects,
    state.objects = some objects ∧
    portalObjectsNew gnutls grant generation = .ok objects

theorem presentsGrant_step
    {world next : World} {action : Action}
    (before : PresentsGrant gnutls world.state)
    (presents : Presents (presenting host gnutls) world action next) :
    PresentsGrant gnutls next.state := by
  intro grant current
  cases presents with
  | keeps kept =>
      rcases kept.grant with ⟨same, objects, -⟩ | ⟨dropped, -⟩
      · rw [objects]
        exact before grant (same.symm.trans current)
      · rw [dropped] at current
        cases current
  | @installs thread acquisition acquired _ flying allowed installed =>
      cases Option.some.inj (installed.current.symm.trans current)
      rcases Option.isSome_iff_exists.mp allowed.presented with
        ⟨objects, presented⟩
      exact ⟨_, objects, installed.objects.trans presented,
        created_of_presenting presented⟩

theorem presentsGrant_of_reachable
    {world : World}
    (reachable : (machine (presenting host gnutls)).Reachable world) :
    PresentsGrant gnutls world.state := by
  refine reachable.invariant ?_ fun world action next before holds moves =>
    presentsGrant_step holds
      (presents_of_step (consistent_of_reachable before) moves)
  rintro world start grant current
  cases start
  cases current

/-! ## Sizes of signatures -/

/-- A call without a buffer for the result, which asks for its size. -/
inductive AsksSize : Call → Prop where
  | sign (session : Nat) (data : CkBuffer) (signatureLen : Option Nat) :
      AsksSize (.cSign session data false signatureLen)
  | signFinal (session : Nat) (signatureLen : Option Nat) :
      AsksSize (.cSignFinal session false signatureLen)
  | decrypt (session : Nat) (ciphertext : CkBuffer)
      (plaintextLen : Option Nat) :
      AsksSize (.cDecrypt session ciphertext false plaintextLen)

/-- The size that a call reports. -/
def Reports
    (host : Host) (state : State) (answers : Answers) (call : Call)
    (size : Nat) : Prop :=
  (lockedBody host state answers call).2 = .returned ⟨.ok, .length size⟩

/-- Such a call does nothing with the session but look at it. -/
theorem lockedBody_asksSize
    {call : Call} (asks : AsksSize call) (state : State)
    (answers : Answers) :
    ∃ (handle : Nat) (active : PortalSession → Bool),
      lockedBody host state answers call =
      reply (withOperationSession state handle fun state session =>
        if !active session then
          (state, answer .operationNotInitialized)
        else
          (state, ⟨.ok, .length (signatureLength state.grant)⟩)) := by
  cases asks with
  | sign session data signatureLen =>
      exact ⟨session, fun session => session.sign.active, rfl⟩
  | signFinal session signatureLen =>
      exact ⟨session, fun session => session.sign.active, rfl⟩
  | decrypt session ciphertext plaintextLen =>
      exact ⟨session, fun session => session.decrypt.active, rfl⟩

/-- The size is made from the grant. -/
theorem size_of_reports
    {state : State} {answers : Answers} {call : Call} {size : Nat}
    (asks : AsksSize call) (reports : Reports host state answers call size) :
    size = signatureLength state.grant := by
  rcases @lockedBody_asksSize host call asks state answers with
    ⟨handle, active, body⟩
  rw [Reports, body, reply, Progress.returned.injEq, withOperationSession]
    at reports
  split at reports
  · cases reports
  · rename_i next session result
    cases operationSessionLookup_ok result
    split_ifs at reports
    · cases reports
    · exact (Output.length.inj (Reply.mk.inj reports).2).symm

/-- Up to the largest sizes, a signature has the length of the modulus. -/
theorem signatureLength_eq
    {grant : PortalGrant} {number : Nat}
    (keyType : grant.keyType ≠ "EC") (positive : 0 < number)
    (sized : grant.keySize.toNat = number.size)
    (bound : number.size + 7 < 2 ^ 32) :
    signatureLength (some grant) = (bigEndian number).length := by
  have bits : 0 < number.size := Nat.size_pos.mpr positive
  have known : grant.keySize ≠ 0 := by
    intro zero
    rw [zero] at sized
    exact absurd sized bits.ne
  rw [signatureLength, if_neg known, if_neg keyType, bigEndian_length,
    UInt32.toNat_div, UInt32.toNat_add, sized]
  exact congrArg (· / 8) (Nat.mod_eq_of_lt bound)

/-! ## Agreement -/

/-- What the module tells of the modulus agrees with it. -/
structure MetadataAgrees
    (host : Host) (state : State) (grant : PortalGrant) (number : Nat) :
    Prop where
  keys : (keyObjects state).map PortalObject.objectClass =
    [ckoPublicKey, ckoPrivateKey]
  modulus : ∀ object ∈ keyObjects state,
    attributeValue object ckaModulus = some (bigEndian number)
  bits : ∀ object ∈ keyObjects state, ∃ bits : CkUlong,
    attributeValue object ckaModulusBits = some (ulongOctets bits) ∧
    bits.toNat = number.size
  sizes : grant.keySize.toNat = number.size →
    ∀ answers call size, AsksSize call →
      Reports host state answers call size →
      ∀ object ∈ keyObjects state, ∀ octets,
        attributeValue object ckaModulus = some octets →
        size = octets.length

theorem RsaGrant.length_lt
    {grant : PortalGrant} {number : Nat}
    (rsa : RsaGrant gnutls grant number) :
    (bigEndian number).length < 2 ^ 32 := by
  rcases rsa.exported with ⟨-, modulus, -, -, -, small, rfl⟩
  exact (bigEndian_length_ofBigEndian modulus).trans_lt small

/-- The keys of the grant are there, and tell its modulus. -/
theorem keyObjects_of_reachable
    {world : World} {grant : PortalGrant} {number : Nat}
    (reachable : (machine (presenting host gnutls)).Reachable world)
    (current : world.state.grant = some grant)
    (rsa : RsaGrant gnutls grant number) :
    (keyObjects world.state).map PortalObject.objectClass =
        [ckoPublicKey, ckoPrivateKey] ∧
      ∀ object ∈ keyObjects world.state, TellsModulus number object := by
  rcases presentsGrant_of_reachable reachable grant current with
    ⟨generation, objects, presented, created⟩
  have keys : keyObjects world.state = objects.objects.filter isKey := by
    rw [keyObjects, presented]
    rfl
  rw [keys]
  refine ⟨?_, tellsModulus_of_created rsa created⟩
  rcases keys_of_created created with ⟨parsed, -, same⟩
  rw [same]
  rfl

/-- `CKA_MODULUS_BITS` is right exactly for whole octets. -/
theorem TellsModulus.bits_iff
    {object : PortalObject} {number : Nat}
    (tells : TellsModulus number object)
    (small : (bigEndian number).length < 2 ^ 32) :
    (∃ bits : CkUlong,
        attributeValue object ckaModulusBits = some (ulongOctets bits) ∧
        bits.toNat = number.size) ↔
      8 ∣ number.size := by
  have told : (UInt64.ofNat ((bigEndian number).length * 8)).toNat =
      (number.size + 7) / 8 * 8 := by
    rw [UInt64.toNat_ofNat_of_lt' (by rw [UInt64.size]; omega),
      bigEndian_length]
  constructor
  · rintro ⟨bits, value, size⟩
    have same := congrArg readUlong
      (Option.some.inj (value.symm.trans tells.bits))
    rw [readUlong_ulongOctets, readUlong_ulongOctets] at same
    rw [same, told] at size
    omega
  · rintro whole
    refine ⟨_, tells.bits, told.trans ?_⟩
    omega

/-- Only a modulus of whole octets agrees. -/
theorem MetadataAgrees.whole
    {world : World} {grant : PortalGrant} {number : Nat}
    (agrees : MetadataAgrees (presenting host gnutls) world.state grant
      number)
    (reachable : (machine (presenting host gnutls)).Reachable world)
    (current : world.state.grant = some grant)
    (rsa : RsaGrant gnutls grant number) : 8 ∣ number.size := by
  rcases keyObjects_of_reachable reachable current rsa with ⟨keys, tells⟩
  have present : keyObjects world.state ≠ [] := by
    intro absent
    rw [absent] at keys
    cases keys
  rcases List.exists_mem_of_ne_nil _ present with ⟨object, member⟩
  exact ((tells object member).bits_iff rsa.length_lt).mp
    (agrees.bits object member)

/-- The three sizes agree just when the modulus fills its octets. -/
theorem metadataAgrees_iff
    {world : World} {grant : PortalGrant} {number : Nat}
    (reachable : (machine (presenting host gnutls)).Reachable world)
    (current : world.state.grant = some grant)
    (rsa : RsaGrant gnutls grant number) :
    MetadataAgrees (presenting host gnutls) world.state grant number ↔
      8 ∣ number.size := by
  rcases keyObjects_of_reachable reachable current rsa with ⟨keys, tells⟩
  refine ⟨fun agrees => agrees.whole reachable current rsa, fun whole => ?_⟩
  refine
    { keys
      modulus := fun object member => (tells object member).modulus
      bits := fun object member =>
        ((tells object member).bits_iff rsa.length_lt).mpr whole
      sizes := ?_ }
  intro sized answers call size asks reports object member octets value
  have range := grant.keySize.toNat_lt
  have bound : number.size + 7 < 2 ^ 32 := by omega
  rw [size_of_reports asks reports, current,
    signatureLength_eq rsa.keyType rsa.positive sized bound]
  exact congrArg List.length (Option.some.inj
    ((tells object member).modulus.symm.trans value))

/-! ## Runs -/

/-- A certificate is the octets of its modulus. -/
def rsaLibrary : CertificateLibrary where
  initialises := true
  imports := fun der => some
    { publicKey := true
      exported := some []
      rawDn := none
      rawIssuerDn := none
      serial := none
      rsaRaw := some (der, [1, 0, 1]) }
  sha1 := fun _ => some [1]

/-- A grant of an RSA key, whose modulus stands for its certificate. -/
def sampleRsaGrant (modulus : Octets) (keySize : UInt32) : PortalGrant :=
  { sampleGrant with
    certificateDer := modulus
    keyType := "RSA"
    keySize
    supportedMechanisms := ["RSA_PKCS1_V1_5"] }

/-- The grant is acquired, and its private key is to sign. -/
def rsaRun (modulus : Octets) (keySize : UInt32) : List Action :=
  acquiringRun ++
  [.acquired 0 (.ok (sampleRsaGrant modulus keySize))] ++
  calling 0 (.cSignInit 1 (some ⟨ckmRsaPkcs, none, 0⟩) 19)

theorem rsaGrant_sample
    {modulus : Octets} (small : modulus.length < 2 ^ 32)
    (positive : 0 < ofBigEndian modulus) (keySize : UInt32) :
    RsaGrant rsaLibrary (sampleRsaGrant modulus keySize)
      (ofBigEndian modulus) where
  keyType := show "RSA" ≠ "EC" by decide
  positive := positive
  exported := ⟨_, modulus, _, rfl, rfl, small, rfl⟩

/-- A modulus of sixteen bits fills two octets. -/
theorem metadataAgrees_sixteen :
    ∃ world,
      (machine (presenting sampleHost rsaLibrary)).run .start
        (rsaRun [0, 0xca, 0xa1] 16) = some world ∧
      MetadataAgrees (presenting sampleHost rsaLibrary) world.state
        (sampleRsaGrant [0, 0xca, 0xa1] 16) 0xcaa1 ∧
      Reports (presenting sampleHost rsaLibrary) world.state sampleAnswers
        (.cSign 1 (.octets []) false none) 2 := by
  have moved : (machine (presenting sampleHost rsaLibrary)).run .start
      (rsaRun [0, 0xca, 0xa1] 16) = some _ := rfl
  have rsa : RsaGrant rsaLibrary (sampleRsaGrant [0, 0xca, 0xa1] 16)
      0xcaa1 := rsaGrant_sample (by decide) (by decide) 16
  have size : Nat.size 0xcaa1 = 16 :=
    le_antisymm (Nat.size_le.mpr (by decide)) (Nat.lt_size.mpr (by decide))
  have whole : 8 ∣ Nat.size 0xcaa1 := by
    rw [size]
    decide
  have agrees := metadataAgrees_iff (.run (.initial rfl) moved) rfl rsa
  exact ⟨_, moved, agrees.mpr whole, rfl⟩

/-- The modulus `61 * 53` has 12 bits, and the keys tell 16. -/
theorem modulusBits_rounded :
    ∃ world,
      (machine (presenting sampleHost rsaLibrary)).Reachable world ∧
      world.state.grant = some (sampleRsaGrant [0x0c, 0xa1] 12) ∧
      RsaGrant rsaLibrary (sampleRsaGrant [0x0c, 0xa1] 12) (61 * 53) ∧
      ¬MetadataAgrees (presenting sampleHost rsaLibrary) world.state
        (sampleRsaGrant [0x0c, 0xa1] 12) (61 * 53) := by
  have moved : (machine (presenting sampleHost rsaLibrary)).run .start
      (rsaRun [0x0c, 0xa1] 12) = some _ := rfl
  have reachable := System.Reachable.run (.initial rfl) moved
  have rsa : RsaGrant rsaLibrary (sampleRsaGrant [0x0c, 0xa1] 12)
      (61 * 53) := rsaGrant_sample (by decide) (by decide) 12
  have size : Nat.size (61 * 53) = 12 :=
    le_antisymm (Nat.size_le.mpr (by decide)) (Nat.lt_size.mpr (by decide))
  refine ⟨_, reachable, rfl, rsa, fun agrees => ?_⟩
  have whole := agrees.whole reachable rfl rsa
  rw [size] at whole
  exact absurd whole (by decide)

end PortalCertificate.Module.RsaMetadata
