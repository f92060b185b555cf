import PortalCertificate.Module.ObjectHandles

/-!
# A search for token objects

All objects of a grant are token objects, so a `CKA_TOKEN` that is `CK_TRUE`
asks for nothing.  The classifier skips it at every position, and every
object matches it.  Two templates that differ in such attributes only are
classified alike and find the same objects.
-/

namespace PortalCertificate.Module.TokenNeutrality

open PortalCertificate.Module.GrantBinding (sampleGrant)
open PortalCertificate.Module.GrantObjects
open PortalCertificate.Module.ObjectHandles (sampleLibrary)
open PortalCertificate.Module.Objects
open PortalCertificate.Module.Template
open PortalCertificate.Pkcs11

/-! ## Token attributes that are true -/

/-- The attribute is a `CKA_TOKEN`, and the one octet that it names is
`CK_TRUE`. -/
def IsTokenTrue (entry : CkAttribute) : Prop :=
  entry.type = ckaToken ∧ entry.valueLen = 1 ∧ entry.bytes = some [ckTrue]

instance : DecidablePred IsTokenTrue :=
  fun _ => inferInstanceAs (Decidable (_ ∧ _ ∧ _))

/-- The template without every `CKA_TOKEN` that is `CK_TRUE`.  Without any
attribute, a pointer is not read. -/
def withoutTokenTrue : CkTemplate → CkTemplate
  | .null count => if count = 0 then .array [] else .null count
  | .array attributes =>
      .array (attributes.filter fun entry => ¬ IsTokenTrue entry)

/-- The classifier skips exactly the `CKA_TOKEN` attributes that are true. -/
theorem skipped_iff {entry : CkAttribute} :
    skipped entry = true ↔ IsTokenTrue entry := by
  simp [skipped, templateSaysTokenObject, IsTokenTrue, ckTrue]

theorem withoutTokenTrue_array (attributes : List CkAttribute) :
    withoutTokenTrue (.array attributes) =
      .array (distinguishingAttributes attributes) := by
  rw [withoutTokenTrue, distinguishingAttributes]
  congr 1
  apply List.filter_congr
  intro entry _
  rw [Bool.eq_iff_iff]
  simp [← skipped_iff]

theorem withoutTokenTrue_insert
    (front back : List CkAttribute) {entry : CkAttribute}
    (isTrue : IsTokenTrue entry) :
    withoutTokenTrue (.array (front ++ entry :: back)) =
      withoutTokenTrue (.array (front ++ back)) := by
  simp [withoutTokenTrue, isTrue]

/-! ## The classifier -/

section Intent

variable {attributes : List CkAttribute} {issuedIds : Option (List Octets)}

/-- An attribute that is skipped is no class, label or identifier. -/
theorem skipped_carries_nothing
    {entry : CkAttribute} (skip : skipped entry = true) :
    classValue entry = none ∧ isLabel entry = false ∧
      isIdentifier entry = false := by
  have type : entry.type = ckaToken := by
    simp only [skipped, Bool.and_eq_true, beq_iff_eq] at skip
    exact skip.1
  refine ⟨?_, ?_, ?_⟩
  · simp [classValue, type, ckaToken, ckaClass]
  · simp [isLabel, type, ckaToken, ckaLabel]
  · simp [isIdentifier, type, ckaToken, ckaId]

/-- The flags are those of the attributes that are not skipped. -/
theorem closedFlags_distinguishing (attributes : List CkAttribute) :
    closedFlags (distinguishingAttributes attributes) =
      closedFlags attributes := by
  have sameClasses : classes (distinguishingAttributes attributes) =
      classes attributes := by
    rw [classes, distinguishingAttributes, List.filterMap_filter]
    apply List.filterMap_congr
    intro entry _
    cases skip : skipped entry with
    | true => simp [(skipped_carries_nothing skip).1]
    | false => simp
  have sameLabels : labels (distinguishingAttributes attributes) =
      labels attributes := by
    rw [labels, labels, distinguishingAttributes, List.filter_filter]
    congr 1
    apply List.filter_congr
    intro entry _
    cases skip : skipped entry with
    | true => simp [(skipped_carries_nothing skip).2.1]
    | false => simp
  have sameIdentifiers :
      (distinguishingAttributes attributes).any isIdentifier =
        attributes.any isIdentifier := by
    rw [distinguishingAttributes, List.any_filter]
    congr 1
    funext entry
    cases skip : skipped entry with
    | true => simp [(skipped_carries_nothing skip).2.2]
    | false => simp
  have idempotent : distinguishingAttributes
      (distinguishingAttributes attributes) =
        distinguishingAttributes attributes := by
    simp [distinguishingAttributes]
  simp only [closedFlags, sameClasses, sameLabels, sameIdentifiers,
    idempotent]

theorem foreign_distinguishing :
    (distinguishingAttributes attributes).any
        (foreignIdentifier issuedIds) =
      attributes.any (foreignIdentifier issuedIds) := by
  rw [distinguishingAttributes, List.any_filter]
  congr 1
  funext entry
  cases skip : skipped entry with
  | true => simp [foreignIdentifier, (skipped_carries_nothing skip).2.2]
  | false => simp

/-- The classifier does not see the attributes that it skips. -/
theorem portalTemplateIntent_withoutTokenTrue (template : CkTemplate) :
    portalTemplateIntent (withoutTokenTrue template) issuedIds =
      portalTemplateIntent template issuedIds := by
  cases template with
  | null count =>
      by_cases empty : count = 0
      · simp [withoutTokenTrue, portalTemplateIntent, empty]
      · simp [withoutTokenTrue, empty]
  | array attributes =>
      rw [withoutTokenTrue_array]
      cases stops : attributes.any (foreignIdentifier issuedIds) with
      | true =>
          rw [portalTemplateIntent_foreign stops]
          apply portalTemplateIntent_foreign
          rw [foreign_distinguishing, stops]
      | false =>
          rw [portalTemplateIntent_closed stops,
            ← closedFlags_distinguishing]
          apply portalTemplateIntent_closed
          rw [foreign_distinguishing, stops]

end Intent

/-! ## The objects -/

/-- The object says that it is a token object. -/
def IsTokenObject (object : PortalObject) : Prop :=
  findAttribute object ckaToken = some (addBool ckaToken true)

theorem isTokenObject_portalObjectsNew
    {gnutls : CertificateLibrary} {grant : Session.PortalGrant}
    {generation : UInt32} {objects : PortalObjects}
    (created : portalObjectsNew gnutls grant generation = .ok objects) :
    ∀ object ∈ objects.objects, IsTokenObject object := by
  unfold portalObjectsNew at created
  split at created
  · cases created
  · cases created
    intro object member
    simp only [List.mem_cons, List.not_mem_nil, or_false] at member
    rcases member with rfl | rfl | rfl <;> rfl

theorem attributeMatches_skipped
    {object : PortalObject} (isToken : IsTokenObject object)
    {entry : CkAttribute} (skip : skipped entry = true) :
    attributeMatches object entry = true := by
  simp only [skipped, templateSaysTokenObject, Bool.and_eq_true,
    beq_iff_eq] at skip
  rcases skip with ⟨type, length, bytes⟩
  have found : findAttribute object ckaToken =
      some (addBool ckaToken true) := isToken
  simp [attributeMatches, type, found, addBool, addBytes, length, bytes,
    ckUnavailableInformation]

theorem portalObjectMatches_withoutTokenTrue
    {object : PortalObject} (isToken : IsTokenObject object)
    (template : CkTemplate) :
    portalObjectMatches object (withoutTokenTrue template) =
      portalObjectMatches object template := by
  cases template with
  | null count =>
      by_cases empty : count = 0
      · simp [withoutTokenTrue, portalObjectMatches, empty]
      · simp [withoutTokenTrue, empty]
  | array attributes =>
      rw [withoutTokenTrue_array, portalObjectMatches, portalObjectMatches,
        distinguishingAttributes, List.all_filter]
      congr 1
      funext entry
      cases skip : skipped entry with
      | true => simp [attributeMatches_skipped isToken skip]
      | false => simp

theorem portalObjectsFind_withoutTokenTrue
    {objects : PortalObjects}
    (areTokens : ∀ object ∈ objects.objects, IsTokenObject object)
    (template : CkTemplate) :
    portalObjectsFind (some objects) (withoutTokenTrue template) =
      portalObjectsFind (some objects) template := by
  rw [portalObjectsFind, portalObjectsFind]
  congr 1
  apply List.filter_congr
  intro object member
  exact portalObjectMatches_withoutTokenTrue (areTokens object member)
    template

/-- `CKA_TOKEN = CK_TRUE` may be inserted and removed anywhere. -/
theorem token_neutral
    {gnutls : CertificateLibrary} {grant : Session.PortalGrant}
    {generation : UInt32} {objects : PortalObjects}
    (created : portalObjectsNew gnutls grant generation = .ok objects)
    {first second : CkTemplate}
    (same : withoutTokenTrue first = withoutTokenTrue second)
    (issuedIds : Option (List Octets)) :
    portalTemplateIntent first issuedIds =
        portalTemplateIntent second issuedIds ∧
      portalObjectsFind (some objects) first =
        portalObjectsFind (some objects) second := by
  have areTokens := isTokenObject_portalObjectsNew created
  constructor
  · rw [← portalTemplateIntent_withoutTokenTrue first, same,
      portalTemplateIntent_withoutTokenTrue]
  · rw [← portalObjectsFind_withoutTokenTrue areTokens first, same,
      portalObjectsFind_withoutTokenTrue areTokens]

/-- `CKA_TOKEN = CK_TRUE`, at a pointer to two octets. -/
def tokenTrue : CkAttribute := ⟨ckaToken, some [1, 0], 1⟩

/-- `CKA_CLASS = CKO_CERTIFICATE`. -/
def certificateClass : CkAttribute :=
  ⟨ckaClass, some (ulongOctets ckoCertificate), 8⟩

/-- The search of NSS for certificates, with `CKA_TOKEN` before and after
the class, and the one without it. -/
theorem token_neutral_certificates :
    ∃ objects,
      portalObjectsNew sampleLibrary sampleGrant 1 = .ok objects ∧
      portalTemplateIntent
          (.array [tokenTrue, certificateClass, tokenTrue]) none =
        portalTemplateIntent (.array [certificateClass]) none ∧
      portalObjectsFind (some objects)
          (.array [tokenTrue, certificateClass, tokenTrue]) =
        portalObjectsFind (some objects) (.array [certificateClass]) := by
  have created : portalObjectsNew sampleLibrary sampleGrant 1 =
      .ok _ := rfl
  have isTrue : IsTokenTrue tokenTrue := by decide
  have same := (withoutTokenTrue_insert [] [certificateClass, tokenTrue]
    isTrue).trans (withoutTokenTrue_insert [certificateClass] [] isTrue)
  exact ⟨_, created, token_neutral created same none⟩

end PortalCertificate.Module.TokenNeutrality
