import Mathlib.Data.List.Induction
import PortalCertificate.Pkcs11

/-!
# Which searches may ask for a credential

`portal_template_intent` classifies the template of a search in one pass over
its attributes.  The pass keeps a few flags and stops at an identifier that
this initialization did not issue.

The pass is first brought into closed form: every flag is a statement about
the attributes, except that the label and the class are those of the last
attribute that carries one.  From the closed form the file derives exactly
which templates are classified soundly, in any order of their attributes.
-/

namespace PortalCertificate.Module.Template

open PortalCertificate.Pkcs11

/-- The octets of an attribute. -/
abbrev Octets := List UInt8

/-! ## The classifier -/

/-- `PortalTemplateIntent`. -/
inductive PortalTemplateIntent where
  | unrelated
  | enumerates
  | namesCredential
  deriving DecidableEq, Repr

/-- `PKCS11_PORTAL_OBJECT_LABEL`, the text `Portal Certificate`. -/
def portalObjectLabel : Octets :=
  [ 0x50, 0x6f, 0x72, 0x74, 0x61, 0x6c, 0x20,
    0x43, 0x65, 0x72, 0x74, 0x69, 0x66, 0x69, 0x63, 0x61, 0x74, 0x65 ]

/-- `template_names_our_label`. -/
def templateNamesOurLabel (entry : CkAttribute) : Bool :=
  entry.valueLen != ckUnavailableInformation &&
    entry.valueLen.toNat == portalObjectLabel.length &&
    entry.bytes == some portalObjectLabel

/-- `template_says_token_object`. -/
def templateSaysTokenObject (entry : CkAttribute) : Bool :=
  entry.valueLen == 1 && entry.bytes == some [1]

/-- A `CKA_TOKEN` that is `CK_TRUE` does not distinguish objects. -/
def skipped (entry : CkAttribute) : Bool :=
  entry.type == ckaToken && templateSaysTokenObject entry

/-- The class named by a well-formed `CKA_CLASS`. -/
def classValue (entry : CkAttribute) : Option CkUlong :=
  if entry.type = ckaClass ∧ entry.valueLen = 8 then
    entry.bytes.map readUlong
  else
    none

/-- The identifier is present, not empty and issued. -/
def identifierIssued
    (issuedIds : Option (List Octets)) (entry : CkAttribute) : Bool :=
  match issuedIds, entry.bytes with
  | some issuedIds, some identifier =>
      entry.valueLen != ckUnavailableInformation &&
        entry.valueLen != 0 && issuedIds.contains identifier
  | _, _ => false

/-- The local variables of the pass. -/
structure TemplateFlags where
  objectClass : CkUlong
  haveClass : Bool
  haveLabel : Bool
  labelIsOurs : Bool
  haveIdentifier : Bool
  keyShaped : Bool
  distinguishing : Nat
  deriving DecidableEq, Repr

/-- The variables before the loop. -/
def TemplateFlags.start : TemplateFlags where
  objectClass := 0
  haveClass := false
  haveLabel := false
  labelIsOurs := false
  haveIdentifier := false
  keyShaped := true
  distinguishing := 0

/-- Types that a search for a private key may mention. -/
def keyShapedType (type : CkUlong) : Bool :=
  type == ckaClass || type == ckaSign || type == ckaDecrypt

/-- One round of the loop; `none` is the early return. -/
def visitAttribute
    (issuedIds : Option (List Octets)) (flags : TemplateFlags)
    (entry : CkAttribute) : Option TemplateFlags :=
  if skipped entry then
    some flags
  else
    let counted :=
      { flags with
        distinguishing := flags.distinguishing + 1
        keyShaped := flags.keyShaped && keyShapedType entry.type }
    if entry.type = ckaClass then
      match classValue entry with
      | some objectClass =>
          some { counted with objectClass, haveClass := true }
      | none => some counted
    else if entry.type = ckaLabel then
      some
        { counted with
          haveLabel := true
          labelIsOurs := templateNamesOurLabel entry }
    else if entry.type = ckaId then
      if identifierIssued issuedIds entry then
        some { counted with haveIdentifier := true }
      else
        none
    else
      some counted

/-- The decision after the loop. -/
def TemplateFlags.intent (flags : TemplateFlags) : PortalTemplateIntent :=
  if flags.haveLabel then
    if flags.labelIsOurs then .namesCredential else .unrelated
  else if flags.haveIdentifier then
    .namesCredential
  else if flags.haveClass ∧ flags.objectClass = ckoPrivateKey ∧
      flags.keyShaped then
    .namesCredential
  else if flags.distinguishing = 0 then
    .enumerates
  else if flags.distinguishing = 1 ∧ flags.haveClass ∧
      (flags.objectClass = ckoCertificate ∨
        flags.objectClass = ckoPublicKey) then
    .enumerates
  else
    .unrelated

/-- `portal_template_intent`. -/
def portalTemplateIntent
    (template : CkTemplate) (issuedIds : Option (List Octets)) :
    PortalTemplateIntent :=
  match template with
  | .null count => if count = 0 then .enumerates else .unrelated
  | .array attributes =>
      if attributes = [] then
        .enumerates
      else
        match attributes.foldlM (visitAttribute issuedIds) .start with
        | none => .unrelated
        | some flags => flags.intent

/-- `setting` is the environment's `PKCS11_PORTAL_CERTIFICATE_ENUMERATE`. -/
def portalTemplateWantsCredential
    (template : CkTemplate) (issuedIds : Option (List Octets))
    (enumerate : Bool) (setting : Option String) : Bool :=
  match portalTemplateIntent template issuedIds with
  | .namesCredential => true
  | .enumerates => enumerate || setting == some "1"
  | .unrelated => false

/-! ## Closed form of the pass -/

/-- The attribute is a label. -/
def isLabel (entry : CkAttribute) : Bool :=
  entry.type == ckaLabel

/-- The attribute is an identifier. -/
def isIdentifier (entry : CkAttribute) : Bool :=
  entry.type == ckaId

/-- An identifier attribute that ends the pass. -/
def foreignIdentifier
    (issuedIds : Option (List Octets)) (entry : CkAttribute) : Bool :=
  isIdentifier entry && !identifierIssued issuedIds entry

/-- The labels of a template, each told apart from the contract label. -/
def labels (attributes : List CkAttribute) : List Bool :=
  (attributes.filter isLabel).map templateNamesOurLabel

/-- The well-formed classes of a template. -/
def classes (attributes : List CkAttribute) : List CkUlong :=
  attributes.filterMap classValue

/-- The attributes that tell objects apart. -/
def distinguishingAttributes (attributes : List CkAttribute) :
    List CkAttribute :=
  attributes.filter fun entry => !skipped entry

/-- The variables after the loop. -/
def closedFlags (attributes : List CkAttribute) : TemplateFlags where
  objectClass := (classes attributes).getLast?.getD 0
  haveClass := (classes attributes) != []
  haveLabel := (labels attributes) != []
  labelIsOurs := (labels attributes).getLast?.getD false
  haveIdentifier := attributes.any isIdentifier
  keyShaped := (distinguishingAttributes attributes).all
    fun entry => keyShapedType entry.type
  distinguishing := (distinguishingAttributes attributes).length

private theorem skipped_type
    {entry : CkAttribute} (skip : skipped entry = true) :
    entry.type = ckaToken := by
  simp only [skipped, Bool.and_eq_true, beq_iff_eq] at skip
  exact skip.1

private theorem visit_skipped
    (issuedIds : Option (List Octets)) (front : List CkAttribute)
    {last : CkAttribute} (skip : skipped last = true) :
    visitAttribute issuedIds (closedFlags front) last =
      some (closedFlags (front ++ [last])) := by
  have type := skipped_type skip
  simp [visitAttribute, skip, closedFlags, labels, classes,
    distinguishingAttributes, isLabel, isIdentifier, classValue, type,
    ckaToken, ckaLabel, ckaId, ckaClass]

private theorem visit_class
    (issuedIds : Option (List Octets)) (front : List CkAttribute)
    {last : CkAttribute} (skip : skipped last = false)
    (type : last.type = ckaClass) :
    visitAttribute issuedIds (closedFlags front) last =
      some (closedFlags (front ++ [last])) := by
  cases value : classValue last <;>
    simp [visitAttribute, skip, closedFlags, labels, classes,
      distinguishingAttributes, isLabel, isIdentifier, value, type,
      ckaLabel, ckaId, ckaClass]

private theorem visit_label
    (issuedIds : Option (List Octets)) (front : List CkAttribute)
    {last : CkAttribute} (skip : skipped last = false)
    (type : last.type = ckaLabel) :
    visitAttribute issuedIds (closedFlags front) last =
      some (closedFlags (front ++ [last])) := by
  simp [visitAttribute, skip, closedFlags, labels, classes,
    distinguishingAttributes, isLabel, isIdentifier, classValue, type,
    ckaLabel, ckaId, ckaClass]

private theorem visit_identifier
    (issuedIds : Option (List Octets)) (front : List CkAttribute)
    {last : CkAttribute} (skip : skipped last = false)
    (type : last.type = ckaId) :
    visitAttribute issuedIds (closedFlags front) last =
      if identifierIssued issuedIds last then
        some (closedFlags (front ++ [last]))
      else
        none := by
  simp [visitAttribute, skip, closedFlags, labels, classes,
    distinguishingAttributes, isLabel, isIdentifier, classValue, type,
    ckaLabel, ckaId, ckaClass]

private theorem visit_other
    (issuedIds : Option (List Octets)) (front : List CkAttribute)
    {last : CkAttribute} (skip : skipped last = false)
    (notClass : last.type ≠ ckaClass) (notLabel : last.type ≠ ckaLabel)
    (notIdentifier : last.type ≠ ckaId) :
    visitAttribute issuedIds (closedFlags front) last =
      some (closedFlags (front ++ [last])) := by
  simp [visitAttribute, skip, closedFlags, labels, classes,
    distinguishingAttributes, isLabel, isIdentifier, classValue, notClass,
    notLabel, notIdentifier]

private theorem visit_closedFlags
    (issuedIds : Option (List Octets)) (front : List CkAttribute)
    (last : CkAttribute) :
    visitAttribute issuedIds (closedFlags front) last =
      if foreignIdentifier issuedIds last then
        none
      else
        some (closedFlags (front ++ [last])) := by
  cases skip : skipped last with
  | true =>
      have type := skipped_type skip
      rw [visit_skipped issuedIds front skip, if_neg]
      simp [foreignIdentifier, isIdentifier, type, ckaToken, ckaId]
  | false =>
      by_cases isClass : last.type = ckaClass
      · rw [visit_class issuedIds front skip isClass, if_neg]
        simp [foreignIdentifier, isIdentifier, isClass, ckaClass, ckaId]
      by_cases label : last.type = ckaLabel
      · rw [visit_label issuedIds front skip label, if_neg]
        simp [foreignIdentifier, isIdentifier, label, ckaLabel, ckaId]
      by_cases identifier : last.type = ckaId
      · rw [visit_identifier issuedIds front skip identifier]
        cases issued : identifierIssued issuedIds last <;>
          simp [foreignIdentifier, isIdentifier, identifier, issued]
      · rw [visit_other issuedIds front skip isClass label identifier,
          if_neg]
        simp [foreignIdentifier, isIdentifier, identifier]

/-- The pass stops at a foreign identifier or ends with the closed flags. -/
theorem foldlM_visitAttribute
    (issuedIds : Option (List Octets)) (attributes : List CkAttribute) :
    attributes.foldlM (visitAttribute issuedIds) .start =
      if attributes.any (foreignIdentifier issuedIds) then
        none
      else
        some (closedFlags attributes) := by
  induction attributes using List.reverseRecOn with
  | nil => rfl
  | append_singleton front last ih =>
      rw [List.foldlM_append, ih]
      cases stopped : front.any (foreignIdentifier issuedIds) with
      | true => simp [stopped]
      | false =>
          simp [stopped, visit_closedFlags]

/-- The classification of a template that carries a foreign identifier. -/
theorem portalTemplateIntent_foreign
    {issuedIds : Option (List Octets)} {attributes : List CkAttribute}
    (foreign : attributes.any (foreignIdentifier issuedIds) = true) :
    portalTemplateIntent (.array attributes) issuedIds = .unrelated := by
  have nonempty : attributes ≠ [] := by
    rintro rfl
    simp at foreign
  simp [portalTemplateIntent, nonempty, foldlM_visitAttribute, foreign]

/-- The classification of every other template. -/
theorem portalTemplateIntent_closed
    {issuedIds : Option (List Octets)} {attributes : List CkAttribute}
    (known : attributes.any (foreignIdentifier issuedIds) = false) :
    portalTemplateIntent (.array attributes) issuedIds =
      (closedFlags attributes).intent := by
  by_cases empty : attributes = []
  · subst empty
    rfl
  · simp [portalTemplateIntent, empty, foldlM_visitAttribute, known]

/-! ## Sound classification -/

/-- The attributes a template argument names. -/
def templateAttributes : CkTemplate → List CkAttribute
  | .null _ => []
  | .array attributes => attributes

/-- The attribute names the contract label. -/
def CarriesContractLabel (entry : CkAttribute) : Prop :=
  entry.valueLen.toNat = portalObjectLabel.length ∧
    entry.bytes = some portalObjectLabel

/-- The attribute names an identifier of this initialization. -/
def CarriesIssuedIdentifier
    (issuedIds : Option (List Octets)) (entry : CkAttribute) : Prop :=
  entry.valueLen ≠ ckUnavailableInformation ∧ entry.valueLen ≠ 0 ∧
    ∃ issued, issuedIds = some issued ∧
      ∃ identifier ∈ issued, entry.bytes = some identifier

/--
A search that may acquire a credential carries no other label and no
identifier that is empty, malformed or not issued.
-/
def AcquiresOnlyOurs
    (template : CkTemplate) (issuedIds : Option (List Octets)) : Prop :=
  ∀ enumerate setting,
    portalTemplateWantsCredential template issuedIds enumerate setting →
      ∀ entry ∈ templateAttributes template,
        (entry.type = ckaLabel → CarriesContractLabel entry) ∧
          (entry.type = ckaId → CarriesIssuedIdentifier issuedIds entry)

/-- The classification is the same in every order of the attributes. -/
def OrderIndependent
    (template : CkTemplate) (issuedIds : Option (List Octets)) : Prop :=
  match template with
  | .null _ => True
  | .array attributes =>
      ∀ reordered, reordered.Perm attributes →
        portalTemplateIntent (.array reordered) issuedIds =
          portalTemplateIntent (.array attributes) issuedIds

/-- Only templates for objects of the portal acquire, in whatever order they
are written. -/
def ClassifiedSoundly
    (template : CkTemplate) (issuedIds : Option (List Octets)) : Prop :=
  AcquiresOnlyOurs template issuedIds ∧
    OrderIndependent template issuedIds

/-- All labels are the contract label, or none is. -/
def LabelsAgree (attributes : List CkAttribute) : Prop :=
  ∀ first ∈ labels attributes, ∀ second ∈ labels attributes,
    first = second

/-- All well-formed classes are the private key's, or none is. -/
def ClassesAgree (attributes : List CkAttribute) : Prop :=
  ∀ first ∈ classes attributes, ∀ second ∈ classes attributes,
    first = ckoPrivateKey → second = ckoPrivateKey

/-- Only the class decides whether the search names a credential. -/
def ClassDecides (attributes : List CkAttribute) : Prop :=
  labels attributes = [] ∧ attributes.any isIdentifier = false ∧
    (distinguishingAttributes attributes).all
      (fun entry => keyShapedType entry.type) = true

/--
The last label and the last class decide as every other would, unless an
identifier has already excluded the search.
-/
def RepeatsAgree
    (template : CkTemplate) (issuedIds : Option (List Octets)) : Prop :=
  let attributes := templateAttributes template
  attributes.any (foreignIdentifier issuedIds) = true ∨
    (LabelsAgree attributes ∧
      (ClassDecides attributes → ClassesAgree attributes))

theorem templateNamesOurLabel_iff (entry : CkAttribute) :
    templateNamesOurLabel entry = true ↔ CarriesContractLabel entry := by
  simp only [templateNamesOurLabel, CarriesContractLabel,
    Bool.and_eq_true, bne_iff_ne, beq_iff_eq]
  constructor
  · rintro ⟨⟨-, length⟩, bytes⟩
    exact ⟨length, bytes⟩
  · rintro ⟨length, bytes⟩
    refine ⟨⟨?_, length⟩, bytes⟩
    intro unavailable
    rw [unavailable] at length
    exact absurd length (by decide)

theorem identifierIssued_iff
    (issuedIds : Option (List Octets)) (entry : CkAttribute) :
    identifierIssued issuedIds entry = true ↔
      CarriesIssuedIdentifier issuedIds entry := by
  cases issuedIds with
  | none => simp [identifierIssued, CarriesIssuedIdentifier]
  | some issued =>
      cases bytes : entry.bytes with
      | none => simp [identifierIssued, CarriesIssuedIdentifier, bytes]
      | some identifier =>
          simp [identifierIssued, CarriesIssuedIdentifier, bytes, and_assoc]

private theorem mem_labels_iff
    (attributes : List CkAttribute) (ours : Bool) :
    ours ∈ labels attributes ↔
      ∃ entry ∈ attributes, entry.type = ckaLabel ∧
        templateNamesOurLabel entry = ours := by
  simp [labels, isLabel, and_assoc]

private theorem any_foreign_eq_false_iff
    (issuedIds : Option (List Octets)) (attributes : List CkAttribute) :
    attributes.any (foreignIdentifier issuedIds) = false ↔
      ∀ entry ∈ attributes, entry.type = ckaId →
        identifierIssued issuedIds entry = true := by
  simp [foreignIdentifier, isIdentifier]

private theorem perm_moveLast
    {attributes : List CkAttribute} {entry : CkAttribute}
    (member : entry ∈ attributes) :
    (attributes.erase entry ++ [entry]).Perm attributes :=
  (List.perm_append_singleton entry (attributes.erase entry)).trans
    (List.perm_cons_erase member).symm

private theorem classes_length_le (attributes : List CkAttribute) :
    (classes attributes).length ≤
      (distinguishingAttributes attributes).length := by
  induction attributes with
  | nil => simp [classes, distinguishingAttributes]
  | cons entry rest ih =>
      simp only [classes, distinguishingAttributes] at ih ⊢
      cases value : classValue entry with
      | none =>
          rw [List.filterMap_cons_none value, List.filter_cons]
          split
          · exact Nat.le_succ_of_le ih
          · exact ih
      | some objectClass =>
          have kept : skipped entry = false := by
            by_contra skip
            have type := skipped_type (Bool.not_eq_false _ ▸ skip)
            simp [classValue, type, ckaToken, ckaClass] at value
          rw [List.filterMap_cons_some value, List.filter_cons, kept]
          exact Nat.succ_le_succ ih

private theorem perm_bne_nil {α : Type} [BEq α] [LawfulBEq α]
    {left right : List α} (perm : left.Perm right) :
    (left != []) = (right != []) := by
  have empty : left = [] ↔ right = [] :=
    ⟨fun nil => (nil ▸ perm).nil_eq.symm,
      fun nil => (nil ▸ perm).eq_nil⟩
  rw [Bool.eq_iff_iff, bne_iff_ne, bne_iff_ne, ne_eq, ne_eq, empty]

private theorem objectClass_mem
    {attributes : List CkAttribute}
    (nonempty : classes attributes ≠ []) :
    (closedFlags attributes).objectClass ∈ classes attributes := by
  simp only [closedFlags, List.getLast?_eq_some_getLast nonempty,
    Option.getD_some]
  exact List.getLast_mem nonempty

private theorem labelIsOurs_mem
    {attributes : List CkAttribute}
    (nonempty : labels attributes ≠ []) :
    (closedFlags attributes).labelIsOurs ∈ labels attributes := by
  simp only [closedFlags, List.getLast?_eq_some_getLast nonempty,
    Option.getD_some]
  exact List.getLast_mem nonempty

/-- One distinguishing attribute leaves room for one class only. -/
private theorem objectClass_eq_of_single
    {left right : List CkAttribute} (perm : left.Perm right)
    (single : (closedFlags right).distinguishing = 1)
    (present : (closedFlags right).haveClass = true) :
    (closedFlags left).objectClass = (closedFlags right).objectClass := by
  have classesPerm : (classes left).Perm (classes right) :=
    perm.filterMap _
  have bound := classes_length_le right
  have nonempty : classes right ≠ [] := by
    simpa [closedFlags] using present
  have one : (classes right).length = 1 := by
    have := List.length_pos_of_ne_nil nonempty
    simp only [closedFlags] at single
    omega
  obtain ⟨objectClass, only⟩ := List.length_eq_one_iff.mp one
  have onlyLeft : classes left = [objectClass] :=
    List.perm_singleton.mp (only ▸ classesPerm)
  simp [closedFlags, only, onlyLeft]

/-- With agreeing repeats the order of the attributes does not matter. -/
private theorem intent_eq_of_perm
    {left right : List CkAttribute} (perm : left.Perm right)
    (labelsAgree : LabelsAgree right)
    (classesAgree : ClassDecides right → ClassesAgree right) :
    (closedFlags left).intent = (closedFlags right).intent := by
  have labelsPerm : (labels left).Perm (labels right) :=
    (perm.filter _).map _
  have classesPerm : (classes left).Perm (classes right) :=
    perm.filterMap _
  have countedPerm :
      (distinguishingAttributes left).Perm
        (distinguishingAttributes right) :=
    perm.filter _
  have haveLabel :
      (closedFlags left).haveLabel = (closedFlags right).haveLabel :=
    perm_bne_nil labelsPerm
  have haveClass :
      (closedFlags left).haveClass = (closedFlags right).haveClass :=
    perm_bne_nil classesPerm
  have haveIdentifier :
      (closedFlags left).haveIdentifier =
        (closedFlags right).haveIdentifier :=
    perm.any_eq
  have keyShaped :
      (closedFlags left).keyShaped = (closedFlags right).keyShaped :=
    countedPerm.all_eq
  have distinguishing :
      (closedFlags left).distinguishing =
        (closedFlags right).distinguishing :=
    countedPerm.length_eq
  simp only [TemplateFlags.intent, haveLabel, haveClass, haveIdentifier,
    keyShaped, distinguishing]
  by_cases label : (closedFlags right).haveLabel = true
  · have present : labels right ≠ [] := by simpa [closedFlags] using label
    have presentLeft : labels left ≠ [] := fun empty =>
      present (empty ▸ labelsPerm).nil_eq.symm
    have same :
        (closedFlags left).labelIsOurs = (closedFlags right).labelIsOurs :=
      labelsAgree _ (labelsPerm.mem_iff.mp (labelIsOurs_mem presentLeft))
        _ (labelIsOurs_mem present)
    rw [if_pos label, if_pos label, same]
  · by_cases identifier : (closedFlags right).haveIdentifier = true
    · simp only [if_neg label, if_pos identifier]
    · simp only [if_neg label, if_neg identifier]
      have privateIff :
          ((closedFlags right).haveClass = true ∧
              (closedFlags left).objectClass = ckoPrivateKey ∧
              (closedFlags right).keyShaped = true) ↔
            ((closedFlags right).haveClass = true ∧
              (closedFlags right).objectClass = ckoPrivateKey ∧
              (closedFlags right).keyShaped = true) := by
        by_cases shaped : (closedFlags right).keyShaped = true
        · have decides : ClassDecides right :=
            ⟨by simpa [closedFlags] using label,
              by simpa [closedFlags] using identifier, shaped⟩
          have agree := classesAgree decides
          apply and_congr_right
          intro hasClass
          have present : classes right ≠ [] := by
            simpa [closedFlags] using hasClass
          have presentLeft : classes left ≠ [] := fun empty =>
            present (empty ▸ classesPerm).nil_eq.symm
          have leftMember :=
            classesPerm.mem_iff.mp (objectClass_mem presentLeft)
          have rightMember := objectClass_mem present
          simp only [shaped, and_true]
          exact ⟨agree _ leftMember _ rightMember,
            agree _ rightMember _ leftMember⟩
        · simp [shaped]
      have enumeratesIff :
          ((closedFlags right).distinguishing = 1 ∧
              (closedFlags right).haveClass = true ∧
              ((closedFlags left).objectClass = ckoCertificate ∨
                (closedFlags left).objectClass = ckoPublicKey)) ↔
            ((closedFlags right).distinguishing = 1 ∧
              (closedFlags right).haveClass = true ∧
              ((closedFlags right).objectClass = ckoCertificate ∨
                (closedFlags right).objectClass = ckoPublicKey)) := by
        apply and_congr_right
        intro single
        apply and_congr_right
        intro hasClass
        rw [objectClass_eq_of_single perm single hasClass]
      simp only [privateIff, enumeratesIff]

private theorem intent_labelled
    {attributes : List CkAttribute} (present : labels attributes ≠ []) :
    (closedFlags attributes).intent =
      if (closedFlags attributes).labelIsOurs then
        .namesCredential
      else
        .unrelated := by
  have label : (closedFlags attributes).haveLabel = true := by
    simpa [closedFlags] using present
  simp only [TemplateFlags.intent, if_pos label]

/-- A search acquires soundly once its labels agree. -/
private theorem acquiresOnlyOurs_of_labelsAgree
    {issuedIds : Option (List Octets)} {attributes : List CkAttribute}
    (known : attributes.any (foreignIdentifier issuedIds) = false)
    (labelsAgree : LabelsAgree attributes) :
    AcquiresOnlyOurs (.array attributes) issuedIds := by
  intro enumerate setting wants entry member
  constructor
  · intro type
    have labelMember :
        templateNamesOurLabel entry ∈ labels attributes :=
      (mem_labels_iff attributes _).mpr ⟨entry, member, type, rfl⟩
    have present : labels attributes ≠ [] :=
      List.ne_nil_of_mem labelMember
    rw [portalTemplateWantsCredential,
      portalTemplateIntent_closed known, intent_labelled present,
      labelsAgree _ (labelIsOurs_mem present) _ labelMember] at wants
    rw [← templateNamesOurLabel_iff]
    by_contra foreign
    simp [foreign] at wants
  · intro type
    rw [← identifierIssued_iff]
    exact (any_foreign_eq_false_iff issuedIds attributes).mp known
      entry member type

/-- A sound classification of known identifiers has agreeing labels. -/
private theorem labelsAgree_of_sound
    {issuedIds : Option (List Octets)} {attributes : List CkAttribute}
    (known : attributes.any (foreignIdentifier issuedIds) = false)
    (sound : ClassifiedSoundly (.array attributes) issuedIds) :
    LabelsAgree attributes := by
  obtain ⟨onlyOurs, independent⟩ := sound
  intro first firstMember second secondMember
  by_contra differ
  have mixed :
      true ∈ labels attributes ∧ false ∈ labels attributes := by
    cases first <;> cases second <;> simp_all
  obtain ⟨ours, oursMember, oursType, oursNamed⟩ :=
    (mem_labels_iff attributes true).mp mixed.1
  obtain ⟨other, otherMember, otherType, otherNamed⟩ :=
    (mem_labels_iff attributes false).mp mixed.2
  -- With our label last the search acquires, whatever the other label is.
  have perm := perm_moveLast oursMember
  set front := attributes.erase ours
  have reorderedLabels :
      labels (front ++ [ours]) = labels front ++ [true] := by
    simp [labels, isLabel, oursType, oursNamed]
  have acquires :
      portalTemplateIntent (.array (front ++ [ours])) issuedIds =
        .namesCredential := by
    rw [portalTemplateIntent_closed (perm.any_eq.trans known),
      intent_labelled (by simp [reorderedLabels])]
    simp [closedFlags, reorderedLabels]
  have wants :
      portalTemplateWantsCredential (.array attributes) issuedIds
        false none = true := by
    rw [portalTemplateWantsCredential,
      ← independent (front ++ [ours]) perm, acquires]
  have contract := (onlyOurs false none wants other otherMember).1 otherType
  rw [← templateNamesOurLabel_iff, otherNamed] at contract
  exact absurd contract (by decide)

private theorem classDecides_of_perm
    {left right : List CkAttribute} (perm : left.Perm right)
    (decides : ClassDecides right) : ClassDecides left := by
  obtain ⟨unlabelled, unidentified, shaped⟩ := decides
  have labelsPerm : (labels left).Perm (labels right) :=
    (perm.filter _).map _
  have countedPerm :
      (distinguishingAttributes left).Perm
        (distinguishingAttributes right) :=
    perm.filter _
  exact ⟨(unlabelled ▸ labelsPerm).eq_nil,
    perm.any_eq.trans unidentified, countedPerm.all_eq.trans shaped⟩

/-- Where the class decides, several attributes never enumerate. -/
private theorem intent_classDecides
    {front : List CkAttribute} {last : CkAttribute}
    {objectClass : CkUlong}
    (decides : ClassDecides (front ++ [last]))
    (value : classValue last = some objectClass)
    (several : 2 ≤ (distinguishingAttributes (front ++ [last])).length) :
    (closedFlags (front ++ [last])).intent =
      if objectClass = ckoPrivateKey then
        .namesCredential
      else
        .unrelated := by
  obtain ⟨unlabelled, unidentified, shaped⟩ := decides
  have lastClass :
      classes (front ++ [last]) = classes front ++ [objectClass] := by
    simp [classes, value]
  have haveLabel : (closedFlags (front ++ [last])).haveLabel = false := by
    simp [closedFlags, unlabelled]
  have haveIdentifier :
      (closedFlags (front ++ [last])).haveIdentifier = false :=
    unidentified
  have haveClass : (closedFlags (front ++ [last])).haveClass = true := by
    simp [closedFlags, lastClass]
  have classEq :
      (closedFlags (front ++ [last])).objectClass = objectClass := by
    simp [closedFlags, lastClass]
  have keyShaped : (closedFlags (front ++ [last])).keyShaped = true :=
    shaped
  have notZero : (closedFlags (front ++ [last])).distinguishing ≠ 0 := by
    simp only [closedFlags]
    omega
  have notOne : (closedFlags (front ++ [last])).distinguishing ≠ 1 := by
    simp only [closedFlags]
    omega
  simp [TemplateFlags.intent, haveLabel, haveIdentifier, haveClass,
    classEq, keyShaped, notZero, notOne]

/-- A sound classification by class has agreeing classes. -/
private theorem classesAgree_of_sound
    {issuedIds : Option (List Octets)} {attributes : List CkAttribute}
    (known : attributes.any (foreignIdentifier issuedIds) = false)
    (independent : OrderIndependent (.array attributes) issuedIds)
    (decides : ClassDecides attributes) :
    ClassesAgree attributes := by
  intro first firstMember second secondMember isPrivate
  by_contra differ
  have several : 2 ≤ (classes attributes).length := by
    match classes attributes, firstMember, secondMember with
    | [only], firstMember, secondMember =>
        rw [List.mem_singleton] at firstMember secondMember
        exact absurd (secondMember.trans (firstMember ▸ isPrivate)) differ
    | _ :: _ :: _, _, _ => simp
  have bound := classes_length_le attributes
  -- Either class decides when its attribute is the last one.
  have decided : ∀ objectClass ∈ classes attributes,
      portalTemplateIntent (.array attributes) issuedIds =
        if objectClass = ckoPrivateKey then
          .namesCredential
        else
          .unrelated := by
    intro objectClass member
    obtain ⟨entry, entryMember, value⟩ := List.mem_filterMap.mp member
    have perm := perm_moveLast entryMember
    have countedPerm :
        (distinguishingAttributes
            (attributes.erase entry ++ [entry])).Perm
          (distinguishingAttributes attributes) :=
      perm.filter _
    rw [← independent _ perm,
      portalTemplateIntent_closed (perm.any_eq.trans known)]
    apply intent_classDecides (classDecides_of_perm perm decides) value
    rw [countedPerm.length_eq]
    omega
  have contradiction := (decided first firstMember).symm.trans
    (decided second secondMember)
  simp [isPrivate, differ] at contradiction

/-- The templates classified soundly are exactly those whose repeats agree. -/
theorem classifiedSoundly_iff
    (template : CkTemplate) (issuedIds : Option (List Octets)) :
    ClassifiedSoundly template issuedIds ↔
      RepeatsAgree template issuedIds := by
  cases template with
  | null count =>
      constructor
      · intro _
        right
        exact ⟨by simp [LabelsAgree, templateAttributes, labels],
          by simp [ClassesAgree, templateAttributes, classes]⟩
      · intro _
        exact ⟨by simp [AcquiresOnlyOurs, templateAttributes], trivial⟩
  | array attributes =>
      simp only [RepeatsAgree, templateAttributes]
      cases known : attributes.any (foreignIdentifier issuedIds) with
      | true =>
          simp only [true_or, iff_true]
          constructor
          · intro enumerate setting wants
            rw [portalTemplateWantsCredential,
              portalTemplateIntent_foreign known] at wants
            exact absurd wants Bool.false_ne_true
          · intro reordered perm
            rw [portalTemplateIntent_foreign known,
              portalTemplateIntent_foreign (perm.any_eq.trans known)]
      | false =>
          simp only [Bool.false_eq_true, false_or]
          constructor
          · intro sound
            exact ⟨labelsAgree_of_sound known sound,
              classesAgree_of_sound known sound.2⟩
          · rintro ⟨labelsAgree, classesAgree⟩
            refine ⟨acquiresOnlyOurs_of_labelsAgree known labelsAgree, ?_⟩
            intro reordered perm
            rw [portalTemplateIntent_closed known,
              portalTemplateIntent_closed (perm.any_eq.trans known)]
            exact intent_eq_of_perm perm labelsAgree classesAgree

/-- `CKA_LABEL` with the text `Other`. -/
def otherLabel : CkAttribute where
  type := ckaLabel
  value := some [0x4f, 0x74, 0x68, 0x65, 0x72]
  valueLen := 5

/-- `CKA_LABEL` with the contract label. -/
def contractLabel : CkAttribute where
  type := ckaLabel
  value := some portalObjectLabel
  valueLen := 18

/-- A later label overrides an earlier foreign one. -/
theorem repeatedLabel_unsound :
    portalTemplateIntent (.array [otherLabel, contractLabel]) (some []) =
        .namesCredential ∧
      portalTemplateIntent (.array [contractLabel, otherLabel]) (some []) =
        .unrelated ∧
      ¬ ClassifiedSoundly (.array [otherLabel, contractLabel]) (some []) := by
  refine ⟨by decide, by decide, ?_⟩
  rintro ⟨onlyOurs, -⟩
  have contract :=
    (onlyOurs false none (by decide) otherLabel (by decide)).1 (by decide)
  rw [← templateNamesOurLabel_iff] at contract
  exact absurd contract (by decide)

end PortalCertificate.Module.Template
