import PortalCertificate.Tokens.FilterParse
import PortalCertificate.Tokens.Narrowing
import Mathlib.Algebra.Order.BigOperators.Group.List

/-!
# Every entry of a filter

A dictionary of the wire may hold a key more than once, and a lookup finds
the first of them.  The others are neither checked nor kept, although a
filter that is not understood is refused as a whole.  A filter is kept whole
if what is said again was said before.
-/

namespace PortalCertificate.Tokens.FilterEntries

open PortalCertificate.Glib
open PortalCertificate.Library.Der (Octets)
open PortalCertificate.Tokens.Discovery
open PortalCertificate.Tokens.Filter
open PortalCertificate.Tokens.FilterParse
open PortalCertificate.Tokens.Narrowing

/-! ## Entries -/

/-- What an entry of a filter can ask for. -/
inductive Constraint where
  | issuers (issuers : List Octets)
  | keyUsage (usages : List String)
  | eku (oids : List String)
  | keyAlgorithms (algorithms : List String)
  | tokenLabel (label : String)
  | pivSlot (slot : String)

/-- The key of a constraint. -/
def Constraint.key : Constraint → String
  | .issuers _ => "issuers"
  | .keyUsage _ => "key_usage"
  | .eku _ => "eku"
  | .keyAlgorithms _ => "key_algorithms"
  | .tokenLabel _ => "token_label"
  | .pivSlot _ => "piv_slot"

/-- The value of a constraint. -/
def Constraint.value : Constraint → Variant
  | .issuers wanted => .byteStrings wanted
  | .keyUsage wanted => .strings wanted
  | .eku wanted => .strings wanted
  | .keyAlgorithms wanted => .strings wanted
  | .tokenLabel wanted => .string wanted
  | .pivSlot wanted => .string wanted

/-- The entry of a dictionary that states a constraint. -/
def Constraint.entry (constraint : Constraint) : String × Variant :=
  (constraint.key, constraint.value)

/-- A slot is one of the four names. -/
def Constraint.Declared : Constraint → Prop
  | .pivSlot wanted => wanted ∈ pivSlots
  | _ => True

/-- A key algorithm is the type of the key, a mechanism of the token, or the
beginning of a TLS scheme of such a key. -/
def Offers (candidate : CertificateCandidate) (algorithm : String) : Prop :=
  asciiCaseEqual algorithm candidate.keyType = true ∨
    (∃ mechanism ∈ candidate.supportedMechanisms,
      asciiCaseEqual mechanism algorithm = true) ∨
    asciiCaseStarts algorithm "rsa" = true ∧ candidate.keyType = "RSA" ∨
    (asciiCaseStarts algorithm "ecdsa" = true ∨
      asciiCaseStarts algorithm "ec" = true) ∧ candidate.keyType = "EC"

/-- A certificate has what an entry asks for; an entry that is empty asks
for nothing. -/
def Constraint.Satisfied (candidate : CertificateCandidate) :
    Constraint → Prop
  | .issuers wanted =>
      wanted = [] ∨ ∃ issuer ∈ wanted, candidate.issuerDer = some issuer
  | .keyUsage wanted =>
      ∀ usage ∈ wanted, ∃ own ∈ candidate.keyUsage.getD [],
        asciiCaseEqual own usage = true
  | .eku wanted =>
      ∀ oid ∈ wanted, candidate.ekuOids = none ∨
        ekuAny ∈ candidate.ekuOids.getD [] ∨
        oid ∈ candidate.ekuOids.getD []
  | .keyAlgorithms wanted =>
      wanted = [] ∨ ∃ algorithm ∈ wanted, Offers candidate algorithm
  | .tokenLabel wanted =>
      wanted = "" ∨ candidate.token.label = some wanted
  | .pivSlot wanted => candidate.pivSlot = some wanted

/-- An entry has its declared key and type. -/
def WellTyped (entry : String × Variant) : Prop :=
  ∃ constraint : Constraint, constraint.Declared ∧
    entry = constraint.entry

/-! ## Filters that are accepted -/

/-- The first entry of every key is well typed. -/
def Acceptable (filter : Vardict) : Prop :=
  ∀ key value, lookupValue filter key = some value →
    WellTyped (key, value)

/-- The issuers in a value of their type. -/
def issuersOf : Option Variant → Option (List Octets)
  | some (.byteStrings issuers) => some issuers
  | _ => none

/-- The strings in a value of their type. -/
def stringsOf : Option Variant → Option (List String)
  | some (.strings texts) => some texts
  | _ => none

/-- The string in a value of its type. -/
def textOf : Option Variant → Option String
  | some (.string text) => some text
  | _ => none

/-- The filter that is made of the first entries. -/
def filterOf
    (purpose : CertificatePurpose) (operations : CertificateOperations)
    (filter : Vardict) : CertificateFilter :=
  { purpose, operations
    issuers := issuersOf (lookupValue filter "issuers")
    keyUsage := stringsOf (lookupValue filter "key_usage")
    ekuOids := stringsOf (lookupValue filter "eku")
    keyAlgorithms := stringsOf (lookupValue filter "key_algorithms")
    tokenLabel := textOf (lookupValue filter "token_label")
    pivSlot := textOf (lookupValue filter "piv_slot") }

/-! ## Well typed entries of a key -/

theorem wellTyped_issuers {value : Variant} :
    WellTyped ("issuers", value) ↔
      ∃ wanted, value = .byteStrings wanted := by
  constructor
  · rintro ⟨constraint, -, same⟩
    cases constraint with
    | issuers wanted => exact ⟨wanted, (Prod.mk.inj same).2⟩
    | _ => simp [Constraint.entry, Constraint.key] at same
  · rintro ⟨wanted, rfl⟩
    exact ⟨.issuers wanted, trivial, rfl⟩

theorem wellTyped_keyUsage {value : Variant} :
    WellTyped ("key_usage", value) ↔ ∃ wanted, value = .strings wanted := by
  constructor
  · rintro ⟨constraint, -, same⟩
    cases constraint with
    | keyUsage wanted => exact ⟨wanted, (Prod.mk.inj same).2⟩
    | _ => simp [Constraint.entry, Constraint.key] at same
  · rintro ⟨wanted, rfl⟩
    exact ⟨.keyUsage wanted, trivial, rfl⟩

theorem wellTyped_eku {value : Variant} :
    WellTyped ("eku", value) ↔ ∃ wanted, value = .strings wanted := by
  constructor
  · rintro ⟨constraint, -, same⟩
    cases constraint with
    | eku wanted => exact ⟨wanted, (Prod.mk.inj same).2⟩
    | _ => simp [Constraint.entry, Constraint.key] at same
  · rintro ⟨wanted, rfl⟩
    exact ⟨.eku wanted, trivial, rfl⟩

theorem wellTyped_keyAlgorithms {value : Variant} :
    WellTyped ("key_algorithms", value) ↔
      ∃ wanted, value = .strings wanted := by
  constructor
  · rintro ⟨constraint, -, same⟩
    cases constraint with
    | keyAlgorithms wanted => exact ⟨wanted, (Prod.mk.inj same).2⟩
    | _ => simp [Constraint.entry, Constraint.key] at same
  · rintro ⟨wanted, rfl⟩
    exact ⟨.keyAlgorithms wanted, trivial, rfl⟩

theorem wellTyped_tokenLabel {value : Variant} :
    WellTyped ("token_label", value) ↔
      ∃ wanted, value = .string wanted := by
  constructor
  · rintro ⟨constraint, -, same⟩
    cases constraint with
    | tokenLabel wanted => exact ⟨wanted, (Prod.mk.inj same).2⟩
    | _ => simp [Constraint.entry, Constraint.key] at same
  · rintro ⟨wanted, rfl⟩
    exact ⟨.tokenLabel wanted, trivial, rfl⟩

theorem wellTyped_pivSlot {value : Variant} :
    WellTyped ("piv_slot", value) ↔
      ∃ wanted ∈ pivSlots, value = .string wanted := by
  constructor
  · rintro ⟨constraint, declared, same⟩
    cases constraint with
    | pivSlot wanted => exact ⟨wanted, declared, (Prod.mk.inj same).2⟩
    | _ => simp [Constraint.entry, Constraint.key] at same
  · rintro ⟨wanted, declared, rfl⟩
    exact ⟨.pivSlot wanted, declared, rfl⟩

theorem WellTyped.known
    {entry : String × Variant} (wellTyped : WellTyped entry) :
    entry.1 ∈ filterKeys := by
  rcases wellTyped with ⟨constraint, -, rfl⟩
  cases constraint <;>
    simp [Constraint.entry, Constraint.key, filterKeys]

/-! ## Reading a key -/

theorem parseIssuers_ok_iff
    {filter : Vardict} {issuers : Option (List Octets)} :
    parseIssuers filter = .ok issuers ↔
      (∀ value ∈ lookupValue filter "issuers",
        WellTyped ("issuers", value)) ∧
      issuers = issuersOf (lookupValue filter "issuers") := by
  simp only [wellTyped_issuers]
  rw [parseIssuers]
  cases lookupValue filter "issuers" with
  | none => simp [issuersOf, eq_comm]
  | some value => cases value <;> simp [issuersOf, eq_comm]

theorem strvFromVariant_ok_iff
    {filter : Vardict} {key : String} {texts : Option (List String)} :
    strvFromVariant filter key = .ok texts ↔
      (∀ value ∈ lookupValue filter key,
        ∃ wanted, value = .strings wanted) ∧
      texts = stringsOf (lookupValue filter key) := by
  rw [strvFromVariant]
  cases lookupValue filter key with
  | none => simp [stringsOf, eq_comm]
  | some value => cases value <;> simp [stringsOf, eq_comm]

theorem parseTokenLabel_ok_iff
    {filter : Vardict} {label : Option String} :
    parseTokenLabel filter = .ok label ↔
      (∀ value ∈ lookupValue filter "token_label",
        WellTyped ("token_label", value)) ∧
      label = textOf (lookupValue filter "token_label") := by
  simp only [wellTyped_tokenLabel]
  rw [parseTokenLabel]
  cases lookupValue filter "token_label" with
  | none => simp [textOf, eq_comm]
  | some value => cases value <;> simp [textOf, eq_comm]

theorem parsePivSlot_ok_iff
    {filter : Vardict} {slot : Option String} :
    parsePivSlot filter = .ok slot ↔
      (∀ value ∈ lookupValue filter "piv_slot",
        WellTyped ("piv_slot", value)) ∧
      slot = textOf (lookupValue filter "piv_slot") := by
  simp only [wellTyped_pivSlot]
  rw [parsePivSlot]
  cases lookupValue filter "piv_slot" with
  | none => simp [textOf, eq_comm]
  | some value =>
      cases value with
      | string text =>
          by_cases listed : text ∈ pivSlots
          · simp [textOf, listed, eq_comm]
          · simp [listed]
      | _ => simp

theorem known_iff {filter : Vardict} :
    filter.find? (fun entry => !filterKeys.contains entry.1) = none ↔
      ∀ entry ∈ filter, entry.1 ∈ filterKeys := by
  simp

/-- The value of a key that an entry has is found. -/
theorem lookupValue_isSome
    {filter : Vardict} {entry : String × Variant}
    (member : entry ∈ filter) :
    ∃ value, lookupValue filter entry.1 = some value := by
  cases found : lookupValue filter entry.1 with
  | some value => exact ⟨value, rfl⟩
  | none =>
      simp only [lookupValue, Option.map_eq_none_iff,
        List.find?_eq_none] at found
      exact absurd (beq_self_eq_true entry.1) (found entry member)

theorem mem_of_lookupValue
    {filter : Vardict} {key : String} {value : Variant}
    (found : lookupValue filter key = some value) :
    (key, value) ∈ filter := by
  simp only [lookupValue, Option.map_eq_some_iff] at found
  rcases found with ⟨entry, first, rfl⟩
  have same := List.find?_some first
  rw [beq_iff_eq] at same
  rw [← same]
  exact List.mem_of_find?_eq_some first

theorem bind_ok
    {α β : Type} {first : Except GError α} {rest : α → Except GError β}
    {value : β} (succeeds : (first >>= rest) = .ok value) :
    ∃ between, first = .ok between ∧ rest between = .ok value := by
  cases first with
  | error error => cases succeeds
  | ok between => exact ⟨between, rfl, succeeds⟩

theorem parseConstraints_ok_iff
    {filter : Vardict} {purpose : CertificatePurpose}
    {operations : CertificateOperations} {parsed : CertificateFilter} :
    parseConstraints filter purpose operations = .ok parsed ↔
      Acceptable filter ∧ parsed = filterOf purpose operations filter := by
  constructor
  · intro succeeds
    rw [parseConstraints] at succeeds
    cases unknown : filter.find? fun entry =>
        !filterKeys.contains entry.1 with
    | some entry =>
        rw [unknown] at succeeds
        cases succeeds
    | none =>
    rw [unknown] at succeeds
    rcases bind_ok succeeds with ⟨issuers, readIssuers, succeeds⟩
    rcases bind_ok succeeds with ⟨keyUsage, readUsage, succeeds⟩
    rcases bind_ok succeeds with ⟨ekuOids, readEku, succeeds⟩
    rcases bind_ok succeeds with ⟨keyAlgorithms, readKeys, succeeds⟩
    rcases bind_ok succeeds with ⟨tokenLabel, readLabel, succeeds⟩
    rcases bind_ok succeeds with ⟨pivSlot, readSlot, succeeds⟩
    rw [parseIssuers_ok_iff] at readIssuers
    rw [strvFromVariant_ok_iff] at readUsage readEku readKeys
    rw [parseTokenLabel_ok_iff] at readLabel
    rw [parsePivSlot_ok_iff] at readSlot
    constructor
    · intro key value found
      have known := known_iff.mp unknown _ (mem_of_lookupValue found)
      simp only [filterKeys, List.mem_cons, List.not_mem_nil, or_false]
        at known
      rcases known with rfl | rfl | rfl | rfl | rfl | rfl
      · exact readIssuers.1 value found
      · exact wellTyped_keyUsage.mpr (readUsage.1 value found)
      · exact wellTyped_eku.mpr (readEku.1 value found)
      · exact wellTyped_keyAlgorithms.mpr (readKeys.1 value found)
      · exact readLabel.1 value found
      · exact readSlot.1 value found
    · cases succeeds
      rw [readIssuers.2, readUsage.2, readEku.2, readKeys.2, readLabel.2,
        readSlot.2]
      rfl
  · rintro ⟨acceptable, rfl⟩
    have known : ∀ entry ∈ filter, entry.1 ∈ filterKeys := by
      intro entry member
      rcases lookupValue_isSome member with ⟨value, found⟩
      exact (acceptable _ _ found).known
    rw [parseConstraints, known_iff.mpr known]
    have issuers := parseIssuers_ok_iff.mpr
      ⟨fun value found => acceptable "issuers" value found, rfl⟩
    have keyUsage := strvFromVariant_ok_iff.mpr
      ⟨fun value found => wellTyped_keyUsage.mp
        (acceptable "key_usage" value found), rfl⟩
    have ekuOids := strvFromVariant_ok_iff.mpr
      ⟨fun value found => wellTyped_eku.mp
        (acceptable "eku" value found), rfl⟩
    have keyAlgorithms := strvFromVariant_ok_iff.mpr
      ⟨fun value found => wellTyped_keyAlgorithms.mp
        (acceptable "key_algorithms" value found), rfl⟩
    have tokenLabel := parseTokenLabel_ok_iff.mpr
      ⟨fun value found => acceptable "token_label" value found, rfl⟩
    have pivSlot := parsePivSlot_ok_iff.mpr
      ⟨fun value found => acceptable "piv_slot" value found, rfl⟩
    simp only [issuers, keyUsage, ekuOids, keyAlgorithms, tokenLabel,
      pivSlot]
    rfl

/-! ## What the first entries cover -/

/-- The issuers of the entry that is found, or none. -/
def firstIssuers (first : Vardict) : List Octets :=
  (issuersOf (lookupValue first "issuers")).getD []

/-- The strings of the entry that is found, or none. -/
def firstStrings (first : Vardict) (key : String) : List String :=
  (stringsOf (lookupValue first key)).getD []

/-- Whatever an entry asks for is asked for by the first entry of its key,
or by the purpose. -/
def Constraint.Covered
    (purpose : CertificatePurpose) (first : Vardict) : Constraint → Prop
  | .issuers wanted =>
      wanted = [] ∨
        firstIssuers first ≠ [] ∧ firstIssuers first ⊆ wanted
  | .keyUsage wanted =>
      ∀ usage ∈ wanted, ∃ same ∈ firstStrings first "key_usage",
        asciiCaseEqual same usage = true
  | .eku wanted =>
      ∀ oid ∈ wanted, oid ∈ firstStrings first "eku" ∨
        ekuAny ∈ firstStrings first "eku" ∨
        purpose = .email ∧ oid = ekuEmailProtection
  | .keyAlgorithms wanted =>
      wanted = [] ∨
        (firstStrings first "key_algorithms" ≠ [] ∧
          ∀ algorithm ∈ firstStrings first "key_algorithms",
            ∃ same ∈ wanted, asciiCaseEqual same algorithm = true) ∨
        purpose = .ssh ∧
          (∃ algorithm ∈ wanted, asciiCaseStarts algorithm "rsa" = true) ∧
          ∃ algorithm ∈ wanted, asciiCaseStarts algorithm "ecdsa" = true ∨
            asciiCaseStarts algorithm "ec" = true
  | .tokenLabel wanted =>
      wanted = "" ∨ textOf (lookupValue first "token_label") = some wanted
  | .pivSlot wanted => textOf (lookupValue first "piv_slot") = some wanted

/-- Some certificate is good for the purpose and the operations. -/
def Grantable
    (purpose : CertificatePurpose) (operations : CertificateOperations) :
    Prop :=
  match purpose with
  | .email => operations.sign = true ∨ operations.decrypt = true
  | .other _ => False
  | _ => operations.sign = true

section Texts

variable {first second third : String}

theorem asciiCaseEqual_iff :
    asciiCaseEqual first second = true ↔
      first.toList.map Char.toLower = second.toList.map Char.toLower := by
  rw [asciiCaseEqual, beq_iff_eq]

theorem asciiCaseEqual_trans
    (here : asciiCaseEqual first second = true)
    (there : asciiCaseEqual second third = true) :
    asciiCaseEqual first third = true := by
  rw [asciiCaseEqual_iff] at here there ⊢
  exact here.trans there

theorem asciiCaseEqual_symm (same : asciiCaseEqual first second = true) :
    asciiCaseEqual second first = true := by
  rw [asciiCaseEqual_iff] at same ⊢
  exact same.symm

theorem asciiCaseEqual_refl (text : String) :
    asciiCaseEqual text text = true := by
  rw [asciiCaseEqual_iff]

/-- A beginning does not depend on the case either. -/
theorem asciiCaseStarts_congr
    (same : asciiCaseEqual first second = true) (pattern : String) :
    asciiCaseStarts first pattern = asciiCaseStarts second pattern := by
  rw [asciiCaseEqual_iff] at same
  rw [asciiCaseStarts, asciiCaseStarts, List.map_take, List.map_take, same]

end Texts

/-! ## Matching and satisfying -/

section Matching

variable {candidate : CertificateCandidate}

theorem strvHasCi_iff {texts : Option (List String)} {needle : String} :
    strvHasCi texts needle = true ↔
      ∃ own ∈ texts.getD [], asciiCaseEqual own needle = true := by
  cases texts with
  | none => simp [strvHasCi]
  | some texts => simp [strvHasCi]

theorem strvHas_iff {texts : Option (List String)} {needle : String} :
    strvHas texts needle = true ↔ needle ∈ texts.getD [] := by
  cases texts with
  | none => simp [strvHas]
  | some texts => simp [strvHas]

theorem ekuAllows_iff {oid : String} :
    ekuAllows candidate oid = true ↔
      candidate.ekuOids = none ∨ ekuAny ∈ candidate.ekuOids.getD [] ∨
        oid ∈ candidate.ekuOids.getD [] := by
  simp only [ekuAllows, ekuUnrestricted, Bool.or_eq_true, strvHas_iff,
    Option.isNone_iff_eq_none, or_assoc]

theorem issuerMatches_iff {issuers : Option (List Octets)} :
    issuerMatches candidate issuers = true ↔
      issuers.getD [] = [] ∨
        ∃ issuer ∈ issuers.getD [],
          candidate.issuerDer = some issuer := by
  cases issuers with
  | none => simp [issuerMatches]
  | some issuers =>
      cases issuers with
      | nil => simp [issuerMatches]
      | cons issuer issuers =>
          cases own : candidate.issuerDer with
          | none => simp [issuerMatches, own]
          | some der =>
              simp only [issuerMatches, own, Option.any_some,
                List.contains_iff_mem, Option.getD_some, reduceCtorEq,
                false_or, Option.some.injEq, exists_eq_right']

theorem keyAlgorithmMatches_iff {algorithms : Option (List String)} :
    keyAlgorithmMatches candidate algorithms = true ↔
      algorithms.getD [] = [] ∨
        ∃ algorithm ∈ algorithms.getD [], Offers candidate algorithm := by
  cases algorithms with
  | none => simp [keyAlgorithmMatches]
  | some algorithms =>
      cases algorithms with
      | nil => simp [keyAlgorithmMatches]
      | cons algorithm algorithms =>
          simp [keyAlgorithmMatches, Offers, strvHasCi, or_assoc]

theorem textMatches_iff {wanted value : Option String} :
    textMatches wanted value = true ↔
      wanted.getD "" = "" ∨ value = wanted := by
  cases wanted with
  | none => simp [textMatches]
  | some wanted =>
      by_cases empty : wanted = ""
      · cases empty
        simp [textMatches]
      · simp [textMatches, empty]

end Matching

/-! ## Covered entries are satisfied -/

section Sound

variable {candidate : CertificateCandidate}
variable {purpose : CertificatePurpose} {operations : CertificateOperations}

theorem grantable_of_matches
    (suits : certificatePurposeMatches candidate purpose operations =
      true) : Grantable purpose operations := by
  simp only [certificatePurposeMatches, CertificateOperations.meets,
    Bool.or_eq_true, Bool.and_eq_true] at suits
  cases purpose with
  | email => exact suits.imp And.right And.right
  | other value =>
      rcases suits with ⟨sign, -⟩ | ⟨decrypt, -⟩
      · cases sign
      · cases decrypt
  | clientAuth =>
      rcases suits with ⟨-, sign⟩ | ⟨decrypt, -⟩
      · exact sign
      · cases decrypt_email decrypt
  | signing =>
      rcases suits with ⟨-, sign⟩ | ⟨decrypt, -⟩
      · exact sign
      · cases decrypt_email decrypt
  | ssh =>
      rcases suits with ⟨-, sign⟩ | ⟨decrypt, -⟩
      · exact sign
      · cases decrypt_email decrypt

theorem ekuAllows_of_email
    (suits : certificatePurposeMatches candidate .email operations =
      true) : ekuAllows candidate ekuEmailProtection = true := by
  simp only [certificatePurposeMatches, CertificateOperations.meets,
    Bool.or_eq_true, Bool.and_eq_true] at suits
  rcases suits with ⟨sign, -⟩ | ⟨decrypt, -⟩
  · exact (email_operations_iff.1.mp sign).1
  · exact (email_operations_iff.2.mp decrypt).1

theorem keyType_of_ssh
    (suits : certificatePurposeMatches candidate .ssh operations = true) :
    candidate.keyType = "RSA" ∨ candidate.keyType = "EC" := by
  simp only [certificatePurposeMatches, CertificateOperations.meets,
    certificatePurposeOperations, Bool.or_eq_true, Bool.and_eq_true]
    at suits
  split at suits
  next holds =>
    simp only [decide_eq_true_eq] at holds
    exact holds.2
  next => simp [operationNone] at suits

/-- A mechanism, a type or a scheme does not depend on the case. -/
theorem Offers.congr
    {algorithm same : String}
    (equal : asciiCaseEqual same algorithm = true)
    (offers : Offers candidate algorithm) : Offers candidate same := by
  rcases offers with type | ⟨mechanism, listed, named⟩ | rsa | ec
  · exact .inl (asciiCaseEqual_trans equal type)
  · exact .inr (.inl ⟨mechanism, listed,
      asciiCaseEqual_trans named (asciiCaseEqual_symm equal)⟩)
  · refine .inr (.inr (.inl ⟨?_, rsa.2⟩))
    rw [asciiCaseStarts_congr equal]
    exact rsa.1
  · refine .inr (.inr (.inr ⟨?_, ec.2⟩))
    rw [asciiCaseStarts_congr equal, asciiCaseStarts_congr equal]
    exact ec.1

theorem Constraint.Covered.satisfied
    {constraint : Constraint} {first : Vardict}
    (covered : constraint.Covered purpose first)
    (declared : constraint.Declared)
    (fits : certificateFilterMatches candidate
      (filterOf purpose operations first) = true) :
    constraint.Satisfied candidate := by
  rw [certificateFilterMatches_iff] at fits
  rcases fits with
    ⟨suits, issuers, keyUsage, ekuOids, algorithms, label, slot⟩
  cases constraint with
  | issuers wanted =>
      rcases covered with unasked | ⟨asked, listed⟩
      · exact .inl unasked
      · rcases issuerMatches_iff.mp issuers with none | ⟨der, mem, own⟩
        · exact absurd none asked
        · exact .inr ⟨der, listed mem, own⟩
  | keyUsage wanted =>
      intro usage member
      rcases covered usage member with ⟨same, listed, equal⟩
      rcases strvHasCi_iff.mp (keyUsage same listed) with
        ⟨own, has, named⟩
      exact ⟨own, has, asciiCaseEqual_trans named equal⟩
  | eku wanted =>
      intro oid member
      rcases covered oid member with listed | any | ⟨rfl, rfl⟩
      · exact ekuAllows_iff.mp (ekuOids oid listed)
      · rcases ekuAllows_iff.mp (ekuOids ekuAny any) with free | any | any
        · exact .inl free
        · exact .inr (.inl any)
        · exact .inr (.inl any)
      · exact ekuAllows_iff.mp (ekuAllows_of_email suits)
  | keyAlgorithms wanted =>
      rcases covered with unasked | ⟨asked, listed⟩ | ⟨rfl, rsa, ec⟩
      · exact .inl unasked
      · right
        rcases keyAlgorithmMatches_iff.mp algorithms with
          none | ⟨algorithm, member, offers⟩
        · exact absurd none asked
        · rcases listed algorithm member with ⟨same, member, equal⟩
          exact ⟨same, member, offers.congr equal⟩
      · right
        rcases keyType_of_ssh suits with type | type
        · rcases rsa with ⟨algorithm, member, starts⟩
          exact ⟨algorithm, member, .inr (.inr (.inl ⟨starts, type⟩))⟩
        · rcases ec with ⟨algorithm, member, starts⟩
          exact ⟨algorithm, member, .inr (.inr (.inr ⟨starts, type⟩))⟩
  | tokenLabel wanted =>
      rcases covered with unasked | same
      · exact .inl unasked
      · rcases textMatches_iff.mp label with empty | own
        · left
          show wanted = ""
          rw [← empty]
          show wanted = (textOf _).getD ""
          rw [same]
          rfl
        · exact .inr (own.trans same)
  | pivSlot wanted =>
      have same : textOf (lookupValue first "piv_slot") = some wanted :=
        covered
      rcases textMatches_iff.mp slot with empty | own
      · change (textOf (lookupValue first "piv_slot")).getD "" = ""
          at empty
        rw [same] at empty
        cases empty
        simp [Constraint.Declared, pivSlots] at declared
      · exact own.trans same

end Sound

/-! ## Certificates that just match -/

/-- Usages with which a key may do anything; no usage is in both lists. -/
def freeUsages (firstOnes : Bool) : List String :=
  if firstOnes then
    ["digital_signature", "key_encipherment"]
  else
    ["content_commitment", "data_encipherment"]

/-- A certificate that matches a filter whenever one does. -/
def suiting (filter : CertificateFilter) (firstOnes : Bool) :
    CertificateCandidate where
  token :=
    { label := filter.tokenLabel, manufacturer := none, model := none
      serial := none, readerName := none
      protectedAuthenticationPath := false, loginRequired := false }
  der := []
  ckaId := none
  certificateId := none
  issuerDer := (filter.issuers.getD []).head?
  notBefore := 0
  notAfter := 0
  ekuOids := none
  keyUsage := some (filter.keyUsage.getD [] ++ freeUsages firstOnes)
  pivSlot := filter.pivSlot
  keyType := "RSA"
  keySize := 0
  keyCurve := none
  canSign := true
  canDecrypt := true
  supportedMechanisms := filter.keyAlgorithms.getD []

theorem purposeMatches_of_signs
    {candidate : CertificateCandidate} {purpose : CertificatePurpose}
    {operations : CertificateOperations}
    (grantable : Grantable purpose operations)
    (signs : candidateSigns candidate = true)
    (decrypts : candidateDecrypts candidate = true)
    (mail : purpose = .email →
      ekuAllows candidate ekuEmailProtection = true)
    (client : purpose ≠ .email →
      clientUsages candidate ∧ signingUsages candidate)
    (type : purpose = .ssh →
      candidate.keyType = "RSA" ∨ candidate.keyType = "EC") :
    certificatePurposeMatches candidate purpose operations = true := by
  simp only [certificatePurposeMatches, CertificateOperations.meets,
    Bool.or_eq_true, Bool.and_eq_true]
  cases purpose with
  | email =>
      rcases grantable with sign | decrypt
      · left
        exact ⟨email_operations_iff.1.mpr ⟨mail rfl, signs⟩, sign⟩
      · right
        exact ⟨email_operations_iff.2.mpr ⟨mail rfl, decrypts⟩, decrypt⟩
  | other value => cases grantable
  | clientAuth =>
      left
      refine ⟨clientAuth_sign_iff.mpr ⟨signs, ?_⟩, grantable⟩
      exact (client nofun).1
  | signing =>
      left
      refine ⟨signing_sign_iff.mpr ⟨signs, ?_⟩, grantable⟩
      exact (client nofun).2
  | ssh =>
      left
      refine ⟨?_, grantable⟩
      have able : candidate.canSign = true := by
        simp only [candidateSigns, Bool.and_eq_true] at signs
        exact signs.1
      simp [certificatePurposeOperations, able, type rfl, operationSign]

section Suiting

variable {filter : CertificateFilter} (firstOnes : Bool)

theorem suiting_signs :
    candidateSigns (suiting filter firstOnes) = true := by
  cases firstOnes with
  | true =>
      simp [candidateSigns, keyUsageAllowsSigning, suiting, freeUsages,
        strvHas]
  | false =>
      simp [candidateSigns, keyUsageAllowsSigning, suiting, freeUsages,
        strvHas]

theorem suiting_decrypts :
    candidateDecrypts (suiting filter firstOnes) = true := by
  cases firstOnes with
  | true =>
      simp [candidateDecrypts, keyUsageAllowsDecryption, suiting,
        freeUsages, strvHas]
  | false =>
      simp [candidateDecrypts, keyUsageAllowsDecryption, suiting,
        freeUsages, strvHas]

theorem suiting_keyUsage :
    ∀ usage ∈ filter.keyUsage.getD [],
      strvHasCi (suiting filter firstOnes).keyUsage usage = true := by
  intro usage member
  apply strvHasCi_iff.mpr
  exact ⟨usage, List.mem_append_left _ member, asciiCaseEqual_refl usage⟩

theorem suiting_matches
    (grantable : Grantable filter.purpose filter.operations) :
    certificateFilterMatches (suiting filter firstOnes) filter = true := by
  apply certificateFilterMatches_iff.mpr
  refine ⟨?_, ?_, suiting_keyUsage firstOnes, ?_, ?_, ?_, ?_⟩
  · apply purposeMatches_of_signs grantable (suiting_signs firstOnes)
      (suiting_decrypts firstOnes)
    · exact fun _ => rfl
    · exact fun _ => ⟨.inl rfl, .inl rfl⟩
    · exact fun _ => .inl rfl
  · apply issuerMatches_iff.mpr
    cases issuers : filter.issuers.getD [] with
    | nil => exact .inl rfl
    | cons issuer rest =>
        right
        refine ⟨issuer, List.mem_cons_self, ?_⟩
        show (filter.issuers.getD []).head? = some issuer
        rw [issuers]
        rfl
  · exact fun oid _ => rfl
  · apply keyAlgorithmMatches_iff.mpr
    cases algorithms : filter.keyAlgorithms.getD [] with
    | nil => exact .inl rfl
    | cons algorithm rest =>
        right
        refine ⟨algorithm, List.mem_cons_self, .inr (.inl ?_)⟩
        refine ⟨algorithm, ?_, asciiCaseEqual_refl algorithm⟩
        show algorithm ∈ filter.keyAlgorithms.getD []
        rw [algorithms]
        exact List.mem_cons_self
  · exact textMatches_iff.mpr (.inr rfl)
  · exact textMatches_iff.mpr (.inr rfl)

/-- A filter with the issuer of a candidate does not rule it out. -/
theorem issuer_matches
    (grantable : Grantable filter.purpose filter.operations)
    {der : Option Octets}
    (own : filter.issuers.getD [] = [] ∨
      ∃ issuer ∈ filter.issuers.getD [], der = some issuer) :
    certificateFilterMatches
      { suiting filter firstOnes with issuerDer := der } filter = true := by
  have base := certificateFilterMatches_iff.mp
    (suiting_matches firstOnes grantable)
  apply certificateFilterMatches_iff.mpr
  exact ⟨base.1, issuerMatches_iff.mpr own, base.2.2⟩

theorem eku_matches
    (grantable : Grantable filter.purpose filter.operations)
    {extra : String}
    (mail : filter.purpose = .email → extra = ekuEmailProtection)
    (client : filter.purpose ≠ .email →
      extra = ekuClientAuth ∨ extra = ekuSmartcardLogon) :
    certificateFilterMatches
      { suiting filter firstOnes with
        ekuOids := some (filter.ekuOids.getD [] ++ [extra]) } filter =
      true := by
  have base := certificateFilterMatches_iff.mp
    (suiting_matches firstOnes grantable)
  have has : extra ∈ filter.ekuOids.getD [] ++ [extra] := by simp
  apply certificateFilterMatches_iff.mpr
  refine ⟨?_, base.2.1, base.2.2.1, ?_, base.2.2.2.2⟩
  · refine purposeMatches_of_signs grantable ?_ ?_ ?_ ?_ ?_
    · exact @suiting_signs filter firstOnes
    · exact @suiting_decrypts filter firstOnes
    · intro email
      rw [← mail email]
      exact ekuAllows_iff.mpr (.inr (.inr has))
    · intro other
      rcases client other with rfl | rfl
      · constructor
        · exact .inr (.inl (ekuAllows_iff.mpr (.inr (.inr has))))
        · exact .inr ⟨_, by simp, strvHas_iff.mpr has⟩
      · constructor
        · exact .inr (.inr (strvHas_iff.mpr has))
        · exact .inr ⟨_, by simp, strvHas_iff.mpr has⟩
    · exact fun _ => .inl rfl
  · intro oid member
    apply ekuAllows_iff.mpr
    exact .inr (.inr (List.mem_append_left _ member))

theorem algorithm_matches
    (grantable : Grantable filter.purpose filter.operations)
    {type : String} {mechanisms : List String}
    (ssh : filter.purpose = .ssh → type = "RSA" ∨ type = "EC")
    (offered : filter.keyAlgorithms.getD [] = [] ∨
      ∃ algorithm ∈ filter.keyAlgorithms.getD [],
        algorithm ∈ mechanisms) :
    certificateFilterMatches
      { suiting filter firstOnes with
        keyType := type, supportedMechanisms := mechanisms } filter =
      true := by
  have base := certificateFilterMatches_iff.mp
    (suiting_matches firstOnes grantable)
  apply certificateFilterMatches_iff.mpr
  refine ⟨?_, base.2.1, base.2.2.1, base.2.2.2.1, ?_, base.2.2.2.2.2⟩
  · refine purposeMatches_of_signs grantable ?_ ?_ ?_ ?_ ?_
    · exact @suiting_signs filter firstOnes
    · exact @suiting_decrypts filter firstOnes
    · exact fun _ => rfl
    · exact fun _ => ⟨.inl rfl, .inl rfl⟩
    · exact ssh
  · apply keyAlgorithmMatches_iff.mpr
    rcases offered with none | ⟨algorithm, member, listed⟩
    · exact .inl none
    · exact .inr ⟨algorithm, member, .inr (.inl
        ⟨algorithm, listed, asciiCaseEqual_refl algorithm⟩)⟩

end Suiting

/-! ## Satisfied entries are covered -/

section Complete

variable {purpose : CertificatePurpose} {operations : CertificateOperations}
variable {first : Vardict}

theorem covered_issuers
    (grantable : Grantable purpose operations) {wanted : List Octets}
    (satisfied : ∀ candidate, certificateFilterMatches candidate
        (filterOf purpose operations first) = true →
      Constraint.Satisfied candidate (.issuers wanted)) :
    Constraint.Covered purpose first (.issuers wanted) := by
  by_cases unasked : wanted = []
  · exact .inl unasked
  · right
    constructor
    · intro absent
      have fits := @issuer_matches (filterOf purpose operations first) true
        grantable none (.inl absent)
      rcases satisfied _ fits with empty | ⟨issuer, -, own⟩
      · exact unasked empty
      · cases own
    · intro issuer member
      have fits := @issuer_matches (filterOf purpose operations first) true
        grantable (some issuer) (.inr ⟨issuer, member, rfl⟩)
      rcases satisfied _ fits with empty | ⟨other, listed, own⟩
      · exact absurd empty unasked
      · cases own
        exact listed

/-- Of two usages that differ one is not what is asked for. -/
theorem freeUsages_apart (usage : String) :
    ∃ firstOnes, ∀ free ∈ freeUsages firstOnes,
      asciiCaseEqual free usage = false := by
  by_contra both
  push Not at both
  rcases both true with ⟨first, firstFree, firstSame⟩
  rcases both false with ⟨second, secondFree, secondSame⟩
  rw [Ne, Bool.not_eq_false] at firstSame secondSame
  have same : asciiCaseEqual first second = true :=
    asciiCaseEqual_trans firstSame (asciiCaseEqual_symm secondSame)
  simp only [freeUsages, List.mem_cons, List.not_mem_nil, or_false,
    if_true, if_false, Bool.false_eq_true] at firstFree secondFree
  rcases firstFree with rfl | rfl
  · rcases secondFree with rfl | rfl
    · exact absurd same (by decide)
    · exact absurd same (by decide)
  · rcases secondFree with rfl | rfl
    · exact absurd same (by decide)
    · exact absurd same (by decide)

theorem covered_keyUsage
    (grantable : Grantable purpose operations) {wanted : List String}
    (satisfied : ∀ candidate, certificateFilterMatches candidate
        (filterOf purpose operations first) = true →
      Constraint.Satisfied candidate (.keyUsage wanted)) :
    Constraint.Covered purpose first (.keyUsage wanted) := by
  intro usage member
  rcases freeUsages_apart usage with ⟨firstOnes, apart⟩
  rcases satisfied _ (suiting_matches firstOnes grantable) usage member
    with ⟨own, has, same⟩
  rcases List.mem_append.mp has with asked | free
  · exact ⟨own, asked, same⟩
  · rw [apart own free] at same
    cases same

/-- The usage that a purpose needs, other than a given one. -/
def extraUsage (purpose : CertificatePurpose) (oid : String) : String :=
  if purpose = .email then ekuEmailProtection
  else if oid = ekuClientAuth then ekuSmartcardLogon
  else ekuClientAuth

theorem extraUsage_ne_any (oid : String) :
    extraUsage purpose oid ≠ ekuAny := by
  rw [extraUsage]
  split
  · decide
  · split
    · decide
    · decide

theorem extraUsage_client (oid : String) (other : purpose ≠ .email) :
    extraUsage purpose oid = ekuClientAuth ∨
      extraUsage purpose oid = ekuSmartcardLogon := by
  rw [extraUsage, if_neg other]
  split
  · exact .inr rfl
  · exact .inl rfl

theorem extraUsage_eq {oid : String}
    (same : extraUsage purpose oid = oid) :
    purpose = .email ∧ oid = ekuEmailProtection := by
  rw [extraUsage] at same
  split at same
  next email => exact ⟨email, same.symm⟩
  next other =>
    split at same
    next client =>
      rw [client] at same
      exact absurd same (by decide)
    next client => exact absurd same.symm client

theorem covered_eku
    (grantable : Grantable purpose operations) {wanted : List String}
    (satisfied : ∀ candidate, certificateFilterMatches candidate
        (filterOf purpose operations first) = true →
      Constraint.Satisfied candidate (.eku wanted)) :
    Constraint.Covered purpose first (.eku wanted) := by
  intro oid member
  have fits := @eku_matches (filterOf purpose operations first) true
    grantable (extraUsage purpose oid) (fun email => if_pos email)
    (extraUsage_client oid)
  rcases satisfied _ fits oid member with free | any | has
  · cases free
  · rcases List.mem_append.mp any with any | extra
    · exact .inr (.inl any)
    · have same := List.mem_singleton.mp extra
      exact absurd same.symm (extraUsage_ne_any oid)
  · rcases List.mem_append.mp has with has | extra
    · exact .inl has
    · have same := List.mem_singleton.mp extra
      exact .inr (.inr (extraUsage_eq same.symm))

/-- A type of keys that no algorithm names. -/
theorem fresh_type (wanted : List String) :
    ∃ type, type ≠ "RSA" ∧ type ≠ "EC" ∧
      ∀ algorithm ∈ wanted, asciiCaseEqual algorithm type = false := by
  let size := (wanted.map String.length).sum + 4
  refine ⟨String.ofList (List.replicate size '#'), ?_, ?_, ?_⟩
  · intro same
    have long := congrArg String.length same
    rw [String.length_ofList, List.length_replicate] at long
    change size = 3 at long
    omega
  · intro same
    have long := congrArg String.length same
    rw [String.length_ofList, List.length_replicate] at long
    change size = 2 at long
    omega
  · intro algorithm member
    rw [← Bool.not_eq_true, asciiCaseEqual_iff]
    intro same
    have long := congrArg List.length same
    simp only [List.length_map, String.toList_ofList,
      List.length_replicate, String.length_toList] at long
    have listed : algorithm.length ∈ wanted.map String.length :=
      List.mem_map_of_mem member
    have short := List.single_le_sum (fun _ _ => Nat.zero_le _) _ listed
    omega

theorem starts_of_equal
    {algorithm type : String}
    (same : asciiCaseEqual algorithm type = true) (pattern : String)
    (starts : asciiCaseStarts type pattern = true) :
    asciiCaseStarts algorithm pattern = true := by
  rw [asciiCaseStarts_congr same]
  exact starts

/-- No type is offered under any name, unless RSA and EC both are. -/
theorem unoffered_type
    {wanted : List String}
    (uncovered : ¬(purpose = .ssh ∧
      (∃ algorithm ∈ wanted, asciiCaseStarts algorithm "rsa" = true) ∧
      ∃ algorithm ∈ wanted, asciiCaseStarts algorithm "ecdsa" = true ∨
        asciiCaseStarts algorithm "ec" = true)) :
    ∃ type, (purpose = .ssh → type = "RSA" ∨ type = "EC") ∧
      ∀ candidate : CertificateCandidate, candidate.keyType = type →
        ∀ algorithm ∈ wanted, Offers candidate algorithm →
          ∃ mechanism ∈ candidate.supportedMechanisms,
            asciiCaseEqual mechanism algorithm = true := by
  by_cases ssh : purpose = .ssh
  · by_cases rsa : ∃ algorithm ∈ wanted,
        asciiCaseStarts algorithm "rsa" = true
    · refine ⟨"EC", fun _ => .inr rfl, ?_⟩
      rintro candidate type algorithm member
        (same | listed | ⟨-, other⟩ | ⟨starts, -⟩)
      · rw [type] at same
        exact absurd ⟨ssh, rsa, algorithm, member,
          .inr (starts_of_equal same "ec" (by decide))⟩ uncovered
      · exact listed
      · rw [type] at other
        exact absurd other (by decide)
      · exact absurd ⟨ssh, rsa, algorithm, member, starts⟩ uncovered
    · refine ⟨"RSA", fun _ => .inl rfl, ?_⟩
      rintro candidate type algorithm member
        (same | listed | ⟨starts, -⟩ | ⟨-, other⟩)
      · rw [type] at same
        exact absurd ⟨algorithm, member,
          starts_of_equal same "rsa" (by decide)⟩ rsa
      · exact listed
      · exact absurd ⟨algorithm, member, starts⟩ rsa
      · rw [type] at other
        exact absurd other (by decide)
  · rcases fresh_type wanted with ⟨type, notRsa, notEc, fresh⟩
    refine ⟨type, fun is => absurd is ssh, ?_⟩
    rintro candidate rfl algorithm member
      (same | listed | ⟨-, other⟩ | ⟨-, other⟩)
    · rw [fresh algorithm member] at same
      cases same
    · exact listed
    · exact absurd other notRsa
    · exact absurd other notEc

theorem covered_keyAlgorithms
    (grantable : Grantable purpose operations) {wanted : List String}
    (satisfied : ∀ candidate, certificateFilterMatches candidate
        (filterOf purpose operations first) = true →
      Constraint.Satisfied candidate (.keyAlgorithms wanted)) :
    Constraint.Covered purpose first (.keyAlgorithms wanted) := by
  by_cases unasked : wanted = []
  · exact .inl unasked
  right
  rw [or_iff_not_imp_right]
  intro uncovered
  rcases unoffered_type uncovered with ⟨type, ssh, onlyMechanisms⟩
  constructor
  · intro absent
    have fits := @algorithm_matches (filterOf purpose operations first) true
      grantable type [] ssh (.inl absent)
    rcases satisfied _ fits with empty | ⟨algorithm, member, offers⟩
    · exact unasked empty
    · rcases onlyMechanisms _ rfl algorithm member offers with
        ⟨mechanism, listed, -⟩
      cases listed
  · intro asked askedMember
    have fits := @algorithm_matches (filterOf purpose operations first) true
      grantable type [asked] ssh
      (.inr ⟨asked, askedMember, List.mem_singleton_self asked⟩)
    rcases satisfied _ fits with empty | ⟨algorithm, member, offers⟩
    · exact absurd empty unasked
    · rcases onlyMechanisms _ rfl algorithm member offers with
        ⟨mechanism, listed, same⟩
      cases List.mem_singleton.mp listed
      exact ⟨algorithm, member, asciiCaseEqual_symm same⟩

theorem Constraint.covered_of_satisfied
    (grantable : Grantable purpose operations) {constraint : Constraint}
    (satisfied : ∀ candidate, certificateFilterMatches candidate
        (filterOf purpose operations first) = true →
      constraint.Satisfied candidate) :
    constraint.Covered purpose first := by
  have fits := @suiting_matches (filterOf purpose operations first) true
    grantable
  cases constraint with
  | issuers wanted => exact covered_issuers grantable satisfied
  | keyUsage wanted => exact covered_keyUsage grantable satisfied
  | eku wanted => exact covered_eku grantable satisfied
  | keyAlgorithms wanted => exact covered_keyAlgorithms grantable satisfied
  | tokenLabel wanted => exact satisfied _ fits
  | pivSlot wanted => exact satisfied _ fits

end Complete

/-! ## Filters that are kept whole -/

/-- The filter that a lookup finds in the options. -/
def firstFilter (options : Option Vardict) : Vardict :=
  match options.bind fun options =>
      lookupValue options "certificate_filter" with
  | some (.vardict filter) => filter
  | _ => []

/-- The filter that is found is no dictionary, has an unknown key, or has a
key of which the first entry is not well typed. -/
def Refused (options : Option Vardict) : Prop :=
  ∃ value ∈ options.bind fun options =>
      lookupValue options "certificate_filter",
    ∀ filter, value = .vardict filter → ¬Acceptable filter

/-- No constraint is set. -/
def Unconstrained (filter : CertificateFilter) : Prop :=
  filter.issuers = none ∧ filter.keyUsage = none ∧
    filter.ekuOids = none ∧ filter.keyAlgorithms = none ∧
    filter.tokenLabel = none ∧ filter.pivSlot = none

/-- The filters of the options are refused and nothing is left of them, or
every entry of all of them is well typed and satisfied by every certificate
that matches. -/
def KeptWhole
    (options : Option Vardict)
    (outcome : Except GError Unit × CertificateFilter) : Prop :=
  (∃ error, outcome.1 = .error error) ∧ Unconstrained outcome.2 ∨
    outcome.1 = .ok () ∧
      ∀ value, ("certificate_filter", value) ∈ options.getD [] →
        ∃ entries, value = .vardict entries ∧
          ∀ entry ∈ entries, ∃ constraint : Constraint,
            constraint.Declared ∧ entry = constraint.entry ∧
              ∀ candidate,
                certificateFilterMatches candidate outcome.2 = true →
                  constraint.Satisfied candidate

/-- Every entry of every filter is well typed and covered by the first
entries. -/
def SaidBefore
    (purpose : CertificatePurpose) (operations : CertificateOperations)
    (options : Option Vardict) : Prop :=
  ∀ value, ("certificate_filter", value) ∈ options.getD [] →
    ∃ entries, value = .vardict entries ∧
      ∀ entry ∈ entries, ∃ constraint : Constraint,
        constraint.Declared ∧ entry = constraint.entry ∧
          (Grantable purpose operations →
            constraint.Covered purpose (firstFilter options))

/-- What is parsed is the filter of the first entries, unless it is
refused. -/
theorem certificateFilterParse_cases
    (options : Option Vardict) (purpose : CertificatePurpose)
    (operations : CertificateOperations) :
    (Refused options ∧ ∃ error,
      certificateFilterParse options purpose operations = .error error) ∨
    ¬Refused options ∧
      certificateFilterParse options purpose operations =
        .ok (filterOf purpose operations (firstFilter options)) := by
  rw [certificateFilterParse, firstFilter, Refused]
  cases found : options.bind fun options =>
      lookupValue options "certificate_filter" with
  | none =>
      right
      constructor
      · rintro ⟨value, none, -⟩
        cases none
      · rfl
  | some value =>
      cases value with
      | vardict filter =>
          dsimp only
          cases parsed : parseConstraints filter purpose operations with
          | error error =>
              left
              refine ⟨⟨_, rfl, ?_⟩, error, rfl⟩
              rintro same ⟨⟩ acceptable
              rw [parseConstraints_ok_iff.mpr ⟨acceptable, rfl⟩] at parsed
              cases parsed
          | ok read =>
              rcases parseConstraints_ok_iff.mp parsed with
                ⟨acceptable, rfl⟩
              right
              refine ⟨?_, rfl⟩
              rintro ⟨value, ⟨⟩, unacceptable⟩
              exact unacceptable filter rfl acceptable
      | _ =>
          refine .inl ⟨⟨_, rfl, ?_⟩, _, rfl⟩
          rintro filter ⟨⟩

theorem bare_unconstrained
    (purpose : CertificatePurpose) (operations : CertificateOperations) :
    Unconstrained (bare purpose operations) :=
  ⟨rfl, rfl, rfl, rfl, rfl, rfl⟩

/-- The code keeps a filter whole just if it refuses it, or if whatever is
said in an entry that no lookup finds was said before. -/
theorem keptWhole_iff
    (options : Option Vardict) (purpose : CertificatePurpose)
    (operations : CertificateOperations) (out : CertificateFilter) :
    KeptWhole options
        ((certificateFilterFill options purpose operations).outcome out) ↔
      Refused options ∨ SaidBefore purpose operations options := by
  rw [outcome_certificateFilterFill]
  rcases certificateFilterParse_cases options purpose operations with
    ⟨refused, error, fails⟩ | ⟨accepted, parses⟩
  · rw [fails]
    apply iff_of_true
    · exact .inl ⟨⟨error, rfl⟩, bare_unconstrained purpose operations⟩
    · exact .inl refused
  · rw [parses]
    constructor
    · rintro (⟨⟨error, fails⟩, -⟩ | ⟨-, kept⟩)
      · cases fails
      · right
        intro value given
        rcases kept value given with ⟨entries, rfl, kept⟩
        refine ⟨entries, rfl, ?_⟩
        intro entry member
        rcases kept entry member with
          ⟨constraint, declared, same, satisfied⟩
        refine ⟨constraint, declared, same, ?_⟩
        intro grantable
        exact constraint.covered_of_satisfied grantable satisfied
    · rintro (refused | said)
      · exact absurd refused accepted
      · right
        refine ⟨rfl, ?_⟩
        intro value given
        rcases said value given with ⟨entries, rfl, said⟩
        refine ⟨entries, rfl, ?_⟩
        intro entry member
        rcases said entry member with
          ⟨constraint, declared, same, covered⟩
        refine ⟨constraint, declared, same, ?_⟩
        intro candidate fits
        have suits := (certificateFilterMatches_iff.mp fits).1
        exact (covered (grantable_of_matches suits)).satisfied declared fits

/-- Two labels, of which the second is dropped. -/
def twoLabels : Vardict :=
  [("certificate_filter", .vardict
    [("token_label", .string "A"), ("token_label", .string "B")])]

/-- The second label of the two is lost. -/
theorem twoLabels_not_keptWhole :
    ¬KeptWhole (some twoLabels)
      ((certificateFilterFill (some twoLabels) .signing
        operationSign).outcome (bare .signing operationSign)) := by
  rintro (⟨⟨error, fails⟩, -⟩ | ⟨-, kept⟩)
  · cases fails
  · rcases kept _ (List.mem_singleton_self _) with ⟨entries, same, kept⟩
    cases same
    rcases kept ("token_label", .string "B") (by simp) with
      ⟨constraint, -, same, satisfied⟩
    cases constraint with
    | tokenLabel wanted =>
        cases same
        have fits := @suiting_matches (filterOf .signing operationSign
          [("token_label", .string "A"), ("token_label", .string "B")])
          true rfl
        rcases satisfied _ fits with empty | other
        · exact absurd empty (by decide)
        · have label : some "A" = some "B" := other
          exact absurd label (by decide)
    | _ => simp [Constraint.entry, Constraint.key] at same

end PortalCertificate.Tokens.FilterEntries
