import PortalCertificate.Adapter.Options
import PortalCertificate.Broker.Operations

/-!
# From the wire to the core

The adapter takes a dictionary of parameters apart and the core builds
another one, in which the entries that the mechanism does not read are left
out and everything that could not be read is one unknown entry.  The parser
of the broker cannot tell the two dictionaries apart, but for the text of an
error.  A filter of the wire is the filter of the core again.
-/

namespace PortalCertificate.Adapter.Translation

open PortalCertificate.Adapter.Options
open PortalCertificate.Broker.Mechanism
open PortalCertificate.Broker.Operations
open PortalCertificate.Core.Coordinator
open PortalCertificate.Core.Principals
open PortalCertificate.Core.Specs
open PortalCertificate.Glib
open PortalCertificate.Library.Der (Octets)
open PortalCertificate.Tokens.Discovery
open PortalCertificate.Tokens.Filter

/-! ## Computations that fail -/

/-- The computation ends with an error. -/
def Fails {Error Value : Type} (computation : Except Error Value) : Prop :=
  ∃ error, computation = .error error

theorem Fails.bind
    {Error First Second : Type} {computation : Except Error First}
    (fails : Fails computation) (next : First → Except Error Second) :
    Fails (computation >>= next) := by
  rcases fails with ⟨error, rfl⟩
  exact ⟨error, rfl⟩

theorem Fails.of_next
    {Error First Second : Type} (computation : Except Error First)
    {next : First → Except Error Second}
    (fails : ∀ value, Fails (next value)) :
    Fails (computation >>= next) := by
  cases computation with
  | error error => exact ⟨error, rfl⟩
  | ok value => exact fails value

/-! ## What the parser reads

The parser looks for four keys, and for two of them in a PSS request only.
-/

section Reads

variable
    {name : String} {left right : Option Vardict}
    {keyType : Option String} {keySize : UInt32}
    {encoding : CertificateSignatureEncoding}

/-- The value of a key in a dictionary that may be absent. -/
def entry (parameters : Option Vardict) (key : String) : Option Variant :=
  parameters.bind fun parameters => lookupValue parameters key

theorem lookupString_congr
    {key : String} (same : entry left key = entry right key) :
    lookupString left key = lookupString right key := by
  have reads (parameters : Option Vardict) :
      lookupString parameters key =
        lookupString ((entry parameters key).map fun value =>
          [(key, value)]) key := by
    cases parameters with
    | none => rfl
    | some parameters =>
        cases found : lookupValue parameters key <;>
          simp [lookupString, entry, found, lookupValue_cons]
  rw [reads, same, ← reads]

theorem parseEncoding_congr
    (same : entry left "signature_encoding" =
      entry right "signature_encoding") :
    parseEncoding left = parseEncoding right := by
  simp only [parseEncoding, lookupString_congr same]

theorem parseHash_congr (same : entry left "hash" = entry right "hash") :
    parseHash left = parseHash right := by
  have reads (parameters : Option Vardict) :
      parseHash parameters =
        parseHash ((entry parameters "hash").map fun value =>
          [("hash", value)]) := by
    cases parameters with
    | none => rfl
    | some parameters =>
        cases found : lookupValue parameters "hash" <;>
          simp [parseHash, lookupText, entry, found, lookupValue_cons]
  rw [reads, same, ← reads]

theorem parseMgf_congr
    (same : entry left "mgf" = entry right "mgf") (hash : NamedHash) :
    parseMgf left hash = parseMgf right hash := by
  simp only [parseMgf, lookupString_congr same]

theorem parseSaltLength_congr
    (same : entry left "salt_length" = entry right "salt_length")
    (hash : HashEntry) :
    parseSaltLength left hash = parseSaltLength right hash := by
  have reads (parameters : Option Vardict) :
      (parameters.bind fun parameters =>
          lookupValue parameters "salt_length") =
        entry parameters "salt_length" := rfl
  simp only [parseSaltLength, reads, same]

/-- Two dictionaries with the same entries under the keys that are read. -/
structure ReadsAlike
    (name : String) (left right : Option Vardict) : Prop where
  hash : entry left "hash" = entry right "hash"
  encoding :
    entry left "signature_encoding" = entry right "signature_encoding"
  mgf : name = "RSA_PSS" → entry left "mgf" = entry right "mgf"
  saltLength : name = "RSA_PSS" →
    entry left "salt_length" = entry right "salt_length"

theorem parseRsaPss_congr
    (alike : ReadsAlike name left right) (isPss : name = "RSA_PSS") :
    parseRsaPss name left keyType keySize encoding =
      parseRsaPss name right keyType keySize encoding := by
  simp only [parseRsaPss, parseHash_congr alike.hash,
    parseMgf_congr (alike.mgf isPss),
    parseSaltLength_congr (alike.saltLength isPss)]

/-- The branch of `certificate_mechanism_parse` for a signature. -/
def parseSign
    (name : String) (parameters : Option Vardict)
    (keyType : Option String) (keySize : UInt32)
    (encoding : CertificateSignatureEncoding) :
    Except GError CertificateMechanism :=
  if name = "RSA_PKCS1_V1_5" then
    parseRsaPkcs name parameters keyType keySize encoding
  else if name = "RSA_PSS" then
    parseRsaPss name parameters keyType keySize encoding
  else if name = "ECDSA" then
    parseEcdsa name parameters keyType encoding
  else
    throw (notSupported ("Unknown mechanism '" ++ name ++ "'"))

theorem certificateMechanismParse_sign
    (name : String) (parameters : Option Vardict)
    (keyType : Option String) (keySize : UInt32) :
    certificateMechanismParse name parameters keyType keySize false =
      parametersAreKnown parameters false >>= fun _ =>
        parseEncoding parameters >>=
          parseSign name parameters keyType keySize := rfl

theorem parseSign_congr (alike : ReadsAlike name left right) :
    parseSign name left keyType keySize encoding =
      parseSign name right keyType keySize encoding := by
  have hash := parseHash_congr alike.hash
  by_cases isPss : name = "RSA_PSS"
  · simp only [parseSign, parseRsaPss_congr alike isPss, parseRsaPkcs,
      parseEcdsa, hash]
  · simp only [parseSign, isPss, if_false, parseRsaPkcs, parseEcdsa, hash]

/-- Dictionaries of known keys that read alike are parsed alike. -/
theorem certificateMechanismParse_congr
    (alike : ReadsAlike name left right)
    (knownLeft : parametersAreKnown left false = .ok ())
    (knownRight : parametersAreKnown right false = .ok ()) :
    certificateMechanismParse name left keyType keySize false =
      certificateMechanismParse name right keyType keySize false := by
  rw [certificateMechanismParse_sign, certificateMechanismParse_sign,
    knownLeft, knownRight, parseEncoding_congr alike.encoding]
  congr 1
  funext _
  congr 1
  funext encoding
  exact parseSign_congr alike

/-! ## What the parser refuses -/

theorem parseSign_fails
    (unnamed : Fails (parseHash left)) :
    Fails (parseSign name left keyType keySize encoding) := by
  rcases unnamed with ⟨error, unnamed⟩
  simp only [parseSign]
  split_ifs with rsa pss ecdsa
  · by_cases key : keyType = some "RSA"
    · simp only [parseRsaPkcs, unnamed, key, ne_eq, not_true_eq_false,
        if_false]
      exact ⟨error, rfl⟩
    · exact ⟨_, if_pos key⟩
  · by_cases key : keyType = some "RSA"
    · simp only [parseRsaPss, unnamed, key, ne_eq, not_true_eq_false,
        if_false]
      exact ⟨error, rfl⟩
    · exact ⟨_, if_pos key⟩
  · by_cases key : keyType = some "EC"
    · simp only [parseEcdsa, unnamed, key, ne_eq, not_true_eq_false,
        if_false]
      exact ⟨error, rfl⟩
    · exact ⟨_, if_pos key⟩
  · exact ⟨_, rfl⟩

theorem parseRsaPss_fails
    (refused :
      (∀ hash, Fails (parseMgf left hash)) ∨
        ∀ hash, Fails (parseSaltLength left hash)) :
    Fails (parseRsaPss name left keyType keySize encoding) := by
  by_cases key : keyType = some "RSA"
  · simp only [parseRsaPss, key, ne_eq, not_true_eq_false, if_false]
    apply Fails.of_next
    intro hash
    rcases refused with refused | refused
    · exact (refused hash).bind _
    · apply Fails.of_next
      intro mgfHash
      exact (refused hash.entry).bind _
  · exact ⟨_, if_pos key⟩

end Reads

/-! ## A dictionary taken apart -/

section Taken

variable {mechanism : String} {parameters : Vardict}

/-- The key is there, and its value is no text. -/
def NoText (parameters : Vardict) (key : String) : Prop :=
  ∃ value, lookupValue parameters key = some value ∧
    ∀ text, value ≠ .string text

/-- The key is there, and its value is no number. -/
def NoUint32 (parameters : Vardict) (key : String) : Prop :=
  ∃ value, lookupValue parameters key = some value ∧
    ∀ number, value ≠ .uint32 number

theorem optionTakeString_good
    {key : String} {bad : Bool}
    (good : (optionTakeString parameters key bad).2 = false) :
    bad = false ∧
      lookupValue parameters key =
        (optionTakeString parameters key bad).1.map .string := by
  revert good
  simp only [optionTakeString]
  cases lookupValue parameters key with
  | none => exact fun good => ⟨good, rfl⟩
  | some value =>
      cases value with
      | string text => exact fun good => ⟨good, rfl⟩
      | _ => intro good; cases good

theorem optionTakeString_bad
    {key : String} {bad : Bool}
    (isBad : (optionTakeString parameters key bad).2 = true) :
    bad = true ∨ NoText parameters key := by
  revert isBad
  simp only [optionTakeString, NoText]
  cases lookupValue parameters key with
  | none => exact Or.inl
  | some value =>
      cases value with
      | string text => exact Or.inl
      | _ => exact fun _ => Or.inr ⟨_, rfl, fun text => nofun⟩

theorem optionTakeUint32_good
    {key : String} {bad : Bool}
    (good : (optionTakeUint32 parameters key bad).2 = false) :
    bad = false ∧
      lookupValue parameters key =
        (optionTakeUint32 parameters key bad).1.map .uint32 := by
  revert good
  simp only [optionTakeUint32]
  cases lookupValue parameters key with
  | none => exact fun good => ⟨good, rfl⟩
  | some value =>
      cases value with
      | uint32 number => exact fun good => ⟨good, rfl⟩
      | _ => intro good; cases good

theorem optionTakeUint32_bad
    {key : String} {bad : Bool}
    (isBad : (optionTakeUint32 parameters key bad).2 = true) :
    bad = true ∨ NoUint32 parameters key := by
  revert isBad
  simp only [optionTakeUint32, NoUint32]
  cases lookupValue parameters key with
  | none => exact Or.inl
  | some value =>
      cases value with
      | uint32 number => exact Or.inl
      | _ => exact fun _ => Or.inr ⟨_, rfl, fun number => nofun⟩

/-- Everything in a dictionary that the adapter could read. -/
structure Readable
    (mechanism : String) (parameters : Vardict) (taken : TakenParameters) :
    Prop where
  known : vardictKeysKnown parameters signParameterKeys = true
  hash : lookupValue parameters "hash" = taken.hash.map .string
  encoding : lookupValue parameters "signature_encoding" =
    taken.encoding.map .string
  mgf : mechanism = "RSA_PSS" →
    lookupValue parameters "mgf" = taken.mgf.map .string
  saltLength : mechanism = "RSA_PSS" →
    lookupValue parameters "salt_length" = taken.saltLength.map .uint32

theorem takeParameters_good
    (good : (takeParameters mechanism parameters).bad = false) :
    Readable mechanism parameters
      (takeParameters mechanism parameters) := by
  by_cases isPss : mechanism = "RSA_PSS"
  · simp only [takeParameters, isPss, if_true] at good ⊢
    rcases optionTakeUint32_good good with ⟨good, saltLength⟩
    rcases optionTakeString_good good with ⟨good, encoding⟩
    rcases optionTakeString_good good with ⟨good, mgf⟩
    rcases optionTakeString_good good with ⟨good, hash⟩
    exact
      { known := by simpa using good, hash, encoding
        mgf := fun _ => mgf, saltLength := fun _ => saltLength }
  · simp only [takeParameters, isPss, if_false] at good ⊢
    rcases optionTakeString_good good with ⟨good, encoding⟩
    rcases optionTakeString_good good with ⟨good, hash⟩
    exact
      { known := by simpa using good, hash, encoding
        mgf := fun pss => absurd pss isPss
        saltLength := fun pss => absurd pss isPss }

/-- Why the adapter could not read a dictionary. -/
inductive Unreadable (mechanism : String) (parameters : Vardict) : Prop where
  | unknown (unknown :
      vardictKeysKnown parameters signParameterKeys = false)
  | hash (mistyped : NoText parameters "hash")
  | encoding (mistyped : NoText parameters "signature_encoding")
  | mgf (isPss : mechanism = "RSA_PSS") (mistyped : NoText parameters "mgf")
  | saltLength (isPss : mechanism = "RSA_PSS")
      (mistyped : NoUint32 parameters "salt_length")

theorem takeParameters_bad
    (isBad : (takeParameters mechanism parameters).bad = true) :
    Unreadable mechanism parameters := by
  have start (isBad : (!vardictKeysKnown parameters signParameterKeys) = true) :
      Unreadable mechanism parameters :=
    .unknown (by simpa using isBad)
  by_cases isPss : mechanism = "RSA_PSS"
  · simp only [takeParameters, isPss, if_true] at isBad
    rcases optionTakeUint32_bad isBad with isBad | mistyped
    · rcases optionTakeString_bad isBad with isBad | mistyped
      · rcases optionTakeString_bad isBad with isBad | mistyped
        · rcases optionTakeString_bad isBad with isBad | mistyped
          · exact start isBad
          · exact .hash mistyped
        · exact .mgf isPss mistyped
      · exact .encoding mistyped
    · exact .saltLength isPss mistyped
  · simp only [takeParameters, isPss, if_false] at isBad
    rcases optionTakeString_bad isBad with isBad | mistyped
    · rcases optionTakeString_bad isBad with isBad | mistyped
      · exact start isBad
      · exact .hash mistyped
    · exact .encoding mistyped

/-! ## The parser on such dictionaries -/

theorem signParameterKeys_eq : signParameterKeys = signKeys := rfl

theorem parametersAreKnown_ok
    (known : vardictKeysKnown parameters signParameterKeys = true) :
    parametersAreKnown (some parameters) false = .ok () := by
  have none : parameters.find? (fun entry => !signKeys.contains entry.1) =
      none := by
    rw [List.find?_eq_none]
    intro entry member
    simpa [signParameterKeys_eq] using List.all_eq_true.mp known entry member
  simp only [parametersAreKnown, Bool.false_eq_true, if_false, none]

theorem parametersAreKnown_fails
    (unknown : vardictKeysKnown parameters signParameterKeys = false) :
    Fails (parametersAreKnown (some parameters) false) := by
  simp only [parametersAreKnown, Bool.false_eq_true, if_false]
  cases found :
      parameters.find? fun entry => !signKeys.contains entry.1 with
  | some entry => exact ⟨_, rfl⟩
  | none =>
      rw [List.find?_eq_none] at found
      have known : vardictKeysKnown parameters signParameterKeys = true := by
        apply List.all_eq_true.mpr
        intro entry member
        simpa [signParameterKeys_eq] using found entry member
      rw [known] at unknown
      cases unknown

theorem NoText.fails {key : String} (mistyped : NoText parameters key) :
    Fails (lookupString parameters key) := by
  rcases mistyped with ⟨value, found, noText⟩
  simp only [lookupString, found]
  cases value with
  | string text => exact absurd rfl (noText text)
  | _ => exact ⟨_, rfl⟩

theorem NoText.parseHash_fails (mistyped : NoText parameters "hash") :
    Fails (parseHash parameters) := by
  rcases mistyped with ⟨value, found, noText⟩
  simp only [parseHash, Option.bind_some, lookupText, found]
  cases value with
  | string text => exact absurd rfl (noText text)
  | _ => exact ⟨_, rfl⟩

theorem NoUint32.parseSaltLength_fails
    (mistyped : NoUint32 parameters "salt_length") (hash : HashEntry) :
    Fails (parseSaltLength parameters hash) := by
  rcases mistyped with ⟨value, found, noNumber⟩
  simp only [parseSaltLength, Option.bind_some, found]
  cases value with
  | uint32 number => exact absurd rfl (noNumber number)
  | _ => exact ⟨_, rfl⟩

/-- What the adapter could not read is refused by the parser too. -/
theorem Unreadable.fails
    (unreadable : Unreadable mechanism parameters)
    (keyType : Option String) (keySize : UInt32) :
    Fails (certificateMechanismParse mechanism (some parameters) keyType
      keySize false) := by
  rw [certificateMechanismParse_sign]
  cases unreadable with
  | unknown unknown => exact (parametersAreKnown_fails unknown).bind _
  | hash mistyped =>
      apply Fails.of_next
      intro _
      apply Fails.of_next
      intro encoding
      exact parseSign_fails mistyped.parseHash_fails
  | encoding mistyped =>
      apply Fails.of_next
      intro _
      apply Fails.bind
      rcases mistyped.fails with ⟨error, failed⟩
      exact ⟨error, by simp only [parseEncoding, failed]⟩
  | mgf isPss mistyped =>
      subst isPss
      apply Fails.of_next
      intro _
      apply Fails.of_next
      intro encoding
      apply parseRsaPss_fails
      left
      intro hash
      rcases mistyped.fails with ⟨error, failed⟩
      exact ⟨error, by simp only [parseMgf, failed]⟩
  | saltLength isPss mistyped =>
      subst isPss
      apply Fails.of_next
      intro _
      apply Fails.of_next
      intro encoding
      exact parseRsaPss_fails (.inr mistyped.parseSaltLength_fails)

end Taken

/-! ## The dictionary that the core builds -/

section Built

variable {arguments : Arguments} {call : SignCall}

/-- The entries of a dictionary that was taken apart. -/
def assembled (taken : TakenParameters) : Vardict :=
  (taken.hash.map fun text => ("hash", Variant.string text)).toList ++
    (taken.mgf.map fun text => ("mgf", Variant.string text)).toList ++
    (taken.saltLength.map fun value =>
      ("salt_length", Variant.uint32 value)).toList ++
    (taken.encoding.map fun text =>
      ("signature_encoding", Variant.string text)).toList

theorem signParameters_signSpec (valid : Bool) :
    signParameters (signSpec arguments call) valid =
      (if valid then [] else [("invalid", .boolean true)]) ++
        assembled (takeParameters call.mechanism call.parameters) := by
  rcases taken : takeParameters call.mechanism call.parameters with
    ⟨hash, mgf, encoding, saltLength, bad⟩
  simp only [signParameters, signSpec, taken]
  cases valid <;> cases hash <;> cases mgf <;> cases encoding <;>
    cases saltLength <;> rfl

section Entries

variable (taken : TakenParameters)

theorem lookupValue_assembled :
    lookupValue (assembled taken) "hash" = taken.hash.map .string ∧
      lookupValue (assembled taken) "mgf" = taken.mgf.map .string ∧
      lookupValue (assembled taken) "salt_length" =
        taken.saltLength.map .uint32 ∧
      lookupValue (assembled taken) "signature_encoding" =
        taken.encoding.map .string := by
  rcases taken with ⟨hash, mgf, encoding, saltLength, bad⟩
  cases hash <;> cases mgf <;> cases encoding <;> cases saltLength <;>
    exact ⟨rfl, rfl, rfl, rfl⟩

theorem known_assembled :
    vardictKeysKnown (assembled taken) signParameterKeys = true := by
  rcases taken with ⟨hash, mgf, encoding, saltLength, bad⟩
  cases hash <;> cases mgf <;> cases encoding <;> cases saltLength <;> rfl

end Entries

/-- The parser cannot tell what the core builds from what was sent. -/
theorem parse_built
    (keyType : Option String) (keySize : UInt32)
    (good : (takeParameters call.mechanism call.parameters).bad = false) :
    certificateMechanismParse call.mechanism
        (some (signParameters (signSpec arguments call) true)) keyType
        keySize false =
      certificateMechanismParse call.mechanism call.parameters keyType
        keySize false := by
  rcases call with ⟨operationId, mechanism, parameters, data⟩
  rw [signParameters_signSpec]
  simp only [if_true, List.nil_append]
  have built := parametersAreKnown_ok
    (known_assembled (takeParameters mechanism parameters))
  rcases lookupValue_assembled (takeParameters mechanism parameters) with
    ⟨hash, mgf, saltLength, encoding⟩
  cases parameters with
  | none =>
      apply certificateMechanismParse_congr _ built rfl
      exact
        { hash, encoding, mgf := fun _ => mgf
          saltLength := fun _ => saltLength }
  | some parameters =>
      have readable := takeParameters_good good
      apply certificateMechanismParse_congr _ built
        (parametersAreKnown_ok readable.known)
      exact
        { hash := hash.trans readable.hash.symm
          encoding := encoding.trans readable.encoding.symm
          mgf := fun isPss => mgf.trans (readable.mgf isPss).symm
          saltLength := fun isPss =>
            saltLength.trans (readable.saltLength isPss).symm }

theorem parse_poisoned (keyType : Option String) (keySize : UInt32) :
    Fails (certificateMechanismParse call.mechanism
      (some (signParameters (signSpec arguments call) false)) keyType
      keySize false) := by
  rw [signParameters_signSpec]
  exact (Unreadable.unknown rfl).fails keyType keySize

end Built

/-! ## The filter that the core builds -/

section Filters

variable {filter : CertificateFilter}

theorem ok_of_bind
    {Error First Second : Type} {computation : Except Error First}
    {next : First → Except Error Second} {result : Second}
    (done : computation >>= next = .ok result) :
    ∃ value, computation = .ok value ∧ next value = .ok result := by
  cases computation with
  | error error => cases done
  | ok value => exact ⟨value, rfl, done⟩

/-- What every filter of the wire satisfies. -/
structure Parsed
    (purpose : CertificatePurpose) (operations : CertificateOperations)
    (filter : CertificateFilter) : Prop where
  purpose : filter.purpose = purpose
  operations : filter.operations = operations
  pivSlot : ∀ slot ∈ filter.pivSlot, slot ∈ pivSlots

theorem parsePivSlot_ok
    {dictionary : Vardict} {pivSlot : Option String}
    (parsed : parsePivSlot dictionary = .ok pivSlot) :
    ∀ slot ∈ pivSlot, slot ∈ pivSlots := by
  revert parsed
  simp only [parsePivSlot]
  split
  · rintro ⟨⟩ slot member
    cases member
  · split_ifs with isSlot
    · rintro ⟨⟩ slot ⟨⟩
      exact List.contains_iff_mem.mp isSlot
    · rintro ⟨⟩
  · rintro ⟨⟩

theorem certificateFilterParse_ok
    {options : Option Vardict} {purpose : CertificatePurpose}
    {operations : CertificateOperations}
    (parsed :
      certificateFilterParse options purpose operations = .ok filter) :
    Parsed purpose operations filter := by
  revert parsed
  simp only [certificateFilterParse]
  split
  · rintro ⟨⟩
    exact ⟨rfl, rfl, fun slot member => by cases member⟩
  · simp only [parseConstraints]
    split
    · rintro ⟨⟩
    · intro parsed
      rcases ok_of_bind parsed with ⟨issuers, -, parsed⟩
      rcases ok_of_bind parsed with ⟨keyUsage, -, parsed⟩
      rcases ok_of_bind parsed with ⟨ekuOids, -, parsed⟩
      rcases ok_of_bind parsed with ⟨keyAlgorithms, -, parsed⟩
      rcases ok_of_bind parsed with ⟨tokenLabel, -, parsed⟩
      rcases ok_of_bind parsed with ⟨pivSlot, slot, parsed⟩
      cases parsed
      exact ⟨rfl, rfl, parsePivSlot_ok slot⟩
  · rintro ⟨⟩

variable {arguments : Arguments} {options : AcquireOptions}

theorem xccAcquireSpecIssuer_acquireSpec (index : Nat) :
    xccAcquireSpecIssuer (acquireSpec arguments options filter) index =
      (filter.issuers.getD [])[index]?.map XccBytes.of := by
  rcases filter with
    ⟨purpose, operations, issuers, keyUsage, ekuOids, keyAlgorithms,
      tokenLabel, pivSlot⟩
  rcases issuers with - | - | ⟨first, rest⟩
  · rfl
  · rfl
  · by_cases inside : index < (first :: rest).length
    · simp only [xccAcquireSpecIssuer, acquireSpec, Option.getD_some,
        Nat.not_le.mpr inside, lt_irrefl, ne_eq, not_true_eq_false,
        or_self, if_false, Option.map_some, Option.bind_some]
      exact List.getElem?_map
    · have outside := Nat.not_lt.mp inside
      simp only [xccAcquireSpecIssuer, acquireSpec, Option.getD_some,
        outside, or_true, if_true, List.getElem?_eq_none outside,
        Option.map_none]

/-- The rows that the adapter writes are read back. -/
theorem issuerRows_acquireSpec :
    issuerRows (acquireSpec arguments options filter) =
      (filter.issuers.getD []).map some := by
  have length : (acquireSpec arguments options filter).nIssuers =
      (filter.issuers.getD []).length := rfl
  simp only [issuerRows, xccAcquireSpecIssuer_acquireSpec, length]
  generalize filter.issuers.getD [] = issuers
  apply List.ext_getElem
  · simp
  · intro index here there
    have inside : index < issuers.length := by simpa using there
    simp [List.getElem?_eq_getElem inside]

theorem takeWhile_isSome (issuers : List Octets) :
    ((issuers.map some).takeWhile Option.isSome).filterMap id = issuers := by
  induction issuers with
  | nil => rfl
  | cons issuer rest rested => exact congrArg (issuer :: ·) rested

/-- The core copies the filter of the adapter as it is. -/
theorem copyFilter_acquireSpec
    (operations : filter.operations = signOperations options.maySign) :
    copyFilter (acquireSpec arguments options filter) options.maySign =
      filter := by
  have optional {Value : Type} (value : Option Value) (spare : Value) :
      (if value.isSome then some (value.getD spare) else none) = value := by
    cases value <;> rfl
  have present {Value : Type} (value : Option Value) :
      (if value.isSome then value else none) = value := by
    cases value <;> rfl
  apply CertificateFilter.ext
  case purpose => rfl
  case operations => exact operations.symm
  case issuers =>
    simp only [copyFilter, issuerRows_acquireSpec, takeWhile_isSome]
    exact optional filter.issuers []
  case keyUsage => exact optional filter.keyUsage []
  case ekuOids => exact optional filter.ekuOids []
  case keyAlgorithms => exact optional filter.keyAlgorithms []
  case tokenLabel => exact present filter.tokenLabel
  case pivSlot => exact present filter.pivSlot

theorem filterRefused_acquireSpec
    (isSlot : ∀ slot ∈ filter.pivSlot, slot ∈ pivSlots) :
    filterRefused (acquireSpec arguments options filter) = false := by
  have rows : ((filter.issuers.getD []).map some).all Option.isSome =
      true := by
    simp
  have slot : filter.pivSlot.isSome = true →
      filter.pivSlot.any pivSlots.contains = true := by
    intro present
    rcases Option.isSome_iff_exists.mp present with ⟨slot, present⟩
    rw [present]
    exact List.contains_iff_mem.mpr (isSlot slot present)
  simp only [filterRefused, issuerRows_acquireSpec, rows]
  simp only [acquireSpec, Bool.not_true, Bool.and_false, Bool.false_or]
  cases present : filter.pivSlot.isSome with
  | false => cases filter.tokenLabel <;> rfl
  | true =>
      rw [slot present]
      cases filter.tokenLabel <;> rfl

end Filters

/-! ## Both paths -/

/-- What a call of `Sign` comes to: an operation, or a reason. -/
def signAnswer
    (world : World Grant) (index : Nat) (session : XccSession Grant)
    (now : Int) (arguments : Arguments) (cancellation : Cancellation)
    (call : SignCall) : Except (Option String) Operation :=
  match xccSignStart world (signRequest index arguments call cancellation)
      index session now with
  | .error error => .error (xccErrorWireName error)
  | .ok (operation, _) => .ok operation

/-- What refuses a call of `Sign` whatever its mechanism, or the granted
certificate. -/
def signAuthority
    (world : World Grant) (index : Nat) (session : XccSession Grant)
    (now : Int) (arguments : Arguments) (cancellation : Cancellation) :
    Except (Option String) CertificateCandidate :=
  match (xccRequestValidate world
      (signAsync index (principal arguments.generation arguments.appId none)
        .ok cancellation) index session).1 with
  | .ok =>
      match grantRefusal session now false with
      | .error error => .error (xccErrorWireName (onOperationDone error))
      | .ok candidate => .ok candidate
  | error => .error (xccErrorWireName error)

/-- The dictionary of the wire, parsed as it is. -/
def directParse (candidate : CertificateCandidate) (call : SignCall) :
    Except (Option String) Operation :=
  match certificateMechanismParse call.mechanism call.parameters
      candidate.keyType (UInt32.ofNat candidate.keySize) false with
  | .error error => .error (xccErrorWireName (onOperationDone (.io error)))
  | .ok mechanism =>
      match certificateMechanismPrepare mechanism call.data with
      | .error error =>
          .error (xccErrorWireName (onOperationDone (.io error)))
      | .ok payload =>
          .ok ⟨false, call.operationId, mechanism, payload⟩

section Paths

variable {arguments : Arguments} {call : SignCall}

theorem signWellFormed_signSpec :
    signWellFormed (signSpec arguments call) = true := by
  rcases taken : takeParameters call.mechanism call.parameters with
    ⟨hash, mgf, encoding, saltLength, bad⟩
  simp only [signWellFormed, signSpec, taken, XccBytes.readable_of]
  cases hash <;> cases mgf <;> cases encoding <;> rfl

theorem signRequest_eq (index : Nat) (cancellation : Cancellation) :
    signRequest index arguments call cancellation =
      { toXccRequest :=
          signAsync index
            (principal arguments.generation arguments.appId none) .ok
            cancellation
        parentWindow := some arguments.parentWindow
        operationId := call.operationId
        mechanism := some call.mechanism
        parameters := some (signParameters (signSpec arguments call)
          (!(takeParameters call.mechanism call.parameters).bad))
        input := call.data } := by
  have read : (some (signSpec arguments call)).filter
      (fun spec => signWellFormed spec && spec.principal.wellFormed) =
        some (signSpec arguments call) := by
    have wellFormed : (signSpec arguments call).principal.wellFormed =
        true := rfl
    simp only [Option.filter_some, signWellFormed_signSpec, wellFormed,
      Bool.true_and, if_true]
  simp only [signRequest, xccSignAsyncParsed, read]
  simp only [signSpec, XccBytes.copy_of]

/-- Parsing what the core has built, with the names of the wire. -/
theorem parseOperation_built
    (candidate : CertificateCandidate) :
    ((parseOperation candidate false call.operationId call.mechanism
        (some (signParameters (signSpec arguments call)
          (!(takeParameters call.mechanism call.parameters).bad)))
        call.data).mapError fun error =>
          xccErrorWireName (onOperationDone (.io error))) =
      directParse candidate call := by
  cases bad : (takeParameters call.mechanism call.parameters).bad with
  | false =>
      have same := @parse_built arguments call candidate.keyType
        (UInt32.ofNat candidate.keySize) bad
      simp only [parseOperation, directParse, Bool.not_false, same]
      cases certificateMechanismParse call.mechanism call.parameters
          candidate.keyType (UInt32.ofNat candidate.keySize) false with
      | error error => rfl
      | ok mechanism =>
          simp only [bind, Except.bind]
          cases certificateMechanismPrepare mechanism call.data <;> rfl
  | true =>
      have poisoned := @parse_poisoned arguments call candidate.keyType
        (UInt32.ofNat candidate.keySize)
      have unreadable : Fails (certificateMechanismParse call.mechanism
          call.parameters candidate.keyType
          (UInt32.ofNat candidate.keySize) false) := by
        rcases call with ⟨operationId, mechanism, parameters, data⟩
        cases parameters with
        | none => cases bad
        | some parameters => exact (takeParameters_bad bad).fails _ _
      rcases poisoned with ⟨built, poisoned⟩
      rcases unreadable with ⟨sent, unreadable⟩
      simp only [parseOperation, directParse, Bool.not_true, poisoned,
        unreadable, wireName_io]
      rfl

theorem signAnswer_eq
    (world : World Grant) (index : Nat) (session : XccSession Grant)
    (now : Int) (cancellation : Cancellation) :
    signAnswer world index session now arguments cancellation call =
      signAuthority world index session now arguments cancellation >>=
        fun candidate => directParse candidate call := by
  simp only [signAnswer, signAuthority, xccSignStart, signRequest_eq]
  cases (xccRequestValidate world
      (signAsync index (principal arguments.generation arguments.appId none)
        .ok cancellation) index session).1 with
  | ok =>
      simp only [certificateBrokerPerform]
      cases grantRefusal session now false with
      | error error => rfl
      | ok candidate =>
          have built := @parseOperation_built arguments call candidate
          simp only [bind, Except.bind, ← built]
          cases parseOperation candidate false call.operationId
            call.mechanism _ call.data <;> rfl
  | _ => rfl

end Paths

/-- `handle_key_operation`, when a session is found. -/
def handleKeyOperation
    (world : World Grant) (index : Nat) (session : XccSession Grant)
    (now : Int) (arguments : Arguments) (cancellation : Cancellation)
    (options : Vardict) : Except (Option String) Operation :=
  match readSignCall options with
  | none => .error "invalid_request"
  | some call =>
      signAnswer world index session now arguments cancellation call

theorem acquireFilter_ok
    {arguments : Arguments} {options : Vardict}
    {checked : XccPrincipal → XccErrorCode} {reason : XccErrorCode → String}
    {parsed : AcquireOptions} {filter : CertificateFilter}
    (accepted : acquireFilter arguments options checked reason =
      .ok (parsed, filter)) :
    parseAcquireOptions options = some parsed ∧
      ∃ text purpose, certificatePurposeParse text = some purpose ∧
        certificateFilterParse options purpose
          (signOperations parsed.maySign) = .ok filter := by
  simp only [acquireFilter] at accepted
  split at accepted
  · cases accepted
  · rename_i purpose named
    rcases Option.bind_eq_some_iff.mp named with ⟨text, -, named⟩
    split at accepted
    · cases accepted
    · rename_i options' parsedOptions
      split at accepted
      · split at accepted
        · cases accepted
        · rename_i filter' parsedFilter
          cases accepted
          exact ⟨parsedOptions, text, purpose, named, parsedFilter⟩
      · cases accepted

theorem limited (lifetime : UInt32) :
    (min lifetime 3600 = lifetime ∨ min lifetime 3600 = 3600) ∧
      min (min lifetime 3600) 3600 = min lifetime 3600 := by
  have cut : min lifetime 3600 = if lifetime ≤ 3600 then lifetime else 3600 :=
    rfl
  rw [cut]
  by_cases short : lifetime ≤ 3600
  · simp only [short, if_true]
    exact ⟨.inl trivial, if_pos short⟩
  · simp only [short, if_false]
    exact ⟨.inr trivial, rfl⟩

theorem parseLifetime_ok
    {options : Vardict} {lifetime : UInt32}
    (parsed : parseLifetime options = some lifetime) :
    lifetime ≠ 0 ∧ min lifetime 3600 = lifetime := by
  revert parsed
  simp only [parseLifetime]
  split_ifs with refused
  · rintro ⟨⟩
  · rintro ⟨⟩
    generalize (optionTakeUint32 options "lifetime" false).2 = bad at refused
    generalize (optionTakeUint32 options "lifetime" false).1 = taken at *
    have positive : taken.getD 300 ≠ 0 := by
      cases taken with
      | none => decide
      | some given =>
          rintro rfl
          exact refused (by simp)
    rcases limited (taken.getD 300) with ⟨kept | cut, again⟩
    · exact ⟨fun zero => positive (kept.symm.trans zero), again⟩
    · exact ⟨fun zero => absurd (cut.symm.trans zero) (by decide), again⟩

theorem parseAcquireOptions_lifetime
    {options : Vardict} {parsed : AcquireOptions}
    (accepted : parseAcquireOptions options = some parsed) :
    parsed.lifetime ≠ 0 ∧ min parsed.lifetime 3600 = parsed.lifetime := by
  simp only [parseAcquireOptions, Option.bind_eq_bind,
    Option.bind_eq_some_iff] at accepted
  rcases accepted with
    ⟨level, -, reason, -, token, -, forbidden, -, lifetime, given, maySign,
      -, made⟩
  cases made
  exact parseLifetime_ok given

theorem certificatePurposeParse_known
    {text : String} {purpose : CertificatePurpose}
    (named : certificatePurposeParse text = some purpose) (value : Nat) :
    purpose ≠ .other value := by
  rintro rfl
  revert named
  simp only [certificatePurposeParse]
  split <;> nofun

/-- The core accepts every specification that the adapter fills in. -/
theorem acquireValidation_acquireSpec
    {arguments : Arguments} {parsed : AcquireOptions}
    {filter : CertificateFilter}
    (known : ∀ value, filter.purpose ≠ .other value)
    (lifetime : parsed.lifetime ≠ 0 ∧
      min parsed.lifetime 3600 = parsed.lifetime)
    (isSlot : ∀ slot ∈ filter.pivSlot, slot ∈ pivSlots) :
    acquireValidation (acquireSpec arguments parsed filter) = .ok := by
  have positive :
      acquireLifetime (acquireSpec arguments parsed filter) ≠ 0 := by
    show min parsed.lifetime 3600 ≠ 0
    rw [lifetime.2]
    exact lifetime.1
  simp only [acquireValidation, positive, if_false,
    filterRefused_acquireSpec isSlot, Bool.false_eq_true]
  have purpose : (acquireSpec arguments parsed filter).purpose =
      filter.purpose := rfl
  rw [purpose]
  cases chosen : filter.purpose with
  | other value => exact absurd chosen (known value)
  | _ => rfl

/-- Of the wire, the core loses nothing: a signature is refused, and for the
same reason, or done with the same mechanism, as if the dictionary had been
parsed where it came in; and a filter accepts what the filter of the wire
accepts. -/
theorem translation_loses_nothing :
    (∀ (world : World Grant) (index : Nat) (session : XccSession Grant)
      (now : Int) (arguments : Arguments) (cancellation : Cancellation)
      (options : Vardict),
        handleKeyOperation world index session now arguments cancellation
            options =
          match readSignCall options with
          | none => .error "invalid_request"
          | some call =>
              signAuthority world index session now arguments
                  cancellation >>=
                fun candidate => directParse candidate call) ∧
      ∀ (index : Nat) (arguments : Arguments) (options : Vardict)
        (checked : XccPrincipal → XccErrorCode)
        (reason : XccErrorCode → String) (cancellation : Cancellation)
        (parsed : AcquireOptions) (filter : CertificateFilter),
          acquireFilter arguments options checked reason =
              .ok (parsed, filter) →
            let request := xccAcquireAsync index
              (some (acquireSpec arguments parsed filter)) cancellation
            certificateFilterParse options filter.purpose
                (signOperations parsed.maySign) = .ok filter ∧
              request.validationError = .ok ∧
              ∀ candidate,
                certificateFilterMatches candidate request.filter =
                  certificateFilterMatches candidate filter := by
  constructor
  · intro world index session now arguments cancellation options
    simp only [handleKeyOperation]
    cases readSignCall options with
    | none => rfl
    | some call => exact signAnswer_eq world index session now cancellation
  · intro index arguments options checked reason cancellation parsed filter
      accepted
    rcases acquireFilter_ok accepted with
      ⟨parsedOptions, text, purpose, named, parsedFilter⟩
    have wire := certificateFilterParse_ok parsedFilter
    have validation := @acquireValidation_acquireSpec arguments _ _
      (fun value => wire.purpose ▸ certificatePurposeParse_known named value)
      (parseAcquireOptions_lifetime parsedOptions) wire.pivSlot
    refine ⟨wire.purpose ▸ parsedFilter, validation, fun candidate => ?_⟩
    have copied := @copyFilter_acquireSpec _ arguments parsed wire.operations
    exact congrArg (certificateFilterMatches candidate) copied

/-- A call with a filter on the issuer and the slot. -/
def sampleOptions : Vardict :=
  [ ("purpose", .string "signing"),
    ("certificate_filter",
      .vardict
        [ ("issuers", .byteStrings [[0x30, 0x00]]),
          ("piv_slot", .string "signature") ]) ]

/-- The arguments of a call of one application. -/
def sampleArguments : Arguments := ⟨1, "/handle", "app", ""⟩

/-- Options that name no filter. -/
def sampleParsed : AcquireOptions :=
  ⟨identityUnknown, none, none, false, 300, true⟩

/-- A filter with one issuer and a key usage. -/
def sampleFilter : CertificateFilter :=
  ⟨.signing, operationSign, some [[0x30, 0x00]], none, none, none, none,
    some "signature"⟩

/-- A dictionary with every option passes both the adapter and the core. -/
theorem translation_loses_nothing_sample :
    (xccAcquireAsync 0 (some (acquireSpec sampleArguments sampleParsed
      sampleFilter)) ⟨0, .ok, false⟩).validationError = .ok :=
  (translation_loses_nothing.2 0 sampleArguments sampleOptions
    (fun _ => .ok) (fun _ => "") ⟨0, .ok, false⟩ sampleParsed sampleFilter
    rfl).2.1

end PortalCertificate.Adapter.Translation
