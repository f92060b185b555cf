import PortalCertificate.Tokens.Discovery
import PortalCertificate.Tokens.ObjectSearch
import PortalCertificate.Tokens.SizedCalls

/-!
# Listing the certificates of all tokens

`enumerate` of `discovery.c` and what it calls.  The modules, their slots and
the certificate objects of a slot are visited once, so the answers of the
modules are given for each of them.  A search or a reading is one call here.
-/

namespace PortalCertificate.Tokens.Enumeration

open PortalCertificate.Library.Der (Octets)
open PortalCertificate.Pkcs11
open PortalCertificate.Tokens.Discovery
open PortalCertificate.Tokens.ObjectSearch
  (SearchAnswers SearchError certificatePkcs11FindObjects)
open PortalCertificate.Tokens.SizedCalls

/-! ## Cancellation -/

/-- A moment of an enumeration: a slot, and how far it has been visited. -/
structure Moment where
  slot : Nat
  phase : Nat
  deriving DecidableEq, Repr

/-- The check in front of a slot. -/
def beforeSlot (slot : Nat) : Moment := ⟨slot, 0⟩

/-- The check in front of a certificate object. -/
def beforeObject (slot object : Nat) : Moment := ⟨slot, 2 * object + 1⟩

/-- All calls about an object have returned. -/
def afterObject (slot object : Nat) : Moment := ⟨slot, 2 * object + 2⟩

/-- `g_cancellable_is_cancelled`.  What was cancelled stays cancelled. -/
def isCancelled (cancellation : Option Moment) (now : Moment) : Bool :=
  cancellation.any fun since =>
    since.slot < now.slot ||
      (since.slot = now.slot && since.phase ≤ now.phase)

/-! ## Tokens in slots -/

/-- `C_GetTokenInfo`, with its texts as `certificate_pkcs11_string` gives
them. -/
structure TokenInfoAnswer where
  rv : CkUlong
  flags : CkUlong
  label : String
  manufacturer : String
  model : String
  serial : String

/-- `C_GetSlotInfo`. -/
structure SlotInfoAnswer where
  rv : CkUlong
  flags : CkUlong
  description : String

/-- `CKF_HW_SLOT`. -/
def ckfHwSlot : CkUlong := 0x4
/-- `CKF_LOGIN_REQUIRED`. -/
def ckfLoginRequired : CkUlong := 0x4
/-- `CKF_PROTECTED_AUTHENTICATION_PATH`. -/
def ckfProtectedAuthenticationPath : CkUlong := 0x100
/-- `CKF_TOKEN_INITIALIZED`. -/
def ckfTokenInitialized : CkUlong := 0x400

/-- A token of the enumeration, and what selects it. -/
structure FoundToken extends CertificateToken where
  hardware : Bool
  moduleNamedExplicitly : Bool
  deriving DecidableEq, Repr

/-- `token_from_slot`; a token that is not initialised is none. -/
def tokenFromSlot
    (tokenInfo : TokenInfoAnswer) (slotInfo : SlotInfoAnswer)
    (named : Bool) : Option FoundToken :=
  if tokenInfo.rv ≠ 0 then
    none
  else if tokenInfo.flags &&& ckfTokenInitialized = 0 then
    none
  else
    let known := slotInfo.rv = 0
    some
      { label := some tokenInfo.label
        manufacturer := some tokenInfo.manufacturer
        model := some tokenInfo.model
        serial := some tokenInfo.serial
        readerName := some (if known then slotInfo.description else "")
        protectedAuthenticationPath :=
          tokenInfo.flags &&& ckfProtectedAuthenticationPath ≠ 0
        loginRequired := tokenInfo.flags &&& ckfLoginRequired ≠ 0
        hardware := known && slotInfo.flags &&& ckfHwSlot ≠ 0
        moduleNamedExplicitly := named }

/-- `CERTIFICATE_P11_KIT_TRUST_MODEL`. -/
def certificateP11KitTrustModel : String := "p11-kit-trust"

/-- `token_skip_reason`. -/
def tokenSkipReason (allowSoftware : Bool) (token : FoundToken) :
    Option String :=
  if token.model = some certificateP11KitTrustModel then
    some "Trust store has no private keys"
  else if token.hardware || token.moduleNamedExplicitly then
    none
  else if allowSoftware then
    none
  else
    some ("Token slot lacks CKF_HW_SLOT; use --allow-software-tokens or " ++
      "--module to include it")

/-! ## What a module answers -/

/-- The answers about one certificate object.  `signs` and `decrypts` answer
for the attribute that is asked for, of a private or of a public key. -/
structure ObjectAnswers where
  value : SizedAnswers UInt8
  ckaId : SizedAnswers UInt8
  privateKeys : SearchAnswers
  publicKeys : SearchAnswers
  signs : CkUlong × Bool
  decrypts : CkUlong × Bool
  mechanisms : Nat → SizedAnswers CkUlong

/-- `openSession` has the handle, or the return code of a failure. -/
structure SlotAnswers where
  tokenInfo : TokenInfoAnswer
  slotInfo : SlotInfoAnswer
  openSession : Except CkUlong CkUlong
  certificates : SearchAnswers
  object : Nat → ObjectAnswers

/-- `interesting` is what `module_is_interesting` says. -/
structure ModuleAnswers where
  interesting : Bool
  slots : SizedAnswers CkUlong
  slot : Nat → CkUlong → SlotAnswers

/-- The modules that are loaded, and whether software tokens are wanted. -/
structure CertificateTokens where
  explicitModules : List ModuleAnswers
  modules : List ModuleAnswers
  allowSoftware : Bool

/-- The modules, and whether they were named explicitly. -/
def moduleList (tokens : CertificateTokens) : List (ModuleAnswers × Bool) :=
  tokens.explicitModules.map (·, true) ++
    (tokens.modules.filter ModuleAnswers.interesting).map (·, false)

/-- A slot of a module that is enumerated. -/
structure Slot where
  named : Bool
  answers : SlotAnswers

/-- The slots that `slots_with_token` lists. -/
def ModuleAnswers.listed (module : ModuleAnswers) (named : Bool) :
    List Slot :=
  (slotsWithToken module.slots).1.mapIdx fun index slot =>
    ⟨named, module.slot index slot⟩

/-! ## Certificates -/

/-- What `certificate_parse_der` reads in a certificate. -/
structure ParsedCertificate where
  issuerDer : Option Octets
  notBefore : Int
  notAfter : Int
  ekuOids : Option (List String)
  keyUsage : Option (List String)
  keyType : String
  keySize : Nat
  keyCurve : Option String
  deriving DecidableEq, Repr

/-- The reading of certificates by GnuTLS, and their digests. -/
structure CertificateReader where
  certificateParseDer : Octets → Option ParsedCertificate
  certificateIdFor : Octets → String

/-- `piv_slot_from_id`. -/
def pivSlotFromId (ckaId : Octets) : Option String :=
  match ckaId with
  | [octet] =>
      if octet = 0x9a ∨ octet = 0x01 then
        some "authentication"
      else if octet = 0x9c ∨ octet = 0x02 then
        some "signature"
      else if octet = 0x9d ∨ octet = 0x03 then
        some "key_management"
      else if octet = 0x9e ∨ octet = 0x04 then
        some "card_authentication"
      else
        none
  | _ => none

/-- The list of the token is read again for each mechanism. -/
def mechanismsFor
    (keyType : String) (lists : Nat → SizedAnswers CkUlong) : List String :=
  let named (call : Nat) (mechanism : CkUlong) (name : String) :=
    if (certificatePkcs11HasMechanism (lists call) mechanism).1 then
      [name]
    else
      []
  if keyType = "RSA" then
    named 0 ckmRsaPkcs "RSA_PKCS1_V1_5" ++
      named 1 ckmRsaPkcsPss "RSA_PSS" ++
      named 2 ckmRsaPkcsOaep "RSA_OAEP"
  else if keyType = "EC" then
    named 0 ckmEcdsa "ECDSA"
  else
    []

/-! ## One certificate object -/

/-- The classes of keys that are searched for. -/
inductive KeyClass where
  | privateKey
  | publicKey
  deriving DecidableEq, Repr

/-- A search template: X.509 certificates, or keys with a `CKA_ID`. -/
inductive Sought where
  | certificates
  | keys (keyClass : KeyClass) (ckaId : Octets)
  deriving DecidableEq, Repr

/-- What a search finds. -/
abbrev Found := Except SearchError (List CkUlong)

/-- A call that an enumeration makes, with its result. -/
inductive Call where
  | openSession (session : CkUlong)
  | closeSession (session : CkUlong)
  | findObjects (session : CkUlong) (sought : Sought) (found : Found)

/-- The handles of a search; an error is as good as none. -/
def handlesOf (found : Found) : List CkUlong :=
  found.toOption.getD []

/-- The error of a search that exceeded the limit. -/
def limitOf : Found → Option SearchError
  | .error (.enumerationLimit message) => some (.enumerationLimit message)
  | _ => none

/-- An attribute that is there and not empty. -/
def presentValue (answers : SizedAnswers UInt8) : Option Octets :=
  (certificatePkcs11GetAttribute answers).1.filter fun value => value ≠ []

/-- What becomes of a certificate object. -/
inductive Examination where
  | failed (error : SearchError)
  | skipped
  | candidate (candidate : CertificateCandidate)

section Examination

variable (reader : CertificateReader)

/-- The candidate for a certificate, with its capabilities as visible keys
report them, or as the key usage estimates them. -/
def candidateFor
    (token : FoundToken) (answers : ObjectAnswers) (der ckaId : Octets)
    (keyVisible : Bool) : Examination :=
  match reader.certificateParseDer der with
  | none => .skipped
  | some parsed =>
      let supportedMechanisms :=
        mechanismsFor parsed.keyType answers.mechanisms
      let allows (first second : String) :=
        parsed.keyUsage.all fun usage =>
          usage.contains first || usage.contains second
      if supportedMechanisms = [] then
        .skipped
      else
        .candidate
          { token := token.toCertificateToken
            der
            ckaId := some ckaId
            certificateId := some (reader.certificateIdFor der)
            issuerDer := parsed.issuerDer
            notBefore := parsed.notBefore
            notAfter := parsed.notAfter
            ekuOids := parsed.ekuOids
            keyUsage := parsed.keyUsage
            pivSlot := pivSlotFromId ckaId
            keyType := parsed.keyType
            keySize := parsed.keySize
            keyCurve := parsed.keyCurve
            canSign :=
              if keyVisible then
                certificatePkcs11GetBool answers.signs.1 answers.signs.2 true
              else
                allows "digital_signature" "content_commitment"
            canDecrypt :=
              if keyVisible then
                certificatePkcs11GetBool answers.decrypts.1
                  answers.decrypts.2 false
              else
                allows "key_encipherment" "data_encipherment"
            supportedMechanisms }

/-- The search for public keys, where no private key is visible. -/
def examinePublicKeys
    (token : FoundToken) (session : CkUlong) (answers : ObjectAnswers)
    (der ckaId : Octets) : Examination × List Call :=
  let publicKeys := (certificatePkcs11FindObjects answers.publicKeys).1
  let searched :=
    [Call.findObjects session (.keys .publicKey ckaId) publicKeys]
  match limitOf publicKeys with
  | some error => (.failed error, searched)
  | none =>
      if handlesOf publicKeys = [] then
        if token.loginRequired then
          (candidateFor reader token answers der ckaId false, searched)
        else
          (.skipped, searched)
      else
        (candidateFor reader token answers der ckaId true, searched)

/-- The search for private keys. -/
def examineKeys
    (token : FoundToken) (session : CkUlong) (answers : ObjectAnswers)
    (der ckaId : Octets) : Examination × List Call :=
  let keys := (certificatePkcs11FindObjects answers.privateKeys).1
  let searched := Call.findObjects session (.keys .privateKey ckaId) keys
  match limitOf keys with
  | some error => (.failed error, [searched])
  | none =>
      if handlesOf keys = [] then
        let rest :=
          examinePublicKeys reader token session answers der ckaId
        (rest.1, searched :: rest.2)
      else
        (candidateFor reader token answers der ckaId true, [searched])

/-- The body of the loop, after the cancellation was looked at. -/
def examineObject
    (token : FoundToken) (session : CkUlong) (answers : ObjectAnswers) :
    Examination × List Call :=
  match presentValue answers.value with
  | none => (.skipped, [])
  | some der =>
      match presentValue answers.ckaId with
      | none => (.skipped, [])
      | some ckaId => examineKeys reader token session answers der ckaId

end Examination

/-! ## All objects of a token -/

section Tokens

variable (reader : CertificateReader) (cancellation : Option Moment)

/-- The loop of `enumerate_token` from an object on. -/
def examineObjects
    (number : Nat) (token : FoundToken) (session : CkUlong)
    (object : Nat → ObjectAnswers) :
    List CkUlong → Nat → List CertificateCandidate →
      Except SearchError (List CertificateCandidate) × List Call
  | [], _, out => (.ok out, [])
  | _ :: handles, index, out =>
      -- The loop is left as if there were no more objects.
      if isCancelled cancellation (beforeObject number index) then
        (.ok out, [])
      else
        match examineObject reader token session (object index) with
        | (.failed error, calls) => (.error error, calls)
        | (.skipped, calls) =>
            let rest := examineObjects number token session object handles
              (index + 1) out
            (rest.1, calls ++ rest.2)
        | (.candidate candidate, calls) =>
            let rest := examineObjects number token session object handles
              (index + 1) (out ++ [candidate])
            (rest.1, calls ++ rest.2)

/-- `enumerate_token`, with the candidates so far. -/
def enumerateToken
    (number : Nat) (token : FoundToken) (answers : SlotAnswers)
    (out : List CertificateCandidate) :
    Except SearchError (List CertificateCandidate) × List Call :=
  match answers.openSession with
  | .error _ => (.ok out, [])
  | .ok session =>
      let found := (certificatePkcs11FindObjects answers.certificates).1
      let searched :=
        [Call.openSession session, .findObjects session .certificates found]
      match limitOf found with
      | some error => (.error error, searched ++ [.closeSession session])
      | none =>
          let rest := examineObjects reader cancellation number token session
            answers.object (handlesOf found) 0 out
          (rest.1, searched ++ rest.2 ++ [.closeSession session])

/-! ## All tokens -/

/-- Why an enumeration fails. -/
inductive EnumerateError where
  | search (error : SearchError)
  | cancelled
  deriving DecidableEq, Repr

/-- The variables of `enumerate`, and the calls so far. -/
structure Progress where
  number : Nat
  tokenCount : Nat
  candidates : List CertificateCandidate
  calls : List Call

variable (allowSoftware : Bool)

/-- The body of the inner loop. -/
def visitSlot (slot : Slot) (progress : Progress) :
    Option EnumerateError × Progress :=
  if isCancelled cancellation (beforeSlot progress.number) then
    (some .cancelled, progress)
  else
    let next := { progress with number := progress.number + 1 }
    match tokenFromSlot slot.answers.tokenInfo slot.answers.slotInfo
        slot.named with
    | none => (none, next)
    | some token =>
        match tokenSkipReason allowSoftware token with
        | some _ => (none, next)
        | none =>
            match enumerateToken reader cancellation progress.number token
                slot.answers progress.candidates with
            | (.error error, calls) =>
                (some (.search error),
                  { next with
                    tokenCount := progress.tokenCount + 1
                    calls := progress.calls ++ calls })
            | (.ok candidates, calls) =>
                (none,
                  { next with
                    tokenCount := progress.tokenCount + 1
                    candidates
                    calls := progress.calls ++ calls })

/-- The inner loop. -/
def enumerateSlots :
    List Slot → Progress → Option EnumerateError × Progress
  | [], progress => (none, progress)
  | slot :: slots, progress =>
      match visitSlot reader cancellation allowSoftware slot progress with
      | (some error, progress) => (some error, progress)
      | (none, progress) => enumerateSlots slots progress

/-- The outer loop. -/
def enumerateModules :
    List (ModuleAnswers × Bool) → Progress →
      Option EnumerateError × Progress
  | [], progress => (none, progress)
  | (module, named) :: modules, progress =>
      match enumerateSlots reader cancellation allowSoftware
          (module.listed named) progress with
      | (some error, progress) => (some error, progress)
      | (none, progress) => enumerateModules modules progress

/-- The candidates, and whether a token is present. -/
def enumerate (tokens : CertificateTokens) :
    Except EnumerateError (List CertificateCandidate × Bool) × List Call :=
  match enumerateModules reader cancellation tokens.allowSoftware
      (moduleList tokens) ⟨0, 0, [], []⟩ with
  | (some error, progress) => (.error error, progress.calls)
  | (none, progress) =>
      (.ok (progress.candidates, decide (0 < progress.tokenCount)),
        progress.calls)

/-- `certificate_tokens_enumerate_finish`.  A `GTask` checks its cancellable
again before it hands the result over. -/
def certificateTokensEnumerateFinish
    (cancelled : Bool)
    (result : Except EnumerateError (List CertificateCandidate × Bool)) :
    Except EnumerateError (List CertificateCandidate × Bool) :=
  if cancelled then .error .cancelled else result

end Tokens

/-! ## Usable tokens and limits -/

/-- The search finds more objects than the limit. -/
def SearchExceeds (search : SearchAnswers) : Prop :=
  (limitOf (certificatePkcs11FindObjects search).1).isSome = true

/-- A key search for this certificate object exceeds the limit. -/
def ObjectAnswers.Exceeds (answers : ObjectAnswers) : Prop :=
  (presentValue answers.value).isSome = true ∧
    (presentValue answers.ckaId).isSome = true ∧
      (SearchExceeds answers.privateKeys ∨
        handlesOf (certificatePkcs11FindObjects answers.privateKeys).1 = [] ∧
          SearchExceeds answers.publicKeys)

/-- The call is a search that finds more objects than the limit. -/
def Call.Exceeded : Call → Prop
  | .findObjects _ _ found => (limitOf found).isSome = true
  | .openSession _ | .closeSession _ => False

/-- A key search for an object from an index on exceeds the limit, before
the cancellation is noticed. -/
def ObjectsExceed
    (cancellation : Option Moment) (number : Nat)
    (object : Nat → ObjectAnswers) (index count : Nat) : Prop :=
  ∃ offset < count,
    isCancelled cancellation (beforeObject number (index + offset)) = false ∧
      (object (index + offset)).Exceeds

/-- A token that is not skipped. -/
def Slot.token (allowSoftware : Bool) (slot : Slot) : Option FoundToken :=
  (tokenFromSlot slot.answers.tokenInfo slot.answers.slotInfo
    slot.named).filter fun token =>
      (tokenSkipReason allowSoftware token).isNone

/-- The number of certificate objects that the search of a slot shows. -/
def SlotAnswers.objects (answers : SlotAnswers) : Nat :=
  match answers.openSession with
  | .error _ => 0
  | .ok _ =>
      (handlesOf (certificatePkcs11FindObjects answers.certificates).1).length

/-- A search on the token exceeds the limit. -/
def SlotAnswers.Exceeds
    (cancellation : Option Moment) (number : Nat) (answers : SlotAnswers) :
    Prop :=
  answers.openSession.isOk = true ∧
    (SearchExceeds answers.certificates ∨
      ObjectsExceed cancellation number answers.object 0 answers.objects)

/-- A search for the slot exceeds the limit. -/
def Slot.Exceeds
    (cancellation : Option Moment) (allowSoftware : Bool) (number : Nat)
    (slot : Slot) : Prop :=
  (slot.token allowSoftware).isSome = true ∧
    slot.answers.Exceeds cancellation number

/-- The slots of all modules, in the order of the loops. -/
def slotsOf (modules : List (ModuleAnswers × Bool)) : List Slot :=
  modules.flatMap fun module => module.1.listed module.2

/-- The slots that an enumeration is to visit. -/
def CertificateTokens.slots (tokens : CertificateTokens) : List Slot :=
  slotsOf (moduleList tokens)

end PortalCertificate.Tokens.Enumeration
