import PortalCertificate.Core.Specs

/-!
# Options of a call

The part of `certificate-impl.c` that reads the options of a call.  A
default applies to an absent option only, and an option of another type is
refused.  The adapter fills in a specification from what it has read; it
takes a `parameters` dictionary apart, and tells the core when the
dictionary had something that it could not read.
-/

namespace PortalCertificate.Adapter.Options

open PortalCertificate.Core.Coordinator
open PortalCertificate.Core.Principals
open PortalCertificate.Core.Specs
open PortalCertificate.Glib
open PortalCertificate.Library.Der (Octets)
open PortalCertificate.Tokens.Filter

/-! ## Taking an option

`bad` is the flag that the calls of one handler share. -/

/-- `option_take_string`; a value of another type is bad. -/
def optionTakeString
    (options : Vardict) (key : String) (bad : Bool) :
    Option String × Bool :=
  match lookupValue options key with
  | none => (none, bad)
  | some (.string text) => (some text, bad)
  | some _ => (none, true)

/-- `option_take_uint32`; a value of another type is bad. -/
def optionTakeUint32
    (options : Vardict) (key : String) (bad : Bool) :
    Option UInt32 × Bool :=
  match lookupValue options key with
  | none => (none, bad)
  | some (.uint32 value) => (some value, bad)
  | some _ => (none, true)

/-- `option_take_vardict`; a value of another type is bad. -/
def optionTakeVardict
    (options : Vardict) (key : String) (bad : Bool) :
    Option Vardict × Bool :=
  match lookupValue options key with
  | none => (none, bad)
  | some (.vardict entries) => (some entries, bad)
  | some _ => (none, true)

/-- Every key of the dictionary is one of these. -/
def vardictKeysKnown (dictionary : Vardict) (known : List String) : Bool :=
  dictionary.all fun entry => known.contains entry.1

/-- The principal of a call; the identity may be left out. -/
def principal
    (generation : Nat) (appId : String) (level : Option Nat) :
    XccPrincipal where
  structSize := sizeofXccPrincipal
  abiVersion := xccAbiVersion
  ownerGeneration := generation
  appId := appId
  identityLevel := level.getD identityUnknown
  identityPresent := level.isSome

@[simp]
theorem wellFormed_principal
    (generation : Nat) (appId : String) (level : Option Nat) :
    (principal generation appId level).wellFormed = true := rfl

/-! ## Acquisitions -/

/-- `certificate_purpose_parse`. -/
def certificatePurposeParse : String → Option CertificatePurpose
  | "client_auth" => some .clientAuth
  | "signing" => some .signing
  | "email" => some .email
  | "ssh" => some .ssh
  | _ => none

/-- `certificate_identity_level_parse`. -/
def certificateIdentityLevelParse (level : Option String) : Nat :=
  if level = some "sandboxed" then 0
  else if level = some "host" then 1
  else identityUnknown

/-- What `parse_acquire_options` stores in the transaction. -/
structure AcquireOptions where
  level : Nat
  reason : Option String
  activationToken : Option String
  interactionForbidden : Bool
  lifetime : UInt32
  maySign : Bool
  deriving DecidableEq, Repr

/-- The `app_identity_level` option. -/
def parseLevel (options : Vardict) : Option Nat :=
  let (level, bad) := optionTakeString options "app_identity_level" false
  if bad || level.any (fun text =>
      text ≠ "sandboxed" && text ≠ "host" && text ≠ "unidentified") then
    none
  else
    some (certificateIdentityLevelParse level)

/-- A text without a meaning of its own. -/
def parseText (options : Vardict) (key : String) :
    Option (Option String) :=
  let (text, bad) := optionTakeString options key false
  if bad then none else some text

/-- The `interaction_mode` option. -/
def parseInteraction (options : Vardict) : Option Bool :=
  let (interaction, bad) :=
    optionTakeString options "interaction_mode" false
  if bad || interaction.any (fun text =>
      text ≠ "forbidden" && text ≠ "required" && text ≠ "allowed") then
    none
  else
    some (interaction = some "forbidden")

/-- The `lifetime` option, of 300 seconds by default. -/
def parseLifetime (options : Vardict) : Option UInt32 :=
  let (lifetime, bad) := optionTakeUint32 options "lifetime" false
  if bad || lifetime = some 0 then
    none
  else
    some (min (lifetime.getD 300) 3600)

/-- The `operation_policy` option. -/
def parsePolicy (options : Vardict) : Option Bool :=
  let (policy, bad) := optionTakeVardict options "operation_policy" false
  if bad then
    none
  else
    match policy with
    | none => some true
    | some policy =>
        if vardictKeysKnown policy ["sign"] then
          match lookupValue policy "sign" with
          | none => some true
          | some (.boolean sign) => some sign
          | some _ => none
        else
          none

/-- `parse_acquire_options`; `none` answers `invalid_request`. -/
def parseAcquireOptions (options : Vardict) : Option AcquireOptions := do
  let level ← parseLevel options
  let reason ← parseText options "reason"
  let activationToken ← parseText options "activation_token"
  let interactionForbidden ← parseInteraction options
  let lifetime ← parseLifetime options
  let maySign ← parsePolicy options
  return { level, reason, activationToken, interactionForbidden, lifetime,
           maySign }

/-- `module_request_handle`. -/
def moduleRequestHandle (handle : String) : Bool :=
  let start := "/org/freedesktop/portal/desktop/request/"
  let rest := textFrom handle start.length
  handle.startsWith start &&
    match rest.toList.dropWhile fun letter => letter ≠ '/' with
    | [] => false
    | _ :: token => (String.ofList token).startsWith "pkcs11a"

/-- The arguments of a call that are no options. -/
structure Arguments where
  generation : Nat
  handle : String
  appId : String
  parentWindow : String
  deriving DecidableEq, Repr

/-- The specification that `handle_acquire_credential` fills in. -/
def acquireSpec
    (arguments : Arguments) (options : AcquireOptions)
    (filter : CertificateFilter) : XccAcquireSpec where
  structSize := sizeofXccAcquireSpec
  abiVersion := xccAbiVersion
  principal :=
    principal arguments.generation arguments.appId options.level
  purpose := filter.purpose
  genericPurposePresent := true
  genericPurpose := moduleRequestHandle arguments.handle
  parentWindow := arguments.parentWindow
  activationToken := options.activationToken
  reason := options.reason
  lifetimePresent := true
  lifetimeSeconds := options.lifetime
  signPresent := true
  sign := options.maySign
  interactionPresent := true
  interactionForbidden := options.interactionForbidden
  issuersPresent := filter.issuers.isSome
  issuers := filter.issuers.map fun issuers => issuers.map XccBytes.of
  nIssuers := (filter.issuers.getD []).length
  keyUsagePresent := filter.keyUsage.isSome
  ekuOidsPresent := filter.ekuOids.isSome
  keyAlgorithmsPresent := filter.keyAlgorithms.isSome
  keyUsage := filter.keyUsage
  ekuOids := filter.ekuOids
  keyAlgorithms := filter.keyAlgorithms
  tokenLabelPresent := filter.tokenLabel.isSome
  pivSlotPresent := filter.pivSlot.isSome
  tokenLabel := filter.tokenLabel
  pivSlot := filter.pivSlot

/-- What permits an acquisition to sign. -/
def signOperations (maySign : Bool) : CertificateOperations :=
  if maySign then operationSign else operationNone

/-- The filter that `handle_acquire_credential` has parsed when it fills in
the specification, with the options beside it.  `checked` is the verdict of
`xcc_session_check_principal`; the text of a refusal is its reason. -/
def acquireFilter
    (arguments : Arguments) (options : Vardict)
    (checked : XccPrincipal → XccErrorCode)
    (reason : XccErrorCode → String) :
    Except String (AcquireOptions × CertificateFilter) :=
  match (lookupText options "purpose").bind certificatePurposeParse with
  | none => .error "invalid_purpose"
  | some purpose =>
      match parseAcquireOptions options with
      | none => .error "invalid_request"
      | some parsed =>
          match checked (principal arguments.generation arguments.appId
              parsed.level) with
          | .ok =>
              match certificateFilterParse (some options) purpose
                  (signOperations parsed.maySign) with
              | .error _ => .error "invalid_filter"
              | .ok filter => .ok (parsed, filter)
          | error => .error (reason error)

/-! ## Signatures -/

/-- What the options of `Sign` say. -/
structure SignCall where
  operationId : Option String
  mechanism : String
  parameters : Option Vardict
  data : Octets

/-- The first half of `handle_key_operation`; `none` answers
`invalid_request`. -/
def readSignCall (options : Vardict) : Option SignCall :=
  let (operationId, bad) := optionTakeString options "operation_id" false
  let (mechanism, bad) := optionTakeString options "mechanism" bad
  match mechanism.filter fun _ => !bad with
  | none => none
  | some mechanism =>
      let (parameters, bad) := optionTakeVardict options "parameters" bad
      match (lookupValue options "data").filter fun _ => !bad with
      | some (.byteString data) =>
          some { operationId, mechanism, parameters, data }
      | _ => none

/-- The keys that the parameters of a signature may have. -/
def signParameterKeys : List String :=
  ["hash", "mgf", "salt_length", "signature_encoding"]

/-- A `parameters` dictionary taken apart. -/
structure TakenParameters where
  hash : Option String
  mgf : Option String
  encoding : Option String
  saltLength : Option UInt32
  bad : Bool
  deriving DecidableEq, Repr

/-- The parameters that the mechanism takes, and whether one of them is bad. -/
def takeParameters
    (mechanism : String) (parameters : Option Vardict) : TakenParameters :=
  match parameters with
  | none => ⟨none, none, none, none, false⟩
  | some parameters =>
      let bad := !vardictKeysKnown parameters signParameterKeys
      let (hash, bad) := optionTakeString parameters "hash" bad
      let (mgf, bad) :=
        if mechanism = "RSA_PSS" then optionTakeString parameters "mgf" bad
        else (none, bad)
      let (encoding, bad) :=
        optionTakeString parameters "signature_encoding" bad
      let (saltLength, bad) :=
        if mechanism = "RSA_PSS" then
          optionTakeUint32 parameters "salt_length" bad
        else
          (none, bad)
      ⟨hash, mgf, encoding, saltLength, bad⟩

/-- The specification that `handle_key_operation` fills in. -/
def signSpec (arguments : Arguments) (call : SignCall) : XccSignSpec :=
  let taken := takeParameters call.mechanism call.parameters
  { structSize := sizeofXccSignSpec
    abiVersion := xccAbiVersion
    principal := principal arguments.generation arguments.appId none
    parentWindow := arguments.parentWindow
    operationId := call.operationId
    mechanism := call.mechanism
    data := XccBytes.of call.data
    hashPresent := taken.hash.isSome
    mgfPresent := taken.mgf.isSome
    saltLengthPresent := taken.saltLength.isSome
    encodingPresent := taken.encoding.isSome
    hash := taken.hash
    mgf := taken.mgf
    saltLength := taken.saltLength.getD 0
    signatureEncoding := taken.encoding }

/-- The request that `handle_key_operation` makes. -/
def signRequest
    (session : Nat) (arguments : Arguments) (call : SignCall)
    (cancellation : Cancellation) : XccSignRequest :=
  xccSignAsyncParsed session (some (signSpec arguments call))
    (!(takeParameters call.mechanism call.parameters).bad) cancellation

end PortalCertificate.Adapter.Options
