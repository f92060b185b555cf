import PortalCertificate.Core.Principals
import PortalCertificate.Tokens.Filter

/-!
# Specifications of requests

An adapter describes a request by a specification of plain strings, byte
spans and presence flags, and the core copies what it is given:
`xcc_acquire_async` and `xcc_sign_async_parsed`.  A specification for a
signature has no dictionary of parameters; the core builds one from its
fields, and an entry that no mechanism knows stands for parameters that the
adapter could not read.
-/

namespace PortalCertificate.Core.Specs

open PortalCertificate.Core.Coordinator
open PortalCertificate.Core.Principals
open PortalCertificate.Glib
open PortalCertificate.Library.Der (Octets)
open PortalCertificate.Tokens.Filter

/-! ## Byte spans -/

/-- The size of `XccBytes`. -/
def sizeofXccBytes : Nat := 24

/-- A pointer with a length. -/
structure XccBytes where
  structSize : Nat
  abiVersion : Nat
  data : Option Octets
  size : Nat
  deriving DecidableEq, Repr

/-- The caller knows this version of the structure, and data is there if it
should be. -/
def XccBytes.readable (bytes : XccBytes) : Bool :=
  sizeofXccBytes ≤ bytes.structSize && bytes.abiVersion = xccAbiVersion &&
    (bytes.size = 0 || bytes.data.isSome)

/-- `g_bytes_new`. -/
def XccBytes.copy (bytes : XccBytes) : Octets :=
  (bytes.data.getD []).take bytes.size

/-- A span as an adapter writes it; an empty value has no pointer. -/
def XccBytes.of (octets : Octets) : XccBytes where
  structSize := sizeofXccBytes
  abiVersion := xccAbiVersion
  data := if octets.isEmpty then none else some octets
  size := octets.length

@[simp]
theorem XccBytes.readable_of (octets : Octets) :
    (XccBytes.of octets).readable = true := by
  cases octets <;> simp [XccBytes.readable, XccBytes.of]

@[simp]
theorem XccBytes.copy_of (octets : Octets) :
    (XccBytes.of octets).copy = octets := by
  cases octets <;> simp [XccBytes.copy, XccBytes.of]

/-! ## Acquisitions -/

/-- The size of `XccAcquireSpec`. -/
def sizeofXccAcquireSpec : Nat := 160

/-- `XccAcquireSpec`, as the caller has filled it. -/
structure XccAcquireSpec where
  structSize : Nat
  abiVersion : Nat
  principal : XccPrincipal
  purpose : CertificatePurpose
  genericPurposePresent : Bool
  genericPurpose : Bool
  parentWindow : Option String
  activationToken : Option String
  reason : Option String
  lifetimePresent : Bool
  lifetimeSeconds : UInt32
  signPresent : Bool
  sign : Bool
  interactionPresent : Bool
  interactionForbidden : Bool
  issuersPresent : Bool
  issuers : Option (List XccBytes)
  nIssuers : Nat
  keyUsagePresent : Bool
  ekuOidsPresent : Bool
  keyAlgorithmsPresent : Bool
  keyUsage : Option (List String)
  ekuOids : Option (List String)
  keyAlgorithms : Option (List String)
  tokenLabelPresent : Bool
  pivSlotPresent : Bool
  tokenLabel : Option String
  pivSlot : Option String
  deriving DecidableEq, Repr

/-- `xcc_acquire_spec_issuer`.  The rows are an array in memory, where the
offset of a row does not overflow. -/
def xccAcquireSpecIssuer
    (spec : XccAcquireSpec) (index : Nat) : Option XccBytes :=
  if spec.structSize < sizeofXccAcquireSpec ∨
      spec.abiVersion ≠ xccAbiVersion ∨ spec.nIssuers ≤ index then
    none
  else
    spec.issuers.bind fun rows =>
      match rows.head? with
      | none => none
      | some first =>
          if first.structSize < sizeofXccBytes ∨
              first.abiVersion ≠ xccAbiVersion then
            none
          else
            rows[index]?

/-- What an acquisition keeps of its specification. -/
structure XccAcquireRequest extends XccRequest where
  purpose : CertificatePurpose
  genericPurpose : Bool
  parentWindow : Option String
  activationToken : Option String
  reason : Option String
  lifetime : UInt32
  maySign : Bool
  interactionForbidden : Bool
  filter : CertificateFilter
  deriving DecidableEq, Repr

/-- `copy_strings`; a missing array has no string. -/
def copyStrings (values : Option (List String)) : List String :=
  values.getD []

/-- The issuers in their order; a span that cannot be read is `none`. -/
def issuerRows (spec : XccAcquireSpec) : List (Option Octets) :=
  (List.range spec.nIssuers).map fun index =>
    (xccAcquireSpecIssuer spec index).bind fun issuer =>
      if issuer.readable then some issuer.copy else none

/-- The filter of a request; the issuers end before the first bad one. -/
def copyFilter (spec : XccAcquireSpec) (maySign : Bool) :
    CertificateFilter where
  purpose := spec.purpose
  operations := if maySign then operationSign else operationNone
  issuers :=
    if spec.issuersPresent then
      some (((issuerRows spec).takeWhile Option.isSome).filterMap id)
    else
      none
  keyUsage :=
    if spec.keyUsagePresent then some (copyStrings spec.keyUsage) else none
  ekuOids :=
    if spec.ekuOidsPresent then some (copyStrings spec.ekuOids) else none
  keyAlgorithms :=
    if spec.keyAlgorithmsPresent then
      some (copyStrings spec.keyAlgorithms)
    else
      none
  tokenLabel := if spec.tokenLabelPresent then spec.tokenLabel else none
  pivSlot := if spec.pivSlotPresent then spec.pivSlot else none

/-- The constraints that the core does not accept. -/
def filterRefused (spec : XccAcquireSpec) : Bool :=
  (spec.issuersPresent && !(issuerRows spec).all Option.isSome) ||
    (spec.pivSlotPresent && !spec.pivSlot.any pivSlots.contains) ||
    (spec.tokenLabelPresent && spec.tokenLabel.isNone)

/-- An hour at most, and five minutes if none is asked for. -/
def acquireLifetime (spec : XccAcquireSpec) : UInt32 :=
  if spec.lifetimePresent then min spec.lifetimeSeconds 3600 else 300

/-- The verdict of `xcc_acquire_async`; a later check overrides. -/
def acquireValidation (spec : XccAcquireSpec) : XccErrorCode :=
  match spec.purpose with
  | .other _ => .invalidPurpose
  | _ =>
      if acquireLifetime spec = 0 then .invalidRequest
      else if filterRefused spec then .invalidFilter
      else .ok

/-- The filter of a request whose specification is not read. -/
def filterZero : CertificateFilter :=
  ⟨.clientAuth, operationNone, none, none, none, none, none, none⟩

/-- `xcc_acquire_async`. -/
def xccAcquireAsync
    (session : Nat) (spec : Option XccAcquireSpec)
    (cancellation : Cancellation) : XccAcquireRequest :=
  match spec.filter fun spec =>
      sizeofXccAcquireSpec ≤ spec.structSize &&
        spec.abiVersion = xccAbiVersion && spec.principal.wellFormed with
  | none =>
      { toXccRequest := acquireAsync session none .ok cancellation
        purpose := .clientAuth, genericPurpose := false
        parentWindow := none, activationToken := none, reason := none
        lifetime := 0, maySign := false, interactionForbidden := false
        filter := filterZero }
  | some spec =>
      let maySign := !spec.signPresent || spec.sign
      { toXccRequest :=
          acquireAsync session spec.principal (acquireValidation spec)
            cancellation
        purpose := spec.purpose
        genericPurpose := spec.genericPurposePresent && spec.genericPurpose
        parentWindow := spec.parentWindow
        activationToken := spec.activationToken
        reason := spec.reason
        lifetime := acquireLifetime spec
        maySign
        interactionForbidden :=
          spec.interactionPresent && spec.interactionForbidden
        filter := copyFilter spec maySign }

/-! ## Signatures -/

/-- The size of `XccSignSpec`. -/
def sizeofXccSignSpec : Nat := 128

/-- `XccSignSpec`, as the caller has filled it. -/
structure XccSignSpec where
  structSize : Nat
  abiVersion : Nat
  principal : XccPrincipal
  parentWindow : Option String
  operationId : Option String
  mechanism : Option String
  data : XccBytes
  hashPresent : Bool
  mgfPresent : Bool
  saltLengthPresent : Bool
  encodingPresent : Bool
  hash : Option String
  mgf : Option String
  saltLength : UInt32
  signatureEncoding : Option String
  deriving DecidableEq, Repr

/-- What a signature keeps of its specification. -/
structure XccSignRequest extends XccRequest where
  parentWindow : Option String
  operationId : Option String
  mechanism : Option String
  parameters : Option Vardict
  input : Octets

/-- What `xcc_sign_async_parsed` requires beside the principal. -/
def signWellFormed (spec : XccSignSpec) : Bool :=
  sizeofXccSignSpec ≤ spec.structSize && spec.abiVersion = xccAbiVersion &&
    spec.data.readable && spec.mechanism.isSome &&
    (!spec.hashPresent || spec.hash.isSome) &&
    (!spec.mgfPresent || spec.mgf.isSome) &&
    (!spec.encodingPresent || spec.signatureEncoding.isSome)

/-- One text of the dictionary, when it is present. -/
def textEntry (key : String) (present : Bool) (text : Option String) :
    Vardict :=
  if present then (text.map fun text => (key, Variant.string text)).toList
  else []

/-- The dictionary that the core builds. -/
def signParameters (spec : XccSignSpec) (validParameters : Bool) : Vardict :=
  (if validParameters then [] else [("invalid", .boolean true)]) ++
    textEntry "hash" spec.hashPresent spec.hash ++
    textEntry "mgf" spec.mgfPresent spec.mgf ++
    (if spec.saltLengthPresent then
      [("salt_length", .uint32 spec.saltLength)]
    else []) ++
    textEntry "signature_encoding" spec.encodingPresent
      spec.signatureEncoding

/-- `xcc_sign_async_parsed`. -/
def xccSignAsyncParsed
    (session : Nat) (spec : Option XccSignSpec) (validParameters : Bool)
    (cancellation : Cancellation) : XccSignRequest :=
  match spec.filter fun spec =>
      signWellFormed spec && spec.principal.wellFormed with
  | none =>
      { toXccRequest := signAsync session none .ok cancellation
        parentWindow := none, operationId := none, mechanism := none
        parameters := none, input := [] }
  | some spec =>
      { toXccRequest := signAsync session spec.principal .ok cancellation
        parentWindow := spec.parentWindow
        operationId := spec.operationId
        mechanism := spec.mechanism
        parameters := some (signParameters spec validParameters)
        input := spec.data.copy }

end PortalCertificate.Core.Specs
