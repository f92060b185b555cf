import PortalCertificate.Glib
import PortalCertificate.Module.Session

/-!
# Signing operations of the module

`sign_setup`, `sign_feed` and the part of `sign_perform` before the portal
call.  The functions work on the signing fields of one session.  When one of
them fails, its caller resets these fields, so a failure carries the return
code only.

A request is what `portal_client_sign` puts on the wire, without the portal
session it names.
-/

namespace PortalCertificate.Module.Sign

open PortalCertificate.Glib (Vardict Variant)
open PortalCertificate.Gnutls (HashFunctions HashHandle)
open PortalCertificate.Library.Der (Octets)
open PortalCertificate.Module.Mechanism
open PortalCertificate.Module.Session
open PortalCertificate.Pkcs11

/-- `PRE_HASHED_LIMIT`. -/
def preHashedLimit : Nat := 512
/-- The length of an MD5 and a SHA-1 digest. -/
def tls10Md5Sha1Length : Nat := 36

/-! ## Setting an operation up -/

/-- The PSS parameters `sign_setup` accepts for a table entry. -/
def signSetupPss
    (operation : SignOperation) (entry : PortalMechanism)
    (mechanism : CkMechanism) : Except CkRv SignOperation :=
  match mechanism.parameter with
  | none => .error .mechanismParamInvalid
  | some memory =>
      if mechanism.parameterLen ≠ sizeofPssParams then
        .error .mechanismParamInvalid
      else
        let parameters := memory.pss
        match portalHashFromCkDigest parameters.hashAlg with
        | none => .error .mechanismParamInvalid
        | some hash =>
            if entry.hash.any (· != hash) then
              .error .mechanismParamInvalid
            -- The mask generation hash must be the signature's.
            else if portalMgfHash parameters.mgf ≠ some hash then
              .error .mechanismParamInvalid
            -- The salt length must survive its narrowing to 32 bits.
            else if parameters.sLen ≠ parameters.sLen.toUInt32.toUInt64 then
              .error .mechanismParamInvalid
            else
              .ok
                { operation with
                  hash := some hash
                  mgf := portalMgfName parameters.mgf
                  haveSalt := true
                  salt := parameters.sLen.toUInt32 }

/-- The parameters `sign_setup` accepts; only PSS has any. -/
def signSetupParameters
    (operation : SignOperation) (entry : PortalMechanism)
    (mechanism : CkMechanism) : Except CkRv SignOperation :=
  if entry.pss then
    signSetupPss operation entry mechanism
  else if mechanism.parameter.isSome ∨ mechanism.parameterLen ≠ 0 then
    .error .mechanismParamInvalid
  else
    .ok operation

/-- `hashInit` is whether `gnutls_hash_init` succeeds. -/
def signSetupInput
    (operation : SignOperation) (entry : PortalMechanism)
    (hashInit : Bool) : Except CkRv SignOperation :=
  if entry.hashLocally then
    if hashInit then
      .ok
        { operation with
          digest := some
            { digest := portalHashGnutls entry.hash, fed := [] } }
    else
      .error .functionFailed
  else
    .ok { operation with buffer := some [] }

/-- `sign_setup`. -/
def signSetup
    (grant : PortalGrant) (operation : SignOperation)
    (mechanism : CkMechanism) (hashInit : Bool) :
    Except CkRv SignOperation :=
  match portalMechanismLookup mechanism.mechanism with
  | none => .error .mechanismInvalid
  | some entry =>
      if !entry.canSign then
        .error .mechanismInvalid
      else if !portalMechanismAvailable entry
          (some grant.supportedMechanisms) then
        .error .mechanismInvalid
      else if (entry.portalMechanism == "ECDSA") !=
          (grant.keyType == "EC") then
        .error .keyTypeInconsistent
      else do
        let cleared :=
          { operation with hash := entry.hash, mgf := none, haveSalt := false }
        let parsed ← signSetupParameters cleared entry mechanism
        let prepared ← signSetupInput parsed entry hashInit
        return { prepared with mechanism := some entry, active := true }

/-! ## Feeding data -/

/-- `hashed` is whether `gnutls_hash` succeeds. -/
def signFeed
    (operation : SignOperation) (data : CkBuffer) (hashed : Bool) :
    Except CkRv SignOperation :=
  match data with
  | .null size =>
      if size = 0 then .ok operation else .error .argumentsBad
  | .octets octets =>
      if octets = [] then
        .ok operation
      else
        match operation.digest with
        | some handle =>
            if hashed then
              .ok
                { operation with
                  digest := some
                    { handle with fed := handle.fed ++ octets } }
            else
              .error .functionFailed
        | none =>
            let buffer := operation.buffer.getD []
            if buffer.length > preHashedLimit ∨
                octets.length > preHashedLimit - buffer.length then
              .error .dataLenRange
            else
              .ok { operation with buffer := some (buffer ++ octets) }

/-- Parts of a message, each with whether hashing it succeeds. -/
abbrev SignParts := List (CkBuffer × Bool)

/-- The message that is cut into these parts. -/
def messageOf (parts : SignParts) : Octets :=
  parts.flatMap fun part => part.1.contents

/-- The successful calls of `sign_feed` between setup and request. -/
def signFeedAll (operation : SignOperation) (parts : SignParts) :
    Except CkRv SignOperation :=
  parts.foldlM (fun operation part => signFeed operation part.1 part.2)
    operation

@[simp]
theorem messageOf_nil : messageOf [] = [] := rfl

@[simp]
theorem messageOf_cons (part : CkBuffer × Bool) (parts : SignParts) :
    messageOf (part :: parts) = part.1.contents ++ messageOf parts := rfl

theorem signFeed_hashing
    {operation fed : SignOperation} {handle : HashHandle}
    {data : CkBuffer} {hashed : Bool}
    (hashing : operation.digest = some handle)
    (feeding : signFeed operation data hashed = .ok fed) :
    fed =
      { operation with
        digest := some
          { handle with fed := handle.fed ++ data.contents } } := by
  obtain ⟨active, mechanism, hash, mgf, haveSalt, salt, digest, buffer⟩ :=
    operation
  subst hashing
  cases data with
  | null size =>
      simp only [signFeed] at feeding
      split_ifs at feeding
      simpa [CkBuffer.contents] using (Except.ok.inj feeding).symm
  | octets octets =>
      simp only [signFeed] at feeding
      split_ifs at feeding with empty succeeds
      · simpa [CkBuffer.contents, empty] using (Except.ok.inj feeding).symm
      · exact (Except.ok.inj feeding).symm

theorem signFeed_buffering
    {operation fed : SignOperation} {buffer : Octets}
    {data : CkBuffer} {hashed : Bool}
    (notHashing : operation.digest = none)
    (buffering : operation.buffer = some buffer)
    (feeding : signFeed operation data hashed = .ok fed) :
    fed = { operation with buffer := some (buffer ++ data.contents) } := by
  obtain ⟨active, mechanism, hash, mgf, haveSalt, salt, digest, stored⟩ :=
    operation
  subst notHashing buffering
  cases data with
  | null size =>
      simp only [signFeed] at feeding
      split_ifs at feeding
      simpa [CkBuffer.contents] using (Except.ok.inj feeding).symm
  | octets octets =>
      simp only [signFeed] at feeding
      split_ifs at feeding with empty
      · simpa [CkBuffer.contents, empty] using (Except.ok.inj feeding).symm
      · exact (Except.ok.inj feeding).symm

theorem signFeedAll_cons_ok
    {operation fed : SignOperation} {part : CkBuffer × Bool}
    {parts : SignParts}
    (feeding : signFeedAll operation (part :: parts) = .ok fed) :
    ∃ next, signFeed operation part.1 part.2 = .ok next ∧
      signFeedAll next parts = .ok fed := by
  rw [signFeedAll, List.foldlM_cons] at feeding
  cases step : signFeed operation part.1 part.2 with
  | error rv => simp [step, bind, Except.bind] at feeding
  | ok next =>
      simp only [step, bind, Except.bind] at feeding
      exact ⟨next, rfl, feeding⟩

/-- A hashing operation has hashed the whole message. -/
theorem signFeedAll_hashing
    {operation fed : SignOperation} {handle : HashHandle}
    {parts : SignParts}
    (hashing : operation.digest = some handle)
    (feeding : signFeedAll operation parts = .ok fed) :
    fed =
      { operation with
        digest := some
          { handle with fed := handle.fed ++ messageOf parts } } := by
  induction parts generalizing operation handle with
  | nil =>
      obtain rfl := Except.ok.inj feeding
      simp [← hashing]
  | cons part rest ih =>
      obtain ⟨next, step, rest⟩ := signFeedAll_cons_ok feeding
      obtain rfl := signFeed_hashing hashing step
      rw [ih rfl rest]
      simp

/-- A buffering operation has stored the whole message. -/
theorem signFeedAll_buffering
    {operation fed : SignOperation} {buffer : Octets}
    {parts : SignParts}
    (notHashing : operation.digest = none)
    (buffering : operation.buffer = some buffer)
    (feeding : signFeedAll operation parts = .ok fed) :
    fed =
      { operation with buffer := some (buffer ++ messageOf parts) } := by
  induction parts generalizing operation buffer with
  | nil =>
      obtain rfl := Except.ok.inj feeding
      simp [← buffering]
  | cons part rest ih =>
      obtain ⟨next, step, rest⟩ := signFeedAll_cons_ok feeding
      obtain rfl := signFeed_buffering notHashing buffering step
      rw [ih (by exact notHashing) rfl rest]
      simp

/-! ## Requesting a signature -/

/-- The arguments of `portal_client_sign` besides the grant. -/
structure SignRequest where
  mechanism : String
  hash : Option String
  mgf : Option String
  saltLength : Option UInt32
  data : Octets
  deriving DecidableEq, Repr

/-- The `parameters` dictionary `portal_client_sign` builds. -/
def SignRequest.parameters (request : SignRequest) : Vardict :=
  (request.hash.map fun hash => ("hash", Variant.string hash)).toList ++
    (request.mgf.map fun mgf => ("mgf", Variant.string mgf)).toList ++
    (request.saltLength.map fun saltLength =>
      ("salt_length", Variant.uint32 saltLength)).toList

/-- The hash name and data that `sign_perform` sends. -/
def signPayload
    (hashes : HashFunctions) (operation : SignOperation)
    (entry : PortalMechanism) : Except CkRv (Option String × Octets) :=
  let buffer := operation.buffer.getD []
  if entry.hashLocally then
    match operation.digest with
    -- Not reached: `sign_setup` opens a handle for these entries.
    | none => .error .functionFailed
    | some handle =>
        .ok
          (operation.hash,
            (hashes.hash handle.digest handle.fed).take
              (portalHashLength entry.hash))
  else if entry.digestInfo then
    match portalDigestinfoParse buffer with
    | none =>
        -- The portal has no name for the hash of TLS 1.0 and 1.1.
        if buffer.length = tls10Md5Sha1Length then
          .error .mechanismInvalid
        else
          .error .dataInvalid
    | some (hash, digest) => .ok (some hash, digest)
  else if entry.inferHash then
    match portalHashForLength buffer.length with
    | none => .error .dataLenRange
    | some hash => .ok (some hash, buffer)
  else if buffer.length ≠ portalHashLength operation.hash then
    .error .dataLenRange
  else
    .ok (operation.hash, buffer)

/-- The request `sign_perform` hands to the portal client. -/
def signRequest
    (hashes : HashFunctions) (operation : SignOperation) :
    Except CkRv SignRequest :=
  match operation.mechanism with
  -- Not reached: an active operation has a mechanism.
  | none => .error .functionFailed
  | some entry =>
      match signPayload hashes operation entry with
      | .error rv => .error rv
      | .ok (hash, data) =>
          .ok
            { mechanism := entry.portalMechanism
              hash
              mgf := operation.mgf
              saltLength :=
                if operation.haveSalt then some operation.salt else none
              data }

end PortalCertificate.Module.Sign
