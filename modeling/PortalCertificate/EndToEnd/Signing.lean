import PortalCertificate.EndToEnd.Backend

/-!
# Translation of the signing mechanisms

An application initialises a signature with a mechanism, feeds a message in
parts and asks for the result.  The module turns this into one request, and
the backend turns the request into a raw mechanism and a payload for the
token.  The two translations compose to the meaning of the application's
mechanism.

The entries of the module's mechanism table are classified first.  Each class
has one lemma about what its operation sends, and one about what the backend
makes of that.
-/

namespace PortalCertificate.EndToEnd.Signing

open PortalCertificate.EndToEnd.Backend
open PortalCertificate.EndToEnd.Tables
open PortalCertificate.Gnutls (HashFunctions constantHashes)
open PortalCertificate.Library.Der (Octets)
open PortalCertificate.Library.DigestInfo
open PortalCertificate.Module.Mechanism
open PortalCertificate.Module.Session
open PortalCertificate.Module.Sign
open PortalCertificate.Pkcs11
open PortalCertificate.Pkcs11Signing

/-! ## Classes of table entries -/

/-- The entry of `CKM_RSA_PKCS`. -/
def plainRsaPkcsEntry : PortalMechanism :=
  ⟨ckmRsaPkcs, rsaV15, none, false, true, false, false, true, false⟩

/-- The entries that hash, and sign as PKCS #1 v1.5 does. -/
def rsaPkcsEntry (sha : Sha) : PortalMechanism :=
  ⟨sha.rsaPkcs, rsaV15, some (shaName sha),
    true, false, false, false, true, false⟩

/-- The entry of `CKM_RSA_PKCS_PSS`. -/
def plainRsaPssEntry : PortalMechanism :=
  ⟨ckmRsaPkcsPss, rsaPss, none, false, false, false, true, true, false⟩

/-- The entries that hash, and sign as PSS does. -/
def rsaPssEntry (sha : Sha) : PortalMechanism :=
  ⟨sha.rsaPkcsPss, rsaPss, some (shaName sha),
    true, false, false, true, true, false⟩

/-- The entry of `CKM_ECDSA`. -/
def plainEcdsaEntry : PortalMechanism :=
  ⟨ckmEcdsa, ecdsa, none, false, false, true, false, true, false⟩

/-- The entries that hash, and sign as ECDSA does. -/
def ecdsaEntry (sha : Sha) : PortalMechanism :=
  ⟨sha.ecdsa, ecdsa, some (shaName sha),
    true, false, false, false, true, false⟩

/-- The entry of `CKM_RSA_PKCS_OAEP`. -/
def rsaOaepEntry : PortalMechanism :=
  ⟨ckmRsaPkcsOaep, rsaOaep, none,
    false, false, false, false, false, true⟩

theorem mechanismTable_eq :
    mechanismTable =
      [plainRsaPkcsEntry] ++ Sha.all.map rsaPkcsEntry ++
        [plainRsaPssEntry] ++ Sha.all.map rsaPssEntry ++
        [plainEcdsaEntry] ++ Sha.all.map ecdsaEntry ++
        [rsaOaepEntry] := rfl

/-- The entries an application can sign with. -/
inductive SigningEntry : PortalMechanism → Prop where
  | plainRsaPkcs : SigningEntry plainRsaPkcsEntry
  | rsaPkcs (sha : Sha) : SigningEntry (rsaPkcsEntry sha)
  | plainRsaPss : SigningEntry plainRsaPssEntry
  | rsaPss (sha : Sha) : SigningEntry (rsaPssEntry sha)
  | plainEcdsa : SigningEntry plainEcdsaEntry
  | ecdsa (sha : Sha) : SigningEntry (ecdsaEntry sha)

theorem signingEntry_of_mem
    {entry : PortalMechanism} (listed : entry ∈ mechanismTable)
    (canSign : entry.canSign = true) : SigningEntry entry := by
  simp only [mechanismTable_eq, List.mem_append, List.mem_map,
    List.mem_singleton] at listed
  rcases listed with
    (((((rfl | ⟨sha, -, rfl⟩) | rfl) | ⟨sha, -, rfl⟩) | rfl) |
      ⟨sha, -, rfl⟩) | rfl
  · exact .plainRsaPkcs
  · exact .rsaPkcs sha
  · exact .plainRsaPss
  · exact .rsaPss sha
  · exact .plainEcdsa
  · exact .ecdsa sha
  · simp [rsaOaepEntry] at canSign

/-- The types of the table tell its entries apart. -/
theorem plainRsaPkcs_of_type
    {entry : PortalMechanism} (signing : SigningEntry entry)
    (type : entry.type = ckmRsaPkcs) : entry = plainRsaPkcsEntry := by
  cases signing with
  | plainRsaPkcs => rfl
  | rsaPkcs sha => cases sha <;> exact absurd type (by decide)
  | plainRsaPss => exact absurd type (by decide)
  | rsaPss sha => cases sha <;> exact absurd type (by decide)
  | plainEcdsa => exact absurd type (by decide)
  | ecdsa sha => cases sha <;> exact absurd type (by decide)

/-! ## Setup -/

/-- What `sign_setup` does before it looks at the parameters. -/
def clearedOperation (entry : PortalMechanism) : SignOperation :=
  { SignOperation.idle with hash := entry.hash, mgf := none, haveSalt := false }

/-- The operation for a PSS parameter set. -/
def pssOperation
    (entry : PortalMechanism) (sha : Sha) (salt : UInt32) :
    SignOperation :=
  { clearedOperation entry with
    hash := some (shaName sha)
    mgf := some (shaMgfName sha)
    haveSalt := true
    salt }

/-- What `sign_setup` does after the parameters. -/
def preparedOperation
    (entry : PortalMechanism) (parsed : SignOperation) : SignOperation :=
  if entry.hashLocally then
    { parsed with
      digest := some { digest := portalHashGnutls entry.hash, fed := [] }
      mechanism := some entry
      active := true }
  else
    { parsed with buffer := some [], mechanism := some entry, active := true }

/-- The parameters of the mechanism suit the entry. -/
inductive ParsedParameters
    (entry : PortalMechanism) (mechanism : CkMechanism) :
    SignOperation → Prop where
  | pss (sha : Sha) (memory : CkParameterMemory) (salt : UInt32)
      (isPss : entry.pss = true)
      (present : mechanism.parameter = some memory)
      (exact : memory.pss = pssParams sha salt)
      (agrees : entry.hash = none ∨ entry.hash = some (shaName sha)) :
      ParsedParameters entry mechanism (pssOperation entry sha salt)
  | none (notPss : entry.pss = false) :
      ParsedParameters entry mechanism (clearedOperation entry)

private theorem signSetupPss_ok
    {entry : PortalMechanism} {mechanism : CkMechanism}
    {parsed : SignOperation}
    (isPss : entry.pss = true)
    (accepted :
      signSetupPss (clearedOperation entry) entry mechanism = .ok parsed) :
    ParsedParameters entry mechanism parsed := by
  unfold signSetupPss at accepted
  cases present : mechanism.parameter with
  | none => simp [present] at accepted
  | some memory =>
      simp only [present] at accepted
      split at accepted
      · cases accepted
      · cases named : portalHashFromCkDigest memory.pss.hashAlg with
        | none => simp [named] at accepted
        | some hash =>
            simp only [named] at accepted
            split_ifs at accepted with differs otherMgf narrowed
            obtain ⟨sha, rfl, hashAlg⟩ :=
              portalHashFromCkDigest_eq_some named
            have mgf := portalMgfHash_eq_some (not_not.mp otherMgf)
            have exact :
                memory.pss =
                  pssParams sha memory.pss.sLen.toUInt32 := by
              rw [pssParams, ← hashAlg, ← mgf, ← not_not.mp narrowed]
            have agrees :
                entry.hash = none ∨ entry.hash = some (shaName sha) := by
              cases hash : entry.hash with
              | none => exact .inl rfl
              | some name =>
                  right
                  simpa [hash] using differs
            rw [mgf, portalMgfName_shaMgf] at accepted
            obtain rfl := Except.ok.inj accepted
            exact .pss sha memory _ isPss present exact agrees

private theorem signSetupParameters_ok
    {entry : PortalMechanism} {mechanism : CkMechanism}
    {parsed : SignOperation}
    (accepted :
      signSetupParameters (clearedOperation entry) entry mechanism =
        .ok parsed) :
    ParsedParameters entry mechanism parsed := by
  unfold signSetupParameters at accepted
  split_ifs at accepted with isPss given
  · exact signSetupPss_ok isPss accepted
  · obtain rfl := Except.ok.inj accepted
    exact .none (by simpa using isPss)

private theorem signSetupInput_ok
    {entry : PortalMechanism} {parsed prepared : SignOperation}
    {hashInit : Bool}
    (accepted : signSetupInput parsed entry hashInit = .ok prepared) :
    { prepared with mechanism := some entry, active := true } =
      preparedOperation entry parsed := by
  unfold signSetupInput at accepted
  split_ifs at accepted with hashed succeeds
  · obtain rfl := Except.ok.inj accepted
    rw [preparedOperation, if_pos hashed]
  · obtain rfl := Except.ok.inj accepted
    rw [preparedOperation, if_neg hashed]

/-- A mechanism that is accepted is one of the table, with parameters that
parse. -/
theorem signSetup_ok
    {grant : PortalGrant} {mechanism : CkMechanism} {hashInit : Bool}
    {operation : SignOperation}
    (setup : signSetup grant .idle mechanism hashInit = .ok operation) :
    ∃ entry parsed, SigningEntry entry ∧
      entry.type = mechanism.mechanism ∧
      ParsedParameters entry mechanism parsed ∧
      operation = preparedOperation entry parsed := by
  unfold signSetup at setup
  cases lookup : portalMechanismLookup mechanism.mechanism with
  | none => simp [lookup] at setup
  | some entry =>
      simp only [lookup] at setup
      split_ifs at setup with cannotSign unavailable otherKey
      have listed := List.mem_of_find?_eq_some lookup
      have type : entry.type = mechanism.mechanism := by
        simpa using List.find?_some lookup
      have signing := signingEntry_of_mem listed (by simpa using cannotSign)
      cases accepted :
          signSetupParameters (clearedOperation entry) entry mechanism with
      | error rv =>
          rw [clearedOperation] at accepted
          simp [accepted, bind, Except.bind] at setup
      | ok parsed =>
          have parameters := signSetupParameters_ok accepted
          rw [clearedOperation] at accepted
          cases input : signSetupInput parsed entry hashInit with
          | error rv =>
              simp [accepted, input, bind, Except.bind] at setup
          | ok prepared =>
              simp only [accepted, input, bind, Except.bind, pure,
                Except.pure] at setup
              refine ⟨entry, parsed, signing, type, parameters, ?_⟩
              rw [← signSetupInput_ok input]
              exact (Except.ok.inj setup).symm

/-! ## Requests -/

/-- What the module sends for a message fed to a prepared operation. -/
inductive Sends (hashes : HashFunctions) :
    CkMechanism → Octets → SignRequest → Prop where
  | rsaPkcs (sha : Sha) (mechanism : CkMechanism) (message : Octets)
      (type : mechanism.mechanism = sha.rsaPkcs) :
      Sends hashes mechanism message
        (rsaPkcsRequest sha (shaHash hashes sha message))
  | plainRsaPss (sha : Sha) (memory : CkParameterMemory) (salt : UInt32)
      (mechanism : CkMechanism) (message : Octets)
      (type : mechanism.mechanism = ckmRsaPkcsPss)
      (present : mechanism.parameter = some memory)
      (exact : memory.pss = pssParams sha salt)
      (length : message.length = sha.length) :
      Sends hashes mechanism message (rsaPssRequest sha salt message)
  | rsaPss (sha : Sha) (memory : CkParameterMemory) (salt : UInt32)
      (mechanism : CkMechanism) (message : Octets)
      (type : mechanism.mechanism = sha.rsaPkcsPss)
      (present : mechanism.parameter = some memory)
      (exact : memory.pss = pssParams sha salt) :
      Sends hashes mechanism message
        (rsaPssRequest sha salt (shaHash hashes sha message))
  | plainEcdsa (sha : Sha) (mechanism : CkMechanism) (message : Octets)
      (type : mechanism.mechanism = ckmEcdsa)
      (length : message.length = sha.length) :
      Sends hashes mechanism message (ecdsaRequest sha message)
  | ecdsa (sha : Sha) (mechanism : CkMechanism) (message : Octets)
      (type : mechanism.mechanism = sha.ecdsa) :
      Sends hashes mechanism message
        (ecdsaRequest sha (shaHash hashes sha message))

private theorem take_shaHash
    (hashes : HashFunctions) (sha : Sha) (message : Octets) :
    (hashes.hash (shaGnutls sha) message).take sha.length =
      shaHash hashes sha message := by
  rw [← shaHash_length hashes sha message]
  exact List.take_length

/-- The request for an entry that hashes locally. -/
private theorem signRequest_hashed
    {hashes : HashFunctions} {entry : PortalMechanism} {sha : Sha}
    {parsed fed : SignOperation} {parts : SignParts}
    {request : SignRequest}
    (hashed : entry.hashLocally = true)
    (hash : entry.hash = some (shaName sha))
    (feeding :
      signFeedAll (preparedOperation entry parsed) parts = .ok fed)
    (sends : signRequest hashes fed = .ok request) :
    request =
      { mechanism := entry.portalMechanism
        hash := parsed.hash
        mgf := parsed.mgf
        saltLength := if parsed.haveSalt then some parsed.salt else none
        data := shaHash hashes sha (messageOf parts) } := by
  rw [preparedOperation, if_pos hashed] at feeding
  have fedEq := signFeedAll_hashing rfl feeding
  subst fedEq
  simp only [signRequest, signPayload, hashed, if_true, hash,
    portalHashGnutls_shaName, portalHashLength_shaName, List.nil_append,
    take_shaHash, Except.ok.injEq] at sends
  exact sends.symm

/-- The request for an entry that signs what it is given. -/
theorem signRequest_buffered
    {hashes : HashFunctions} {entry : PortalMechanism}
    {parsed fed : SignOperation} {parts : SignParts}
    {request : SignRequest}
    (notHashed : entry.hashLocally = false)
    (notHashing : parsed.digest = none)
    (feeding :
      signFeedAll (preparedOperation entry parsed) parts = .ok fed)
    (sends : signRequest hashes fed = .ok request) :
    signRequest hashes
        { parsed with
          buffer := some (messageOf parts)
          mechanism := some entry
          active := true } =
      .ok request := by
  rw [preparedOperation, if_neg (by simp [notHashed])] at feeding
  have fedEq :=
    signFeedAll_buffering (by exact notHashing) rfl feeding
  subst fedEq
  simpa using sends

private theorem sends_rsaPkcs
    {hashes : HashFunctions} {mechanism : CkMechanism} {sha : Sha}
    {parsed fed : SignOperation} {parts : SignParts}
    {request : SignRequest}
    (type : sha.rsaPkcs = mechanism.mechanism)
    (parameters : ParsedParameters (rsaPkcsEntry sha) mechanism parsed)
    (feeding :
      signFeedAll (preparedOperation (rsaPkcsEntry sha) parsed) parts =
        .ok fed)
    (sends : signRequest hashes fed = .ok request) :
    Sends hashes mechanism (messageOf parts) request := by
  cases parameters with
  | pss _ _ _ isPss => exact absurd isPss (by simp [rsaPkcsEntry])
  | none =>
      rw [signRequest_hashed rfl rfl feeding sends]
      exact .rsaPkcs sha mechanism _ type.symm

private theorem sends_plainRsaPss
    {hashes : HashFunctions} {mechanism : CkMechanism}
    {parsed fed : SignOperation} {parts : SignParts}
    {request : SignRequest}
    (type : ckmRsaPkcsPss = mechanism.mechanism)
    (parameters : ParsedParameters plainRsaPssEntry mechanism parsed)
    (feeding :
      signFeedAll (preparedOperation plainRsaPssEntry parsed) parts =
        .ok fed)
    (sends : signRequest hashes fed = .ok request) :
    Sends hashes mechanism (messageOf parts) request := by
  cases parameters with
  | none notPss => exact absurd notPss (by simp [plainRsaPssEntry])
  | pss sha memory salt _ present exactly =>
      have requested := signRequest_buffered rfl rfl feeding sends
      simp only [signRequest, signPayload, plainRsaPssEntry, pssOperation,
        Option.getD_some, Bool.false_eq_true, if_false,
        portalHashLength_shaName] at requested
      by_cases length : (messageOf parts).length = sha.length
      · rw [if_neg (not_not.mpr length)] at requested
        obtain rfl := Except.ok.inj requested
        exact .plainRsaPss sha memory salt mechanism _ type.symm present
          exactly length
      · rw [if_pos length] at requested
        cases requested

private theorem sends_rsaPss
    {hashes : HashFunctions} {mechanism : CkMechanism} {sha : Sha}
    {parsed fed : SignOperation} {parts : SignParts}
    {request : SignRequest}
    (type : sha.rsaPkcsPss = mechanism.mechanism)
    (parameters : ParsedParameters (rsaPssEntry sha) mechanism parsed)
    (feeding :
      signFeedAll (preparedOperation (rsaPssEntry sha) parsed) parts =
        .ok fed)
    (sends : signRequest hashes fed = .ok request) :
    Sends hashes mechanism (messageOf parts) request := by
  cases parameters with
  | none notPss => exact absurd notPss (by simp [rsaPssEntry])
  | pss other memory salt _ present exactly agrees =>
      have same : sha = other := by
        rcases agrees with hash | hash
        · simp [rsaPssEntry] at hash
        · exact shaName_injective (Option.some.inj hash)
      subst same
      rw [signRequest_hashed rfl rfl feeding sends]
      exact .rsaPss sha memory salt mechanism _ type.symm present exactly

private theorem sends_plainEcdsa
    {hashes : HashFunctions} {mechanism : CkMechanism}
    {parsed fed : SignOperation} {parts : SignParts}
    {request : SignRequest}
    (type : ckmEcdsa = mechanism.mechanism)
    (parameters : ParsedParameters plainEcdsaEntry mechanism parsed)
    (feeding :
      signFeedAll (preparedOperation plainEcdsaEntry parsed) parts =
        .ok fed)
    (sends : signRequest hashes fed = .ok request) :
    Sends hashes mechanism (messageOf parts) request := by
  cases parameters with
  | pss _ _ _ isPss => exact absurd isPss (by simp [plainEcdsaEntry])
  | none =>
      have requested := signRequest_buffered rfl rfl feeding sends
      simp only [signRequest, signPayload, plainEcdsaEntry,
        Option.getD_some, Bool.false_eq_true, if_false, if_true]
        at requested
      cases inferred : portalHashForLength (messageOf parts).length with
      | none => simp [inferred] at requested
      | some hash =>
          obtain ⟨sha, rfl, length⟩ := portalHashForLength_eq_some inferred
          simp only [inferred] at requested
          obtain rfl := Except.ok.inj requested
          exact .plainEcdsa sha mechanism _ type.symm length

private theorem sends_ecdsa
    {hashes : HashFunctions} {mechanism : CkMechanism} {sha : Sha}
    {parsed fed : SignOperation} {parts : SignParts}
    {request : SignRequest}
    (type : sha.ecdsa = mechanism.mechanism)
    (parameters : ParsedParameters (ecdsaEntry sha) mechanism parsed)
    (feeding :
      signFeedAll (preparedOperation (ecdsaEntry sha) parsed) parts =
        .ok fed)
    (sends : signRequest hashes fed = .ok request) :
    Sends hashes mechanism (messageOf parts) request := by
  cases parameters with
  | pss _ _ _ isPss => exact absurd isPss (by simp [ecdsaEntry])
  | none =>
      rw [signRequest_hashed rfl rfl feeding sends]
      exact .ecdsa sha mechanism _ type.symm

/-- Every request for a mechanism other than `CKM_RSA_PKCS`. -/
theorem sends_of_signRequest
    {hashes : HashFunctions} {grant : PortalGrant}
    {mechanism : CkMechanism} {hashInit : Bool}
    {operation fed : SignOperation} {parts : SignParts}
    {request : SignRequest}
    (notPlain : mechanism.mechanism ≠ ckmRsaPkcs)
    (setup : signSetup grant .idle mechanism hashInit = .ok operation)
    (feeding : signFeedAll operation parts = .ok fed)
    (sends : signRequest hashes fed = .ok request) :
    Sends hashes mechanism (messageOf parts) request := by
  obtain ⟨entry, parsed, signing, type, parameters, rfl⟩ :=
    signSetup_ok setup
  cases signing with
  | plainRsaPkcs => exact absurd type.symm notPlain
  | rsaPkcs sha => exact sends_rsaPkcs type parameters feeding sends
  | plainRsaPss => exact sends_plainRsaPss type parameters feeding sends
  | rsaPss sha => exact sends_rsaPss type parameters feeding sends
  | plainEcdsa => exact sends_plainEcdsa type parameters feeding sends
  | ecdsa sha => exact sends_ecdsa type parameters feeding sends

/-! ## The composed translation -/

/-- The backend answers a request as the mechanism means. -/
theorem backend_answers_sends
    {hashes : HashFunctions} {mechanism : CkMechanism}
    {message : Octets} {request : SignRequest}
    (sends : Sends hashes mechanism message request)
    (keyType : Option String) (keySize : UInt32) :
    ∃ signature, Means (shaHash hashes) mechanism message signature ∧
      AnswersWith signature keyType keySize
        (backendSign request keyType keySize) := by
  obtain ⟨type, parameter, parameterLen⟩ := mechanism
  cases sends with
  | rsaPkcs sha _ _ type =>
      obtain rfl : _ = sha.rsaPkcs := type
      exact ⟨_, .rsaPkcs sha parameter parameterLen message,
        backendSign_rsaPkcs sha (shaHash_length hashes sha message)
          keyType keySize⟩
  | plainRsaPss sha memory salt _ _ type present exactly length =>
      obtain rfl : _ = ckmRsaPkcsPss := type
      obtain rfl : parameter = some memory := present
      refine ⟨_, .rsaPss memory parameterLen message, ?_⟩
      rw [exactly]
      exact backendSign_rsaPss sha salt length keyType keySize
  | rsaPss sha memory salt _ _ type present exactly =>
      obtain rfl : _ = sha.rsaPkcsPss := type
      obtain rfl : parameter = some memory := present
      refine ⟨_, .rsaPssHashed sha memory parameterLen message
        (by rw [exactly]; rfl), ?_⟩
      rw [exactly]
      exact backendSign_rsaPss sha salt
        (shaHash_length hashes sha message) keyType keySize
  | plainEcdsa sha _ _ type length =>
      obtain rfl : _ = ckmEcdsa := type
      exact ⟨_, .ecdsa parameter parameterLen message,
        backendSign_ecdsa sha length keyType keySize⟩
  | ecdsa sha _ _ type =>
      obtain rfl : _ = sha.ecdsa := type
      exact ⟨_, .ecdsaHashed sha parameter parameterLen message,
        backendSign_ecdsa sha (shaHash_length hashes sha message)
          keyType keySize⟩

/--
Whatever the module sends for a mechanism other than `CKM_RSA_PKCS`, the
backend hands the token what the mechanism means for the message, unless the
type or size of the key forbids it.
-/
theorem signing_translation
    (hashes : HashFunctions) (grant : PortalGrant)
    (mechanism : CkMechanism) (hashInit : Bool)
    (operation fed : SignOperation) (parts : SignParts)
    (request : SignRequest)
    (notPlain : mechanism.mechanism ≠ ckmRsaPkcs)
    (setup : signSetup grant .idle mechanism hashInit = .ok operation)
    (feeding : signFeedAll operation parts = .ok fed)
    (sends : signRequest hashes fed = .ok request)
    (keyType : Option String) (keySize : UInt32) :
    ∃ signature,
      Means (shaHash hashes) mechanism (messageOf parts) signature ∧
      AnswersWith signature keyType keySize
        (backendSign request keyType keySize) :=
  backend_answers_sends
    (sends_of_signRequest notPlain setup feeding sends) keyType keySize

/-- A grant for a P-256 key. -/
def ecGrant : PortalGrant where
  acquisition := 0
  sessionHandle := "/session/1"
  owner := ":1.1"
  ownerGeneration := 1
  certificateDer := []
  keyType := "EC"
  keySize := 256
  keyCurve := some "P-256"
  supportedMechanisms := ["ECDSA"]
  maySign := true
  mayDecrypt := false
  expiresAt := 0

/-- A signature of three octets with a key on a curve. -/
theorem signing_translation_ecdsaSha256 :
    ∃ signature,
      Means (shaHash constantHashes) ⟨ckmEcdsaSha256, none, 0⟩ [1, 2, 3]
        signature ∧
      AnswersWith signature (some "EC") 256
        (backendSign (ecdsaRequest .sha256 (List.replicate 32 0))
          (some "EC") 256) :=
  signing_translation constantHashes ecGrant ⟨ckmEcdsaSha256, none, 0⟩ true
    _ _ [(.octets [1, 2], true), (.octets [3], true)]
    (ecdsaRequest .sha256 (List.replicate 32 0))
    (by decide) rfl rfl rfl (some "EC") 256

end PortalCertificate.EndToEnd.Signing
