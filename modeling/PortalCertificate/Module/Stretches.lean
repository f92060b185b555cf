import PortalCertificate.Module.Changes

/-!
# Locked stretches are composed of changes

One lemma for each function and entry point.  Each says that the stretch is
a composition of changes, or that it is one followed by the start of an
acquisition, with everything that was checked before the lock was released.
-/

namespace PortalCertificate.Module.Stretches

open PortalCertificate.Library.Transition
open PortalCertificate.Module.Acquire
open PortalCertificate.Module.Calls
open PortalCertificate.Module.Changes
open PortalCertificate.Module.Lifecycle
open PortalCertificate.Module.Machine
open PortalCertificate.Module.Objects
open PortalCertificate.Module.Session
open PortalCertificate.Module.SessionCalls
open PortalCertificate.Module.Sign
open PortalCertificate.Module.Statics
open PortalCertificate.Module.Template
open PortalCertificate.Pkcs11

variable {host : Host}

/-- What `ensure_grant` has checked when it starts to acquire. -/
structure MayAcquire
    (host : Host) (state : State) (search : Search)
    (session : PortalSession) : Prop where
  alone : state.acquiring = false
  ungranted : state.grant = none
  initialized : state.initialized = true
  lasting : state.finalizing = false
  lifecycle : state.lifecycle = search.lifecycle
  available : portalClientAvailable state.client = true
  found : state.findSession search.handle = some session
  serial : session.serial = search.serial
  wanted : portalTemplateWantsCredential search.template state.issuedIds
    state.enumerate host.enumerateSetting = true
  unrefused : refused state = false

/-- How a call goes on with the lock held: by some changes, up to its return
or its next wait. -/
inductive Stretch (host : Host) (state : State) : State × Progress → Prop
    where
  | returns {next : State} {reply : Reply}
      (changes : Composed (Change host) state next) :
      Stretch host state (next, .returned reply)
  | waits {next : State} {search : Search}
      (changes : Composed (Change host) state next) :
      Stretch host state (next, .waits search)
  | finalizes {next : State}
      (changes : Composed (Change host) state next) :
      Stretch host state (next, .finalizes)
  | finishes {middle : State} {reply : Reply}
      (changes : Composed (Change host) state middle)
      (settled : middle.acquiring = false) :
      Stretch host state ((finishFinalize middle).1, .returned reply)
  | acquires {middle : State} {search : Search} {session : PortalSession}
      (changes : Composed (Change host) state middle)
      (may : MayAcquire host middle search session) :
      Stretch host state (beginAcquire middle search session)

theorem Stretch.after
    {first second : State} {result : State × Progress}
    (changes : Composed (Change host) first second)
    (stretch : Stretch host second result) : Stretch host first result := by
  cases stretch with
  | returns rest => exact .returns (changes.trans rest)
  | waits rest => exact .waits (changes.trans rest)
  | finalizes rest => exact .finalizes (changes.trans rest)
  | finishes rest settled => exact .finishes (changes.trans rest) settled
  | acquires rest may => exact .acquires (changes.trans rest) may

theorem Stretch.reply
    {state : State} {result : State × Reply}
    (changes : Composed (Change host) state result.1) :
    Stretch host state (reply result) :=
  .returns changes

/-! ## Session calls -/

theorem withSession_changes
    {state : State} {handle : Nat}
    {body : State → PortalSession → State × Reply}
    (changes : ∀ next session, next.findSession handle = some session →
      Composed (Change host) next (body next session).1) :
    Composed (Change host) state (withSession state handle body).1 := by
  have lookup := sessionLookup_changes host state handle
  unfold withSession
  split <;> rename_i result <;> rw [result] at lookup
  · exact lookup
  · exact lookup.trans (changes _ _ (sessionLookup_found result))

theorem withOperationSession_changes
    {state : State} {handle : Nat}
    {body : State → PortalSession → State × Reply}
    (changes : ∀ next session, next.findSession handle = some session →
      Composed (Change host) next (body next session).1) :
    Composed (Change host) state
      (withOperationSession state handle body).1 := by
  have lookup := operationSessionLookup_changes host state handle
  unfold withOperationSession
  split <;> rename_i result <;> rw [result] at lookup
  · exact lookup
  · exact lookup.trans (changes _ _ (operationSessionLookup_found result))

section Found

variable
  {state : State} {handle : Nat} {session : PortalSession}
  (found : state.findSession handle = some session)
include found

theorem resetSign_changes :
    Composed (Change host) state (resetSign state handle) :=
  (Change.revises found (quiet_sessionResetSign session)
    (findsAmong_of_subset (List.Subset.refl _))).composed

theorem resetDecrypt_changes :
    Composed (Change host) state (resetDecrypt state handle) :=
  (Change.revises found (quiet_sessionResetDecrypt session)
    (findsAmong_of_subset (List.Subset.refl _))).composed

end Found

theorem cGetSessionInfo_changes (state : State) (handle : Nat) :
    Composed (Change host) state (cGetSessionInfo state handle).1 :=
  withSession_changes fun _ _ _ => .refl

theorem cLogin_changes (state : State) (handle : Nat) :
    Composed (Change host) state (cLogin state handle).1 := by
  refine withSession_changes fun next session found => ?_
  split_ifs
  · exact .refl
  · exact (Change.logsIn (findSession_mem found).1).composed

theorem cLogout_changes (state : State) (handle : Nat) :
    Composed (Change host) state (cLogout state handle).1 :=
  withSession_changes fun _ _ found =>
    (Change.logsOut (findSession_mem found).1).composed

theorem cFindObjects_changes (state : State) (handle maxCount : Nat) :
    Composed (Change host) state (cFindObjects state handle maxCount).1 := by
  refine withSession_changes fun next session found => ?_
  split_ifs
  · exact .refl
  · exact (Change.revises found (quiet_withFind session _)
      (findsAmong_of_subset (List.Subset.refl _))).composed

theorem cFindObjectsFinal_changes (state : State) (handle : Nat) :
    Composed (Change host) state (cFindObjectsFinal state handle).1 := by
  refine withSession_changes fun next session found => ?_
  split_ifs
  · exact .refl
  · exact (Change.revises found (quiet_withFind session _)
      (findsAmong_of_subset (List.nil_subset _))).composed

theorem cGetAttributeValue_changes
    (state : State) (handle : Nat) (object : CkUlong)
    (template : CkTemplate) :
    Composed (Change host) state
      (cGetAttributeValue state handle object template).1 := by
  refine withSession_changes fun next session _ => ?_
  split <;> exact .refl

theorem grantedKey_current
    {state : State} {key : CkUlong} {grant : PortalGrant}
    (granted : grantedKey state key = some grant) :
    state.grant = some grant := by
  unfold grantedKey at granted
  split at granted
  · rename_i current _
    split_ifs at granted
    rwa [← Option.some.inj granted]
  · cases granted

/-- A setup that succeeds makes the operation active. -/
theorem signSetup_active
    {grant : PortalGrant} {operation sign : SignOperation}
    {mechanism : CkMechanism} {hashInit : Bool}
    (setup : signSetup grant operation mechanism hashInit = .ok sign) :
    sign.active = true := by
  unfold signSetup at setup
  split at setup
  · cases setup
  · split_ifs at setup
    rename_i entry _ _ _ _
    cases parsed : signSetupParameters
        { operation with hash := entry.hash, mgf := none, haveSalt := false }
        entry mechanism with
    | error rv => simp [parsed, bind, Except.bind] at setup
    | ok parsed' =>
        cases prepared : signSetupInput parsed' entry hashInit with
        | error rv => simp [parsed, prepared, bind, Except.bind] at setup
        | ok prepared' =>
            simp only [parsed, prepared, bind, Except.bind, pure,
              Except.pure] at setup
            rw [← Except.ok.inj setup]

theorem decryptSetup_active
    {operation decrypt : DecryptOperation} {mechanism : CkMechanism}
    (setup : decryptSetup operation mechanism = .ok decrypt) :
    decrypt.active = true := by
  unfold decryptSetup at setup
  split at setup
  · cases setup
  · split_ifs at setup
    dsimp only at setup
    split at setup
    · split_ifs at setup
      · rw [← Except.ok.inj setup]
      · split at setup <;> cases setup
      · split at setup
        · cases setup
        · rw [← Except.ok.inj setup]
    · cases setup

theorem cSignInit_changes
    (state : State) (handle : Nat) (mechanism : CkMechanism)
    (key : CkUlong) (answers : Answers) :
    Composed (Change host) state
      (cSignInit state handle mechanism key answers).1 := by
  refine withSession_changes fun next session found => ?_
  split_ifs
  · exact .refl
  split
  · exact .refl
  · rename_i grant granted
    split_ifs
    · exact .refl
    split
    · exact resetSign_changes found
    · rename_i sign setup
      exact (Change.starts found
        (starts_sign session (signSetup_active setup))
        (grantedKey_current granted)).composed

theorem cDecryptInit_changes
    (state : State) (handle : Nat) (mechanism : CkMechanism)
    (key : CkUlong) :
    Composed (Change host) state
      (cDecryptInit state handle mechanism key).1 := by
  refine withSession_changes fun next session found => ?_
  split_ifs
  · exact .refl
  split
  · exact .refl
  · rename_i grant granted
    split_ifs
    · exact .refl
    · exact .refl
    split
    · exact .refl
    · rename_i decrypt setup
      exact (Change.starts found
        (starts_decrypt session (decryptSetup_active setup))
        (grantedKey_current granted)).composed

/-! ## Requests -/

theorem portalRequest_changes
    (host : Host) {request : OperationRequest} {state : State}
    {session : PortalSession} (member : session ∈ state.table)
    (active : operationActive request.kind session)
    (portal : Except PortalErrorCode Library.Der.Octets) :
    Composed (Change host) state
      (portalRequest request state session portal).1 := by
  unfold portalRequest
  split
  · exact .refl
  · rename_i grant current
    have requested : Composed (Change host) state _ :=
      (Change.requests member active current).composed
    dsimp only
    split_ifs
    · exact requested
    · split <;> exact requested

/-- A request leaves the table as it is. -/
@[simp]
theorem portalRequest_sessions
    (request : OperationRequest) (state : State) (session : PortalSession)
    (portal : Except PortalErrorCode Library.Der.Octets) :
    (portalRequest request state session portal).1.sessions =
      state.sessions := by
  unfold portalRequest
  split
  · rfl
  · dsimp only
    split_ifs
    · rfl
    · split <;> rfl

theorem portalRequest_findSession
    (request : OperationRequest) (state : State) (session : PortalSession)
    (portal : Except PortalErrorCode Library.Der.Octets) (handle : Nat) :
    (portalRequest request state session portal).1.findSession handle =
      state.findSession handle := by
  simp only [State.findSession, State.table, portalRequest_sessions]

theorem signPerform_changes
    (host : Host) {state : State} {session : PortalSession}
    (member : session ∈ state.table) (active : session.sign.active)
    (answers : Answers) :
    Composed (Change host) state
      (signPerform host state session answers).1 := by
  unfold signPerform
  split
  · exact .refl
  · exact portalRequest_changes host member (by exact active) _

theorem signPerform_findSession
    (host : Host) (state : State) (session : PortalSession) (answers : Answers)
    (handle : Nat) :
    (signPerform host state session answers).1.findSession handle =
      state.findSession handle := by
  unfold signPerform
  split
  · rfl
  · exact portalRequest_findSession ..

theorem signFinish_changes
    {state : State} {handle : Nat} {session : PortalSession}
    (found : state.findSession handle = some session)
    (active : session.sign.active) (answers : Answers)
    (out : Bool) (outLen : Nat) :
    Composed (Change host) state
      (signFinish host state handle session answers out outLen).1 := by
  have performed := signPerform_changes host
    (findSession_mem found).1 active answers
  have kept := signPerform_findSession host state session answers handle
  unfold signFinish
  dsimp only
  split_ifs
  · exact .refl
  · exact .refl
  split <;> rename_i result <;> rw [result] at performed kept
  · exact performed.trans (resetSign_changes (kept.trans found))
  · split_ifs
    · exact performed.trans (resetSign_changes (kept.trans found))
    · exact performed.trans (resetSign_changes (kept.trans found))

/-- The updated session is found under its handle. -/
theorem findSession_updateSession
    {state : State} {handle : Nat} {session : PortalSession}
    (update : PortalSession → PortalSession)
    (found : state.findSession handle = some session)
    (same : ∀ session, (update session).handle = session.handle) :
    (state.updateSession handle update).findSession handle =
      some (update session) := by
  have sameKey (other : PortalSession) :
      ((if other.handle = handle then update other else other).handle ==
        handle) = (other.handle == handle) := by
    split_ifs <;> simp [same]
  rw [State.findSession] at found
  rw [State.findSession, table_updateSession, List.find?_map]
  simp only [Function.comp_def, sameKey, found, Option.map_some]
  simp [by simpa using List.find?_some found]

theorem cSign_changes
    (state : State) (handle : Nat) (data : CkBuffer)
    (signature : Bool) (signatureLen : Nat) (answers : Answers) :
    Composed (Change host) state
      (cSign host state handle data signature signatureLen answers).1 := by
  refine withOperationSession_changes fun next session found => ?_
  dsimp only
  split_ifs with inactive
  · exact .refl
  · exact .refl
  · exact .refl
  split
  · exact resetSign_changes found
  · rename_i sign feeding
    have fed := signFeed_active feeding
    have active : sign.active := by simpa [fed] using inactive
    have updated := findSession_updateSession
      (fun session => { session with sign }) found fun _ => rfl
    exact (Change.revises found
      (quiet_withSign fed (by simpa using inactive))
      (findsAmong_of_subset (List.Subset.refl _))).composed.trans
      (signFinish_changes updated active ..)

theorem cSignUpdate_changes
    (state : State) (handle : Nat) (part : CkBuffer) (answers : Answers) :
    Composed (Change host) state
      (cSignUpdate state handle part answers).1 := by
  refine withOperationSession_changes fun next session found => ?_
  split_ifs with inactive
  · exact .refl
  split
  · exact resetSign_changes found
  · rename_i sign feeding
    exact (Change.revises found
      (quiet_withSign (signFeed_active feeding) (by simpa using inactive))
      (findsAmong_of_subset (List.Subset.refl _))).composed

theorem cSignFinal_changes
    (state : State) (handle : Nat) (signature : Bool)
    (signatureLen : Nat) (answers : Answers) :
    Composed (Change host) state
      (cSignFinal host state handle signature signatureLen answers).1 := by
  refine withOperationSession_changes fun next session found => ?_
  split_ifs with inactive
  · exact .refl
  · exact signFinish_changes found (by simpa using inactive) ..

theorem cDecrypt_changes
    (state : State) (handle : Nat) (ciphertext : CkBuffer)
    (plaintext : Bool) (plaintextLen : Nat) (answers : Answers) :
    Composed (Change host) state
      (cDecrypt state handle ciphertext plaintext plaintextLen
        answers).1 := by
  refine withOperationSession_changes fun next session found => ?_
  split_ifs with inactive
  · exact .refl
  · exact .refl
  split
  · exact resetDecrypt_changes found
  rename_i data
  let request := OperationRequest.decrypt (decryptRequest session.decrypt data)
  have active : operationActive request.kind session := by
    simpa [operationActive, request, OperationRequest.kind] using inactive
  have requested := portalRequest_changes host (findSession_mem found).1
    active answers.portal
  have kept := portalRequest_findSession request next session answers.portal
    handle
  split <;> rename_i result <;> rw [result] at requested kept
  · exact requested.trans (resetDecrypt_changes (kept.trans found))
  · split_ifs
    · exact requested
    · exact requested.trans (resetDecrypt_changes (kept.trans found))

/-! ## Searches -/

/-- A search finds handles that resolve. -/
theorem lookup_of_mem_portalObjectsFind
    {objects : Option PortalObjects} {template : CkTemplate}
    {handle : CkUlong}
    (member : handle ∈ portalObjectsFind objects template) :
    (portalObjectsLookup objects handle).isSome := by
  cases objects with
  | none => cases member
  | some objects =>
      rcases List.mem_map.mp member with ⟨object, found, rfl⟩
      have present := (List.mem_filter.mp found).1
      rw [portalObjectsLookup, List.find?_isSome]
      exact ⟨object, present, beq_self_eq_true _⟩

theorem findsAmong_portalObjectsFind
    (state : State) (session : PortalSession) (template : CkTemplate)
    (position : Nat) :
    FindsAmong state session
      { session with
        find :=
          { active := true
            results := portalObjectsFind state.objects template
            position } } :=
  fun _ member => Or.inr (lookup_of_mem_portalObjectsFind member)

/-- The end of a search is made of changes. -/
theorem finishSearch_changes
    (state : State) (search : Search) (acquired : Bool) :
    Composed (Change host) state
      (finishSearch state search acquired).1 := by
  have revalidated := sessionRevalidate_changes host state
    search.handle search.lifecycle search.serial
  unfold finishSearch searchRevalidate
  split <;> rename_i result <;> rw [result] at revalidated
  · exact revalidated
  · rename_i next session
    dsimp only
    split_ifs
    · exact revalidated
    · exact revalidated.trans
        (Change.revises (sessionRevalidate_found result).1
          (quiet_withFind session _)
          (findsAmong_portalObjectsFind next session search.template
            _)).composed
    · exact revalidated.trans
        (Change.revises (sessionRevalidate_found result).1
          (quiet_withFind session _)
          (findsAmong_of_subset (List.nil_subset _))).composed

theorem searchReturns_stretch
    (state : State) (search : Search) (acquired : Bool) :
    Stretch host state (searchReturns state search acquired) :=
  .returns (finishSearch_changes state search acquired)

/-- Without a grant there is no end of a grant to observe. -/
theorem sessionLookup_ungranted
    {state : State} (handle : Nat) (ungranted : state.grant = none) :
    sessionLookup state handle = (state, state.findSession handle) := by
  cases sessions : state.sessions with
  | none => simp [sessionLookup, State.findSession, State.table, sessions]
  | some table => simp [sessionLookup, grantStillGood, ungranted, sessions]

theorem sessionRevalidate_ungranted
    {state : State} (handle : Nat) (lifecycle serial : UInt32)
    (ungranted : state.grant = none) :
    (sessionRevalidate state handle lifecycle serial).1 = state := by
  unfold sessionRevalidate
  rw [sessionLookup_ungranted _ ungranted]
  split_ifs
  · rfl
  · split <;> rename_i looked
    · exact (Prod.mk.inj looked).1.symm
    · rw [← (Prod.mk.inj looked).1]
      split_ifs <;> rfl

theorem sessionRevalidate_of_found
    {state : State} {handle : Nat} {session : PortalSession}
    (ungranted : state.grant = none)
    (lasting : state.finalizing = false)
    (initialized : state.initialized = true)
    (found : state.findSession handle = some session) :
    sessionRevalidate state handle state.lifecycle session.serial =
      (state, some session) := by
  simp [sessionRevalidate, lasting, initialized,
    sessionLookup_ungranted handle ungranted, found]

theorem ensureGrant_stretch
    (state : State) (search : Search) (alone : state.acquiring = false) :
    Stretch host state (ensureGrant host state search) := by
  have observed := grantStillGood_changes host state
  have kept := (Change.composed_acquiring observed).trans alone
  unfold ensureGrant
  split <;> rename_i next result <;> rw [result] at observed kept
  · exact (searchReturns_stretch next search true).after observed
  have revalidated := sessionRevalidate_changes host next
    search.handle search.lifecycle search.serial
  unfold searchRevalidate
  split <;> rename_i result' <;> rw [result'] at revalidated
  · exact (searchReturns_stretch _ search false).after
      (observed.trans revalidated)
  rename_i last session
  split_ifs with unavailable unwanted refusal
  · exact (searchReturns_stretch _ search false).after
      (observed.trans revalidated)
  · exact (searchReturns_stretch _ search false).after
      (observed.trans revalidated)
  · exact (searchReturns_stretch _ search false).after
      (observed.trans revalidated)
  have ungranted := grantStillGood_false result
  rcases sessionRevalidate_found result' with
    ⟨found, serial, lasting, initialized, lifecycle, -⟩
  have unchanged := sessionRevalidate_ungranted search.handle
    search.lifecycle search.serial ungranted
  rw [result'] at unchanged
  subst unchanged
  exact .acquires observed
    { alone := kept
      ungranted
      initialized
      lasting
      lifecycle
      available := by simpa using unavailable
      found
      serial
      wanted := by simpa using unwanted
      unrefused := by simpa using refusal }

/-- A search goes on in a stretch. -/
theorem continueSearch_stretch (state : State) (search : Search) :
    Stretch host state (continueSearch host state search) := by
  unfold continueSearch
  split_ifs with waits late
  · exact .waits .refl
  · exact searchReturns_stretch state search false
  have revalidated := sessionRevalidate_changes host state
    search.handle search.lifecycle search.serial
  unfold searchRevalidate
  split <;> rename_i result <;> rw [result] at revalidated
  · exact (searchReturns_stretch _ search false).after revalidated
  · have alone : state.acquiring = false := by
      cases acquiring : state.acquiring <;> simp_all
    exact (ensureGrant_stretch _ search
      ((Change.composed_acquiring revalidated).trans alone)).after
        revalidated

theorem cFindObjectsInit_stretch
    (state : State) (handle : Nat) (template : CkTemplate) :
    Stretch host state (cFindObjectsInit host state handle template) := by
  have lookup := sessionLookup_changes host state handle
  unfold cFindObjectsInit
  split_ifs
  · exact .returns .refl
  split <;> rename_i result <;> rw [result] at lookup
  · exact .returns lookup
  · split_ifs
    · exact .returns lookup
    · exact (continueSearch_stretch _ _).after lookup

/-! ## Lifecycle and slots -/

theorem cInitialize_changes
    (state : State) (args : Option InitializeArgs) (answers : Answers) :
    Composed (Change host) state (cInitialize state args answers).1 := by
  unfold cInitialize
  split_ifs with before
  · exact .refl
  split
  · exact .refl
  · exact (Change.initializes args answers (by simpa using before)).composed

/-- `C_Finalize` goes on in a stretch. -/
theorem continueFinalize_stretch (state : State) :
    Stretch host state (continueFinalize state) := by
  unfold continueFinalize
  split_ifs with acquiring
  · exact .finalizes .refl
  · exact .finishes .refl (by simpa using acquiring)

theorem cFinalize_stretch (state : State) :
    Stretch host state (cFinalize state) := by
  unfold cFinalize
  split_ifs with before
  · exact .returns .refl
  · exact (continueFinalize_stretch _).after
      (Change.beginsFinalize (by simpa using before)).composed

theorem cWaitForSlotEvent_changes (state : State) :
    Composed (Change host) state (cWaitForSlotEvent state).1 := by
  have observed := grantStillGood_changes host state
  unfold cWaitForSlotEvent
  dsimp only
  split_ifs with pending
  · exact observed.trans (Change.returnsSlotEvent pending).composed
  · exact observed

theorem cOpenSession_changes (state : State) (flags : CkUlong) :
    Composed (Change host) state (cOpenSession host state flags).1 := by
  have observed := grantStillGood_changes host state
  unfold cOpenSession
  split_ifs with late unavailable
  · exact .refl
  · exact .refl
  · have available : portalClientAvailable
        (grantStillGood state).1.client := by
      simpa using unavailable
    exact observed.trans (Change.opens flags available).composed

/-! ## All calls -/

/-- Every call begins with a stretch. -/
theorem lockedBody_stretch
    (state : State) (answers : Answers) (call : Call) :
    Stretch host state (lockedBody host state answers call) := by
  cases call with
  | cInitialize args => exact .reply (cInitialize_changes ..)
  | cFinalize reserved => exact cFinalize_stretch state
  | cGetSlotList slotList count =>
      refine .reply ?_
      unfold cGetSlotList
      split_ifs <;> exact .refl
  | cGetSlotInfo slot info =>
      exact .reply (grantStillGood_changes host state)
  | cGetTokenInfo slot info =>
      refine .reply ?_
      unfold cGetTokenInfo
      split_ifs <;> exact .refl
  | cGetMechanismList slot mechanismList count =>
      refine .reply ?_
      unfold cGetMechanismList
      split
      · exact .refl
      · dsimp only
        split_ifs <;> exact .refl
  | cGetMechanismInfo slot type info =>
      refine .reply ?_
      unfold cGetMechanismInfo
      split
      · exact .refl
      · split
        · exact .refl
        · split_ifs <;> exact .refl
  | cOpenSession slot flags sessionHandle =>
      exact .reply (cOpenSession_changes state flags)
  | cCloseSession session =>
      exact .reply (Change.closes session).composed
  | cCloseAllSessions slot => exact .reply Change.closesAll.composed
  | cGetSessionInfo session info =>
      exact .reply (cGetSessionInfo_changes state session)
  | cLogin session userType =>
      exact .reply (cLogin_changes state session)
  | cLogout session => exact .reply (cLogout_changes state session)
  | cFindObjectsInit session template =>
      exact cFindObjectsInit_stretch state session template
  | cFindObjects session objects maxCount count =>
      exact .reply (cFindObjects_changes ..)
  | cFindObjectsFinal session =>
      exact .reply (cFindObjectsFinal_changes state session)
  | cGetAttributeValue session object template =>
      exact .reply (cGetAttributeValue_changes ..)
  | cSignInit session mechanism key =>
      cases mechanism with
      | none => exact .reply .refl
      | some mechanism => exact .reply (cSignInit_changes ..)
  | cSign session data signature signatureLen =>
      exact .reply (cSign_changes ..)
  | cSignUpdate session part => exact .reply (cSignUpdate_changes ..)
  | cSignFinal session signature signatureLen =>
      exact .reply (cSignFinal_changes ..)
  | cDecryptInit session mechanism key =>
      cases mechanism with
      | none => exact .reply .refl
      | some mechanism => exact .reply (cDecryptInit_changes ..)
  | cDecrypt session ciphertext plaintext plaintextLen =>
      exact .reply (cDecrypt_changes ..)
  | cWaitForSlotEvent flags slot reserved =>
      exact .reply (cWaitForSlotEvent_changes state)

end PortalCertificate.Module.Stretches
