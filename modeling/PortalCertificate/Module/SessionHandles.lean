import PortalCertificate.Module.Retirement

/-!
# Session handles

Applications name sessions by 64-bit handles, which a counter gives out from
one upwards in each initialization.  The session table is keyed through
`GUINT_TO_POINTER`, a cast to `gulong` and then to a pointer, and both have
the width of a handle: the key of a session is its handle.

A call reaches the session that it names and no other.  What it may do to
other sessions is to find or to make the end of the grant, on which all
sessions depend.
-/

namespace PortalCertificate.Module.SessionHandles

open PortalCertificate.Library.Transition
open PortalCertificate.Module.Acquire
open PortalCertificate.Module.Calls
open PortalCertificate.Module.Changes
open PortalCertificate.Module.GrantBinding
open PortalCertificate.Module.Invariants
open PortalCertificate.Module.Lifecycle
open PortalCertificate.Module.Machine
open PortalCertificate.Module.Retirement
open PortalCertificate.Module.Session
open PortalCertificate.Module.SessionCalls
open PortalCertificate.Module.Statics
open PortalCertificate.Module.Stretches
open PortalCertificate.Module.Threads
open PortalCertificate.Pkcs11

/-- `module_next_session++` on a `CK_SESSION_HANDLE`. -/
def handleCounter (host : Host) : Host :=
  { host with nextHandle := fun handle => (handle + 1) % 2 ^ 64 }

variable {host : Host}

/-! ## The grant ends -/

/-- A grant has been dropped in between. -/
def Ended (first second : State) : Prop :=
  ∃ news number gone,
    second.trace = news ++ first.trace ∧ .dropped number gone ∈ news

theorem Ended.before
    {first second third : State} (ended : Ended first second)
    (later : second.trace <:+ third.trace) : Ended first third := by
  rcases ended with ⟨news, number, gone, trace, member⟩
  rcases later with ⟨more, same⟩
  refine ⟨more ++ news, number, gone, ?_, List.mem_append_right _ member⟩
  rw [← same, trace, List.append_assoc]

theorem Ended.after
    {first second third : State} (earlier : first.trace <:+ second.trace)
    (ended : Ended second third) : Ended first third := by
  rcases ended with ⟨news, number, gone, trace, member⟩
  rcases earlier with ⟨more, same⟩
  refine ⟨news ++ more, number, gone, ?_, List.mem_append_left _ member⟩
  rw [trace, ← same, List.append_assoc]

/-! ## Sessions that a call spares -/

/-- Other sessions stay as they are, unless the grant ends. -/
structure Spares (handle : Nat) (first second : State) : Prop where
  trace : first.trace <:+ second.trace
  others : Ended first second ∨
    ∀ session ∈ first.table, session.handle ≠ handle →
      session ∈ second.table

variable {handle : Nat}

theorem Spares.refl (state : State) : Spares handle state state where
  trace := List.suffix_refl _
  others := Or.inr fun _ member _ => member

theorem Spares.trans
    {first second third : State} (spares : Spares handle first second)
    (spares' : Spares handle second third) : Spares handle first third where
  trace := spares.trace.trans spares'.trace
  others := by
    rcases spares.others with ended | kept
    · exact Or.inl (ended.before spares'.trace)
    · rcases spares'.others with ended | kept'
      · exact Or.inl (Ended.after spares.trace ended)
      · exact Or.inr fun session member other =>
          kept' session (kept session member other) other

/-- The table stays as it is. -/
theorem Spares.of_sessions
    {first second : State} (trace : first.trace <:+ second.trace)
    (same : second.sessions = first.sessions) :
    Spares handle first second where
  trace := trace
  others := Or.inr fun session member _ => by
    rwa [State.table, same]

theorem spares_emit (state : State) (event : Event) :
    Spares handle state (state.emit event) :=
  .of_sessions (List.suffix_cons ..) rfl

theorem spares_updateSession
    (state : State) (update : PortalSession → PortalSession) :
    Spares handle state (state.updateSession handle update) where
  trace := List.suffix_refl _
  others := Or.inr fun session member other => by
    rw [table_updateSession]
    exact List.mem_map.mpr ⟨session, member, if_neg other⟩

theorem ended_releaseGrant
    {state : State} {grant : PortalGrant}
    (current : state.grant = some grant) :
    Ended state (releaseGrant state) := by
  refine ⟨dropEvents state ++ releaseEvents state, grant.acquisition,
    portalClientGrantGone state.client grant, ?_, ?_⟩
  · rw [releaseGrant_eq, List.append_assoc]
  · simp [releaseEvents, current]

theorem suffix_removeAllSessions (state : State) :
    state.trace <:+ state.removeAllSessions.trace := by
  cases sessions : state.sessions with
  | none =>
      simp only [State.removeAllSessions, sessions]
      exact List.suffix_cons ..
  | some table =>
      simp only [State.removeAllSessions, sessions]
      exact List.suffix_append ..

theorem ended_retireGrant
    {state : State} {grant : PortalGrant}
    (current : state.grant = some grant) :
    Ended state (retireGrant state grant) :=
  (ended_releaseGrant current).before
    ((suffix_removeAllSessions _).trans (List.suffix_cons ..))

theorem Spares.of_ended
    {first second : State} (ended : Ended first second) :
    Spares handle first second where
  trace := by
    rcases ended with ⟨news, -, -, trace, -⟩
    rw [trace]
    exact List.suffix_append ..
  others := Or.inl ended

theorem spares_grantStillGood (state : State) :
    Spares handle state (grantStillGood state).1 := by
  unfold grantStillGood
  split
  · exact .refl _
  · rename_i grant current
    split_ifs
    · exact .refl _
    · exact .of_ended (ended_retireGrant current)

theorem spares_sessionLookup (state : State) (named : Nat) :
    Spares handle state (sessionLookup state named).1 := by
  unfold sessionLookup
  split
  · exact .refl _
  · exact spares_grantStillGood state

theorem spares_sessionRevalidate
    (state : State) (named : Nat) (lifecycle serial : UInt32) :
    Spares handle state
      (sessionRevalidate state named lifecycle serial).1 := by
  have looked := @spares_sessionLookup handle state named
  unfold sessionRevalidate
  split_ifs
  · exact .refl _
  · split <;> rename_i result <;> rw [result] at looked
    · exact looked
    · split_ifs <;> exact looked

theorem spares_operationSessionLookup (state : State) (named : Nat) :
    Spares handle state (operationSessionLookup state named).1 := by
  apply operationSessionLookup_state
  · exact spares_grantStillGood state
  · intro before looks
    have looked := @spares_sessionLookup handle before named
    cases looks with
    | same => exact looked
    | unlisted sessions => exact (spares_emit state .nullTable).trans looked

theorem spares_withSession
    {state : State} {body : State → PortalSession → State × Reply}
    (spares : ∀ next session,
      sessionLookup state handle = (next, some session) →
      Spares handle next (body next session).1) :
    Spares handle state (withSession state handle body).1 := by
  have looked := @spares_sessionLookup handle state handle
  unfold withSession
  split <;> rename_i result <;> rw [result] at looked
  · exact looked
  · exact looked.trans (spares _ _ result)

theorem spares_withOperationSession
    {state : State} {body : State → PortalSession → State × Reply}
    (spares : ∀ next session, Spares handle next (body next session).1) :
    Spares handle state (withOperationSession state handle body).1 := by
  have looked := @spares_operationSessionLookup handle state handle
  unfold withOperationSession
  split <;> rename_i result <;> rw [result] at looked
  · exact looked
  · exact looked.trans (spares _ _)

/-! ## Calls on one session -/

/-- Without a grant there is nothing to reset. -/
def Idle (state : State) : Prop :=
  state.grant = none →
    ∀ session ∈ state.table, withoutOperations session = session

theorem idle_grantStillGood {state : State} (idle : Idle state) :
    Idle (grantStillGood state).1 := by
  unfold grantStillGood
  split
  · exact idle
  · split_ifs
    · exact idle
    · intro _ session member
      cases sessions : state.sessions <;>
        simp [retireGrant, releaseGrant_eq, State.removeAllSessions,
          State.emit, State.table, sessions] at member

theorem idle_sessionLookup {state : State} (idle : Idle state) (named : Nat) :
    Idle (sessionLookup state named).1 := by
  unfold sessionLookup
  split
  · exact idle
  · exact idle_grantStillGood idle

/-- A release without a grant changes no session. -/
theorem spares_releaseGrant {state : State} (idle : Idle state) :
    Spares handle state (releaseGrant state) := by
  cases current : state.grant with
  | some grant => exact .of_ended (ended_releaseGrant current)
  | none =>
      rw [releaseGrant_eq]
      constructor
      · simp only [← List.append_assoc]
        exact List.suffix_append ..
      · refine Or.inr fun session member _ => ?_
        have same := idle current session member
        cases sessions : state.sessions with
        | none => simp [State.table, sessions] at member
        | some table =>
            have listed : session ∈ table := by
              simpa [State.table, sessions] using member
            exact List.mem_map.mpr ⟨session, listed, same⟩

theorem spares_cLogout {state : State} (idle : Idle state) :
    Spares handle state (cLogout state handle).1 := by
  refine spares_withSession fun next session found => ?_
  have idle' := idle_sessionLookup idle handle
  rw [found] at idle'
  have told : Spares handle next
      { next.emit .loggedOut with loggedIn := false } :=
    .of_sessions (List.suffix_cons ..) rfl
  exact told.trans (spares_releaseGrant idle')

theorem spares_cLogin (state : State) :
    Spares handle state (cLogin state handle).1 := by
  refine spares_withSession fun next session _ => ?_
  split_ifs
  · exact .refl _
  · exact .of_sessions (List.suffix_refl _) rfl

theorem spares_cFindObjects (state : State) (maxCount : Nat) :
    Spares handle state (cFindObjects state handle maxCount).1 := by
  refine spares_withSession fun next session _ => ?_
  split_ifs
  · exact .refl _
  · exact spares_updateSession next _

theorem spares_cFindObjectsFinal (state : State) :
    Spares handle state (cFindObjectsFinal state handle).1 := by
  refine spares_withSession fun next session _ => ?_
  split_ifs
  · exact .refl _
  · exact spares_updateSession next _

theorem spares_cGetAttributeValue
    (state : State) (object : CkUlong) (template : CkTemplate) :
    Spares handle state
      (cGetAttributeValue state handle object template).1 := by
  refine spares_withSession fun next session _ => ?_
  split <;> exact .refl _

theorem spares_cSignInit
    (state : State) (mechanism : CkMechanism) (key : CkUlong)
    (answers : Answers) :
    Spares handle state
      (cSignInit state handle mechanism key answers).1 := by
  refine spares_withSession fun next session _ => ?_
  split_ifs
  · exact .refl _
  split
  · exact .refl _
  · split_ifs
    · exact .refl _
    split
    · exact spares_updateSession next _
    · exact (spares_updateSession next _).trans (spares_emit _ _)

theorem spares_cDecryptInit
    (state : State) (mechanism : CkMechanism) (key : CkUlong) :
    Spares handle state (cDecryptInit state handle mechanism key).1 := by
  refine spares_withSession fun next session _ => ?_
  split_ifs
  · exact .refl _
  split
  · exact .refl _
  · split_ifs
    · exact .refl _
    · exact .refl _
    split
    · exact .refl _
    · exact (spares_updateSession next _).trans (spares_emit _ _)

theorem spares_portalRequest
    (request : OperationRequest) (state : State) (session : PortalSession)
    (portal : Except PortalErrorCode Library.Der.Octets) :
    Spares handle state (portalRequest request state session portal).1 := by
  unfold portalRequest
  split
  · exact .refl _
  · dsimp only
    split_ifs
    · exact spares_emit state _
    · split <;> exact spares_emit state _

theorem spares_signFinish
    (state : State) (session : PortalSession) (answers : Answers)
    (out : Bool) (outLen : Nat) :
    Spares handle state
      (signFinish host state handle session answers out outLen).1 := by
  have performed : Spares handle state
      (signPerform host state session answers).1 := by
    unfold signPerform
    split
    · exact .refl _
    · exact spares_portalRequest ..
  unfold signFinish
  dsimp only
  split_ifs
  · exact .refl _
  · exact .refl _
  split <;> rename_i result <;> rw [result] at performed
  · exact performed.trans (spares_updateSession _ _)
  · split_ifs
    · exact performed.trans (spares_updateSession _ _)
    · exact performed.trans (spares_updateSession _ _)

theorem spares_cSign
    (state : State) (data : CkBuffer) (signature : Bool)
    (signatureLen : Nat) (answers : Answers) :
    Spares handle state
      (cSign host state handle data signature signatureLen answers).1 := by
  refine spares_withOperationSession fun next session => ?_
  dsimp only
  split_ifs
  · exact .refl _
  · exact .refl _
  · exact .refl _
  split
  · exact spares_updateSession next _
  · exact (spares_updateSession next _).trans (spares_signFinish ..)

theorem spares_cSignUpdate
    (state : State) (part : CkBuffer) (answers : Answers) :
    Spares handle state (cSignUpdate state handle part answers).1 := by
  refine spares_withOperationSession fun next session => ?_
  split_ifs
  · exact .refl _
  split
  · exact spares_updateSession next _
  · exact spares_updateSession next _

theorem spares_cSignFinal
    (state : State) (signature : Bool) (signatureLen : Nat)
    (answers : Answers) :
    Spares handle state
      (cSignFinal host state handle signature signatureLen answers).1 := by
  refine spares_withOperationSession fun next session => ?_
  split_ifs
  · exact .refl _
  · exact spares_signFinish ..

theorem spares_cDecrypt
    (state : State) (ciphertext : CkBuffer) (plaintext : Bool)
    (plaintextLen : Nat) (answers : Answers) :
    Spares handle state
      (cDecrypt state handle ciphertext plaintext plaintextLen
        answers).1 := by
  refine spares_withOperationSession fun next session => ?_
  split_ifs
  · exact .refl _
  · exact .refl _
  split
  · exact spares_updateSession next _
  rename_i data
  have requested := @spares_portalRequest handle
    (.decrypt (decryptRequest session.decrypt data)) next session
    answers.portal
  split <;> rename_i result <;> rw [result] at requested
  · exact requested.trans (spares_updateSession _ _)
  · split_ifs
    · exact requested
    · exact requested.trans (spares_updateSession _ _)

theorem spares_cCloseSession (state : State) :
    Spares handle state (cCloseSession state handle).1 := by
  cases sessions : state.sessions with
  | none =>
      rw [cCloseSession_destroyed sessions]
      exact spares_emit state .nullTable
  | some table =>
      rw [cCloseSession_eq sessions]
      constructor
      · exact List.suffix_append ..
      · refine Or.inr fun session member other => ?_
        have listed : session ∈ table := by
          simpa [State.table, sessions] using member
        exact List.mem_filter.mpr ⟨listed, by simpa using other⟩

/-! ## Searches -/

theorem spares_finishSearch
    (state : State) (search : Search) (acquired : Bool) :
    Spares search.handle state
      (finishSearch state search acquired).1 := by
  have revalidated := @spares_sessionRevalidate search.handle state
    search.handle search.lifecycle search.serial
  unfold finishSearch searchRevalidate
  split <;> rename_i result <;> rw [result] at revalidated
  · exact revalidated
  · dsimp only
    split_ifs
    · exact revalidated
    · exact revalidated.trans (spares_updateSession _ _)
    · exact revalidated.trans (spares_updateSession _ _)

theorem spares_ensureGrant (state : State) (search : Search) :
    Spares search.handle state (ensureGrant host state search).1 := by
  have good := @spares_grantStillGood search.handle state
  unfold ensureGrant searchReturns
  split <;> rename_i result <;> rw [result] at good
  · exact good.trans (spares_finishSearch ..)
  · rename_i next
    have revalidated := @spares_sessionRevalidate search.handle next
      search.handle search.lifecycle search.serial
    unfold searchRevalidate
    split <;> rename_i result' <;> rw [result'] at revalidated
    · exact good.trans (revalidated.trans (spares_finishSearch ..))
    · have reached := good.trans revalidated
      split_ifs
      · exact reached.trans (spares_finishSearch ..)
      · exact reached.trans (spares_finishSearch ..)
      · exact reached.trans (spares_finishSearch ..)
      · exact reached.trans (.of_sessions (List.suffix_cons ..) rfl)

theorem spares_continueSearch (state : State) (search : Search) :
    Spares search.handle state (continueSearch host state search).1 := by
  have revalidated := @spares_sessionRevalidate search.handle state
    search.handle search.lifecycle search.serial
  unfold continueSearch searchReturns searchRevalidate
  split_ifs
  · exact .refl _
  · exact spares_finishSearch ..
  · split <;> rename_i result <;> rw [result] at revalidated
    · exact revalidated.trans (spares_finishSearch ..)
    · exact revalidated.trans (spares_ensureGrant ..)

theorem spares_cFindObjectsInit (state : State) (template : CkTemplate) :
    Spares handle state
      (cFindObjectsInit host state handle template).1 := by
  have looked := @spares_sessionLookup handle state handle
  unfold cFindObjectsInit
  split_ifs
  · exact .refl _
  · split <;> rename_i result <;> rw [result] at looked
    · exact looked
    · split_ifs
      · exact looked
      · rename_i next session _
        let search : Search :=
          { handle
            template
            lifecycle := next.lifecycle
            serial := session.serial }
        exact looked.trans (spares_continueSearch next search)

theorem spares_installGrant (state : State) (grant : PortalGrant) :
    Spares handle state (installGrant host state grant).1 := by
  have set : Spares handle state (setGrant state grant) :=
    .of_sessions (List.suffix_cons ..) rfl
  unfold installGrant
  dsimp only
  split
  · exact set.trans (.of_ended (ended_releaseGrant rfl))
  · rename_i objects created
    have presented : Spares handle state
        { setGrant state grant with objects := some objects } :=
      .of_sessions set.trace rfl
    unfold issueIdentifier
    split
    · exact presented.trans (spares_emit _ _)
    · exact .of_sessions set.trace rfl

theorem spares_releaseAcquired
    (state : State) (acquisition : Acquisition) :
    Spares handle state (releaseAcquired state acquisition) := by
  unfold releaseAcquired
  split_ifs
  · exact spares_emit state _
  · exact .refl _

theorem spares_acceptGrant
    (state : State) (acquisition : Acquisition) (grant : PortalGrant) :
    Spares handle state (acceptGrant host state acquisition grant).1 := by
  have revalidated := @spares_sessionRevalidate handle state
    acquisition.search.handle acquisition.search.lifecycle
    acquisition.search.serial
  unfold acceptGrant searchRevalidate
  split_ifs
  · exact spares_releaseAcquired ..
  · split <;> rename_i result <;> rw [result] at revalidated
    · exact revalidated.trans (spares_releaseAcquired ..)
    · split_ifs
      · exact revalidated.trans ((spares_releaseAcquired ..).trans
          (spares_grantStillGood _))
      · exact revalidated.trans (spares_installGrant ..)

theorem spares_afterAcquire
    (state : State) (acquisition : Acquisition)
    (result : Except PortalErrorCode PortalGrant) :
    Spares acquisition.search.handle state
      (afterAcquire host state acquisition result).1 := by
  have ended (granted : Bool) : Spares acquisition.search.handle state
      (endAcquire state acquisition granted) :=
    .of_sessions (List.suffix_cons ..) rfl
  cases result with
  | error code =>
      refine Spares.trans ?_ (spares_finishSearch ..)
      unfold noteRefusal
      split_ifs
      · exact .of_sessions (List.suffix_cons ..) rfl
      · exact ended false
  | ok grant =>
      exact ((ended true).trans (spares_acceptGrant ..)).trans
        (spares_finishSearch ..)

/-! ## Steps -/

/-- A session call spares every session but its own. -/
theorem spares_lockedBody
    {state : State} (idle : Idle state) {call : Call}
    (names : call.session? = some handle)
    (checked : call.argumentCheck = none) (answers : Answers) :
    Spares handle state (lockedBody host state answers call).1 := by
  cases call with
  | cInitialize | cFinalize | cGetSlotList | cGetSlotInfo | cGetTokenInfo
  | cGetMechanismList | cGetMechanismInfo | cOpenSession
  | cCloseAllSessions | cWaitForSlotEvent => cases names
  | cCloseSession other =>
      cases Option.some.inj names
      exact spares_cCloseSession state
  | cGetSessionInfo other info =>
      cases Option.some.inj names
      exact spares_withSession fun _ _ _ => .refl _
  | cLogin other userType =>
      cases Option.some.inj names
      exact spares_cLogin state
  | cLogout other =>
      cases Option.some.inj names
      exact spares_cLogout idle
  | cFindObjectsInit other template =>
      cases Option.some.inj names
      exact spares_cFindObjectsInit state template
  | cFindObjects other objects maxCount count =>
      cases Option.some.inj names
      exact spares_cFindObjects state maxCount
  | cFindObjectsFinal other =>
      cases Option.some.inj names
      exact spares_cFindObjectsFinal state
  | cGetAttributeValue other object template =>
      cases Option.some.inj names
      exact spares_cGetAttributeValue state object template
  | cSignInit other mechanism key =>
      cases Option.some.inj names
      cases mechanism with
      | none => cases checked
      | some mechanism => exact spares_cSignInit state mechanism key answers
  | cSign other data signature signatureLen =>
      cases Option.some.inj names
      exact spares_cSign ..
  | cSignUpdate other part =>
      cases Option.some.inj names
      exact spares_cSignUpdate state part answers
  | cSignFinal other signature signatureLen =>
      cases Option.some.inj names
      exact spares_cSignFinal ..
  | cDecryptInit other mechanism key =>
      cases Option.some.inj names
      cases mechanism with
      | none => cases checked
      | some mechanism => exact spares_cDecryptInit state mechanism key
  | cDecrypt other ciphertext plaintext plaintextLen =>
      cases Option.some.inj names
      exact spares_cDecrypt ..

theorem spares_of_step
    {world next : World} {action : Action} {thread : Nat} {call : Call}
    (reachable : (machine host).Reachable world) (idle : Idle world.state)
    (resumes : resumed action = some thread)
    (pending : (world.threads thread).call = some call)
    (names : call.session? = some handle)
    (moves : (machine host).step world action = some next) :
    Spares handle world.state next.state := by
  have defined : definedStep host world action = some next := by
    simp only [machine, step] at moves
    split_ifs at moves
    exact moves
  cases action with
  | enter | environment => cases resumes
  | run other answers =>
      cases Option.some.inj resumes
      simp only [definedStep] at defined
      split at defined
      · rename_i entered
        rw [entered] at pending
        cases Option.some.inj pending
        rw [← Option.some.inj defined]
        exact spares_lockedBody idle names
          (argumentCheck_of_entered reachable entered) answers
      · cases defined
  | wake other =>
      cases Option.some.inj resumes
      simp only [definedStep] at defined
      split at defined
      · rename_i search waiting
        rw [waiting] at pending
        cases Option.some.inj pending
        cases Option.some.inj names
        rw [← Option.some.inj defined]
        exact spares_continueSearch ..
      · rename_i finalizing
        rw [finalizing] at pending
        cases Option.some.inj pending
        cases names
      · cases defined
  | acquired other result =>
      cases Option.some.inj resumes
      simp only [definedStep] at defined
      split at defined
      · rename_i acquisition flying
        rw [flying] at pending
        cases Option.some.inj pending
        cases Option.some.inj names
        rw [← Option.some.inj defined]
        exact spares_afterAcquire ..
      · cases defined

/-! ## Tidy sessions -/

/-- All sessions are tidy. -/
def AllTidy (state : State) : Prop :=
  ∀ session ∈ state.table, Tidy session

theorem tidy_withoutOperations (session : PortalSession) :
    Tidy (withoutOperations session) :=
  ⟨fun _ => rfl, fun _ => rfl⟩

theorem allTidy_of_subset
    {first second : State} (tidy : AllTidy first)
    (table : second.table ⊆ first.table) : AllTidy second :=
  fun session member => tidy session (table member)

theorem allTidy_releaseGrant (state : State) :
    AllTidy (releaseGrant state) := by
  intro session member
  rw [releaseGrant_eq] at member
  cases sessions : state.sessions with
  | none => simp [State.table, sessions] at member
  | some table =>
      simp only [State.table, sessions, Option.map_some, Option.getD_some,
        List.mem_map] at member
      rcases member with ⟨old, -, rfl⟩
      exact tidy_withoutOperations old

theorem allTidy_nil {state : State} (empty : state.table = []) :
    AllTidy state := by
  intro session member
  rw [empty] at member
  cases member

theorem Change.allTidy
    {first second : State} (wellFormed : WellFormed first)
    (tidy : AllTidy first) (change : Change host first second) :
    AllTidy second := by
  cases change with
  | retires current ended =>
      exact allTidy_nil (table_removeAllSessions _)
  | revises found quiet finds =>
      intro session member
      rcases wellFormed.mem_updateSession found member with
        rfl | ⟨inTable, -⟩
      · exact quiet.tidy (tidy _ (findSession_mem found).1)
      · exact tidy session inTable
  | starts found starts current =>
      intro session member
      rcases wellFormed.mem_updateSession found member with
        rfl | ⟨inTable, -⟩
      · exact starts.tidy (tidy _ (findSession_mem found).1)
      · exact tidy session inTable
  | logsOut member => exact allTidy_releaseGrant _
  | closesAll => exact allTidy_releaseGrant _
  | closes handle =>
      cases sessions : first.sessions with
      | none =>
          rw [cCloseSession_destroyed sessions]
          exact tidy
      | some table =>
          rw [cCloseSession_eq sessions]
          refine allTidy_of_subset tidy ?_
          simp [State.table, sessions]
  | opens flags available =>
      rcases (wellFormed.opened
        (wellFormed.initialized_of_available available)).sessions with
        ⟨table, tables⟩
      rw [addSession_eq tables]
      intro session member
      rcases List.mem_cons.mp member with rfl | member
      · exact ⟨fun _ => rfl, fun _ => rfl⟩
      · refine tidy session ?_
        rw [State.table, tables]
        exact List.mem_of_mem_filter member
  | initializes args answers before => exact allTidy_nil rfl
  | requests | logsIn | returnsSlotEvent | beginsFinalize | touchesNull
  | environment => exact tidy

theorem allTidy_lands
    {state middle : State} {acquisition : Acquisition}
    (tidy : AllTidy state)
    (lands : Lands host state acquisition middle) : AllTidy middle := by
  cases lands with
  | refused code =>
      unfold noteRefusal
      split_ifs <;> exact tidy
  | discarded =>
      unfold releaseAcquired
      split_ifs <;> exact tidy
  | installed wanted created =>
      unfold issueIdentifier
      split <;> exact tidy
  | rejected grant wanted => exact allTidy_releaseGrant _

theorem allTidy_rule :
    Rule host (fun _ _ => True) AllTidy AllTidy (fun _ _ => True) where
  start := allTidy_nil rfl
  enter := fun _ _ tidy _ => tidy
  change := fun _ _ wellFormed tidy change =>
    Change.allTidy wellFormed tidy change
  finishes := by
    intro state _ _ _
    rw [finishFinalize_eq]
    exact allTidy_nil rfl
  begins := by
    intro state search session next acquisition _ tidy _ begins
    rcases Prod.mk.inj begins with ⟨rfl, -⟩
    exact ⟨tidy, trivial⟩
  flies := fun _ _ _ _ _ _ _ => trivial
  lands := fun _ _ _ _ _ tidy _ _ lands => allTidy_lands tidy lands
  leave := fun _ _ tidy => tidy

/-- Without a grant no operation is active, and the rest is reset. -/
theorem idle_of_reachable
    {world : World} (reachable : (machine host).Reachable world) :
    Idle world.state := by
  intro ungranted session member
  have bound := (operationsBound_rule.holds reachable).rest
  have inactive := bound.inactive ungranted member
  have tidy := (allTidy_rule.holds reachable).rest session member
  have sign := tidy.sign (inactive .sign)
  have decrypt := tidy.decrypt (inactive .decrypt)
  rw [withoutOperations, sessionResetDecrypt, sessionResetSign, ← sign,
    ← decrypt]

/-! ## Handles are given out in order -/

/-- The event is the opening of a session. -/
def isOpened : Event → Bool
  | .sessionOpened _ _ => true
  | _ => false

/-- How many sessions this initialization has opened. -/
def opened (trace : List Event) : Nat :=
  (lifecycle trace).countP isOpened

/-- Events that neither open a session nor begin an initialization. -/
structure Calm (event : Event) : Prop where
  initialized : event ≠ .initialized
  opened : isOpened event = false

theorem calm_of_inert {event : Event} (inert : Inert event) : Calm event where
  initialized := inert.ne_initialized
  opened := by
    cases event with
    | sessionOpened => exact inert.elim
    | _ => rfl

theorem lifecycle_calm
    {news : List Event} (calm : ∀ event ∈ news, Calm event)
    (trace : List Event) :
    lifecycle (news ++ trace) = news ++ lifecycle trace := by
  rw [lifecycle, List.takeWhile_append_of_pos]
  · rfl
  · intro event member
    simpa using (calm event member).initialized

theorem opened_calm
    {news : List Event} (calm : ∀ event ∈ news, Calm event)
    (trace : List Event) : opened (news ++ trace) = opened trace := by
  have none : news.countP isOpened = 0 := by
    rw [List.countP_eq_zero]
    intro event member
    simp [(calm event member).opened]
  rw [opened, lifecycle_calm calm, List.countP_append, none, Nat.zero_add]
  rfl

theorem opened_sessionOpened (birth handle : Nat) (trace : List Event) :
    opened (.sessionOpened birth handle :: trace) = opened trace + 1 := by
  rw [opened, lifecycle_cons Event.noConfusion, List.countP_cons_of_pos rfl]
  rfl

/-- The handles of an initialization. -/
structure Handed (state : State) : Prop where
  begun : state.initialized = true → .initialized ∈ state.trace
  next : .initialized ∈ state.trace →
    state.nextSession = (opened state.trace + 1) % 2 ^ 64
  handles : ∀ birth handle,
    .sessionOpened birth handle ∈ lifecycle state.trace →
    ∃ index < opened state.trace, handle = (index + 1) % 2 ^ 64
  table : ∀ entry ∈ identities state,
    .sessionOpened entry.birth entry.handle ∈ lifecycle state.trace

theorem Handed.calmly
    {first second : State} (handed : Handed first) (news : List Event)
    (begun : second.initialized = true → .initialized ∈ second.trace)
    (calm : ∀ event ∈ news, Calm event)
    (trace : second.trace = news ++ first.trace)
    (table : identities second ⊆ identities first)
    (nextSession : second.nextSession = first.nextSession) :
    Handed second := by
  have older {birth handle : Nat}
      (member : .sessionOpened birth handle ∈
        news ++ lifecycle first.trace) :
      .sessionOpened birth handle ∈ lifecycle first.trace := by
    rcases List.mem_append.mp member with new | old
    · cases (calm _ new).opened
    · exact old
  constructor
  · exact begun
  · intro member
    rw [trace] at member
    have before : .initialized ∈ first.trace := by
      rcases List.mem_append.mp member with new | old
      · exact absurd rfl (calm _ new).initialized
      · exact old
    rw [nextSession, trace, opened_calm calm]
    exact handed.next before
  · intro birth handle member
    rw [trace, lifecycle_calm calm] at member
    rw [trace, opened_calm calm]
    exact handed.handles birth handle (older member)
  · intro entry member
    rw [trace, lifecycle_calm calm]
    exact List.mem_append_right _ (handed.table entry (table member))

/-- Handles stay as handed out through a turn. -/
theorem Handed.turned
    {first second : State} (handed : Handed first)
    (begun : second.initialized = true → .initialized ∈ second.trace)
    (turn : Turn (handleCounter host) first second) : Handed second := by
  cases turn with
  | keeps news inert trace table nextSession slotEvents =>
      exact handed.calmly news begun
        (fun event member => calm_of_inert (inert event member)) trace
        table nextSession
  | retires acquisition news inert trace empty nextSession slotEvents =>
      refine handed.calmly (.retired acquisition :: news) begun ?_
        trace ?_ nextSession
      · intro event member
        rcases List.mem_cons.mp member with rfl | member
        · exact ⟨Event.noConfusion, rfl⟩
        · exact calm_of_inert (inert event member)
      · rw [empty]
        exact List.nil_subset _
  | returns trace same nextSession pending slotEvents =>
      refine handed.calmly [.slotEventReturned] begun ?_ trace ?_
        nextSession
      · intro event member
        rw [List.mem_singleton.mp member]
        exact ⟨Event.noConfusion, rfl⟩
      · rw [same]
        exact List.Subset.refl _
  | opens birth news inert trace table nextSession slotEvents
      initialized =>
      have calm : ∀ event ∈ news, Calm event :=
        fun event member => calm_of_inert (inert event member)
      have here := handed.next (handed.begun initialized)
      have whole : lifecycle second.trace = news ++
          .sessionOpened birth first.nextSession ::
            lifecycle first.trace := by
        rw [trace, lifecycle_calm calm, lifecycle_cons Event.noConfusion]
      have counted : opened second.trace = opened first.trace + 1 := by
        rw [trace, opened_calm calm, opened_sessionOpened]
      constructor
      · exact begun
      · intro _
        rw [nextSession, counted]
        show (first.nextSession + 1) % 2 ^ 64 = _
        rw [here]
        omega
      · intro other handle member
        rw [whole] at member
        rw [counted]
        rcases List.mem_append.mp member with new | old
        · cases (calm _ new).opened
        · rcases List.mem_cons.mp old with same | old
          · cases same
            exact ⟨opened first.trace, Nat.lt_succ_self _, here⟩
          · rcases handed.handles other handle old with
              ⟨index, below, same⟩
            exact ⟨index, Nat.lt_succ_of_lt below, same⟩
      · intro entry member
        rw [whole]
        apply List.mem_append_right
        rcases table entry member with ⟨rfl, same⟩ | older
        · rw [same]
          exact List.mem_cons_self ..
        · exact List.mem_cons_of_mem _ (handed.table entry older)
  | restarts trace empty nextSession slotEvents =>
      constructor
      · exact begun
      · intro _
        rw [nextSession, trace, opened, lifecycle_initialized]
        rfl
      · intro birth handle member
        rw [trace, lifecycle_initialized] at member
        cases member
      · intro entry member
        rw [empty] at member
        cases member

theorem Turn.suffix
    {first second : State} (turn : Turn host first second) :
    first.trace <:+ second.trace := by
  cases turn with
  | keeps news inert trace =>
      rw [trace]
      exact List.suffix_append ..
  | retires acquisition news inert trace =>
      rw [trace]
      exact (List.suffix_append ..).trans (List.suffix_cons ..)
  | opens birth news inert trace =>
      rw [trace]
      exact (List.suffix_cons ..).trans (List.suffix_append ..)
  | returns trace =>
      rw [trace]
      exact List.suffix_cons ..
  | restarts trace =>
      rw [trace]
      exact List.suffix_cons ..

/-- Only `C_Initialize` sets this flag. -/
theorem Change.initialized
    {first second : State} (change : Change host first second) :
    second.initialized = first.initialized ∨
      .initialized ∈ second.trace := by
  cases change with
  | retires current ended =>
      refine Or.inl ?_
      cases sessions : first.sessions <;>
        simp [retireGrant, releaseGrant_eq, State.removeAllSessions,
          State.emit, sessions]
  | logsOut member =>
      refine Or.inl ?_
      simp [releaseGrant_eq, State.emit]
  | closesAll =>
      refine Or.inl ?_
      cases sessions : first.sessions <;>
        simp [cCloseAllSessions, releaseGrant_eq, State.removeAllSessions,
          State.emit, sessions]
  | closes handle =>
      refine Or.inl ?_
      cases sessions : first.sessions with
      | none => rw [cCloseSession_destroyed sessions]; rfl
      | some table => rw [cCloseSession_eq sessions]
  | opens flags available =>
      refine Or.inl ?_
      cases sessions : first.sessions <;>
        simp [addSession, State.insertSession, State.removeSession,
          State.emit, sessions]
  | initializes args answers before =>
      exact Or.inr (List.mem_cons_self ..)
  | revises | starts | requests | logsIn | returnsSlotEvent
  | beginsFinalize | touchesNull | environment => exact Or.inl rfl

theorem Handed.changed
    {first second : State} (wellFormed : WellFormed first)
    (handed : Handed first)
    (change : Change (handleCounter host) first second) :
    Handed second := by
  have turn := Change.turn wellFormed change
  refine handed.turned ?_ turn
  intro initialized
  rcases Change.initialized change with same | begun
  · exact (Turn.suffix turn).subset
      (handed.begun (same.symm.trans initialized))
  · exact begun

theorem initialized_of_lands
    {state middle : State} {acquisition : Acquisition}
    (lands : Lands host state acquisition middle) :
    middle.initialized = state.initialized := by
  cases lands with
  | refused code =>
      unfold noteRefusal
      split_ifs <;> rfl
  | discarded =>
      unfold releaseAcquired
      split_ifs <;> rfl
  | installed wanted created =>
      unfold issueIdentifier
      split <;> rfl
  | rejected grant wanted =>
      rw [releaseGrant_eq]
      rfl

theorem handed_rule :
    Rule (handleCounter host) (fun _ _ => True) Handed Handed
      (fun _ _ => True) where
  start :=
    { begun := fun initialized => nomatch initialized
      next := fun member => nomatch member
      handles := fun _ _ member => nomatch member
      table := fun _ member => nomatch member }
  enter := fun _ _ handed _ => handed
  change := fun _ _ wellFormed handed change =>
    handed.changed wellFormed change
  finishes := by
    intro state _ handed _
    have turn : Turn (handleCounter host) state (finishFinalize state).1 :=
      turn_finishFinalize state
    refine handed.turned ?_ turn
    intro initialized
    rw [finishFinalize_eq] at initialized
    cases initialized
  begins := by
    intro state search session next acquisition _ handed _ begins
    rcases Prod.mk.inj begins with ⟨rfl, -⟩
    have turn : Turn (handleCounter host) state
        (beginAcquire state search session).1 :=
      turn_emits rfl trivial rfl rfl rfl
    refine ⟨handed.turned ?_ turn, trivial⟩
    exact fun initialized =>
      List.mem_cons_of_mem _ (handed.begun initialized)
  flies := fun _ _ _ _ _ _ _ => trivial
  lands := by
    intro state acquisition middle _ _ handed _ _ lands
    have turn := turn_of_lands lands
    refine handed.turned ?_ turn
    intro initialized
    rw [initialized_of_lands lands] at initialized
    exact (Turn.suffix turn).subset (handed.begun initialized)
  leave := fun _ _ handed => handed

/-! ## Isolation -/

/--
A `C_OpenSession` of this initialization has returned the handle, and its
session has not ended.
-/
def Live (state : State) (handle : Nat) : Prop :=
  ∃ birth, .sessionOpened birth handle ∈ lifecycle state.trace ∧
    .sessionEnded birth ∉ state.trace

theorem live_of_mem
    {state : State} (wellFormed : WellFormed state) (handed : Handed state)
    {session : PortalSession} (member : session ∈ state.table) :
    Live state session.handle := by
  have identified := mem_identities member
  refine ⟨session.birth, handed.table _ identified, fun ended => ?_⟩
  exact (wellFormed.ended _ ended).2 _ identified rfl

theorem absent_of_not_live
    {state : State} (wellFormed : WellFormed state) (handed : Handed state)
    {handle : Nat} (dead : ¬Live state handle) :
    state.findSession handle = none := by
  by_contra found
  rw [← ne_eq, Option.ne_none_iff_exists'] at found
  rcases found with ⟨session, found⟩
  rcases findSession_mem found with ⟨member, rfl⟩
  exact dead (live_of_mem wellFormed handed member)

/-- How a call on a session that is not open is answered. -/
inductive Refused
    (world next : World) (thread : Nat) (call : Call) : Prop where
  | invalid
      (told : next.threads thread =
        .returned call (answer .sessionHandleInvalid))
  /-- A search that waits for another acquisition waits on. -/
  | waits (acquiring : world.state.acquiring = true)
      (still : next.threads thread = world.threads thread)
  /-- A search that starts while `C_Finalize` waits. -/
  | finalizing (template : CkTemplate) (handle : Nat)
      (late : world.state.finalizing = true)
      (searches : call = .cFindObjectsInit handle template)
      (told : next.threads thread =
        .returned call (answer .cryptokiNotInitialized))

theorem refused_of_step
    {world next : World} {action : Action} {thread handle : Nat}
    {call : Call} (reachable : (machine host).Reachable world)
    (resumes : resumed action = some thread)
    (pending : (world.threads thread).call = some call)
    (names : call.session? = some handle)
    (absent : world.state.findSession handle = none)
    (moves : (machine host).step world action = some next) :
    Refused world next thread call := by
  by_cases late : ∃ template, world.threads thread =
      .entered (.cFindObjectsInit handle template) ∧
        world.state.finalizing = true
  · rcases late with ⟨template, entered, finalizing⟩
    rw [entered] at pending
    cases Option.some.inj pending
    refine .finalizing template handle finalizing rfl ?_
    cases action with
    | enter | environment => cases resumes
    | run other answers =>
        cases Option.some.inj resumes
        simp only [machine, step] at moves
        split_ifs at moves
        simp only [definedStep, entered] at moves
        rw [← Option.some.inj moves, after_threads_self]
        simp [lockedBody, cFindObjectsInit, finalizing, Progress.pc]
    | wake other =>
        cases Option.some.inj resumes
        simp only [machine, step] at moves
        split_ifs at moves
        simp only [definedStep, entered] at moves
        cases moves
    | acquired other result =>
        cases Option.some.inj resumes
        simp only [machine, step] at moves
        split_ifs at moves
        simp only [definedStep, entered] at moves
        cases moves
  · have lasting : ∀ template, world.threads thread =
        .entered (.cFindObjectsInit handle template) →
          world.state.finalizing = false := by
      intro template entered
      by_contra finalizing
      exact late ⟨template, entered, by simpa using finalizing⟩
    rcases told_invalid reachable resumes pending names absent lasting
      moves with told | ⟨acquiring, still⟩
    · exact .invalid told
    · exact .waits acquiring still

/-- What is promised of session handles whenever the lock is free. -/
structure Isolated (host : Host) (world : World) : Prop where
  /-- A handle that is not live reaches no session. -/
  refused : ∀ action thread call handle next,
    resumed action = some thread →
    (world.threads thread).call = some call →
    call.session? = some handle →
    ¬Live world.state handle →
    (machine host).step world action = some next →
      Refused world next thread call ∧
        (Ended world.state next.state ∨
          world.state.table ⊆ next.state.table)
  /-- A call changes no session but its own, unless the grant ends. -/
  spares : ∀ action thread call handle next,
    resumed action = some thread →
    (world.threads thread).call = some call →
    call.session? = some handle →
    (machine host).step world action = some next →
      Spares handle world.state next.state
  /-- A new handle is none that this initialization has returned. -/
  opens : ∀ answers thread slot flags given handle next,
    world.threads thread = .entered (.cOpenSession slot flags given) →
    (machine host).step world (.run thread answers) = some next →
    next.threads thread =
      .returned (.cOpenSession slot flags given) ⟨.ok, .session handle⟩ →
    opened next.state.trace < 2 ^ 64 →
      handle ≠ 0 ∧ ¬HandleOpened handle (lifecycle world.state.trace) ∧
        Live next.state handle ∧
        (Ended world.state next.state ∨
          world.state.table ⊆ next.state.table)

/-! ## Opening a session -/

theorem spares_addSession (state : State) (session : PortalSession) :
    Spares session.handle state (addSession host state session) := by
  cases sessions : state.sessions with
  | none =>
      refine .of_sessions ?_ ?_
      · simp only [addSession, State.insertSession, State.removeSession,
          State.emit, sessions]
        exact (List.suffix_cons ..).trans (List.suffix_cons ..)
      · simp [addSession, State.insertSession, State.removeSession,
          State.emit, sessions]
  | some table =>
      rw [addSession_eq sessions]
      constructor
      · exact (List.suffix_cons ..).trans (List.suffix_append ..)
      · refine Or.inr fun other member different => ?_
        have listed : other ∈ table := by
          simpa [State.table, sessions] using member
        exact List.mem_cons_of_mem _
          (List.mem_filter.mpr ⟨listed, by simpa using different⟩)

/-- The grant's end leaves the counter as it is. -/
theorem nextSession_grantStillGood (state : State) :
    (grantStillGood state).1.nextSession = state.nextSession := by
  unfold grantStillGood
  split
  · rfl
  · split_ifs
    · rfl
    · cases sessions : state.sessions <;>
        simp [retireGrant, releaseGrant_eq, State.removeAllSessions,
          State.emit, sessions]

/-- Finding the end of the grant opens no session. -/
theorem calm_grantStillGood {state : State} (wellFormed : WellFormed state) :
    ∃ news, (∀ event ∈ news, Calm event) ∧
      (grantStillGood state).1.trace = news ++ state.trace := by
  unfold grantStillGood
  split
  · exact ⟨[], by simp, rfl⟩
  · rename_i grant current
    split_ifs
    · exact ⟨[], by simp, rfl⟩
    · rcases (wellFormed.opened
        (wellFormed.initialized_of_grant current)).sessions with
        ⟨table, tables⟩
      rw [retireGrant_eq tables]
      refine ⟨.retired grant.acquisition ::
        (endEvents table ++ releaseEvents state), ?_, by simp⟩
      intro event member
      rcases List.mem_cons.mp member with rfl | member
      · exact ⟨Event.noConfusion, rfl⟩
      · exact calm_of_inert (inert_append (inert_endEvents table)
          (inert_releaseEvents state) event member)

/-- What `C_OpenSession` has done when it succeeds. -/
structure Opens
    (handle : Nat) (state next : State) : Prop where
  initialized : state.initialized = true
  counter : handle = state.nextSession
  counted : opened next.trace = opened state.trace + 1
  present : ∃ session ∈ next.table, session.handle = handle
  spares : Spares handle state next

theorem opens_of_returned
    {state : State} {flags : CkUlong} (wellFormed : WellFormed state)
    (returned : (cOpenSession host state flags).2 =
      ⟨.ok, .session handle⟩) :
    Opens handle state (cOpenSession host state flags).1 := by
  unfold cOpenSession at returned ⊢
  split_ifs at returned ⊢ with late unavailable
  · cases returned
  · cases returned
  have available : portalClientAvailable state.client = true := by
    simpa using unavailable
  have initialized := wellFormed.initialized_of_available available
  have same : handle = state.nextSession := by
    have shown := Output.session.inj (Reply.mk.inj returned).2
    exact shown.symm.trans (nextSession_grantStillGood state)
  rcases calm_grantStillGood wellFormed with ⟨news, calm, trace⟩
  have formed := (always_rule.changes (grantStillGood_changes host state)
    wellFormed trivial).1
  have available' :
      portalClientAvailable (grantStillGood state).1.client = true := by
    rwa [grantStillGood_client]
  rcases (formed.opened
    (formed.initialized_of_available available')).sessions with
    ⟨table, tables⟩
  have added := @addSession_eq host _ _ tables
    (newSession (grantStillGood state).1 flags)
  have named : (newSession (grantStillGood state).1 flags).handle =
      handle :=
    (nextSession_grantStillGood state).trans same.symm
  have spares := @spares_addSession host (grantStillGood state).1
    (newSession (grantStillGood state).1 flags)
  rw [named] at spares
  refine ⟨initialized, same, ?_, ?_,
    (spares_grantStillGood state).trans spares⟩
  · dsimp only
    rw [added]
    dsimp only
    rw [opened_calm, opened_sessionOpened, trace, opened_calm calm]
    intro event member
    exact calm_of_inert (inert_endEvents _ event member)
  · dsimp only
    rw [added]
    exact ⟨_, List.mem_cons_self .., named⟩

/-- The counter has not come to a handle that was returned before. -/
theorem Handed.fresh
    {state next : State} (handed : Handed state)
    (opens : Opens handle state next)
    (few : opened next.trace < 2 ^ 64) :
    handle ≠ 0 ∧ ¬HandleOpened handle (lifecycle state.trace) := by
  have counter := handed.next (handed.begun opens.initialized)
  rw [opens.counted] at few
  rw [← opens.counter, Nat.mod_eq_of_lt few] at counter
  constructor
  · omega
  · rintro ⟨birth, member⟩
    rcases handed.handles birth handle member with ⟨index, below, same⟩
    rw [Nat.mod_eq_of_lt (by omega)] at same
    omega

/--
In every run, for every handle.  The clause on new handles is for the first
`2 ^ 64 - 1` sessions of an initialization, after which the counter is zero.
-/
theorem isolated
    {world : World}
    (reachable : (machine (handleCounter host)).Reachable world) :
    Isolated (handleCounter host) world := by
  have holds := handed_rule.holds reachable
  have idle := idle_of_reachable reachable
  have handed := holds.rest
  constructor
  · intro action thread call handle next resumes pending names dead moves
    have absent := absent_of_not_live holds.wellFormed handed dead
    refine ⟨refused_of_step reachable resumes pending names absent moves,
      ?_⟩
    have spares := spares_of_step reachable idle resumes pending names moves
    refine spares.others.imp_right fun kept session member => ?_
    refine kept session member fun same => ?_
    rw [← same] at dead
    exact dead (live_of_mem holds.wellFormed handed member)
  · intro action thread call handle next resumes pending names moves
    exact spares_of_step reachable idle resumes pending names moves
  · intro answers thread slot flags given handle next entered moves
      returned few
    have stepped := moves
    simp only [machine, step] at moves
    split_ifs at moves
    simp only [definedStep, entered] at moves
    rw [← Option.some.inj moves, after_threads_self] at returned
    have replied := (Pc.returned.inj returned).2
    have opens := opens_of_returned holds.wellFormed replied
    have reached : next.state =
        (cOpenSession (handleCounter host) world.state flags).1 := by
      rw [← Option.some.inj moves]
      rfl
    rw [← reached] at opens
    have fresh := handed.fresh opens few
    refine ⟨fresh.1, fresh.2, ?_, ?_⟩
    · rcases opens.present with ⟨session, member, named⟩
      have holds' := handed_rule.holds (reachable.step stepped)
      rw [← named]
      exact live_of_mem holds'.wellFormed holds'.rest member
    · refine opens.spares.others.imp_right fun kept session member => ?_
      refine kept session member fun same => fresh.2 ⟨session.birth, ?_⟩
      rw [← same]
      exact handed.table _ (mem_identities member)

/-! ## Runs -/

/-- A host that gives out handles in order. -/
abbrev sampleCounter : Host := handleCounter sampleHost

/-- A thread opens two sessions, and is about to close the second. -/
def openingRun : List Action :=
  calling 0 (.cInitialize none) ++
  calling 0 (.cOpenSession portalSlotId ckfSerialSession true) ++
  calling 0 (.cOpenSession portalSlotId ckfSerialSession true) ++
  [.enter 0 (.cCloseSession 2)]

/-- Closing the second session spares the first.  Closing it again is
refused. -/
theorem isolated_opening :
    ∃ world closed again next,
      (machine sampleCounter).run .start openingRun = some world ∧
      (machine sampleCounter).step world (.run 0 sampleAnswers) =
        some closed ∧
      (machine sampleCounter).step closed (.enter 0 (.cCloseSession 2)) =
        some again ∧
      (machine sampleCounter).step again (.run 0 sampleAnswers) =
        some next ∧
      Spares 2 world.state closed.state ∧
      Live closed.state 1 ∧ ¬Live again.state 2 ∧
      Refused again next 0 (.cCloseSession 2) := by
  have run : ∃ world closed again next,
      (machine sampleCounter).run .start openingRun = some world ∧
      (machine sampleCounter).step world (.run 0 sampleAnswers) =
        some closed ∧
      (machine sampleCounter).step closed (.enter 0 (.cCloseSession 2)) =
        some again ∧
      (machine sampleCounter).step again (.run 0 sampleAnswers) =
        some next ∧
      (world.threads 0).call = some (.cCloseSession 2) ∧
      (again.threads 0).call = some (.cCloseSession 2) ∧
      closed.state.trace =
        [.sessionEnded 1, .sessionOpened 1 2, .sessionOpened 0 1,
          .initialized] ∧
      again.state.trace = closed.state.trace :=
    ⟨_, _, _, _, rfl, rfl, rfl, rfl, rfl, rfl, rfl, rfl⟩
  rcases run with ⟨world, closed, again, next, opens, closes, enters, moves,
    first, second, trace, same⟩
  have reached : (machine sampleCounter).Reachable world :=
    .run (.initial rfl) opens
  have dead : ¬Live again.state 2 := by
    rintro ⟨birth, member, ended⟩
    rw [same, trace] at member ended
    have listed : Event.sessionOpened birth 2 ∈
        [.sessionEnded 1, .sessionOpened 1 2, .sessionOpened 0 1] := member
    have birth : birth = 1 := by simpa using listed
    exact ended (by simp [birth])
  refine ⟨world, closed, again, next, opens, closes, enters, moves,
    (isolated reached).spares _ 0 _ 2 _ rfl first rfl closes,
    ⟨0, by rw [trace]; decide, by rw [trace]; decide⟩, dead, ?_⟩
  exact ((isolated ((reached.step closes).step enters)).refused _ 0 _ 2 _ rfl
    second rfl dead moves).1

/-! ## A counter that has come round -/

/-- The first thread has initialized the module. -/
def startedWorld : World :=
  ((machine sampleCounter).run .start
    (calling 0 (.cInitialize none))).getD .start

/-- What the opening of a session counts up. -/
structure Spent where
  nextSession : Nat
  sessionSerial : UInt32
  openings : Nat
  trace : List Event
  pc : Pc

/-- Sessions have been opened and closed, and none is open. -/
def spentWorld (spent : Spent) : World where
  state :=
    { startedWorld.state with
      nextSession := spent.nextSession
      sessionSerial := spent.sessionSerial
      openings := spent.openings
      trace := spent.trace }
  threads := Function.update startedWorld.threads 0 spent.pc

/-- One session is opened and closed. -/
def Spent.next (spent : Spent) : Spent where
  nextSession := (spent.nextSession + 1) % 2 ^ 64
  sessionSerial := spent.sessionSerial + 1
  openings := spent.openings + 1
  trace := .sessionEnded spent.openings ::
    .sessionOpened spent.openings spent.nextSession :: spent.trace
  pc := .returned (.cCloseSession spent.nextSession) (answer .ok)

/-- The call that opens a session. -/
def openCall : Call :=
  .cOpenSession portalSlotId ckfSerialSession true

/-- The only session is closed. -/
theorem cCloseSession_last
    {state : State} {session : PortalSession}
    (only : state.sessions = some [session]) :
    cCloseSession state session.handle =
      ({ state with
          sessions := some []
          loggedIn := false
          trace := .sessionEnded session.birth :: state.trace },
        answer .ok) := by
  have here : [session].filter (fun other =>
      other.handle == session.handle) = [session] := by
    simp
  have gone : [session].filter (fun other =>
      other.handle != session.handle) = [] := by
    simp
  simp only [cCloseSession, State.removeSession, only, here, gone]
  rfl

theorem run_spent
    {spent : Spent} (free : spent.pc.free = true) :
    (machine sampleCounter).run (spentWorld spent)
        (calling 0 openCall ++
          calling 0 (.cCloseSession spent.nextSession)) =
      some (spentWorld spent.next) := by
  have here : ((spentWorld spent).threads 0).free = true := free
  rw [System.run_append, run_calling rfl here rfl, Option.bind_some,
    run_calling rfl rfl rfl]
  have closed := @cCloseSession_last
    (cOpenSession sampleCounter (spentWorld spent).state
      ckfSerialSession).1 _ rfl
  have body : lockedBody sampleCounter
      ((spentWorld spent).after 0 openCall
        (lockedBody sampleCounter (spentWorld spent).state sampleAnswers
          openCall)).state sampleAnswers (.cCloseSession spent.nextSession) =
      ((spentWorld spent.next).state, .returned (answer .ok)) :=
    congrArg reply closed
  rw [body, World.after, World.after, spentWorld, spentWorld,
    Function.update_idem, Function.update_idem]
  rfl

/-- Any number of sessions may have been opened and closed. -/
theorem reachable_spentWorld (count : Nat) :
    ∃ spent, spent.pc.free = true ∧
      spent.nextSession = (count + 1) % 2 ^ 64 ∧
      (machine sampleCounter).Reachable (spentWorld spent) := by
  induction count with
  | zero =>
      have moved : (machine sampleCounter).run .start
          (calling 0 (.cInitialize none)) = some startedWorld := rfl
      let spent : Spent :=
        { nextSession := 1
          sessionSerial := 0
          openings := 0
          trace := [.initialized]
          pc := .returned (.cInitialize none) (answer .ok) }
      have same : spentWorld spent = startedWorld :=
        World.mk.injEq .. |>.mpr ⟨rfl, Function.update_eq_self 0 _⟩
      refine ⟨spent, rfl, rfl, ?_⟩
      rw [same]
      exact .run (.initial rfl) moved
  | succ count ih =>
      rcases ih with ⟨spent, free, counter, reachable⟩
      refine ⟨spent.next, rfl, ?_, reachable.run (run_spent free)⟩
      show (spent.nextSession + 1) % 2 ^ 64 = _
      rw [counter]
      omega

/-- The session that opens next has the counter's handle. -/
theorem open_spent
    {spent : Spent} (free : spent.pc.free = true)
    (counter : spent.nextSession = 0) :
    ∃ next, (machine sampleCounter).run (spentWorld spent)
        (calling 0 openCall) = some next ∧
      next.threads 0 = .returned openCall ⟨.ok, .session 0⟩ := by
  have here : ((spentWorld spent).threads 0).free = true := free
  refine ⟨_, run_calling rfl here rfl, ?_⟩
  rw [after_threads_self, ← counter]
  rfl

/--
A call with a handle that is not open may be refused for its arguments, and
the opening after `2 ^ 64 - 1` others returns the handle zero.
-/
theorem handles_not_isolated :
    (∃ world next, (machine sampleCounter).Reachable world ∧
      ¬Live world.state 5 ∧
      (machine sampleCounter).step world
        (.enter 0 (.cGetSessionInfo 5 false)) = some next ∧
      next.threads 0 = .returned (.cGetSessionInfo 5 false)
        (answer .argumentsBad)) ∧
    ∃ world next, (machine sampleCounter).Reachable world ∧
      (machine sampleCounter).run world (calling 0 openCall) = some next ∧
      next.threads 0 = .returned openCall ⟨.ok, .session 0⟩ := by
  constructor
  · have moved : (machine sampleCounter).run .start
        (calling 0 (.cInitialize none)) = some startedWorld := rfl
    refine ⟨startedWorld, _, .run (.initial rfl) moved, ?_, rfl, rfl⟩
    rintro ⟨birth, member, -⟩
    have listed : Event.sessionOpened birth 5 ∈ ([] : List Event) := member
    cases listed
  · rcases reachable_spentWorld (2 ^ 64 - 1) with
      ⟨spent, free, counter, reachable⟩
    rcases open_spent free counter with ⟨next, moves, returned⟩
    exact ⟨_, next, reachable, moves, returned⟩

end PortalCertificate.Module.SessionHandles
