import PortalCertificate.Module.GrantBinding

/-!
# Requests for one operation

An operation that has been initialised is submitted to the portal at most
once.  Only three calls submit anything, and all of them reset the operation
afterwards, except `C_Decrypt` when the plaintext does not fit: then the
caller tries again with a larger buffer, and the portal decrypts a second
time.
-/

namespace PortalCertificate.Module.Submissions

open PortalCertificate.Library.Trace
open PortalCertificate.Library.Transition
open PortalCertificate.Module.Acquire
open PortalCertificate.Module.Calls
open PortalCertificate.Module.Changes
open PortalCertificate.Module.GrantBinding
open PortalCertificate.Module.Invariants
open PortalCertificate.Module.Lifecycle
open PortalCertificate.Module.Machine
open PortalCertificate.Module.Session
open PortalCertificate.Module.SessionCalls
open PortalCertificate.Module.Sign
open PortalCertificate.Module.Statics
open PortalCertificate.Module.Stretches
open PortalCertificate.Module.Threads
open PortalCertificate.Pkcs11

variable {host : Host}

/-! ## The requests of a trace -/

/-- The event is a request to the portal. -/
def isRequest : Event → Bool
  | .operationRequested _ _ _ _ => true
  | _ => false

/-- The request that an event hands over. -/
def requestOf : Event → Option OperationRequest
  | .operationRequested request _ _ _ => some request
  | _ => none

/-- The requests that have been made, newest first. -/
def requestsIn (trace : List Event) : List OperationRequest :=
  trace.filterMap requestOf

theorem requestOf_eq_none_iff {event : Event} :
    requestOf event = none ↔ isRequest event = false := by
  cases event <;> simp [requestOf, isRequest]

@[simp]
theorem requestsIn_append (news trace : List Event) :
    requestsIn (news ++ trace) = requestsIn news ++ requestsIn trace :=
  List.filterMap_append

@[simp]
theorem requestsIn_requested
    (request : OperationRequest) (birth acquisition : Nat)
    (sessionHandle : String) (trace : List Event) :
    requestsIn (.operationRequested request birth acquisition
        sessionHandle :: trace) =
      request :: requestsIn trace := rfl

theorem requestsIn_cons
    {event : Event} (other : isRequest event = false)
    (trace : List Event) :
    requestsIn (event :: trace) = requestsIn trace :=
  List.filterMap_cons_none (requestOf_eq_none_iff.mpr other)

theorem requestsIn_eq_nil_iff {trace : List Event} :
    requestsIn trace = [] ↔ ∀ event ∈ trace, isRequest event = false := by
  simp only [requestsIn, List.filterMap_eq_nil_iff, requestOf_eq_none_iff]

@[simp]
theorem requestsIn_endEvents (sessions : List PortalSession) :
    requestsIn (endEvents sessions) = [] := by
  rw [requestsIn_eq_nil_iff]
  intro event member
  rcases List.mem_map.mp member with ⟨session, -, rfl⟩
  rfl

@[simp]
theorem requestsIn_releaseEvents (state : State) :
    requestsIn (releaseEvents state) = [] := by
  rw [requestsIn_eq_nil_iff]
  intro event member
  rcases mem_releaseEvents member with ⟨grant, -, rfl | rfl⟩ <;> rfl

@[simp]
theorem requestsIn_dropEvents (state : State) :
    requestsIn (dropEvents state) = [] := by
  rw [requestsIn_eq_nil_iff]
  intro event member
  rw [(mem_dropEvents member).2]
  rfl

/-! ## Calls that request nothing -/

section Shared

variable (state : State)

theorem requestsIn_emit {event : Event} (other : isRequest event = false) :
    requestsIn (state.emit event).trace = requestsIn state.trace := by
  rw [State.emit, requestsIn_cons other]

@[simp]
theorem requestsIn_releaseGrant :
    requestsIn (releaseGrant state).trace = requestsIn state.trace := by
  simp [releaseGrant_eq]

@[simp]
theorem requestsIn_removeAllSessions :
    requestsIn state.removeAllSessions.trace = requestsIn state.trace := by
  unfold State.removeAllSessions
  split
  · exact requestsIn_emit state rfl
  · simp

@[simp]
theorem requestsIn_removeSession (handle : Nat) :
    requestsIn (state.removeSession handle).1.trace =
      requestsIn state.trace := by
  unfold State.removeSession
  split
  · exact requestsIn_emit state rfl
  · simp

@[simp]
theorem requestsIn_updateSession
    (handle : Nat) (update : PortalSession → PortalSession) :
    requestsIn (state.updateSession handle update).trace =
      requestsIn state.trace :=
  rfl

@[simp]
theorem requestsIn_retireGrant (grant : PortalGrant) :
    requestsIn (retireGrant state grant).trace = requestsIn state.trace := by
  have ended : requestsIn
      ((releaseGrant state).removeAllSessions.emit
        (.retired grant.acquisition)).trace = _ := requestsIn_emit _ rfl
  simpa [retireGrant] using ended

@[simp]
theorem requestsIn_grantStillGood :
    requestsIn (grantStillGood state).1.trace = requestsIn state.trace := by
  unfold grantStillGood
  split
  · rfl
  · split_ifs
    · rfl
    · exact requestsIn_retireGrant state _

@[simp]
theorem requestsIn_sessionLookup (handle : Nat) :
    requestsIn (sessionLookup state handle).1.trace =
      requestsIn state.trace := by
  unfold sessionLookup
  split
  · rfl
  · exact requestsIn_grantStillGood state

@[simp]
theorem requestsIn_sessionRevalidate
    (handle : Nat) (lifecycle serial : UInt32) :
    requestsIn (sessionRevalidate state handle lifecycle serial).1.trace =
      requestsIn state.trace := by
  have looked := requestsIn_sessionLookup state handle
  unfold sessionRevalidate
  split_ifs
  · rfl
  · split <;> rename_i result <;> rw [result] at looked
    · exact looked
    · split_ifs <;> exact looked

@[simp]
theorem requestsIn_operationSessionLookup (handle : Nat) :
    requestsIn (operationSessionLookup state handle).1.trace =
      requestsIn state.trace := by
  apply operationSessionLookup_state
    (fun next => requestsIn next.trace = requestsIn state.trace)
  · exact requestsIn_grantStillGood state
  · intro before looks
    have looked := requestsIn_sessionLookup before handle
    cases looks with
    | same => exact looked
    | unlisted sessions => exact looked.trans (requestsIn_emit state rfl)

end Shared

section Calls

variable {state : State} {handle : Nat}

theorem requestsIn_withSession
    {body : State → PortalSession → State × Reply}
    (kept : ∀ next session,
      requestsIn (body next session).1.trace = requestsIn next.trace) :
    requestsIn (withSession state handle body).1.trace =
      requestsIn state.trace := by
  have looked := requestsIn_sessionLookup state handle
  unfold withSession
  split <;> rename_i result <;> rw [result] at looked
  · exact looked
  · exact (kept _ _).trans looked

theorem requestsIn_withOperationSession
    {body : State → PortalSession → State × Reply}
    (kept : ∀ next session,
      requestsIn (body next session).1.trace = requestsIn next.trace) :
    requestsIn (withOperationSession state handle body).1.trace =
      requestsIn state.trace := by
  have looked := requestsIn_operationSessionLookup state handle
  unfold withOperationSession
  split <;> rename_i result <;> rw [result] at looked
  · exact looked
  · exact (kept _ _).trans looked

theorem requestsIn_finishSearch (search : Search) (acquired : Bool) :
    requestsIn (finishSearch state search acquired).1.trace =
      requestsIn state.trace := by
  have looked := requestsIn_sessionRevalidate state search.handle
    search.lifecycle search.serial
  unfold finishSearch searchRevalidate
  split <;> rename_i result <;> rw [result] at looked
  · exact looked
  · dsimp only
    split_ifs <;> exact looked

theorem requestsIn_ensureGrant (search : Search) :
    requestsIn (ensureGrant host state search).1.trace =
      requestsIn state.trace := by
  have good := requestsIn_grantStillGood state
  unfold ensureGrant searchReturns
  split <;> rename_i result <;> rw [result] at good
  · exact (requestsIn_finishSearch ..).trans good
  · rename_i next
    have looked := (requestsIn_sessionRevalidate next search.handle
      search.lifecycle search.serial).trans good
    unfold searchRevalidate
    split <;> rename_i result' <;> rw [result'] at looked
    · exact (requestsIn_finishSearch ..).trans looked
    · split_ifs
      · exact (requestsIn_finishSearch ..).trans looked
      · exact (requestsIn_finishSearch ..).trans looked
      · exact (requestsIn_finishSearch ..).trans looked
      · exact (requestsIn_emit _ rfl).trans looked

theorem requestsIn_continueSearch (search : Search) :
    requestsIn (continueSearch host state search).1.trace =
      requestsIn state.trace := by
  have looked := requestsIn_sessionRevalidate state search.handle
    search.lifecycle search.serial
  unfold continueSearch searchReturns searchRevalidate
  split_ifs
  · rfl
  · exact requestsIn_finishSearch ..
  · split <;> rename_i result <;> rw [result] at looked
    · exact (requestsIn_finishSearch ..).trans looked
    · exact (requestsIn_ensureGrant search).trans looked

theorem requestsIn_cFindObjectsInit (template : CkTemplate) :
    requestsIn (cFindObjectsInit host state handle template).1.trace =
      requestsIn state.trace := by
  have looked := requestsIn_sessionLookup state handle
  unfold cFindObjectsInit
  split_ifs
  · rfl
  · split <;> rename_i result <;> rw [result] at looked
    · exact looked
    · split_ifs
      · exact looked
      · exact (requestsIn_continueSearch _).trans looked

theorem requestsIn_finishFinalize :
    requestsIn (finishFinalize state).1.trace = requestsIn state.trace := by
  rw [finishFinalize_eq, requestsIn_cons rfl]
  simp

theorem requestsIn_continueFinalize :
    requestsIn (continueFinalize state).1.trace = requestsIn state.trace := by
  unfold continueFinalize
  split_ifs
  · rfl
  · exact requestsIn_finishFinalize

theorem requestsIn_cFinalize :
    requestsIn (cFinalize state).1.trace = requestsIn state.trace := by
  unfold cFinalize
  split_ifs
  · rfl
  · exact requestsIn_continueFinalize.trans (requestsIn_emit state rfl)

theorem requestsIn_cInitialize
    (args : Option InitializeArgs) (answers : Answers) :
    requestsIn (cInitialize state args answers).1.trace =
      requestsIn state.trace := by
  unfold cInitialize
  split_ifs
  · rfl
  · split
    · rfl
    · exact requestsIn_emit state rfl

theorem requestsIn_cOpenSession (flags : CkUlong) :
    requestsIn (cOpenSession host state flags).1.trace =
      requestsIn state.trace := by
  unfold cOpenSession
  split_ifs
  · rfl
  · rfl
  · simp only [addSession, State.insertSession, requestsIn_removeSession]
    exact (requestsIn_emit _ rfl).trans (requestsIn_grantStillGood state)

theorem requestsIn_cCloseSession :
    requestsIn (cCloseSession state handle).1.trace =
      requestsIn state.trace := by
  have removed := requestsIn_removeSession state handle
  unfold cCloseSession
  split <;> rename_i result <;> rw [result] at removed
  · exact removed
  · split_ifs <;> exact removed

theorem requestsIn_cCloseAllSessions :
    requestsIn (cCloseAllSessions state).1.trace = requestsIn state.trace := by
  simp only [cCloseAllSessions, requestsIn_releaseGrant,
    requestsIn_removeAllSessions]
  exact requestsIn_emit state rfl

theorem requestsIn_cWaitForSlotEvent :
    requestsIn (cWaitForSlotEvent state).1.trace = requestsIn state.trace := by
  have good := requestsIn_grantStillGood state
  unfold cWaitForSlotEvent
  dsimp only
  split_ifs
  · exact (requestsIn_emit _ rfl).trans good
  · exact good

theorem requestsIn_cLogout :
    requestsIn (cLogout state handle).1.trace = requestsIn state.trace := by
  refine requestsIn_withSession fun next session => ?_
  rw [requestsIn_releaseGrant]
  exact requestsIn_emit next rfl

theorem requestsIn_cSignInit
    (mechanism : CkMechanism) (key : CkUlong) (answers : Answers) :
    requestsIn (cSignInit state handle mechanism key answers).1.trace =
      requestsIn state.trace := by
  refine requestsIn_withSession fun next session => ?_
  split_ifs
  · rfl
  split
  · rfl
  · split_ifs
    · rfl
    split
    · rfl
    · exact requestsIn_emit _ rfl

theorem requestsIn_cSignUpdate (part : CkBuffer) (answers : Answers) :
    requestsIn (cSignUpdate state handle part answers).1.trace =
      requestsIn state.trace := by
  refine requestsIn_withOperationSession fun next session => ?_
  split_ifs
  · rfl
  · split <;> rfl

theorem requestsIn_cDecryptInit (mechanism : CkMechanism) (key : CkUlong) :
    requestsIn (cDecryptInit state handle mechanism key).1.trace =
      requestsIn state.trace := by
  refine requestsIn_withSession fun next session => ?_
  split_ifs
  · rfl
  split
  · rfl
  · split_ifs
    · rfl
    · rfl
    split
    · rfl
    · exact requestsIn_emit _ rfl

/-- The calls that can make a request. -/
def Submits : Call → Prop
  | .cSign _ _ _ _ | .cSignFinal _ _ _ | .cDecrypt _ _ _ _ => True
  | _ => False

theorem requestsIn_lockedBody
    (state : State) (answers : Answers) {call : Call}
    (idle : ¬Submits call) :
    requestsIn (lockedBody host state answers call).1.trace =
      requestsIn state.trace := by
  cases call with
  | cSign | cSignFinal | cDecrypt => exact absurd trivial idle
  | cInitialize args => exact requestsIn_cInitialize args answers
  | cFinalize reserved => exact requestsIn_cFinalize
  | cGetSlotList slotList count =>
      simp only [lockedBody, reply, cGetSlotList]
      split_ifs <;> rfl
  | cGetSlotInfo slot info => exact requestsIn_grantStillGood state
  | cGetTokenInfo slot info =>
      simp only [lockedBody, reply, cGetTokenInfo]
      split_ifs <;> rfl
  | cGetMechanismList slot mechanismList count =>
      simp only [lockedBody, reply, cGetMechanismList]
      split
      · rfl
      · split_ifs <;> rfl
  | cGetMechanismInfo slot type info =>
      simp only [lockedBody, reply, cGetMechanismInfo]
      split
      · rfl
      · split
        · rfl
        · split_ifs <;> rfl
  | cOpenSession slot flags sessionHandle => exact requestsIn_cOpenSession flags
  | cCloseSession session => exact requestsIn_cCloseSession
  | cCloseAllSessions slot => exact requestsIn_cCloseAllSessions
  | cGetSessionInfo session info => exact requestsIn_withSession fun _ _ => rfl
  | cLogin session userType =>
      refine requestsIn_withSession fun next session => ?_
      split_ifs <;> rfl
  | cLogout session => exact requestsIn_cLogout
  | cFindObjectsInit session template =>
      exact requestsIn_cFindObjectsInit template
  | cFindObjects session objects maxCount count =>
      refine requestsIn_withSession fun next session => ?_
      split_ifs <;> rfl
  | cFindObjectsFinal session =>
      refine requestsIn_withSession fun next session => ?_
      split_ifs <;> rfl
  | cGetAttributeValue session object template =>
      refine requestsIn_withSession fun next session => ?_
      split <;> rfl
  | cSignInit session mechanism key =>
      cases mechanism with
      | none => rfl
      | some mechanism => exact requestsIn_cSignInit mechanism key answers
  | cSignUpdate session part => exact requestsIn_cSignUpdate part answers
  | cDecryptInit session mechanism key =>
      cases mechanism with
      | none => rfl
      | some mechanism => exact requestsIn_cDecryptInit mechanism key
  | cWaitForSlotEvent flags slot reserved => exact requestsIn_cWaitForSlotEvent

end Calls

/-! ## One request for each operation -/

/-- The operation is not requested. -/
def Spares (kind : OperationKind) (birth : Nat) : Event → Prop
  | .operationRequested other session _ _ =>
      ¬(other.kind = kind ∧ session = birth)
  | _ => True

/-- The operation has been initialised, and not been requested since. -/
def Unasked
    (kind : OperationKind) (birth : Nat) (trace : List Event) : Prop :=
  ∃ acquisition sessionHandle,
    Since (.operationInitialised kind birth acquisition sessionHandle)
      (Spares kind birth) (fun _ => True) trace

/-- A request of one of the kinds is the first for its operation. -/
def FirstRequest
    (kinds : OperationKind → Prop) : Event → List Event → Prop
  | .operationRequested request birth _ _, before =>
      kinds request.kind → Unasked request.kind birth before
  | _, _ => True

/-- No operation of these kinds has been requested twice. -/
def AsksOnce (kinds : OperationKind → Prop) (trace : List Event) : Prop :=
  Each (FirstRequest kinds) trace

/-- Besides, no active operation of these kinds has been requested. -/
structure Unspent
    (kinds : OperationKind → Prop) (state : State) : Prop where
  requests : AsksOnce kinds state.trace
  operations : ∀ session ∈ state.table, ∀ kind, kinds kind →
    operationActive kind session = true →
      Unasked kind session.birth state.trace

theorem spares_of_isRequest
    {event : Event} (other : isRequest event = false)
    (kind : OperationKind) (birth : Nat) : Spares kind birth event := by
  cases event <;> first | exact trivial | cases other

theorem firstRequest_of_isRequest
    {kinds : OperationKind → Prop} {event : Event}
    (other : isRequest event = false) (before : List Event) :
    FirstRequest kinds event before := by
  cases event <;> first | exact trivial | cases other

theorem Unasked.append
    {kind : OperationKind} {birth : Nat} {news trace : List Event}
    (unasked : Unasked kind birth trace) (silent : requestsIn news = []) :
    Unasked kind birth (news ++ trace) := by
  rcases unasked with ⟨acquisition, sessionHandle, since⟩
  rw [requestsIn_eq_nil_iff] at silent
  exact ⟨acquisition, sessionHandle, since.append fun event member =>
    spares_of_isRequest (silent event member) kind birth⟩

/-- A change adds to the trace, and only `starts` activates an operation. -/
structure Grows (first second : State) (news : List Event) : Prop where
  trace : second.trace = news ++ first.trace
  operations : ∀ session ∈ second.table, ∀ kind,
    operationActive kind session = true →
      (∃ before ∈ first.table, before.birth = session.birth ∧
        operationActive kind before = true) ∨
      ∃ acquisition sessionHandle, news =
        [.operationInitialised kind session.birth acquisition sessionHandle]

/-- The sessions are among those that there were. -/
theorem Grows.of_subset
    {first second : State} {news : List Event}
    (trace : second.trace = news ++ first.trace)
    (table : second.table ⊆ first.table) : Grows first second news where
  trace := trace
  operations := fun session member _ active =>
    Or.inl ⟨session, table member, rfl, active⟩

/-- No operation is active. -/
theorem Grows.of_inactive
    {first second : State} {news : List Event}
    (trace : second.trace = news ++ first.trace)
    (inactive : ∀ session ∈ second.table, ∀ kind,
      operationActive kind session = false) : Grows first second news where
  trace := trace
  operations := by
    intro session member kind active
    rw [inactive session member kind] at active
    cases active

/-- A grant that goes takes all operations with it. -/
theorem inactive_releaseGrant
    {state : State} {session : PortalSession}
    (member : session ∈ (releaseGrant state).table) (kind : OperationKind) :
    operationActive kind session = false := by
  rw [releaseGrant_eq] at member
  cases sessions : state.sessions with
  | none => simp [State.table, sessions] at member
  | some table =>
      simp only [State.table, sessions, Option.map_some, Option.getD_some,
        List.mem_map] at member
      rcases member with ⟨before, -, rfl⟩
      exact operationActive_withoutOperations kind before

theorem grows_releaseGrant (state : State) :
    Grows state (releaseGrant state)
      (dropEvents state ++ releaseEvents state) :=
  .of_inactive (by simp [releaseGrant_eq]) fun _ =>
    inactive_releaseGrant

/-- What any change adds to the trace. -/
theorem Change.grows
    {first second : State} (wellFormed : WellFormed first)
    (change : Change host first second) :
    ∃ news, Grows first second news := by
  cases change with
  | @retires grant current ended =>
      rcases (wellFormed.opened
        (wellFormed.initialized_of_grant current)).sessions with
        ⟨table, tables⟩
      rw [retireGrant_eq tables]
      refine ⟨.retired grant.acquisition ::
        (endEvents table ++ releaseEvents first), .of_inactive ?_ ?_⟩
      · simp
      · intro session member
        cases member
  | @revises handle session update found quiet finds =>
      refine ⟨[], rfl, fun other member kind active => Or.inl ?_⟩
      rcases wellFormed.mem_updateSession found member with
        rfl | ⟨inTable, -⟩
      · exact ⟨session, (findSession_mem found).1, quiet.birth.symm,
          quiet.active kind active⟩
      · exact ⟨other, inTable, rfl, active⟩
  | @starts handle session update grant kind found starts current =>
      refine ⟨[_], rfl, fun other member otherKind active => ?_⟩
      rcases wellFormed.mem_updateSession found member with
        rfl | ⟨inTable, -⟩
      · rcases starts.active otherKind active with rfl | before
        · exact Or.inr ⟨grant.acquisition, grant.sessionHandle,
            by rw [starts.birth]⟩
        · exact Or.inl ⟨session, (findSession_mem found).1,
            starts.birth.symm, before⟩
      · exact Or.inl ⟨other, inTable, rfl, active⟩
  | requests | returnsSlotEvent | beginsFinalize | touchesNull =>
      exact ⟨[_], .of_subset rfl (List.Subset.refl _)⟩
  | logsIn | environment =>
      exact ⟨[], .of_subset rfl (List.Subset.refl _)⟩
  | logsOut member =>
      have released := (grows_releaseGrant
        { first.emit .loggedOut with loggedIn := false }).trace
      exact ⟨_, .of_inactive (released.trans (List.append_cons ..))
        fun _ => inactive_releaseGrant⟩
  | closesAll =>
      cases sessions : first.sessions with
      | none =>
          rw [cCloseAllSessions_destroyed sessions]
          refine ⟨.nullTable :: (releaseEvents first ++
            [.nullTable, .closedAll]), .of_inactive (by simp) ?_⟩
          intro session member
          simp [State.table, sessions] at member
      | some table =>
          rw [cCloseAllSessions_eq sessions]
          refine ⟨releaseEvents first ++ (endEvents table ++ [.closedAll]),
            .of_inactive (by simp) ?_⟩
          intro session member
          cases member
  | closes handle =>
      cases sessions : first.sessions with
      | none =>
          rw [cCloseSession_destroyed sessions]
          exact ⟨[_], .of_subset rfl (List.Subset.refl _)⟩
      | some table =>
          rw [cCloseSession_eq sessions]
          refine ⟨_, .of_subset rfl ?_⟩
          simp [State.table, sessions]
  | opens flags available =>
      rcases (wellFormed.opened
        (wellFormed.initialized_of_available available)).sessions with
        ⟨table, tables⟩
      rw [addSession_eq tables]
      refine ⟨endEvents (table.filter fun session =>
          session.handle == first.nextSession) ++
        [.sessionOpened first.openings first.nextSession], ?_, ?_⟩
      · simp [newSession]
      · intro session member kind active
        rcases List.mem_cons.mp member with rfl | member
        · cases kind <;> cases active
        · refine Or.inl ⟨session, ?_, rfl, active⟩
          rw [State.table, tables]
          exact (List.mem_filter.mp member).1
  | initializes args answers before =>
      refine ⟨[.initialized], .of_inactive rfl ?_⟩
      intro session member
      cases member

section Unspent

variable
  {kinds : OperationKind → Prop} {first second : State}
  (unspent : Unspent kinds first)
include unspent

/-- Operations stay unspent while nothing is requested. -/
theorem Unspent.grows
    {news : List Event} (grows : Grows first second news)
    (silent : requestsIn news = []) : Unspent kinds second where
  requests := by
    rw [AsksOnce, grows.trace]
    exact Each.append unspent.requests fun event member before =>
      firstRequest_of_isRequest (requestsIn_eq_nil_iff.mp silent event member)
        before
  operations := by
    intro session member kind wanted active
    rw [grows.trace]
    rcases grows.operations session member kind active with
      ⟨before, listed, same, active⟩ | ⟨acquisition, sessionHandle, rfl⟩
    · rw [← same]
      exact (unspent.operations before listed kind wanted active).append
        silent
    · exact ⟨acquisition, sessionHandle, since_now trivial⟩

end Unspent

/-- One event that is no request, and the sessions as they were. -/
theorem Unspent.emits
    {kinds : OperationKind → Prop} {state : State}
    (unspent : Unspent kinds state) (event : Event)
    (other : isRequest event = false) :
    Unspent kinds (state.emit event) := by
  have grows : Grows state (state.emit event) [event] :=
    .of_subset rfl (List.Subset.refl _)
  exact unspent.grows grows (requestsIn_cons other [])

/-- The other variables do not matter. -/
theorem Unspent.congr
    {kinds : OperationKind → Prop} {first second : State}
    (unspent : Unspent kinds first) (trace : second.trace = first.trace)
    (sessions : second.sessions = first.sessions) :
    Unspent kinds second := by
  have grows : Grows first second [] := by
    refine .of_subset trace ?_
    rw [State.table, sessions]
    exact List.Subset.refl _
  exact unspent.grows grows rfl

theorem Change.requestsIn_suffix
    {first second : State} (wellFormed : WellFormed first)
    (change : Change host first second) :
    requestsIn first.trace <:+ requestsIn second.trace := by
  rcases Change.grows wellFormed change with ⟨news, grows⟩
  rw [grows.trace, requestsIn_append]
  exact List.suffix_append ..

theorem requestsIn_suffix_of_changes
    {first second : State} (wellFormed : WellFormed first)
    (changes : Composed (Change host) first second) :
    WellFormed second ∧
      requestsIn first.trace <:+ requestsIn second.trace := by
  induction changes with
  | refl => exact ⟨wellFormed, List.suffix_refl _⟩
  | tail _ change ih =>
      exact ⟨Change.wellFormed change ih.1,
        ih.2.trans (Change.requestsIn_suffix ih.1 change)⟩

/-- Changes that request nothing leave what is active unasked. -/
theorem unspent_of_changes
    {kinds : OperationKind → Prop} {first second : State}
    (wellFormed : WellFormed first)
    (changes : Composed (Change host) first second)
    (silent : requestsIn second.trace = requestsIn first.trace)
    (unspent : Unspent kinds first) : Unspent kinds second := by
  induction changes with
  | refl => exact unspent
  | @tail middle last changes change ih =>
      rcases requestsIn_suffix_of_changes wellFormed changes with
        ⟨formed, early⟩
      rcases Change.grows formed change with ⟨news, grows⟩
      have total : requestsIn news ++ requestsIn middle.trace =
          requestsIn first.trace := by
        rw [← requestsIn_append, ← grows.trace, silent]
      have late : requestsIn middle.trace <:+ requestsIn first.trace :=
        ⟨_, total⟩
      have same := late.eq_of_length (le_antisymm late.length_le
        early.length_le)
      rw [same] at total
      exact Unspent.grows (ih same) grows (List.append_left_eq_self.mp total)

/-! ## Calls that request -/

/-- The grant, if there is one, is neither gone nor expired. -/
def GrantGood (state : State) : Prop :=
  ∀ grant, state.grant = some grant →
    portalClientGrantGone state.client grant = false ∧
      state.unexpired grant = true

theorem grantStillGood_good {state : State} (good : GrantGood state) :
    (grantStillGood state).1 = state := by
  unfold grantStillGood
  split
  · rfl
  · rename_i grant current
    rcases good grant current with ⟨alive, unexpired⟩
    rw [if_pos (by simp [alive, unexpired])]

/-- A grant that has ended takes the sessions with it. -/
theorem sessionLookup_ended
    {state next : State} {handle : Nat} {session : PortalSession}
    (found : sessionLookup state handle = (next, some session)) :
    GrantGood state := by
  intro grant current
  by_contra ended
  have bad : ¬((!portalClientGrantGone state.client grant &&
      state.unexpired grant) = true) := by
    simpa using ended
  cases sessions : state.sessions with
  | none => simp [sessionLookup, sessions] at found
  | some table =>
      have empty : (retireGrant state grant).table = [] := by
        simp [retireGrant, State.emit, State.table,
          State.removeAllSessions, releaseGrant_eq, sessions]
      simp [sessionLookup, sessions, grantStillGood, current, bad,
        State.findSession, empty] at found

theorem sessionLookup_good
    {state : State} {handle : Nat} {session : PortalSession}
    (good : GrantGood state)
    (found : state.findSession handle = some session) :
    sessionLookup state handle = (state, some session) := by
  cases sessions : state.sessions with
  | none => simp [State.findSession, State.table, sessions] at found
  | some table =>
      simp [sessionLookup, sessions, grantStillGood_good good, found]

theorem sessionLookup_eq_some_iff
    {state next : State} {handle : Nat} {session : PortalSession} :
    sessionLookup state handle = (next, some session) ↔
      next = state ∧ GrantGood state ∧
        state.findSession handle = some session := by
  constructor
  · intro found
    have good := sessionLookup_ended found
    cases sessions : state.sessions with
    | none => simp [sessionLookup, sessions] at found
    | some table =>
        simp only [sessionLookup, sessions, grantStillGood_good good,
          Prod.mk.injEq] at found
        exact ⟨found.1.symm, good, found.2⟩
  · rintro ⟨rfl, good, found⟩
    exact sessionLookup_good good found

/-- A lookup that finds a session has left the grant alone. -/
theorem operationSessionLookup_eq_ok_iff
    {state next : State} {handle : Nat} {session : PortalSession} :
    operationSessionLookup state handle = (next, .ok session) ↔
      next = state ∧ GrantGood state ∧
        state.findSession handle = some session := by
  have result := operationLookup state handle
  generalize operationSessionLookup state handle = answer at result ⊢
  -- Without a table there is no session to be found.
  have same {before : State} (looks : LooksFrom state before)
      (listed : state.sessions ≠ none) : before = state := by
    cases looks with
    | same => rfl
    | unlisted sessions => exact absurd sessions listed
  cases result with
  | gone current gone named =>
      constructor
      · intro found
        cases (Prod.mk.inj found).2
      · rintro ⟨-, good, -⟩
        rw [(good _ current).1] at gone
        cases gone
  | @found before after other looks found =>
      have listed : state.sessions ≠ none := by
        intro sessions
        cases looks <;>
          simp [sessionLookup, State.emit, sessions] at found
      cases same looks listed
      rw [← sessionLookup_eq_some_iff, found]
      simp
  | absent looks absent =>
      constructor
      · intro found
        cases (Prod.mk.inj found).2
      · rintro ⟨-, good, found⟩
        have listed : state.sessions ≠ none := by
          intro sessions
          simp [State.findSession, State.table, sessions] at found
        cases same looks listed
        rw [sessionLookup_good good found] at absent
        cases absent

theorem operationSessionLookup_ok
    {state next : State} {handle : Nat} {session : PortalSession}
    (found : operationSessionLookup state handle = (next, .ok session)) :
    next = state :=
  (operationSessionLookup_eq_ok_iff.mp found).1

/-- A call has failed, and not only because its buffer is too small. -/
def Fails (rv : CkRv) : Prop := rv ≠ .ok ∧ rv ≠ .bufferTooSmall

theorem operationSessionLookup_fails
    {state next : State} {handle : Nat} {rv : CkRv}
    (refused : operationSessionLookup state handle = (next, .error rv)) :
    Fails rv := by
  have result := operationLookup state handle
  rw [refused] at result
  cases result <;> exact ⟨CkRv.noConfusion, CkRv.noConfusion⟩

/-- At most one request is made, for the operation of the session. -/
inductive Submitted
    (kind : OperationKind) (session : PortalSession) (state : State) :
    State → Prop where
  | nothing : Submitted kind session state state
  | once (request : OperationRequest) (same : request.kind = kind)
      (grant : PortalGrant) :
      Submitted kind session state
        (state.emit (.operationRequested request session.birth
          grant.acquisition grant.sessionHandle))

theorem portalRequest_submitted
    (request : OperationRequest) (state : State) (session : PortalSession)
    (portal : Except PortalErrorCode Library.Der.Octets) :
    Submitted request.kind session state
      (portalRequest request state session portal).1 := by
  unfold portalRequest
  split
  · exact .nothing
  · dsimp only
    split_ifs
    · exact .once request rfl _
    · split <;> exact .once request rfl _

theorem signPerform_submitted
    (host : Host) (state : State) (session : PortalSession)
    (answers : Answers) :
    Submitted .sign session state
      (signPerform host state session answers).1 := by
  unfold signPerform
  split
  · exact .nothing
  · rename_i request _
    exact portalRequest_submitted (.sign request) ..

/-- A result of a request is the answer of the portal for a grant. -/
theorem portalRequest_ok
    {request : OperationRequest} {state next : State}
    {session : PortalSession}
    {portal : Except PortalErrorCode Library.Der.Octets}
    {octets : Library.Der.Octets}
    (returned : portalRequest request state session portal =
      (next, .ok octets)) :
    ∃ grant, state.grant = some grant ∧
      portalClientGrantGone state.client grant = false ∧
      portal = .ok octets := by
  unfold portalRequest at returned
  split at returned
  · cases returned
  · rename_i grant current
    dsimp only at returned
    split_ifs at returned with gone
    · cases returned
    · refine ⟨grant, current, by simpa [State.emit] using gone, ?_⟩
      split at returned <;> cases returned
      rfl

/-- The portal returns a plaintext that the caller's buffer cannot hold. -/
def Overflows (state : State) (answers : Answers) : Call → Prop
  | .cDecrypt handle (.octets _) true plaintextLen =>
      ∃ session grant plaintext,
        (operationSessionLookup state handle).2 = .ok session ∧
          session.decrypt.active = true ∧ state.grant = some grant ∧
          portalClientGrantGone state.client grant = false ∧
          answers.portal = .ok plaintext ∧
          plaintextLen.getD 0 < plaintext.length
  | _ => False

theorem Unasked.other
    {request : OperationRequest} {other : OperationKind}
    {birth birth' acquisition : Nat} {sessionHandle : String}
    {trace : List Event} (unasked : Unasked other birth' trace)
    (different : ¬(request.kind = other ∧ birth = birth')) :
    Unasked other birth'
      (.operationRequested request birth acquisition sessionHandle ::
        trace) := by
  rcases unasked with ⟨number, name, since⟩
  exact ⟨number, name, since.cons different⟩

section Submitting

variable
  {kinds : OperationKind → Prop} {kind : OperationKind} {state next : State}
  {handle : Nat} {session : PortalSession}
  (wellFormed : WellFormed state) (unspent : Unspent kinds state)
include unspent

theorem firstRequest_submitted
    (member : session ∈ state.table)
    (active : operationActive kind session = true)
    (submitted : Submitted kind session state next) :
    AsksOnce kinds next.trace := by
  cases submitted with
  | nothing => exact unspent.requests
  | once request same grant =>
      refine each_cons.mpr ⟨fun wanted => ?_, unspent.requests⟩
      rw [same] at wanted ⊢
      exact unspent.operations session member kind wanted active

/-- A request of another kind. -/
theorem unspent_submitted
    (member : session ∈ state.table)
    (active : operationActive kind session = true)
    (submitted : Submitted kind session state next)
    (unwanted : ¬kinds kind) : Unspent kinds next where
  requests := firstRequest_submitted unspent member active submitted
  operations := by
    intro other listed kind' wanted active'
    cases submitted with
    | nothing => exact unspent.operations other listed kind' wanted active'
    | once request same grant =>
        apply (unspent.operations other listed kind' wanted active').other
        rintro ⟨rfl, -⟩
        rw [same] at wanted
        exact unwanted wanted

include wellFormed

theorem unspent_updateSession
    (found : state.findSession handle = some session)
    {update : PortalSession → PortalSession}
    (quiet : Quiet session (update session)) :
    Unspent kinds (state.updateSession handle update) := by
  have grows : Grows state (state.updateSession handle update) [] := by
    refine ⟨rfl, fun other member kind active => Or.inl ?_⟩
    rcases wellFormed.mem_updateSession found member with
      rfl | ⟨listed, -⟩
    · exact ⟨session, (findSession_mem found).1, quiet.birth.symm,
        quiet.active kind active⟩
    · exact ⟨other, listed, rfl, active⟩
  exact unspent.grows grows rfl

/-- The operation is reset after its request. -/
theorem unspent_reset
    (found : state.findSession handle = some session)
    (active : operationActive kind session = true)
    (submitted : Submitted kind session state next)
    {update : PortalSession → PortalSession}
    (quiet : Quiet session (update session))
    (ends : operationActive kind (update session) = false) :
    Unspent kinds (next.updateSession handle update) := by
  rcases findSession_mem found with ⟨inTable, named⟩
  cases submitted with
  | nothing => exact unspent_updateSession wellFormed unspent found quiet
  | once request same grant =>
      constructor
      · have requests := firstRequest_submitted unspent inTable active
          (.once request same grant)
        exact requests
      intro other member kind' wanted active'
      have member' : other ∈ (state.updateSession handle update).table :=
        member
      rcases wellFormed.mem_updateSession found member' with
        rfl | ⟨listed, otherHandle⟩
      · rw [quiet.birth]
        apply (unspent.operations session inTable kind' wanted
          (quiet.active kind' active')).other
        rintro ⟨rfl, -⟩
        rw [same, ends] at active'
        cases active'
      · apply (unspent.operations other listed kind' wanted active').other
        rintro ⟨-, born⟩
        cases wellFormed.eq_of_birth inTable listed born
        exact otherHandle named

theorem unspent_signFinish
    (found : state.findSession handle = some session)
    (active : session.sign.active = true) (answers : Answers)
    (out : Bool) (outLen : Nat) :
    Unspent kinds
      (signFinish host state handle session answers out outLen).1 := by
  have signs : operationActive .sign session = true := active
  have performed := unspent_reset wellFormed unspent found signs
    (signPerform_submitted host state session answers)
    (quiet_sessionResetSign session) rfl
  unfold signFinish
  dsimp only
  split_ifs
  · exact unspent
  · exact unspent
  split <;> rename_i result <;> rw [result] at performed
  · exact performed
  · split_ifs <;> exact performed

theorem unspent_withOperationSession
    (host : Host) {body : State → PortalSession → State × Reply}
    (kept : ∀ session, state.findSession handle = some session →
      operationSessionLookup state handle = (state, .ok session) →
      Unspent kinds (body state session).1) :
    Unspent kinds (withOperationSession state handle body).1 := by
  have looked := unspent_of_changes wellFormed
    (operationSessionLookup_changes host state handle)
    (requestsIn_operationSessionLookup state handle) unspent
  unfold withOperationSession
  split <;> rename_i result
  · rw [result] at looked
    exact looked
  · cases operationSessionLookup_ok result
    exact kept _ (operationSessionLookup_found result) result

theorem unspent_cSign
    (data : CkBuffer) (signature : Bool) (signatureLen : Nat)
    (answers : Answers) :
    Unspent kinds
      (cSign host state handle data signature signatureLen answers).1 := by
  refine unspent_withOperationSession wellFormed unspent host
    fun session found _ => ?_
  dsimp only
  split_ifs with inactive
  · exact unspent
  · exact unspent
  · exact unspent
  have active : session.sign.active = true := by simpa using inactive
  split
  · exact unspent_updateSession wellFormed unspent found
      (quiet_sessionResetSign session)
  · rename_i sign feeding
    have fed := signFeed_active feeding
    have quiet : Quiet session { session with sign } :=
      quiet_withSign fed active
    have updated := findSession_updateSession
      (fun session => { session with sign }) found fun _ => rfl
    have revised : Change host state (state.updateSession handle
        fun session => { session with sign }) :=
      .revises found quiet (findsAmong_of_subset (List.Subset.refl _))
    exact unspent_signFinish (Change.wellFormed revised wellFormed)
      (unspent_updateSession wellFormed unspent found quiet) updated
      (fed.trans active) ..

theorem unspent_cSignFinal
    (signature : Bool) (signatureLen : Nat) (answers : Answers) :
    Unspent kinds
      (cSignFinal host state handle signature signatureLen answers).1 := by
  refine unspent_withOperationSession wellFormed unspent host
    fun session found _ => ?_
  split_ifs with inactive
  · exact unspent
  · exact unspent_signFinish wellFormed unspent found
      (by simpa using inactive) ..

theorem unspent_cDecrypt
    (host : Host) (ciphertext : CkBuffer) (plaintext : Bool)
    (plaintextLen : Option Nat)
    (answers : Answers)
    (fits : kinds .decrypt → ¬Overflows state answers
      (.cDecrypt handle ciphertext plaintext plaintextLen)) :
    Unspent kinds
      (cDecrypt state handle ciphertext plaintext (plaintextLen.getD 0)
        answers).1 := by
  refine unspent_withOperationSession wellFormed unspent host
    fun session found looked => ?_
  split_ifs with inactive given
  · exact unspent
  · exact unspent
  have active : session.decrypt.active = true := by simpa using inactive
  have decrypts : operationActive .decrypt session = true := active
  split
  · exact unspent_updateSession wellFormed unspent found
      (quiet_sessionResetDecrypt session)
  · rename_i octets
    have submitted := portalRequest_submitted
      (.decrypt (decryptRequest session.decrypt octets)) state session
      answers.portal
    have reset := unspent_reset wellFormed unspent found decrypts submitted
      (quiet_sessionResetDecrypt session) rfl
    split <;> rename_i result <;> rw [result] at submitted reset
    · exact reset
    split_ifs with short
    · -- The operation stays active although it has been requested.
      refine unspent_submitted unspent (findSession_mem found).1 decrypts
        submitted fun wanted => fits wanted ?_
      rw [show plaintext = true by simpa using given]
      rcases portalRequest_ok result with ⟨grant, current, alive, portal⟩
      exact ⟨session, grant, _, congrArg Prod.snd looked, active, current,
        alive, portal, short⟩
    · exact reset

end Submitting

/-! ## Runs -/

section Runs

variable {kinds : OperationKind → Prop} {world next : World} {state : State}

theorem unspent_lockedBody
    (wellFormed : WellFormed state) (unspent : Unspent kinds state)
    {answers : Answers} {call : Call} (submits : Submits call)
    (fits : kinds .decrypt → ¬Overflows state answers call) :
    Unspent kinds (lockedBody host state answers call).1 := by
  cases call with
  | cSign session data signature signatureLen =>
      exact unspent_cSign wellFormed unspent ..
  | cSignFinal session signature signatureLen =>
      exact unspent_cSignFinal wellFormed unspent ..
  | cDecrypt session ciphertext plaintext plaintextLen =>
      exact unspent_cDecrypt wellFormed unspent host _ _ _ _ fits
  | _ => cases submits

theorem unspent_finishFinalize (unspent : Unspent kinds state) :
    Unspent kinds (finishFinalize state).1 := by
  have grows : Grows state (finishFinalize state).1
      (.finalized :: (endEvents state.table ++
        (dropEvents state ++ releaseEvents state))) := by
    rw [finishFinalize_eq]
    refine .of_inactive (by simp) ?_
    intro session member
    cases member
  refine unspent.grows grows ?_
  rw [requestsIn_cons rfl]
  simp

/-- A stretch that requests nothing. -/
theorem unspent_of_stretch
    {result : State × Progress} (wellFormed : WellFormed state)
    (unspent : Unspent kinds state) (stretch : Stretch host state result)
    (silent : requestsIn result.1.trace = requestsIn state.trace) :
    Unspent kinds result.1 := by
  cases stretch with
  | returns changes | waits changes | finalizes changes =>
      exact unspent_of_changes wellFormed changes silent unspent
  | finishes changes settled =>
      exact unspent_finishFinalize (unspent_of_changes wellFormed changes
        (requestsIn_finishFinalize.symm.trans silent) unspent)
  | @acquires middle search session changes may =>
      have started :
          requestsIn (beginAcquire middle search session).1.trace =
            requestsIn middle.trace := requestsIn_emit middle rfl
      have before := unspent_of_changes wellFormed changes
        (started.symm.trans silent) unspent
      exact (before.emits (.acquireStarted middle.acquisitions
        session.birth) rfl).congr rfl rfl

theorem unspent_lands
    {acquisition : Acquisition} {middle : State}
    (unspent : Unspent kinds state)
    (lands : Lands host state acquisition middle) : Unspent kinds middle := by
  have ended (granted : Bool) :
      Unspent kinds (endAcquire state acquisition granted) :=
    (unspent.emits (.acquireReturned acquisition.number granted) rfl).congr
      rfl rfl
  cases lands with
  | refused code =>
      unfold noteRefusal
      split_ifs
      · exact (ended false).congr rfl rfl
      · exact ended false
  | discarded =>
      unfold releaseAcquired
      split_ifs
      · exact (ended true).emits _ rfl
      · exact ended true
  | @installed grant objects wanted created =>
      have set := ((ended true).emits
        (.installed acquisition.number grant.sessionHandle) rfl)
      unfold issueIdentifier
      split
      · exact (set.emits .nullTable rfl).congr rfl rfl
      · exact set.congr rfl rfl
  | rejected grant wanted =>
      have set := ((ended true).emits
        (.installed acquisition.number grant.sessionHandle) rfl)
      have same : Unspent kinds
          (setGrant (endAcquire state acquisition true)
            (numbered grant acquisition)) := set.congr rfl rfl
      exact same.grows (grows_releaseGrant _) (by simp)

theorem unspent_afterAcquire
    {acquisition : Acquisition} (wellFormed : WellFormed state)
    (inFlight : InFlight state acquisition) (unspent : Unspent kinds state)
    (result : Except PortalErrorCode PortalGrant) :
    Unspent kinds (afterAcquire host state acquisition result).1 := by
  have landed {middle : State} (lands : Lands host state acquisition middle)
      (acquired : Bool) :
      Unspent kinds
        (finishSearch middle acquisition.search acquired).1 :=
    unspent_of_changes (wellFormed_lands wellFormed inFlight lands)
      (@finishSearch_changes host ..) (requestsIn_finishSearch ..)
      (unspent_lands unspent lands)
  have ungranted := wellFormed.ungranted inFlight.acquiring
  cases result with
  | error code => exact landed (.refused code) false
  | ok grant => exact landed (acceptGrant_lands ungranted grant) _

/-- Whoever decrypts gives a buffer that holds the plaintext. -/
def Fits (world : World) : Action → Prop
  | .run thread answers =>
      ∀ call, world.threads thread = .entered call →
        ¬Overflows world.state answers call
  | _ => True

theorem unspent_step
    {action : Action} (consistent : Consistent world)
    (unspent : Unspent kinds world.state)
    (fits : kinds .decrypt → Fits world action)
    (moves : (machine host).step world action = some next) :
    Unspent kinds next.state := by
  have defined : definedStep host world action = some next := by
    simp only [machine, step] at moves
    split_ifs at moves
    exact moves
  have wellFormed := consistent.wellFormed
  cases action with
  | enter thread call =>
      simp only [definedStep] at defined
      split_ifs at defined
      cases defined
      exact unspent
  | run thread answers =>
      simp only [definedStep] at defined
      split at defined
      · rename_i call entered
        cases defined
        by_cases submits : Submits call
        · exact unspent_lockedBody wellFormed unspent submits
            fun wanted => fits wanted call entered
        · exact unspent_of_stretch wellFormed unspent
            (lockedBody_stretch world.state answers call)
            (requestsIn_lockedBody world.state answers submits)
      · cases defined
  | wake thread =>
      simp only [definedStep] at defined
      split at defined
      · rename_i search waiting
        cases defined
        exact unspent_of_stretch wellFormed unspent
          (continueSearch_stretch world.state search)
          (requestsIn_continueSearch search)
      · cases defined
        exact unspent_of_stretch wellFormed unspent
          (@continueFinalize_stretch host world.state)
          requestsIn_continueFinalize
      · cases defined
  | acquired thread result =>
      simp only [definedStep] at defined
      split at defined
      · rename_i acquisition flying
        cases defined
        exact unspent_afterAcquire wellFormed
          (consistent.inFlight _ _ flying) unspent result
      · cases defined
  | environment event =>
      cases defined
      exact unspent.congr rfl rfl

/-- Where decryptions are looked at, every step has to meet the condition. -/
theorem unspent_of_reachableBy
    {guard : World → Action → Prop}
    (fits : ∀ world action, guard world action →
      kinds .decrypt → Fits world action)
    (reachable : (machine host).ReachableBy guard world) :
    Unspent kinds world.state := by
  apply System.ReachableBy.invariant _ _ reachable
  · rintro _ rfl
    exact ⟨each_nil, fun _ member => nomatch member⟩
  · intro world action next before unspent meets moves
    exact unspent_step (consistent_of_reachable before.reachable) unspent
      (fits world action meets) moves

end Runs

/-! ## Buffers that are too small -/

theorem signFeed_fails
    {operation : SignOperation} {data : CkBuffer} {hashed : Bool} {rv : CkRv}
    (refused : signFeed operation data hashed = .error rv) :
    Fails rv := by
  unfold signFeed at refused
  split at refused
  · split_ifs at refused
    cases refused
    exact ⟨CkRv.noConfusion, CkRv.noConfusion⟩
  split at refused
  · cases refused
  split at refused
  · split at refused <;> cases refused
    exact ⟨CkRv.noConfusion, CkRv.noConfusion⟩
  · dsimp only at refused
    split at refused <;> cases refused
    exact ⟨CkRv.noConfusion, CkRv.noConfusion⟩

theorem signRequest_fails
    {operation : SignOperation} {rv : CkRv}
    (refused : signRequest host.hashes operation = .error rv) :
    Fails rv := by
  unfold signRequest at refused
  split at refused
  · cases refused
    exact ⟨CkRv.noConfusion, CkRv.noConfusion⟩
  split at refused
  · rename_i entry error payload
    cases refused
    unfold signPayload at payload
    dsimp only at payload
    split_ifs at payload
    all_goals try split at payload
    all_goals cases payload
    all_goals exact ⟨CkRv.noConfusion, CkRv.noConfusion⟩
  · cases refused

theorem portalErrorToRv_fails (code : PortalErrorCode) :
    Fails (portalErrorToRv code) := by
  cases code <;> exact ⟨CkRv.noConfusion, CkRv.noConfusion⟩

theorem signPerform_fails
    {state next : State} {session : PortalSession} {answers : Answers}
    {rv : CkRv}
    (refused : signPerform host state session answers = (next, .error rv)) :
    Fails rv := by
  unfold signPerform at refused
  split at refused
  · rename_i error request
    cases refused
    exact signRequest_fails request
  · unfold portalRequest at refused
    split at refused
    · cases refused
      exact portalErrorToRv_fails _
    · dsimp only at refused
      split_ifs at refused
      · cases refused
        exact portalErrorToRv_fails _
      · split at refused <;> cases refused
        exact portalErrorToRv_fails _

section Short

variable
  {state : State} {handle : Nat} {answers : Answers} {out : Bool}
  {outLen : Nat}

/-- Only the check of the size finds a buffer too small. -/
theorem signFinish_tooSmall
    {session : PortalSession}
    (short : (signFinish host state handle session answers out
      outLen).2.rv = .bufferTooSmall) :
    outLen < signatureLength state.grant ∧
      (signFinish host state handle session answers out outLen).1 =
        state := by
  unfold signFinish at short ⊢
  dsimp only at short ⊢
  split_ifs at short ⊢ with given small
  · exact ⟨small, rfl⟩
  · split at short
    · rename_i result
      exact absurd short (signPerform_fails result).2
    · split_ifs at short
      cases short

theorem withOperationSession_tooSmall
    {body : State → PortalSession → State × Reply}
    (unchanged : ∀ session, (body state session).2.rv = .bufferTooSmall →
      (body state session).1 = state)
    (short : (withOperationSession state handle body).2.rv =
      .bufferTooSmall) :
    (withOperationSession state handle body).1 = state := by
  unfold withOperationSession at short ⊢
  split at short <;> rename_i result
  · exact absurd short (operationSessionLookup_fails result).2
  · cases operationSessionLookup_ok result
    exact unchanged _ short

/-- A signature that does not fit leaves everything as it is. -/
theorem cSign_tooSmall
    {data : CkBuffer}
    (short : (cSign host state handle data out outLen answers).2.rv =
      .bufferTooSmall) :
    (cSign host state handle data out outLen answers).1 = state := by
  refine withOperationSession_tooSmall (fun session short => ?_) short
  dsimp only at short ⊢
  split_ifs at short ⊢ with inactive given small
  · rfl
  · rfl
  · split at short
    · rename_i rv feeding
      exact absurd short (signFeed_fails feeding).2
    · exact absurd (signFinish_tooSmall short).1 small

/-- A buffer that is too small leaves everything as it is. -/
theorem cSignFinal_tooSmall
    (short : (cSignFinal host state handle out outLen answers).2.rv =
      .bufferTooSmall) :
    (cSignFinal host state handle out outLen answers).1 = state := by
  refine withOperationSession_tooSmall (fun session short => ?_) short
  split_ifs at short ⊢
  · rfl
  · exact (signFinish_tooSmall short).2

end Short

/-! ## A plaintext that does not fit -/

theorem not_unasked
    {request : OperationRequest} {birth acquisition : Nat}
    {sessionHandle : String} {trace : List Event} :
    ¬Unasked request.kind birth
      (.operationRequested request birth acquisition sessionHandle ::
        trace) := by
  rintro ⟨number, name, meanwhile, earlier, split, spares, -⟩
  cases meanwhile with
  | nil => cases split
  | cons event meanwhile =>
      rw [← (List.cons.inj split).1] at spares
      exact spares _ (List.mem_cons_self ..) ⟨rfl, rfl⟩

end PortalCertificate.Module.Submissions
