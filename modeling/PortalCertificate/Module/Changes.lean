import PortalCertificate.Module.Machine

/-!
# Changes of the module's state

Every locked stretch is composed of a few changes of the state: a grant is
retired, a session is revised, an operation starts, and so on.  A change
states what held when it was made, so an invariant is proved once for each
change instead of once for each entry point.

Three changes are not among them, because they end a stretch: the start and
the end of an acquisition, and the end of a lifecycle.  Within a stretch the
tables are therefore never destroyed.
-/

namespace PortalCertificate.Module.Changes

open PortalCertificate.Library.Transition
open PortalCertificate.Module.Acquire
open PortalCertificate.Module.Calls
open PortalCertificate.Module.Lifecycle
open PortalCertificate.Module.Machine
open PortalCertificate.Module.Objects
open PortalCertificate.Module.Session
open PortalCertificate.Module.SessionCalls
open PortalCertificate.Module.Sign
open PortalCertificate.Module.Statics
open PortalCertificate.Pkcs11

/-! ## Closed forms -/

/-- The session without its operations. -/
def withoutOperations (session : PortalSession) : PortalSession :=
  sessionResetDecrypt (sessionResetSign session)

/-- What `drop_objects` adds to the trace. -/
def dropEvents (state : State) : List Event :=
  if state.sessions.isNone then [.nullTable] else []

/-- What `release_grant` adds to the trace for a grant. -/
def releaseEvents (state : State) : List Event :=
  match state.grant with
  | none => []
  | some grant =>
      .dropped grant.acquisition
          (portalClientGrantGone state.client grant) ::
        (if !portalClientGrantGone state.client grant &&
            state.client.any PortalClient.connected then
          [.released grant.acquisition]
        else
          [])

theorem dropObjects_eq (state : State) :
    dropObjects state =
      { state with
        sessions := state.sessions.map (List.map withoutOperations)
        objects := none
        grant := none
        trace := dropEvents state ++ state.trace
        undefined := state.undefined || state.sessions.isNone } := by
  cases sessions : state.sessions with
  | none => simp [dropObjects, dropEvents, State.emit, sessions]
  | some table =>
      simp [dropObjects, dropEvents, withoutOperations, sessions]

/-- `release_grant`, field by field. -/
theorem releaseGrant_eq (state : State) :
    releaseGrant state =
      { state with
        generation := state.generation + 1
        sessions := state.sessions.map (List.map withoutOperations)
        objects := none
        grant := none
        trace := dropEvents state ++ (releaseEvents state ++ state.trace)
        undefined := state.undefined || state.sessions.isNone } := by
  cases current : state.grant with
  | none =>
      simp [releaseGrant, releaseEvents, dropObjects_eq, current,
        dropEvents]
  | some grant =>
      cases gone : portalClientGrantGone state.client grant <;>
        cases connected : state.client.any PortalClient.connected <;>
        simp [releaseGrant, releaseEvents, dropObjects_eq, current, gone,
          connected, portalClientRelease, State.emit, dropEvents]

/-- The retirement of a grant, field by field. -/
theorem retireGrant_eq
    {state : State} {table : List PortalSession}
    (tables : state.sessions = some table) (grant : PortalGrant) :
    retireGrant state grant =
      { state with
        generation := state.generation + 1
        sessions := some []
        objects := none
        grant := none
        loggedIn := false
        slotEvents := state.slotEvents + 1
        trace :=
          .retired grant.acquisition ::
            (endEvents table ++ (releaseEvents state ++ state.trace)) } := by
  have same :
      endEvents (table.map withoutOperations) = endEvents table := by
    simp [endEvents, withoutOperations, sessionResetDecrypt,
      sessionResetSign, Function.comp_def]
  simp [retireGrant, releaseGrant_eq, State.removeAllSessions, State.emit,
    tables, dropEvents, same]

theorem cCloseAllSessions_eq
    {state : State} {table : List PortalSession}
    (tables : state.sessions = some table) :
    (cCloseAllSessions state).1 =
      { state with
        generation := state.generation + 1
        sessions := some []
        objects := none
        grant := none
        loggedIn := false
        trace := releaseEvents state ++
          (endEvents table ++ .closedAll :: state.trace) } := by
  simp [cCloseAllSessions, releaseGrant_eq, State.removeAllSessions,
    State.emit, tables, dropEvents, releaseEvents]

theorem cCloseAllSessions_destroyed
    {state : State} (destroyed : state.sessions = none) :
    (cCloseAllSessions state).1 =
      { state with
        generation := state.generation + 1
        objects := none
        grant := none
        loggedIn := false
        trace := .nullTable ::
          (releaseEvents state ++ .nullTable :: .closedAll :: state.trace)
        undefined := true } := by
  simp [cCloseAllSessions, releaseGrant_eq, State.removeAllSessions,
    State.emit, destroyed, dropEvents, releaseEvents]

theorem cCloseSession_eq
    {state : State} {table : List PortalSession}
    (tables : state.sessions = some table) (handle : Nat) :
    (cCloseSession state handle).1 =
      { state with
        sessions := some (table.filter fun session =>
          session.handle != handle)
        loggedIn :=
          if (table.filter fun session =>
                session.handle == handle) ≠ [] ∧
              (table.filter fun session =>
                session.handle != handle) = [] then
            false
          else
            state.loggedIn
        trace := endEvents (table.filter fun session =>
          session.handle == handle) ++ state.trace } := by
  simp only [cCloseSession, State.removeSession, tables]
  cases removed : table.filter fun session => session.handle == handle with
  | nil => simp
  | cons first rest =>
      have nonempty : (first :: rest != []) = true := rfl
      cases kept : table.filter fun session =>
        session.handle != handle <;> simp [nonempty]

theorem cCloseSession_destroyed
    {state : State} (destroyed : state.sessions = none) (handle : Nat) :
    (cCloseSession state handle).1 = state.emit .nullTable := by
  simp [cCloseSession, State.removeSession, destroyed]

theorem addSession_eq
    {host : Host} {state : State} {table : List PortalSession}
    (tables : state.sessions = some table) (session : PortalSession) :
    addSession host state session =
      { state with
        sessions := some (session :: table.filter fun other =>
          other.handle != session.handle)
        nextSession := host.nextHandle state.nextSession
        sessionSerial := session.serial
        openings := state.openings + 1
        trace := endEvents (table.filter fun other =>
            other.handle == session.handle) ++
          .sessionOpened session.birth session.handle :: state.trace } := by
  simp [addSession, State.insertSession, State.removeSession, State.emit,
    tables]

/-- The end of `C_Finalize`, field by field. -/
theorem finishFinalize_eq (state : State) :
    (finishFinalize state).1 =
      { state with
        generation := state.generation + 1
        sessions := none
        objects := none
        grant := none
        issuedIds := none
        client := none
        loggedIn := false
        finalizing := false
        initialized := false
        trace := .finalized ::
          (endEvents state.table ++
            (dropEvents state ++ (releaseEvents state ++ state.trace)))
        undefined := state.undefined || state.sessions.isNone } := by
  have same (table : List PortalSession) :
      endEvents (table.map withoutOperations) = endEvents table := by
    simp [endEvents, withoutOperations, sessionResetDecrypt,
      sessionResetSign, Function.comp_def]
  cases sessions : state.sessions <;>
    simp [finishFinalize, releaseGrant_eq, State.table, sessions, same]

/-- Releasing a grant adds events of that grant only. -/
theorem mem_releaseEvents
    {state : State} {event : Event} (member : event ∈ releaseEvents state) :
    ∃ grant, state.grant = some grant ∧
      (event = .dropped grant.acquisition
          (portalClientGrantGone state.client grant) ∨
        event = .released grant.acquisition) := by
  unfold releaseEvents at member
  split at member
  · cases member
  · rename_i grant current
    refine ⟨grant, current, ?_⟩
    split_ifs at member
    · simpa using member
    · exact Or.inl (by simpa using member)

theorem mem_dropEvents
    {state : State} {event : Event} (member : event ∈ dropEvents state) :
    state.sessions = none ∧ event = .nullTable := by
  unfold dropEvents at member
  split_ifs at member with destroyed
  · exact ⟨Option.isNone_iff_eq_none.mp destroyed, by simpa using member⟩
  · cases member

/-! ## Sessions in the table -/

/-- No update changes these fields. -/
structure SameSession (before after : PortalSession) : Prop where
  birth : after.birth = before.birth
  handle : after.handle = before.handle
  serial : after.serial = before.serial

/-- An operation of this kind is active. -/
def operationActive : OperationKind → PortalSession → Bool
  | .sign, session => session.sign.active
  | .decrypt, session => session.decrypt.active

@[simp]
theorem operationActive_withoutOperations
    (kind : OperationKind) (session : PortalSession) :
    operationActive kind (withoutOperations session) = false := by
  cases kind <;> rfl

/-- An operation that is not active has been reset. -/
structure Tidy (session : PortalSession) : Prop where
  sign : session.sign.active = false → session.sign = .idle
  decrypt : session.decrypt.active = false → session.decrypt = .idle

/-- An update that starts no operation. -/
structure Quiet (before after : PortalSession) : Prop
    extends SameSession before after where
  active : ∀ kind, operationActive kind after → operationActive kind before
  tidy : Tidy before → Tidy after

/-- An update that starts at most an operation of one kind. -/
structure Starts
    (kind : OperationKind) (before after : PortalSession) : Prop
    extends SameSession before after where
  find : after.find = before.find
  tidy : Tidy before → Tidy after
  active : ∀ other, operationActive other after →
    other = kind ∨ operationActive other before

theorem Quiet.refl (session : PortalSession) : Quiet session session where
  birth := rfl
  handle := rfl
  serial := rfl
  active := fun _ active => active
  tidy := id

theorem quiet_sessionResetSign (session : PortalSession) :
    Quiet session (sessionResetSign session) where
  birth := rfl
  handle := rfl
  serial := rfl
  active := by
    intro kind active
    cases kind with
    | sign => cases active
    | decrypt => exact active
  tidy := fun tidy => ⟨fun _ => rfl, tidy.decrypt⟩

theorem quiet_sessionResetDecrypt (session : PortalSession) :
    Quiet session (sessionResetDecrypt session) where
  birth := rfl
  handle := rfl
  serial := rfl
  active := by
    intro kind active
    cases kind with
    | sign => exact active
    | decrypt => cases active
  tidy := fun tidy => ⟨tidy.sign, fun _ => rfl⟩

theorem quiet_withFind (session : PortalSession) (find : FindOperation) :
    Quiet session { session with find } where
  birth := rfl
  handle := rfl
  serial := rfl
  active := by
    intro kind active
    cases kind <;> exact active
  tidy := fun tidy => ⟨tidy.sign, tidy.decrypt⟩

/-- Feeding data keeps a signing operation active. -/
theorem signFeed_active
    {operation fed : SignOperation} {data : CkBuffer} {hashed : Bool}
    (feeding : signFeed operation data hashed = .ok fed) :
    fed.active = operation.active := by
  cases digest : operation.digest with
  | some handle => rw [signFeed_hashing digest feeding]
  | none =>
      unfold signFeed at feeding
      simp only [digest] at feeding
      split at feeding
      · split_ifs at feeding
        rw [← Except.ok.inj feeding]
      · split_ifs at feeding
        · rw [← Except.ok.inj feeding]
        · rw [← Except.ok.inj feeding]

theorem quiet_withSign
    {session : PortalSession} {sign : SignOperation}
    (same : sign.active = session.sign.active)
    (active : session.sign.active = true) :
    Quiet session { session with sign } where
  birth := rfl
  handle := rfl
  serial := rfl
  active := by
    intro kind active
    cases kind with
    | sign => exact same.symm.trans active
    | decrypt => exact active
  tidy := by
    intro tidy
    constructor
    · intro inactive
      rw [same, active] at inactive
      cases inactive
    · exact tidy.decrypt

theorem starts_sign
    (session : PortalSession) {sign : SignOperation}
    (active : sign.active = true) :
    Starts .sign session { session with sign } where
  birth := rfl
  handle := rfl
  serial := rfl
  find := rfl
  active := by
    intro other active
    cases other with
    | sign => exact Or.inl rfl
    | decrypt => exact Or.inr active
  tidy := by
    intro tidy
    constructor
    · intro inactive
      rw [active] at inactive
      cases inactive
    · exact tidy.decrypt

theorem starts_decrypt
    (session : PortalSession) {decrypt : DecryptOperation}
    (active : decrypt.active = true) :
    Starts .decrypt session { session with decrypt } where
  birth := rfl
  handle := rfl
  serial := rfl
  find := rfl
  active := by
    intro other active
    cases other with
    | sign => exact Or.inr active
    | decrypt => exact Or.inl rfl
  tidy := by
    intro tidy
    constructor
    · exact tidy.sign
    · intro inactive
      rw [active] at inactive
      cases inactive

theorem findSession_mem
    {state : State} {handle : Nat} {session : PortalSession}
    (found : state.findSession handle = some session) :
    session ∈ state.table ∧ session.handle = handle :=
  ⟨List.mem_of_find?_eq_some found, by
    simpa using List.find?_some found⟩

@[simp]
theorem table_removeAllSessions (state : State) :
    state.removeAllSessions.table = [] := by
  cases sessions : state.sessions <;>
    simp [State.removeAllSessions, State.table, State.emit, sessions]

theorem table_updateSession
    (state : State) (handle : Nat)
    (update : PortalSession → PortalSession) :
    (state.updateSession handle update).table =
      state.table.map fun session =>
        if session.handle = handle then update session else session := by
  cases sessions : state.sessions <;>
    simp [State.table, State.updateSession, sessions]

/-! ## Changes -/

/-- New search results are handles of the current objects. -/
def FindsAmong (state : State) (before after : PortalSession) : Prop :=
  ∀ found ∈ after.find.results,
    found ∈ before.find.results ∨
      (portalObjectsLookup state.objects found).isSome

theorem findsAmong_of_subset
    {state : State} {before after : PortalSession}
    (fewer : after.find.results ⊆ before.find.results) :
    FindsAmong state before after :=
  fun _ member => Or.inl (fewer member)

/-- The grant is no longer usable. -/
def GrantEnded (state : State) (grant : PortalGrant) : Prop :=
  portalClientGrantGone state.client grant = true ∨
    state.unexpired grant = false

/-- The changes that the functions of the module are made of. -/
inductive Change (host : Host) : State → State → Prop where
  | retires {state : State} {grant : PortalGrant}
      (current : state.grant = some grant)
      (ended : GrantEnded state grant) :
      Change host state (retireGrant state grant)
  | revises {state : State} {handle : Nat} {session : PortalSession}
      {update : PortalSession → PortalSession}
      (found : state.findSession handle = some session)
      (quiet : Quiet session (update session))
      (finds : FindsAmong state session (update session)) :
      Change host state (state.updateSession handle update)
  | starts {state : State} {handle : Nat} {session : PortalSession}
      {update : PortalSession → PortalSession} {grant : PortalGrant}
      {kind : OperationKind}
      (found : state.findSession handle = some session)
      (starts : Starts kind session (update session))
      (current : state.grant = some grant) :
      Change host state
        ((state.updateSession handle update).emit
          (.operationInitialised kind session.birth grant.acquisition
            grant.sessionHandle))
  | requests {state : State} {session : PortalSession}
      {grant : PortalGrant} {request : OperationRequest}
      (member : session ∈ state.table)
      (active : operationActive request.kind session)
      (current : state.grant = some grant) :
      Change host state
        (state.emit
          (.operationRequested request session.birth grant.acquisition
            grant.sessionHandle))
  | logsIn {state : State} {session : PortalSession}
      (member : session ∈ state.table) :
      Change host state { state with loggedIn := true }
  | logsOut {state : State} {session : PortalSession}
      (member : session ∈ state.table) :
      Change host state
        (releaseGrant { state.emit .loggedOut with loggedIn := false })
  | closesAll {state : State} :
      Change host state (cCloseAllSessions state).1
  | closes {state : State} (handle : Nat) :
      Change host state (cCloseSession state handle).1
  | opens {state : State} (flags : CkUlong)
      (available : portalClientAvailable state.client) :
      Change host state (addSession host state (newSession state flags))
  | returnsSlotEvent {state : State} (pending : state.slotEvents > 0) :
      Change host state
        { state.emit .slotEventReturned with
          slotEvents := state.slotEvents - 1 }
  | initializes {state : State} (args : Option InitializeArgs)
      (answers : Answers) (before : state.initialized = false) :
      Change host state (initializeState state args answers)
  | beginsFinalize {state : State} (before : state.initialized) :
      Change host state
        { state.emit .finalizing with finalizing := true }
  | touchesNull {state : State} (destroyed : state.sessions = none) :
      Change host state (state.emit .nullTable)
  | environment {state : State} (event : Environment) :
      Change host state (event.apply state)

variable {host : Host}

theorem Change.composed
    {first second : State} (change : Change host first second) :
    Composed (Change host) first second :=
  .single change

/-- Only the ends of an acquisition change this flag. -/
theorem Change.acquiring
    {first second : State} (change : Change host first second) :
    second.acquiring = first.acquiring := by
  cases change with
  | retires current ended =>
      cases sessions : first.sessions <;>
        simp [retireGrant, releaseGrant_eq, State.removeAllSessions,
          State.emit, sessions]
  | logsOut member => simp [releaseGrant_eq, State.emit]
  | closesAll =>
      cases sessions : first.sessions <;>
        simp [cCloseAllSessions, releaseGrant_eq, State.removeAllSessions,
          State.emit, sessions]
  | closes handle =>
      simp only [cCloseSession, State.removeSession]
      cases first.sessions with
      | none => rfl
      | some table =>
          dsimp only
          split
          · rename_i result
            rw [← (Prod.mk.inj result).1]
          · rename_i result
            rw [← (Prod.mk.inj result).1]
            split_ifs <;> rfl
  | opens flags available =>
      simp only [addSession, State.insertSession, State.removeSession]
      split
      · rfl
      · rfl
  | revises | starts | requests | logsIn | returnsSlotEvent
  | initializes | beginsFinalize | touchesNull | environment => rfl

theorem Change.composed_acquiring
    {first second : State} (changes : Composed (Change host) first second) :
    second.acquiring = first.acquiring := by
  induction changes with
  | refl => rfl
  | tail _ change ih => exact change.acquiring.trans ih

/-! ## Changes of the shared functions -/

theorem grantStillGood_true
    {state next : State} (good : grantStillGood state = (next, true)) :
    next = state := by
  unfold grantStillGood at good
  split at good
  · cases good
  · split_ifs at good
    · exact (Prod.mk.inj good).1.symm
    · cases (Prod.mk.inj good).2

/-- A grant that is not good any more is dropped. -/
theorem grantStillGood_false
    {state next : State} (bad : grantStillGood state = (next, false)) :
    next.grant = none := by
  unfold grantStillGood at bad
  split at bad
  · rename_i absent
    rw [← (Prod.mk.inj bad).1, absent]
  · split_ifs at bad
    · cases (Prod.mk.inj bad).2
    rcases Prod.mk.inj bad with ⟨rfl, -⟩
    cases sessions : state.sessions <;>
      simp [retireGrant, releaseGrant_eq, State.removeAllSessions,
        State.emit, sessions]

@[simp]
theorem grantStillGood_client (state : State) :
    (grantStillGood state).1.client = state.client := by
  unfold grantStillGood
  split
  · rfl
  · split_ifs
    · rfl
    · cases sessions : state.sessions <;>
        simp [retireGrant, releaseGrant_eq, State.removeAllSessions,
          State.emit, sessions]

/-- The check of the grant is made of changes. -/
theorem grantStillGood_changes (host : Host) (state : State) :
    Composed (Change host) state (grantStillGood state).1 := by
  unfold grantStillGood
  split
  · exact .refl
  · rename_i grant current
    split_ifs with good
    · exact .refl
    · refine (Change.retires current ?_).composed
      cases gone : portalClientGrantGone state.client grant with
      | true => exact Or.inl gone
      | false => simpa [gone, GrantEnded] using good

/-- Looking a session up is made of changes. -/
theorem sessionLookup_changes (host : Host) (state : State) (handle : Nat) :
    Composed (Change host) state (sessionLookup state handle).1 := by
  unfold sessionLookup
  split
  · exact .refl
  · exact grantStillGood_changes host state

theorem sessionLookup_found
    {state next : State} {handle : Nat} {session : PortalSession}
    (found : sessionLookup state handle = (next, some session)) :
    next.findSession handle = some session := by
  unfold sessionLookup at found
  split at found
  · cases (Prod.mk.inj found).2
  · rw [← (Prod.mk.inj found).1]
    exact (Prod.mk.inj found).2

theorem sessionRevalidate_changes
    (host : Host) (state : State) (handle : Nat) (lifecycle serial : UInt32) :
    Composed (Change host) state
      (sessionRevalidate state handle lifecycle serial).1 := by
  have lookup := sessionLookup_changes host state handle
  unfold sessionRevalidate
  split_ifs
  · exact .refl
  · split
    · rename_i next result
      rwa [result] at lookup
    · rename_i next session result
      rw [result] at lookup
      split_ifs <;> exact lookup

/-- What a successful revalidation has found. -/
theorem sessionRevalidate_found
    {state next : State} {handle : Nat} {lifecycle serial : UInt32}
    {session : PortalSession}
    (found : sessionRevalidate state handle lifecycle serial =
      (next, some session)) :
    next.findSession handle = some session ∧ session.serial = serial ∧
      state.finalizing = false ∧ state.initialized = true ∧
      state.lifecycle = lifecycle ∧
      sessionLookup state handle = (next, some session) := by
  unfold sessionRevalidate at found
  split_ifs at found with late
  · cases (Prod.mk.inj found).2
  · split at found
    · cases (Prod.mk.inj found).2
    · rename_i middle other result
      split_ifs at found with same
      swap
      · cases (Prod.mk.inj found).2
      rcases Prod.mk.inj found with ⟨sameState, sameSession⟩
      cases Option.some.inj sameSession
      subst sameState
      simp only [Bool.or_eq_true, bne_iff_ne, not_or, Bool.not_eq_true,
        Bool.not_eq_false', ne_eq, not_not] at late
      exact ⟨sessionLookup_found result, same, late.1.1, late.1.2,
        late.2, result⟩

theorem operationSessionLookup_changes
    (host : Host) (state : State) (handle : Nat) :
    Composed (Change host) state (operationSessionLookup state handle).1 := by
  apply operationSessionLookup_state
  · exact grantStillGood_changes host state
  · intro before looks
    have looked := sessionLookup_changes host before handle
    cases looks with
    | same => exact looked
    | unlisted sessions =>
        have touched : Composed (Change host) state _ :=
          (Change.touchesNull sessions).composed
        exact touched.trans looked

theorem operationSessionLookup_found
    {state next : State} {handle : Nat} {session : PortalSession}
    (found : operationSessionLookup state handle = (next, .ok session)) :
    next.findSession handle = some session := by
  have result := operationLookup state handle
  rw [found] at result
  cases result with
  | found looks found => exact sessionLookup_found found

end PortalCertificate.Module.Changes
