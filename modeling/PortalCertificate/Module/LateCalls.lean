import PortalCertificate.Module.GrantBinding

/-!
# Calls that go on after the end of a lifecycle

A call looks at `module_initialized` before it takes the lock, and a second
`C_Finalize` waits without it.  Either can go on when the tables are gone.
Most bodies notice, because the session table and the client are `NULL`
then.  A few do not look, and this module says which.
-/

namespace PortalCertificate.Module.LateCalls

open PortalCertificate.Library.Transition
open PortalCertificate.Module.Acquire
open PortalCertificate.Module.Calls
open PortalCertificate.Module.Changes
open PortalCertificate.Module.GrantBinding
open PortalCertificate.Module.Invariants
open PortalCertificate.Module.Lifecycle
open PortalCertificate.Module.Machine
open PortalCertificate.Module.Session
open PortalCertificate.Module.SessionCalls
open PortalCertificate.Module.Statics
open PortalCertificate.Module.Stretches
open PortalCertificate.Module.Threads
open PortalCertificate.Pkcs11

variable {host : Host}

/-! ## Late steps -/

/-- A call other than `C_Initialize` goes on when the tables are gone. -/
structure Late (world : World) (action : Action) (thread : Nat) : Prop where
  resumed : resumed action = some thread
  destroyed : world.state.initialized = false
  pending : ∀ args, world.threads thread ≠ .entered (.cInitialize args)

/-- The call returns an error and has changed nothing. -/
structure Refused (world next : World) (thread : Nat) : Prop where
  unchanged : next.state = world.state
  error : ∃ call reply,
    next.threads thread = .returned call reply ∧ reply.rv ≠ .ok

/-- The bodies that do not look whether the module is still initialized. -/
def unprotected (state : State) : Pc → Bool
  | .entered (.cCloseSession _)
  | .entered (.cCloseAllSessions _)
  | .entered (.cGetSlotList _ _)
  | .entered (.cGetSlotInfo _ _)
  | .finalizing => true
  -- The events of the lifecycle before are still counted.
  | .entered (.cWaitForSlotEvent _ _ _) => state.slotEvents > 0
  | _ => false

@[simp]
theorem unprotected_finalizing (state : State) :
    unprotected state .finalizing = true := rfl

@[simp]
theorem unprotected_cCloseSession (state : State) (handle : Nat) :
    unprotected state (.entered (.cCloseSession handle)) = true := rfl

@[simp]
theorem unprotected_cCloseAllSessions (state : State) (slot : CkUlong) :
    unprotected state (.entered (.cCloseAllSessions slot)) = true := rfl

@[simp]
theorem unprotected_cGetSlotList
    (state : State) (slotList : Bool) (count : Option Nat) :
    unprotected state (.entered (.cGetSlotList slotList count)) = true :=
  rfl

@[simp]
theorem unprotected_cGetSlotInfo (state : State) (slot : CkUlong)
    (info : Bool) :
    unprotected state (.entered (.cGetSlotInfo slot info)) = true := rfl

@[simp]
theorem unprotected_cWaitForSlotEvent
    (state : State) (flags : CkUlong) (slot reserved : Bool) :
    unprotected state (.entered (.cWaitForSlotEvent flags slot reserved)) =
      decide (state.slotEvents > 0) := rfl

/-- The step is not a late one of an unprotected body. -/
def Protected (world : World) (action : Action) : Prop :=
  ∀ thread, Late world action thread →
    unprotected world.state (world.threads thread) = false

/-! ## Bodies without tables -/

/-- How a late stretch should end. -/
def Refuses (state : State) (result : State × Progress) : Prop :=
  result.1 = state ∧
    ∃ reply, result.2 = .returned reply ∧ reply.rv ≠ .ok

theorem refuses_answer
    {state : State} {rv : CkRv} (error : rv ≠ .ok) :
    Refuses state (reply (state, answer rv)) :=
  ⟨rfl, answer rv, rfl, error⟩

theorem not_refuses_ok
    {state next : State} {output : Output} :
    ¬Refuses state (reply (next, ⟨.ok, output⟩)) := by
  rintro ⟨-, other, same, error⟩
  cases Progress.returned.inj same
  exact error rfl

section Destroyed

variable {state : State} (closed : Closed state)
include closed

theorem grantStillGood_closed : grantStillGood state = (state, false) := by
  rw [grantStillGood, closed.grant]

theorem available_closed : portalClientAvailable state.client = false := by
  rw [closed.client, portalClientAvailable]

theorem dupMechanisms_closed :
    portalClientDupMechanisms state.client = none := by
  simp [portalClientDupMechanisms, available_closed closed]

theorem sessionLookup_closed (handle : Nat) :
    sessionLookup state handle = (state, none) := by
  rw [sessionLookup, closed.sessions]

theorem withSession_closed
    (handle : Nat) (body : State → PortalSession → State × Reply) :
    withSession state handle body =
      (state, answer .sessionHandleInvalid) := by
  rw [withSession, sessionLookup_closed closed]

theorem withOperationSession_closed
    (handle : Nat) (body : State → PortalSession → State × Reply) :
    withOperationSession state handle body =
      (state, answer .sessionHandleInvalid) := by
  simp only [withOperationSession, operationSessionLookup, closed.grant,
    sessionLookup_closed closed]

omit closed in
theorem searchReturns_closed
    (dead : state.initialized = false) (search : Search) (acquired : Bool) :
    searchReturns state search acquired =
      reply (state, answer .sessionHandleInvalid) := by
  simp [searchReturns, finishSearch, searchRevalidate, sessionRevalidate,
    dead, reply]

theorem continueSearch_closed
    (dead : state.initialized = false) (search : Search) :
    continueSearch host state search =
      reply (state, answer .sessionHandleInvalid) := by
  simp [continueSearch, closed.alone, searchRevalidate,
    sessionRevalidate, dead, searchReturns_closed dead]

theorem cFindObjectsInit_closed (handle : Nat) (template : CkTemplate) :
    cFindObjectsInit host state handle template =
      reply (state, answer .sessionHandleInvalid) := by
  simp [cFindObjectsInit, closed.lasting, sessionLookup_closed closed,
    reply]

/-- One case for each entry point. -/
theorem lockedBody_refuses_iff
    (dead : state.initialized = false) {call : Call}
    (pending : ∀ args, call ≠ .cInitialize args) (answers : Answers) :
    Refuses state (lockedBody host state answers call) ↔
      unprotected state (.entered call) = false := by
  have session (handle : Nat)
      (body : State → PortalSession → State × Reply) :
      Refuses state (reply (withSession state handle body)) := by
    rw [withSession_closed closed]
    exact refuses_answer (by decide)
  have operation (handle : Nat)
      (body : State → PortalSession → State × Reply) :
      Refuses state (reply (withOperationSession state handle body)) := by
    rw [withOperationSession_closed closed]
    exact refuses_answer (by decide)
  cases call with
  | cInitialize args => exact absurd rfl (pending args)
  | cFinalize reserved =>
      refine iff_of_true ?_ rfl
      simp only [lockedBody, cFinalize, dead, Bool.not_false, if_true]
      exact refuses_answer (by decide)
  | cGetSlotList slotList count =>
      refine iff_of_false ?_ (by simp)
      simp only [lockedBody, cGetSlotList, available_closed closed,
        Bool.not_false, if_true]
      exact not_refuses_ok
  | cGetSlotInfo slot info =>
      exact iff_of_false not_refuses_ok (by simp)
  | cGetTokenInfo slot info =>
      refine iff_of_true ?_ rfl
      simp only [lockedBody, cGetTokenInfo, available_closed closed,
        Bool.not_false, if_true]
      exact refuses_answer (by decide)
  | cGetMechanismList slot mechanismList count =>
      refine iff_of_true ?_ rfl
      simp only [lockedBody, cGetMechanismList, dupMechanisms_closed closed]
      exact refuses_answer (by decide)
  | cGetMechanismInfo slot type info =>
      refine iff_of_true ?_ rfl
      simp only [lockedBody, cGetMechanismInfo, dupMechanisms_closed closed]
      exact refuses_answer (by decide)
  | cOpenSession slot flags sessionHandle =>
      refine iff_of_true ?_ rfl
      simp only [lockedBody, cOpenSession, closed.lasting,
        available_closed closed, Bool.not_false, if_true]
      exact refuses_answer (by decide)
  | cCloseSession handle =>
      refine iff_of_false ?_ (by simp)
      rintro ⟨unchanged, -⟩
      rw [lockedBody, reply, cCloseSession_destroyed closed.sessions]
        at unchanged
      exact List.cons_ne_self _ _ (congrArg State.trace unchanged)
  | cCloseAllSessions slot =>
      exact iff_of_false not_refuses_ok (by simp)
  | cFindObjectsInit handle template =>
      refine iff_of_true ?_ rfl
      rw [lockedBody, cFindObjectsInit_closed closed]
      exact refuses_answer (by decide)
  | cSignInit handle mechanism key =>
      refine iff_of_true ?_ rfl
      cases mechanism with
      | none => exact refuses_answer (by decide)
      | some mechanism => exact session handle _
  | cDecryptInit handle mechanism key =>
      refine iff_of_true ?_ rfl
      cases mechanism with
      | none => exact refuses_answer (by decide)
      | some mechanism => exact session handle _
  | cGetSessionInfo handle | cLogin handle | cLogout handle
  | cFindObjects handle | cFindObjectsFinal handle
  | cGetAttributeValue handle => exact iff_of_true (session handle _) rfl
  | cSign handle | cSignUpdate handle | cSignFinal handle
  | cDecrypt handle => exact iff_of_true (operation handle _) rfl
  | cWaitForSlotEvent flags slot reserved =>
      simp only [lockedBody, cWaitForSlotEvent,
        grantStillGood_closed closed,
        unprotected_cWaitForSlotEvent]
      split_ifs with pending
      · exact iff_of_false not_refuses_ok (by simp [pending])
      · exact iff_of_true (refuses_answer (by decide)) (by simp [pending])

end Destroyed

theorem refused_after_iff
    {world : World} {thread : Nat} {call : Call}
    {result : State × Progress} :
    Refused world (world.after thread call result) thread ↔
      Refuses world.state result := by
  constructor
  · rintro ⟨unchanged, call', reply, returned, error⟩
    refine ⟨unchanged, reply, ?_, error⟩
    rw [after_threads_self] at returned
    cases progress : result.2 with
    | returned other =>
        rw [progress, Progress.pc] at returned
        rw [(Pc.returned.inj returned).2]
    | waits | acquires | finalizes =>
        rw [progress, Progress.pc] at returned
        cases returned
  · rintro ⟨unchanged, reply, returned, error⟩
    refine ⟨unchanged, call, reply, ?_, error⟩
    rw [after_threads_self, returned, Progress.pc]

/-- A late call is refused exactly when its body is protected. -/
theorem late_refused_iff
    {world next : World} {action : Action} {thread : Nat}
    (consistent : Consistent world) (late : Late world action thread)
    (moves : (machine host).step world action = some next) :
    Refused world next thread ↔
      unprotected world.state (world.threads thread) = false := by
  have closed := consistent.wellFormed.closed late.destroyed
  have defined : definedStep host world action = some next := by
    simp only [machine, step] at moves
    split_ifs at moves
    exact moves
  have resumes := late.resumed
  cases action with
  | enter | environment => cases resumes
  | run other answers =>
      cases Option.some.inj resumes
      simp only [definedStep] at defined
      split at defined
      · rename_i call entered
        rw [← Option.some.inj defined, refused_after_iff, entered]
        refine lockedBody_refuses_iff closed late.destroyed ?_ answers
        intro args same
        exact late.pending args (by rw [entered, same])
      · cases defined
  | wake other =>
      cases Option.some.inj resumes
      simp only [definedStep] at defined
      split at defined
      · rename_i search waiting
        rw [← Option.some.inj defined, refused_after_iff, waiting,
          continueSearch_closed closed late.destroyed]
        exact iff_of_true (refuses_answer (by decide)) rfl
      · rename_i finalizing
        rw [← Option.some.inj defined, refused_after_iff, finalizing]
        refine iff_of_false ?_ (by simp)
        simp only [continueFinalize, closed.alone]
        exact not_refuses_ok
      · cases defined
  | acquired other result =>
      cases Option.some.inj resumes
      simp only [definedStep] at defined
      split at defined
      · rename_i acquisition flying
        have acquiring := (consistent.inFlight _ _ flying).acquiring
        rw [closed.alone] at acquiring
        cases acquiring
      · cases defined

/-! ## Tables are used while they exist -/

/-- No function has been given a table that is gone. -/
structure Untouched (state : State) : Prop where
  defined : state.undefined = false
  tables : .nullTable ∉ state.trace

/-- What holds at every moment of a lifecycle. -/
structure Usable (state : State) : Prop extends Untouched state where
  initialized : state.initialized = true

theorem Untouched.congr
    {first second : State} (untouched : Untouched first)
    (news : List Event) (adds : second.trace = news ++ first.trace)
    (other : ∀ event ∈ news, event ≠ .nullTable)
    (defined : second.undefined = first.undefined) :
    Untouched second where
  defined := defined.trans untouched.defined
  tables := by
    rw [adds, List.mem_append]
    rintro (new | old)
    · exact other _ new rfl
    · exact untouched.tables old

theorem ne_nullTable_endEvents (table : List PortalSession) :
    ∀ event ∈ endEvents table, event ≠ .nullTable := by
  intro event member
  rcases List.mem_map.mp member with ⟨session, -, rfl⟩
  exact Event.noConfusion

theorem ne_nullTable_releaseEvents (state : State) :
    ∀ event ∈ releaseEvents state, event ≠ .nullTable := by
  intro event member
  rcases mem_releaseEvents member with ⟨grant, -, rfl | rfl⟩ <;>
    exact Event.noConfusion

theorem Usable.emits
    {state : State} (usable : Usable state) {event : Event}
    (other : event ≠ .nullTable) : Usable (state.emit event) where
  toUntouched := usable.toUntouched.congr [event] rfl (by simpa) rfl
  initialized := usable.initialized

theorem Untouched.released
    {state : State} (untouched : Untouched state)
    {table : List PortalSession} (tables : state.sessions = some table) :
    Untouched (releaseGrant state) := by
  rw [releaseGrant_eq]
  refine untouched.congr (releaseEvents state) ?_
    (ne_nullTable_releaseEvents state) ?_
  · simp [dropEvents, tables]
  · simp [tables]

/-- Every change keeps the tables usable. -/
theorem Change.usable
    {first second : State} (wellFormed : WellFormed first)
    (usable : Usable first) (change : Change host first second) :
    Usable second := by
  rcases (wellFormed.opened usable.initialized).sessions with
    ⟨table, tables⟩
  cases change with
  | @retires grant current ended =>
      rw [retireGrant_eq tables]
      refine ⟨usable.toUntouched.congr
        (.retired grant.acquisition ::
          (endEvents table ++ releaseEvents first))
        (by simp) ?_ rfl, usable.initialized⟩
      simp only [List.mem_cons, List.mem_append, or_imp, forall_and,
        forall_eq]
      exact ⟨Event.noConfusion, ne_nullTable_endEvents table,
        ne_nullTable_releaseEvents first⟩
  | logsOut member =>
      have before : Untouched
          { first.emit .loggedOut with loggedIn := false } :=
        usable.toUntouched.congr [.loggedOut] rfl (by simp) rfl
      refine ⟨before.released tables, ?_⟩
      rw [releaseGrant_eq]
      exact usable.initialized
  | closesAll =>
      rw [cCloseAllSessions_eq tables]
      refine ⟨usable.toUntouched.congr
        (releaseEvents first ++ (endEvents table ++ [.closedAll]))
        (by simp) ?_ rfl, usable.initialized⟩
      simp only [List.mem_append, List.mem_singleton, or_imp, forall_and,
        forall_eq]
      exact ⟨ne_nullTable_releaseEvents first,
        ne_nullTable_endEvents table, Event.noConfusion⟩
  | closes handle =>
      rw [cCloseSession_eq tables]
      exact ⟨usable.toUntouched.congr _ rfl (ne_nullTable_endEvents _) rfl,
        usable.initialized⟩
  | opens flags available =>
      rw [addSession_eq tables]
      refine ⟨usable.toUntouched.congr
        (endEvents (table.filter fun other =>
            other.handle == first.nextSession) ++
          [.sessionOpened first.openings first.nextSession])
        (by simp [newSession]) ?_ rfl, usable.initialized⟩
      simp only [List.mem_append, List.mem_singleton, or_imp, forall_and,
        forall_eq]
      exact ⟨ne_nullTable_endEvents _, Event.noConfusion⟩
  | initializes args answers before =>
      have never := before.symm.trans usable.initialized
      cases never
  | touchesNull destroyed =>
      rw [tables] at destroyed
      cases destroyed
  | starts | requests | returnsSlotEvent | beginsFinalize =>
      exact ⟨usable.toUntouched.congr [_] rfl
        (by simp) rfl, usable.initialized⟩
  | revises | logsIn | environment =>
      exact ⟨⟨usable.defined, usable.tables⟩, usable.initialized⟩

/-- A lifecycle lasts for as long as nothing but changes happens. -/
theorem Change.composed_usable
    {first second : State} (wellFormed : WellFormed first)
    (usable : Usable first)
    (changes : Composed (Change host) first second) :
    WellFormed second ∧ Usable second := by
  induction changes with
  | refl => exact ⟨wellFormed, usable⟩
  | tail _ change ih =>
      exact ⟨Change.wellFormed change ih.1, Change.usable ih.1 ih.2 change⟩

/-- A lifecycle that was usable ends with its tables untouched. -/
theorem Usable.finishes
    {state : State} (usable : Usable state) (wellFormed : WellFormed state) :
    Untouched (finishFinalize state).1 := by
  rcases (wellFormed.opened usable.initialized).sessions with
    ⟨table, tables⟩
  rw [finishFinalize_eq]
  refine usable.toUntouched.congr
    (.finalized :: (endEvents state.table ++ releaseEvents state))
    (by simp [dropEvents, tables]) ?_ (by simp [tables])
  simp only [List.mem_cons, List.mem_append, or_imp, forall_and, forall_eq]
  exact ⟨Event.noConfusion, ne_nullTable_endEvents _,
    ne_nullTable_releaseEvents state⟩

/-- A locked stretch that starts within a lifecycle. -/
theorem Stretch.untouched
    {state : State} {result : State × Progress}
    (stretch : Stretch host state result) (wellFormed : WellFormed state)
    (usable : Usable state) : Untouched result.1 := by
  cases stretch with
  | returns changes | waits changes | finalizes changes =>
      exact (Change.composed_usable wellFormed usable changes).2.toUntouched
  | finishes changes settled =>
      rcases Change.composed_usable wellFormed usable changes with
        ⟨formed, middle⟩
      exact middle.finishes formed
  | acquires changes may =>
      have middle := (Change.composed_usable wellFormed usable changes).2
      exact middle.toUntouched.congr [.acquireStarted _ _] rfl (by simp) rfl

theorem usable_lands
    {state middle : State} {acquisition : Acquisition}
    (wellFormed : WellFormed state) (usable : Usable state)
    (lands : Lands host state acquisition middle) : Usable middle := by
  have opened := wellFormed.opened usable.initialized
  have ended (granted : Bool) :
      Usable (endAcquire state acquisition granted) :=
    ⟨usable.toUntouched.congr [.acquireReturned acquisition.number granted]
      rfl (by simp) rfl, usable.initialized⟩
  have set (grant : PortalGrant) : Usable
      (setGrant (endAcquire state acquisition true) grant) :=
    ⟨(ended true).toUntouched.congr
      [.installed grant.acquisition grant.sessionHandle]
      rfl (by simp) rfl, usable.initialized⟩
  cases lands with
  | refused code =>
      unfold noteRefusal
      split_ifs
      · exact ⟨⟨(ended false).defined, (ended false).tables⟩,
          usable.initialized⟩
      · exact ended false
  | discarded =>
      unfold releaseAcquired
      split_ifs
      · exact (ended true).emits Event.noConfusion
      · exact ended true
  | @installed grant objects wanted created =>
      have same := set (numbered grant acquisition)
      rcases opened.issuedIds with ⟨issued, tables⟩
      have known : { setGrant (endAcquire state acquisition true)
            (numbered grant acquisition) with
          objects := some objects }.issuedIds = some issued := tables
      rw [issueIdentifier, known]
      exact ⟨⟨same.defined, same.tables⟩, usable.initialized⟩
  | rejected grant wanted =>
      rcases opened.sessions with ⟨table, tables⟩
      have numberedTables :
          (setGrant (endAcquire state acquisition true)
            (numbered grant acquisition)).sessions = some table := tables
      have untouched := (set (numbered grant acquisition)).toUntouched
      refine ⟨untouched.released numberedTables, ?_⟩
      rw [releaseGrant_eq]
      exact usable.initialized

/-! ## Runs -/

/-- The tables are untouched by a call that starts a lifecycle. -/
theorem untouched_cInitialize
    {state : State} (untouched : Untouched state)
    (args : Option InitializeArgs) (answers : Answers) :
    Untouched (cInitialize state args answers).1 := by
  unfold cInitialize
  split_ifs
  · exact untouched
  split
  · exact untouched
  · exact untouched.congr [.initialized] rfl (by simp) rfl

theorem untouched_of_initialized
    {world next : World} {action : Action}
    (consistent : Consistent world) (untouched : Untouched world.state)
    (initialized : world.state.initialized = true)
    (moves : Moves host world action next) : Untouched next.state := by
  have usable : Usable world.state := ⟨untouched, initialized⟩
  cases moves with
  | enters free => exact untouched
  | stretches ground grounded stretch =>
      exact Stretch.untouched stretch consistent.wellFormed usable
  | @lands thread acquisition result flying =>
      have inFlight := consistent.inFlight _ _ flying
      have landed : ∃ middle, Lands host world.state acquisition middle ∧
          Composed (Change host) middle
            (afterAcquire host world.state acquisition result).1 :=
        afterAcquire_lands
          (consistent.wellFormed.ungranted inFlight.acquiring) result
      rcases landed with ⟨middle, lands, changes⟩
      exact (Change.composed_usable
        (wellFormed_lands consistent.wellFormed inFlight lands)
        (usable_lands consistent.wellFormed usable lands)
        changes).2.toUntouched
  | environment event => exact ⟨untouched.defined, untouched.tables⟩

theorem untouched_of_destroyed
    {world next : World} {action : Action}
    (consistent : Consistent world) (untouched : Untouched world.state)
    (destroyed : world.state.initialized = false)
    (guarded : Protected world action)
    (moves : (machine host).step world action = some next) :
    Untouched next.state := by
  have refused {thread : Nat} (resumes : resumed action = some thread)
      (pending : ∀ args,
        world.threads thread ≠ .entered (.cInitialize args)) :
      Untouched next.state := by
    have late : Late world action thread := ⟨resumes, destroyed, pending⟩
    have unchanged := ((late_refused_iff consistent late moves).mpr
      (guarded thread late)).unchanged
    exact unchanged ▸ untouched
  have defined : definedStep host world action = some next := by
    simp only [machine, step] at moves
    split_ifs at moves
    exact moves
  cases action with
  | enter thread call =>
      simp only [definedStep] at defined
      split_ifs at defined
      rw [← Option.some.inj defined]
      exact untouched
  | environment event =>
      rw [← Option.some.inj defined]
      exact ⟨untouched.defined, untouched.tables⟩
  | run thread answers =>
      by_cases starting : ∃ args,
          world.threads thread = .entered (.cInitialize args)
      · rcases starting with ⟨args, entered⟩
        simp only [definedStep, entered] at defined
        rw [← Option.some.inj defined]
        exact untouched_cInitialize untouched args answers
      · exact refused rfl (not_exists.mp starting)
  | wake thread =>
      refine refused rfl fun args entered => ?_
      simp [definedStep, entered] at defined
  | acquired thread result =>
      refine refused rfl fun args entered => ?_
      simp [definedStep, entered] at defined

/-- What is promised of calls that go on after the end of a lifecycle. -/
structure LateCallsSound (host : Host) (world : World) : Prop
    extends Untouched world.state where
  /-- Nothing is left of what `C_Finalize` destroys. -/
  destroyed : world.state.initialized = false →
    world.state.sessions = none ∧ world.state.issuedIds = none ∧
      world.state.client = none ∧ world.state.grant = none
  /-- A client in use without the lock is still the module's. -/
  borrowed : ∀ thread acquisition,
    world.threads thread = .acquiring acquisition →
      world.state.initialized = true ∧
        world.state.client.map PortalClient.address =
          acquisition.client.map PortalClient.address
  /-- A late call returns an error and changes nothing. -/
  refused : ∀ action thread next, Late world action thread →
    (machine host).step world action = some next →
      (Refused world next thread ↔ Protected world action)

theorem protected_iff
    {world : World} {action : Action} {thread : Nat}
    (late : Late world action thread) :
    Protected world action ↔
      unprotected world.state (world.threads thread) = false := by
  constructor
  · intro guarded
    exact guarded thread late
  · intro guarded other late'
    cases Option.some.inj (late.resumed.symm.trans late'.resumed)
    exact guarded

/-- If no unprotected body goes on late, then late calls do no harm. -/
theorem late_calls_sound
    {world : World}
    (reachable : (machine host).ReachableBy Protected world) :
    LateCallsSound host world := by
  have consistent := consistent_of_reachable reachable.reachable
  have untouched : Untouched world.state := by
    clear consistent
    induction reachable with
    | initial start =>
        cases start
        exact ⟨rfl, List.not_mem_nil⟩
    | @step world next action before guarded moves ih =>
        have consistent := consistent_of_reachable before.reachable
        cases initialized : world.state.initialized with
        | true =>
            exact untouched_of_initialized consistent ih initialized
              (step_moves moves)
        | false =>
            exact untouched_of_destroyed consistent ih initialized
              guarded moves
  exact
    { untouched with
      destroyed := fun dead =>
        have closed := consistent.wellFormed.closed dead
        ⟨closed.sessions, closed.issuedIds, closed.client, closed.grant⟩
      borrowed := fun thread acquisition flying =>
        have inFlight := consistent.inFlight _ _ flying
        ⟨initialized_of_acquiring consistent.wellFormed inFlight.acquiring,
          inFlight.address⟩
      refused := fun action thread next late moves =>
        (late_refused_iff consistent late moves).trans
          (protected_iff late).symm }

/-! ## Runs with a late call -/

theorem protected_enter (world : World) (thread : Nat) (call : Call) :
    Protected world (.enter thread call) :=
  fun _ late => nomatch late.resumed

theorem protected_of_initialized
    {world : World} (initialized : world.state.initialized = true)
    (action : Action) : Protected world action := by
  intro thread late
  have never := initialized.symm.trans late.destroyed
  cases never

theorem protected_start
    {world : World} {thread : Nat} {args : Option InitializeArgs}
    (entered : world.threads thread = .entered (.cInitialize args))
    (answers : Answers) : Protected world (.run thread answers) := by
  intro other late
  cases Option.some.inj late.resumed
  exact absurd entered (late.pending args)

/-- A call has passed its checks when the lifecycle ends. -/
def lateRun (call : Call) : List Action :=
  calling 0 (.cInitialize none) ++
  [.enter 1 call] ++
  calling 0 (.cFinalize false)

/-- The call finds that there is no session table. -/
theorem late_calls_sound_openSession :
    ∃ world next,
      (machine sampleHost).run .start
        (lateRun (.cOpenSession portalSlotId ckfSerialSession true)) =
          some world ∧
      (machine sampleHost).step world (.run 1 sampleAnswers) = some next ∧
      LateCallsSound sampleHost next ∧ Refused world next 1 := by
  have start : (machine sampleHost).ReachableBy Protected .start :=
    .initial rfl
  have entered := start.act (.enter 0 (.cInitialize none))
    (protected_enter _ _ _) rfl
  have initialized := entered.act (.run 0 sampleAnswers)
    (protected_start rfl _) rfl
  have called := initialized.act
    (.enter 1 (.cOpenSession portalSlotId ckfSerialSession true))
    (protected_enter _ _ _) rfl
  have finalizing := called.act (.enter 0 (.cFinalize false))
    (protected_enter _ _ _) rfl
  have finalized := finalizing.act (.run 0 sampleAnswers)
    (protected_of_initialized rfl _) rfl
  have late := finalized.act (.run 1 sampleAnswers)
    (fun _ late => by cases Option.some.inj late.resumed; rfl) rfl
  refine ⟨_, _, rfl, rfl, late_calls_sound late, ?_⟩
  exact ⟨rfl, _, _, rfl, by decide⟩

/-- A late call of this body uses the table that is gone. -/
theorem lateCloseAll_touches :
    ∃ world,
      (machine sampleHost).run .start
        (lateRun (.cCloseAllSessions portalSlotId) ++
          [.run 1 sampleAnswers]) = some world ∧
      ¬LateCallsSound sampleHost world := by
  have moved : (machine sampleHost).run .start
      (lateRun (.cCloseAllSessions portalSlotId) ++
        [.run 1 sampleAnswers]) = some _ := rfl
  refine ⟨_, moved, fun sound => ?_⟩
  exact sound.tables (by decide)

end PortalCertificate.Module.LateCalls
