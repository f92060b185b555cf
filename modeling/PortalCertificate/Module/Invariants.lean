import PortalCertificate.Module.Stretches

/-!
# Invariants of the module's state

What holds of the static variables whenever the lock is free: the tables
exist exactly between initialization and finalization, the grant comes with
its objects, and the open sessions are told apart by their handles and by
the numbers of their openings.

The numbers of the openings are never used twice, so they still tell apart
sessions whose handles the module has used again.
-/

namespace PortalCertificate.Module.Invariants

open PortalCertificate.Library.Transition
open PortalCertificate.Module.Acquire
open PortalCertificate.Module.Changes
open PortalCertificate.Module.Lifecycle
open PortalCertificate.Module.Machine
open PortalCertificate.Module.Session
open PortalCertificate.Module.SessionCalls
open PortalCertificate.Module.Statics
open PortalCertificate.Module.Stretches
open PortalCertificate.Pkcs11

/-! ## Identities -/

/-- What identifies a session for as long as it is open. -/
structure Identity where
  birth : Nat
  handle : Nat
  serial : UInt32
  deriving DecidableEq, Repr

/-- What names a session. -/
def identity (session : PortalSession) : Identity where
  birth := session.birth
  handle := session.handle
  serial := session.serial

@[simp]
theorem identity_birth (session : PortalSession) :
    (identity session).birth = session.birth := rfl

@[simp]
theorem identity_handle (session : PortalSession) :
    (identity session).handle = session.handle := rfl

@[simp]
theorem identity_serial (session : PortalSession) :
    (identity session).serial = session.serial := rfl

theorem SameSession.identity
    {before after : PortalSession} (same : SameSession before after) :
    identity after = identity before := by
  simp [Invariants.identity, same.birth, same.handle, same.serial]

@[simp]
theorem identity_withoutOperations (session : PortalSession) :
    identity (withoutOperations session) = identity session := rfl

/-- The open sessions. -/
def identities (state : State) : List Identity :=
  state.table.map identity

theorem mem_identities
    {state : State} {session : PortalSession}
    (member : session ∈ state.table) :
    identity session ∈ identities state :=
  List.mem_map_of_mem member

/-- The trace speaks of the same sessions as the table. -/
theorem mem_endEvents
    {sessions : List PortalSession} {birth : Nat} :
    Event.sessionEnded birth ∈ endEvents sessions ↔
      ∃ entry ∈ sessions.map identity, entry.birth = birth := by
  simp [endEvents]

/-! ## Well-formed states -/

/-- The module before and between its lifecycles. -/
structure Closed (state : State) : Prop where
  sessions : state.sessions = none
  issuedIds : state.issuedIds = none
  client : state.client = none
  grant : state.grant = none
  alone : state.acquiring = false
  lasting : state.finalizing = false
  loggedOut : state.loggedIn = false

/-- The module during a lifecycle. -/
structure Opened (state : State) : Prop where
  sessions : ∃ table, state.sessions = some table
  issuedIds : ∃ issued, state.issuedIds = some issued

/-- What holds of the static variables whenever the lock is free. -/
structure WellFormed (state : State) : Prop where
  closed : state.initialized = false → Closed state
  opened : state.initialized = true → Opened state
  objects : state.grant.isSome = state.objects.isSome
  /-- The grant's client can be told to release it. -/
  connected : ∀ grant, state.grant = some grant →
    state.client.any PortalClient.connected = true
  /-- An acquisition starts without a grant, and nothing else installs. -/
  ungranted : state.acquiring = true → state.grant = none
  handles : ((identities state).map Identity.handle).Nodup
  births : ((identities state).map Identity.birth).Nodup
  fresh : ∀ entry ∈ identities state, entry.birth < state.openings
  /-- Serials count the openings, in 32 bits. -/
  serial : state.sessionSerial = UInt32.ofNat state.openings
  serials : ∀ entry ∈ identities state,
    entry.serial = UInt32.ofNat (entry.birth + 1)
  ended : ∀ birth, .sessionEnded birth ∈ state.trace →
    birth < state.openings ∧
      ∀ entry ∈ identities state, entry.birth ≠ birth
  loggedIn : state.loggedIn = true → identities state ≠ []

namespace WellFormed

variable {state : State} (wellFormed : WellFormed state)
include wellFormed

theorem of_sessions_none (none : state.sessions = none) : Closed state := by
  refine wellFormed.closed ?_
  by_contra initialized
  rcases (wellFormed.opened (by simpa using initialized)).sessions with
    ⟨table, some⟩
  rw [none] at some
  cases some

theorem initialized_of_mem
    {session : PortalSession} (member : session ∈ state.table) :
    state.initialized = true := by
  by_contra dead
  have closed := wellFormed.closed (by simpa using dead)
  simp [State.table, closed.sessions] at member

theorem initialized_of_grant
    {grant : PortalGrant} (current : state.grant = some grant) :
    state.initialized = true := by
  by_contra dead
  rw [(wellFormed.closed (by simpa using dead)).grant] at current
  cases current

theorem initialized_of_available
    (available : portalClientAvailable state.client = true) :
    state.initialized = true := by
  by_contra dead
  rw [(wellFormed.closed (by simpa using dead)).client] at available
  cases available

/-- A handle names one session. -/
theorem eq_of_handle
    {first second : PortalSession}
    (inTable : first ∈ state.table) (inTable' : second ∈ state.table)
    (same : first.handle = second.handle) : first = second := by
  have handles := wellFormed.handles
  rw [identities, List.map_map] at handles
  exact List.inj_on_of_nodup_map handles inTable inTable' same

theorem eq_of_birth
    {first second : PortalSession}
    (inTable : first ∈ state.table) (inTable' : second ∈ state.table)
    (same : first.birth = second.birth) : first = second := by
  have births := wellFormed.births
  rw [identities, List.map_map] at births
  exact List.inj_on_of_nodup_map births inTable inTable' same

/-- An update reaches the session that was found, and no other. -/
theorem mem_updateSession
    {handle : Nat} {session other : PortalSession}
    {update : PortalSession → PortalSession}
    (found : state.findSession handle = some session)
    (member : other ∈ (state.updateSession handle update).table) :
    other = update session ∨
      other ∈ state.table ∧ other.handle ≠ handle := by
  rcases findSession_mem found with ⟨inTable, rfl⟩
  rw [table_updateSession, List.mem_map] at member
  rcases member with ⟨before, inTable', rfl⟩
  split_ifs with same
  · exact Or.inl (congrArg update
      (wellFormed.eq_of_handle inTable' inTable same))
  · exact Or.inr ⟨inTable', same⟩

theorem identities_updateSession
    {handle : Nat} {session : PortalSession}
    {update : PortalSession → PortalSession}
    (found : state.findSession handle = some session)
    (same : SameSession session (update session)) :
    identities (state.updateSession handle update) = identities state := by
  rcases findSession_mem found with ⟨member, rfl⟩
  rw [identities, identities, table_updateSession, List.map_map]
  refine List.map_congr_left fun other inTable => ?_
  simp only [Function.comp_apply]
  split_ifs with sameHandle
  · cases wellFormed.eq_of_handle inTable member sameHandle
    exact SameSession.identity same
  · rfl

end WellFormed

/-- The variables are well formed before the first lifecycle. -/
theorem wellFormed_start : WellFormed .start where
  closed := fun _ => ⟨rfl, rfl, rfl, rfl, rfl, rfl, rfl⟩
  opened := fun initialized => nomatch initialized
  objects := rfl
  connected := fun _ current => nomatch current
  ungranted := fun acquiring => nomatch acquiring
  handles := List.nodup_nil
  births := List.nodup_nil
  fresh := fun _ member => nomatch member
  serial := rfl
  serials := fun _ member => nomatch member
  ended := fun _ member => nomatch member
  loggedIn := fun loggedIn => nomatch loggedIn

/-! ## Changes keep states well formed -/

theorem sessionEnded_releaseEvents
    {state : State} {birth : Nat} :
    Event.sessionEnded birth ∉ releaseEvents state := by
  intro member
  rcases mem_releaseEvents member with ⟨grant, -, event | event⟩ <;>
    cases event

theorem sessionEnded_dropEvents
    {state : State} {birth : Nat} :
    Event.sessionEnded birth ∉ dropEvents state := by
  intro member
  cases (mem_dropEvents member).2

theorem identities_eq
    {state : State} {table : List PortalSession}
    (tables : state.sessions = some table) :
    identities state = table.map identity := by
  simp [identities, State.table, tables]

section Tables

variable {state : State} (wellFormed : WellFormed state)
include wellFormed

/-- A session that leaves the table was counted when it was opened. -/
theorem WellFormed.ended_fresh
    {table removed : List PortalSession} {birth : Nat}
    (tables : state.sessions = some table) (part : removed ⊆ table)
    (member : .sessionEnded birth ∈ endEvents removed) :
    birth < state.openings := by
  rcases mem_endEvents.mp member with ⟨entry, inRemoved, rfl⟩
  refine wellFormed.fresh entry ?_
  rw [identities_eq tables]
  exact List.map_subset _ part inRemoved

/-- The state after its sessions and its grant have gone. -/
theorem WellFormed.retired
    {grant : PortalGrant} (current : state.grant = some grant) :
    WellFormed (retireGrant state grant) := by
  have initialized := wellFormed.initialized_of_grant current
  have opened := wellFormed.opened initialized
  rcases opened.sessions with ⟨table, tables⟩
  rw [retireGrant_eq tables]
  exact
    { closed := fun dead => by simp [initialized] at dead
      opened := fun _ => ⟨⟨[], rfl⟩, opened.issuedIds⟩
      objects := rfl
      connected := fun _ current => nomatch current
      ungranted := fun _ => rfl
      handles := List.nodup_nil
      births := List.nodup_nil
      fresh := fun _ member => nomatch member
      serial := wellFormed.serial
      serials := fun _ member => nomatch member
      ended := fun birth member => by
        refine ⟨?_, fun _ member => nomatch member⟩
        simp only [List.mem_cons, List.mem_append, reduceCtorEq,
          sessionEnded_releaseEvents, false_or] at member
        rcases member with removed | before
        · exact wellFormed.ended_fresh tables (List.Subset.refl _) removed
        · exact (wellFormed.ended birth before).1
      loggedIn := fun loggedIn => nomatch loggedIn }

theorem WellFormed.emits
    (event : Event) (other : ∀ birth, event ≠ .sessionEnded birth) :
    WellFormed (state.emit event) :=
  { wellFormed with
    closed := fun dead => { wellFormed.closed dead with }
    opened := fun initialized => { wellFormed.opened initialized with }
    ended := fun birth member =>
      wellFormed.ended birth
        ((List.mem_cons.mp member).resolve_left fun same =>
          other birth same.symm) }

/-- The variables stay well formed when a session is updated. -/
theorem WellFormed.updated
    {handle : Nat} {session : PortalSession}
    {update : PortalSession → PortalSession}
    (found : state.findSession handle = some session)
    (same : SameSession session (update session)) :
    WellFormed (state.updateSession handle update) := by
  have kept := wellFormed.identities_updateSession found same
  have initialized :=
    wellFormed.initialized_of_mem (findSession_mem found).1
  have opened := wellFormed.opened initialized
  rcases opened.sessions with ⟨table, tables⟩
  exact
    { wellFormed with
      closed := fun dead => by
        simp [State.updateSession, initialized] at dead
      opened := fun _ =>
        ⟨⟨_, by simp only [State.updateSession, tables]; rfl⟩,
          opened.issuedIds⟩
      handles := by rw [kept]; exact wellFormed.handles
      births := by rw [kept]; exact wellFormed.births
      fresh := by rw [kept]; exact wellFormed.fresh
      serials := by rw [kept]; exact wellFormed.serials
      ended := by rw [kept]; exact wellFormed.ended
      loggedIn := by rw [kept]; exact wellFormed.loggedIn }

/-- The variables stay well formed when the grant is released. -/
theorem WellFormed.released : WellFormed (releaseGrant state) := by
  have kept : identities (releaseGrant state) = identities state := by
    rw [releaseGrant_eq]
    cases sessions : state.sessions <;>
      simp [identities, State.table, sessions]
  have sameSessions : (releaseGrant state).sessions =
      state.sessions.map (List.map withoutOperations) := by
    rw [releaseGrant_eq]
  have ended (birth : Nat)
      (member : .sessionEnded birth ∈ (releaseGrant state).trace) :
      .sessionEnded birth ∈ state.trace := by
    rw [releaseGrant_eq] at member
    simpa [sessionEnded_dropEvents, sessionEnded_releaseEvents] using
      member
  have openings : (releaseGrant state).openings = state.openings := by
    rw [releaseGrant_eq]
  exact
    { closed := fun dead => by
        rw [releaseGrant_eq] at dead ⊢
        have closed := wellFormed.closed dead
        exact { closed with
          sessions := by simp [closed.sessions], grant := rfl }
      opened := fun initialized => by
        rw [releaseGrant_eq] at initialized
        have opened := wellFormed.opened initialized
        rcases opened.sessions with ⟨table, tables⟩
        refine ⟨⟨_, by rw [sameSessions, tables]; rfl⟩, ?_⟩
        rw [releaseGrant_eq]
        exact opened.issuedIds
      objects := by rw [releaseGrant_eq]; rfl
      connected := fun _ current => by
        rw [releaseGrant_eq] at current
        cases current
      ungranted := fun _ => by rw [releaseGrant_eq]
      handles := by rw [kept]; exact wellFormed.handles
      births := by rw [kept]; exact wellFormed.births
      fresh := by rw [kept, openings]; exact wellFormed.fresh
      serial := by rw [releaseGrant_eq]; exact wellFormed.serial
      serials := by rw [kept]; exact wellFormed.serials
      ended := fun birth member => by
        rw [kept, openings]
        exact wellFormed.ended birth (ended birth member)
      loggedIn := fun loggedIn => by
        rw [releaseGrant_eq] at loggedIn
        rw [kept]
        exact wellFormed.loggedIn loggedIn }

/-- The variables stay well formed when all sessions are closed. -/
theorem WellFormed.closedAll : WellFormed (cCloseAllSessions state).1 := by
  cases sessions : state.sessions with
  | none =>
      have closed := wellFormed.of_sessions_none sessions
      rw [cCloseAllSessions_destroyed sessions]
      exact
        { wellFormed with
          closed := fun _ => { closed with grant := rfl, loggedOut := rfl }
          opened := fun initialized =>
            { wellFormed.opened initialized with }
          objects := rfl
          connected := fun _ current => nomatch current
          ungranted := fun _ => rfl
          ended := fun birth member => by
            simp only [List.mem_cons, List.mem_append, reduceCtorEq,
              sessionEnded_releaseEvents, false_or] at member
            exact wellFormed.ended birth member
          loggedIn := fun loggedIn => nomatch loggedIn }
  | some table =>
      rw [cCloseAllSessions_eq sessions]
      exact
        { closed := fun dead => by
            have closed := wellFormed.closed dead
            rw [closed.sessions] at sessions
            cases sessions
          opened := fun initialized =>
            ⟨⟨[], rfl⟩, (wellFormed.opened initialized).issuedIds⟩
          objects := rfl
          connected := fun _ current => nomatch current
          ungranted := fun _ => rfl
          handles := List.nodup_nil
          births := List.nodup_nil
          fresh := fun _ member => nomatch member
          serial := wellFormed.serial
          serials := fun _ member => nomatch member
          ended := fun birth member => by
            refine ⟨?_, fun _ member => nomatch member⟩
            simp only [List.mem_cons, List.mem_append, reduceCtorEq,
              sessionEnded_releaseEvents, false_or] at member
            rcases member with removed | before
            · exact wellFormed.ended_fresh sessions
                (List.Subset.refl _) removed
            · exact (wellFormed.ended birth before).1
          loggedIn := fun loggedIn => nomatch loggedIn }

section Removed

variable
  {table : List PortalSession} (tables : state.sessions = some table)
  (handle : Nat)
include tables

omit wellFormed in
theorem kept_sublist :
    List.Sublist
      ((table.filter fun session => session.handle != handle).map identity)
      (identities state) := by
  rw [identities_eq tables]
  exact (List.filter_sublist).map _

/-- A session that is removed is not one of those that stay. -/
theorem WellFormed.removed_births
    {birth : Nat}
    (removed : .sessionEnded birth ∈ endEvents (table.filter fun session =>
      session.handle == handle)) :
    ∀ entry ∈ (table.filter fun session =>
      session.handle != handle).map identity, entry.birth ≠ birth := by
  intro entry remains same
  rcases mem_endEvents.mp removed with ⟨other, isRemoved, rfl⟩
  rcases List.mem_map.mp isRemoved with ⟨gone, inRemoved, rfl⟩
  rcases List.mem_map.mp remains with ⟨stays, isKept, rfl⟩
  rw [List.mem_filter] at inRemoved isKept
  have inTable : state.table = table := by simp [State.table, tables]
  have equal := wellFormed.eq_of_birth
    (inTable ▸ isKept.1) (inTable ▸ inRemoved.1) same
  subst equal
  simp only [bne_iff_ne, beq_iff_eq] at inRemoved isKept
  exact isKept.2 inRemoved.2

end Removed

/-- The variables stay well formed when a session is closed. -/
theorem WellFormed.closes (handle : Nat) :
    WellFormed (cCloseSession state handle).1 := by
  cases sessions : state.sessions with
  | none =>
      rw [cCloseSession_destroyed sessions]
      exact wellFormed.emits _ fun _ => Event.noConfusion
  | some table =>
      have kept := kept_sublist sessions handle
      rw [cCloseSession_eq sessions]
      exact
        { wellFormed with
          closed := fun dead => by
            have closed := wellFormed.closed dead
            rw [closed.sessions] at sessions
            cases sessions
          opened := fun initialized =>
            ⟨⟨_, rfl⟩, (wellFormed.opened initialized).issuedIds⟩
          handles := wellFormed.handles.sublist (kept.map _)
          births := wellFormed.births.sublist (kept.map _)
          fresh := fun entry member =>
            wellFormed.fresh entry (kept.subset member)
          serials := fun entry member =>
            wellFormed.serials entry (kept.subset member)
          ended := fun birth member => by
            rcases List.mem_append.mp member with removed | earlier
            · exact ⟨wellFormed.ended_fresh sessions
                  (List.filter_subset_self _) removed,
                wellFormed.removed_births sessions handle removed⟩
            · exact ⟨(wellFormed.ended birth earlier).1,
                fun entry remains =>
                  (wellFormed.ended birth earlier).2 entry
                    (kept.subset remains)⟩
          loggedIn := fun loggedIn => by
            dsimp only at loggedIn
            split_ifs at loggedIn with emptied
            have nonempty := wellFormed.loggedIn loggedIn
            rw [identities_eq sessions] at nonempty
            simp only [ne_eq, not_and_or, not_not] at emptied
            rcases emptied with nothing | remaining
            · rw [List.filter_eq_nil_iff] at nothing
              rw [identities, State.table, Option.getD_some,
                List.filter_eq_self.mpr]
              · exact nonempty
              · intro session member
                simpa using nothing session member
            · simpa [identities, State.table] using remaining }

/-- The variables stay well formed when a session is opened. -/
theorem WellFormed.opens
    {host : Host} (flags : CkUlong)
    (available : portalClientAvailable state.client = true) :
    WellFormed (addSession host state (newSession state flags)) := by
  have initialized := wellFormed.initialized_of_available available
  have opened := wellFormed.opened initialized
  rcases opened.sessions with ⟨table, tables⟩
  have kept := kept_sublist tables state.nextSession
  rw [addSession_eq tables]
  exact
    { wellFormed with
      closed := fun dead => by simp [initialized] at dead
      opened := fun _ => ⟨⟨_, rfl⟩, opened.issuedIds⟩
      handles := by
        refine List.nodup_cons.mpr
          ⟨?_, wellFormed.handles.sublist (kept.map _)⟩
        simp [newSession]
      births := by
        refine List.nodup_cons.mpr
          ⟨?_, wellFormed.births.sublist (kept.map _)⟩
        intro again
        rcases List.mem_map.mp again with ⟨entry, member, same⟩
        have old := wellFormed.fresh entry (kept.subset member)
        rw [same] at old
        exact lt_irrefl _ old
      fresh := fun entry member => by
        rcases List.mem_cons.mp member with rfl | member
        · exact Nat.lt_succ_self _
        · exact Nat.lt_succ_of_lt
            (wellFormed.fresh entry (kept.subset member))
      serial := by simp [newSession, wellFormed.serial]
      serials := fun entry member => by
        rcases List.mem_cons.mp member with rfl | member
        · simp [newSession, wellFormed.serial]
        · exact wellFormed.serials entry (kept.subset member)
      ended := fun birth member => by
        have old : birth < state.openings ∧
            ∀ entry ∈ (table.filter fun session =>
              session.handle != state.nextSession).map identity,
              entry.birth ≠ birth := by
          simp only [List.mem_append, List.mem_cons, reduceCtorEq,
            false_or] at member
          rcases member with removed | earlier
          · exact ⟨wellFormed.ended_fresh tables
                (List.filter_subset_self _) removed,
              wellFormed.removed_births tables _ removed⟩
          · exact ⟨(wellFormed.ended birth earlier).1,
              fun entry remains =>
                (wellFormed.ended birth earlier).2 entry
                  (kept.subset remains)⟩
        refine ⟨Nat.lt_succ_of_lt old.1, fun entry member => ?_⟩
        rcases List.mem_cons.mp member with rfl | member
        · exact (ne_of_lt old.1).symm
        · exact old.2 entry member
      loggedIn := fun _ => List.cons_ne_nil _ _ }

/-- The variables are well formed when a lifecycle begins. -/
theorem WellFormed.initializes
    (args : Option Calls.InitializeArgs) (answers : Answers)
    (before : state.initialized = false) :
    WellFormed (initializeState state args answers) := by
  have closed := wellFormed.closed before
  exact
    { closed := fun dead => nomatch dead
      opened := fun _ => ⟨⟨[], rfl⟩, ⟨[], rfl⟩⟩
      objects := wellFormed.objects
      connected := fun grant current => by
        have absent := closed.grant.symm.trans current
        cases absent
      ungranted := fun _ => closed.grant
      handles := List.nodup_nil
      births := List.nodup_nil
      fresh := fun _ member => nomatch member
      serial := wellFormed.serial
      serials := fun _ member => nomatch member
      ended := fun birth member => by
        refine ⟨(wellFormed.ended birth ?_).1,
          fun _ member => nomatch member⟩
        exact (List.mem_cons.mp member).resolve_left Event.noConfusion
      loggedIn := fun loggedIn => nomatch loggedIn }

/-- The variables are well formed when a lifecycle ends. -/
theorem WellFormed.finishesFinalize (settled : state.acquiring = false) :
    WellFormed (finishFinalize state).1 := by
  have openings : ∀ birth, .sessionEnded birth ∈ endEvents state.table →
      birth < state.openings := by
    intro birth member
    rcases mem_endEvents.mp member with ⟨entry, inTable, rfl⟩
    exact wellFormed.fresh entry inTable
  rw [finishFinalize_eq]
  exact
    { closed := fun _ => ⟨rfl, rfl, rfl, rfl, settled, rfl, rfl⟩
      opened := fun initialized => nomatch initialized
      objects := rfl
      connected := fun _ current => nomatch current
      ungranted := fun _ => rfl
      handles := List.nodup_nil
      births := List.nodup_nil
      fresh := fun _ member => nomatch member
      serial := wellFormed.serial
      serials := fun _ member => nomatch member
      ended := fun birth member => by
        refine ⟨?_, fun _ member => nomatch member⟩
        simp only [List.mem_cons, List.mem_append, reduceCtorEq,
          sessionEnded_dropEvents, sessionEnded_releaseEvents,
          false_or] at member
        rcases member with removed | earlier
        · exact openings birth removed
        · exact (wellFormed.ended birth earlier).1
      loggedIn := fun loggedIn => nomatch loggedIn }

omit wellFormed in
/-- The environment leaves the connection as it is. -/
theorem connected_apply (event : Environment) (state : State) :
    (event.apply state).client.any PortalClient.connected =
      state.client.any PortalClient.connected := by
  have same (client : PortalClient) :
      (event.client client).connected = client.connected := by
    cases event with
    | ownerChanged owner =>
        simp only [Environment.client, PortalClient.changeOwner]
        split_ifs <;> rfl
    | capabilitiesProbed mechanisms =>
        simp only [Environment.client, PortalClient.probe]
        split_ifs <;> rfl
    | grantInvalidated | sessionClosed | realTime | monotonicTime => rfl
  cases client : state.client with
  | none => simp [Environment.apply, client]
  | some client => simp [Environment.apply, client, same]

/-- The variables stay well formed whatever the portal does. -/
theorem WellFormed.environment (event : Environment) :
    WellFormed (event.apply state) :=
  { wellFormed with
    closed := fun dead => by
      have closed := wellFormed.closed dead
      exact
        { closed with
          client := by simp [Environment.apply, closed.client] }
    opened := fun initialized => { wellFormed.opened initialized with }
    connected := fun grant current => by
      rw [connected_apply event state]
      exact wellFormed.connected grant current }

end Tables

/-- Every change keeps the variables well formed. -/
theorem Change.wellFormed
    {host : Host} {first second : State}
    (change : Change host first second) (wellFormed : WellFormed first) :
    WellFormed second := by
  cases change with
  | retires current ended => exact wellFormed.retired current
  | revises found quiet finds =>
      exact wellFormed.updated found quiet.toSameSession
  | starts found starts current =>
      exact (wellFormed.updated found starts.toSameSession).emits _
        fun _ => Event.noConfusion
  | requests member active current =>
      exact wellFormed.emits _ fun _ => Event.noConfusion
  | logsIn member =>
      exact
        { wellFormed with
          closed := fun dead => by
            have initialized := wellFormed.initialized_of_mem member
            rw [initialized] at dead
            cases dead
          opened := fun initialized =>
            { wellFormed.opened initialized with }
          loggedIn := fun _ =>
            List.ne_nil_of_mem (mem_identities member) }
  | logsOut member =>
      refine WellFormed.released ?_
      exact
        { wellFormed.emits .loggedOut fun _ => Event.noConfusion with
          closed := fun dead =>
            { wellFormed.closed dead with loggedOut := rfl }
          opened := fun initialized =>
            { wellFormed.opened initialized with }
          loggedIn := fun loggedIn => nomatch loggedIn }
  | closesAll => exact wellFormed.closedAll
  | closes handle => exact wellFormed.closes handle
  | opens flags available => exact wellFormed.opens flags available
  | returnsSlotEvent pending =>
      exact
        { wellFormed.emits .slotEventReturned fun _ => Event.noConfusion with
          closed := fun dead => { wellFormed.closed dead with }
          opened := fun initialized =>
            { wellFormed.opened initialized with } }
  | initializes args answers before =>
      exact wellFormed.initializes args answers before
  | beginsFinalize before =>
      exact
        { wellFormed.emits .finalizing fun _ => Event.noConfusion with
          closed := fun dead => by
            have never := before.symm.trans dead
            cases never
          opened := fun initialized =>
            { wellFormed.opened initialized with } }
  | touchesNull destroyed =>
      exact wellFormed.emits _ fun _ => Event.noConfusion
  | environment event => exact wellFormed.environment event

end PortalCertificate.Module.Invariants
