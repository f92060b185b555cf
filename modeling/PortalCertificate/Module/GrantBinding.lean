import PortalCertificate.Library.Trace
import PortalCertificate.Module.Threads

/-!
# Requests are bound to their grants

An operation belongs to the grant that was current when it was initialised.
Whatever ends that grant resets the operations of all sessions, so no
request is ever made under another grant.
-/

namespace PortalCertificate.Module.GrantBinding

open PortalCertificate.Library.Trace
open PortalCertificate.Library.Transition
open PortalCertificate.Module.Acquire
open PortalCertificate.Module.Calls
open PortalCertificate.Module.Changes
open PortalCertificate.Module.Invariants
open PortalCertificate.Module.Lifecycle
open PortalCertificate.Module.Machine
open PortalCertificate.Module.Session
open PortalCertificate.Module.SessionCalls
open PortalCertificate.Module.Statics
open PortalCertificate.Module.Stretches
open PortalCertificate.Module.Threads
open PortalCertificate.Pkcs11

variable {host : Host}

/-! ## The grant in the trace -/

/-- A grant, by its acquisition and its portal session handle. -/
abbrev GrantName := Nat × String

/-- The name of a grant. -/
def grantName (grant : PortalGrant) : GrantName :=
  (grant.acquisition, grant.sessionHandle)

/-- What an event says about the current grant. -/
def grantEvent : Event → Option (Option GrantName)
  | .installed acquisition sessionHandle =>
      some (some (acquisition, sessionHandle))
  | .dropped _ _ => some none
  | _ => none

/-- The grant after a trace. -/
def currentGrant (trace : List Event) : Option GrantName :=
  (trace.findSome? grantEvent).join

theorem currentGrant_append
    {news : List Event} (silent : ∀ event ∈ news, grantEvent event = none)
    (trace : List Event) :
    currentGrant (news ++ trace) = currentGrant trace := by
  rw [currentGrant, findSome_append silent, currentGrant]

/-! ## Operations in the trace -/

/-- Neither the grant nor the operation of the session has changed. -/
def Undisturbed
    (kind : OperationKind) (birth : Nat) : Event → Prop
  | .installed _ _ | .dropped _ _ => False
  | .operationInitialised other session _ _ =>
      ¬(other = kind ∧ session = birth)
  | .sessionEnded session => session ≠ birth
  | _ => True

/--
The latest operation of this kind on the session was initialised when this
grant was current, and the grant has not changed since.
-/
def InitialisedUnder
    (kind : OperationKind) (birth : Nat) (grant : GrantName) :
    List Event → Prop :=
  Since (.operationInitialised kind birth grant.1 grant.2)
    (Undisturbed kind birth) fun earlier =>
      currentGrant earlier = some grant

/-- A request names the grant its operation was initialised under. -/
def BoundRequest : Event → List Event → Prop
  | .operationRequested request birth acquisition sessionHandle, before =>
      currentGrant before = some (acquisition, sessionHandle) ∧
        InitialisedUnder request.kind birth (acquisition, sessionHandle)
          before
  | _, _ => True

/-- The trace knows the grant, and every request is bound. -/
structure RequestsBound (state : State) : Prop where
  current : currentGrant state.trace = state.grant.map grantName
  requests : Each BoundRequest state.trace

/-! ## The invariant -/

/-- Besides, an active operation was initialised under the current grant. -/
structure OperationsBound (state : State) : Prop
    extends RequestsBound state where
  operations : ∀ session ∈ state.table, ∀ kind,
    operationActive kind session = true →
      ∃ grant, state.grant = some grant ∧
        InitialisedUnder kind session.birth (grantName grant) state.trace

/-- Events that neither touch the grant nor start or perform operations. -/
def Silent : Event → Prop
  | .installed _ _ | .dropped _ _ | .operationInitialised _ _ _ _
  | .operationRequested _ _ _ _ => False
  | _ => True

theorem Silent.grantEvent
    {event : Event} (silent : Silent event) : grantEvent event = none := by
  cases event <;> first | rfl | cases silent

theorem Silent.boundRequest
    {event : Event} (silent : Silent event) (before : List Event) :
    BoundRequest event before := by
  cases event <;> first | exact trivial | cases silent

theorem Silent.undisturbed
    {event : Event} (silent : Silent event) {birth : Nat}
    (stays : event ≠ .sessionEnded birth) (kind : OperationKind) :
    Undisturbed kind birth event := by
  cases event with
  | sessionEnded session =>
      exact fun same => stays (congrArg Event.sessionEnded same)
  | installed | dropped | operationInitialised
  | operationRequested => cases silent
  | _ => exact trivial

theorem silent_endEvents (sessions : List PortalSession) :
    ∀ event ∈ endEvents sessions, Silent event := by
  intro event member
  rcases List.mem_map.mp member with ⟨session, -, rfl⟩
  exact trivial

theorem boundRequest_releaseEvents (state : State) :
    ∀ event ∈ releaseEvents state, ∀ before,
      BoundRequest event before := by
  intro event member before
  rcases mem_releaseEvents member with ⟨grant, -, rfl | rfl⟩ <;>
    exact trivial

theorem silent_dropEvents (state : State) :
    ∀ event ∈ dropEvents state, Silent event := by
  intro event member
  rw [(mem_dropEvents member).2]
  exact trivial

section Bound

variable {first second : State} (bound : OperationsBound first)
include bound

/-- Without a grant there are no operations. -/
theorem OperationsBound.inactive
    (ungranted : first.grant = none) {session : PortalSession}
    (member : session ∈ first.table) (kind : OperationKind) :
    operationActive kind session = false := by
  by_contra active
  rcases bound.operations session member kind (by simpa using active) with
    ⟨grant, current, -⟩
  rw [ungranted] at current
  cases current

/-- Silent events, and sessions in which no operation starts. -/
theorem OperationsBound.silently
    (news : List Event)
    (grant : second.grant = first.grant)
    (trace : second.trace = news ++ first.trace)
    (silent : ∀ event ∈ news, Silent event)
    (sessions : ∀ session ∈ second.table,
      (∀ kind, operationActive kind session = false) ∨
        ∃ before ∈ first.table, Quiet before session ∧
          .sessionEnded session.birth ∉ news) :
    OperationsBound second where
  current := by
    rw [trace, currentGrant_append fun event member =>
      (silent event member).grantEvent, grant]
    exact bound.current
  requests := by
    rw [trace]
    exact bound.requests.append fun event member =>
      (silent event member).boundRequest
  operations := by
    intro session member kind active
    rcases sessions session member with
      inactive | ⟨before, inTable, quiet, stays⟩
    · rw [inactive kind] at active
      cases active
    · rcases bound.operations before inTable kind
        (quiet.active kind active) with ⟨current, granted, initialised⟩
      refine ⟨current, grant.trans granted, ?_⟩
      rw [trace, quiet.birth]
      refine initialised.append fun event member => ?_
      refine (silent event member).undisturbed ?_ kind
      rintro rfl
      exact stays (quiet.birth ▸ member)

/-- The other variables do not matter. -/
theorem OperationsBound.congr
    (grant : second.grant = first.grant)
    (trace : second.trace = first.trace)
    (table : second.table = first.table) : OperationsBound second :=
  bound.silently [] grant trace (by simp) fun session member =>
    Or.inr ⟨session, table ▸ member, Quiet.refl session, by simp⟩

/-- Releasing the grant tells the trace. -/
theorem OperationsBound.currentGrant_releaseEvents
    {before : List Event} (silent : ∀ event ∈ before, Silent event) :
    currentGrant (releaseEvents first ++ (before ++ first.trace)) =
      none := by
  cases current : first.grant with
  | none =>
      have known := bound.current
      rw [current] at known
      simp only [releaseEvents, current, List.nil_append]
      rw [currentGrant_append fun event member =>
        (silent event member).grantEvent]
      exact known
  | some grant =>
      simp [releaseEvents, current, currentGrant, List.findSome?_cons,
        grantEvent]

/-- The grant goes, and every operation with it. -/
theorem OperationsBound.drops
    (after before : List Event)
    (grant : second.grant = none)
    (trace : second.trace =
      after ++ (releaseEvents first ++ (before ++ first.trace)))
    (silentAfter : ∀ event ∈ after, Silent event)
    (silentBefore : ∀ event ∈ before, Silent event)
    (sessions : ∀ session ∈ second.table, ∀ kind,
      operationActive kind session = false) :
    OperationsBound second where
  current := by
    rw [trace, grant, currentGrant_append fun event member =>
      (silentAfter event member).grantEvent]
    exact bound.currentGrant_releaseEvents silentBefore
  requests := by
    rw [trace]
    refine ((bound.requests.append ?_).append ?_).append ?_
    · exact fun event member => (silentBefore event member).boundRequest
    · exact boundRequest_releaseEvents first
    · exact fun event member => (silentAfter event member).boundRequest
  operations := by
    intro session member kind active
    rw [sessions session member kind] at active
    cases active

end Bound

/-! ## Changes keep operations bound -/

section Changes

variable {state : State} (bound : OperationsBound state)
include bound

/-- One silent event, and the sessions as they were. -/
theorem OperationsBound.emits
    (event : Event) (silent : Silent event)
    (stays : ∀ birth, event ≠ .sessionEnded birth) :
    OperationsBound (state.emit event) := by
  refine bound.silently [event] rfl rfl (by simpa using silent) ?_
  intro session member
  exact Or.inr ⟨session, member, Quiet.refl session, by
    simpa using (stays session.birth).symm⟩

theorem OperationsBound.released : OperationsBound (releaseGrant state) := by
  rw [releaseGrant_eq]
  refine bound.drops (dropEvents state) [] rfl rfl
    (silent_dropEvents state) (by simp) ?_
  intro session member kind
  cases sessions : state.sessions with
  | none => simp [State.table, sessions] at member
  | some table =>
      simp only [State.table, sessions, Option.map_some,
        Option.getD_some, List.mem_map] at member
      rcases member with ⟨before, -, rfl⟩
      exact operationActive_withoutOperations kind before

omit bound in
/-- A session that stays in the table. -/
theorem quietly_kept
    {table : List PortalSession}
    {session : PortalSession}
    (wellFormed : WellFormed state) (tables : state.sessions = some table)
    (handle : Nat)
    (member : session ∈ table.filter fun session =>
      session.handle != handle) :
    ∃ before ∈ state.table, Quiet before session ∧
      .sessionEnded session.birth ∉
        endEvents (table.filter fun session =>
          session.handle == handle) := by
  refine ⟨session, ?_, Quiet.refl session, ?_⟩
  · simpa [State.table, tables] using (List.mem_filter.mp member).1
  · intro removed
    exact wellFormed.removed_births tables handle removed
      (identity session) (List.mem_map_of_mem member) rfl

theorem OperationsBound.finishes :
    OperationsBound (finishFinalize state).1 := by
  rw [finishFinalize_eq]
  refine bound.drops
    (.finalized :: (endEvents state.table ++ dropEvents state)) [] rfl
    (by simp) ?_ (by simp) ?_
  · intro event member
    simp only [List.mem_cons, List.mem_append] at member
    rcases member with rfl | member | member
    · exact trivial
    · exact silent_endEvents _ event member
    · exact silent_dropEvents state event member
  · intro session member
    cases member

/-- The operation that starts belongs to the current grant. -/
theorem OperationsBound.starts
    {handle : Nat} {session : PortalSession}
    {update : PortalSession → PortalSession} {grant : PortalGrant}
    {kind : OperationKind} (wellFormed : WellFormed state)
    (found : state.findSession handle = some session)
    (starts : Starts kind session (update session))
    (current : state.grant = some grant) :
    OperationsBound
      ((state.updateSession handle update).emit
        (.operationInitialised kind session.birth grant.acquisition
          grant.sessionHandle)) where
  current := bound.current
  requests := each_cons.mpr ⟨trivial, bound.requests⟩
  operations := by
    have named : currentGrant state.trace = some (grantName grant) := by
      rw [bound.current, current]
      rfl
    rcases findSession_mem found with ⟨inTable, sameHandle⟩
    -- An older operation is of another session, or of the other kind.
    have older {other : PortalSession} (member : other ∈ state.table)
        {otherKind : OperationKind}
        (active : operationActive otherKind other = true)
        (different : ¬(kind = otherKind ∧ session.birth = other.birth)) :
        ∃ grant', state.grant = some grant' ∧
          InitialisedUnder otherKind other.birth (grantName grant')
            (.operationInitialised kind session.birth grant.acquisition
              grant.sessionHandle :: state.trace) := by
      rcases bound.operations other member otherKind active with
        ⟨grant', current', initialised⟩
      refine ⟨grant', current', initialised.cons ?_⟩
      simpa [Undisturbed] using different
    intro other member otherKind active
    rcases wellFormed.mem_updateSession found member with
      rfl | ⟨inTable', otherHandle⟩
    · rcases starts.active otherKind active with rfl | before
      · rw [starts.birth]
        exact ⟨grant, current, since_now named⟩
      · by_cases same : kind = otherKind
        · subst same
          rw [starts.birth]
          exact ⟨grant, current, since_now named⟩
        · rw [starts.birth]
          exact older inTable before fun both => same both.1
    · refine older inTable' active fun both => otherHandle ?_
      rw [← wellFormed.eq_of_birth inTable inTable' both.2]
      exact sameHandle

/-- An active operation asks in the name of its own grant. -/
theorem OperationsBound.requested
    {session : PortalSession} {grant : PortalGrant}
    {request : OperationRequest} (member : session ∈ state.table)
    (active : operationActive request.kind session = true)
    (current : state.grant = some grant) :
    OperationsBound
      (state.emit
        (.operationRequested request session.birth grant.acquisition
          grant.sessionHandle)) where
  current := bound.current
  requests := by
    refine each_cons.mpr ⟨?_, bound.requests⟩
    rcases bound.operations session member request.kind active with
      ⟨grant', current', initialised⟩
    cases current.symm.trans current'
    refine ⟨?_, initialised⟩
    rw [bound.current, current]
    rfl
  operations := by
    intro other member otherKind active
    rcases bound.operations other member otherKind active with
      ⟨grant', current', initialised⟩
    refine ⟨grant', current', initialised.cons ?_⟩
    simp [Undisturbed]

end Changes

theorem Change.operationsBound
    {first second : State} (wellFormed : WellFormed first)
    (bound : OperationsBound first) (change : Change host first second) :
    OperationsBound second := by
  cases change with
  | @retires grant current ended =>
      rcases (wellFormed.opened
        (wellFormed.initialized_of_grant current)).sessions with
        ⟨table, tables⟩
      rw [retireGrant_eq tables]
      refine bound.drops
        (.retired grant.acquisition :: endEvents table) [] rfl (by simp)
        ?_ (by simp) ?_
      · intro event member
        rcases List.mem_cons.mp member with rfl | member
        · exact trivial
        · exact silent_endEvents table event member
      · intro session member
        cases member
  | @revises handle session update found quiet finds =>
      refine bound.silently [] rfl rfl (by simp) ?_
      intro other member
      rcases wellFormed.mem_updateSession found member with
        rfl | ⟨inTable, -⟩
      · exact Or.inr
          ⟨session, (findSession_mem found).1, quiet, by simp⟩
      · exact Or.inr ⟨other, inTable, Quiet.refl other, by simp⟩
  | starts found starts current =>
      exact bound.starts wellFormed found starts current
  | requests member active current =>
      exact bound.requested member active current
  | logsIn member =>
      exact bound.congr rfl rfl rfl
  | logsOut member =>
      refine OperationsBound.released ?_
      exact (bound.emits .loggedOut trivial
        fun _ => Event.noConfusion).congr rfl rfl rfl
  | closesAll =>
      cases sessions : first.sessions with
      | none =>
          rw [cCloseAllSessions_destroyed sessions]
          refine bound.drops [.nullTable] [.nullTable, .closedAll] rfl
            (by simp) (by simp [Silent]) (by simp [Silent]) ?_
          intro session member
          simp [State.table, sessions] at member
      | some table =>
          rw [cCloseAllSessions_eq sessions]
          refine bound.drops [] (endEvents table ++ [.closedAll]) rfl
            (by simp) (by simp) ?_ ?_
          · intro event member
            rcases List.mem_append.mp member with member | member
            · exact silent_endEvents table event member
            · rw [List.mem_singleton.mp member]
              exact trivial
          · intro session member
            cases member
  | closes handle =>
      cases sessions : first.sessions with
      | none =>
          rw [cCloseSession_destroyed sessions]
          exact bound.emits _ trivial fun _ => Event.noConfusion
      | some table =>
          rw [cCloseSession_eq sessions]
          refine bound.silently _ rfl rfl (silent_endEvents _) ?_
          intro session member
          exact Or.inr (quietly_kept wellFormed sessions handle member)
  | opens flags available =>
      rcases (wellFormed.opened
        (wellFormed.initialized_of_available available)).sessions with
        ⟨table, tables⟩
      rw [addSession_eq tables]
      refine bound.silently
        (endEvents (table.filter fun session =>
            session.handle == first.nextSession) ++
          [.sessionOpened first.openings first.nextSession]) rfl
        (by simp [newSession]) ?_ ?_
      · intro event member
        rcases List.mem_append.mp member with member | member
        · exact silent_endEvents _ event member
        · rw [List.mem_singleton.mp member]
          exact trivial
      · intro session member
        rcases List.mem_cons.mp member with rfl | member
        · exact Or.inl fun kind => by cases kind <;> rfl
        · rcases quietly_kept wellFormed tables _ member with
            ⟨before, inTable, quiet, stays⟩
          exact Or.inr ⟨before, inTable, quiet,
            by simpa [newSession] using stays⟩
  | returnsSlotEvent pending =>
      exact (bound.emits .slotEventReturned trivial
        fun _ => Event.noConfusion).congr rfl rfl rfl
  | initializes args answers before =>
      refine bound.silently [.initialized] rfl rfl
        (by simp [Silent]) ?_
      intro session member
      cases member
  | beginsFinalize before =>
      exact (bound.emits .finalizing trivial
        fun _ => Event.noConfusion).congr rfl rfl rfl
  | touchesNull destroyed =>
      exact bound.emits _ trivial fun _ => Event.noConfusion
  | environment event =>
      exact bound.congr rfl rfl rfl

/-! ## Acquisitions keep operations bound -/

/-- A grant is installed when there are no operations. -/
theorem OperationsBound.sets
    {state : State} (bound : OperationsBound state)
    (ungranted : state.grant = none) (grant : PortalGrant) :
    OperationsBound (setGrant state grant) where
  current := rfl
  requests := each_cons.mpr ⟨trivial, bound.requests⟩
  operations := by
    intro session member kind active
    rw [bound.inactive ungranted member kind] at active
    cases active

theorem operationsBound_lands
    {state middle : State} {acquisition : Acquisition}
    (bound : OperationsBound state) (ungranted : state.grant = none)
    (lands : Lands host state acquisition middle) :
    OperationsBound middle := by
  have ended (granted : Bool) :
      OperationsBound (endAcquire state acquisition granted) :=
    (bound.emits (.acquireReturned acquisition.number granted) trivial
      fun _ => Event.noConfusion).congr rfl rfl rfl
  cases lands with
  | refused code =>
      unfold noteRefusal
      split_ifs
      · exact (ended false).congr rfl rfl rfl
      · exact ended false
  | discarded =>
      unfold releaseAcquired
      split_ifs
      · exact (ended true).emits _ trivial fun _ => Event.noConfusion
      · exact ended true
  | @installed grant objects wanted created =>
      have set := (ended true).sets ungranted (numbered grant acquisition)
      unfold issueIdentifier
      split
      · exact (set.emits .nullTable trivial
          fun _ => Event.noConfusion).congr rfl rfl rfl
      · exact set.congr rfl rfl rfl
  | rejected grant wanted =>
      exact ((ended true).sets ungranted
        (numbered grant acquisition)).released

/-! ## Runs -/

theorem operationsBound_rule :
    Rule host (fun _ _ => True) OperationsBound OperationsBound
      (fun _ _ => True) where
  start :=
    { current := rfl
      requests := each_nil
      operations := fun _ member => nomatch member }
  enter := fun _ _ bound _ => bound
  change := fun _ _ wellFormed bound change =>
    Change.operationsBound wellFormed bound change
  finishes := fun _ _ bound _ => bound.finishes
  begins := fun state search session next acquisition _ bound may begins => by
    rcases Prod.mk.inj begins with ⟨rfl, -⟩
    have started := bound.emits
      (.acquireStarted state.acquisitions session.birth) trivial
      fun _ => Event.noConfusion
    exact ⟨started.congr rfl rfl rfl, trivial⟩
  flies := fun _ _ _ _ _ _ _ => trivial
  lands := fun _ _ _ wellFormed inFlight bound _ _ lands =>
    operationsBound_lands bound
      (wellFormed.ungranted inFlight.acquiring) lands
  leave := fun _ _ bound => bound

/--
In every run, each request to the portal names the portal session of the
grant that was current when its operation was initialised, and that grant
has been current since.
-/
theorem requests_bound
    {world : World} (reachable : (machine host).Reachable world) :
    RequestsBound world.state :=
  (operationsBound_rule.holds reachable).rest.toRequestsBound

/-! ## A signing run -/

/-- A client whose portal signs with ECDSA. -/
def sampleClient : PortalClient where
  address := 1
  connected := true
  owner := some ":1.1"
  ownerGeneration := 1
  invalidated := []
  available := true
  mechanisms := ["ECDSA"]

/-- Answers with a signature of one octet. -/
def sampleAnswers : Answers where
  hashInit := true
  hashed := true
  portal := .ok [1]
  client := some sampleClient
  process := "0000000000001"

/-- A grant of a key on P-256. -/
def sampleGrant : PortalGrant where
  acquisition := 0
  sessionHandle := "/session/1"
  owner := ":1.1"
  ownerGeneration := 1
  certificateDer := []
  keyType := "EC"
  keySize := 256
  keyCurve := none
  supportedMechanisms := ["ECDSA"]
  maySign := true
  mayDecrypt := false
  expiresAt := 0

/-- A host that gives a grant one private key. -/
def sampleHost : Host where
  hashes := Gnutls.constantHashes
  nextHandle := fun handle => handle + 1
  portalObjectsNew := fun _ _ => some
    { objects :=
        [{ handle := 1, objectClass := ckoPrivateKey, attributes := [] }]
      identifier := [1] }
  enumerateSetting := some "1"

/-- A call without a wait. -/
def calling (thread : Nat) (call : Call) : List Action :=
  [.enter thread call, .run thread sampleAnswers]

/-- Such a call runs its body in the state it finds. -/
theorem run_calling
    {world : World} {thread : Nat} {call : Call}
    (defined : world.state.undefined = false)
    (free : (world.threads thread).free = true)
    (entered : enterCall world.state call = .entered call) :
    (machine host).run world (calling thread call) =
      some (world.after thread call
        (lockedBody host world.state sampleAnswers call)) := by
  simp [calling, machine, step, definedStep, World.after, defined, free,
    entered]

/-- The first thread initializes, opens a session and starts to acquire. -/
def acquiringRun : List Action :=
  calling 0 (.cInitialize none) ++
  calling 0 (.cOpenSession portalSlotId ckfSerialSession true) ++
  calling 0 (.cFindObjectsInit 1 (.array []))

/-- It acquires and signs. -/
def signingRun : List Action :=
  acquiringRun ++
  [.acquired 0 (.ok sampleGrant)] ++
  calling 0 (.cSignInit 1 (some ⟨ckmEcdsa, none, 0⟩) 1) ++
  calling 0 (.cSign 1 (.octets (List.replicate 20 0)) true (some 64))

/-- A digest of 20 octets is signed as it is. -/
def signedDigest : Sign.SignRequest where
  mechanism := "ECDSA"
  hash := some "SHA1"
  mgf := none
  saltLength := none
  data := List.replicate 20 0

/-- A signature is requested with the grant of the example. -/
theorem requests_bound_signing :
    ∃ world, (machine sampleHost).run .start signingRun = some world ∧
      RequestsBound world.state ∧
      .operationRequested (.sign signedDigest) 0 0 "/session/1" ∈
        world.state.trace := by
  have moved : (machine sampleHost).run .start signingRun = some _ := rfl
  refine ⟨_, moved, requests_bound (.run (.initial rfl) moved), ?_⟩
  decide

end PortalCertificate.Module.GrantBinding
