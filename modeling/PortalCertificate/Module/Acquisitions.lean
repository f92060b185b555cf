import PortalCertificate.Module.GrantBinding

/-!
# The course of an acquisition

At most one acquisition is in flight.  A grant it returns is installed or
given back to the portal, and an installed grant is given back when it is
dropped, unless the portal has ended it.  The events of one acquisition are
therefore one of a few histories, and the module's variables say which.

Whether a grant is still wanted is decided by 32-bit counters.  The runs in
which they have not wrapped around install no grant that a logout, the end
of the session or a finalization has overtaken.
-/

namespace PortalCertificate.Module.Acquisitions

open PortalCertificate.Library.Trace
open PortalCertificate.Library.Transition
open PortalCertificate.Module.Acquire
open PortalCertificate.Module.Calls
open PortalCertificate.Module.Changes
open PortalCertificate.Module.GrantBinding
open PortalCertificate.Module.Invariants
open PortalCertificate.Module.Lifecycle
open PortalCertificate.Module.Machine
open PortalCertificate.Module.Session
open PortalCertificate.Module.Statics
open PortalCertificate.Module.Stretches
open PortalCertificate.Module.Threads
open PortalCertificate.Pkcs11

variable {host : Host}

/-! ## Histories -/

/-- The acquisition an event is about. -/
def acquisitionOf : Event → Option Nat
  | .acquireStarted acquisition _ | .acquireReturned acquisition _
  | .installed acquisition _ | .dropped acquisition _
  | .released acquisition | .retired acquisition => some acquisition
  | _ => none

/-- The events of one acquisition, newest first. -/
def history (acquisition : Nat) (trace : List Event) : List Event :=
  trace.filter fun event => acquisitionOf event == some acquisition

/-- Where an acquisition stands. -/
inductive Stage where
  | unstarted
  | inFlight
  | current
  | settled
  deriving DecidableEq, Repr

/-- Where the module's variables say that an acquisition stands. -/
def stage (state : State) (acquisition : Nat) : Stage :=
  if state.acquisitions ≤ acquisition then
    .unstarted
  else if state.acquiring ∧ acquisition + 1 = state.acquisitions then
    .inFlight
  else if state.grant.map PortalGrant.acquisition = some acquisition then
    .current
  else
    .settled

/-- What dropping a grant adds: it is released, unless it is gone. -/
def dropHistory (acquisition : Nat) (gone : Bool) : List Event :=
  .dropped acquisition gone ::
    (if gone then [] else [.released acquisition])

/-- The histories of an acquisition. -/
inductive Course (acquisition : Nat) : Stage → List Event → Prop where
  | unstarted : Course acquisition .unstarted []
  | inFlight (birth : Nat) :
      Course acquisition .inFlight [.acquireStarted acquisition birth]
  | refused (birth : Nat) :
      Course acquisition .settled
        [.acquireReturned acquisition false,
          .acquireStarted acquisition birth]
  | discarded (birth : Nat) :
      Course acquisition .settled
        [.released acquisition, .acquireReturned acquisition true,
          .acquireStarted acquisition birth]
  | current (birth : Nat) (sessionHandle : String) :
      Course acquisition .current
        [.installed acquisition sessionHandle,
          .acquireReturned acquisition true,
          .acquireStarted acquisition birth]
  | dropped (birth : Nat) (sessionHandle : String) (gone : Bool) :
      Course acquisition .settled
        (dropHistory acquisition gone ++
          [.installed acquisition sessionHandle,
            .acquireReturned acquisition true,
            .acquireStarted acquisition birth])
  | retired (birth : Nat) (sessionHandle : String) (gone : Bool) :
      Course acquisition .settled
        (.retired acquisition :: dropHistory acquisition gone ++
          [.installed acquisition sessionHandle,
            .acquireReturned acquisition true,
            .acquireStarted acquisition birth])

/-- Every acquisition is where the variables say. -/
def Courses (state : State) : Prop :=
  ∀ acquisition, Course acquisition (stage state acquisition)
    (history acquisition state.trace)

theorem Course.drops
    {acquisition : Nat} {events : List Event}
    (course : Course acquisition .current events) (gone : Bool) :
    Course acquisition .settled (dropHistory acquisition gone ++ events) := by
  cases course with
  | current birth sessionHandle => exact .dropped birth sessionHandle gone

theorem Course.retires
    {acquisition : Nat} {events : List Event}
    (course : Course acquisition .current events) (gone : Bool) :
    Course acquisition .settled
      (.retired acquisition :: dropHistory acquisition gone ++ events) := by
  cases course with
  | current birth sessionHandle => exact .retired birth sessionHandle gone

/-! ## How changes move acquisitions -/

/-- Events of no acquisition. -/
def Foreign (events : List Event) : Prop :=
  ∀ event ∈ events, acquisitionOf event = none

theorem foreign_endEvents (sessions : List PortalSession) :
    Foreign (endEvents sessions) := by
  intro event member
  rcases List.mem_map.mp member with ⟨session, -, rfl⟩
  rfl

theorem foreign_dropEvents (state : State) : Foreign (dropEvents state) := by
  intro event member
  rw [(mem_dropEvents member).2]
  rfl

theorem Foreign.append
    {first second : List Event} (foreign : Foreign first)
    (foreign' : Foreign second) : Foreign (first ++ second) :=
  fun event member =>
    (List.mem_append.mp member).elim (foreign event) (foreign' event)

theorem foreign_cons
    {event : Event} {events : List Event}
    (none : acquisitionOf event = none) (foreign : Foreign events) :
    Foreign (event :: events) := by
  intro other member
  rcases List.mem_cons.mp member with rfl | member
  · exact none
  · exact foreign other member

theorem foreign_nil : Foreign [] := fun _ member => nomatch member

theorem history_foreign
    {events : List Event} (foreign : Foreign events) (acquisition : Nat)
    (trace : List Event) :
    history acquisition (events ++ trace) = history acquisition trace := by
  rw [history, List.filter_append, List.filter_eq_nil_iff.mpr]
  · rfl
  · intro event member
    simp [foreign event member]

/-- What a change does to the acquisitions. -/
inductive Ledger (first second : State) : Prop where
  | keeps (news : List Event) (foreign : Foreign news)
      (trace : second.trace = news ++ first.trace)
      (grant : second.grant = first.grant)
  | drops (after before : List Event)
      (foreign : Foreign after) (foreign' : Foreign before)
      (trace : second.trace =
        after ++ (releaseEvents first ++ (before ++ first.trace)))
      (grant : second.grant = none)
  | retires (ended : List Event) (grant : PortalGrant)
      (foreign : Foreign ended)
      (trace : second.trace = .retired grant.acquisition ::
        (ended ++ (releaseEvents first ++ first.trace)))
      (current : first.grant = some grant)
      (grant' : second.grant = none)

/-- No change by itself begins an acquisition. -/
theorem Change.acquisitions
    {first second : State} (wellFormed : WellFormed first)
    (change : Change host first second) :
    second.acquisitions = first.acquisitions := by
  cases change with
  | retires current ended =>
      rcases (wellFormed.opened
        (wellFormed.initialized_of_grant current)).sessions with
        ⟨table, tables⟩
      rw [retireGrant_eq tables]
  | logsOut member => rw [releaseGrant_eq]; rfl
  | closesAll =>
      cases sessions : first.sessions with
      | none => rw [cCloseAllSessions_destroyed sessions]
      | some table => rw [cCloseAllSessions_eq sessions]
  | closes handle =>
      cases sessions : first.sessions with
      | none => rw [cCloseSession_destroyed sessions]; rfl
      | some table => rw [cCloseSession_eq sessions]
  | opens flags available =>
      rcases (wellFormed.opened
        (wellFormed.initialized_of_available available)).sessions with
        ⟨table, tables⟩
      rw [addSession_eq tables]
  | revises | starts | requests | logsIn | returnsSlotEvent
  | initializes | beginsFinalize | touchesNull | environment => rfl

/-- What any change does to the acquisitions. -/
theorem Change.ledger
    {first second : State} (wellFormed : WellFormed first)
    (change : Change host first second) : Ledger first second := by
  cases change with
  | @retires grant current ended =>
      rcases (wellFormed.opened
        (wellFormed.initialized_of_grant current)).sessions with
        ⟨table, tables⟩
      rw [retireGrant_eq tables]
      exact .retires (endEvents table) grant (foreign_endEvents table) rfl
        current rfl
  | logsOut member =>
      rw [releaseGrant_eq]
      exact .drops _ [.loggedOut] (foreign_dropEvents _)
        (foreign_cons rfl foreign_nil) rfl rfl
  | closesAll =>
      cases sessions : first.sessions with
      | none =>
          rw [cCloseAllSessions_destroyed sessions]
          exact .drops [.nullTable] [.nullTable, .closedAll]
            (foreign_cons rfl foreign_nil)
            (foreign_cons rfl (foreign_cons rfl foreign_nil)) rfl rfl
      | some table =>
          rw [cCloseAllSessions_eq sessions]
          exact .drops [] (endEvents table ++ [.closedAll]) foreign_nil
            ((foreign_endEvents table).append
              (foreign_cons rfl foreign_nil)) (by simp) rfl
  | closes handle =>
      cases sessions : first.sessions with
      | none =>
          rw [cCloseSession_destroyed sessions]
          exact .keeps [.nullTable] (foreign_cons rfl foreign_nil) rfl rfl
      | some table =>
          rw [cCloseSession_eq sessions]
          exact .keeps _ (foreign_endEvents _) rfl rfl
  | opens flags available =>
      rcases (wellFormed.opened
        (wellFormed.initialized_of_available available)).sessions with
        ⟨table, tables⟩
      rw [addSession_eq tables]
      exact .keeps (_ ++ [.sessionOpened _ _])
        ((foreign_endEvents _).append (foreign_cons rfl foreign_nil))
        (by simp only [List.append_assoc, List.singleton_append]; rfl) rfl
  | revises | logsIn | environment => exact .keeps [] foreign_nil rfl rfl
  | starts | requests | returnsSlotEvent | initializes | beginsFinalize
  | touchesNull =>
      exact .keeps [_] (foreign_cons rfl foreign_nil) rfl rfl

/-- What the end of a lifecycle does to the acquisitions. -/
theorem ledger_finishFinalize (state : State) :
    Ledger state (finishFinalize state).1 := by
  rw [finishFinalize_eq]
  exact .drops (.finalized :: (endEvents state.table ++ dropEvents state))
    [] (foreign_cons rfl
      ((foreign_endEvents _).append (foreign_dropEvents _)))
    foreign_nil (by simp) rfl

/-! ## Courses are kept -/

/-- Every acquisition is where the variables say, and the grant is that of one
of them. -/
structure Settles (state : State) : Prop where
  courses : Courses state
  /-- The grant has a number that was given out. -/
  known : ∀ grant, state.grant = some grant →
    grant.acquisition < state.acquisitions

theorem stage_congr
    {first second : State}
    (acquisitions : second.acquisitions = first.acquisitions)
    (acquiring : second.acquiring = first.acquiring)
    (grant : second.grant.map PortalGrant.acquisition =
      first.grant.map PortalGrant.acquisition) (acquisition : Nat) :
    stage second acquisition = stage first acquisition := by
  simp only [stage, acquisitions, acquiring, grant]

theorem stage_current
    {state : State} {grant : PortalGrant}
    (alone : state.acquiring = false) (current : state.grant = some grant)
    (known : grant.acquisition < state.acquisitions) :
    stage state grant.acquisition = .current := by
  simp [stage, alone, current, Nat.not_le.mpr known]

/-- Dropping the grant settles its acquisition, and moves no other. -/
theorem stage_dropped
    {first second : State} {grant : PortalGrant}
    (acquisitions : second.acquisitions = first.acquisitions)
    (acquiring : second.acquiring = first.acquiring)
    (alone : first.acquiring = false)
    (current : first.grant = some grant)
    (known : grant.acquisition < first.acquisitions)
    (dropped : second.grant = none) (acquisition : Nat) :
    stage second acquisition =
      if acquisition = grant.acquisition then .settled
      else stage first acquisition := by
  rcases eq_or_ne acquisition grant.acquisition with rfl | different
  · simp [stage, acquisitions, acquiring, alone, dropped,
      Nat.not_le.mpr known]
  · simp [stage, acquisitions, acquiring, alone, current, dropped,
      different, different.symm]

theorem releaseEvents_eq
    {state : State} {grant : PortalGrant}
    (connected : state.client.any PortalClient.connected = true)
    (current : state.grant = some grant) :
    releaseEvents state = dropHistory grant.acquisition
      (portalClientGrantGone state.client grant) := by
  cases gone : portalClientGrantGone state.client grant <;>
    simp [releaseEvents, dropHistory, current, connected, gone]

/-- The events of dropping a grant are of its own acquisition. -/
theorem history_dropHistory
    (acquisition dropped : Nat) (gone : Bool) (trace : List Event) :
    history acquisition (dropHistory dropped gone ++ trace) =
      if acquisition = dropped then
        dropHistory dropped gone ++ history acquisition trace
      else
        history acquisition trace := by
  rcases eq_or_ne acquisition dropped with rfl | different
  · cases gone <;> simp [history, dropHistory, acquisitionOf]
  · cases gone <;>
      simp [history, dropHistory, acquisitionOf, different,
        different.symm]

theorem history_retired
    (acquisition retired : Nat) (trace : List Event) :
    history acquisition (.retired retired :: trace) =
      if acquisition = retired then
        .retired retired :: history acquisition trace
      else
        history acquisition trace := by
  rcases eq_or_ne acquisition retired with rfl | different
  · simp [history, acquisitionOf]
  · simp [history, acquisitionOf, different, different.symm]

/-- The grant is dropped, if there is one. -/
theorem Settles.drops
    {first second : State} (settles : Settles first)
    (connected : ∀ grant, first.grant = some grant →
      first.client.any PortalClient.connected = true)
    (alone : ∀ grant, first.grant = some grant → first.acquiring = false)
    (acquisitions : second.acquisitions = first.acquisitions)
    (acquiring : second.acquiring = first.acquiring)
    (after before : List Event) (foreign : Foreign after)
    (foreign' : Foreign before)
    (trace : second.trace =
      after ++ (releaseEvents first ++ (before ++ first.trace)))
    (grant : second.grant = none) : Settles second := by
  refine ⟨fun acquisition => ?_, fun other current => ?_⟩
  · rw [trace, history_foreign foreign]
    cases current : first.grant with
    | none =>
        rw [releaseEvents, current, List.nil_append,
          history_foreign foreign',
          stage_congr acquisitions acquiring (by rw [grant, current])]
        exact settles.courses acquisition
    | some old =>
        have known := settles.known old current
        rw [releaseEvents_eq (connected old current) current,
          history_dropHistory, history_foreign foreign',
          stage_dropped acquisitions acquiring (alone old current) current
            known grant]
        have course := settles.courses acquisition
        split_ifs with same
        · subst same
          rw [stage_current (alone old current) current known] at course
          exact course.drops _
        · exact course
  · rw [grant] at current
    cases current

theorem WellFormed.alone_of_grant
    {state : State} (wellFormed : WellFormed state) {grant : PortalGrant}
    (current : state.grant = some grant) : state.acquiring = false := by
  by_contra acquires
  rw [wellFormed.ungranted (by simpa using acquires)] at current
  cases current

theorem Settles.kept
    {first second : State} (wellFormed : WellFormed first)
    (settles : Settles first)
    (acquisitions : second.acquisitions = first.acquisitions)
    (acquiring : second.acquiring = first.acquiring)
    (ledger : Ledger first second) : Settles second := by
  cases ledger with
  | keeps news foreign trace grant =>
      exact
        { courses := fun acquisition => by
            rw [trace, history_foreign foreign,
              stage_congr acquisitions acquiring (by rw [grant])]
            exact settles.courses acquisition
          known := fun other current => by
            rw [acquisitions]
            exact settles.known other (grant ▸ current) }
  | drops after before foreign foreign' trace grant =>
      exact settles.drops wellFormed.connected
        (fun _ => WellFormed.alone_of_grant wellFormed)
        acquisitions acquiring after before foreign foreign' trace grant
  | retires ended old foreign trace current grant =>
      refine ⟨fun acquisition => ?_, fun other current => ?_⟩
      · have alone := WellFormed.alone_of_grant wellFormed current
        have known := settles.known old current
        rw [trace, history_retired, history_foreign foreign,
          releaseEvents_eq (wellFormed.connected old current) current,
          history_dropHistory,
          stage_dropped acquisitions acquiring alone current known grant]
        have course := settles.courses acquisition
        split_ifs with same
        · subst same
          rw [stage_current alone current known] at course
          exact course.retires _
        · exact course
      · rw [grant] at current
        cases current

/-- An acquisition may be begun when it may. -/
theorem settles_beginAcquire
    {state : State} {search : Search} {session : PortalSession}
    (settles : Settles state)
    (may : MayAcquire host state search session) :
    Settles (beginAcquire state search session).1 where
  courses := by
    intro acquisition
    have course := settles.courses acquisition
    rcases lt_trichotomy acquisition state.acquisitions with
      before | rfl | after
    · have same : stage (beginAcquire state search session).1 acquisition =
          stage state acquisition := by
        simp [stage, beginAcquire, State.emit, may.alone, may.ungranted,
          before.ne, Nat.not_le.mpr before,
          Nat.not_le.mpr (Nat.lt_succ_of_lt before)]
      have kept : history acquisition
            (beginAcquire state search session).1.trace =
          history acquisition state.trace := by
        simp [history, beginAcquire, State.emit, acquisitionOf,
          before.ne']
      rw [same, kept]
      exact course
    · have fresh : stage state state.acquisitions = .unstarted := by
        simp [stage]
      rw [fresh] at course
      have empty : history state.acquisitions state.trace = [] := by
        generalize history state.acquisitions state.trace = events at course
        cases course
        rfl
      have starts : stage (beginAcquire state search session).1
          state.acquisitions = .inFlight := by
        simp [stage, beginAcquire, State.emit]
      have started : history state.acquisitions
            (beginAcquire state search session).1.trace =
          [.acquireStarted state.acquisitions session.birth] := by
        rw [← empty]
        simp [history, beginAcquire, State.emit, acquisitionOf]
      rw [starts, started]
      exact .inFlight session.birth
    · have fresh : stage state acquisition = .unstarted := by
        simp [stage, after.le]
      have later : stage (beginAcquire state search session).1
          acquisition = .unstarted := by
        simp [stage, beginAcquire, State.emit, Nat.succ_le_of_lt after]
      have kept : history acquisition
            (beginAcquire state search session).1.trace =
          history acquisition state.trace := by
        simp [history, beginAcquire, State.emit, acquisitionOf,
          after.ne]
      rw [later, kept, ← fresh]
      exact course
  known := by
    intro grant current
    rw [beginAcquire, State.emit] at current
    rw [may.ungranted] at current
    cases current

/-- The end of an acquisition moves that acquisition only. -/
theorem stage_landed
    {state middle : State} {acquisition : Acquisition}
    (inFlight : InFlight state acquisition)
    (acquisitions : middle.acquisitions = state.acquisitions)
    (alone : middle.acquiring = false)
    (grant : ∀ other, middle.grant = some other →
      other.acquisition = acquisition.number)
    (ungranted : state.grant = none) (number : Nat) :
    stage middle number =
      if number = acquisition.number then
        if middle.grant.isSome then .current else .settled
      else
        stage state number := by
  have latest := inFlight.number
  rcases eq_or_ne number acquisition.number with rfl | different
  · cases current : middle.grant with
    | none => simp [stage, acquisitions, alone, current, ← latest]
    | some other =>
        simp [stage, acquisitions, alone, current, ← latest,
          grant other current]
  · have notLatest : number + 1 ≠ state.acquisitions := by omega
    cases current : middle.grant with
    | none =>
        simp [stage, acquisitions, alone, current, ungranted, different,
          notLatest]
    | some other =>
        simp [stage, acquisitions, alone, current, ungranted, different,
          notLatest, grant other current, different.symm]

/-- A landing adds events of its own acquisition. -/
theorem settles_landed
    {state middle : State} {acquisition : Acquisition}
    (news : List Event) (settles : Settles state)
    (inFlight : InFlight state acquisition)
    (ungranted : state.grant = none)
    (acquisitions : middle.acquisitions = state.acquisitions)
    (alone : middle.acquiring = false)
    (grant : ∀ other, middle.grant = some other →
      other.acquisition = acquisition.number)
    (trace : middle.trace = news ++ state.trace)
    (own : ∀ event ∈ news, acquisitionOf event = some acquisition.number)
    (course : ∀ birth, Course acquisition.number
      (if middle.grant.isSome then .current else .settled)
      (news ++ [.acquireStarted acquisition.number birth])) :
    Settles middle where
  courses := by
    intro number
    have before := settles.courses number
    rw [stage_landed inFlight acquisitions alone grant ungranted, trace,
      history, List.filter_append]
    rcases eq_or_ne number acquisition.number with rfl | different
    · have flying : stage state acquisition.number = .inFlight := by
        simp [stage, inFlight.acquiring, ← inFlight.number]
      have whole : news.filter (fun event =>
          acquisitionOf event == some acquisition.number) = news := by
        rw [List.filter_eq_self]
        intro event member
        simp [own event member]
      rw [flying, history] at before
      rw [if_pos rfl, whole]
      generalize state.trace.filter (fun event =>
        acquisitionOf event == some acquisition.number) = events at before ⊢
      cases before with
      | inFlight birth => exact course birth
    · have nothing : news.filter (fun event =>
          acquisitionOf event == some number) = [] := by
        rw [List.filter_eq_nil_iff]
        intro event member
        simpa [own event member] using different.symm
      rw [if_neg different, nothing]
      exact before
  known := by
    intro other current
    rw [grant other current, acquisitions, ← inFlight.number]
    exact Nat.lt_succ_self _

/-- An acquisition that lands is settled. -/
theorem settles_lands
    {state middle : State} {acquisition : Acquisition}
    (wellFormed : WellFormed state) (settles : Settles state)
    (inFlight : InFlight state acquisition)
    (lands : Lands host state acquisition middle) : Settles middle := by
  have ungranted := wellFormed.ungranted inFlight.acquiring
  have nobody {other : PortalGrant} (current : state.grant = some other) :
      other.acquisition = acquisition.number := by
    rw [ungranted] at current
    cases current
  have opened := wellFormed.opened
    (initialized_of_acquiring wellFormed inFlight.acquiring)
  rcases opened.issuedIds with ⟨issued, tables⟩
  have set (grant : PortalGrant) : Settles
      (setGrant (endAcquire state acquisition true)
        (numbered grant acquisition)) := by
    refine settles_landed
      [.installed acquisition.number grant.sessionHandle,
        .acquireReturned acquisition.number true]
      settles inFlight ungranted rfl rfl ?_ rfl ?_ ?_
    · rintro other current
      cases current
      rfl
    · simp [acquisitionOf]
    · intro birth
      exact .current birth grant.sessionHandle
  cases lands with
  | refused code =>
      have landed : Settles (endAcquire state acquisition false) := by
        refine settles_landed [.acquireReturned acquisition.number false]
          settles inFlight ungranted rfl rfl (fun _ => nobody) rfl ?_ ?_
        · simp [acquisitionOf]
        · intro birth
          simp only [endAcquire, State.emit, ungranted]
          exact .refused birth
      unfold noteRefusal
      split_ifs
      · exact ⟨landed.courses, landed.known⟩
      · exact landed
  | discarded =>
      simp only [releaseAcquired, inFlight.acquired, if_true]
      refine settles_landed
        [.released acquisition.number,
          .acquireReturned acquisition.number true]
        settles inFlight ungranted rfl rfl (fun _ => nobody) rfl ?_ ?_
      · simp [acquisitionOf]
      · intro birth
        simp only [endAcquire, State.emit, ungranted]
        exact .discarded birth
  | @installed grant objects wanted created =>
      have granted := set grant
      rw [issueIdentifier]
      simp only [setGrant, endAcquire, State.emit, tables]
      exact ⟨granted.courses, granted.known⟩
  | rejected grant wanted =>
      refine (set grant).drops (fun _ _ => inFlight.connected)
        (fun _ _ => rfl) (by rw [releaseGrant_eq]) (by rw [releaseGrant_eq])
        (dropEvents (setGrant (endAcquire state acquisition true)
          (numbered grant acquisition))) []
        (foreign_dropEvents _) foreign_nil ?_ ?_
      · rw [releaseGrant_eq]
        rfl
      · rw [releaseGrant_eq]

end PortalCertificate.Module.Acquisitions
