import PortalCertificate.Module.GrantBinding

/-!
# Throttled choosers

An acquisition shows a chooser to the user, so it is started only by a search
that wants a credential while there is no grant, and not for a while after
the user has refused one.

The code keeps no refusal as the time 0.  The monotonic clock is taken not to
stand at 0 when an acquisition returns.
-/

namespace PortalCertificate.Module.Throttling

open PortalCertificate.Library.Transition
open PortalCertificate.Module.Acquire
open PortalCertificate.Module.Calls
open PortalCertificate.Module.Changes
open PortalCertificate.Module.GrantBinding (acquiringRun calling
  sampleAnswers sampleHost)
open PortalCertificate.Module.Invariants
open PortalCertificate.Module.Lifecycle
open PortalCertificate.Module.Machine
open PortalCertificate.Module.Session
open PortalCertificate.Module.SessionCalls
open PortalCertificate.Module.Statics
open PortalCertificate.Module.Stretches
open PortalCertificate.Module.Template
open PortalCertificate.Module.Threads
open PortalCertificate.Pkcs11

variable {host : Host}

/-! ## Resting -/

/-- How often the module has been initialized. -/
def initializations (state : State) : Nat :=
  state.trace.count .initialized

@[simp]
theorem count_endEvents (sessions : List PortalSession) :
    (endEvents sessions).count .initialized = 0 := by
  simp [endEvents, List.count_eq_zero]

@[simp]
theorem count_releaseEvents (state : State) :
    (releaseEvents state).count .initialized = 0 := by
  rw [List.count_eq_zero]
  intro member
  rcases mem_releaseEvents member with ⟨grant, -, event | event⟩ <;>
    cases event

@[simp]
theorem count_dropEvents (state : State) :
    (dropEvents state).count .initialized = 0 := by
  rw [List.count_eq_zero]
  intro member
  cases (mem_dropEvents member).2

/-- No acquisition is started, and no refusal noted or forgotten. -/
structure Rests (first second : State) : Prop where
  clock : first.monotonicTime ≤ second.monotonicTime
  counted : initializations first ≤ initializations second
  refusal : initializations second = initializations first →
    second.refusalTime = first.refusalTime
  acquisitions : second.acquisitions = first.acquisitions

theorem Rests.refl (state : State) : Rests state state :=
  ⟨Int.le_refl _, Nat.le_refl _, fun _ => rfl, rfl⟩

theorem Rests.trans
    {first second third : State}
    (here : Rests first second) (there : Rests second third) :
    Rests first third where
  clock := here.clock.trans there.clock
  counted := here.counted.trans there.counted
  refusal := by
    intro same
    have before := here.counted
    have after := there.counted
    rw [there.refusal (by omega), here.refusal (by omega)]
  acquisitions := there.acquisitions.trans here.acquisitions

/-- Events that are not initializations. -/
theorem Rests.appends
    {first second : State} (news : List Event)
    (quiet : news.count .initialized = 0)
    (trace : second.trace = news ++ first.trace)
    (clock : second.monotonicTime = first.monotonicTime)
    (refusal : second.refusalTime = first.refusalTime)
    (acquisitions : second.acquisitions = first.acquisitions) :
    Rests first second := by
  have same : initializations second = initializations first := by
    rw [initializations, trace, List.count_append, quiet, Nat.zero_add]
    rfl
  exact ⟨Int.le_of_eq clock.symm, Nat.le_of_eq same.symm,
    fun _ => refusal, acquisitions⟩

theorem rests_releaseGrant (state : State) :
    Rests state (releaseGrant state) := by
  rw [releaseGrant_eq]
  apply Rests.appends (dropEvents state ++ releaseEvents state)
  · simp
  · simp
  all_goals rfl

/-- No change by itself asks the user, or notes a refusal. -/
theorem Change.rests
    {first second : State} (change : Change host first second) :
    Rests first second := by
  have emits {second : State} (event : Event) (other : event ≠ .initialized)
      (trace : second.trace = event :: first.trace)
      (clock : second.monotonicTime = first.monotonicTime)
      (refusal : second.refusalTime = first.refusalTime)
      (acquisitions : second.acquisitions = first.acquisitions) :
      Rests first second := by
    apply Rests.appends [event] _ trace clock refusal acquisitions
    rw [List.count_eq_zero, List.mem_singleton]
    exact other.symm
  cases change with
  | retires current ended =>
      apply (rests_releaseGrant first).trans
      rw [retireGrant]
      cases sessions : (releaseGrant first).sessions with
      | none =>
          rw [State.removeAllSessions, sessions]
          exact .appends [_, _] (by simp) rfl rfl rfl rfl
      | some table =>
          rw [State.removeAllSessions, sessions]
          exact .appends (_ :: endEvents table) (by simp) rfl rfl rfl rfl
  | logsOut member =>
      have before : Rests first
          { first.emit .loggedOut with loggedIn := false } :=
        emits _ Event.noConfusion rfl rfl rfl rfl
      exact before.trans (rests_releaseGrant _)
  | closesAll =>
      cases sessions : first.sessions with
      | none =>
          rw [cCloseAllSessions_destroyed sessions]
          apply Rests.appends (.nullTable ::
            (releaseEvents first ++ [.nullTable, .closedAll]))
          · simp
          · simp
          all_goals rfl
      | some table =>
          rw [cCloseAllSessions_eq sessions]
          apply Rests.appends (releaseEvents first ++
            (endEvents table ++ [.closedAll]))
          · simp
          · simp
          all_goals rfl
  | closes handle =>
      cases sessions : first.sessions with
      | none =>
          rw [cCloseSession_destroyed sessions]
          exact emits _ Event.noConfusion rfl rfl rfl rfl
      | some table =>
          rw [cCloseSession_eq sessions]
          exact .appends _ (count_endEvents _) rfl rfl rfl rfl
  | opens flags available =>
      simp only [addSession, State.insertSession, State.removeSession]
      cases sessions : first.sessions with
      | none =>
          simp only [State.emit, sessions]
          exact .appends [_, _] (by simp) rfl rfl rfl rfl
      | some table =>
          simp only [State.emit, sessions]
          apply Rests.appends (endEvents (table.filter fun other =>
            other.handle == (newSession first flags).handle) ++
              [.sessionOpened (newSession first flags).birth
                (newSession first flags).handle])
          · simp
          · simp
          all_goals rfl
  | initializes args answers before =>
      have more : initializations (initializeState first args answers) =
          initializations first + 1 := List.count_cons_self
      constructor
      · exact Int.le_refl _
      · omega
      · omega
      · rfl
  | environment event =>
      constructor
      · cases event with
        | monotonicTime elapsed =>
            exact Int.le_add_of_nonneg_right (Int.natCast_nonneg elapsed)
        | _ => exact Int.le_refl _
      · exact Nat.le_refl _
      · exact fun _ => rfl
      · rfl
  | revises | logsIn => exact .appends [] rfl rfl rfl rfl rfl
  | starts | requests | returnsSlotEvent | beginsFinalize | touchesNull =>
      exact emits _ Event.noConfusion rfl rfl rfl rfl

theorem rests_changes
    {first second : State} (changes : Composed (Change host) first second) :
    Rests first second :=
  changes.relates Rests.refl (fun _ _ _ => Rests.trans)
    fun _ _ => Change.rests

theorem rests_finishFinalize (state : State) :
    Rests state (finishFinalize state).1 := by
  rw [finishFinalize_eq]
  apply Rests.appends (.finalized :: (endEvents state.table ++
    (dropEvents state ++ releaseEvents state)))
  · simp
  · simp
  all_goals rfl

/-! ## Starts and refusals -/

/-- A search starts to acquire, after everything was checked. -/
structure Begins
    (host : Host) (before : State) (search : Search)
    (result : State × Progress) : Prop where
  begun : ∃ middle session, Rests before middle ∧
    MayAcquire host middle search session ∧
      result = beginAcquire middle search session

/-- A stretch asks the user at its end at most. -/
theorem Stretch.begins
    {state : State} {result : State × Progress}
    (stretch : Stretch host state result) :
    Rests state result.1 ∨ ∃ search, Begins host state search result := by
  cases stretch with
  | returns changes => exact .inl (rests_changes changes)
  | waits changes => exact .inl (rests_changes changes)
  | finalizes changes => exact .inl (rests_changes changes)
  | finishes changes settled =>
      exact .inl ((rests_changes changes).trans (rests_finishFinalize _))
  | acquires changes may =>
      exact .inr ⟨_, _, _, rests_changes changes, may, rfl⟩

theorem rests_emit
    {event : Event} (other : event ≠ .initialized) (state : State) :
    Rests state (state.emit event) := by
  have quiet : [event].count .initialized = 0 := by
    rw [List.count_eq_zero, List.mem_singleton]
    exact other.symm
  exact .appends [event] quiet rfl rfl rfl rfl

theorem rests_releaseAcquired (state : State) (acquisition : Acquisition) :
    Rests state (releaseAcquired state acquisition) := by
  rw [releaseAcquired]
  split_ifs
  · exact rests_emit Event.noConfusion state
  · exact .refl state

theorem rests_installGrant (state : State) (grant : PortalGrant) :
    Rests state (installGrant host state grant).1 := by
  have set : Rests state (setGrant state grant) :=
    .appends [_] (by simp) rfl rfl rfl rfl
  apply set.trans
  rw [installGrant]
  split
  · exact rests_releaseGrant _
  · rw [issueIdentifier]
    split
    · exact .appends [_] (by simp) rfl rfl rfl rfl
    · exact .appends [] rfl rfl rfl rfl rfl

theorem rests_acceptGrant
    (state : State) (acquisition : Acquisition) (grant : PortalGrant) :
    Rests state (acceptGrant host state acquisition grant).1 := by
  have revalidated := rests_changes (sessionRevalidate_changes host state
    acquisition.search.handle acquisition.search.lifecycle
    acquisition.search.serial)
  rw [acceptGrant]
  split_ifs
  · exact rests_releaseAcquired state acquisition
  · rw [searchRevalidate]
    split <;> rename_i result <;> rw [result] at revalidated
    · exact revalidated.trans (rests_releaseAcquired _ acquisition)
    · split_ifs
      · apply (revalidated.trans (rests_releaseAcquired _ acquisition)).trans
        exact rests_changes (grantStillGood_changes host _)
      · exact revalidated.trans (rests_installGrant _ _)

theorem rests_endAcquire
    {code : PortalErrorCode} (other : code ≠ .cancelled) (state : State)
    (acquisition : Acquisition) :
    Rests state (noteRefusal (endAcquire state acquisition false) code) := by
  rw [noteRefusal, if_neg other]
  exact .appends [_] (by simp) rfl rfl rfl rfl

theorem rests_afterAcquire
    (state : State) (acquisition : Acquisition)
    (result : Except PortalErrorCode PortalGrant) :
    Rests state (afterAcquire host state acquisition result).1 ∨
      result = .error .cancelled ∧
        Rests { state with refusalTime := state.monotonicTime }
          (afterAcquire host state acquisition result).1 := by
  have rest (middle : State) (acquired : Bool) :
      Rests middle (finishSearch middle acquisition.search acquired).1 :=
    rests_changes (@finishSearch_changes host middle acquisition.search
      acquired)
  cases result with
  | error code =>
      by_cases cancelled : code = .cancelled
      · subst cancelled
        right
        refine ⟨rfl, Rests.trans ?_ (rest _ false)⟩
        exact .appends [_] (by simp) rfl rfl rfl rfl
      · left
        exact (rests_endAcquire cancelled state acquisition).trans
          (rest _ false)
  | ok grant =>
      left
      have ended : Rests state (endAcquire state acquisition true) :=
        .appends [_] (by simp) rfl rfl rfl rfl
      exact (ended.trans (rests_acceptGrant _ acquisition grant)).trans
        (rest _ _)

/-! ## Searches that acquire -/

theorem continueSearch_acquires
    {state : State} {search : Search} {acquisition : Acquisition}
    (acquires : (continueSearch host state search).2 =
      .acquires acquisition) : acquisition.search = search := by
  rw [continueSearch] at acquires
  split_ifs at acquires
  · cases acquires
  split at acquires
  · cases acquires
  · rw [ensureGrant] at acquires
    split at acquires
    · cases acquires
    · split at acquires
      · cases acquires
      · split_ifs at acquires
        all_goals cases acquires
        rfl

theorem cFindObjectsInit_acquires
    {state : State} {handle : Nat} {template : CkTemplate}
    {acquisition : Acquisition}
    (acquires : (cFindObjectsInit host state handle template).2 =
      .acquires acquisition) :
    Search.call acquisition.search = .cFindObjectsInit handle template := by
  rw [cFindObjectsInit] at acquires
  split_ifs at acquires
  split at acquires
  · cases acquires
  · split_ifs at acquires
    rw [continueSearch_acquires acquires]
    rfl

theorem lockedBody_acquires
    {state : State} {answers : Answers} {call : Call}
    {acquisition : Acquisition}
    (acquires : (lockedBody host state answers call).2 =
      .acquires acquisition) : Search.call acquisition.search = call := by
  cases call with
  | cFindObjectsInit handle template =>
      exact cFindObjectsInit_acquires acquires
  | cFinalize reserved =>
      simp only [lockedBody, cFinalize, continueFinalize] at acquires
      split_ifs at acquires
  | cSignInit session mechanism key =>
      cases mechanism <;> cases acquires
  | cDecryptInit session mechanism key =>
      cases mechanism <;> cases acquires
  | _ => cases acquires

/-! ## Steps -/

/-- What a step does to the chooser. -/
inductive Pace
    (host : Host) (world : World) (action : Action) (next : World) : Prop
    where
  | rests (rests : Rests world.state next.state)
  | begins (thread : Nat) (acquisition : Acquisition)
      (resumes : resumed action = some thread)
      (call : (world.threads thread).call =
        some (Search.call acquisition.search))
      (acquires : next.threads thread = .acquiring acquisition)
      (begins : Begins host world.state acquisition.search
        (next.state, .acquires acquisition))
  | refuses
      (rests : Rests { world.state with
        refusalTime := world.state.monotonicTime } next.state)

theorem Stretch.pace
    {world : World} {action : Action} {thread : Nat} {call : Call}
    {result : State × Progress}
    (stretch : Stretch host world.state result)
    (resumes : resumed action = some thread)
    (entered : (world.threads thread).call = some call)
    (acquires : ∀ acquisition, result.2 = .acquires acquisition →
      Search.call acquisition.search = call) :
    Pace host world action (world.after thread call result) := by
  rcases Stretch.begins stretch with rests | ⟨search, begins⟩
  · exact .rests rests
  · rcases begins.begun with ⟨middle, session, before, may, rfl⟩
    apply Pace.begins thread _ resumes
    · rw [entered, acquires _ rfl]
    · exact after_threads_self ..
    · exact begins

theorem pace_of_step
    {world next : World} {action : Action}
    (moves : (machine host).step world action = some next) :
    Pace host world action next := by
  have defined : definedStep host world action = some next := by
    simp only [machine, step] at moves
    split_ifs at moves
    exact moves
  cases action with
  | enter thread call =>
      simp only [definedStep] at defined
      split_ifs at defined
      cases defined
      exact .rests (.refl _)
  | run thread answers =>
      simp only [definedStep] at defined
      split at defined
      · rename_i call entered
        cases defined
        apply Stretch.pace (lockedBody_stretch world.state answers call) rfl
        · rw [entered]
          rfl
        · exact fun acquisition acquires => lockedBody_acquires acquires
      · cases defined
  | wake thread =>
      simp only [definedStep] at defined
      split at defined
      · rename_i search waiting
        cases defined
        apply Stretch.pace (continueSearch_stretch world.state search) rfl
        · rw [waiting]
          rfl
        · intro acquisition acquires
          rw [continueSearch_acquires acquires]
      · rename_i finalizing
        cases defined
        apply Stretch.pace (continueFinalize_stretch world.state) rfl
        · rw [finalizing]
          rfl
        · intro acquisition acquires
          simp only [continueFinalize] at acquires
          split_ifs at acquires
      · cases defined
  | acquired thread result =>
      simp only [definedStep] at defined
      split at defined
      · rename_i acquisition flying
        cases defined
        rcases @rests_afterAcquire host world.state acquisition result with
          rests | ⟨-, rests⟩
        · exact .rests rests
        · exact .refuses rests
      · cases defined
  | environment event =>
      cases defined
      exact .rests (@Change.rests host _ _ (.environment event))

/-! ## After a refusal -/

/-- The user has refused at a time, and is not asked again yet. -/
structure Spared (time : Int) (count : Nat) (state : State) : Prop where
  clock : time ≤ state.monotonicTime
  counted : count ≤ initializations state
  spared : initializations state = count →
    time + refusalGrace ≤ state.monotonicTime ∨ time ≤ state.refusalTime

theorem Spared.rests
    {time : Int} {count : Nat} {first second : State}
    (spared : Spared time count first) (rests : Rests first second) :
    Spared time count second where
  clock := spared.clock.trans rests.clock
  counted := spared.counted.trans rests.counted
  spared := by
    intro same
    have before := spared.counted
    have after := rests.counted
    rcases spared.spared (by omega) with late | noted
    · exact .inl (late.trans rests.clock)
    · rw [rests.refusal (by omega)]
      exact .inr noted

/-- Who may acquire has waited for the grace period. -/
theorem Spared.waited
    {time : Int} {count : Nat} {state : State} {search : Search}
    {session : PortalSession} (positive : 0 < time)
    (spared : Spared time count state)
    (may : MayAcquire host state search session)
    (same : initializations state = count) :
    time + refusalGrace ≤ state.monotonicTime := by
  rcases spared.spared same with late | noted
  · exact late
  · have unrefused := may.unrefused
    rw [refused, Bool.and_eq_false_iff] at unrefused
    rcases unrefused with never | waited
    · have zero : state.refusalTime = 0 := by simpa using never
      omega
    · rw [decide_eq_false_iff_not] at waited
      omega

theorem initializations_beginAcquire
    (state : State) (search : Search) (session : PortalSession) :
    initializations (beginAcquire state search session).1 =
      initializations state := by
  exact List.count_cons_of_ne Event.noConfusion

/-- The user is spared on by every step. -/
theorem Spared.step
    {time : Int} {count : Nat} {world next : World} {action : Action}
    (positive : 0 < time) (spared : Spared time count world.state)
    (moves : (machine host).step world action = some next) :
    Spared time count next.state := by
  cases pace_of_step moves with
  | rests rests => exact spared.rests rests
  | refuses rests =>
      apply Spared.rests _ rests
      exact ⟨spared.clock, spared.counted, fun _ => .inr spared.clock⟩
  | begins thread acquisition resumes call acquires begins =>
      rcases begins.begun with ⟨middle, session, before, may, result⟩
      have after := spared.rests before
      have state : next.state =
          (beginAcquire middle acquisition.search session).1 :=
        congrArg Prod.fst result
      constructor
      · rw [state]
        exact after.clock
      · rw [state, initializations_beginAcquire]
        exact after.counted
      · intro same
        rw [state] at same ⊢
        rw [initializations_beginAcquire] at same
        have waited := after.waited positive may same
        exact .inl waited

/-- The user is spared on by every run. -/
theorem Spared.run
    {time : Int} {count : Nat} {world next : World} {actions : List Action}
    (positive : 0 < time) (spared : Spared time count world.state)
    (moves : (machine host).run world actions = some next) :
    Spared time count next.state := by
  induction actions generalizing world with
  | nil =>
      cases moves
      exact spared
  | cons action actions ih =>
      rw [System.run_cons, Option.bind_eq_some_iff] at moves
      rcases moves with ⟨middle, first, rest⟩
      exact ih (spared.step positive first) rest

/-! ## The chooser is throttled -/

/-- What is promised of the steps from a world. -/
structure Throttled (host : Host) (world : World) : Prop where
  /-- Only a search that wants a credential starts to acquire. -/
  wanted : ∀ action next,
    (machine host).step world action = some next →
      next.state.acquisitions ≠ world.state.acquisitions →
        ∃ thread handle template acquisition,
          resumed action = some thread ∧
          (world.threads thread).call =
            some (.cFindObjectsInit handle template) ∧
          next.threads thread = .acquiring acquisition ∧
          portalTemplateWantsCredential template next.state.issuedIds
            next.state.enumerate host.enumerateSetting = true ∧
          next.state.grant = none
  /-- Nobody starts to acquire for a while after a refusal. -/
  rested : ∀ thread refused actions before action next,
    0 < world.state.monotonicTime →
    (machine host).step world (.acquired thread (.error .cancelled)) =
      some refused →
    (machine host).run refused actions = some before →
    (machine host).step before action = some next →
    next.state.acquisitions ≠ before.state.acquisitions →
    initializations next.state = initializations world.state →
      world.state.monotonicTime + refusalGrace ≤ next.state.monotonicTime

/-- A step that starts an acquisition begins one. -/
theorem begins_of_counts
    {world next : World} {action : Action}
    (moves : (machine host).step world action = some next)
    (counts : next.state.acquisitions ≠ world.state.acquisitions) :
    ∃ thread acquisition, resumed action = some thread ∧
      (world.threads thread).call =
        some (Search.call acquisition.search) ∧
      next.threads thread = .acquiring acquisition ∧
      Begins host world.state acquisition.search
        (next.state, .acquires acquisition) := by
  cases pace_of_step moves with
  | rests rests => exact absurd rests.acquisitions counts
  | refuses rests => exact absurd rests.acquisitions counts
  | begins thread acquisition resumes call acquires begins =>
      exact ⟨thread, acquisition, resumes, call, acquires, begins⟩

theorem spared_of_refusal
    {world refused : World} {thread : Nat}
    (moves : (machine host).step world
      (.acquired thread (.error .cancelled)) = some refused) :
    Spared world.state.monotonicTime (initializations world.state)
      refused.state := by
  have noted : Spared world.state.monotonicTime
      (initializations world.state)
      { world.state with refusalTime := world.state.monotonicTime } :=
    ⟨Int.le_refl _, Nat.le_refl _, fun _ => .inr (Int.le_refl _)⟩
  have defined : definedStep host world
      (.acquired thread (.error .cancelled)) = some refused := by
    simp only [machine, step] at moves
    split_ifs at moves
    exact moves
  simp only [definedStep] at defined
  split at defined
  · rename_i acquisition flying
    cases defined
    have search := rests_changes (@finishSearch_changes host
      (noteRefusal (endAcquire world.state acquisition false) .cancelled)
      acquisition.search false)
    apply noted.rests
    apply Rests.trans _ search
    exact .appends [_] (by simp) rfl rfl rfl rfl
  · cases defined

/-- The user is asked only for a credential that is wanted, and not again
while a refusal counts. -/
theorem throttled (host : Host) (world : World) : Throttled host world := by
  constructor
  case wanted =>
    intro action next moves counts
    rcases begins_of_counts moves counts with
      ⟨thread, acquisition, resumes, call, acquires, begins⟩
    rcases begins.begun with ⟨middle, session, -, may, result⟩
    have state : next.state =
        (beginAcquire middle acquisition.search session).1 :=
      congrArg Prod.fst result
    refine ⟨thread, _, _, acquisition, resumes, call, acquires, ?_, ?_⟩
    · rw [state]
      exact may.wanted
    · rw [state]
      exact may.ungranted
  case rested =>
    intro thread refused actions before action next positive refuses run
      moves counts same
    have spared := (spared_of_refusal refuses).run positive run
    rcases begins_of_counts moves counts with
      ⟨thread, acquisition, -, -, -, begins⟩
    rcases begins.begun with ⟨middle, session, rests, may, result⟩
    have state : next.state =
        (beginAcquire middle acquisition.search session).1 :=
      congrArg Prod.fst result
    rw [state, initializations_beginAcquire] at same
    rw [state]
    have waited := (spared.rests rests).waited positive may same
    exact waited

/-! ## A search after a refusal -/

/-- The chooser is shown five microseconds after the clock started. -/
def askingRun : List Action :=
  .environment (.monotonicTime 5) :: acquiringRun

/-- The search is ended, and repeated when some time has passed. -/
def patience (elapsed : Nat) : List Action :=
  calling 0 (.cFindObjectsFinal 1) ++
  [.environment (.monotonicTime elapsed),
    .enter 0 (.cFindObjectsInit 1 (.array []))]

/-- Refused, the user is asked again after ten seconds, and not a
microsecond before. -/
theorem throttled_refused :
    ∃ world refused before next early,
      (machine sampleHost).run .start askingRun = some world ∧
      (machine sampleHost).step world (.acquired 0 (.error .cancelled)) =
        some refused ∧
      (machine sampleHost).run refused (patience 10000000) = some before ∧
      (machine sampleHost).step before (.run 0 sampleAnswers) = some next ∧
      next.state.acquisitions ≠ before.state.acquisitions ∧
      next.state.grant = none ∧
      world.state.monotonicTime + refusalGrace ≤
        next.state.monotonicTime ∧
      (machine sampleHost).run refused
          (patience 9999999 ++ [.run 0 sampleAnswers]) = some early ∧
      early.state.acquisitions = refused.state.acquisitions := by
  have ran : ∃ world refused before next early,
      (machine sampleHost).run .start askingRun = some world ∧
      (machine sampleHost).step world (.acquired 0 (.error .cancelled)) =
        some refused ∧
      (machine sampleHost).run refused (patience 10000000) = some before ∧
      (machine sampleHost).step before (.run 0 sampleAnswers) = some next ∧
      next.state.acquisitions ≠ before.state.acquisitions ∧
      (machine sampleHost).run refused
          (patience 9999999 ++ [.run 0 sampleAnswers]) = some early ∧
      early.state.acquisitions = refused.state.acquisitions ∧
      0 < world.state.monotonicTime ∧
      initializations next.state = initializations world.state :=
    ⟨_, _, _, _, _, rfl, rfl, rfl, rfl, by decide, rfl, rfl, by decide,
      rfl⟩
  rcases ran with
    ⟨world, refused, before, next, early, asked, refuses, waits, asks,
      counts, hurries, quiet, positive, same⟩
  rcases (throttled sampleHost before).wanted _ _ asks counts with
    ⟨thread, handle, template, acquisition, -, -, -, -, ungranted⟩
  exact ⟨world, refused, before, next, early, asked, refuses, waits, asks,
    counts, ungranted,
    (throttled sampleHost world).rested 0 refused _ before _ next positive
      refuses waits asks counts same,
    hurries, quiet⟩

end PortalCertificate.Module.Throttling
