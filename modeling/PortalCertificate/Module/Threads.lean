import PortalCertificate.Module.Invariants

/-!
# Acquisitions in flight and the rule for runs

What is known of an acquisition while the lock is free, the ways it can end,
and the rule that lifts an invariant of changes to all runs of the machine.
The rule looks at a run through four kinds of steps: those that leave the
state alone, changes, the start of an acquisition, and its end.
-/

namespace PortalCertificate.Module.Threads

open PortalCertificate.Library.Transition
open PortalCertificate.Module.Acquire
open PortalCertificate.Module.Calls
open PortalCertificate.Module.Changes
open PortalCertificate.Module.Invariants
open PortalCertificate.Module.Lifecycle
open PortalCertificate.Module.Machine
open PortalCertificate.Module.Session
open PortalCertificate.Module.SessionCalls
open PortalCertificate.Module.Statics
open PortalCertificate.Module.Stretches
open PortalCertificate.Pkcs11

variable {host : Host}

/-! ## In flight -/

/-- The acquisition is the one that has been started and has not come back. -/
structure InFlight (state : State) (acquisition : Acquisition) : Prop where
  acquiring : state.acquiring = true
  /-- It is the latest one. -/
  number : acquisition.number + 1 = state.acquisitions
  address : state.client.map PortalClient.address =
    acquisition.client.map PortalClient.address
  connected : state.client.any PortalClient.connected = true
  acquired : acquisition.client.any PortalClient.connected = true

theorem connected_of_available
    {client : Option PortalClient}
    (available : portalClientAvailable client = true) :
    client.any PortalClient.connected = true := by
  cases client with
  | none => cases available
  | some client =>
      rw [portalClientAvailable, Bool.and_eq_true] at available
      exact available.1

theorem inFlight_beginAcquire
    {state : State} {search : Search} {session : PortalSession}
    (may : MayAcquire host state search session)
    {next : State} {acquisition : Acquisition}
    (begins : beginAcquire state search session =
      (next, .acquires acquisition)) :
    InFlight next acquisition := by
  rcases Prod.mk.inj begins with ⟨rfl, same⟩
  cases Progress.acquires.inj same
  exact
    { acquiring := rfl
      number := rfl
      address := rfl
      connected := connected_of_available may.available
      acquired := connected_of_available may.available }

/-- The environment does not exchange the client. -/
theorem address_apply (event : Environment) (state : State) :
    (event.apply state).client.map PortalClient.address =
      state.client.map PortalClient.address := by
  have same (client : PortalClient) :
      (event.client client).address = client.address := by
    cases event with
    | ownerChanged owner =>
        simp only [Environment.client, PortalClient.changeOwner]
        split_ifs <;> rfl
    | capabilitiesProbed mechanisms =>
        simp only [Environment.client, PortalClient.probe]
        split_ifs <;> rfl
    | grantInvalidated | sessionClosed | realTime | monotonicTime => rfl
  cases client : state.client with
  | none => simp [Environment.apply, client]
  | some client => simp [Environment.apply, client, same]

/-- What changes leave alone while an acquisition is in flight. -/
structure Steady (first second : State) : Prop where
  acquisitions : second.acquisitions = first.acquisitions
  initialized : second.initialized = first.initialized
  lifecycle : second.lifecycle = first.lifecycle
  address : second.client.map PortalClient.address =
    first.client.map PortalClient.address
  connected : second.client.any PortalClient.connected =
    first.client.any PortalClient.connected

/-- Nothing but the end of the lifecycle exchanges the client. -/
theorem Change.steady
    {first second : State} (change : Change host first second)
    (wellFormed : WellFormed first)
    (acquiring : first.acquiring = true) : Steady first second := by
  cases change with
  | retires current ended =>
      rw [wellFormed.ungranted acquiring] at current
      cases current
  | logsOut member =>
      rw [releaseGrant_eq]
      exact ⟨rfl, rfl, rfl, rfl, rfl⟩
  | closesAll =>
      cases sessions : first.sessions with
      | none =>
          rw [cCloseAllSessions_destroyed sessions]
          exact ⟨rfl, rfl, rfl, rfl, rfl⟩
      | some table =>
          rw [cCloseAllSessions_eq sessions]
          exact ⟨rfl, rfl, rfl, rfl, rfl⟩
  | closes handle =>
      cases sessions : first.sessions with
      | none =>
          rw [cCloseSession_destroyed sessions]
          exact ⟨rfl, rfl, rfl, rfl, rfl⟩
      | some table =>
          rw [cCloseSession_eq sessions]
          exact ⟨rfl, rfl, rfl, rfl, rfl⟩
  | opens flags available =>
      have initialized := wellFormed.initialized_of_available available
      rcases (wellFormed.opened initialized).sessions with ⟨table, tables⟩
      rw [addSession_eq tables]
      exact ⟨rfl, rfl, rfl, rfl, rfl⟩
  | initializes args answers before =>
      rw [(wellFormed.closed before).alone] at acquiring
      cases acquiring
  | environment event =>
      exact ⟨rfl, rfl, rfl, address_apply event first,
        connected_apply event first⟩
  | revises | starts | requests | logsIn | returnsSlotEvent
  | beginsFinalize | touchesNull => exact ⟨rfl, rfl, rfl, rfl, rfl⟩

theorem Change.inFlight
    {first second : State} {acquisition : Acquisition}
    (change : Change host first second) (wellFormed : WellFormed first)
    (inFlight : InFlight first acquisition) :
    InFlight second acquisition := by
  have steady := Change.steady change wellFormed inFlight.acquiring
  exact
    { acquiring := change.acquiring.trans inFlight.acquiring
      number := inFlight.number.trans steady.acquisitions.symm
      address := steady.address.trans inFlight.address
      connected := steady.connected.trans inFlight.connected
      acquired := inFlight.acquired }

/-! ## Ways to end -/

/-- What is checked before a grant is installed. -/
structure StillWanted
    (state : State) (acquisition : Acquisition) : Prop where
  generation : state.generation = acquisition.generation
  lasting : state.finalizing = false
  found : ∃ session,
    state.findSession acquisition.search.handle = some session ∧
      session.serial = acquisition.search.serial

/-- The grant with the number of its acquisition. -/
def numbered (grant : PortalGrant) (acquisition : Acquisition) :
    PortalGrant :=
  { grant with acquisition := acquisition.number }

/-- The state before `C_FindObjectsInit` goes on. -/
inductive Lands
    (host : Host) (state : State) (acquisition : Acquisition) :
    State → Prop where
  | refused (code : PortalErrorCode) :
      Lands host state acquisition
        (noteRefusal (endAcquire state acquisition false) code)
  | discarded :
      Lands host state acquisition
        (releaseAcquired (endAcquire state acquisition true) acquisition)
  | installed {grant : PortalGrant} {objects : Objects.PortalObjects}
      (wanted : StillWanted state acquisition)
      (created : host.portalObjectsNew (numbered grant acquisition)
        (state.generation + 1) = some objects) :
      Lands host state acquisition
        (issueIdentifier
          { setGrant (endAcquire state acquisition true)
              (numbered grant acquisition) with
            objects := some objects }
          objects.identifier)
  | rejected (grant : PortalGrant)
      (wanted : StillWanted state acquisition) :
      Lands host state acquisition
        (releaseGrant
          (setGrant (endAcquire state acquisition true)
            (numbered grant acquisition)))

/-- A grant that is accepted lands its acquisition. -/
theorem acceptGrant_lands
    {state : State} {acquisition : Acquisition}
    (ungranted : state.grant = none) (grant : PortalGrant) :
    Lands host state acquisition
      (acceptGrant host (endAcquire state acquisition true) acquisition
        grant).1 := by
  have noGrant : (endAcquire state acquisition true).grant = none :=
    ungranted
  unfold acceptGrant
  split_ifs with changed
  · exact .discarded
  have generation : state.generation = acquisition.generation := by
    simp only [Bool.or_eq_true, bne_iff_ne, not_or, ne_eq,
      not_not] at changed
    exact changed.2
  have unchanged := sessionRevalidate_ungranted acquisition.search.handle
    acquisition.search.lifecycle acquisition.search.serial noGrant
  unfold searchRevalidate
  split
  · rename_i next result
    rw [result] at unchanged
    subst unchanged
    exact .discarded
  · rename_i next session result
    rcases sessionRevalidate_found result with
      ⟨found, serial, lasting, initialized, lifecycle, -⟩
    rw [result] at unchanged
    subst unchanged
    have wanted : StillWanted state acquisition :=
      { generation
        lasting
        found := ⟨session, found, serial⟩ }
    simp only [noGrant, Option.isSome_none, Bool.false_eq_true, if_false]
    unfold installGrant
    dsimp only
    split
    · exact .rejected grant wanted
    · rename_i objects created
      exact .installed wanted created

/-- An acquisition lands, whatever its result, before its search goes on. -/
theorem afterAcquire_lands
    {state : State} {acquisition : Acquisition}
    (ungranted : state.grant = none)
    (result : Except PortalErrorCode PortalGrant) :
    ∃ middle, Lands host state acquisition middle ∧
      Composed (Change host) middle
        (afterAcquire host state acquisition result).1 := by
  cases result with
  | error code => exact ⟨_, .refused code, finishSearch_changes ..⟩
  | ok grant =>
      exact ⟨_, acceptGrant_lands ungranted grant, finishSearch_changes ..⟩

/-! ## Well-formed states around an acquisition -/

theorem wellFormed_beginAcquire
    {state : State} {search : Search} {session : PortalSession}
    (wellFormed : WellFormed state)
    (may : MayAcquire host state search session) :
    WellFormed (beginAcquire state search session).1 :=
  { wellFormed.emits (.acquireStarted state.acquisitions session.birth)
      fun _ => Event.noConfusion with
    closed := fun dead => by
      have never := may.initialized.symm.trans dead
      cases never
    opened := fun initialized => { wellFormed.opened initialized with }
    ungranted := fun _ => may.ungranted }

section Landing

variable
  {state : State} (wellFormed : WellFormed state)
  {acquisition : Acquisition}
include wellFormed

theorem initialized_of_acquiring (acquiring : state.acquiring = true) :
    state.initialized = true := by
  by_contra dead
  rw [(wellFormed.closed (by simpa using dead)).alone] at acquiring
  cases acquiring

theorem wellFormed_endAcquire
    (acquiring : state.acquiring = true) (granted : Bool) :
    WellFormed (endAcquire state acquisition granted) := by
  have initialized := initialized_of_acquiring wellFormed acquiring
  exact
    { wellFormed.emits (.acquireReturned acquisition.number granted)
        fun _ => Event.noConfusion with
      closed := fun dead => by
        have never := initialized.symm.trans dead
        cases never
      opened := fun initialized => { wellFormed.opened initialized with }
      ungranted := fun acquiring => nomatch acquiring }

theorem wellFormed_setGrant
    (alone : state.acquiring = false)
    (initialized : state.initialized = true)
    (connected : state.client.any PortalClient.connected = true)
    (grant : PortalGrant) (objects : Objects.PortalObjects) :
    WellFormed { setGrant state grant with objects := some objects } :=
  { wellFormed.emits (.installed grant.acquisition grant.sessionHandle)
      fun _ => Event.noConfusion with
    closed := fun dead => by
      have never := initialized.symm.trans dead
      cases never
    opened := fun initialized => { wellFormed.opened initialized with }
    objects := rfl
    connected := fun _ _ => connected
    ungranted := fun acquiring => by
      have never := alone.symm.trans acquiring
      cases never }

theorem wellFormed_issueIdentifier
    (initialized : state.initialized = true) (identifier : List UInt8) :
    WellFormed (issueIdentifier state identifier) := by
  have opened := wellFormed.opened initialized
  rcases opened.issuedIds with ⟨issued, tables⟩
  rw [issueIdentifier, tables]
  exact
    { wellFormed with
      closed := fun dead => by
        have never := initialized.symm.trans dead
        cases never
      opened := fun _ => ⟨opened.sessions, ⟨_, rfl⟩⟩ }

/-- The variables are well formed after an acquisition has landed. -/
theorem wellFormed_lands
    {middle : State} (inFlight : InFlight state acquisition)
    (lands : Lands host state acquisition middle) : WellFormed middle := by
  have initialized := initialized_of_acquiring wellFormed inFlight.acquiring
  have ended (granted : Bool) : WellFormed
      (endAcquire state acquisition granted) :=
    wellFormed_endAcquire wellFormed inFlight.acquiring granted
  cases lands with
  | refused code =>
      have refused := ended false
      unfold noteRefusal
      split_ifs
      · exact
          { refused with
            closed := fun dead => { refused.closed dead with }
            opened := fun initialized => { refused.opened initialized with } }
      · exact refused
  | discarded =>
      unfold releaseAcquired
      split_ifs
      · exact (ended true).emits _ fun _ => Event.noConfusion
      · exact ended true
  | installed wanted created =>
      exact wellFormed_issueIdentifier
        (wellFormed_setGrant (ended true) rfl initialized
          inFlight.connected _ _)
        initialized _
  | rejected grant wanted =>
      have set := wellFormed_setGrant (ended true) rfl initialized
        inFlight.connected (numbered grant acquisition) ⟨[], []⟩
      have same : releaseGrant
            { setGrant (endAcquire state acquisition true)
                (numbered grant acquisition) with
              objects := some ⟨[], []⟩ } =
          releaseGrant (setGrant (endAcquire state acquisition true)
            (numbered grant acquisition)) := by
        rw [releaseGrant_eq, releaseGrant_eq]
        rfl
      exact same ▸ set.released

end Landing

/-! ## Threads -/

/-- The acquisitions of the threads, and the flag that announces them. -/
structure Consistent (world : World) : Prop where
  wellFormed : WellFormed world.state
  inFlight : ∀ thread acquisition,
    world.threads thread = .acquiring acquisition →
      InFlight world.state acquisition
  /-- At most one acquisition is in flight. -/
  alone : ∀ first second acquisition acquisition',
    world.threads first = .acquiring acquisition →
      world.threads second = .acquiring acquisition' → first = second
  announced : world.state.acquiring = true → ∃ thread acquisition,
    world.threads thread = .acquiring acquisition

/-- The acquisition a step ends. -/
def landing (world : World) : Action → Option Acquisition
  | .acquired thread _ =>
      match world.threads thread with
      | .acquiring acquisition => some acquisition
      | _ => none
  | _ => none

/-- What one step does to the world. -/
inductive Moves (host : Host) (world : World) : Action → World → Prop where
  | enters {thread : Nat} {call : Call}
      (free : (world.threads thread).free = true) :
      Moves host world (.enter thread call)
        { world with
          threads := Function.update world.threads thread
            (enterCall world.state call) }
  | stretches {action : Action} {thread : Nat} {call : Call}
      {result : State × Progress}
      (ground : landing world action = none)
      (grounded : ∀ acquisition,
        world.threads thread ≠ .acquiring acquisition)
      (stretch : Stretch host world.state result) :
      Moves host world action (world.after thread call result)
  | lands {thread : Nat} {acquisition : Acquisition}
      {result : Except PortalErrorCode PortalGrant}
      (flying : world.threads thread = .acquiring acquisition) :
      Moves host world (.acquired thread result)
        (world.after thread (Search.call acquisition.search)
          (reply (afterAcquire host world.state acquisition result)))
  | environment (event : Environment) :
      Moves host world (.environment event)
        { world with state := event.apply world.state }

/-- Every step of the machine is a move. -/
theorem step_moves
    {world next : World} {action : Action}
    (moves : (machine host).step world action = some next) :
    Moves host world action next := by
  have defined : definedStep host world action = some next := by
    simp only [machine, step] at moves
    split_ifs at moves
    exact moves
  cases action with
  | enter thread call =>
      simp only [definedStep] at defined
      split_ifs at defined with free
      rw [← Option.some.inj defined]
      exact .enters free
  | run thread answers =>
      simp only [definedStep] at defined
      split at defined
      · rename_i call entered
        rw [← Option.some.inj defined]
        exact .stretches rfl (by simp [entered])
          (lockedBody_stretch world.state answers call)
      · cases defined
  | wake thread =>
      simp only [definedStep] at defined
      split at defined
      · rename_i search waiting
        rw [← Option.some.inj defined]
        exact .stretches rfl (by simp [waiting])
          (continueSearch_stretch world.state search)
      · rename_i finalizing
        rw [← Option.some.inj defined]
        exact .stretches rfl (by simp [finalizing])
          (continueFinalize_stretch world.state)
      · cases defined
  | acquired thread result =>
      simp only [definedStep] at defined
      split at defined
      · rename_i acquisition flying
        rw [← Option.some.inj defined]
        exact .lands flying
      · cases defined
  | environment event =>
      rw [← Option.some.inj defined]
      exact .environment event

@[simp]
theorem after_threads_self
    (world : World) (thread : Nat) (call : Call)
    (result : State × Progress) :
    (world.after thread call result).threads thread =
      Progress.pc call result.2 :=
  Function.update_self ..

theorem after_threads_of_ne
    {thread other : Nat} (different : other ≠ thread) (world : World)
    (call : Call) (result : State × Progress) :
    (world.after thread call result).threads other =
      world.threads other :=
  Function.update_of_ne different ..

/-! ## The rule for runs -/

/-- A guard that looks at the state and at the acquisition that ends. -/
def stepGuard
    (guard : State → Option Acquisition → Prop)
    (world : World) (action : Action) : Prop :=
  guard world.state (landing world action)

/--
What has to be shown for an invariant of guarded runs: `rest` holds between
steps, `inside` within a locked stretch, and `flying` of acquisitions.
-/
structure Rule
    (host : Host) (guard : State → Option Acquisition → Prop)
    (rest inside : State → Prop)
    (flying : State → Acquisition → Prop) : Prop where
  start : rest .start
  enter : ∀ state, WellFormed state → rest state → guard state none →
    inside state
  change : ∀ first second, WellFormed first → inside first →
    Change host first second → inside second
  finishes : ∀ state, WellFormed state → inside state →
    state.acquiring = false → inside (finishFinalize state).1
  begins : ∀ state search session next acquisition,
    WellFormed state → inside state →
      MayAcquire host state search session →
    beginAcquire state search session = (next, .acquires acquisition) →
    rest next ∧ flying next acquisition
  flies : ∀ first second acquisition, WellFormed first →
    InFlight first acquisition → flying first acquisition →
    Change host first second → flying second acquisition
  lands : ∀ state acquisition middle, WellFormed state →
    InFlight state acquisition → rest state →
    flying state acquisition → guard state (some acquisition) →
    Lands host state acquisition middle → inside middle
  leave : ∀ state, WellFormed state → inside state → rest state

section Rule

variable
  {guard : State → Option Acquisition → Prop}
  {rest inside : State → Prop}
  {flying : State → Acquisition → Prop}

/-- What the rule establishes of a world. -/
structure Holds
    (rest : State → Prop) (flying : State → Acquisition → Prop)
    (world : World) : Prop extends Consistent world where
  rest : rest world.state
  flying : ∀ thread acquisition,
    world.threads thread = .acquiring acquisition →
      flying world.state acquisition

/-- A composition of changes, seen from inside. -/
theorem Rule.changes
    (rule : Rule host guard rest inside flying)
    {first second : State} (changes : Composed (Change host) first second)
    (wellFormed : WellFormed first) (holds : inside first) :
    WellFormed second ∧ inside second ∧
      ∀ acquisition, InFlight first acquisition →
        flying first acquisition →
        InFlight second acquisition ∧ flying second acquisition := by
  induction changes with
  | refl =>
      exact ⟨wellFormed, holds, fun _ flight flies => ⟨flight, flies⟩⟩
  | tail _ change ih =>
      rcases ih with ⟨formed, inner, flights⟩
      refine ⟨Change.wellFormed change formed,
        rule.change _ _ formed inner change, ?_⟩
      intro acquisition flight flies
      rcases flights acquisition flight flies with ⟨flight, flies⟩
      exact ⟨Change.inFlight change formed flight,
        rule.flies _ _ _ formed flight flies change⟩

/-- Changes made by a thread that does not acquire. -/
theorem Rule.changesWorld
    (rule : Rule host guard rest inside flying)
    {world : World} {next : State} {pcs : Nat → Pc}
    (holds : Holds rest flying world)
    (meets : guard world.state none)
    (changes : Composed (Change host) world.state next)
    (same : ∀ thread acquisition, pcs thread = .acquiring acquisition ↔
      world.threads thread = .acquiring acquisition) :
    Holds rest flying ⟨next, pcs⟩ := by
  have inner := rule.enter _ holds.wellFormed holds.rest meets
  rcases rule.changes changes holds.wellFormed inner with
    ⟨formed, inner, flights⟩
  have kept := Change.composed_acquiring changes
  exact
    { wellFormed := formed
      inFlight := fun thread acquisition flies =>
        (flights acquisition
          (holds.inFlight thread _ ((same _ _).mp flies))
          (holds.flying thread _ ((same _ _).mp flies))).1
      alone := fun first second _ _ flies flies' =>
        holds.alone first second _ _ ((same _ _).mp flies)
          ((same _ _).mp flies')
      announced := fun acquiring => by
        rcases holds.announced (kept ▸ acquiring) with
          ⟨thread, acquisition, flies⟩
        exact ⟨thread, acquisition, (same _ _).mpr flies⟩
      rest := rule.leave _ formed inner
      flying := fun thread acquisition flies =>
        (flights acquisition
          (holds.inFlight thread _ ((same _ _).mp flies))
          (holds.flying thread _ ((same _ _).mp flies))).2 }

/-- A lifecycle ends when no acquisition is in flight. -/
theorem Rule.finishesWorld
    (rule : Rule host guard rest inside flying)
    {world : World} {middle : State} {pcs : Nat → Pc}
    (holds : Holds rest flying world)
    (meets : guard world.state none)
    (changes : Composed (Change host) world.state middle)
    (settled : middle.acquiring = false)
    (same : ∀ thread acquisition, pcs thread = .acquiring acquisition ↔
      world.threads thread = .acquiring acquisition) :
    Holds rest flying ⟨(finishFinalize middle).1, pcs⟩ := by
  have inner := rule.enter _ holds.wellFormed holds.rest meets
  rcases rule.changes changes holds.wellFormed inner with
    ⟨formed, inner, -⟩
  have formed' := formed.finishesFinalize settled
  have nobody (thread : Nat) (acquisition : Acquisition) :
      pcs thread ≠ .acquiring acquisition := by
    intro flies
    have acquiring := (holds.inFlight _ _ ((same _ _).mp flies)).acquiring
    rw [← Change.composed_acquiring changes, settled] at acquiring
    cases acquiring
  exact
    { wellFormed := formed'
      inFlight := fun _ _ flies => absurd flies (nobody _ _)
      alone := fun _ _ _ _ flies => absurd flies (nobody _ _)
      announced := fun acquiring => by
        rw [finishFinalize_eq, settled] at acquiring
        cases acquiring
      rest := rule.leave _ formed'
        (rule.finishes _ formed inner settled)
      flying := fun _ _ flies => absurd flies (nobody _ _) }

/-- A thread that does not acquire goes somewhere else on the ground. -/
theorem acquiring_update_iff
    {threads : Nat → Pc} {thread : Nat} {pc : Pc}
    (before : ∀ acquisition, threads thread ≠ .acquiring acquisition)
    (after : ∀ acquisition, pc ≠ .acquiring acquisition)
    (other : Nat) (acquisition : Acquisition) :
    Function.update threads thread pc other = .acquiring acquisition ↔
      threads other = .acquiring acquisition := by
  rcases eq_or_ne other thread with rfl | different
  · rw [Function.update_self]
    exact iff_of_false (after acquisition) (before acquisition)
  · rw [Function.update_of_ne different]

/-- A rule holds after a stretch. -/
theorem Rule.stretches
    (rule : Rule host guard rest inside flying)
    {world : World} {thread : Nat} {call : Call}
    {result : State × Progress}
    (holds : Holds rest flying world)
    (meets : guard world.state none)
    (grounded : ∀ acquisition,
      world.threads thread ≠ .acquiring acquisition)
    (stretch : Stretch host world.state result) :
    Holds rest flying (world.after thread call result) := by
  cases stretch with
  | returns changes =>
      exact rule.changesWorld holds meets changes
        (acquiring_update_iff grounded fun _ => Pc.noConfusion)
  | waits changes =>
      exact rule.changesWorld holds meets changes
        (acquiring_update_iff grounded fun _ => Pc.noConfusion)
  | finalizes changes =>
      exact rule.changesWorld holds meets changes
        (acquiring_update_iff grounded fun _ => Pc.noConfusion)
  | finishes changes settled =>
      exact rule.finishesWorld holds meets changes settled
        (acquiring_update_iff grounded fun _ => Pc.noConfusion)
  | @acquires middle search session changes may =>
      have inner := rule.enter _ holds.wellFormed holds.rest meets
      rcases rule.changes changes holds.wellFormed inner with
        ⟨formed, inner, -⟩
      have quiet : world.state.acquiring = false :=
        (Change.composed_acquiring changes).symm.trans may.alone
      have nobody (other : Nat) (acquisition : Acquisition) :
          world.threads other ≠ .acquiring acquisition := by
        intro flies
        have acquiring := (holds.inFlight _ _ flies).acquiring
        rw [quiet] at acquiring
        cases acquiring
      have only {other : Nat} {acquisition : Acquisition}
          (flies : (world.after thread call
            (beginAcquire middle search session)).threads other =
              .acquiring acquisition) :
          other = thread ∧ beginAcquire middle search session =
            ((beginAcquire middle search session).1,
              .acquires acquisition) := by
        rcases eq_or_ne other thread with rfl | different
        · refine ⟨rfl, ?_⟩
          rw [after_threads_self] at flies
          rw [← Pc.acquiring.inj flies]
          rfl
        · rw [after_threads_of_ne different] at flies
          exact absurd flies (nobody _ _)
      have starts := rule.begins middle search session _ _ formed inner
        may rfl
      exact
        { wellFormed := wellFormed_beginAcquire formed may
          inFlight := fun _ _ flies =>
            inFlight_beginAcquire may (only flies).2
          alone := fun _ _ _ _ flies flies' =>
            (only flies).1.trans (only flies').1.symm
          announced := fun _ =>
            ⟨thread, _, Function.update_self ..⟩
          rest := starts.1
          flying := fun _ _ flies =>
            (rule.begins middle search session _ _ formed inner may
              (only flies).2).2 }

/-- A rule holds after an acquisition has landed. -/
theorem Rule.landed
    (rule : Rule host guard rest inside flying)
    {world : World} {thread : Nat} {acquisition : Acquisition}
    {result : Except PortalErrorCode PortalGrant}
    (holds : Holds rest flying world)
    (meets : guard world.state (some acquisition))
    (flies : world.threads thread = .acquiring acquisition) :
    Holds rest flying
      (world.after thread (Search.call acquisition.search)
        (reply (afterAcquire host world.state acquisition result))) := by
  have inFlight := holds.inFlight _ _ flies
  have ungranted := holds.wellFormed.ungranted inFlight.acquiring
  rcases afterAcquire_lands ungranted result with ⟨middle, lands, changes⟩
  have inner := rule.lands _ _ _ holds.wellFormed inFlight holds.rest
    (holds.flying _ _ flies) meets lands
  have formed := wellFormed_lands holds.wellFormed inFlight lands
  rcases rule.changes changes formed inner with ⟨formed', inner', -⟩
  have settled : middle.acquiring = false := by
    cases lands with
    | refused code =>
        unfold noteRefusal
        split_ifs <;> rfl
    | discarded =>
        unfold releaseAcquired
        split_ifs <;> rfl
    | installed wanted created =>
        unfold issueIdentifier
        split <;> rfl
    | rejected grant wanted => rw [releaseGrant_eq]; rfl
  have nobody (other : Nat) (acquisition' : Acquisition) :
      (world.after thread (Search.call acquisition.search)
        (reply (afterAcquire host world.state acquisition
          result))).threads other ≠ .acquiring acquisition' := by
    intro flies'
    rcases eq_or_ne other thread with rfl | different
    · rw [after_threads_self] at flies'
      cases flies'
    · rw [after_threads_of_ne different] at flies'
      exact different (holds.alone _ _ _ _ flies' flies)
  exact
    { wellFormed := formed'
      inFlight := fun _ _ flies' => absurd flies' (nobody _ _)
      alone := fun _ _ _ _ flies' => absurd flies' (nobody _ _)
      announced := fun acquiring => by
        rw [World.after, reply, Change.composed_acquiring changes,
          settled] at acquiring
        cases acquiring
      rest := rule.leave _ formed' inner'
      flying := fun _ _ flies' => absurd flies' (nobody _ _) }

theorem enterCall_grounded
    (state : State) (call : Call) (acquisition : Acquisition) :
    enterCall state call ≠ .acquiring acquisition := by
  unfold enterCall
  split_ifs
  · exact Pc.noConfusion
  · split <;> exact Pc.noConfusion

/-- A rule holds in every state that guarded steps reach. -/
theorem Rule.holds
    (rule : Rule host guard rest inside flying) {world : World}
    (reachable : (machine host).ReachableBy (stepGuard guard) world) :
    Holds rest flying world := by
  refine reachable.invariant ?_ ?_
  · rintro _ rfl
    exact
      { wellFormed := wellFormed_start
        inFlight := fun _ _ flies => nomatch flies
        alone := fun _ _ _ _ flies => nomatch flies
        announced := fun acquiring => nomatch acquiring
        rest := rule.start
        flying := fun _ _ flies => nomatch flies }
  · intro world action next _ holds meets moves
    cases step_moves moves with
    | enters free =>
        exact rule.changesWorld holds meets .refl
          (acquiring_update_iff
            (fun _ flies => by simp [flies, Pc.free] at free)
            (enterCall_grounded _ _))
    | stretches ground grounded stretch =>
        rw [stepGuard, ground] at meets
        exact rule.stretches holds meets grounded stretch
    | lands flies =>
        rw [stepGuard, landing, flies] at meets
        exact rule.landed holds meets flies
    | environment event =>
        exact rule.changesWorld holds meets
          (Change.environment event).composed fun _ _ => Iff.rfl

end Rule

theorem always_rule :
    Rule host (fun _ _ => True) (fun _ => True) (fun _ => True)
      (fun _ _ => True) := by
  constructor <;> intros <;> trivial

/-- Threads and variables agree in every reachable state. -/
theorem consistent_of_reachable
    {world : World} (reachable : (machine host).Reachable world) :
    Consistent world := by
  have guarded : (machine host).ReachableBy
      (stepGuard fun _ _ => True) world := reachable
  exact (always_rule.holds guarded).toConsistent

end PortalCertificate.Module.Threads
