import PortalCertificate.Module.Acquisitions

/-!
# Grants that were overtaken

A grant must not be installed when a logout, the end of its session or a
finalization has happened during its acquisition.  `ensure_grant` recognises
the first by the generation of the grants and the second by the serial of
the session.  Both have 32 bits, and after a multiple of `2 ^ 32` releases
or openings they look unchanged.
-/

namespace PortalCertificate.Module.Overtaking

open PortalCertificate.Library.Trace
open PortalCertificate.Library.Transition
open PortalCertificate.Module.Acquire
open PortalCertificate.Module.Acquisitions
open PortalCertificate.Module.Calls
open PortalCertificate.Module.Changes
open PortalCertificate.Module.GrantBinding
open PortalCertificate.Module.Invariants
open PortalCertificate.Module.Lifecycle
open PortalCertificate.Module.Machine
open PortalCertificate.Module.Session
open PortalCertificate.Module.SessionCalls
open PortalCertificate.Module.Statics
open PortalCertificate.Module.Stretches
open PortalCertificate.Module.Threads
open PortalCertificate.Pkcs11

variable {host : Host}

/-! ## During an acquisition -/

/-- The event is the start of this acquisition. -/
def startedBy (number : Nat) : Event → Bool
  | .acquireStarted acquisition _ => acquisition == number
  | _ => false

/-- The events since an acquisition has started, newest first. -/
def during (number : Nat) (trace : List Event) : List Event :=
  trace.takeWhile fun event => !startedBy number event

/-- What makes an acquisition that is in flight unwanted. -/
def Overtakes (birth : Nat) : Event → Prop
  | .loggedOut | .closedAll | .finalizing | .finalized | .initialized => True
  | .sessionEnded session => session = birth
  | _ => False

/-- Nothing has overtaken the grant that is installed. -/
def InstalledInTime : Event → List Event → Prop
  | .installed number _, before =>
      ∃ birth, .acquireStarted number birth ∈ before ∧
        ∀ event ∈ during number before, ¬Overtakes birth event
  | _, _ => True

/-- `C_Logout` and `C_CloseAllSessions` release the grant. -/
def releases : Event → Bool
  | .loggedOut | .closedAll => true
  | _ => false

theorem during_append
    {number : Nat} {news : List Event}
    (later : ∀ event ∈ news, startedBy number event = false)
    (trace : List Event) :
    during number (news ++ trace) = news ++ during number trace := by
  rw [during, List.takeWhile_append_of_pos]
  · rfl
  · intro event member
    simp [later event member]

/-- The checks of `ensure_grant` against the events of the acquisition. -/
structure Flown (state : State) (acquisition : Acquisition) : Prop where
  started : .acquireStarted acquisition.number acquisition.birth ∈ state.trace
  /-- The generation counts the releases. -/
  generation : state.generation = acquisition.generation +
    UInt32.ofNat
      ((during acquisition.number state.trace).countP releases)
  finalizing : .finalizing ∈ during acquisition.number state.trace →
    state.finalizing = true
  /-- `C_Finalize` waits for the acquisition. -/
  lasting : ∀ event ∈ during acquisition.number state.trace,
    event ≠ .finalized ∧ event ≠ .initialized
  serial : acquisition.search.serial = UInt32.ofNat (acquisition.birth + 1)

theorem flown_beginAcquire
    {state next : State} {search : Search} {session : PortalSession}
    {acquisition : Acquisition} (wellFormed : WellFormed state)
    (may : MayAcquire host state search session)
    (begins : beginAcquire state search session =
      (next, .acquires acquisition)) :
    Flown next acquisition := by
  rcases Prod.mk.inj begins with ⟨starts, same⟩
  cases Progress.acquires.inj same
  have trace : next.trace =
      .acquireStarted state.acquisitions session.birth :: state.trace := by
    rw [← starts]
    rfl
  have nothing : during state.acquisitions next.trace = [] := by
    simp [trace, during, startedBy]
  have generation : next.generation = state.generation := by
    rw [← starts]
    rfl
  have serial := wellFormed.serials _
    (mem_identities (findSession_mem may.found).1)
  exact
    { started := by
        rw [trace]
        exact List.mem_cons_self ..
      generation := by simp [nothing, generation]
      finalizing := fun member => by simp [nothing] at member
      lasting := fun event member => by simp [nothing] at member
      serial := may.serial.symm.trans serial }

/-- Events that are added while the acquisition is in flight. -/
theorem Flown.extends
    {first second : State} {acquisition : Acquisition}
    (flown : Flown first acquisition) (news : List Event)
    (trace : second.trace = news ++ first.trace)
    (later : ∀ event ∈ news,
      startedBy acquisition.number event = false ∧
        event ≠ .finalized ∧ event ≠ .initialized)
    (generation : second.generation =
      first.generation + UInt32.ofNat (news.countP releases))
    (finalizing : second.finalizing = true ∨
      second.finalizing = first.finalizing ∧ .finalizing ∉ news) :
    Flown second acquisition := by
  have whole := during_append (fun event member => (later event member).1)
    first.trace
  exact
    { started := by
        rw [trace]
        exact List.mem_append_right _ flown.started
      generation := by
        rw [generation, flown.generation, trace, whole, List.countP_append,
          Nat.add_comm, UInt32.ofNat_add, ← UInt32.add_assoc]
      finalizing := fun member => by
        rcases finalizing with now | ⟨same, absent⟩
        · exact now
        · rw [trace, whole] at member
          rw [same]
          exact flown.finalizing
            ((List.mem_append.mp member).resolve_left absent)
      lasting := fun event member => by
        rw [trace, whole] at member
        exact (List.mem_append.mp member).elim
          (fun new => (later event new).2) (flown.lasting event)
      serial := flown.serial }

theorem Change.flown
    {first second : State} {acquisition : Acquisition}
    (wellFormed : WellFormed first) (inFlight : InFlight first acquisition)
    (flown : Flown first acquisition) (change : Change host first second) :
    Flown second acquisition := by
  have ungranted := wellFormed.ungranted inFlight.acquiring
  have noRelease : releaseEvents first = [] := by
    simp [releaseEvents, ungranted]
  rcases (wellFormed.opened (initialized_of_acquiring wellFormed
    inFlight.acquiring)).sessions with ⟨table, tables⟩
  have noDrop : dropEvents first = [] := by simp [dropEvents, tables]
  have endings (sessions : List PortalSession) :
      (endEvents sessions).countP releases = 0 := by
    simp [endEvents, List.countP_eq_zero, releases]
  have harmless (sessions : List PortalSession) :
      ∀ event ∈ endEvents sessions,
        startedBy acquisition.number event = false ∧
          event ≠ .finalized ∧ event ≠ .initialized := by
    intro event member
    rcases List.mem_map.mp member with ⟨session, -, rfl⟩
    exact ⟨rfl, Event.noConfusion, Event.noConfusion⟩
  have notFinalizing (sessions : List PortalSession) :
      .finalizing ∉ endEvents sessions := by
    simp [endEvents]
  cases change with
  | retires current ended =>
      rw [ungranted] at current
      cases current
  | logsOut member =>
      rw [releaseGrant_eq]
      refine flown.extends [.loggedOut] ?_ (by simp [startedBy])
        (by simp [State.emit, releases]) (Or.inr ⟨rfl, by simp⟩)
      simp [State.emit, dropEvents, releaseEvents, tables, ungranted]
  | closesAll =>
      rw [cCloseAllSessions_eq tables]
      refine flown.extends (endEvents table ++ [.closedAll])
        (by simp [noRelease]) ?_ ?_ (Or.inr ⟨rfl, by simp [notFinalizing]⟩)
      · intro event member
        rcases List.mem_append.mp member with member | member
        · exact harmless table event member
        · rw [List.mem_singleton.mp member]
          exact ⟨rfl, Event.noConfusion, Event.noConfusion⟩
      · simp [List.countP_append, endings, releases]
  | closes handle =>
      rw [cCloseSession_eq tables]
      exact flown.extends _ rfl (harmless _) (by simp [endings])
        (Or.inr ⟨rfl, notFinalizing _⟩)
  | opens flags available =>
      rw [addSession_eq tables]
      refine flown.extends (endEvents _ ++ [.sessionOpened _ _])
        (by simp only [List.append_assoc, List.singleton_append]; rfl)
        ?_ ?_ (Or.inr ⟨rfl, by simp [notFinalizing]⟩)
      · intro event member
        rcases List.mem_append.mp member with member | member
        · exact harmless _ event member
        · rw [List.mem_singleton.mp member]
          exact ⟨rfl, Event.noConfusion, Event.noConfusion⟩
      · simp [List.countP_append, endings, releases]
  | initializes args answers before =>
      have alone := (wellFormed.closed before).alone
      rw [inFlight.acquiring] at alone
      cases alone
  | beginsFinalize before =>
      exact flown.extends [.finalizing] rfl (by simp [startedBy])
        (by simp [State.emit, releases]) (Or.inl rfl)
  | revises | logsIn | environment =>
      exact flown.extends [] rfl (by simp)
        (by simp [State.updateSession, Environment.apply])
        (Or.inr ⟨rfl, by simp⟩)
  | starts | requests | returnsSlotEvent | touchesNull =>
      exact flown.extends [_] rfl (by simp [startedBy])
        (by simp [State.updateSession, State.emit, releases])
        (Or.inr ⟨rfl, by simp⟩)

/-! ## Runs whose counters tell -/

/--
When an acquisition ends, the grants were not released a positive multiple
of `2 ^ 32` times during it, and its session's handle does not name a
session that was opened a multiple of `2 ^ 32` openings away.
-/
def Unwrapped (state : State) : Option Acquisition → Prop
  | none => True
  | some acquisition =>
      ((during acquisition.number state.trace).countP releases % 2 ^ 32 = 0 →
        (during acquisition.number state.trace).countP releases = 0) ∧
      ∀ session ∈ state.table,
        session.handle = acquisition.search.handle →
        session.birth % 2 ^ 32 = acquisition.birth % 2 ^ 32 →
        session.birth = acquisition.birth

theorem ofNat_eq_iff (first second : Nat) :
    UInt32.ofNat first = UInt32.ofNat second ↔
      first % 2 ^ 32 = second % 2 ^ 32 := by
  rw [UInt32.ofNat_eq_iff_mod_eq_toNat, UInt32.toNat_ofNat']

/-- What is still wanted has not been overtaken. -/
theorem not_overtaken
    {state : State} {acquisition : Acquisition}
    (wellFormed : WellFormed state) (flown : Flown state acquisition)
    (unwrapped : Unwrapped state (some acquisition))
    (wanted : StillWanted state acquisition) :
    ∀ event ∈ during acquisition.number state.trace,
      ¬Overtakes acquisition.birth event := by
  have counted : UInt32.ofNat
      ((during acquisition.number state.trace).countP releases) =
        UInt32.ofNat 0 := by
    have same := flown.generation.symm.trans wanted.generation
    exact UInt32.add_eq_left.mp same
  have unreleased := unwrapped.1 ((ofNat_eq_iff _ 0).mp counted)
  rw [List.countP_eq_zero] at unreleased
  rcases wanted.found with ⟨session, found, serial⟩
  rcases findSession_mem found with ⟨inTable, handle⟩
  have born : session.birth = acquisition.birth := by
    refine unwrapped.2 session inTable handle ?_
    have serials := (wellFormed.serials _ (mem_identities inTable)).symm.trans
      (serial.trans flown.serial)
    have congruent : session.birth + 1 ≡ acquisition.birth + 1
        [MOD 2 ^ 32] :=
      (ofNat_eq_iff _ _).mp serials
    exact congruent.add_right_cancel' 1
  intro event member overtakes
  cases event with
  | loggedOut => exact unreleased _ member rfl
  | closedAll => exact unreleased _ member rfl
  | finalizing =>
      have finalizing := flown.finalizing member
      rw [wanted.lasting] at finalizing
      cases finalizing
  | finalized => exact (flown.lasting _ member).1 rfl
  | initialized => exact (flown.lasting _ member).2 rfl
  | sessionEnded birth =>
      have ended := wellFormed.ended birth
        (List.takeWhile_sublist _ |>.subset member)
      exact ended.2 _ (mem_identities inTable) (born.trans overtakes.symm)
  | sessionOpened | acquireStarted | acquireReturned | installed | dropped
  | released | retired | slotEventReturned | operationInitialised
  | operationRequested | nullTable => cases overtakes

/-- Acquisitions are settled, and grants installed in time. -/
structure InTime (state : State) : Prop extends Settles state where
  installs : Each InstalledInTime state.trace

theorem installedInTime_of_foreign
    {event : Event} (foreign : acquisitionOf event = none)
    (before : List Event) : InstalledInTime event before := by
  cases event with
  | installed => cases foreign
  | _ => exact trivial

theorem installedInTime_releaseEvents (state : State) :
    ∀ event ∈ releaseEvents state, ∀ before,
      InstalledInTime event before := by
  intro event member before
  rcases mem_releaseEvents member with ⟨grant, -, rfl | rfl⟩ <;>
    exact trivial

theorem InTime.kept
    {first second : State} (wellFormed : WellFormed first)
    (inTime : InTime first)
    (acquisitions : second.acquisitions = first.acquisitions)
    (acquiring : second.acquiring = first.acquiring)
    (ledger : Ledger first second) : InTime second where
  toSettles :=
    inTime.toSettles.kept wellFormed acquisitions acquiring ledger
  installs := by
    have foreign {events : List Event} (none : Foreign events) :
        ∀ event ∈ events, ∀ before, InstalledInTime event before :=
      fun event member => installedInTime_of_foreign (none event member)
    cases ledger with
    | keeps news none trace grant =>
        rw [trace]
        exact inTime.installs.append (foreign none)
    | drops after before none none' trace grant =>
        rw [trace]
        exact ((inTime.installs.append (foreign none')).append
          (installedInTime_releaseEvents first)).append (foreign none)
    | retires ended grant none trace current grant' =>
        rw [trace]
        exact each_cons.mpr ⟨trivial,
          (inTime.installs.append
            (installedInTime_releaseEvents first)).append (foreign none)⟩

theorem inTime_lands
    {state middle : State} {acquisition : Acquisition}
    (wellFormed : WellFormed state) (inTime : InTime state)
    (inFlight : InFlight state acquisition) (flown : Flown state acquisition)
    (unwrapped : Unwrapped state (some acquisition))
    (lands : Lands host state acquisition middle) : InTime middle where
  toSettles := settles_lands wellFormed inTime.toSettles inFlight lands
  installs := by
    have returned (granted : Bool) : Each InstalledInTime
        (endAcquire state acquisition granted).trace :=
      each_cons.mpr ⟨trivial, inTime.installs⟩
    have installed (wanted : StillWanted state acquisition)
        (grant : PortalGrant) : Each InstalledInTime
          (setGrant (endAcquire state acquisition true)
            (numbered grant acquisition)).trace := by
      refine each_cons.mpr ⟨⟨acquisition.birth,
        List.mem_cons_of_mem _ flown.started, ?_⟩, returned true⟩
      intro event member
      have whole : during acquisition.number
            (endAcquire state acquisition true).trace =
          .acquireReturned acquisition.number true ::
            during acquisition.number state.trace := by
        simp [endAcquire, State.emit, during, startedBy]
      change event ∈ during acquisition.number
        (endAcquire state acquisition true).trace at member
      rw [whole] at member
      rcases List.mem_cons.mp member with rfl | member
      · exact id
      · exact not_overtaken wellFormed flown unwrapped wanted event member
    cases lands with
    | refused code =>
        unfold noteRefusal
        split_ifs <;> exact returned false
    | discarded =>
        unfold releaseAcquired
        split_ifs
        · exact each_cons.mpr ⟨trivial, returned true⟩
        · exact returned true
    | @installed grant objects wanted created =>
        unfold issueIdentifier
        split
        · exact each_cons.mpr ⟨trivial, installed wanted grant⟩
        · exact installed wanted grant
    | rejected grant wanted =>
        rw [releaseGrant_eq]
        refine ((installed wanted grant).append
          (installedInTime_releaseEvents _)).append ?_
        exact fun event member => installedInTime_of_foreign
          (foreign_dropEvents _ event member)

theorem inTime_rule :
    Rule host Unwrapped InTime InTime Flown where
  start :=
    { courses := fun _ => .unstarted
      known := fun _ current => nomatch current
      installs := each_nil }
  enter := fun _ _ inTime _ => inTime
  change := fun _ _ wellFormed inTime change =>
    inTime.kept wellFormed (Change.acquisitions wellFormed change)
      change.acquiring (Change.ledger wellFormed change)
  finishes := fun state wellFormed inTime _ =>
    inTime.kept wellFormed (by rw [finishFinalize_eq])
      (by rw [finishFinalize_eq]) (ledger_finishFinalize state)
  begins := by
    intro state search session next acquisition wellFormed inTime may begins
    refine ⟨⟨?_, ?_⟩, flown_beginAcquire wellFormed may begins⟩
    · have settles := settles_beginAcquire inTime.toSettles may
      rwa [begins] at settles
    · rcases Prod.mk.inj begins with ⟨rfl, -⟩
      exact each_cons.mpr ⟨trivial, inTime.installs⟩
  flies := fun _ _ _ wellFormed inFlight flown change =>
    Change.flown wellFormed inFlight flown change
  lands := fun _ _ _ wellFormed inFlight inTime flown unwrapped lands =>
    inTime_lands wellFormed inTime inFlight flown unwrapped lands
  leave := fun _ _ inTime => inTime

/-- What is promised of acquisitions whenever the lock is free. -/
structure AcquisitionsSound (world : World) : Prop where
  /-- At most one acquisition is in flight. -/
  alone : ∀ first second acquisition acquisition',
    world.threads first = .acquiring acquisition →
      world.threads second = .acquiring acquisition' → first = second
  /-- Each acquisition has one of the histories, and is where it says. -/
  courses : Courses world.state
  /-- No installed grant had been overtaken. -/
  installs : Each InstalledInTime world.state.trace
  objects : world.state.grant.isSome = world.state.objects.isSome

/-- If the counters do not come round during an acquisition, then nothing that
was overtaken is installed. -/
theorem acquisitions_sound
    {world : World}
    (reachable : (machine host).ReachableBy (stepGuard Unwrapped) world) :
    AcquisitionsSound world := by
  have holds := inTime_rule.holds reachable
  exact
    { alone := holds.alone
      courses := holds.rest.courses
      installs := holds.rest.installs
      objects := holds.wellFormed.objects }

theorem stepGuard_of_grounded
    {action : Action} (grounded : ∀ thread result,
      action ≠ .acquired thread result) (world : World) :
    stepGuard Unwrapped world action := by
  cases action with
  | acquired thread result => exact absurd rfl (grounded thread result)
  | enter | run | wake | environment => exact trivial

/-- The first thread acquires. -/
def acquiringWorld : World :=
  ((machine sampleHost).run .start acquiringRun).getD .start

theorem reachableBy_acquiringWorld :
    (machine sampleHost).ReachableBy (stepGuard Unwrapped)
      acquiringWorld := by
  have moved : (machine sampleHost).run .start acquiringRun =
      some acquiringWorld := rfl
  refine System.ReachableBy.run (.initial rfl) ?_ moved
  intro action member
  refine stepGuard_of_grounded fun thread result same => ?_
  subst same
  simp [acquiringRun, calling] at member

/-- The acquisition of the example is installed. -/
theorem acquisitions_sound_installed :
    ∃ world, (machine sampleHost).step acquiringWorld
        (.acquired 0 (.ok sampleGrant)) = some world ∧
      AcquisitionsSound world ∧
      .installed 0 "/session/1" ∈ world.state.trace := by
  have lands : (machine sampleHost).step acquiringWorld
      (.acquired 0 (.ok sampleGrant)) = some _ := rfl
  have unwrapped : stepGuard Unwrapped acquiringWorld
      (.acquired 0 (.ok sampleGrant)) := by
    constructor
    · intro
      rfl
    · decide
  exact ⟨_, lands,
    acquisitions_sound (.step reachableBy_acquiringWorld unwrapped lands),
    by decide⟩

/-! ## A wrapped generation -/

/-- Another thread has logged out meanwhile. -/
def loggedOutWorld (generation : UInt32) (trace : List Event) : World where
  state := { acquiringWorld.state with generation, trace }
  threads := Function.update acquiringWorld.threads 1
    (.returned (.cLogout 1) (answer .userNotLoggedIn))

theorem logout_first :
    (machine sampleHost).run acquiringWorld (calling 1 (.cLogout 1)) =
      some (loggedOutWorld 1
        (.loggedOut :: acquiringWorld.state.trace)) :=
  run_calling rfl rfl rfl

theorem logout_again (generation : UInt32) (trace : List Event) :
    (machine sampleHost).run (loggedOutWorld generation trace)
        (calling 1 (.cLogout 1)) =
      some (loggedOutWorld (generation + 1) (.loggedOut :: trace)) := by
  rw [run_calling rfl rfl rfl, World.after, loggedOutWorld, loggedOutWorld,
    Function.update_idem]
  rfl

/-- Any number of logouts fit into one acquisition. -/
theorem reachable_loggedOutWorld (count : Nat) :
    (machine sampleHost).Reachable
      (loggedOutWorld (1 + UInt32.ofNat count)
        (List.replicate count .loggedOut ++
          .loggedOut :: acquiringWorld.state.trace)) := by
  induction count with
  | zero => exact reachableBy_acquiringWorld.reachable.run logout_first
  | succ count ih =>
      have next := ih.run (logout_again ..)
      rwa [UInt32.add_assoc, ← UInt32.ofNat_one, ← UInt32.ofNat_add] at next

/-- The stale grant is installed when the generation is back at its start. -/
theorem installs_when_wrapped (trace : List Event) :
    ∃ world, (machine sampleHost).step (loggedOutWorld 0 trace)
        (.acquired 0 (.ok sampleGrant)) = some world ∧
      world.state.trace = .installed 0 "/session/1" ::
        .acquireReturned 0 true :: trace :=
  ⟨_, rfl, rfl⟩

/-- A logout that happened last is not forgotten. -/
theorem overtaken_of_logouts (count : Nat) (trace : List Event) :
    ¬InstalledInTime (.installed 0 "/session/1")
      (.acquireReturned 0 true ::
        (List.replicate count .loggedOut ++ .loggedOut :: trace)) := by
  rintro ⟨birth, -, quiet⟩
  refine quiet .loggedOut ?_ trivial
  have later : ∀ event ∈ .acquireReturned 0 true ::
      (List.replicate count Event.loggedOut ++ [.loggedOut]),
      startedBy 0 event = false := by
    intro event member
    simp only [List.mem_cons, List.mem_append, List.mem_replicate,
      List.not_mem_nil, or_false] at member
    rcases member with rfl | ⟨-, rfl⟩ | rfl <;> rfl
  have whole := during_append later trace
  simp only [List.cons_append, List.append_assoc,
    List.nil_append] at whole
  rw [whole]
  simp

/--
After `2 ^ 32` logouts during one acquisition the generation is what it was,
and the grant is installed although it has been overtaken.
-/
theorem wrapped_generation_unsound :
    ∃ world, (machine sampleHost).Reachable world ∧
      ¬AcquisitionsSound world := by
  have before := reachable_loggedOutWorld (2 ^ 32 - 1)
  have wrapped : 1 + UInt32.ofNat (2 ^ 32 - 1) = 0 := by decide
  rw [wrapped] at before
  rcases installs_when_wrapped (List.replicate (2 ^ 32 - 1) .loggedOut ++
    .loggedOut :: acquiringWorld.state.trace) with ⟨world, lands, trace⟩
  refine ⟨world, before.step lands, fun sound => ?_⟩
  have installs := sound.installs
  rw [trace, each_cons] at installs
  exact overtaken_of_logouts _ _ installs.1

end PortalCertificate.Module.Overtaking
