import PortalCertificate.Module.GrantBinding
import PortalCertificate.Module.GrantObjects

/-!
# Handles of released grants

The handles of a grant's objects carry the number of releases before it, so
that the handles of a released grant name nothing.  A record of every object
that was usable tells what a handle named once.

The number is cut to 28 bits.  Two grants whose numbers agree modulo `2 ^ 28`
have the same handles, and the generation is also counted by logouts without
a grant, so that few grants are enough.
-/

namespace PortalCertificate.Module.ObjectHandles

open PortalCertificate.Library.Transition
open PortalCertificate.Module.Acquire
open PortalCertificate.Module.Calls
open PortalCertificate.Module.Changes
open PortalCertificate.Module.GrantBinding
open PortalCertificate.Module.GrantObjects
open PortalCertificate.Module.Invariants
open PortalCertificate.Module.Lifecycle
open PortalCertificate.Module.Machine
open PortalCertificate.Module.Objects
open PortalCertificate.Module.Session
open PortalCertificate.Module.SessionCalls
open PortalCertificate.Module.Statics
open PortalCertificate.Module.Stretches
open PortalCertificate.Module.Threads
open PortalCertificate.Pkcs11

/-! ## Usable objects -/

/-- An object that is usable under a grant, and its grant's generation. -/
structure ObjectUse where
  acquisition : Nat
  generation : UInt32
  handle : CkUlong
  deriving DecidableEq, Repr

/-- The handles that resolve, with the grant they resolve to. -/
def uses (state : State) : List ObjectUse :=
  match state.grant, state.objects with
  | some grant, some objects =>
      objects.objects.map fun object =>
        { acquisition := grant.acquisition
          generation := state.generation
          handle := object.handle }
  | _, _ => []

theorem uses_eq
    {state : State} {grant : PortalGrant} {objects : PortalObjects}
    (current : state.grant = some grant)
    (presented : state.objects = some objects) :
    uses state = (objects.objects.map PortalObject.handle).map
      (ObjectUse.mk grant.acquisition state.generation) := by
  simp [uses, current, presented, Function.comp_def]

/-- The module with objects that are made as its source makes them. -/
def presenting (host : Host) (gnutls : CertificateLibrary) : Host :=
  { host with
    portalObjectsNew := fun grant generation =>
      (portalObjectsNew gnutls grant generation).toOption }

/-- Its runs, with a record of the objects that were usable. -/
abbrev recorder (host : Host) (gnutls : CertificateLibrary) :
    System (Recorded World ObjectUse) Action :=
  (machine (presenting host gnutls)).recording fun world =>
    uses world.state

/-! ## Search results -/

variable {host : Host}

/-- A search of some session has found the handle. -/
def Held (state : State) (handle : CkUlong) : Prop :=
  ∃ session ∈ state.table, handle ∈ session.find.results

/-- The handle has been shown to a caller, or resolves. -/
def Known (state : State) (handle : CkUlong) : Prop :=
  Held state handle ∨
    (portalObjectsLookup state.objects handle).isSome

/-- The grant and its objects stay, or both are dropped. -/
def KeepsGrant (first second : State) : Prop :=
  second.grant = first.grant ∧ second.objects = first.objects ∧
      second.generation = first.generation ∨
    second.grant = none ∧ second.objects = none

/-- No object is new, and search results are handles of the old ones. -/
structure Keeps (first second : State) : Prop where
  grant : KeepsGrant first second
  drawn : ∀ handle, Held second handle → Known first handle

theorem Keeps.refl (state : State) : Keeps state state where
  grant := Or.inl ⟨rfl, rfl, rfl⟩
  drawn := fun _ held => Or.inl held

theorem Keeps.trans
    {first second third : State}
    (keeps : Keeps first second) (keeps' : Keeps second third) :
    Keeps first third where
  grant := by
    rcases keeps'.grant with ⟨grant, objects, generation⟩ | dropped
    · rcases keeps.grant with same | ⟨ungranted, absent⟩
      · rw [KeepsGrant, grant, objects, generation]
        exact Or.inl same
      · exact Or.inr ⟨grant.trans ungranted, objects.trans absent⟩
    · exact Or.inr dropped
  drawn := by
    intro handle held
    rcases keeps'.drawn handle held with held | resolves
    · exact keeps.drawn handle held
    · rcases keeps.grant with ⟨-, same, -⟩ | ⟨-, absent⟩
      · rw [same] at resolves
        exact Or.inr resolves
      · rw [absent] at resolves
        cases resolves

/-- The sessions of the table have the results of older ones. -/
theorem held_of_table
    {first second : State} {handle : CkUlong}
    (table : ∀ session ∈ second.table, session.find.results = [] ∨
      ∃ old ∈ first.table, session.find = old.find)
    (held : Held second handle) : Held first handle := by
  rcases held with ⟨session, member, found⟩
  rcases table session member with nothing | ⟨old, member, same⟩
  · rw [nothing] at found
    cases found
  · exact ⟨old, member, same ▸ found⟩

theorem Keeps.of_table
    {first second : State} (grant : KeepsGrant first second)
    (table : ∀ session ∈ second.table, session.find.results = [] ∨
      ∃ old ∈ first.table, session.find = old.find) :
    Keeps first second where
  grant := grant
  drawn := fun _ held => Or.inl (held_of_table table held)

/-- The sessions of the table are older ones. -/
theorem Keeps.of_subset
    {first second : State} (grant : KeepsGrant first second)
    (table : second.table ⊆ first.table) : Keeps first second :=
  .of_table grant fun session member =>
    Or.inr ⟨session, table member, rfl⟩

theorem keeps_releaseGrant (state : State) :
    Keeps state (releaseGrant state) := by
  rw [releaseGrant_eq]
  refine .of_table (Or.inr ⟨rfl, rfl⟩) fun session member => ?_
  cases sessions : state.sessions with
  | none => simp [State.table, sessions] at member
  | some table =>
      simp only [State.table, sessions, Option.map_some, Option.getD_some,
        List.mem_map] at member
      rcases member with ⟨old, member, rfl⟩
      exact Or.inr ⟨old, by simpa [State.table, sessions] using member, rfl⟩

theorem keeps_removeAllSessions (state : State) :
    Keeps state state.removeAllSessions := by
  refine .of_subset (Or.inl ?_) ?_
  · cases sessions : state.sessions <;>
      simp [State.removeAllSessions, State.emit, sessions]
  · rw [table_removeAllSessions]
    exact List.nil_subset _

theorem keeps_retireGrant (state : State) (grant : PortalGrant) :
    Keeps state (retireGrant state grant) :=
  (keeps_releaseGrant state).trans
    ((keeps_removeAllSessions _).trans
      (.of_subset (Or.inl ⟨rfl, rfl, rfl⟩) (List.Subset.refl _)))

theorem keeps_removeSession (state : State) (handle : Nat) :
    Keeps state (state.removeSession handle).1 := by
  cases sessions : state.sessions with
  | none =>
      refine .of_subset (Or.inl ?_) ?_ <;>
        simp [State.removeSession, State.table, State.emit, sessions]
  | some table =>
      refine .of_subset (Or.inl ?_) ?_
      · simp [State.removeSession, sessions]
      · simp [State.removeSession, State.table, sessions]

/-- An update of a session whose results it keeps, or takes from objects. -/
theorem keeps_updateSession
    {state : State} {handle : Nat} {session : PortalSession}
    (wellFormed : WellFormed state)
    (found : state.findSession handle = some session)
    (update : PortalSession → PortalSession)
    (finds : FindsAmong state session (update session)) :
    Keeps state (state.updateSession handle update) := by
  refine ⟨Or.inl ⟨rfl, rfl, rfl⟩, fun result held => ?_⟩
  rcases held with ⟨revised, member, drawn⟩
  rw [table_updateSession] at member
  rcases List.mem_map.mp member with ⟨old, inTable, rfl⟩
  split_ifs at drawn with named
  · rcases findSession_mem found with ⟨inTable', named'⟩
    have same : old = session :=
      wellFormed.eq_of_handle inTable inTable' (named.trans named'.symm)
    subst same
    rcases finds result drawn with before | resolves
    · exact Or.inl ⟨old, inTable, before⟩
    · exact Or.inr resolves
  · exact Or.inl ⟨old, inTable, drawn⟩

/-- A session without results enters the table. -/
theorem keeps_cons
    (state : State) (session : PortalSession)
    (idle : session.find.results = []) :
    Keeps state
      { state with
        sessions := state.sessions.map fun sessions =>
          session :: sessions } := by
  refine .of_table (Or.inl ⟨rfl, rfl, rfl⟩) fun other member => ?_
  cases sessions : state.sessions with
  | none => simp [State.table, sessions] at member
  | some table =>
      have listed : other ∈ session :: table := by
        simpa [State.table, sessions] using member
      rcases List.mem_cons.mp listed with rfl | older
      · exact Or.inl idle
      · exact Or.inr ⟨other, by simpa [State.table, sessions], rfl⟩

theorem Change.keeps
    {first second : State} (wellFormed : WellFormed first)
    (change : Change host first second) : Keeps first second := by
  cases change with
  | retires current ended => exact keeps_retireGrant first _
  | @revises handle session update found quiet finds =>
      exact keeps_updateSession wellFormed found update finds
  | @starts handle session update grant kind found starts current =>
      have same : FindsAmong first session (update session) := by
        rw [FindsAmong, starts.find]
        exact findsAmong_of_subset (List.Subset.refl _)
      exact (keeps_updateSession wellFormed found update same).trans
        (.of_subset (Or.inl ⟨rfl, rfl, rfl⟩) (List.Subset.refl _))
  | logsOut member =>
      have kept : Keeps first
          { first.emit .loggedOut with loggedIn := false } :=
        .of_subset (Or.inl ⟨rfl, rfl, rfl⟩) (List.Subset.refl _)
      exact kept.trans (keeps_releaseGrant _)
  | closesAll =>
      have kept : Keeps first (first.emit .closedAll) :=
        .of_subset (Or.inl ⟨rfl, rfl, rfl⟩) (List.Subset.refl _)
      exact ((kept.trans (keeps_removeAllSessions _)).trans
        (keeps_releaseGrant _)).trans
        (.of_subset (Or.inl ⟨rfl, rfl, rfl⟩) (List.Subset.refl _))
  | closes handle =>
      have removed := keeps_removeSession first handle
      unfold cCloseSession
      split <;> rename_i result <;> rw [result] at removed
      · exact removed
      · split_ifs
        · exact removed.trans
            (.of_subset (Or.inl ⟨rfl, rfl, rfl⟩) (List.Subset.refl _))
        · exact removed
  | opens flags available =>
      have counted : Keeps first
          { first.emit (.sessionOpened first.openings first.nextSession) with
            nextSession := host.nextHandle first.nextSession
            sessionSerial := first.sessionSerial + 1
            openings := first.openings + 1 } :=
        .of_subset (Or.inl ⟨rfl, rfl, rfl⟩) (List.Subset.refl _)
      exact (counted.trans (keeps_removeSession _ _)).trans
        (keeps_cons _ _ rfl)
  | initializes args answers before =>
      exact .of_subset (Or.inl ⟨rfl, rfl, rfl⟩) (List.nil_subset _)
  | requests | logsIn | returnsSlotEvent | beginsFinalize | touchesNull
  | environment =>
      exact .of_subset (Or.inl ⟨rfl, rfl, rfl⟩) (List.Subset.refl _)

/-- Several changes keep the grant and the searches, or lose them. -/
theorem keeps_changes
    {first second : State} (wellFormed : WellFormed first)
    (changes : Composed (Change host) first second) :
    Keeps first second ∧ WellFormed second := by
  induction changes with
  | refl => exact ⟨.refl _, wellFormed⟩
  | tail _ change ih =>
      exact ⟨ih.1.trans (Change.keeps ih.2 change),
        Change.wellFormed change ih.2⟩

theorem keeps_finishFinalize (state : State) :
    Keeps state (finishFinalize state).1 := by
  rw [finishFinalize_eq]
  exact .of_subset (Or.inr ⟨rfl, rfl⟩) (List.nil_subset _)

theorem Stretch.keeps
    {state : State} {result : State × Progress}
    (wellFormed : WellFormed state) (stretch : Stretch host state result) :
    Keeps state result.1 := by
  cases stretch with
  | returns changes | waits changes | finalizes changes =>
      exact (keeps_changes wellFormed changes).1
  | finishes changes settled =>
      exact (keeps_changes wellFormed changes).1.trans
        (keeps_finishFinalize _)
  | acquires changes may =>
      exact (keeps_changes wellFormed changes).1.trans
        (.of_subset (Or.inl ⟨rfl, rfl, rfl⟩) (List.Subset.refl _))

/-! ## A new grant -/

/-- The grant becomes usable: what `ensure_grant` checks before and after. -/
structure Installs
    (host : Host) (state : State) (acquisition : Acquisition)
    (grant : PortalGrant) : Prop where
  wanted : StillWanted state acquisition
  presented : (host.portalObjectsNew (numbered grant acquisition)
    (state.generation + 1)).isSome = true
  lasting : portalClientGrantGone state.client
    (numbered grant acquisition) = false
  unexpired : state.unexpired (numbered grant acquisition) = true

/-- The grant has been installed, with its objects under the next generation. -/
structure Installed
    (host : Host) (state : State) (acquisition : Acquisition)
    (grant : PortalGrant) (next : State) : Prop where
  current : next.grant = some (numbered grant acquisition)
  objects : next.objects = host.portalObjectsNew
    (numbered grant acquisition) (state.generation + 1)
  generation : next.generation = state.generation + 1
  drawn : ∀ handle, Held next handle →
    Held state handle ∨ (portalObjectsLookup next.objects handle).isSome

/-- The state once the objects of a grant are there. -/
def presentedState
    (state : State) (acquisition : Acquisition) (grant : PortalGrant)
    (objects : PortalObjects) : State :=
  issueIdentifier
    { setGrant (endAcquire state acquisition true)
        (numbered grant acquisition) with
      objects := some objects }
    objects.identifier

/-- No check of the search refuses it before the grant is looked at. -/
structure Passes (state : State) (search : Search) : Prop where
  lasting : state.finalizing = false
  initialized : state.initialized = true
  lifecycle : state.lifecycle = search.lifecycle

theorem keeps_releaseAcquired
    (state : State) (acquisition : Acquisition) (granted : Bool) :
    Keeps state (releaseAcquired (endAcquire state acquisition granted)
      acquisition) := by
  unfold releaseAcquired
  split_ifs <;>
    exact .of_subset (Or.inl ⟨rfl, rfl, rfl⟩) (List.Subset.refl _)

/-- A grant in hand is given back, or its objects are presented. -/
theorem acceptGrant_cases
    {state : State} {acquisition : Acquisition}
    (ungranted : state.grant = none) (grant : PortalGrant) :
    Keeps state (acceptGrant host (endAcquire state acquisition true)
        acquisition grant).1 ∨
      ∃ objects, StillWanted state acquisition ∧
        Passes state acquisition.search ∧
        host.portalObjectsNew (numbered grant acquisition)
          (state.generation + 1) = some objects ∧
        acceptGrant host (endAcquire state acquisition true) acquisition
          grant = (presentedState state acquisition grant objects, true) := by
  have noGrant : (endAcquire state acquisition true).grant = none :=
    ungranted
  unfold acceptGrant
  split_ifs with changed
  · exact Or.inl (keeps_releaseAcquired state acquisition true)
  have generation : state.generation = acquisition.generation := by
    simp only [Bool.or_eq_true, bne_iff_ne, not_or, ne_eq,
      not_not] at changed
    exact changed.2
  have unchanged := sessionRevalidate_ungranted acquisition.search.handle
    acquisition.search.lifecycle acquisition.search.serial noGrant
  unfold searchRevalidate
  split
  · rename_i next result
    rw [result] at unchanged
    subst unchanged
    exact Or.inl (keeps_releaseAcquired state acquisition true)
  · rename_i next session result
    rcases sessionRevalidate_found result with
      ⟨found, serial, lasting, initialized, lifecycle, -⟩
    rw [result] at unchanged
    subst unchanged
    simp only [noGrant, Option.isSome_none, Bool.false_eq_true, if_false]
    unfold installGrant
    dsimp only
    split
    · have released := keeps_releaseGrant
        (setGrant (endAcquire state acquisition true)
          (numbered grant acquisition))
      refine Or.inl ⟨Or.inr ?_, released.drawn⟩
      rw [releaseGrant_eq]
      exact ⟨rfl, rfl⟩
    · rename_i objects created
      exact Or.inr ⟨objects,
        { generation
          lasting
          found := ⟨session, found, serial⟩ },
        ⟨lasting, initialized, lifecycle⟩, created, rfl⟩

theorem good_of_current
    {state : State} {grant : PortalGrant}
    (current : state.grant = some grant)
    (good : (grantStillGood state).2 = true) :
    portalClientGrantGone state.client grant = false ∧
      state.unexpired grant = true := by
  simp only [grantStillGood, current] at good
  split_ifs at good with holds
  simpa using holds

/-- A search that passes reaches the session table. -/
theorem searchRevalidate_passes
    {state : State} {search : Search} (passes : Passes state search) :
    searchRevalidate state search =
      match sessionLookup state search.handle with
      | (state, none) => (state, none)
      | (state, some session) =>
          if session.serial = search.serial then (state, some session)
          else (state, none) := by
  rcases found : sessionLookup state search.handle with ⟨next, _ | session⟩
  · simp [searchRevalidate, sessionRevalidate, passes.lasting,
      passes.initialized, passes.lifecycle, found]
  · simp [searchRevalidate, sessionRevalidate, passes.lasting,
      passes.initialized, passes.lifecycle, found]

/-- A search under a grant that is not good any more drops it. -/
theorem finishSearch_retires
    {state : State} {search : Search} {table : List PortalSession}
    {grant : PortalGrant} (passes : Passes state search)
    (tables : state.sessions = some table)
    (current : state.grant = some grant)
    (ended : (grantStillGood state).2 = false) (acquired : Bool) :
    (finishSearch state search acquired).1 = retireGrant state grant := by
  have retired : (grantStillGood state).1 = retireGrant state grant := by
    simp only [grantStillGood, current] at ended ⊢
    split_ifs at ended ⊢
    rfl
  have absent : (retireGrant state grant).findSession search.handle =
      none := by
    rw [retireGrant_eq tables]
    rfl
  have lookup : sessionLookup state search.handle =
      (retireGrant state grant, none) := by
    simp [sessionLookup, tables, retired, absent]
  simp [finishSearch, searchRevalidate_passes passes, lookup]

/-- A search under a good grant finds the state as it is. -/
theorem searchRevalidate_good
    {state : State} (good : (grantStillGood state).2 = true)
    (search : Search) : (searchRevalidate state search).1 = state := by
  have still : (grantStillGood state).1 = state :=
    grantStillGood_true (Prod.ext rfl good)
  have lookup (handle : Nat) : (sessionLookup state handle).1 = state := by
    unfold sessionLookup
    split
    · rfl
    · exact still
  have looked := lookup search.handle
  unfold searchRevalidate sessionRevalidate
  split_ifs
  · rfl
  · split <;> rename_i result <;> rw [result] at looked
    · exact looked
    · split_ifs <;> exact looked

/-- What a search that ends leaves as it is. -/
structure SameGrant (first second : State) : Prop where
  grant : second.grant = first.grant
  objects : second.objects = first.objects
  generation : second.generation = first.generation
  drawn : ∀ handle, Held second handle → Known first handle

/-- A search under a good grant keeps it. -/
theorem finishSearch_keeps
    {state : State} (wellFormed : WellFormed state)
    (good : (grantStillGood state).2 = true) (search : Search)
    (acquired : Bool) :
    SameGrant state (finishSearch state search acquired).1 := by
  have same : SameGrant state state := ⟨rfl, rfl, rfl, (Keeps.refl _).drawn⟩
  have revalidated := searchRevalidate_good good search
  unfold finishSearch
  split
  · rename_i next result
    rw [result] at revalidated
    rwa [revalidated]
  · rename_i next session result
    rw [result] at revalidated
    cases revalidated
    have found := (sessionRevalidate_found result).1
    dsimp only
    split_ifs
    · exact same
    · exact ⟨rfl, rfl, rfl, (keeps_updateSession wellFormed found _
        (findsAmong_portalObjectsFind next session search.template
          0)).drawn⟩
    · exact ⟨rfl, rfl, rfl, (keeps_updateSession wellFormed found _
        (findsAmong_of_subset (List.nil_subset _))).drawn⟩

theorem keeps_noteRefusal
    (state : State) (acquisition : Acquisition) (code : PortalErrorCode) :
    Keeps state (noteRefusal (endAcquire state acquisition false) code) := by
  unfold noteRefusal
  split_ifs <;>
    exact .of_subset (Or.inl ⟨rfl, rfl, rfl⟩) (List.Subset.refl _)

/-- The fields of the state in which a grant is presented. -/
theorem presentedState_eq
    {state : State} {issued : List Library.Der.Octets}
    (identifiers : state.issuedIds = some issued)
    (acquisition : Acquisition) (grant : PortalGrant)
    (objects : PortalObjects) :
    presentedState state acquisition grant objects =
      { setGrant (endAcquire state acquisition true)
          (numbered grant acquisition) with
        objects := some objects
        issuedIds := some
          (if issued.contains objects.identifier then issued
            else objects.identifier :: issued) } := by
  have same : (setGrant (endAcquire state acquisition true)
      (numbered grant acquisition)).issuedIds = some issued :=
    identifiers
  simp only [presentedState, issueIdentifier, same]

theorem afterAcquire_cases
    {state : State} {acquisition : Acquisition}
    (wellFormed : WellFormed state) (inFlight : InFlight state acquisition)
    (result : Except PortalErrorCode PortalGrant) :
    Keeps state (afterAcquire host state acquisition result).1 ∨
      ∃ grant, result = .ok grant ∧
        Installs host state acquisition grant ∧
        Installed host state acquisition grant
          (afterAcquire host state acquisition result).1 := by
  have ungranted := wellFormed.ungranted inFlight.acquiring
  have searched {middle : State} (acquired : Bool)
      (lands : Lands host state acquisition middle)
      (kept : Keeps state middle) :
      Keeps state
        (finishSearch middle acquisition.search acquired).1 :=
    kept.trans (keeps_changes (wellFormed_lands wellFormed inFlight lands)
      (@finishSearch_changes host ..)).1
  cases result with
  | error code =>
      exact Or.inl (searched false (.refused code)
        (keeps_noteRefusal state acquisition code))
  | ok grant =>
      have lands := @acceptGrant_lands host state acquisition ungranted grant
      rcases @acceptGrant_cases host state acquisition ungranted grant with
        kept | ⟨objects, wanted, passes, created, accepts⟩
      · exact Or.inl (searched _ lands kept)
      · rw [accepts] at lands
        have opened := wellFormed.opened passes.initialized
        rcases opened.sessions with ⟨table, tables⟩
        rcases opened.issuedIds with ⟨issued, identifiers⟩
        have formed := wellFormed_lands wellFormed inFlight lands
        have fields := presentedState_eq identifiers acquisition grant
          objects
        have current : (presentedState state acquisition grant
            objects).grant = some (numbered grant acquisition) := by
          rw [fields]
          rfl
        rw [afterAcquire, accepts]
        dsimp only
        cases good : (grantStillGood
            (presentedState state acquisition grant objects)).2 with
        | true =>
            have same := finishSearch_keeps formed good
              acquisition.search true
            have holds := good_of_current current good
            rw [fields] at same holds
            exact Or.inr ⟨grant, rfl,
              { wanted
                presented := by simp [created]
                lasting := holds.1
                unexpired := holds.2 },
              { current := by rw [fields]; exact same.grant
                objects := by rw [fields, created]; exact same.objects
                generation := by rw [fields]; exact same.generation
                drawn := by
                  rw [fields]
                  intro handle held
                  rw [same.objects]
                  exact same.drawn handle held }⟩
        | false =>
            have passes' : Passes
                (presentedState state acquisition grant objects)
                acquisition.search := by
              rw [fields]
              exact ⟨passes.lasting, passes.initialized, passes.lifecycle⟩
            have tables' : (presentedState state acquisition grant
                objects).sessions = some table := by
              rw [fields]
              exact tables
            rw [finishSearch_retires passes' tables' current good,
              retireGrant_eq tables']
            exact Or.inl (.of_subset (Or.inr ⟨rfl, rfl⟩)
              (List.nil_subset _))

/-! ## Steps -/

/-- What a step does to the grant, its objects and the search results. -/
inductive Presents
    (host : Host) (world : World) : Action → World → Prop where
  | keeps {action : Action} {next : World}
      (kept : Keeps world.state next.state) :
      Presents host world action next
  | installs {thread : Nat} {acquisition : Acquisition}
      {grant : PortalGrant} {next : World}
      (flying : world.threads thread = .acquiring acquisition)
      (allowed : Installs host world.state acquisition grant)
      (installed : Installed host world.state acquisition grant
        next.state) :
      Presents host world (.acquired thread (.ok grant)) next

/-- What a step presents to its caller. -/
theorem presents_of_step
    {world next : World} {action : Action}
    (consistent : Consistent world)
    (moves : (machine host).step world action = some next) :
    Presents host world action next := by
  cases step_moves moves with
  | enters free => exact .keeps (.refl _)
  | stretches ground grounded stretch =>
      exact .keeps (Stretch.keeps consistent.wellFormed stretch)
  | environment event =>
      exact .keeps (.of_subset (Or.inl ⟨rfl, rfl, rfl⟩)
        (List.Subset.refl _))
  | @lands thread acquisition result flying =>
      have inFlight := consistent.inFlight _ _ flying
      rcases @afterAcquire_cases host _ _ consistent.wellFormed inFlight
        result with kept | ⟨grant, rfl, allowed, installed⟩
      · exact .keeps kept
      · exact .installs flying allowed installed

/-! ## Runs whose generations tell -/

/-- The number in a handle. -/
def cut (generation : UInt32) : Nat :=
  generation.toNat % 2 ^ 28

/--
A grant that becomes usable does so under a number that no earlier grant of
the process had, modulo `2 ^ 28`.
-/
def FreshGeneration
    (host : Host) (record : Recorded World ObjectUse) : Action → Prop
  | .acquired thread (.ok grant) =>
      ∀ acquisition, record.now.threads thread = .acquiring acquisition →
        Installs host record.now.state acquisition grant →
        ∀ used ∈ record.past,
          cut used.generation ≠ cut (record.now.state.generation + 1)
  | _ => True

/-- The handle names no object, whatever is asked of it. -/
structure Unresolved (state : State) (handle : CkUlong) : Prop where
  lookup : portalObjectsLookup state.objects handle = none
  reads : ∀ session template,
    (cGetAttributeValue state session handle template).2 =
        answer .sessionHandleInvalid ∨
      (cGetAttributeValue state session handle template).2 =
        answer .objectHandleInvalid
  signs : ∀ session mechanism answers,
    (cSignInit state session mechanism handle answers).2 ∈
      [ answer .sessionHandleInvalid, answer .operationActive,
        answer .keyHandleInvalid ]
  decrypts : ∀ session mechanism,
    (cDecryptInit state session mechanism handle).2 ∈
      [ answer .sessionHandleInvalid, answer .operationActive,
        answer .keyHandleInvalid ]

theorem keeps_sessionLookup (state : State) (handle : Nat) :
    Keeps state (sessionLookup state handle).1 := by
  unfold sessionLookup
  split
  · exact .refl _
  · unfold grantStillGood
    split
    · exact .refl _
    · split_ifs
      · exact .refl _
      · exact keeps_retireGrant state _

/-- A handle that names nothing does so under no later state of the grant. -/
theorem lookup_of_keeps
    {first second : State} {handle : CkUlong}
    (keeps : Keeps first second)
    (absent : portalObjectsLookup first.objects handle = none) :
    portalObjectsLookup second.objects handle = none := by
  rcases keeps.grant with ⟨-, same, -⟩ | ⟨-, dropped⟩
  · rwa [same]
  · rw [dropped]
    rfl

theorem unresolved_of_lookup
    {state : State} {handle : CkUlong}
    (absent : portalObjectsLookup state.objects handle = none) :
    Unresolved state handle := by
  have looked {next : State} {session : Nat}
      {found : Option PortalSession}
      (result : sessionLookup state session = (next, found)) :
      portalObjectsLookup next.objects handle = none := by
    have keeps := keeps_sessionLookup state session
    rw [result] at keeps
    exact lookup_of_keeps keeps absent
  have keyless {next : State}
      (absent : portalObjectsLookup next.objects handle = none) :
      grantedKey next handle = none := by
    unfold grantedKey
    split
    · rename_i resolves
      rw [absent] at resolves
      cases resolves
    · rfl
  constructor
  · exact absent
  · intro session template
    unfold cGetAttributeValue withSession
    split
    · exact Or.inl rfl
    · rename_i result
      dsimp only
      rw [looked result]
      exact Or.inr rfl
  · intro session mechanism answers
    unfold cSignInit withSession
    split
    · simp
    · rename_i result
      dsimp only
      rw [keyless (looked result)]
      split_ifs <;> simp
  · intro session mechanism
    unfold cDecryptInit withSession
    split
    · simp
    · rename_i result
      dsimp only
      rw [keyless (looked result)]
      split_ifs <;> simp

/-- What is promised of object handles whenever the lock is free. -/
structure HandlesFresh (record : Recorded World ObjectUse) : Prop where
  /-- `C_FindObjects` returns handles of objects that were usable. -/
  returned : ∀ session maxCount produced,
    (cFindObjects record.now.state session maxCount).2.output =
      .objects produced →
    ∀ handle ∈ produced, ∃ used ∈ record.past, used.handle = handle
  /-- A handle of a grant that has been released names nothing. -/
  released : ∀ used ∈ record.past,
    (∀ grant, record.now.state.grant = some grant →
      grant.acquisition ≠ used.acquisition) →
    Unresolved record.now.state used.handle

/-- `C_FindObjects` returns results of a search. -/
theorem known_of_returned
    {state : State} {session maxCount : Nat} {produced : List CkUlong}
    (returned : (cFindObjects state session maxCount).2.output =
      .objects produced)
    {handle : CkUlong} (member : handle ∈ produced) :
    Known state handle := by
  have keeps := keeps_sessionLookup state session
  unfold cFindObjects withSession at returned
  split at returned
  · cases returned
  · rename_i next found result
    rw [result] at keeps
    dsimp only at returned
    split_ifs at returned
    · cases returned
    · rw [← Output.objects.inj returned] at member
      exact keeps.drawn handle ⟨found,
        (findSession_mem (sessionLookup_found result)).1,
        List.mem_of_mem_drop (List.mem_of_mem_take member)⟩

/-! ## Accounts -/

/-- What the record says about handles, whenever the lock is free. -/
structure Accounts (record : Recorded World ObjectUse) : Prop where
  presented : ∀ objects, record.now.state.objects = some objects →
    objects.objects.map PortalObject.handle =
      handlesOf record.now.state.generation
  handles : ∀ used ∈ record.past, used.handle ∈ handlesOf used.generation
  held : ∀ handle, Held record.now.state handle →
    ∃ used ∈ record.past, used.handle = handle
  distinct : ∀ used ∈ record.past, ∀ grant,
    record.now.state.grant = some grant →
    used.acquisition ≠ grant.acquisition →
    cut used.generation ≠ cut record.now.state.generation

variable {gnutls : CertificateLibrary}

/-- What is presented was created for the grant. -/
theorem created_of_presenting
    {grant : PortalGrant} {generation : UInt32} {objects : PortalObjects}
    (presented : (presenting host gnutls).portalObjectsNew grant generation =
      some objects) :
    portalObjectsNew gnutls grant generation = .ok objects := by
  rw [presenting] at presented
  cases result : portalObjectsNew gnutls grant generation with
  | error message => simp [result, Except.toOption] at presented
  | ok made => simpa [result, Except.toOption] using presented

theorem handles_of_presenting
    {grant : PortalGrant} {generation : UInt32} {objects : PortalObjects}
    (created : (presenting host gnutls).portalObjectsNew grant generation =
      some objects) :
    objects.objects.map PortalObject.handle = handlesOf generation :=
  handles_portalObjectsNew (created_of_presenting created)

/-- A handle that resolves is that of an object in use. -/
theorem used_of_lookup
    {state : State} (wellFormed : WellFormed state) {handle : CkUlong}
    (resolves : (portalObjectsLookup state.objects handle).isSome = true) :
    ∃ used ∈ uses state, used.handle = handle := by
  cases presented : state.objects with
  | none =>
      rw [presented] at resolves
      cases resolves
  | some objects =>
      have granted := wellFormed.objects
      rw [presented, Option.isSome_some, Option.isSome_iff_exists]
        at granted
      rcases granted with ⟨grant, current⟩
      rw [presented, isSome_portalObjectsLookup] at resolves
      rw [uses_eq current presented]
      exact ⟨_, List.mem_map_of_mem resolves, rfl⟩

/-- A handle that is known now is on record. -/
theorem recorded_of_known
    {record : Recorded World ObjectUse}
    (wellFormed : WellFormed record.now.state)
    (accounts : Accounts record)
    (noted : uses record.now.state ⊆ record.past)
    {handle : CkUlong} (known : Known record.now.state handle) :
    ∃ used ∈ record.past, used.handle = handle := by
  rcases known with held | resolves
  · exact accounts.held handle held
  · rcases used_of_lookup wellFormed resolves with ⟨used, member, same⟩
    exact ⟨used, noted member, same⟩

/-- The objects that are usable have the handles of their generation. -/
theorem handles_of_uses
    {state : State}
    (presented : ∀ objects, state.objects = some objects →
      objects.objects.map PortalObject.handle =
        handlesOf state.generation)
    {used : ObjectUse} (member : used ∈ uses state) :
    used.generation = state.generation ∧
      used.handle ∈ handlesOf used.generation ∧
      ∃ grant, state.grant = some grant ∧
        used.acquisition = grant.acquisition := by
  unfold uses at member
  split at member
  · rename_i grant objects current created
    rcases List.mem_map.mp member with ⟨object, listed, rfl⟩
    refine ⟨rfl, ?_, grant, current, rfl⟩
    rw [← presented objects created]
    exact List.mem_map_of_mem listed
  · cases member

theorem accounts_step
    {record next : Recorded World ObjectUse} {action : Action}
    (wellFormed : WellFormed record.now.state)
    (wellFormed' : WellFormed next.now.state)
    (accounts : Accounts record)
    (noted : uses record.now.state ⊆ record.past)
    (fresh : FreshGeneration (presenting host gnutls) record action)
    (presents : Presents (presenting host gnutls) record.now action
      next.now)
    (past : next.past = uses next.now.state ++ record.past) :
    Accounts next := by
  have older {handle : CkUlong}
      (found : ∃ used ∈ record.past, used.handle = handle) :
      ∃ used ∈ next.past, used.handle = handle := by
    rcases found with ⟨used, member, same⟩
    rw [past]
    exact ⟨used, List.mem_append_right _ member, same⟩
  have presented : ∀ objects, next.now.state.objects = some objects →
      objects.objects.map PortalObject.handle =
        handlesOf next.now.state.generation := by
    intro objects created
    cases presents with
    | keeps kept =>
        rcases kept.grant with ⟨-, same, generation⟩ | ⟨-, dropped⟩
        · rw [generation]
          exact accounts.presented objects (same.symm.trans created)
        · rw [dropped] at created
          cases created
    | installs flying allowed installed =>
        rw [installed.objects] at created
        rw [installed.generation]
        exact handles_of_presenting created
  have handles : ∀ used ∈ next.past,
      used.handle ∈ handlesOf used.generation := by
    intro used member
    rw [past] at member
    rcases List.mem_append.mp member with now | before
    · exact (handles_of_uses presented now).2.1
    · exact accounts.handles used before
  refine ⟨presented, handles, ?_, ?_⟩
  · intro handle held
    cases presents with
    | keeps kept =>
        exact older (recorded_of_known wellFormed accounts noted
          (kept.drawn handle held))
    | installs flying allowed installed =>
        rcases installed.drawn handle held with held | resolves
        · exact older (accounts.held handle held)
        · rcases used_of_lookup wellFormed' resolves with
            ⟨used, member, same⟩
          rw [past]
          exact ⟨used, List.mem_append_left _ member, same⟩
  · intro used member grant current foreign
    rw [past] at member
    rcases List.mem_append.mp member with now | before
    · rcases handles_of_uses presented now with
        ⟨-, -, grant', current', same⟩
      cases current.symm.trans current'
      exact absurd same foreign
    · cases presents with
      | keeps kept =>
          rcases kept.grant with ⟨same, -, generation⟩ | ⟨dropped, -⟩
          · rw [generation]
            exact accounts.distinct used before grant
              (same.symm.trans current) foreign
          · rw [dropped] at current
            cases current
      | installs flying allowed installed =>
          rw [installed.generation]
          exact fresh _ flying allowed used before

theorem accounts_of_reachable
    {record : Recorded World ObjectUse}
    (reachable : (recorder host gnutls).ReachableBy
      (FreshGeneration (presenting host gnutls)) record) :
    Accounts record := by
  refine reachable.invariant ?_ ?_
  · rintro ⟨world, past⟩ ⟨start, nothing⟩
    cases start
    cases nothing
    constructor
    · intro objects created
      cases created
    · intro used member
      cases member
    · rintro handle ⟨session, member, -⟩
      cases member
    · intro used member
      cases member
  · intro record action next before accounts fresh moves
    rcases System.recording_step_iff.mp moves with ⟨moved, past⟩
    have reached := before.unrecorded
    have consistent := consistent_of_reachable reached
    exact accounts_step consistent.wellFormed
      (consistent_of_reachable (reached.step moved)).wellFormed accounts
      before.noted fresh (presents_of_step consistent moved) past

/-- If no generation comes back in 28 bits, then no handle does. -/
theorem handles_fresh
    {record : Recorded World ObjectUse}
    (reachable : (recorder host gnutls).ReachableBy
      (FreshGeneration (presenting host gnutls)) record) :
    HandlesFresh record := by
  have accounts := accounts_of_reachable reachable
  have wellFormed :=
    (consistent_of_reachable reachable.unrecorded).wellFormed
  constructor
  · intro session maxCount produced returned handle member
    exact recorded_of_known wellFormed accounts reachable.noted
      (known_of_returned returned member)
  · intro used member ended
    apply unresolved_of_lookup
    by_contra resolves
    rw [← ne_eq, Option.ne_none_iff_isSome] at resolves
    rcases used_of_lookup wellFormed resolves with ⟨now, present, same⟩
    rcases handles_of_uses accounts.presented present with
      ⟨generation, listed, grant, current, named⟩
    rw [same, generation] at listed
    exact accounts.distinct used member grant current
      (ended grant current).symm
      ((mem_handlesOf_iff (accounts.handles used member) _).mp listed)

/-! ## Runs -/

/-- Every certificate is imported, and nothing is read from it. -/
def sampleLibrary : CertificateLibrary where
  initialises := true
  imports := fun _ => some
    { publicKey := true
      exported := some []
      rawDn := none
      rawIssuerDn := none
      serial := none
      rsaRaw := none }
  sha1 := fun _ => some [1]

/-- The private key of the first grant. -/
def firstKey : ObjectUse where
  acquisition := 0
  generation := 1
  handle := 19

/-- The module, with a record of the handles that have resolved. -/
abbrev sampleRecorder : System (Recorded World ObjectUse) Action :=
  recorder sampleHost sampleLibrary

theorem reachableBy_start :
    sampleRecorder.ReachableBy
      (FreshGeneration (presenting sampleHost sampleLibrary))
      ⟨.start, []⟩ :=
  .initial ⟨rfl, rfl⟩

/-- The first grant has been acquired and released. -/
def releasedRun : List Action :=
  acquiringRun ++
  [.acquired 0 (.ok sampleGrant)] ++
  calling 0 (.cFindObjectsFinal 1) ++
  calling 0 (.cLogout 1)

/-- The same session searches and acquires again. -/
def acquiringAgain : List Action :=
  calling 0 (.cFindObjectsInit 1 (.array [])) ++
  [.acquired 0 (.ok sampleGrant)]

/-- Calls bring no grant. -/
theorem freshGeneration_calling
    {host : Host} {calls : List Call} {action : Action}
    (member : action ∈ calls.flatMap (calling 0))
    (record : Recorded World ObjectUse) :
    FreshGeneration host record action := by
  rcases List.mem_flatMap.mp member with ⟨call, -, member⟩
  simp only [calling, List.mem_cons, List.not_mem_nil, or_false] at member
  rcases member with rfl | rfl <;> exact trivial

/-- The handle of the first key is refused under the second grant, whose key
has another one. -/
theorem handles_fresh_logout :
    ∃ record,
      sampleRecorder.run ⟨.start, []⟩ (releasedRun ++ acquiringAgain) =
        some record ∧
      HandlesFresh record ∧ firstKey ∈ record.past ∧
      record.now.state.grant.map PortalGrant.acquisition = some 1 ∧
      (portalObjectsLookup record.now.state.objects 51).isSome = true ∧
      Unresolved record.now.state 19 := by
  let first : List Call :=
    [.cInitialize none, .cOpenSession portalSlotId ckfSerialSession true,
      .cFindObjectsInit 1 (.array [])]
  let second : List Call :=
    [.cFindObjectsFinal 1, .cLogout 1, .cFindObjectsInit 1 (.array [])]
  have acquires : sampleRecorder.run ⟨.start, []⟩
      (first.flatMap (calling 0)) = some _ := rfl
  have granted := (reachableBy_start.run (fun _ => freshGeneration_calling)
    acquires).act (.acquired 0 (.ok sampleGrant)) (by
      intro acquisition flying allowed used member
      cases member) rfl
  have searching := @System.ReachableBy.run _ _ sampleRecorder _ _ _
    (second.flatMap (calling 0)) granted (fun _ => freshGeneration_calling)
    rfl
  have again := searching.act (.acquired 0 (.ok sampleGrant)) (by
    intro acquisition flying allowed
    decide) rfl
  have fresh := handles_fresh again
  refine ⟨_, rfl, fresh, by decide, rfl, by decide, ?_⟩
  refine fresh.released firstKey (by decide) ?_
  rintro grant current
  cases current
  decide

/-! ## A wrapped generation -/

/-- The record of a run that gives a grant back. -/
def releasedRecord : Recorded World ObjectUse :=
  (sampleRecorder.run ⟨.start, []⟩ releasedRun).getD ⟨.start, []⟩

/-- There have been more logouts. -/
def idleWorld (generation : UInt32) (trace : List Event) : World where
  state := { releasedRecord.now.state with generation, trace }
  threads := releasedRecord.now.threads

theorem logout_idle (generation : UInt32) (trace : List Event) :
    (machine (presenting sampleHost sampleLibrary)).run
        (idleWorld generation trace) (calling 0 (.cLogout 1)) =
      some (idleWorld (generation + 1) (.loggedOut :: trace)) := by
  rw [run_calling rfl rfl rfl, World.after]
  have same : Function.update (idleWorld generation trace).threads 0
      (.returned (.cLogout 1) (answer .userNotLoggedIn)) =
        (idleWorld generation trace).threads :=
    Function.update_eq_self 0 _
  exact congrArg some (World.mk.injEq .. |>.mpr ⟨rfl, same⟩)

theorem reachable_releasedRecord :
    sampleRecorder.Reachable releasedRecord := by
  have moves : sampleRecorder.run ⟨.start, []⟩ releasedRun =
      some releasedRecord := rfl
  exact reachableBy_start.reachable.run moves

/-- Any number of logouts may follow. -/
theorem reachable_idleWorld (count : Nat) :
    ∃ past, firstKey ∈ past ∧
      sampleRecorder.Reachable
        ⟨idleWorld (2 + UInt32.ofNat count)
          (List.replicate count .loggedOut ++
            releasedRecord.now.state.trace), past⟩ := by
  induction count with
  | zero =>
      exact ⟨releasedRecord.past, by decide, reachable_releasedRecord⟩
  | succ count ih =>
      rcases ih with ⟨past, member, reachable⟩
      rcases System.Reachable.record_run reachable (logout_idle ..) with
        ⟨past', reachable', kept⟩
      rw [UInt32.add_assoc, ← UInt32.ofNat_one, ← UInt32.ofNat_add]
        at reachable'
      exact ⟨past', kept member, reachable'⟩

/-- The objects of the second grant. -/
def secondObjects : Option PortalObjects :=
  (presenting sampleHost sampleLibrary).portalObjectsNew
    { sampleGrant with acquisition := 1 } 0x10000001

/-- They have the handles of the first. -/
theorem resolves_when_wrapped (trace : List Event) :
    ∃ world, (machine (presenting sampleHost sampleLibrary)).run
        (idleWorld 0x10000000 trace) acquiringAgain = some world ∧
      world.state.grant.map PortalGrant.acquisition = some 1 ∧
      (portalObjectsLookup world.state.objects 19).isSome := by
  have resolves : (portalObjectsLookup secondObjects 19).isSome := by
    decide
  exact ⟨_, rfl, rfl, resolves⟩

/--
After `2 ^ 28` releases the handles of the first grant name the objects of
the second.
-/
theorem wrapped_handles_resolve :
    ∃ record, sampleRecorder.Reachable record ∧ ¬HandlesFresh record := by
  rcases reachable_idleWorld (2 ^ 28 - 2) with ⟨past, member, reachable⟩
  have wrapped : 2 + UInt32.ofNat (2 ^ 28 - 2) = 0x10000000 := by decide
  rw [wrapped] at reachable
  rcases resolves_when_wrapped _ with ⟨world, moves, current, resolves⟩
  rcases System.Reachable.record_run reachable moves with
    ⟨past', reachable', kept⟩
  refine ⟨_, reachable', fun fresh => ?_⟩
  have unresolved := fresh.released firstKey (kept member) (by
    intro grant granted same
    change world.state.grant = some grant at granted
    rw [granted, Option.map_some, same] at current
    cases current)
  have absent := unresolved.lookup
  change portalObjectsLookup world.state.objects 19 = none at absent
  rw [absent] at resolves
  cases resolves

end PortalCertificate.Module.ObjectHandles
