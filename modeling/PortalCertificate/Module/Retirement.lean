import Mathlib.Data.List.TakeWhile
import PortalCertificate.Module.Acquisitions

/-!
# Retired grants

A call that finds the grant gone or expired retires it: every session ends,
and one slot event is queued.  An application learns of the end from its old
session handles, so these must stay invalid until the module is initialized
again.

Handles are counted without a bound here.  The queue is a 32-bit counter,
and it counts the events exactly as long as fewer than `2 ^ 32` of them have
not been returned.
-/

namespace PortalCertificate.Module.Retirement

open PortalCertificate.Library.Transition
open PortalCertificate.Module.Acquire
open PortalCertificate.Module.Acquisitions
open PortalCertificate.Module.Calls
open PortalCertificate.Module.Changes
open PortalCertificate.Module.GrantBinding
open PortalCertificate.Module.Invariants
open PortalCertificate.Module.Lifecycle
open PortalCertificate.Module.Machine
open PortalCertificate.Module.Session
open PortalCertificate.Module.SessionCalls
open PortalCertificate.Module.Statics
open PortalCertificate.Module.Stretches
open PortalCertificate.Module.Threads
open PortalCertificate.Pkcs11

variable {host : Host}

/-! ## The trace of a lifecycle -/

/-- The events since the latest `C_Initialize`, newest first. -/
def lifecycle (trace : List Event) : List Event :=
  trace.takeWhile fun event => event != .initialized

/-- The events open a session with this handle. -/
def HandleOpened (handle : Nat) (events : List Event) : Prop :=
  ∃ birth, .sessionOpened birth handle ∈ events

/-- The handle was opened before a grant was retired. -/
def Stale (handle : Nat) (trace : List Event) : Prop :=
  ∃ since acquisition before,
    lifecycle trace = since ++ .retired acquisition :: before ∧
      HandleOpened handle before

/-- The event is the retirement of a grant. -/
def isRetired : Event → Bool
  | .retired _ => true
  | _ => false

/-- How many grants have been retired. -/
def retirements (trace : List Event) : Nat :=
  (lifecycle trace).countP isRetired

/-- How many slot events have been returned. -/
def eventsReturned (trace : List Event) : Nat :=
  (lifecycle trace).count .slotEventReturned

/-- Events that neither open, retire nor count. -/
def Inert : Event → Prop
  | .initialized | .retired _ | .slotEventReturned
  | .sessionOpened _ _ => False
  | _ => True

theorem lifecycle_cons
    {event : Event} (other : event ≠ .initialized) (trace : List Event) :
    lifecycle (event :: trace) = event :: lifecycle trace := by
  simp [lifecycle, other]

@[simp]
theorem lifecycle_initialized (trace : List Event) :
    lifecycle (.initialized :: trace) = [] := by
  simp [lifecycle]

theorem Inert.ne_initialized
    {event : Event} (inert : Inert event) : event ≠ .initialized := by
  rintro rfl
  exact inert

theorem Inert.not_retired
    {event : Event} (inert : Inert event) : isRetired event = false := by
  cases event with
  | retired acquisition => exact inert.elim
  | _ => rfl

theorem lifecycle_append
    {news : List Event} (inert : ∀ event ∈ news, Inert event)
    (trace : List Event) :
    lifecycle (news ++ trace) = news ++ lifecycle trace := by
  induction news with
  | nil => rfl
  | cons event news ih =>
      have first := inert event (List.mem_cons_self ..)
      have rest : ∀ other ∈ news, Inert other :=
        fun other member => inert other (List.mem_cons_of_mem _ member)
      rw [List.cons_append, lifecycle_cons first.ne_initialized, ih rest]
      rfl

theorem retirements_append
    {news : List Event} (inert : ∀ event ∈ news, Inert event)
    (trace : List Event) :
    retirements (news ++ trace) = retirements trace := by
  have none : news.countP isRetired = 0 := by
    rw [List.countP_eq_zero]
    intro event member
    simp [(inert event member).not_retired]
  rw [retirements, lifecycle_append inert, List.countP_append, none,
    Nat.zero_add]
  rfl

theorem eventsReturned_append
    {news : List Event} (inert : ∀ event ∈ news, Inert event)
    (trace : List Event) :
    eventsReturned (news ++ trace) = eventsReturned trace := by
  have none : news.count .slotEventReturned = 0 := by
    rw [List.count_eq_zero]
    exact fun member => inert _ member
  rw [eventsReturned, lifecycle_append inert, List.count_append, none,
    Nat.zero_add]
  rfl

theorem handleOpened_append
    {news : List Event} (inert : ∀ event ∈ news, Inert event)
    {handle : Nat} {trace : List Event}
    (opened : HandleOpened handle (news ++ trace)) :
    HandleOpened handle trace := by
  rcases opened with ⟨birth, member⟩
  rcases List.mem_append.mp member with new | old
  · exact (inert _ new).elim
  · exact ⟨birth, old⟩

/-- Only a retirement makes handles stale. -/
theorem stale_cons
    {event : Event} {handle : Nat} {trace : List Event}
    (other : event ≠ .initialized)
    (stale : Stale handle (event :: trace)) :
    (isRetired event = true ∧ HandleOpened handle (lifecycle trace)) ∨
      Stale handle trace := by
  rcases stale with ⟨since, acquisition, before, split, opened⟩
  rw [lifecycle_cons other] at split
  cases since with
  | nil =>
      rcases List.cons.inj split with ⟨rfl, rfl⟩
      exact Or.inl ⟨rfl, opened⟩
  | cons first since =>
      exact Or.inr ⟨since, acquisition, before,
        (List.cons.inj split).2, opened⟩

theorem stale_append
    {news : List Event} (inert : ∀ event ∈ news, Inert event)
    {handle : Nat} {trace : List Event}
    (stale : Stale handle (news ++ trace)) : Stale handle trace := by
  induction news with
  | nil => exact stale
  | cons event news ih =>
      have first := inert event (List.mem_cons_self ..)
      rcases stale_cons first.ne_initialized stale with
        ⟨retired, -⟩ | stale
      · rw [first.not_retired] at retired
        cases retired
      · exact ih (fun other member =>
          inert other (List.mem_cons_of_mem _ member)) stale

theorem Stale.opened
    {handle : Nat} {trace : List Event} (stale : Stale handle trace) :
    HandleOpened handle (lifecycle trace) := by
  rcases stale with ⟨since, acquisition, before, split, birth, member⟩
  rw [split]
  exact ⟨birth, List.mem_append_right _ (List.mem_cons_of_mem _ member)⟩

/-! ## The invariant -/

/-- The handles of retired grants are out of use, and the queue of slot events
is as long as the trace says, in 32 bits. -/
structure Retired (state : State) : Prop where
  /-- Handles are given out in order. -/
  opened : ∀ handle, HandleOpened handle (lifecycle state.trace) →
    handle < state.nextSession
  stale : ∀ entry ∈ identities state, ¬Stale entry.handle state.trace
  /-- The queue counts in 32 bits. -/
  queue : ∃ pending,
    retirements state.trace = eventsReturned state.trace + pending ∧
      state.slotEvents = UInt32.ofNat pending

/-- What a change does to the handles and the queue. -/
inductive Turn (host : Host) (first second : State) : Prop where
  | keeps (news : List Event) (inert : ∀ event ∈ news, Inert event)
      (trace : second.trace = news ++ first.trace)
      (handles : identities second ⊆ identities first)
      (nextSession : second.nextSession = first.nextSession)
      (slotEvents : second.slotEvents = first.slotEvents)
  | retires (acquisition : Nat) (news : List Event)
      (inert : ∀ event ∈ news, Inert event)
      (trace : second.trace =
        .retired acquisition :: (news ++ first.trace))
      (handles : identities second = [])
      (nextSession : second.nextSession = first.nextSession)
      (slotEvents : second.slotEvents = first.slotEvents + 1)
  | opens (birth : Nat) (news : List Event)
      (inert : ∀ event ∈ news, Inert event)
      (trace : second.trace =
        news ++ .sessionOpened birth first.nextSession :: first.trace)
      (handles : ∀ entry ∈ identities second,
        entry.birth = birth ∧ entry.handle = first.nextSession ∨
          entry ∈ identities first)
      (nextSession : second.nextSession =
        host.nextHandle first.nextSession)
      (slotEvents : second.slotEvents = first.slotEvents)
      (initialized : first.initialized = true)
  | returns (trace : second.trace = .slotEventReturned :: first.trace)
      (handles : identities second = identities first)
      (nextSession : second.nextSession = first.nextSession)
      (pending : first.slotEvents > 0)
      (slotEvents : second.slotEvents = first.slotEvents - 1)
  | restarts (trace : second.trace = .initialized :: first.trace)
      (handles : identities second = [])
      (nextSession : second.nextSession = 1)
      (slotEvents : second.slotEvents = 0)

theorem Retired.kept
    (counting : ∀ handle, host.nextHandle handle = handle + 1)
    {first second : State} (retired : Retired first)
    (turn : Turn host first second) : Retired second := by
  rcases retired.queue with ⟨pending, counts, slots⟩
  cases turn with
  | keeps news inert trace handles nextSession slotEvents =>
      constructor
      · intro handle opened
        rw [trace, lifecycle_append inert] at opened
        rw [nextSession]
        exact retired.opened handle (handleOpened_append inert opened)
      · intro entry member stale
        rw [trace] at stale
        exact retired.stale entry (handles member) (stale_append inert stale)
      · refine ⟨pending, ?_, slotEvents.trans slots⟩
        rw [trace, retirements_append inert, eventsReturned_append inert,
          counts]
  | retires acquisition news inert trace handles nextSession slotEvents =>
      have whole : lifecycle second.trace =
          .retired acquisition :: (news ++ lifecycle first.trace) := by
        rw [trace, lifecycle_cons Event.noConfusion, lifecycle_append inert]
      constructor
      · rintro handle ⟨birth, member⟩
        rw [whole] at member
        have inNews := (List.mem_cons.mp member).resolve_left
          Event.noConfusion
        rw [nextSession]
        exact retired.opened handle
          (handleOpened_append inert ⟨birth, inNews⟩)
      · intro entry member
        rw [handles] at member
        cases member
      · refine ⟨pending + 1, ?_, ?_⟩
        · rw [trace, retirements, eventsReturned,
            lifecycle_cons Event.noConfusion,
            List.countP_cons_of_pos rfl,
            List.count_cons_of_ne (by simp)]
          change retirements (news ++ first.trace) + 1 =
            eventsReturned (news ++ first.trace) + (pending + 1)
          rw [retirements_append inert, eventsReturned_append inert, counts,
            Nat.add_assoc]
        · rw [slotEvents, slots, UInt32.ofNat_add]
          rfl
  | opens birth news inert trace handles nextSession slotEvents =>
      rw [counting] at nextSession
      have whole : lifecycle second.trace = news ++
          .sessionOpened birth first.nextSession ::
            lifecycle first.trace := by
        rw [trace, lifecycle_append inert,
          lifecycle_cons Event.noConfusion]
      constructor
      · intro handle opened
        rw [whole] at opened
        rcases handleOpened_append inert opened with ⟨other, member⟩
        rw [nextSession]
        rcases List.mem_cons.mp member with same | member
        · cases same
          exact Nat.lt_succ_self _
        · exact Nat.lt_succ_of_lt (retired.opened handle ⟨other, member⟩)
      · intro entry member stale
        rw [trace] at stale
        have before : Stale entry.handle first.trace :=
          (stale_cons Event.noConfusion
            (stale_append inert stale)).resolve_left fun retires =>
              Bool.noConfusion retires.1
        rcases handles entry member with ⟨-, fresh⟩ | inTable
        · have old := retired.opened _ before.opened
          rw [fresh] at old
          exact Nat.lt_irrefl _ old
        · exact retired.stale entry inTable before
      · refine ⟨pending, ?_, slotEvents.trans slots⟩
        rw [trace, retirements_append inert, eventsReturned_append inert,
          retirements, eventsReturned, lifecycle_cons Event.noConfusion,
          List.countP_cons_of_neg (by simp [isRetired]),
          List.count_cons_of_ne (by simp)]
        exact counts
  | returns trace handles nextSession some slotEvents =>
      constructor
      · rintro handle ⟨birth, member⟩
        rw [trace, lifecycle_cons Event.noConfusion] at member
        rw [nextSession]
        exact retired.opened handle ⟨birth,
          (List.mem_cons.mp member).resolve_left Event.noConfusion⟩
      · intro entry member stale
        rw [trace] at stale
        rw [handles] at member
        refine retired.stale entry member ?_
        exact (stale_cons Event.noConfusion stale).resolve_left
          fun retires => Bool.noConfusion retires.1
      · cases pending with
        | zero =>
            rw [slots] at some
            cases some
        | succ pending =>
            refine ⟨pending, ?_, ?_⟩
            · rw [trace, retirements, eventsReturned,
                lifecycle_cons Event.noConfusion,
                List.countP_cons_of_neg (by simp [isRetired]),
                List.count_cons_self]
              change retirements first.trace =
                eventsReturned first.trace + 1 + pending
              omega
            · rw [slotEvents, slots, UInt32.ofNat_add]
              exact UInt32.add_sub_cancel _ _
  | restarts trace handles nextSession slotEvents =>
      constructor
      · rintro handle ⟨birth, member⟩
        rw [trace, lifecycle_initialized] at member
        cases member
      · intro entry member
        rw [handles] at member
        cases member
      · refine ⟨0, ?_, slotEvents⟩
        simp [trace, retirements, eventsReturned]

/-! ## Changes turn as described -/

theorem inert_endEvents (table : List PortalSession) :
    ∀ event ∈ endEvents table, Inert event := by
  intro event member
  rcases List.mem_map.mp member with ⟨session, -, rfl⟩
  exact trivial

theorem inert_releaseEvents (state : State) :
    ∀ event ∈ releaseEvents state, Inert event := by
  intro event member
  rcases mem_releaseEvents member with ⟨grant, -, rfl | rfl⟩ <;>
    exact trivial

theorem inert_dropEvents (state : State) :
    ∀ event ∈ dropEvents state, Inert event := by
  intro event member
  rw [(mem_dropEvents member).2]
  exact trivial

theorem inert_append
    {first second : List Event} (inert : ∀ event ∈ first, Inert event)
    (inert' : ∀ event ∈ second, Inert event) :
    ∀ event ∈ first ++ second, Inert event :=
  fun event member =>
    (List.mem_append.mp member).elim (inert event) (inert' event)

theorem inert_singleton (event : Event) (inert : Inert event) :
    ∀ other ∈ [event], Inert other := by
  simpa using inert

/-- Dropping the grant keeps the sessions. -/
theorem identities_releaseGrant (state : State) :
    identities (releaseGrant state) = identities state := by
  rw [releaseGrant_eq]
  cases sessions : state.sessions with
  | none => simp [identities, State.table, sessions]
  | some table =>
      simp [identities, State.table, sessions, Function.comp_def]

/-- A change that neither opens, retires nor counts. -/
theorem turn_emits
    {first second : State} {event : Event}
    (trace : second.trace = event :: first.trace) (inert : Inert event)
    (handles : identities second = identities first)
    (nextSession : second.nextSession = first.nextSession)
    (slotEvents : second.slotEvents = first.slotEvents) :
    Turn host first second :=
  .keeps [event] (inert_singleton event inert) trace
    (handles ▸ List.Subset.refl _) nextSession slotEvents

/-- What any change does to the handles and the queue. -/
theorem Change.turn
    {first second : State} (wellFormed : WellFormed first)
    (change : Change host first second) : Turn host first second := by
  cases change with
  | @retires grant current ended =>
      rcases (wellFormed.opened
        (wellFormed.initialized_of_grant current)).sessions with
        ⟨table, tables⟩
      rw [retireGrant_eq tables]
      exact .retires grant.acquisition
        (endEvents table ++ releaseEvents first)
        (inert_append (inert_endEvents table) (inert_releaseEvents first))
        (by simp) rfl rfl rfl
  | revises found quiet finds =>
      refine .keeps [] (by simp) rfl ?_ rfl rfl
      rw [wellFormed.identities_updateSession found quiet.toSameSession]
      exact List.Subset.refl _
  | starts found starts current =>
      exact turn_emits rfl trivial
        (wellFormed.identities_updateSession found starts.toSameSession)
        rfl rfl
  | logsIn member =>
      exact .keeps [] (by simp) rfl (List.Subset.refl _) rfl rfl
  | logsOut member =>
      let before : State := { first.emit .loggedOut with loggedIn := false }
      refine .keeps
        (dropEvents before ++ releaseEvents before ++ [.loggedOut])
        (inert_append
          (inert_append (inert_dropEvents before) (inert_releaseEvents before))
          (inert_singleton .loggedOut trivial)) ?_ ?_ ?_ ?_
      · rw [releaseGrant_eq]
        simp only [List.append_assoc]
        rfl
      · rw [identities_releaseGrant]
        exact List.Subset.refl _
      · rw [releaseGrant_eq]
        rfl
      · rw [releaseGrant_eq]
        rfl
  | closesAll =>
      cases sessions : first.sessions with
      | none =>
          rw [cCloseAllSessions_destroyed sessions]
          refine .keeps (.nullTable ::
            (releaseEvents first ++ [.nullTable, .closedAll])) ?_
            (by simp) ?_ rfl rfl
          · exact inert_append (inert_singleton .nullTable trivial)
              (inert_append (inert_releaseEvents first)
                (by simp [Inert]))
          · exact List.Subset.refl _
      | some table =>
          rw [cCloseAllSessions_eq sessions]
          exact .keeps
            (releaseEvents first ++ (endEvents table ++ [.closedAll]))
            (inert_append (inert_releaseEvents first)
              (inert_append (inert_endEvents table)
                (inert_singleton .closedAll trivial)))
            (by simp) (List.nil_subset _) rfl rfl
  | closes handle =>
      cases sessions : first.sessions with
      | none =>
          rw [cCloseSession_destroyed sessions]
          exact turn_emits rfl trivial rfl rfl rfl
      | some table =>
          rw [cCloseSession_eq sessions]
          refine .keeps _ (inert_endEvents _) rfl ?_ rfl rfl
          rw [identities_eq sessions]
          exact List.map_subset _ (List.filter_subset_self ..)
  | opens flags available =>
      have initialized := wellFormed.initialized_of_available available
      rcases (wellFormed.opened initialized).sessions with
        ⟨table, tables⟩
      rw [addSession_eq tables]
      refine .opens first.openings _ (inert_endEvents _) rfl ?_ rfl rfl
        initialized
      intro entry member
      rcases List.mem_cons.mp member with rfl | member
      · exact Or.inl ⟨rfl, rfl⟩
      · refine Or.inr ?_
        rw [identities_eq tables]
        exact List.map_subset _ (List.filter_subset_self ..) member
  | returnsSlotEvent pending => exact .returns rfl rfl rfl pending rfl
  | initializes args answers before => exact .restarts rfl rfl rfl rfl
  | requests | beginsFinalize | touchesNull =>
      exact turn_emits rfl trivial rfl rfl rfl
  | environment event =>
      exact .keeps [] (by simp) rfl (List.Subset.refl _) rfl rfl

theorem turn_finishFinalize (state : State) :
    Turn host state (finishFinalize state).1 := by
  rw [finishFinalize_eq]
  exact .keeps
    (.finalized :: (endEvents state.table ++
      (dropEvents state ++ releaseEvents state)))
    (inert_append (inert_singleton .finalized trivial)
      (inert_append (inert_endEvents _)
        (inert_append (inert_dropEvents _) (inert_releaseEvents _))))
    (by simp) (List.nil_subset _) rfl rfl

/-- Two events of no consequence. -/
theorem turn_emits_two
    {first second : State} {event event' : Event}
    (trace : second.trace = event :: event' :: first.trace)
    (inert : Inert event) (inert' : Inert event')
    (handles : identities second = identities first)
    (nextSession : second.nextSession = first.nextSession)
    (slotEvents : second.slotEvents = first.slotEvents) :
    Turn host first second :=
  .keeps [event, event']
    (inert_append (inert_singleton event inert)
      (inert_singleton event' inert')) trace
    (handles ▸ List.Subset.refl _) nextSession slotEvents

/-- The end of an acquisition neither opens, retires nor counts. -/
theorem turn_of_lands
    {state middle : State} {acquisition : Acquisition}
    (lands : Lands host state acquisition middle) :
    Turn host state middle := by
  cases lands with
  | refused code =>
      unfold noteRefusal
      split_ifs
      · exact turn_emits rfl trivial rfl rfl rfl
      · exact turn_emits rfl trivial rfl rfl rfl
  | discarded =>
      unfold releaseAcquired
      split_ifs
      · exact turn_emits_two rfl trivial trivial rfl rfl rfl
      · exact turn_emits rfl trivial rfl rfl rfl
  | @installed grant objects wanted created =>
      unfold issueIdentifier
      split
      · refine .keeps [.nullTable, .installed acquisition.number
          grant.sessionHandle, .acquireReturned acquisition.number true]
          ?_ rfl (List.Subset.refl _) rfl rfl
        simp [Inert]
      · exact turn_emits_two rfl trivial trivial rfl rfl rfl
  | rejected grant wanted =>
      let set : State := setGrant (endAcquire state acquisition true)
        (numbered grant acquisition)
      refine .keeps (dropEvents set ++ releaseEvents set ++
        [.installed acquisition.number grant.sessionHandle,
          .acquireReturned acquisition.number true]) ?_ ?_ ?_ ?_ ?_
      · exact inert_append
          (inert_append (inert_dropEvents set) (inert_releaseEvents set))
          (by simp [Inert])
      · rw [releaseGrant_eq]
        simp only [List.append_assoc]
        rfl
      · rw [identities_releaseGrant]
        exact List.Subset.refl _
      · rw [releaseGrant_eq]
        rfl
      · rw [releaseGrant_eq]
        rfl

/-! ## Calls on sessions that are not open -/

section Absent

variable
  {state : State} {handle : Nat}
  (absent : state.findSession handle = none)
include absent

/-- Retiring a grant opens no session. -/
theorem absent_grantStillGood :
    (grantStillGood state).1.findSession handle = none := by
  unfold grantStillGood
  split
  · exact absent
  · split_ifs
    · exact absent
    · cases sessions : state.sessions <;>
        simp [retireGrant, releaseGrant_eq, State.removeAllSessions,
          State.emit, State.findSession, State.table, sessions]

theorem sessionLookup_absent : (sessionLookup state handle).2 = none := by
  unfold sessionLookup
  split
  · rfl
  · exact absent_grantStillGood absent

theorem withSession_absent
    (body : State → PortalSession → State × Reply) :
    (withSession state handle body).2 = answer .sessionHandleInvalid := by
  have nothing := sessionLookup_absent absent
  unfold withSession
  split <;> rename_i result
  · rfl
  · rw [result] at nothing
    cases nothing

theorem withOperationSession_absent
    (body : State → PortalSession → State × Reply) :
    (withOperationSession state handle body).2 =
      answer .sessionHandleInvalid := by
  have refused : (operationSessionLookup state handle).2 =
      .error .sessionHandleInvalid := by
    have result := operationLookup state handle
    generalize operationSessionLookup state handle = answer at result ⊢
    cases result with
    | gone current gone named =>
        rw [absent] at named
        cases named
    | @found before next session looks found =>
        have nothing : (sessionLookup before handle).2 = none := by
          cases looks with
          | same => exact sessionLookup_absent absent
          | unlisted sessions =>
              exact @sessionLookup_absent (state.emit .nullTable) handle absent
        rw [found] at nothing
        cases nothing
    | absent => rfl
  unfold withOperationSession
  split <;> rename_i result <;> rw [result] at refused
  · cases refused
    rfl
  · cases refused

theorem sessionRevalidate_absent (lifecycle serial : UInt32) :
    (sessionRevalidate state handle lifecycle serial).2 = none := by
  have nothing := sessionLookup_absent absent
  unfold sessionRevalidate
  split_ifs
  · rfl
  · split <;> rename_i result
    · rfl
    · rw [result] at nothing
      cases nothing

theorem absent_sessionRevalidate (lifecycle serial : UInt32) :
    (sessionRevalidate state handle lifecycle serial).1.findSession
      handle = none := by
  have looked : (sessionLookup state handle).1.findSession handle =
      none := by
    unfold sessionLookup
    split
    · exact absent
    · exact absent_grantStillGood absent
  unfold sessionRevalidate
  split_ifs
  · exact absent
  · split <;> rename_i result <;> rw [result] at looked
    · exact looked
    · split_ifs <;> exact looked

theorem cCloseSession_absent :
    (cCloseSession state handle).2 = answer .sessionHandleInvalid := by
  cases sessions : state.sessions with
  | none => simp [cCloseSession, State.removeSession, sessions]
  | some table =>
      have nobody : table.filter (fun session =>
          session.handle == handle) = [] := by
        simpa [State.findSession, State.table, sessions] using absent
      simp [cCloseSession, State.removeSession, sessions, nobody]

end Absent

theorem finishSearch_absent
    {state : State} {search : Search}
    (absent : state.findSession search.handle = none) (acquired : Bool) :
    (finishSearch state search acquired).2 =
      answer .sessionHandleInvalid := by
  have nothing := sessionRevalidate_absent absent search.lifecycle
    search.serial
  unfold finishSearch searchRevalidate
  split <;> rename_i result
  · rfl
  · rw [result] at nothing
    cases nothing

/-- A search that waits finds out, or waits on. -/
theorem continueSearch_absent
    (host : Host) {state : State} {search : Search}
    (absent : state.findSession search.handle = none) :
    (continueSearch host state search).2 =
        .returned (answer .sessionHandleInvalid) ∨
      (state.acquiring = true ∧
        (continueSearch host state search).2 = .waits search) := by
  unfold continueSearch
  split_ifs with waits late
  · rw [Bool.and_eq_true] at waits
    exact Or.inr ⟨waits.1, rfl⟩
  · exact Or.inl (congrArg Progress.returned
      (finishSearch_absent absent false))
  · have nothing := sessionRevalidate_absent absent search.lifecycle
      search.serial
    have still := absent_sessionRevalidate absent search.lifecycle
      search.serial
    unfold searchRevalidate
    split <;> rename_i result <;> rw [result] at nothing still
    · exact Or.inl (congrArg Progress.returned
        (finishSearch_absent still false))
    · cases nothing

theorem cFindObjectsInit_absent
    {state : State} {handle : Nat}
    (absent : state.findSession handle = none)
    (lasting : state.finalizing = false) (template : CkTemplate) :
    (cFindObjectsInit host state handle template).2 =
      .returned (answer .sessionHandleInvalid) := by
  have nothing := sessionLookup_absent absent
  unfold cFindObjectsInit
  rw [if_neg (by simp [lasting])]
  split <;> rename_i result
  · rfl
  · rw [result] at nothing
    cases nothing

/-- An acquisition for such a session installs nothing. -/
theorem absent_acceptGrant
    {state : State} {acquisition : Acquisition}
    (absent : state.findSession acquisition.search.handle = none)
    (grant : PortalGrant) :
    (acceptGrant host state acquisition grant).1.findSession
      acquisition.search.handle = none := by
  have released {state : State}
      (absent : state.findSession acquisition.search.handle = none) :
      (releaseAcquired state acquisition).findSession
        acquisition.search.handle = none := by
    unfold releaseAcquired
    split_ifs <;> exact absent
  have nothing := sessionRevalidate_absent absent
    acquisition.search.lifecycle acquisition.search.serial
  have still := absent_sessionRevalidate absent
    acquisition.search.lifecycle acquisition.search.serial
  unfold acceptGrant searchRevalidate
  split_ifs
  · exact released absent
  · split <;> rename_i result <;> rw [result] at nothing still
    · exact released still
    · cases nothing

theorem afterAcquire_absent
    {state : State} {acquisition : Acquisition}
    (absent : state.findSession acquisition.search.handle = none)
    (result : Except PortalErrorCode PortalGrant) :
    (afterAcquire host state acquisition result).2 =
      answer .sessionHandleInvalid := by
  cases result with
  | error code =>
      refine finishSearch_absent ?_ false
      unfold noteRefusal
      split_ifs <;> exact absent
  | ok grant =>
      have ended : (endAcquire state acquisition true).findSession
          acquisition.search.handle = none := absent
      exact finishSearch_absent (absent_acceptGrant ended grant) _

/-- Every session call looks for its session before anything else. -/
theorem lockedBody_absent
    {state : State} {handle : Nat} {call : Call}
    (absent : state.findSession handle = none)
    (lasting : ∀ template, call = .cFindObjectsInit handle template →
      state.finalizing = false)
    (names : call.session? = some handle)
    (checked : call.argumentCheck = none) (answers : Answers) :
    (lockedBody host state answers call).2 =
      .returned (answer .sessionHandleInvalid) := by
  have session (body : State → PortalSession → State × Reply) :
      (reply (withSession state handle body)).2 =
        .returned (answer .sessionHandleInvalid) :=
    congrArg Progress.returned (withSession_absent absent body)
  have operation (body : State → PortalSession → State × Reply) :
      (reply (withOperationSession state handle body)).2 =
        .returned (answer .sessionHandleInvalid) :=
    congrArg Progress.returned (withOperationSession_absent absent body)
  cases call with
  | cInitialize | cFinalize | cGetSlotList | cGetSlotInfo | cGetTokenInfo
  | cGetMechanismList | cGetMechanismInfo | cOpenSession
  | cCloseAllSessions | cWaitForSlotEvent => cases names
  | cCloseSession other =>
      cases Option.some.inj names
      exact congrArg Progress.returned (cCloseSession_absent absent)
  | cFindObjectsInit other template =>
      cases Option.some.inj names
      exact cFindObjectsInit_absent absent (lasting template rfl) template
  | cSignInit other mechanism key =>
      cases Option.some.inj names
      cases mechanism with
      | none => cases checked
      | some mechanism => exact session _
  | cDecryptInit other mechanism key =>
      cases Option.some.inj names
      cases mechanism with
      | none => cases checked
      | some mechanism => exact session _
  | cGetSessionInfo other | cLogin other | cLogout other
  | cFindObjects other | cFindObjectsFinal other
  | cGetAttributeValue other =>
      cases Option.some.inj names
      exact session _
  | cSign other | cSignUpdate other | cSignFinal other | cDecrypt other =>
      cases Option.some.inj names
      exact operation _

/-! ## Runs -/

theorem pc_ne_entered (first second : Call) (progress : Progress) :
    Progress.pc first progress ≠ .entered second := by
  cases progress <;> exact Pc.noConfusion

/-- Arguments are checked before the lock is taken. -/
theorem argumentCheck_of_entered
    {world : World} (reachable : (machine host).Reachable world)
    {thread : Nat} {call : Call}
    (entered : world.threads thread = .entered call) :
    call.argumentCheck = none := by
  have all : ∀ thread call, world.threads thread = .entered call →
      call.argumentCheck = none := by
    clear entered
    induction reachable with
    | initial start =>
        cases start
        exact fun _ _ entered => nomatch entered
    | @step world next action before _ moves ih =>
        intro thread call entered
        have away {other : Nat} {call' : Call} {result : State × Progress}
            (entered : (world.after other call' result).threads thread =
              .entered call) : call.argumentCheck = none := by
          rcases eq_or_ne thread other with rfl | different
          · rw [after_threads_self] at entered
            exact absurd entered (pc_ne_entered _ _ _)
          · rw [after_threads_of_ne different] at entered
            exact ih thread call entered
        cases step_moves moves with
        | @enters other call' free =>
            rcases eq_or_ne thread other with rfl | different
            · simp only [Function.update_self, enterCall] at entered
              split_ifs at entered
              split at entered
              · cases entered
              · cases Pc.entered.inj entered
                assumption
            · simp only [Function.update_of_ne different] at entered
              exact ih thread call entered
        | stretches ground grounded stretch => exact away entered
        | lands flying => exact away entered
        | environment event => exact ih thread call entered
  exact all thread call entered

theorem retired_rule
    (counting : ∀ handle, host.nextHandle handle = handle + 1) :
    Rule host (fun _ _ => True)
      (fun state => Settles state ∧ Retired state)
      (fun state => Settles state ∧ Retired state) (fun _ _ => True) where
  start :=
    ⟨{ courses := fun _ => .unstarted
       known := fun _ current => nomatch current },
      { opened := fun _ opened => nomatch opened.choose_spec
        stale := fun _ member => nomatch member
        queue := ⟨0, rfl, rfl⟩ }⟩
  enter := fun _ _ holds _ => holds
  change := fun _ _ wellFormed holds change =>
    ⟨holds.1.kept wellFormed (Change.acquisitions wellFormed change)
        change.acquiring (Change.ledger wellFormed change),
      holds.2.kept counting (Change.turn wellFormed change)⟩
  finishes := fun state wellFormed holds _ =>
    ⟨holds.1.kept wellFormed (by rw [finishFinalize_eq])
        (by rw [finishFinalize_eq]) (ledger_finishFinalize state),
      holds.2.kept counting (turn_finishFinalize state)⟩
  begins := by
    intro state search session next acquisition _ holds may begins
    have settles := settles_beginAcquire holds.1 may
    have starts : Retired (beginAcquire state search session).1 :=
      holds.2.kept counting (turn_emits rfl trivial rfl rfl rfl)
    rw [begins] at settles starts
    exact ⟨⟨settles, starts⟩, trivial⟩
  flies := fun _ _ _ _ _ _ _ => trivial
  lands := fun _ _ _ wellFormed inFlight holds _ _ lands =>
    ⟨settles_lands wellFormed holds.1 inFlight lands,
      holds.2.kept counting (turn_of_lands lands)⟩
  leave := fun _ _ holds => holds

/-- The call is told that there is no such session, or it waits on. -/
def ToldInvalid
    (world next : World) (thread : Nat) (call : Call) : Prop :=
  next.threads thread = .returned call (answer .sessionHandleInvalid) ∨
    (world.state.acquiring = true ∧
      next.threads thread = world.threads thread)

/-- A slot event is returned and counted, or there is none. -/
inductive SlotEventAnswer
    (world next : World) (thread : Nat) (call : Call) : Prop where
  | event
      (returned : next.threads thread =
        .returned call ⟨.ok, .slot portalSlotId⟩)
      (counted : eventsReturned next.state.trace =
        eventsReturned world.state.trace + 1)
  | none
      (returned : next.threads thread = .returned call (answer .noEvent))
      (counted : eventsReturned next.state.trace =
        eventsReturned world.state.trace)
      (empty : next.state.slotEvents = 0)

/-- What is promised of retired grants. -/
structure RetirementSound (host : Host) (world : World) : Prop where
  /-- A handle from before a retirement stays invalid. -/
  stale : ∀ action thread call handle next,
    resumed action = some thread →
    (world.threads thread).call = some call →
    call.session? = some handle →
    Stale handle world.state.trace →
    world.state.finalizing = false →
    (machine host).step world action = some next →
      ToldInvalid world next thread call
  /-- A grant is retired at most once. -/
  once : ∀ acquisition, world.state.trace.count (.retired acquisition) ≤ 1
  /-- The queue holds one event for each retirement not yet returned. -/
  queue : eventsReturned world.state.trace +
    world.state.slotEvents.toNat = retirements world.state.trace
  /-- Waiting takes one event from the queue, unless it is empty. -/
  waits : ∀ thread answers flags slot reserved next,
    world.threads thread =
      .entered (.cWaitForSlotEvent flags slot reserved) →
    (machine host).step world (.run thread answers) = some next →
      SlotEventAnswer world next thread
        (.cWaitForSlotEvent flags slot reserved)
  loggedIn : world.state.loggedIn = true → world.state.table ≠ []

/-- A call that waits with a stale handle is told so, or waits on. -/
theorem told_invalid
    {world next : World} {action : Action} {thread handle : Nat}
    {call : Call} (reachable : (machine host).Reachable world)
    (resumes : resumed action = some thread)
    (pending : (world.threads thread).call = some call)
    (names : call.session? = some handle)
    (absent : world.state.findSession handle = none)
    (lasting : ∀ template,
      world.threads thread = .entered (.cFindObjectsInit handle template) →
        world.state.finalizing = false)
    (moves : (machine host).step world action = some next) :
    ToldInvalid world next thread call := by
  have defined : definedStep host world action = some next := by
    simp only [machine, step] at moves
    split_ifs at moves
    exact moves
  cases action with
  | enter | environment => cases resumes
  | run other answers =>
      cases Option.some.inj resumes
      simp only [definedStep] at defined
      split at defined
      · rename_i entered
        rw [entered] at pending
        cases Option.some.inj pending
        rw [← Option.some.inj defined, ToldInvalid, after_threads_self,
          lockedBody_absent absent
            (fun template same => lasting template (same ▸ entered)) names
            (argumentCheck_of_entered reachable entered)]
        exact Or.inl rfl
      · cases defined
  | wake other =>
      cases Option.some.inj resumes
      simp only [definedStep] at defined
      split at defined
      · rename_i search waiting
        rw [waiting] at pending
        cases Option.some.inj pending
        cases Option.some.inj names
        rw [← Option.some.inj defined, ToldInvalid, after_threads_self]
        rcases continueSearch_absent host absent with
          told | ⟨acquiring, waits⟩
        · rw [told]
          exact Or.inl rfl
        · rw [waits, waiting]
          exact Or.inr ⟨acquiring, rfl⟩
      · rename_i finalizing
        rw [finalizing] at pending
        cases Option.some.inj pending
        cases names
      · cases defined
  | acquired other result =>
      cases Option.some.inj resumes
      simp only [definedStep] at defined
      split at defined
      · rename_i acquisition flying
        rw [flying] at pending
        cases Option.some.inj pending
        cases Option.some.inj names
        rw [← Option.some.inj defined, ToldInvalid, after_threads_self,
          reply, afterAcquire_absent absent]
        exact Or.inl rfl
      · cases defined

theorem eventsReturned_grantStillGood
    {state : State} (wellFormed : WellFormed state) :
    eventsReturned (grantStillGood state).1.trace =
      eventsReturned state.trace := by
  unfold grantStillGood
  split
  · rfl
  · rename_i grant current
    split_ifs
    · rfl
    rcases (wellFormed.opened
      (wellFormed.initialized_of_grant current)).sessions with
      ⟨table, tables⟩
    rw [retireGrant_eq tables, eventsReturned,
      lifecycle_cons Event.noConfusion, List.count_cons_of_ne (by simp),
      ← eventsReturned, ← List.append_assoc]
    exact eventsReturned_append
      (inert_append (inert_endEvents table) (inert_releaseEvents state)) _

theorem slotEventAnswer
    {world next : World} (wellFormed : WellFormed world.state)
    {thread : Nat} {answers : Answers} {flags : CkUlong}
    {slot reserved : Bool}
    (entered : world.threads thread =
      .entered (.cWaitForSlotEvent flags slot reserved))
    (moves : (machine host).step world (.run thread answers) = some next) :
    SlotEventAnswer world next thread
      (.cWaitForSlotEvent flags slot reserved) := by
  have observed := eventsReturned_grantStillGood wellFormed
  simp only [machine, step, definedStep, entered] at moves
  split_ifs at moves
  cases Option.some.inj moves
  simp only [lockedBody, cWaitForSlotEvent]
  split_ifs with pending
  · refine .event (after_threads_self ..) ?_
    rw [← observed]
    simp [World.after, reply, State.emit, eventsReturned, lifecycle_cons]
  · exact .none (after_threads_self ..) observed (by
      simpa [World.after, reply] using pending)

/-- No session is open under a stale handle. -/
theorem Retired.absent
    {state : State} (retired : Retired state) {handle : Nat}
    (stale : Stale handle state.trace) :
    state.findSession handle = none := by
  rw [Option.eq_none_iff_forall_not_mem]
  intro session found
  rcases findSession_mem found with ⟨member, rfl⟩
  exact retired.stale _ (mem_identities member) stale

/-- The history of an acquisition ends with its retirement. -/
theorem Settles.retired_once
    {state : State} (settles : Settles state) (acquisition : Nat) :
    state.trace.count (.retired acquisition) ≤ 1 := by
  have same : (state.trace.filter fun event =>
        acquisitionOf event == some acquisition).count
          (.retired acquisition) =
      state.trace.count (.retired acquisition) :=
    List.count_filter (by simp [acquisitionOf])
  rw [← same]
  have course := settles.courses acquisition
  rw [history] at course
  generalize stage state acquisition = here at course
  generalize state.trace.filter (fun event =>
    acquisitionOf event == some acquisition) = events at course ⊢
  cases course with
  | dropped birth sessionHandle gone =>
      cases gone <;> simp [dropHistory]
  | retired birth sessionHandle gone =>
      cases gone <;> simp [dropHistory]
  | _ => simp

/--
Old handles stay invalid in every run.  The queue is right exactly as long
as fewer than `2 ^ 32` retirements have no event returned.
-/
theorem retirement_sound_iff
    (counting : ∀ handle, host.nextHandle handle = handle + 1)
    {world : World} (reachable : (machine host).Reachable world) :
    RetirementSound host world ↔
      retirements world.state.trace <
        eventsReturned world.state.trace + 2 ^ 32 := by
  have holds := (retired_rule counting).holds reachable
  rcases holds.rest with ⟨settles, retired⟩
  constructor
  · intro sound
    rw [← sound.queue]
    have small := world.state.slotEvents.toNat_lt
    omega
  · intro unwrapped
    exact
      { stale := fun action thread call handle next resumes pending names
            stale lasting moves =>
          told_invalid reachable resumes pending names
            (retired.absent stale) (fun _ _ => lasting) moves
        once := Settles.retired_once settles
        queue := by
          rcases retired.queue with ⟨pending, counts, slots⟩
          rw [counts] at unwrapped ⊢
          rw [slots, UInt32.toNat_ofNat_of_lt']
          exact Nat.lt_of_add_lt_add_left unwrapped
        waits := fun thread answers flags slot reserved next entered moves =>
          slotEventAnswer holds.wellFormed entered moves
        loggedIn := fun loggedIn empty =>
          holds.wellFormed.loggedIn loggedIn (by
            rw [identities, empty]
            rfl) }

/-- The session of the first search outlives its grant. -/
def retiringRun : List Action :=
  acquiringRun ++
  [.acquired 0 (.ok sampleGrant),
    .environment (.grantInvalidated "/session/1")] ++
  calling 0 (.cOpenSession portalSlotId ckfSerialSession true)

/-- A grant is retired in the example, and its handle is stale. -/
theorem retirement_sound_retiring :
    ∃ world, (machine sampleHost).run .start retiringRun = some world ∧
      RetirementSound sampleHost world ∧ Stale 1 world.state.trace := by
  have moved : (machine sampleHost).run .start retiringRun = some _ := rfl
  have sound := (retirement_sound_iff (fun _ => rfl)
    (.run (.initial rfl) moved)).mpr (by decide)
  refine ⟨_, moved, sound, ?_⟩
  exact ⟨[_], 0, _, rfl, 0, by decide⟩

/-! ## A queue that has wrapped around -/

/-- A grant that has expired when it arrives. -/
def expiredGrant : PortalGrant := { sampleGrant with expiresAt := 1 }

/-- A module at the second second, after its initialization. -/
def initializedWorld : World :=
  ((machine sampleHost).run .start
    (calling 0 (.cInitialize none) ++
      [.environment (.realTime 1000000)])).getD .start

/-- The variables that the cycles count up. -/
structure Counters where
  nextSession : Nat
  sessionSerial : UInt32
  openings : Nat
  acquisitions : Nat
  generation : UInt32
  slotEvents : UInt32
  issuedIds : List (List UInt8)
  trace : List Event

/-- Between two cycles nothing is open and nothing is granted. -/
def cycledState (counters : Counters) : State :=
  { initializedWorld.state with
    nextSession := counters.nextSession
    sessionSerial := counters.sessionSerial
    openings := counters.openings
    acquisitions := counters.acquisitions
    generation := counters.generation
    slotEvents := counters.slotEvents
    issuedIds := some counters.issuedIds
    trace := counters.trace }

/-- Only the first thread calls the module. -/
def firstThread (state : State) (pc : Pc) : World where
  state
  threads := Function.update initializedWorld.threads 0 pc

theorem run_firstThread
    {state : State} {pc : Pc} {call : Call}
    (defined : state.undefined = false) (free : pc.free = true)
    (entered : enterCall state call = .entered call) :
    (machine sampleHost).run (firstThread state pc) (calling 0 call) =
      some (firstThread (lockedBody sampleHost state sampleAnswers call).1
        (Progress.pc call
          (lockedBody sampleHost state sampleAnswers call).2)) := by
  have here : ((firstThread state pc).threads 0).free = true := free
  rw [run_calling defined here entered, World.after, firstThread,
    firstThread, Function.update_idem]

/-- The counters after one more cycle. -/
def Counters.next (counters : Counters) : Counters where
  nextSession := counters.nextSession + 1
  sessionSerial := counters.sessionSerial + 1
  openings := counters.openings + 1
  acquisitions := counters.acquisitions + 1
  generation := counters.generation + 1 + 1
  slotEvents := counters.slotEvents + 1
  issuedIds :=
    if counters.issuedIds.contains [1] then counters.issuedIds
    else [1] :: counters.issuedIds
  trace :=
    [.retired counters.acquisitions,
      .sessionEnded counters.openings,
      .dropped counters.acquisitions false,
      .released counters.acquisitions,
      .installed counters.acquisitions "/session/1",
      .acquireReturned counters.acquisitions true,
      .acquireStarted counters.acquisitions counters.openings,
      .sessionOpened counters.openings counters.nextSession] ++
    counters.trace

/-- The session of a cycle. -/
def cycleSession (counters : Counters) : PortalSession where
  birth := counters.openings
  handle := counters.nextSession
  serial := counters.sessionSerial + 1
  flags := ckfSerialSession
  find := .idle
  sign := .idle
  decrypt := .idle

/-- The search of a cycle. -/
def cycleSearch (counters : Counters) : Search where
  handle := counters.nextSession
  template := .array []
  lifecycle := 1
  serial := counters.sessionSerial + 1

/-- The acquisition of a cycle. -/
def cycleAcquisition (counters : Counters) : Acquisition where
  search := cycleSearch counters
  client := some sampleClient
  generation := counters.generation
  number := counters.acquisitions
  birth := counters.openings

/-- A cycle has opened its session. -/
def openedState (counters : Counters) : State :=
  { cycledState counters with
    sessions := some [cycleSession counters]
    nextSession := counters.nextSession + 1
    sessionSerial := counters.sessionSerial + 1
    openings := counters.openings + 1
    trace := .sessionOpened counters.openings counters.nextSession ::
      counters.trace }

/-- A cycle waits for its grant. -/
def acquiringState (counters : Counters) : State :=
  (beginAcquire (openedState counters) (cycleSearch counters)
    (cycleSession counters)).1

theorem cycle_opens (counters : Counters) :
    lockedBody sampleHost (cycledState counters) sampleAnswers
        (.cOpenSession portalSlotId ckfSerialSession true) =
      (openedState counters,
        .returned ⟨.ok, .session counters.nextSession⟩) := rfl

/-- The session is valid for as long as it is in the table. -/
theorem cycle_revalidates
    (counters : Counters) (state : State) (ungranted : state.grant = none)
    (lasting : state.finalizing = false)
    (initialized : state.initialized = true)
    (lifecycle : state.lifecycle = 1)
    (tables : state.sessions = some [cycleSession counters]) :
    state.findSession counters.nextSession =
        some (cycleSession counters) ∧
      searchRevalidate state (cycleSearch counters) =
        (state, some (cycleSession counters)) := by
  have found : state.findSession counters.nextSession =
      some (cycleSession counters) := by
    simp [State.findSession, State.table, tables, cycleSession]
  have revalidated := sessionRevalidate_of_found ungranted lasting
    initialized found
  rw [lifecycle] at revalidated
  exact ⟨found, revalidated⟩

theorem cycle_searches (counters : Counters) :
    lockedBody sampleHost (openedState counters) sampleAnswers
        (.cFindObjectsInit counters.nextSession (.array [])) =
      (acquiringState counters,
        .acquires (cycleAcquisition counters)) := by
  rcases cycle_revalidates counters (openedState counters)
      rfl rfl rfl rfl rfl with ⟨found, revalidated⟩
  have ungranted : (openedState counters).grant = none := rfl
  have looked := sessionLookup_ungranted counters.nextSession ungranted
  rw [found] at looked
  have searched : lockedBody sampleHost (openedState counters)
        sampleAnswers
        (.cFindObjectsInit counters.nextSession (.array [])) =
      continueSearch sampleHost (openedState counters)
        (cycleSearch counters) := by
    simp only [lockedBody, cFindObjectsInit, looked]
    rfl
  have good : grantStillGood (openedState counters) =
      (openedState counters, false) := rfl
  rw [searched]
  simp only [continueSearch, ensureGrant, revalidated, good]
  rfl

theorem cycle_retires (counters : Counters) :
    afterAcquire sampleHost (acquiringState counters)
        (cycleAcquisition counters) (.ok expiredGrant) =
      (cycledState counters.next,
        answer .sessionHandleInvalid) := by
  let ended : State := endAcquire (acquiringState counters)
    (cycleAcquisition counters) true
  have accepted : acceptGrant sampleHost ended
        (cycleAcquisition counters) expiredGrant =
      installGrant sampleHost ended
        (numbered expiredGrant (cycleAcquisition counters)) := by
    have revalidated := (cycle_revalidates counters ended
      rfl rfl rfl rfl rfl).2
    have generation : ended.generation =
        (cycleAcquisition counters).generation := rfl
    have search : (cycleAcquisition counters).search =
        cycleSearch counters := rfl
    simp only [acceptGrant, generation, search, revalidated]
    rw [if_neg (by simp; rfl)]
    rfl
  simp only [afterAcquire, accepted, ended]
  rfl

/-- A session is opened and searches, and its grant is retired at once. -/
theorem reachable_cycle
    {counters : Counters} {pc : Pc} (free : pc.free = true)
    (before : (machine sampleHost).Reachable
      (firstThread (cycledState counters) pc)) :
    (machine sampleHost).Reachable
      (firstThread (cycledState counters.next)
        (.returned (.cFindObjectsInit counters.nextSession (.array []))
          (answer .sessionHandleInvalid))) := by
  have opened := before.run (run_firstThread
    rfl free (rfl : enterCall _
      (.cOpenSession portalSlotId ckfSerialSession true) = _))
  rw [cycle_opens] at opened
  have searching := opened.run (run_firstThread
    rfl rfl (rfl : enterCall _
      (.cFindObjectsInit counters.nextSession (.array [])) = _))
  rw [cycle_searches] at searching
  have landed : (machine sampleHost).step
      (firstThread (acquiringState counters)
        (.acquiring (cycleAcquisition counters)))
      (.acquired 0 (.ok expiredGrant)) =
    some (firstThread (cycledState counters.next)
      (.returned (.cFindObjectsInit counters.nextSession (.array []))
        (answer .sessionHandleInvalid))) := by
    have defined : (acquiringState counters).undefined = false := rfl
    simp only [machine, step, firstThread, defined, definedStep,
      Function.update_self]
    rw [World.after, cycle_retires]
    simp [reply, Progress.pc, Search.call, cycleAcquisition, cycleSearch]
  exact searching.step landed

/-- Any number of grants can be retired without a wait. -/
theorem reachable_cycles (count : Nat) :
    ∃ counters pc, pc.free = true ∧
      (machine sampleHost).Reachable
        (firstThread (cycledState counters) pc) ∧
      counters.slotEvents = UInt32.ofNat count ∧
      retirements counters.trace = count ∧
      eventsReturned counters.trace = 0 := by
  induction count with
  | zero =>
      have moved : (machine sampleHost).run .start
          (calling 0 (.cInitialize none) ++
            [.environment (.realTime 1000000)]) =
        some initializedWorld := rfl
      have start : firstThread
            (cycledState ⟨1, 0, 0, 0, 0, 0, [], [.initialized]⟩)
            (initializedWorld.threads 0) =
          initializedWorld := by
        rw [firstThread, Function.update_eq_self]
        rfl
      refine ⟨⟨1, 0, 0, 0, 0, 0, [], [.initialized]⟩,
        initializedWorld.threads 0, rfl, ?_, rfl, rfl, rfl⟩
      rw [start]
      exact .run (.initial rfl) moved
  | succ count ih =>
      rcases ih with
        ⟨counters, pc, free, reachable, slots, retired, returned⟩
      refine ⟨_, _, rfl, reachable_cycle free reachable, ?_, ?_, ?_⟩
      · rw [Counters.next, slots, UInt32.ofNat_add]
        rfl
      · simp [Counters.next, retirements, lifecycle, List.countP_cons,
          isRetired, ← retired]
      · simp [Counters.next, eventsReturned, lifecycle, ← returned]

/-- After `2 ^ 32` retirements the queue is empty again. -/
theorem wrapped_queue_unsound :
    ∃ world, (machine sampleHost).Reachable world ∧
      retirements world.state.trace = 2 ^ 32 ∧
      eventsReturned world.state.trace = 0 ∧
      world.state.slotEvents = 0 ∧
      ¬RetirementSound sampleHost world := by
  rcases reachable_cycles (2 ^ 32) with
    ⟨counters, pc, -, reachable, slots, retired, returned⟩
  refine ⟨_, reachable, retired, returned, slots, fun sound => ?_⟩
  have queue := sound.queue
  change eventsReturned counters.trace + counters.slotEvents.toNat =
    retirements counters.trace at queue
  rw [slots, retired, returned] at queue
  exact absurd queue (by decide)

end PortalCertificate.Module.Retirement
