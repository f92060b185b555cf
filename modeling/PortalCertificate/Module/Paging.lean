import PortalCertificate.Library.Paging
import PortalCertificate.Module.ObjectHandles
import PortalCertificate.Module.Searches

/-!
# Reading the results of a search

The results of a search and the position in them are kept in its session.
Only `C_FindObjects` and `C_FindObjectsFinal` for that session change them:
whatever other threads do in between, other searches and acquisitions
included, leaves them as they are or closes the session.

So the handles that `C_FindObjects` returns make up a beginning of the list
that `C_FindObjectsInit` has found, and all of it once a call returns fewer
handles than it was asked for.
-/

namespace PortalCertificate.Module.Paging

open PortalCertificate.Library.Paging
open PortalCertificate.Library.Transition
open PortalCertificate.Module.Acquire
open PortalCertificate.Module.Calls
open PortalCertificate.Module.Changes
open PortalCertificate.Module.GrantBinding
open PortalCertificate.Module.GrantObjects (CertificateLibrary)
open PortalCertificate.Module.Invariants
open PortalCertificate.Module.Lifecycle
open PortalCertificate.Module.Machine
open PortalCertificate.Module.ObjectHandles
open PortalCertificate.Module.Objects
open PortalCertificate.Module.Searches
open PortalCertificate.Module.Session
open PortalCertificate.Module.SessionCalls
open PortalCertificate.Module.Statics
open PortalCertificate.Module.Stretches
open PortalCertificate.Module.Threads
open PortalCertificate.Pkcs11

variable {host : Host} {birth : Nat} {find : FindOperation}

/-! ## A search that goes on -/

/-- While the session is open it has this search. -/
structure Searching (birth : Nat) (find : FindOperation) (state : State) :
    Prop where
  opened : birth < state.openings
  search : ∀ session ∈ state.table, session.birth = birth →
    session.find = find

theorem Searching.of_table
    {first second : State} (searching : Searching birth find first)
    (openings : second.openings = first.openings)
    (table : ∀ session ∈ second.table, ∃ old ∈ first.table,
      old.birth = session.birth ∧ old.find = session.find) :
    Searching birth find second where
  opened := openings ▸ searching.opened
  search := by
    intro session member born
    rcases table session member with ⟨old, member, sameBirth, sameFind⟩
    rw [← sameFind]
    exact searching.search old member (sameBirth.trans born)

theorem Searching.of_subset
    {first second : State} (searching : Searching birth find first)
    (openings : second.openings = first.openings)
    (table : second.table ⊆ first.table) : Searching birth find second :=
  searching.of_table openings fun session member =>
    ⟨session, table member, rfl, rfl⟩

theorem Searching.of_sessions
    {first second : State} (searching : Searching birth find first)
    (openings : second.openings = first.openings)
    (sessions : second.sessions = first.sessions) :
    Searching birth find second :=
  searching.of_subset openings (by
    rw [State.table, sessions]
    exact List.Subset.refl _)

section Kept

variable {state : State} (searching : Searching birth find state)
include searching

theorem searching_emit (event : Event) :
    Searching birth find (state.emit event) :=
  searching.of_sessions rfl rfl

/-- An update of other parts of a session. -/
theorem searching_updateSession
    (handle : Nat) (update : PortalSession → PortalSession)
    (same : ∀ session, (update session).birth = session.birth ∧
      (update session).find = session.find) :
    Searching birth find (state.updateSession handle update) := by
  refine searching.of_table rfl fun session member => ?_
  rw [table_updateSession] at member
  rcases List.mem_map.mp member with ⟨old, listed, rfl⟩
  refine ⟨old, listed, ?_⟩
  split_ifs
  · exact ⟨(same old).1.symm, (same old).2.symm⟩
  · exact ⟨rfl, rfl⟩

theorem searching_releaseGrant :
    Searching birth find (releaseGrant state) := by
  rw [releaseGrant_eq]
  refine searching.of_table rfl fun session member => ?_
  cases sessions : state.sessions with
  | none => simp [State.table, sessions] at member
  | some table =>
      simp only [State.table, sessions, Option.map_some, Option.getD_some,
        List.mem_map] at member
      rcases member with ⟨old, listed, rfl⟩
      exact ⟨old, by simpa [State.table, sessions] using listed, rfl, rfl⟩

theorem searching_removeAllSessions :
    Searching birth find state.removeAllSessions := by
  refine searching.of_subset ?_ ?_
  · cases sessions : state.sessions <;>
      simp [State.removeAllSessions, State.emit, sessions]
  · rw [table_removeAllSessions]
    exact List.nil_subset _

theorem searching_grantStillGood :
    Searching birth find (grantStillGood state).1 := by
  unfold grantStillGood
  split
  · exact searching
  · split_ifs
    · exact searching
    · have released := searching_releaseGrant searching
      exact (searching_removeAllSessions released).of_sessions rfl rfl

theorem searching_sessionLookup (named : Nat) :
    Searching birth find (sessionLookup state named).1 := by
  unfold sessionLookup
  split
  · exact searching
  · exact searching_grantStillGood searching

theorem searching_sessionRevalidate
    (named : Nat) (lifecycle serial : UInt32) :
    Searching birth find
      (sessionRevalidate state named lifecycle serial).1 := by
  have looked := searching_sessionLookup searching named
  unfold sessionRevalidate
  split_ifs
  · exact searching
  · split <;> rename_i result <;> rw [result] at looked
    · exact looked
    · split_ifs <;> exact looked

theorem searching_operationSessionLookup (named : Nat) :
    Searching birth find (operationSessionLookup state named).1 := by
  apply operationSessionLookup_state
  · exact searching_grantStillGood searching
  · intro before looks
    cases looks with
    | same => exact searching_sessionLookup searching named
    | unlisted sessions =>
        exact searching_sessionLookup (searching_emit searching .nullTable)
          named

theorem searching_withSession
    {named : Nat} {body : State → PortalSession → State × Reply}
    (kept : ∀ next session, Searching birth find next →
      Searching birth find (body next session).1) :
    Searching birth find (withSession state named body).1 := by
  have looked := searching_sessionLookup searching named
  unfold withSession
  split <;> rename_i result <;> rw [result] at looked
  · exact looked
  · exact kept _ _ looked

theorem searching_withOperationSession
    {named : Nat} {body : State → PortalSession → State × Reply}
    (kept : ∀ next session, Searching birth find next →
      Searching birth find (body next session).1) :
    Searching birth find (withOperationSession state named body).1 := by
  have looked := searching_operationSessionLookup searching named
  unfold withOperationSession
  split <;> rename_i result <;> rw [result] at looked
  · exact looked
  · exact kept _ _ looked

/-! ## Other calls -/

theorem searching_cLogin (named : Nat) :
    Searching birth find (cLogin state named).1 := by
  refine searching_withSession searching fun next session kept => ?_
  split_ifs
  · exact kept
  · exact kept.of_sessions rfl rfl

theorem searching_cLogout (named : Nat) :
    Searching birth find (cLogout state named).1 := by
  refine searching_withSession searching fun next session kept => ?_
  exact searching_releaseGrant (kept.of_sessions rfl rfl)

theorem searching_cGetAttributeValue
    (named : Nat) (object : CkUlong) (template : CkTemplate) :
    Searching birth find
      (cGetAttributeValue state named object template).1 := by
  refine searching_withSession searching fun next session kept => ?_
  split <;> exact kept

theorem searching_resetSign (named : Nat) :
    Searching birth find (resetSign state named) :=
  searching_updateSession searching named _ fun _ => ⟨rfl, rfl⟩

theorem searching_resetDecrypt (named : Nat) :
    Searching birth find (resetDecrypt state named) :=
  searching_updateSession searching named _ fun _ => ⟨rfl, rfl⟩

theorem searching_withSign (named : Nat) (sign : SignOperation) :
    Searching birth find (state.updateSession named fun session =>
      { session with sign }) :=
  searching_updateSession searching named _ fun _ => ⟨rfl, rfl⟩

theorem searching_withDecrypt (named : Nat) (decrypt : DecryptOperation) :
    Searching birth find (state.updateSession named fun session =>
      { session with decrypt }) :=
  searching_updateSession searching named _ fun _ => ⟨rfl, rfl⟩

theorem searching_cSignInit
    (named : Nat) (mechanism : CkMechanism) (key : CkUlong)
    (answers : Answers) :
    Searching birth find
      (cSignInit state named mechanism key answers).1 := by
  refine searching_withSession searching fun next session kept => ?_
  split_ifs
  · exact kept
  split
  · exact kept
  · split_ifs
    · exact kept
    split
    · exact searching_resetSign kept named
    · exact searching_emit (searching_withSign kept named _) _

theorem searching_cDecryptInit
    (named : Nat) (mechanism : CkMechanism) (key : CkUlong) :
    Searching birth find (cDecryptInit state named mechanism key).1 := by
  refine searching_withSession searching fun next session kept => ?_
  split_ifs
  · exact kept
  split
  · exact kept
  · split_ifs
    · exact kept
    · exact kept
    split
    · exact kept
    · exact searching_emit (searching_withDecrypt kept named _) _

theorem searching_portalRequest
    (request : OperationRequest) (session : PortalSession)
    (portal : Except PortalErrorCode Library.Der.Octets) :
    Searching birth find (portalRequest request state session portal).1 := by
  unfold portalRequest
  split
  · exact searching
  · dsimp only
    split_ifs
    · exact searching_emit searching _
    · split <;> exact searching_emit searching _

theorem searching_signFinish
    (named : Nat) (session : PortalSession) (answers : Answers)
    (out : Bool) (outLen : Nat) :
    Searching birth find
      (signFinish host state named session answers out outLen).1 := by
  have performed :
      Searching birth find (signPerform host state session answers).1 := by
    unfold signPerform
    split
    · exact searching
    · exact searching_portalRequest searching ..
  unfold signFinish
  dsimp only
  split_ifs
  · exact searching
  · exact searching
  split <;> rename_i result <;> rw [result] at performed
  · exact searching_resetSign performed named
  · split_ifs <;> exact searching_resetSign performed named

theorem searching_cSign
    (named : Nat) (data : CkBuffer) (signature : Bool)
    (signatureLen : Nat) (answers : Answers) :
    Searching birth find
      (cSign host state named data signature signatureLen answers).1 := by
  refine searching_withOperationSession searching
    fun next session kept => ?_
  dsimp only
  split_ifs
  · exact kept
  · exact kept
  · exact kept
  split
  · exact searching_resetSign kept named
  · exact searching_signFinish (searching_withSign kept named _) ..

theorem searching_cSignUpdate
    (named : Nat) (part : CkBuffer) (answers : Answers) :
    Searching birth find (cSignUpdate state named part answers).1 := by
  refine searching_withOperationSession searching
    fun next session kept => ?_
  split_ifs
  · exact kept
  split
  · exact searching_resetSign kept named
  · exact searching_withSign kept named _

theorem searching_cSignFinal
    (named : Nat) (signature : Bool) (signatureLen : Nat)
    (answers : Answers) :
    Searching birth find
      (cSignFinal host state named signature signatureLen answers).1 := by
  refine searching_withOperationSession searching
    fun next session kept => ?_
  split_ifs
  · exact kept
  · exact searching_signFinish kept ..

theorem searching_cDecrypt
    (named : Nat) (ciphertext : CkBuffer) (plaintext : Bool)
    (plaintextLen : Nat) (answers : Answers) :
    Searching birth find
      (cDecrypt state named ciphertext plaintext plaintextLen
        answers).1 := by
  refine searching_withOperationSession searching
    fun next session kept => ?_
  split_ifs
  · exact kept
  · exact kept
  split
  · exact searching_resetDecrypt kept named
  rename_i data
  have requested := searching_portalRequest kept
    (.decrypt (decryptRequest session.decrypt data)) session answers.portal
  split <;> rename_i result <;> rw [result] at requested
  · exact searching_resetDecrypt requested named
  · split_ifs
    · exact requested
    · exact searching_resetDecrypt requested named

theorem searching_cCloseSession (named : Nat) :
    Searching birth find (cCloseSession state named).1 := by
  cases sessions : state.sessions with
  | none =>
      rw [cCloseSession_destroyed sessions]
      exact searching_emit searching .nullTable
  | some table =>
      rw [cCloseSession_eq sessions]
      refine searching.of_subset rfl ?_
      simp [State.table, sessions]

theorem searching_cCloseAllSessions :
    Searching birth find (cCloseAllSessions state).1 := by
  have removed := searching_removeAllSessions
    (searching_emit searching .closedAll)
  exact (searching_releaseGrant removed).of_sessions rfl rfl

theorem searching_finishFinalize :
    Searching birth find (finishFinalize state).1 := by
  rw [finishFinalize_eq]
  exact searching.of_subset rfl (List.nil_subset _)

theorem searching_continueFinalize :
    Searching birth find (continueFinalize state).1 := by
  unfold continueFinalize
  split_ifs
  · exact searching
  · exact searching_finishFinalize searching

/-- A new session is none of those that were open before. -/
theorem searching_addSession (flags : CkUlong) :
    Searching birth find (addSession host state (newSession state flags)) where
  opened := by
    have opened := searching.opened
    cases sessions : state.sessions <;>
      simp [addSession, State.insertSession, State.removeSession,
        State.emit, sessions] <;> omega
  search := by
    intro session member born
    cases sessions : state.sessions with
    | none =>
        simp [addSession, State.insertSession, State.removeSession,
          State.emit, State.table, sessions] at member
    | some table =>
        rw [addSession_eq sessions] at member
        rcases List.mem_cons.mp member with rfl | member
        · exact absurd born searching.opened.ne'
        · apply searching.search session _ born
          rw [State.table, sessions]
          exact List.mem_of_mem_filter member

theorem searching_cOpenSession (flags : CkUlong) :
    Searching birth find (cOpenSession host state flags).1 := by
  have kept := searching_grantStillGood searching
  unfold cOpenSession
  split_ifs
  · exact searching
  · exact searching
  · exact searching_addSession kept flags

theorem searching_cInitialize
    (args : Option InitializeArgs) (answers : Answers) :
    Searching birth find (cInitialize state args answers).1 := by
  unfold cInitialize
  split_ifs
  · exact searching
  · split
    · exact searching
    · exact searching.of_subset rfl (List.nil_subset _)

theorem searching_cFinalize : Searching birth find (cFinalize state).1 := by
  unfold cFinalize
  split_ifs
  · exact searching
  · exact searching_continueFinalize (searching.of_sessions rfl rfl)

theorem searching_cWaitForSlotEvent :
    Searching birth find (cWaitForSlotEvent state).1 := by
  have kept := searching_grantStillGood searching
  unfold cWaitForSlotEvent
  dsimp only
  split_ifs
  · exact kept.of_sessions rfl rfl
  · exact kept

end Kept

/-! ## Searches -/

section Searches

variable {state : State} (wellFormed : WellFormed state)
include wellFormed

theorem wellFormed_changes
    {next : State} (changes : Composed (Change host) state next) :
    WellFormed next :=
  (keeps_changes wellFormed changes).2

/-- A search begins in a session without one. -/
theorem searching_begin
    (searching : Searching birth find state) (active : find.active = true)
    {handle : Nat} {session : PortalSession}
    (found : state.findSession handle = some session)
    (idle : ¬ session.find.active = true) (begun : FindOperation) :
    Searching birth find (state.updateSession handle fun session =>
      { session with find := begun }) where
  opened := searching.opened
  search := by
    intro revised member born
    rw [table_updateSession] at member
    rcases List.mem_map.mp member with ⟨old, listed, rfl⟩
    split_ifs at born ⊢ with named
    · rcases findSession_mem found with ⟨listed', named'⟩
      cases wellFormed.eq_of_handle listed listed' (named.trans named'.symm)
      rw [searching.search _ listed' born] at idle
      exact absurd active idle
    · exact searching.search old listed born

/-- An update of a session other than the one that searches. -/
theorem searching_updateOther
    (searching : Searching birth find state)
    {handle : Nat} {session : PortalSession}
    (found : state.findSession handle = some session)
    (other : session.birth ≠ birth)
    (update : PortalSession → PortalSession)
    (same : ∀ session, (update session).birth = session.birth) :
    Searching birth find (state.updateSession handle update) where
  opened := searching.opened
  search := by
    intro revised member born
    rw [table_updateSession] at member
    rcases List.mem_map.mp member with ⟨old, listed, rfl⟩
    split_ifs at born ⊢ with named
    · rcases findSession_mem found with ⟨listed', named'⟩
      cases wellFormed.eq_of_handle listed listed' (named.trans named'.symm)
      exact absurd ((same _).symm.trans born) other
    · exact searching.search old listed born

theorem searching_finishSearch
    (host : Host) (searching : Searching birth find state)
    (active : find.active = true) (search : Search) (acquired : Bool) :
    Searching birth find (finishSearch state search acquired).1 := by
  have revalidated := searching_sessionRevalidate searching search.handle
    search.lifecycle search.serial
  have changes := sessionRevalidate_changes host state search.handle
    search.lifecycle search.serial
  unfold finishSearch searchRevalidate
  split <;> rename_i result <;> rw [result] at revalidated changes
  · exact revalidated
  have sound := wellFormed_changes wellFormed changes
  have found := (sessionRevalidate_found result).1
  dsimp only
  split_ifs with other
  · exact revalidated
  · exact searching_begin sound revalidated active found other _
  · exact searching_begin sound revalidated active found other _

theorem searching_ensureGrant
    (searching : Searching birth find state) (active : find.active = true)
    (search : Search) :
    Searching birth find (ensureGrant host state search).1 := by
  have good := searching_grantStillGood searching
  have changes := grantStillGood_changes host state
  unfold ensureGrant searchReturns
  split <;> rename_i result <;> rw [result] at good changes
  all_goals have sound := wellFormed_changes wellFormed changes
  · exact searching_finishSearch sound host good active ..
  · rename_i next
    have revalidated := searching_sessionRevalidate good search.handle
      search.lifecycle search.serial
    have changes' := sessionRevalidate_changes host next search.handle
      search.lifecycle search.serial
    unfold searchRevalidate
    split <;> rename_i result' <;> rw [result'] at revalidated changes'
    all_goals have sound' := wellFormed_changes sound changes'
    · exact searching_finishSearch sound' host revalidated active ..
    · split_ifs
      · exact searching_finishSearch sound' host revalidated active ..
      · exact searching_finishSearch sound' host revalidated active ..
      · exact searching_finishSearch sound' host revalidated active ..
      · exact revalidated.of_sessions rfl rfl

theorem searching_continueSearch
    (searching : Searching birth find state) (active : find.active = true)
    (search : Search) :
    Searching birth find (continueSearch host state search).1 := by
  have revalidated := searching_sessionRevalidate searching search.handle
    search.lifecycle search.serial
  have changes := sessionRevalidate_changes host state search.handle
    search.lifecycle search.serial
  unfold continueSearch searchReturns searchRevalidate
  split_ifs
  · exact searching
  · exact searching_finishSearch wellFormed host searching active ..
  · split <;> rename_i result <;> rw [result] at revalidated changes
    all_goals have sound := wellFormed_changes wellFormed changes
    · exact searching_finishSearch sound host revalidated active ..
    · exact searching_ensureGrant sound revalidated active search

theorem searching_cFindObjectsInit
    (searching : Searching birth find state) (active : find.active = true)
    (handle : Nat) (template : CkTemplate) :
    Searching birth find
      (cFindObjectsInit host state handle template).1 := by
  have looked := searching_sessionLookup searching handle
  have changes := sessionLookup_changes host state handle
  unfold cFindObjectsInit
  split_ifs
  · exact searching
  · split <;> rename_i result <;> rw [result] at looked changes
    · exact looked
    · split_ifs
      · exact looked
      · exact searching_continueSearch
          (wellFormed_changes wellFormed changes) looked active _

theorem searching_afterAcquire
    (searching : Searching birth find state) (active : find.active = true)
    {acquisition : Acquisition} (inFlight : InFlight state acquisition)
    (result : Except PortalErrorCode PortalGrant) :
    Searching birth find
      (afterAcquire host state acquisition result).1 := by
  have ended (granted : Bool) : Searching birth find
      (endAcquire state acquisition granted) :=
    searching.of_sessions rfl rfl
  have landed {middle : State} (lands : Lands host state acquisition middle)
      (acquired : Bool) :
      Searching birth find
        (finishSearch middle acquisition.search acquired).1 := by
    apply searching_finishSearch (wellFormed_lands wellFormed inFlight lands)
      host _ active
    cases lands with
    | refused code =>
        unfold noteRefusal
        split_ifs
        · exact (ended false).of_sessions rfl rfl
        · exact ended false
    | discarded =>
        unfold releaseAcquired
        split_ifs
        · exact searching_emit (ended true) _
        · exact ended true
    | @installed grant objects wanted created =>
        have set : Searching birth find
            { setGrant (endAcquire state acquisition true)
                (numbered grant acquisition) with
              objects := some objects } :=
          (ended true).of_sessions rfl rfl
        unfold issueIdentifier
        split
        · exact searching_emit set _
        · exact set.of_sessions rfl rfl
    | rejected grant wanted =>
        exact searching_releaseGrant ((ended true).of_sessions rfl rfl)
  have ungranted := wellFormed.ungranted inFlight.acquiring
  cases result with
  | error code => exact landed (.refused code) false
  | ok grant => exact landed (acceptGrant_lands ungranted grant) _

end Searches

/-! ## Pages -/

/-- A call that runs and finds the session that it names. -/
def ranOn (birth : Nat) (world : World) : Action → Option Call
  | .run thread _ =>
      match world.threads thread with
      | .entered call =>
          match call.session? with
          | some handle =>
              match (sessionLookup world.state handle).2 with
              | some session =>
                  if session.birth = birth then some call else none
              | none => none
          | none => none
      | _ => none
  | _ => none

/-- What a step returns of the results of the session's search. -/
def page (birth : Nat) (world : World) (action : Action) :
    Option (Page CkUlong) :=
  match ranOn birth world action with
  | some (.cFindObjects handle _ maxCount _) =>
      match (cFindObjects world.state handle maxCount).2 with
      | ⟨.ok, .objects produced⟩ => some ⟨maxCount, produced⟩
      | _ => none
  | _ => none

/-- Runs that do not end the session's search, and the pages they return. -/
inductive Reads (host : Host) (birth : Nat) (first : World) :
    List (Page CkUlong) → World → Prop where
  | begins : Reads host birth first [] first
  | step {pages : List (Page CkUlong)} {world next : World}
      {action : Action}
      (earlier : Reads host birth first pages world)
      (goesOn : ∀ handle,
        ranOn birth world action ≠ some (.cFindObjectsFinal handle))
      (moves : (machine host).step world action = some next) :
      Reads host birth first
        (pages ++ (page birth world action).toList) next

/-- The search of a session of which some handles have been returned. -/
def searchAt (results : List CkUlong) (position : Nat) : FindOperation where
  active := true
  results
  position

section Steps

variable {results : List CkUlong} {position : Nat}

/-- `C_FindObjects` for the session returns the next page. -/
theorem searching_cFindObjects
    (host : Host) {state : State} (wellFormed : WellFormed state)
    (searching : Searching birth (searchAt results position) state)
    (handle maxCount : Nat) :
    (∃ session, (sessionLookup state handle).2 = some session ∧
        session.birth = birth ∧
        (cFindObjects state handle maxCount).2 =
          ⟨.ok, .objects (nextPage results position maxCount).items⟩ ∧
        Searching birth
          (searchAt results
            (position + (nextPage results position maxCount).items.length))
          (cFindObjects state handle maxCount).1) ∨
      (∀ session, (sessionLookup state handle).2 = some session →
        session.birth ≠ birth) ∧
        Searching birth (searchAt results position)
          (cFindObjects state handle maxCount).1 := by
  have looked := searching_sessionLookup searching handle
  have sound := wellFormed_changes wellFormed
    (sessionLookup_changes host state handle)
  rcases lookup : sessionLookup state handle with ⟨next, _ | session⟩ <;>
    rw [lookup] at looked sound
  · refine Or.inr ⟨by rintro _ ⟨⟩, ?_⟩
    simp only [cFindObjects, withSession, lookup]
    exact looked
  rcases findSession_mem (sessionLookup_found lookup) with ⟨member, named⟩
  by_cases born : session.birth = birth
  · have search := looked.search session member born
    simp only [searchAt] at search
    refine Or.inl ⟨session, rfl, born, ?_, ?_⟩
    · simp [cFindObjects, withSession, lookup, search, nextPage]
    simp only [cFindObjects, withSession, lookup, search, Bool.not_true,
      Bool.false_eq_true, if_false]
    constructor
    · exact looked.opened
    intro revised member' born'
    rw [table_updateSession] at member'
    rcases List.mem_map.mp member' with ⟨old, listed, rfl⟩
    split_ifs at born' ⊢ with named'
    · cases sound.eq_of_handle listed member (named'.trans named.symm)
      simp [searchAt, nextPage, search]
    · cases sound.eq_of_birth listed member (born'.trans born.symm)
      exact absurd named named'
  · refine Or.inr ⟨by rintro _ ⟨⟩; exact born, ?_⟩
    simp only [cFindObjects, withSession, lookup]
    split_ifs
    · exact looked
    · exact searching_updateOther sound looked (sessionLookup_found lookup)
        born _ fun _ => rfl

/-- `C_FindObjectsFinal` ends the search of its own session only. -/
theorem searching_cFindObjectsFinal
    (host : Host) {state : State} (wellFormed : WellFormed state)
    (searching : Searching birth find state) (handle : Nat)
    (other : ∀ session, (sessionLookup state handle).2 = some session →
      session.birth ≠ birth) :
    Searching birth find (cFindObjectsFinal state handle).1 := by
  have looked := searching_sessionLookup searching handle
  have sound := wellFormed_changes wellFormed
    (sessionLookup_changes host state handle)
  rcases lookup : sessionLookup state handle with ⟨next, _ | session⟩ <;>
    rw [lookup] at looked sound other <;>
    simp only [cFindObjectsFinal, withSession, lookup]
  · exact looked
  · split_ifs
    · exact looked
    · exact searching_updateOther sound looked (sessionLookup_found lookup)
        (other session rfl) _ fun _ => rfl

/-- A call that reads or ends no search. -/
def SparesSearches (call : Call) : Prop :=
  (∀ handle given maxCount count,
    call ≠ .cFindObjects handle given maxCount count) ∧
  ∀ handle, call ≠ .cFindObjectsFinal handle

theorem searching_lockedBody
    {state : State} (wellFormed : WellFormed state)
    (searching : Searching birth find state) (active : find.active = true)
    (answers : Answers) {call : Call} (spares : SparesSearches call) :
    Searching birth find (lockedBody host state answers call).1 := by
  cases call with
  | cFindObjects handle given maxCount count =>
      exact absurd rfl (spares.1 _ _ _ _)
  | cFindObjectsFinal handle => exact absurd rfl (spares.2 _)
  | cInitialize args => exact searching_cInitialize searching ..
  | cFinalize reserved => exact searching_cFinalize searching
  | cGetSlotList slotList count =>
      simp only [lockedBody, reply, cGetSlotList]
      split_ifs <;> exact searching
  | cGetSlotInfo slot info => exact searching_grantStillGood searching
  | cGetTokenInfo slot info =>
      simp only [lockedBody, reply, cGetTokenInfo]
      split_ifs <;> exact searching
  | cGetMechanismList slot mechanismList count =>
      simp only [lockedBody, reply, cGetMechanismList]
      split
      · exact searching
      · split_ifs <;> exact searching
  | cGetMechanismInfo slot type info =>
      simp only [lockedBody, reply, cGetMechanismInfo]
      split
      · exact searching
      · split
        · exact searching
        · split_ifs <;> exact searching
  | cOpenSession slot flags session =>
      exact searching_cOpenSession searching flags
  | cCloseSession handle => exact searching_cCloseSession searching handle
  | cCloseAllSessions slot => exact searching_cCloseAllSessions searching
  | cGetSessionInfo handle info =>
      exact searching_withSession searching fun _ _ kept => kept
  | cLogin handle userType => exact searching_cLogin searching handle
  | cLogout handle => exact searching_cLogout searching handle
  | cFindObjectsInit handle template =>
      exact searching_cFindObjectsInit wellFormed searching active ..
  | cGetAttributeValue handle object template =>
      exact searching_cGetAttributeValue searching ..
  | cSignInit handle mechanism key =>
      cases mechanism with
      | none => exact searching
      | some mechanism => exact searching_cSignInit searching ..
  | cSign handle data signature signatureLen =>
      exact searching_cSign searching ..
  | cSignUpdate handle part => exact searching_cSignUpdate searching ..
  | cSignFinal handle signature signatureLen =>
      exact searching_cSignFinal searching ..
  | cDecryptInit handle mechanism key =>
      cases mechanism with
      | none => exact searching
      | some mechanism => exact searching_cDecryptInit searching ..
  | cDecrypt handle ciphertext plaintext plaintextLen =>
      exact searching_cDecrypt searching ..
  | cWaitForSlotEvent flags slot reserved =>
      exact searching_cWaitForSlotEvent searching

theorem ranOn_entered
    {world : World} {thread : Nat} {answers : Answers} {ran call : Call}
    (runs : ranOn birth world (.run thread answers) = some ran)
    (entered : world.threads thread = .entered call) : ran = call := by
  simp only [ranOn, entered] at runs
  split at runs
  · split at runs
    · split_ifs at runs
      exact (Option.some.inj runs).symm
    · cases runs
  · cases runs

/-- A step leaves the search as it is, or returns its next page. -/
theorem searching_step
    {world next : World} {action : Action} (consistent : Consistent world)
    (searching : Searching birth (searchAt results position) world.state)
    (goesOn : ∀ handle,
      ranOn birth world action ≠ some (.cFindObjectsFinal handle))
    (moves : (machine host).step world action = some next) :
    page birth world action = none ∧
        Searching birth (searchAt results position) next.state ∨
      ∃ asked,
        page birth world action = some (nextPage results position asked) ∧
          Searching birth
            (searchAt results
              (position + (nextPage results position asked).items.length))
            next.state := by
  have defined : definedStep host world action = some next := by
    simp only [machine, step] at moves
    split_ifs at moves
    exact moves
  cases action with
  | enter thread call =>
      simp only [definedStep] at defined
      split_ifs at defined
      cases defined
      exact Or.inl ⟨rfl, searching⟩
  | environment event =>
      cases defined
      exact Or.inl ⟨rfl, searching.of_sessions rfl rfl⟩
  | wake thread =>
      refine Or.inl ⟨rfl, ?_⟩
      simp only [definedStep] at defined
      split at defined
      · cases defined
        exact searching_continueSearch consistent.wellFormed searching rfl _
      · cases defined
        exact searching_continueFinalize searching
      · cases defined
  | acquired thread result =>
      refine Or.inl ⟨rfl, ?_⟩
      simp only [definedStep] at defined
      split at defined
      · rename_i acquisition flying
        cases defined
        exact searching_afterAcquire consistent.wellFormed searching rfl
          (consistent.inFlight _ _ flying) result
      · cases defined
  | run thread answers =>
      simp only [definedStep] at defined
      split at defined
      case h_2 => cases defined
      rename_i call entered
      cases defined
      have wellFormed := consistent.wellFormed
      have runs (handle : Nat) (names : call.session? = some handle)
          (session : PortalSession)
          (found : (sessionLookup world.state handle).2 = some session) :
          ranOn birth world (.run thread answers) =
            if session.birth = birth then some call else none := by
        simp [ranOn, entered, names, found]
      by_cases reads : ∃ handle given maxCount count,
          call = .cFindObjects handle given maxCount count
      · rcases reads with ⟨handle, given, maxCount, count, rfl⟩
        rcases searching_cFindObjects host wellFormed searching handle
            maxCount with
          ⟨session, found, born, returned, kept⟩ | ⟨other, kept⟩
        · refine Or.inr ⟨maxCount, ?_, kept⟩
          rw [page, runs handle rfl session found, if_pos born]
          dsimp only
          rw [returned]
          rfl
        · refine Or.inl ⟨?_, kept⟩
          rw [page]
          cases found : (sessionLookup world.state handle).2 with
          | none => simp [ranOn, entered, Call.session?, found]
          | some session =>
              rw [runs handle rfl session found, if_neg (other _ found)]
      by_cases ends : ∃ handle, call = .cFindObjectsFinal handle
      · rcases ends with ⟨handle, rfl⟩
        have other : ∀ session,
            (sessionLookup world.state handle).2 = some session →
              session.birth ≠ birth := by
          intro session found born
          apply goesOn handle
          rw [runs handle rfl session found, if_pos born]
        refine Or.inl ⟨?_, searching_cFindObjectsFinal host wellFormed
          searching handle other⟩
        rw [page]
        cases found : (sessionLookup world.state handle).2 with
        | none => simp [ranOn, entered, Call.session?, found]
        | some session =>
            rw [runs handle rfl session found, if_neg (other _ found)]
      have spares : SparesSearches call := by
        simp only [not_exists] at reads ends
        exact ⟨reads, ends⟩
      refine Or.inl ⟨?_, searching_lockedBody wellFormed searching rfl
        answers spares⟩
      cases ran : ranOn birth world (.run thread answers) with
      | none => rw [page, ran]
      | some other =>
          have same : other = call := ranOn_entered ran entered
          rw [page, ran, same]
          split
          · rename_i handle given maxCount count named
            exact absurd (Option.some.inj named)
              (spares.1 handle given maxCount count)
          · rfl

/-- The pages read so far tell where the search stands. -/
theorem Reads.paged
    {first last : World} {pages : List (Page CkUlong)}
    (reachable : (machine host).Reachable first)
    (searching : Searching birth (searchAt results 0) first.state)
    (reads : Reads host birth first pages last) :
    (machine host).Reachable last ∧ Paged results pages ∧
      Searching birth (searchAt results (contents pages).length)
        last.state := by
  induction reads with
  | begins => exact ⟨reachable, .nil results, searching⟩
  | @step pages world next action earlier goesOn moves before =>
      rcases before with ⟨reachable, paged, searching⟩
      refine ⟨reachable.step moves, ?_⟩
      rcases searching_step (consistent_of_reachable reachable) searching
          goesOn moves with
        ⟨nothing, kept⟩ | ⟨asked, returned, kept⟩
      · rw [nothing, Option.toList_none, List.append_nil]
        exact ⟨paged, kept⟩
      · rw [returned, Option.toList_some, contents_append,
          contents_singleton, List.length_append]
        exact ⟨paged.next asked, kept⟩

end Steps

/-! ## How a search begins -/

section Begins

variable {state : State} (wellFormed : WellFormed state)
include wellFormed

/-- A search of the handle has begun, with all the objects that match. -/
def Begun (handle : Nat) (template : CkTemplate) (state : State) : Prop :=
  ∃ session ∈ state.table, session.handle = handle ∧
    session.find =
      searchAt (portalObjectsFind state.objects template) 0

end Begins

end PortalCertificate.Module.Paging
