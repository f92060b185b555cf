import PortalCertificate.Module.Objects
import PortalCertificate.Module.Sign

/-!
# The static variables of the module

The static variables of `module.c`, the part of the portal client they refer
to, and the functions on grants and sessions that the entry points share.

The state also records a trace of events, newest first.  The trace and the
counters of acquisitions and openings belong to the model; they are written
and never read by the functions of the module.

Passing a `NULL` table to most functions of GHashTable is a checked error
that the state survives, and the trace records it.  Iterating over a `NULL`
table reads an uninitialised iterator: from there on the behaviour is
undefined, and the system takes no further step.
-/

namespace PortalCertificate.Module.Statics

open PortalCertificate.Library.Der (Octets)
open PortalCertificate.Module.Objects
open PortalCertificate.Module.Session
open PortalCertificate.Module.Sign (SignRequest)
open PortalCertificate.Pkcs11

/-! ## The portal client -/

/--
What the module sees of `PortalClient`.  The address is the pointer's value,
and `connected` is whether there is a session bus.
-/
structure PortalClient where
  address : Nat
  connected : Bool
  owner : Option String
  ownerGeneration : UInt64
  invalidated : List String
  available : Bool
  mechanisms : List String
  deriving DecidableEq, Repr

/-- `NULL` clients and grants are gone. -/
def portalClientGrantGone
    (client : Option PortalClient) (grant : PortalGrant) : Bool :=
  match client with
  | none => true
  | some client =>
      client.owner.isNone ||
        client.ownerGeneration != grant.ownerGeneration ||
        client.invalidated.contains grant.sessionHandle

/-- The capabilities as the last probe found them. -/
def portalClientAvailable (client : Option PortalClient) : Bool :=
  match client with
  | none => false
  | some client => client.connected && client.available

/-- `portal_client_dup_mechanisms`. -/
def portalClientDupMechanisms (client : Option PortalClient) :
    Option (List String) :=
  if portalClientAvailable client then
    client.map PortalClient.mechanisms
  else
    none

/-! ## Events -/

/-- The operations that use a key. -/
inductive OperationKind where
  | sign
  | decrypt
  deriving DecidableEq, Repr

/-- The arguments of `portal_client_decrypt` besides the grant. -/
structure DecryptRequest where
  hash : Option String
  mgf1Hash : Option String
  label : Option Octets
  data : Octets
  deriving DecidableEq, Repr

/-- What the portal is asked to do with a grant. -/
inductive OperationRequest where
  | sign (request : SignRequest)
  | decrypt (request : DecryptRequest)
  deriving DecidableEq, Repr

/-- The operation that asks. -/
def OperationRequest.kind : OperationRequest → OperationKind
  | sign _ => .sign
  | decrypt _ => .decrypt

/-- What the module does, as far as its properties tell. -/
inductive Event where
  /-- `C_Initialize` has succeeded. -/
  | initialized
  /-- `C_Finalize` has begun to block new work. -/
  | finalizing
  /-- `C_Finalize` has destroyed the tables. -/
  | finalized
  | sessionOpened (birth handle : Nat)
  /-- A session has left the table. -/
  | sessionEnded (birth : Nat)
  | loggedOut
  | closedAll
  /-- `portal_client_acquire` is called for a session. -/
  | acquireStarted (acquisition birth : Nat)
  | acquireReturned (acquisition : Nat) (granted : Bool)
  /-- The grant has become `module_grant`. -/
  | installed (acquisition : Nat) (sessionHandle : String)
  /-- The grant is `module_grant` no longer; `gone` is the portal's word. -/
  | dropped (acquisition : Nat) (gone : Bool)
  /-- `portal_client_release` is called for the grant. -/
  | released (acquisition : Nat)
  /-- The grant was found gone or expired; a slot event is queued. -/
  | retired (acquisition : Nat)
  /-- `C_WaitForSlotEvent` returns a slot event. -/
  | slotEventReturned
  /-- `C_SignInit` or `C_DecryptInit` has succeeded. -/
  | operationInitialised (kind : OperationKind) (birth : Nat)
      (acquisition : Nat) (sessionHandle : String)
  /-- A request is handed to the portal client. -/
  | operationRequested (request : OperationRequest) (birth : Nat)
      (acquisition : Nat) (sessionHandle : String)
  /-- A function of GHashTable is given a `NULL` table. -/
  | nullTable
  deriving DecidableEq, Repr

/-! ## Static variables -/

/-- The static variables of `module.c`, without their prefix. -/
structure Variables where
  acquiring : Bool
  initialized : Bool
  lifecycle : UInt32
  finalizing : Bool
  sessionSerial : UInt32
  client : Option PortalClient
  grant : Option PortalGrant
  objects : Option PortalObjects
  generation : UInt32
  sessions : Option (List PortalSession)
  nextSession : Nat
  loggedIn : Bool
  slotEvents : UInt32
  enumerate : Bool
  issuedIds : Option (List Octets)
  refusalTime : Int
  serial : String
  deriving DecidableEq, Repr

/-- The static variables, the clocks in microseconds, and the history. -/
structure State extends Variables where
  realTime : Int
  monotonicTime : Int
  trace : List Event
  acquisitions : Nat
  openings : Nat
  undefined : Bool
  deriving DecidableEq, Repr

/-- What the code relies on besides its own state. -/
structure Host where
  /-- The hash functions of GnuTLS. -/
  hashes : Gnutls.HashFunctions
  /-- `module_next_session++`, at the width of the handle type. -/
  nextHandle : Nat → Nat
  /-- `portal_objects_new`; `none` is a certificate it refuses. -/
  portalObjectsNew : PortalGrant → UInt32 → Option PortalObjects
  /-- The environment's `PKCS11_PORTAL_CERTIFICATE_ENUMERATE`. -/
  enumerateSetting : Option String

/-- The variables before the first `C_Initialize`. -/
def State.start : State where
  acquiring := false
  initialized := false
  lifecycle := 0
  finalizing := false
  sessionSerial := 0
  client := none
  grant := none
  objects := none
  generation := 0
  sessions := none
  nextSession := 0
  loggedIn := false
  slotEvents := 0
  enumerate := false
  issuedIds := none
  refusalTime := 0
  serial := ""
  realTime := 0
  monotonicTime := 0
  trace := []
  acquisitions := 0
  openings := 0
  undefined := false

/-- The event is added to the trace. -/
def State.emit (state : State) (event : Event) : State :=
  { state with trace := event :: state.trace }

/-! ## The session table -/

/-- The sessions of the table, if there is one. -/
def State.table (state : State) : List PortalSession :=
  state.sessions.getD []

/-- `g_hash_table_lookup`. -/
def State.findSession (state : State) (handle : Nat) :
    Option PortalSession :=
  state.table.find? fun session => session.handle == handle

/-- A write through the pointer that a lookup returned. -/
def State.updateSession
    (state : State) (handle : Nat)
    (update : PortalSession → PortalSession) : State :=
  { state with
    sessions := state.sessions.map (List.map fun session =>
      if session.handle = handle then update session else session) }

/-- The sessions leave the table. -/
def endEvents (sessions : List PortalSession) : List Event :=
  sessions.map fun session => .sessionEnded session.birth

/-- `g_hash_table_remove_all (module_sessions)`. -/
def State.removeAllSessions (state : State) : State :=
  match state.sessions with
  | none => state.emit .nullTable
  | some sessions =>
      { state with
        sessions := some []
        trace := endEvents sessions ++ state.trace }

/-- `g_hash_table_remove (module_sessions, handle)`. -/
def State.removeSession (state : State) (handle : Nat) : State × Bool :=
  match state.sessions with
  | none => (state.emit .nullTable, false)
  | some sessions =>
      let removed := sessions.filter fun session => session.handle == handle
      let kept := sessions.filter fun session => session.handle != handle
      ({ state with
          sessions := some kept
          trace := endEvents removed ++ state.trace },
        removed != [])

/-- `g_hash_table_insert`, which replaces an entry with the same key. -/
def State.insertSession (state : State) (session : PortalSession) : State :=
  let cleared := (state.removeSession session.handle).1
  { cleared with
    sessions := cleared.sessions.map fun sessions => session :: sessions }

/-! ## Grants -/

/-- Pending operations must never use a replacement grant. -/
def dropObjects (state : State) : State :=
  let state : State :=
    match state.sessions with
    | none => { state.emit .nullTable with undefined := true }
    | some sessions =>
        { state with
          sessions := some (sessions.map fun session =>
            sessionResetDecrypt (sessionResetSign session)) }
  { state with objects := none, grant := none }

/-- `portal_client_release`, which needs a connection. -/
def portalClientRelease (state : State) (grant : PortalGrant) : State :=
  if state.client.any PortalClient.connected then
    state.emit (.released grant.acquisition)
  else
    state

/-- `release_grant`. -/
def releaseGrant (state : State) : State :=
  let state := { state with generation := state.generation + 1 }
  match state.grant with
  | none => dropObjects state
  | some grant =>
      let gone := portalClientGrantGone state.client grant
      let state := if gone then state else portalClientRelease state grant
      dropObjects (state.emit (.dropped grant.acquisition gone))

/-- The grant has not reached its local expiry. -/
def State.unexpired (state : State) (grant : PortalGrant) : Bool :=
  grant.expiresAt == 0 || state.realTime.tdiv 1000000 < grant.expiresAt

/-- The grant has ended, and the sessions with it. -/
def retireGrant (state : State) (grant : PortalGrant) : State :=
  let state := (releaseGrant state).removeAllSessions
  { state.emit (.retired grant.acquisition) with
    loggedIn := false
    slotEvents := state.slotEvents + 1 }

/-- `grant_still_good`. -/
def grantStillGood (state : State) : State × Bool :=
  match state.grant with
  | none => (state, false)
  | some grant =>
      if !portalClientGrantGone state.client grant &&
          state.unexpired grant then
        (state, true)
      else
        (retireGrant state grant, false)

/-! ## Sessions of a call -/

/-- Every session operation observes the end of the grant first. -/
def sessionLookup (state : State) (handle : Nat) :
    State × Option PortalSession :=
  match state.sessions with
  | none => (state, none)
  | some _ =>
      let state := (grantStillGood state).1
      (state, state.findSession handle)

/-- Handles can be reused, so lifecycle and serial are checked again. -/
def sessionRevalidate
    (state : State) (handle : Nat) (lifecycle serial : UInt32) :
    State × Option PortalSession :=
  if state.finalizing || !state.initialized ||
      state.lifecycle != lifecycle then
    (state, none)
  else
    match sessionLookup state handle with
    | (state, none) => (state, none)
    | (state, some session) =>
        if session.serial = serial then (state, some session)
        else (state, none)

/-- `g_hash_table_contains (module_sessions, handle)`. -/
def State.containsSession (state : State) (handle : Nat) : State × Bool :=
  match state.sessions with
  | none => (state.emit .nullTable, false)
  | some _ => (state, (state.findSession handle).isSome)

/-- `operation_session_lookup`. -/
def operationSessionLookup (state : State) (handle : Nat) :
    State × Except CkRv PortalSession :=
  let lookup (state : State) : State × Except CkRv PortalSession :=
    match sessionLookup state handle with
    | (state, some session) => (state, .ok session)
    | (state, none) => (state, .error .sessionHandleInvalid)
  match state.grant with
  | none => lookup state
  | some grant =>
      let (state, contains) := state.containsSession handle
      if contains && portalClientGrantGone state.client grant then
        ((grantStillGood state).1, .error .deviceRemoved)
      else
        lookup state

/-- Where an operation looks for its session. -/
inductive LooksFrom (state : State) : State → Prop where
  | same : LooksFrom state state
  | unlisted (sessions : state.sessions = none) :
      LooksFrom state (state.emit .nullTable)

/-- What an operation finds for a handle. -/
inductive OperationLookup (state : State) (handle : Nat) :
    State × Except CkRv PortalSession → Prop where
  | gone {grant : PortalGrant} (current : state.grant = some grant)
      (gone : portalClientGrantGone state.client grant = true)
      (named : (state.findSession handle).isSome = true) :
      OperationLookup state handle
        ((grantStillGood state).1, .error .deviceRemoved)
  | found {before next : State} {session : PortalSession}
      (looks : LooksFrom state before)
      (found : sessionLookup before handle = (next, some session)) :
      OperationLookup state handle (next, .ok session)
  | absent {before next : State} (looks : LooksFrom state before)
      (absent : sessionLookup before handle = (next, none)) :
      OperationLookup state handle (next, .error .sessionHandleInvalid)

/-- The cases of a lookup for an operation. -/
theorem operationLookup (state : State) (handle : Nat) :
    OperationLookup state handle (operationSessionLookup state handle) := by
  unfold operationSessionLookup State.containsSession
  cases current : state.grant with
  | none =>
      rcases looked : sessionLookup state handle with
        ⟨next, _ | session⟩ <;>
        simp only [looked]
      · exact .absent .same looked
      · exact .found .same looked
  | some grant =>
      cases sessions : state.sessions with
      | none =>
          rcases looked : sessionLookup (state.emit .nullTable) handle with
            ⟨next, _ | session⟩ <;>
            simp only [looked, Bool.false_and, Bool.false_eq_true, if_false]
          · exact .absent (.unlisted sessions) looked
          · exact .found (.unlisted sessions) looked
      | some table =>
          dsimp only
          split_ifs with gone
          · rcases Bool.and_eq_true_iff.mp gone with ⟨named, gone⟩
            exact .gone current gone named
          · rcases looked : sessionLookup state handle with
              ⟨next, _ | session⟩ <;> dsimp only
            · exact .absent .same looked
            · exact .found .same looked

/-- What holds after the lookups of an operation. -/
theorem operationSessionLookup_state (property : State → Prop)
    {state : State} {handle : Nat}
    (gone : property (grantStillGood state).1)
    (looked : ∀ before, LooksFrom state before →
      property (sessionLookup before handle).1) :
    property (operationSessionLookup state handle).1 := by
  have result := operationLookup state handle
  generalize operationSessionLookup state handle = answer at result ⊢
  cases result with
  | gone => exact gone
  | found looks found =>
      have after := looked _ looks
      rwa [found] at after
  | absent looks absent =>
      have after := looked _ looks
      rwa [absent] at after

end PortalCertificate.Module.Statics
