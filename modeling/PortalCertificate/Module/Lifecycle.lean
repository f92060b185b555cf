import PortalCertificate.Module.Acquire

/-!
# Lifecycle and slot calls

The locked bodies of `C_Initialize`, `C_Finalize`, the slot and token calls,
and the calls that open and close sessions.
-/

namespace PortalCertificate.Module.Lifecycle

open PortalCertificate.Module.Acquire
open PortalCertificate.Module.Calls
open PortalCertificate.Module.Mechanism
open PortalCertificate.Module.Session
open PortalCertificate.Module.SessionCalls
open PortalCertificate.Module.Statics
open PortalCertificate.Pkcs11

/-! ## Initialization -/

/-- What `C_Initialize` refuses in its arguments. -/
def initializeCheck (args : InitializeArgs) : Option CkRv :=
  if args.reserved.any fun reserved =>
      reserved != "enumerate=1" && reserved != "enumerate=0" then
    some .argumentsBad
  else if args.anyMutex && !args.allMutex then
    some .argumentsBad
  else if args.allMutex &&
      args.flags &&& ckfOsLockingOk = 0 then
    some .cantLock
  else
    none

/-- What the serial number of the token begins with. -/
def tokenSerialPrefix : String := "XDP"

/-- The variables of a new lifecycle. -/
def initializeState
    (state : State) (args : Option InitializeArgs) (answers : Answers) :
    State :=
  { state.emit .initialized with
    serial := tokenSerialPrefix ++ answers.process
    enumerate := args.any fun args => args.reserved == some "enumerate=1"
    issuedIds := some []
    sessions := some []
    nextSession := 1
    lifecycle := state.lifecycle + 1
    finalizing := false
    loggedIn := false
    refusalTime := 0
    slotEvents := 0
    -- An excluded process keeps the pointer it has, which is `NULL`.
    client := answers.client <|> state.client
    initialized := true }

/-- `C_Initialize`. -/
def cInitialize
    (state : State) (args : Option InitializeArgs) (answers : Answers) :
    State × Reply :=
  if state.initialized then
    (state, answer .cryptokiAlreadyInitialized)
  else
    match args.bind initializeCheck with
    | some rv => (state, answer rv)
    | none => (initializeState state args answers, answer .ok)

/-! ## Finalization -/

/-- `C_Finalize` once nobody acquires. -/
def finishFinalize (state : State) : State × Reply :=
  let state := releaseGrant state
  ({ state with
      trace :=
        .finalized :: (endEvents state.table ++ state.trace)
      sessions := none
      issuedIds := none
      client := none
      loggedIn := false
      finalizing := false
      initialized := false },
    answer .ok)

/-- `C_Finalize` from its wait on. -/
def continueFinalize (state : State) : State × Progress :=
  if state.acquiring then
    (state, .finalizes)
  else
    let (state, reply) := finishFinalize state
    (state, .returned reply)

/-- `C_Finalize`, up to its first wait. -/
def cFinalize (state : State) : State × Progress :=
  if !state.initialized then
    (state, .returned (answer .cryptokiNotInitialized))
  else
    continueFinalize { state.emit .finalizing with finalizing := true }

/-! ## Slots and tokens -/

/-- `C_GetSlotList`. -/
def cGetSlotList
    (state : State) (slotList : Bool) (count : Nat) : State × Reply :=
  if !portalClientAvailable state.client then
    (state, ⟨.ok, .count 0⟩)
  else if !slotList then
    (state, ⟨.ok, .count 1⟩)
  else if count < 1 then
    (state, ⟨.bufferTooSmall, .count 1⟩)
  else
    (state, ⟨.ok, .slots [portalSlotId]⟩)

/-- `C_GetSlotInfo`. -/
def cGetSlotInfo (state : State) : State × Reply :=
  let state := (grantStillGood state).1
  (state, ⟨.ok, .slotInfo (portalClientAvailable state.client)⟩)

/-- `C_GetTokenInfo`. -/
def cGetTokenInfo (state : State) : State × Reply :=
  if !portalClientAvailable state.client then
    (state, answer .tokenNotPresent)
  else
    (state, ⟨.ok, .tokenInfo state.serial⟩)

/-- The mechanisms that are told for the portal's own. -/
def portalMechanismList (names : List String) : List CkUlong :=
  (mechanismTable.filter fun mechanism =>
    portalMechanismAvailable mechanism (some names)).map
      PortalMechanism.type

/-- `C_GetMechanismList`. -/
def cGetMechanismList
    (state : State) (mechanismList : Bool) (count : Nat) :
    State × Reply :=
  match portalClientDupMechanisms state.client with
  | none => (state, answer .tokenNotPresent)
  | some names =>
      let list := portalMechanismList names
      if !mechanismList then
        (state, ⟨.ok, .count list.length⟩)
      else if count < list.length then
        (state, ⟨.bufferTooSmall, .count list.length⟩)
      else
        (state, ⟨.ok, .mechanisms list⟩)

/-- The key sizes a mechanism is announced with. -/
def mechanismKeySizes (mechanism : PortalMechanism) : Nat × Nat :=
  if mechanism.portalMechanism = ecdsa then (256, 521) else (1024, 8192)

/-- `C_GetMechanismInfo`. -/
def cGetMechanismInfo (state : State) (type : CkUlong) : State × Reply :=
  match portalClientDupMechanisms state.client with
  | none => (state, answer .tokenNotPresent)
  | some names =>
      match portalMechanismLookup type with
      | none => (state, answer .mechanismInvalid)
      | some mechanism =>
          if !portalMechanismAvailable mechanism (some names) then
            (state, answer .mechanismInvalid)
          else
            let (minimum, maximum) := mechanismKeySizes mechanism
            (state,
              ⟨.ok, .mechanismInfo minimum maximum mechanism.canSign⟩)

/-- `C_WaitForSlotEvent`, which does not block. -/
def cWaitForSlotEvent (state : State) : State × Reply :=
  let state := (grantStillGood state).1
  if state.slotEvents > 0 then
    ({ state.emit .slotEventReturned with
        slotEvents := state.slotEvents - 1 },
      ⟨.ok, .slot portalSlotId⟩)
  else
    (state, answer .noEvent)

/-! ## Opening and closing sessions -/

/-- `g_new0 (PortalSession, 1)` with the next handle and serial. -/
def newSession (state : State) (flags : CkUlong) : PortalSession where
  birth := state.openings
  handle := state.nextSession
  serial := state.sessionSerial + 1
  flags
  find := .idle
  sign := .idle
  decrypt := .idle

/-- The session is counted and enters the table. -/
def addSession
    (host : Host) (state : State) (session : PortalSession) : State :=
  State.insertSession
    { state.emit (.sessionOpened session.birth session.handle) with
      nextSession := host.nextHandle state.nextSession
      sessionSerial := session.serial
      openings := state.openings + 1 }
    session

/-- `C_OpenSession`. -/
def cOpenSession
    (host : Host) (state : State) (flags : CkUlong) : State × Reply :=
  if state.finalizing then
    (state, answer .cryptokiNotInitialized)
  else if !portalClientAvailable state.client then
    (state, answer .tokenNotPresent)
  else
    let state := (grantStillGood state).1
    let session := newSession state flags
    (addSession host state session, ⟨.ok, .session session.handle⟩)

/-- Closing a session keeps the grant. -/
def cCloseSession (state : State) (handle : Nat) : State × Reply :=
  match state.removeSession handle with
  | (state, false) => (state, answer .sessionHandleInvalid)
  | (state, true) =>
      if state.sessions = some [] then
        ({ state with loggedIn := false }, answer .ok)
      else
        (state, answer .ok)

/-- `C_CloseAllSessions`. -/
def cCloseAllSessions (state : State) : State × Reply :=
  let state := releaseGrant (state.emit .closedAll).removeAllSessions
  ({ state with loggedIn := false }, answer .ok)

end PortalCertificate.Module.Lifecycle
