import PortalCertificate.Library.Transition
import PortalCertificate.Module.Lifecycle

/-!
# The module as a transition system

Any number of threads call the module.  A call is an unlocked step that
checks the module and the arguments, followed by the locked body; a search
or a finalization may stop in between, and an acquisition is a stretch
without the lock.  Other steps are the environment's: signals of the portal,
a change of its owner, a probe of its capabilities, and the clocks.

An action carries everything that is not determined by the world: the call,
the answers of the libraries, and the outcome of an acquisition.
-/

namespace PortalCertificate.Module.Machine

open PortalCertificate.Library.Transition
open PortalCertificate.Module.Acquire
open PortalCertificate.Module.Calls
open PortalCertificate.Module.Lifecycle
open PortalCertificate.Module.Session
open PortalCertificate.Module.SessionCalls
open PortalCertificate.Module.Statics
open PortalCertificate.Pkcs11

/-! ## Locked bodies -/

/-- The body of a call that never waits. -/
def reply (result : State × Reply) : State × Progress :=
  (result.1, .returned result.2)

/-- The body of a call, whose arguments have been checked. -/
def lockedBody
    (host : Host) (state : State) (answers : Answers) :
    Call → State × Progress
  | .cInitialize args => reply (cInitialize state args answers)
  | .cFinalize _ => cFinalize state
  | .cGetSlotList slotList count =>
      reply (cGetSlotList state slotList (count.getD 0))
  | .cGetSlotInfo _ _ => reply (cGetSlotInfo state)
  | .cGetTokenInfo _ _ => reply (cGetTokenInfo state)
  | .cGetMechanismList _ mechanismList count =>
      reply (cGetMechanismList state mechanismList (count.getD 0))
  | .cGetMechanismInfo _ type _ => reply (cGetMechanismInfo state type)
  | .cOpenSession _ flags _ => reply (cOpenSession host state flags)
  | .cCloseSession session => reply (cCloseSession state session)
  | .cCloseAllSessions _ => reply (cCloseAllSessions state)
  | .cGetSessionInfo session _ => reply (cGetSessionInfo state session)
  | .cLogin session _ => reply (cLogin state session)
  | .cLogout session => reply (cLogout state session)
  | .cFindObjectsInit session template =>
      cFindObjectsInit host state session template
  | .cFindObjects session _ maxCount _ =>
      reply (cFindObjects state session maxCount)
  | .cFindObjectsFinal session => reply (cFindObjectsFinal state session)
  | .cGetAttributeValue session object template =>
      reply (cGetAttributeValue state session object template)
  | .cSignInit session (some mechanism) key =>
      reply (cSignInit state session mechanism key answers)
  | .cSign session data signature signatureLen =>
      reply (cSign host state session data signature
        (signatureLen.getD 0) answers)
  | .cSignUpdate session part =>
      reply (cSignUpdate state session part answers)
  | .cSignFinal session signature signatureLen =>
      reply (cSignFinal host state session signature
        (signatureLen.getD 0) answers)
  | .cDecryptInit session (some mechanism) key =>
      reply (cDecryptInit state session mechanism key)
  | .cDecrypt session ciphertext plaintext plaintextLen =>
      reply (cDecrypt state session ciphertext plaintext
        (plaintextLen.getD 0) answers)
  | .cWaitForSlotEvent _ _ _ => reply (cWaitForSlotEvent state)
  -- Not reached: the argument check has refused the `NULL` mechanism.
  | .cSignInit _ none _ | .cDecryptInit _ none _ =>
      reply (state, answer .argumentsBad)

/-! ## Environment -/

/-- What happens without a call. -/
inductive Environment where
  | grantInvalidated (session : String)
  | sessionClosed (path : String)
  | ownerChanged (owner : Option String)
  /-- `none` is a probe without an answer. -/
  | capabilitiesProbed (mechanisms : Option (List String))
  /-- `g_get_real_time`. -/
  | realTime (now : Int)
  /-- `g_get_monotonic_time` advances. -/
  | monotonicTime (elapsed : Nat)
  deriving DecidableEq, Repr

/-- `on_grant_invalidated` and `on_session_closed`. -/
def PortalClient.invalidate
    (client : PortalClient) (session : String) : PortalClient :=
  { client with invalidated := session :: client.invalidated }

/-- `owner_changed`. -/
def PortalClient.changeOwner
    (client : PortalClient) (owner : Option String) : PortalClient :=
  if client.owner = owner then
    client
  else
    { client with
      owner
      ownerGeneration := client.ownerGeneration + 1
      available := false
      mechanisms := [] }

/-- The end of `probe_capabilities`. -/
def PortalClient.probe
    (client : PortalClient) (mechanisms : Option (List String)) :
    PortalClient :=
  if client.owner.isNone then
    client
  else
    { client with
      available := mechanisms.any (· != [])
      mechanisms := mechanisms.getD [] }

/-- What an event means to the portal client. -/
def Environment.client (client : PortalClient) : Environment → PortalClient
  | .grantInvalidated session => PortalClient.invalidate client session
  | .sessionClosed path => PortalClient.invalidate client path
  | .ownerChanged owner => PortalClient.changeOwner client owner
  | .capabilitiesProbed mechanisms => PortalClient.probe client mechanisms
  | .realTime _ | .monotonicTime _ => client

/-- What an event means to the module. -/
def Environment.apply (event : Environment) (state : State) : State :=
  { state with
    client := state.client.map fun client => event.client client
    realTime :=
      match event with
      | .realTime now => now
      | _ => state.realTime
    monotonicTime :=
      match event with
      | .monotonicTime elapsed => state.monotonicTime + elapsed
      | _ => state.monotonicTime }

/-! ## Threads -/

/-- Where a thread is. -/
inductive Pc where
  | idle
  /-- Past the unlocked checks of a call. -/
  | entered (call : Call)
  | waiting (search : Search)
  | acquiring (acquisition : Acquisition)
  | finalizing
  | returned (call : Call) (reply : Reply)
  deriving DecidableEq, Repr

/-- A thread may call the module. -/
def Pc.free : Pc → Bool
  | .idle | .returned _ _ => true
  | _ => false

/-- The call that a search belongs to. -/
def Search.call (search : Search) : Call :=
  .cFindObjectsInit search.handle search.template

/-- The call a thread has entered and not left. -/
def Pc.call : Pc → Option Call
  | .entered call => some call
  | .waiting search => some (Search.call search)
  | .acquiring acquisition => some (Search.call acquisition.search)
  | .finalizing => some (.cFinalize false)
  | .idle | .returned _ _ => none

/-- Where a thread is after a locked stretch of a call. -/
def Progress.pc (call : Call) : Progress → Pc
  | .returned reply => .returned call reply
  | .waits search => .waiting search
  | .acquires acquisition => .acquiring acquisition
  | .finalizes => .finalizing

/-- The module and its threads. -/
structure World where
  state : State
  threads : Nat → Pc

/-- The module before any call. -/
def World.start : World where
  state := .start
  threads := fun _ => .idle

/-- The thread ends a locked stretch. -/
def World.after
    (world : World) (thread : Nat) (call : Call)
    (result : State × Progress) : World where
  state := result.1
  threads := Function.update world.threads thread
    (Progress.pc call result.2)

/-! ## Steps -/

/-- A thread calls, gets the lock, is woken or has its grant; or something
happens without a call. -/
inductive Action where
  | enter (thread : Nat) (call : Call)
  | run (thread : Nat) (answers : Answers)
  | wake (thread : Nat)
  | acquired (thread : Nat)
      (result : Except PortalErrorCode PortalGrant)
  | environment (event : Environment)

/-- The thread that goes on with the lock. -/
def resumed : Action → Option Nat
  | .run thread _ | .wake thread | .acquired thread _ => some thread
  | .enter _ _ | .environment _ => none

/-- The unlocked checks at the start of a call. -/
def enterCall (state : State) (call : Call) : Pc :=
  if call.checksModule && !state.initialized then
    .returned call (answer .cryptokiNotInitialized)
  else
    match call.argumentCheck with
    | some rv => .returned call (answer rv)
    | none => .entered call

/-- A step of a defined state. -/
def definedStep
    (host : Host) (world : World) : Action → Option World
  | .enter thread call =>
      if (world.threads thread).free then
        some
          { world with
            threads := Function.update world.threads thread
              (enterCall world.state call) }
      else
        none
  | .run thread answers =>
      match world.threads thread with
      | .entered call =>
          some (world.after thread call
            (lockedBody host world.state answers call))
      | _ => none
  | .wake thread =>
      match world.threads thread with
      | .waiting search =>
          some (world.after thread (Search.call search)
            (continueSearch host world.state search))
      | .finalizing =>
          some (world.after thread (.cFinalize false)
            (continueFinalize world.state))
      | _ => none
  | .acquired thread result =>
      match world.threads thread with
      | .acquiring acquisition =>
          some (world.after thread (Search.call acquisition.search)
            (reply (afterAcquire host world.state acquisition result)))
      | _ => none
  | .environment event =>
      some { world with state := event.apply world.state }

/-- One action, as long as the behaviour is defined. -/
def step (host : Host) (world : World) (action : Action) : Option World :=
  if world.state.undefined then none else definedStep host world action

/-- The module in a process, from before the first `C_Initialize`. -/
def machine (host : Host) : System World Action where
  initial := fun world => world = .start
  step := step host

end PortalCertificate.Module.Machine
