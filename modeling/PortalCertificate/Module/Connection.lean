import PortalCertificate.Module.PortalClient

/-!
# The clients of a process on one connection

`C_Initialize` makes a portal client and `C_Finalize` frees it.  All of them
share the connection to the session bus, with its unique name, so signals of
the portal that were meant for one client may reach the next.

The frontend is what the portal specification says of it: the paths of a
request and of a session are made of the name of the sender and the token.
It may answer a request, and invalidate or close a session, at any time
after the request was sent, and its signals may take any time.

A signal carries the request it was emitted for.  Nothing in the process
looks at that; it is there to be compared with the request that accepts the
signal.  A session stands under the request that created it.
-/

namespace PortalCertificate.Module.Connection

open PortalCertificate.Library.Transition
open PortalCertificate.Module.PortalClient
open PortalCertificate.Module.Requests

/-! ## Tokens -/

/-- The calls of `request_token`. -/
inductive TokenKind where
  | createSession
  | session
  | acquire
  | operation
  deriving DecidableEq, Repr

/-- The `prefix` of the call. -/
def TokenKind.label : TokenKind → String
  | .createSession => "pkcs11c"
  | .session => "pkcs11s"
  | .acquire => "pkcs11a"
  | .operation => "pkcs11o"

/-- A token with the client that has taken it. -/
structure Token where
  client : Nat
  kind : TokenKind
  counter : Int32
  deriving DecidableEq, Repr

/-- The token as it stands in a request. -/
def Token.text (bus : Bus) (token : Token) : String :=
  requestToken bus token.kind.label token.counter

/-- The token that a step of the client takes. -/
def takes (world : World) : Action → Option TokenKind
  | .advance thread _ _ =>
      match world.threads thread with
      | .creatingSession _ _ => some .createSession
      | .namingSession _ _ _ => some .session
      | .acquiring _ _ _ => some .acquire
      | .operating _ => some .operation
      | _ => none
  | _ => none

/-! ## The frontend -/

/-- The path of a request or session, as the specification makes it. -/
def handlePath (kind : String) (sender : BusName) (token : String) :
    ObjectPath :=
  "/org/freedesktop/portal/desktop/" ++ kind ++ "/" ++ senderOf sender ++
    "/" ++ token

/-- The path under which the frontend knows the token. -/
def frontendPath (bus : Bus) (kind token : String) : Option ObjectPath :=
  bus.uniqueName.map fun sender => handlePath kind sender token

/-- The path under which the frontend exports a request. -/
def frontendRequest (bus : Bus) (request : PortalRequest) :
    Option ObjectPath :=
  frontendPath bus "request" request.parameters.handleToken

/-- Only `CreateSession` brings a token for a session. -/
def frontendSession (bus : Bus) (request : PortalRequest) :
    Option ObjectPath :=
  request.parameters.sessionHandleToken.bind (frontendPath bus "session")

/-- A request of the process: its client, and its number there. -/
structure Origin where
  client : Nat
  request : Nat
  deriving DecidableEq, Repr

/-- A signal of the portal. -/
inductive Signal where
  | response
      (sender : BusName) (path : ObjectPath) (response : UInt32)
      (results : Results)
  | grantInvalidated (session : ObjectPath)
  | sessionClosed (path : ObjectPath)
  deriving DecidableEq, Repr

/-- A signal on its way, and the request or the session it is about. -/
structure Message where
  origin : Origin
  signal : Signal
  deriving DecidableEq, Repr

/-- The frontend emits the signal for the request, which it was sent. -/
def emits (bus : Bus) (request : PortalRequest) : Signal → Bool
  | .response sender path _ results =>
      request.sent && request.owner = some sender &&
        frontendRequest bus request = some path &&
        (results.sessionHandle.isNone ||
          results.sessionHandle = frontendSession bus request)
  | .grantInvalidated session | .sessionClosed session =>
      request.sent && frontendSession bus request = some session

/-! ## The process -/

/-- A session that a client has noted as gone. -/
structure Notice where
  client : Nat
  path : ObjectPath
  session : Origin
  deriving DecidableEq, Repr

/--
The clients by their number, with the one in use, and the signals on their
way.  The last three fields record which tokens were taken, which Response
was accepted by which request, and what was noted of sessions.
-/
structure Process where
  clients : Nat → World
  created : Nat
  current : Option Nat
  flying : List Message
  tokens : List Token
  accepted : List (Origin × Origin)
  noted : List Notice

/-- A process without a client. -/
def Process.start : Process where
  clients := fun _ => .start
  created := 0
  current := none
  flying := []
  tokens := []
  accepted := []
  noted := []

/-- The request that a message belongs to. -/
def Process.request (process : Process) (origin : Origin) :
    Option PortalRequest :=
  (process.clients origin.client).requests origin.request

/-- The requests whose subscription matches a Response. -/
def receivers
    (world : World) (sender : BusName) (path : ObjectPath) : List Nat :=
  world.live.filter fun id =>
    (world.requests id).any fun request =>
      request.owner = some sender && request.listens path &&
        !request.completed

/-- What a signal makes the thread of the client do. -/
def deliveries (world : World) : Signal → List Action
  | .response sender path response results =>
      (receivers world sender path).map fun id =>
        .response id path response results
  | .grantInvalidated session | .sessionClosed session =>
      -- `begin_drain` has ended these subscriptions.
      if world.draining then [] else [.invalidated session]

/-- The requests of a client that take a signal for their Response. -/
def acceptances
    (world : World) (client : Nat) (message : Message) :
    List (Origin × Origin) :=
  match message.signal with
  | .response sender path _ _ =>
      (receivers world sender path).map fun id =>
        (message.origin, ⟨client, id⟩)
  | .grantInvalidated _ | .sessionClosed _ => []

/-- What a client notes of sessions when it gets a signal. -/
def notices
    (world : World) (client : Nat) (message : Message) : List Notice :=
  match message.signal with
  | .response _ _ _ _ => []
  | .grantInvalidated session | .sessionClosed session =>
      if world.draining then
        []
      else
        [⟨client, session, message.origin⟩]

/-- Signals and replies come from the frontend only. -/
def permits (bus : Bus) (world : World) : Action → Bool
  | .response _ _ _ _ | .invalidated _ => false
  | .methodReturned id (.ok path) =>
      (world.requests id).any fun request =>
        frontendRequest bus request = some path
  | _ => true

/-- A client is made or freed, does something, or a signal is sent or comes
in. -/
inductive Move where
  /-- `portal_client_new`. -/
  | clientNew
  /-- The end of `portal_client_free`. -/
  | clientFree
  | client (action : Action)
  | emit (message : Message)
  | deliver (message : Message)

/-- The state of a client is replaced. -/
def Process.update
    (process : Process) (client : Nat) (world : World) : Process :=
  { process with
    clients := Function.update process.clients client world }

/-- The token that a move takes. -/
def Process.takes (process : Process) : Move → Option Token
  | .client action =>
      process.current.bind fun client =>
        (Connection.takes (process.clients client) action).map fun kind =>
          ⟨client, kind, (process.clients client).counter⟩
  | _ => none

/-- One move, where it may come. -/
def step (bus : Bus) (process : Process) : Move → Option Process
  | .clientNew =>
      match process.current with
      | none =>
          some
            { process.update process.created .start with
              created := process.created + 1
              current := some process.created }
      | some _ => none
  | .clientFree =>
      match process.current with
      | none => none
      | some client =>
          if (process.clients client).draining then
            some { process with current := none }
          else
            none
  | .client action =>
      match process.current with
      | none => none
      | some client =>
          if permits bus (process.clients client) action then
            ((machine bus).step (process.clients client) action).map
              fun world =>
                { process.update client world with
                  tokens :=
                    (process.takes (.client action)).toList ++
                      process.tokens }
          else
            none
  | .emit message =>
      if (process.request message.origin).any fun request =>
          emits bus request message.signal then
        some { process with flying := message :: process.flying }
      else
        none
  | .deliver message =>
      if message ∈ process.flying then
        let rest := process.flying.erase message
        match process.current with
        | none => some { process with flying := rest }
        | some client =>
            let world := process.clients client
            ((machine bus).run world
              (deliveries world message.signal)).map fun next =>
                { process.update client next with
                  flying := rest
                  accepted :=
                    acceptances world client message ++ process.accepted
                  noted := notices world client message ++ process.noted }
      else
        none

/-- A process with one client at a time, and the signals on their way to it. -/
def connection (bus : Bus) : System Process Move where
  initial process := process = .start
  step := step bus

end PortalCertificate.Module.Connection
