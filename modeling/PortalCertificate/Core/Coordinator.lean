import PortalCertificate.Core.Secret
import PortalCertificate.Library.Transition
import PortalCertificate.Tokens.Discovery

/-!
# What the coordinator keeps for its user interface

The coordinator is the thread that owns PIN prompts, choosers and the
interactions through which a UI sees them.  Its worker threads run C_Login
and the refresh of a token's flags, and the UI runs elsewhere: both reach the
coordinator only through its main loop, and the coordinator reaches the UI
only by posted messages.

Prompts, choosers and tokens are numbered in the order of their creation.
An interaction identifier counts in 64 bits in the code and without a bound
here.
-/

namespace PortalCertificate.Core.Coordinator

open PortalCertificate.Core.Secret
open PortalCertificate.Library.Der (Octets)
open PortalCertificate.Tokens.Discovery

/-! ## Codes -/

/-- `CertificatePinOutcome`. -/
inductive CertificatePinOutcome where
  | ok
  | incorrect
  | locked
  | cancelled
  | deviceError
  | tokenRemoved
  | noDisplay
  | timedOut
  deriving DecidableEq, Repr

/-- `CertificatePkcs11ErrorCode`. -/
inductive CertificatePkcs11ErrorCode where
  | failed
  | pinIncorrect
  | pinLocked
  | tokenRemoved
  | cancelled
  | notSupported
  | noPrivateKey
  | loginTimeout
  | noDisplay
  | enumerationLimit
  deriving DecidableEq, Repr

/-- `XccErrorCode`. -/
inductive XccErrorCode where
  | ok
  | cancelled
  | ownerGone
  | backendGone
  | noSuchSession
  | invalidRequest
  | invalidPurpose
  | invalidFilter
  | device
  | interactionRequired
  | noDisplay
  | pinLocked
  | tokenRemoved
  | pinIncorrect
  | loginTimeout
  | notSupported
  deriving DecidableEq, Repr

/-- What a login function returns; `none` is an error of another domain. -/
abbrev LoginResult := Except (Option CertificatePkcs11ErrorCode) Unit

/-- `XccPinStatus`. -/
inductive XccPinStatus where
  | none
  | incorrect
  | required
  | tooLong
  | memoryUnavailable
  deriving DecidableEq, Repr

/-- The text of a status. -/
def pinStatusText : XccPinStatus → Option String
  | .none => Option.none
  | .incorrect => some "That PIN was not accepted. Try again."
  | .required => some "Enter the PIN for this token."
  | .tooLong => some "PIN exceeds the supported length."
  | .memoryUnavailable => some "Could not allocate memory for the PIN."

/-- The warning before the last try on a reader with a keypad. -/
def certificatePinPromptFinalTryWarning : String :=
  "Token will lock if this last attempt fails. " ++
    "Continue to enter the PIN on the reader, or Cancel."

/-! ## Messages to the UI -/

/-- `XccPinView`, without the texts of the request. -/
structure XccPinView where
  contextSpecific : Bool
  protectedPath : Bool
  busy : Bool
  countLow : Bool
  finalTry : Bool
  locked : Bool
  status : Option String
  statusCode : XccPinStatus
  deriving DecidableEq, Repr

/-- A row of a chooser; the view shows the candidate under the number. -/
structure Choice where
  id : Nat
  candidate : CertificateCandidate
  deriving DecidableEq, Repr

/-- `XccChooserView`. -/
structure XccChooserView where
  revision : Nat
  candidates : List Choice
  tokensPresent : Bool
  tokensReading : Bool
  deriving DecidableEq, Repr

/-- A call of the interface's functions. -/
inductive UiCall where
  | chooserShow (view : XccChooserView)
  | chooserUpdate (view : XccChooserView)
  | pinShow (view : XccPinView)
  | pinUpdate (view : XccPinView)
  | warning (warningId : Nat) (message : String)
  | hide
  | close
  deriving DecidableEq, Repr

/-- A call that has been posted for an interaction. -/
structure Message where
  id : Nat
  call : UiCall
  deriving DecidableEq, Repr

/-- What an interaction stands for. -/
inductive Subject where
  | chooser (chooser : Nat)
  | pin (prompt : Nat)
  deriving DecidableEq, Repr

/-- A chooser or a prompt on the screen, under the number that its messages
have. -/
structure Interaction where
  id : Nat
  subject : Subject
  shown : Bool
  ready : Bool
  warningId : Nat
  deriving DecidableEq, Repr

/-! ## Prompts -/

/-- What a refresh has found about the PIN of a token. -/
structure TokenFlags where
  pinCountLow : Bool
  pinFinalTry : Bool
  pinLocked : Bool
  deriving DecidableEq, Repr

/-- A token object; workers write its flags. -/
structure PinToken where
  protectedAuthenticationPath : Bool
  flags : TokenFlags
  deriving DecidableEq, Repr

/-- The worker of a prompt; a refresh is also part of some logins. -/
inductive Worker where
  | none
  | refreshing
  | refreshed
  | loggingIn (secret : Option XccSecret)
  | loginRefreshing (result : LoginResult)
  | loggedIn (result : LoginResult)
  deriving DecidableEq, Repr

/-- The arguments of a login that say what it may call. -/
structure PinLogin where
  token : Nat
  refresh : Bool
  abandon : Bool
  loginDataFree : Bool
  cancellable : Option Nat
  contextSpecific : Bool
  deriving DecidableEq, Repr

/--
`struct _PinPrompt`.  `connected` stands for `cancel_id`, `cancelIdle` and
`loginTimeout` for the sources of these names, and `tasks` counts the
finished workers that have not released the prompt.
-/
structure PinPrompt extends PinLogin where
  refs : Nat
  protectedPath : Bool
  connected : Bool
  finished : Bool
  busy : Bool
  refreshInFlight : Bool
  loginInFlight : Bool
  cancelDeferred : Bool
  deferredOutcome : CertificatePinOutcome
  loginSucceeded : Bool
  secret : Option XccSecret
  cancelIdle : Bool
  loginTimeout : Bool
  attempts : Nat
  protectedPathConfirmed : Bool
  warningPending : Bool
  worker : Worker
  tasks : Nat
  deriving DecidableEq, Repr

/-- The prompt of a login that has just been asked for. -/
def PinPrompt.new (login : PinLogin) (protectedPath : Bool) : PinPrompt where
  toPinLogin := login
  refs := 1
  protectedPath := protectedPath
  connected := false
  finished := false
  busy := false
  refreshInFlight := false
  loginInFlight := false
  cancelDeferred := false
  deferredOutcome := .ok
  loginSucceeded := false
  secret := none
  cancelIdle := false
  loginTimeout := false
  attempts := 0
  protectedPathConfirmed := false
  warningPending := false
  worker := .none
  tasks := 0

/-- No prompt: for logins that have not been asked for or were refused. -/
def PinPrompt.absent : PinPrompt :=
  { PinPrompt.new ⟨0, false, false, false, none, false⟩ false with
    refs := 0
    finished := true }

/-! ## Choosers -/

/-- `struct CertificateChooser`; `finished` choosers have left the table. -/
structure Chooser where
  choices : List Choice
  nextCandidateId : Nat
  revision : Nat
  tokensPresent : Bool
  tokensReading : Bool
  cancellable : Option Nat
  connected : Bool
  cancelIdle : Bool
  finished : Bool
  error : XccErrorCode
  deriving DecidableEq, Repr

/-- A chooser that does not exist. -/
def Chooser.absent : Chooser where
  choices := []
  nextCandidateId := 0
  revision := 0
  tokensPresent := false
  tokensReading := false
  cancellable := none
  connected := false
  cancelIdle := false
  finished := true
  error := .ok

/-! ## Replies of the UI -/

/-- What a reply is about. -/
inductive ReplyKind where
  | choose (revision candidate : Nat)
  | submit (secret : Option XccSecret)
  | warning (warning : Nat) (accepted : Bool)
  | cancel
  | failed (error : XccErrorCode)
  | ready
  deriving DecidableEq, Repr

/-- A reply of the interface, to the interaction of this number. -/
structure Reply where
  id : Nat
  kind : ReplyKind
  deriving DecidableEq, Repr

/-! ## The coordinator -/

/-- What happens to the prompts and the secrets. -/
inductive Event where
  /-- A login is asked for. -/
  | requested (prompt : Nat)
  | started (prompt : Nat)
  | refreshStarted (prompt : Nat)
  /-- A worker is started with what it gives to C_Login. -/
  | attempted (prompt : Nat) (pin : Option Octets)
  | loginReturned (prompt : Nat) (result : LoginResult)
  | workerReturned (prompt : Nat)
  | done (prompt : Nat) (outcome : CertificatePinOutcome)
  | abandoned (prompt : Nat)
  | loginDataFreed (prompt : Nat)
  /-- The UI hands over a page. -/
  | submitted (secret : Nat)
  | held (prompt secret : Nat)
  | secretFreed (secret : Nat)
  | replied (reply : Reply)
  | chooserDone
      (chooser : Nat) (chosen : Option CertificateCandidate)
      (error : XccErrorCode)
  deriving DecidableEq

/-- The coordinator, with its prompts, choosers and interactions, and the
messages on their way. -/
structure World where
  /-- Whether a prompt or a chooser has a provider and the display it needs. -/
  pinAvailable : Bool
  chooserAvailable : Bool
  pinLoginTimeoutSeconds : Nat
  tokens : Nat → PinToken
  cancelled : Nat → Bool
  prompts : Nat → PinPrompt
  nextPrompt : Nat
  pinQueue : List Nat
  pinActive : Option Nat
  choosers : Nat → Chooser
  nextChooser : Nat
  interactions : List Interaction
  nextUiId : Nat
  pending : List Message
  delivered : List Message
  stopping : Bool
  shutdownPosted : Bool
  inbox : List Reply
  nextSecret : Nat
  trace : List Event

/-- A coordinator in which nothing has happened. -/
def World.start
    (pinAvailable chooserAvailable : Bool) (timeout : Nat)
    (tokens : Nat → PinToken) : World where
  pinAvailable := pinAvailable
  chooserAvailable := chooserAvailable
  pinLoginTimeoutSeconds := timeout
  tokens := tokens
  cancelled := fun _ => false
  prompts := fun _ => .absent
  nextPrompt := 0
  pinQueue := []
  pinActive := none
  choosers := fun _ => .absent
  nextChooser := 0
  interactions := []
  nextUiId := 0
  pending := []
  delivered := []
  stopping := false
  shutdownPosted := false
  inbox := []
  nextSecret := 0
  trace := []

namespace World

variable (world : World)

/-- The event is added to the trace. -/
def emit (event : Event) : World :=
  { world with trace := event :: world.trace }

/-- The record of a prompt is replaced. -/
def setPrompt (id : Nat) (prompt : PinPrompt) : World :=
  { world with prompts := Function.update world.prompts id prompt }

@[simp]
theorem setPrompt_self (id : Nat) (prompt : PinPrompt) :
    (world.setPrompt id prompt).prompts id = prompt :=
  Function.update_self ..

/-- The record of a chooser is replaced. -/
def setChooser (id : Nat) (chooser : Chooser) : World :=
  { world with choosers := Function.update world.choosers id chooser }

/-- `g_cancellable_is_cancelled`. -/
def isCancelled (cancellable : Option Nat) : Bool :=
  cancellable.any world.cancelled

/-- The messages posted so far, oldest first. -/
def posted : List Message := world.delivered ++ world.pending

/-- `xcc_secret_free`. -/
def freeSecret (secret : Option XccSecret) : World :=
  match secret with
  | none => world
  | some secret => world.emit (.secretFreed secret.serial)

end World

end PortalCertificate.Core.Coordinator
