import PortalCertificate.Core.Interactions

/-!
# PIN prompts

`pin.c`: one prompt is active in the process, and the others wait in a
queue.  An answer that has to wait for a worker is deferred, and the first
deferred outcome is kept.

To answer the active prompt starts the next one, which may be answered at
once and start the one after it; all of this is before the first prompt's
`done` runs.  `startNext` follows that recursion along the queue.  The
`done` and `abandon` callbacks of the backend start no login, so they are
events here.
-/

namespace PortalCertificate.Core.Pin

open PortalCertificate.Core.Coordinator
open PortalCertificate.Core.Interactions
open PortalCertificate.Core.Secret

/-- How many attempts a prompt makes. -/
def pinMaxAttempts : Nat := 3

/-! ## Views -/

/-- What the dialog of a prompt is shown. -/
def pinView
    (world : World) (prompt : PinPrompt) (status : XccPinStatus) :
    XccPinView :=
  let flags := (world.tokens prompt.token).flags
  { contextSpecific := prompt.contextSpecific
    protectedPath := prompt.protectedPath
    busy := prompt.busy
    countLow := flags.pinCountLow
    finalTry := flags.pinFinalTry
    locked := flags.pinLocked
    status := pinStatusText status
    statusCode := status }

/-- The dialog is shown the prompt again, with a status. -/
def pinUpdate (world : World) (id : Nat) (status : XccPinStatus) : World :=
  Interactions.message world (.pin id)
    (.pinUpdate (pinView world (world.prompts id) status))

/-- The prompt is busy or not, and its dialog is told so. -/
def setBusy (world : World) (id : Nat) (busy : Bool) : World :=
  pinUpdate (world.setPrompt id { world.prompts id with busy }) id .none

/-! ## Answers -/

/-- The prompt keeps an outcome until its worker has returned. -/
def deferring
    (prompt : PinPrompt) (outcome : CertificatePinOutcome) : PinPrompt :=
  { prompt with cancelDeferred := true, deferredOutcome := outcome }

/-- `certificate_pin_prompt_answer` while a worker is in flight. -/
def defer
    (world : World) (id : Nat) (outcome : CertificatePinOutcome) : World :=
  let prompt := world.prompts id
  if prompt.cancelDeferred then
    world
  else
    let deferred := world.setPrompt id (deferring prompt outcome)
    if prompt.refreshInFlight then deferred else hide deferred id

/-- The prompt has no sources, and is finished. -/
def stopping (prompt : PinPrompt) : PinPrompt :=
  { prompt with
    finished := true, connected := false, cancelIdle := false
    loginTimeout := false }

/-- The sources and the page of a prompt that is about to be answered. -/
def retire (world : World) (id : Nat) : World :=
  let prompt := world.prompts id
  let stopped := world.setPrompt id (stopping prompt)
  let stopped :=
    if prompt.cancelIdle then promptUnref stopped id else stopped
  let cleared := stopped.freeSecret prompt.secret
  cleared.setPrompt id { cleared.prompts id with secret := none }

/-- `certificate_pin_prompt_answer` up to where the provider has closed. -/
def shut (world : World) (id : Nat) : World :=
  close (retire world id) (.pin id)

/-- `certificate_pin_prompt_answer` from where it calls `done`. -/
def callDone
    (world : World) (id : Nat) (outcome : CertificatePinOutcome)
    (abandon : Bool) : World :=
  let answered := world.emit (.done id outcome)
  let undone :=
    if abandon then answered.emit (.abandoned id) else answered
  promptUnref undone id

/-- Whether the answer has to call `abandon`. -/
def mustAbandon
    (prompt : PinPrompt) (outcome : CertificatePinOutcome) : Bool :=
  prompt.loginSucceeded && outcome ≠ .ok && prompt.abandon

/--
`certificate_pin_prompt_answer`, where `next` starts the next prompt in the
queue, if there is one.
-/
def answerThen
    (next : World → World) (world : World) (id : Nat)
    (outcome : CertificatePinOutcome) : World :=
  let prompt := world.prompts id
  if prompt.finished then
    world
  else if prompt.refreshInFlight || prompt.loginInFlight then
    defer world id outcome
  else
    let closed := shut world id
    let left :=
      if closed.pinActive = some id then
        next { closed with pinActive := none }
      else
        { closed with pinQueue := closed.pinQueue.erase id }
    callDone left id outcome (mustAbandon prompt outcome)

/-- `pin_prompt_show`. -/
def showThen (next : World → World) (world : World) (id : Nat) : World :=
  let prompt := world.prompts id
  if (world.tokens prompt.token).flags.pinLocked then
    answerThen next world id .locked
  else
    Interactions.message world (.pin id) (.pinShow (pinView world prompt .none))

/-- The prompt becomes the active one. -/
def activate (world : World) (id : Nat) : World :=
  { world with pinActive := some id }.emit (.started id)

/-- A worker is started that refreshes the token's flags. -/
def startRefresh (world : World) (id : Nat) : World :=
  let prompt := world.prompts id
  (world.setPrompt id
    { prompt with
      refreshInFlight := true, worker := .refreshing
      refs := prompt.refs + 1 }).emit (.refreshStarted id)

/-- `pin_prompt_start`. -/
def startThen (next : World → World) (world : World) (id : Nat) : World :=
  let started := activate world id
  let prompt := started.prompts id
  if started.isCancelled prompt.cancellable then
    answerThen next started id .cancelled
  else if prompt.refresh then
    startRefresh started id
  else
    showThen next started id

/-- What becomes of the queue when no prompt is active. -/
def startNext : List Nat → World → World
  | [], world => world
  | head :: rest, world =>
      startThen (startNext rest) { world with pinQueue := rest } head

/-- `certificate_pin_prompt_answer`. -/
def answer
    (world : World) (id : Nat) (outcome : CertificatePinOutcome) : World :=
  answerThen (startNext world.pinQueue) world id outcome

/-- `pin_prompt_show`. -/
def promptShow (world : World) (id : Nat) : World :=
  showThen (startNext world.pinQueue) world id

/-- `pin_prompt_start`. -/
def promptStart (world : World) (id : Nat) : World :=
  startThen (startNext world.pinQueue) world id

/-! ## Attempts -/

/-- The page goes to the worker. -/
def attempting (prompt : PinPrompt) : PinPrompt :=
  { prompt with
    secret := none, attempts := prompt.attempts + 1, loginInFlight := true
    refs := prompt.refs + 1, worker := .loggingIn prompt.secret }

/-- `certificate_pin_prompt_submit` from where it starts the worker. -/
def attempt (world : World) (id : Nat) : World :=
  let prompt := world.prompts id
  let busy := setBusy (world.setPrompt id (attempting prompt)) id true
  let timed := busy.setPrompt id
    { busy.prompts id with
      loginTimeout :=
        prompt.loginTimeout || 0 < world.pinLoginTimeoutSeconds }
  timed.emit (.attempted id
    (if prompt.protectedPath then none else xccSecretView prompt.secret))

/-- A protected path is about to be used for its last try. -/
def askFinalTry (world : World) (id : Nat) : World :=
  warning
    (world.setPrompt id { world.prompts id with warningPending := true }) id
    certificatePinPromptFinalTryWarning

/-- `certificate_pin_prompt_submit`. -/
def submit (world : World) (id : Nat) : World :=
  let prompt := world.prompts id
  if prompt.busy || prompt.finished || prompt.loginInFlight then
    world
  else if prompt.protectedPath &&
      (world.tokens prompt.token).flags.pinFinalTry &&
      !prompt.protectedPathConfirmed then
    if prompt.warningPending then
      world
    else
      askFinalTry world id
  else if !prompt.protectedPath && xccSecretLength prompt.secret = 0 then
    pinUpdate world id .required
  else
    attempt world id

/-- `certificate_pin_prompt_warning_reply`. -/
def warningReply (world : World) (id : Nat) (accepted : Bool) : World :=
  let prompt := world.prompts id
  if !prompt.protectedPath || prompt.finished || prompt.loginInFlight ||
      !prompt.warningPending then
    world
  else if accepted then
    submit (world.setPrompt id
      { prompt with
        warningPending := false, protectedPathConfirmed := true }) id
  else
    answer (world.setPrompt id { prompt with warningPending := false }) id
      .cancelled

/-- `certificate_pin_prompt_hold`. -/
def hold
    (world : World) (id : Nat) (secret : Option XccSecret) (length : Nat) :
    Bool × World :=
  let prompt := world.prompts id
  if prompt.finished || prompt.loginInFlight then
    (false, world.freeSecret secret)
  else
    let cleared := (world.freeSecret prompt.secret).setPrompt id
      { prompt with secret := none }
    match secret with
    | none => (false, pinUpdate cleared id .memoryUnavailable)
    | some secret =>
        let (accepted, page) := xccSecretSetLength secret length
        if accepted then
          (true, (cleared.setPrompt id
            { cleared.prompts id with secret := some page }).emit
              (.held id secret.serial))
        else
          (false, pinUpdate (cleared.freeSecret (some page)) id
            (if length = 0 then .required else .tooLong))

/-! ## Workers -/

/-- `refresh_thread` has written the flags of the token. -/
def refreshReturned
    (world : World) (id : Nat) (flags : TokenFlags) : World :=
  let prompt := world.prompts id
  let token := world.tokens prompt.token
  ({ world with
    tokens := Function.update world.tokens prompt.token
      { token with flags } }.setPrompt id
        { prompt with worker := .refreshed }).emit (.workerReturned id)

/-- The end of a refresh; a deferred answer is deferred no longer. -/
def endRefresh (world : World) (id : Nat) : World :=
  let prompt := world.prompts id
  world.setPrompt id
    { prompt with
      refreshInFlight := false, cancelDeferred := false, worker := .none
      tasks := prompt.tasks + 1 }

/-- `on_refresh_done`. -/
def onRefreshDone (world : World) (id : Nat) : World :=
  let prompt := world.prompts id
  let ended := endRefresh world id
  if prompt.cancelDeferred then
    answer ended id prompt.deferredOutcome
  else if ended.isCancelled prompt.cancellable then
    answer ended id .cancelled
  else if prompt.finished then
    ended
  else
    promptShow ended id

/-- Whether `login_thread` refreshes the token after C_Login. -/
def refreshesAfter (prompt : PinPrompt) (result : LoginResult) : Bool :=
  prompt.refresh &&
    (result = .ok () || result = .error (some .pinIncorrect))

/-- `login_thread` up to where it has freed the page. -/
def loginReturned
    (world : World) (id : Nat) (secret : Option XccSecret)
    (result : LoginResult) : World :=
  let prompt := world.prompts id
  let told := (world.freeSecret secret).emit (.loginReturned id result)
  if refreshesAfter prompt result then
    told.setPrompt id { prompt with worker := .loginRefreshing result }
  else
    (told.setPrompt id { prompt with worker := .loggedIn result }).emit
      (.workerReturned id)

/-- `login_thread` has written the flags of the token. -/
def loginRefreshed
    (world : World) (id : Nat) (result : LoginResult)
    (flags : TokenFlags) : World :=
  let prompt := world.prompts id
  let token := world.tokens prompt.token
  ({ world with
    tokens := Function.update world.tokens prompt.token
      { token with flags } }.setPrompt id
        { prompt with worker := .loggedIn result }).emit
          (.workerReturned id)

/-- The entry is cleared before the user may try again. -/
def retry (world : World) (id : Nat) : World :=
  let prompt := world.prompts id
  let cleared := (world.freeSecret prompt.secret).setPrompt id
    { prompt with secret := none }
  pinUpdate cleared id .incorrect

/-- What `on_login_done` does with a login that has failed. -/
def loginFailed
    (world : World) (id : Nat)
    (error : Option CertificatePkcs11ErrorCode) : World :=
  let prompt := world.prompts id
  let idle := setBusy world id false
  match error with
  | some .cancelled => answer idle id .cancelled
  | some .pinIncorrect =>
      if (world.tokens prompt.token).flags.pinLocked then
        answer idle id .locked
      else if prompt.protectedPath then
        answer idle id .incorrect
      else if pinMaxAttempts ≤ prompt.attempts then
        answer idle id .incorrect
      else
        retry idle id
  | some .pinLocked => answer idle id .locked
  | some .tokenRemoved => answer idle id .tokenRemoved
  | _ => answer idle id .deviceError

/-- The end of a login; a deferred answer is deferred no longer. -/
def endLogin (world : World) (id : Nat) (result : LoginResult) : World :=
  let prompt := world.prompts id
  world.setPrompt id
    { prompt with
      loginInFlight := false, cancelDeferred := false, worker := .none
      loginTimeout := false, tasks := prompt.tasks + 1
      loginSucceeded := prompt.loginSucceeded || result = .ok () }

/-- `on_login_done`. -/
def onLoginDone (world : World) (id : Nat) (result : LoginResult) : World :=
  let prompt := world.prompts id
  let ended := endLogin world id result
  if prompt.cancelDeferred then
    answer ended id prompt.deferredOutcome
  else if prompt.finished then
    ended
  else
    match result with
    | .ok () => answer ended id .ok
    | .error error => loginFailed ended id error

/-! ## Sources -/

/-- `on_login_timeout`. -/
def onLoginTimeout (world : World) (id : Nat) : World :=
  let prompt := world.prompts id
  let fired := world.setPrompt id { prompt with loginTimeout := false }
  if prompt.loginInFlight then answer fired id .timedOut else fired

/-- `on_cancelled_idle`, and the end of its source. -/
def onCancelledIdle (world : World) (id : Nat) : World :=
  let prompt := world.prompts id
  let running := world.setPrompt id { prompt with cancelIdle := false }
  promptUnref (answer running id .cancelled) id

/-- `on_cancelled`. -/
def onCancelled (prompt : PinPrompt) : PinPrompt :=
  if prompt.cancelIdle then
    prompt
  else
    { prompt with cancelIdle := true, refs := prompt.refs + 1 }

/-! ## Logins -/

/-- The new prompt; a cancelled cancellable calls back at once. -/
def newPrompt (world : World) (login : PinLogin) : World :=
  let id := world.nextPrompt
  let token := world.tokens login.token
  let prompt := PinPrompt.new login token.protectedAuthenticationPath
  let connected :=
    if world.isCancelled login.cancellable then
      onCancelled prompt
    else
      { prompt with connected := login.cancellable.isSome }
  ({ world with nextPrompt := id + 1 }.setPrompt id connected).emit
    (.requested id)

/-- There is no provider, or no display: no prompt is made. -/
def refuse (world : World) (login : PinLogin) : World :=
  let id := world.nextPrompt
  let refused :=
    ({ world with nextPrompt := id + 1 }.emit (.requested id)).emit
      (.done id .noDisplay)
  if login.loginDataFree then refused.emit (.loginDataFreed id) else refused

/-- `certificate_pin_login_full_kind`. -/
def pinLoginFullKind (world : World) (login : PinLogin) : World :=
  let id := world.nextPrompt
  if world.pinAvailable then
    let made := newPrompt world login
    if made.pinActive.isSome then
      { made with pinQueue := made.pinQueue ++ [id] }
    else
      promptStart made id
  else
    refuse world login

end PortalCertificate.Core.Pin
