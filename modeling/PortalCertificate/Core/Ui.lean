import PortalCertificate.Core.Chooser
import PortalCertificate.Core.Pin

/-!
# The coordinator and its UI as a transition system

An action is one dispatch of the coordinator's main loop, or what a worker,
the UI or the desktop does without it.  The main loop takes what is ready in
any order, and the UI may send any reply at any time.
-/

namespace PortalCertificate.Core.Ui

open PortalCertificate.Core.Chooser
open PortalCertificate.Core.Coordinator
open PortalCertificate.Core.Interactions
open PortalCertificate.Core.Pin
open PortalCertificate.Core.Secret
open PortalCertificate.Library.Transition
open PortalCertificate.Tokens.Discovery

/-! ## Replies -/

/-- The secret that a reply brings. -/
def replyPage (reply : Reply) : Option XccSecret :=
  match reply.kind with
  | .submit secret => secret
  | _ => none

/-- A PIN that has been submitted to a prompt. -/
def submitReply
    (world : World) (found : Interaction) (id : Nat)
    (secret : Option XccSecret) : World :=
  let prompt := world.prompts id
  if !prompt.finished && !prompt.cancelDeferred && !prompt.busy &&
      !prompt.loginInFlight && found.ready then
    if prompt.protectedPath then
      submit (world.freeSecret secret) id
    else
      match secret with
      | none => world
      | some page =>
          let (held, world) := hold world id (some page) page.length
          if held then submit world id else world
  else
    world.freeSecret secret

/-- A prompt that is on screen. -/
def readyReply (world : World) (found : Interaction) (id : Nat) : World :=
  let prompt := world.prompts id
  if !found.ready && !prompt.finished &&
      !world.isCancelled prompt.cancellable then
    let ready := setInteraction world { found with ready := true }
    if prompt.protectedPath then submit ready id else ready
  else
    world

/-- A reply to the dialog of a prompt. -/
def promptReply
    (world : World) (found : Interaction) (id : Nat) : ReplyKind → World
  | .choose _ _ => world
  | .submit secret => submitReply world found id secret
  | .warning warning accepted =>
      if warning = found.warningId && (world.prompts id).warningPending then
        warningReply world id accepted
      else
        world
  | .ready => readyReply world found id
  | .cancel => answer world id .cancelled
  | .failed error =>
      answer world id
        (if error = .noDisplay then .noDisplay else .deviceError)

/-- A reply to a chooser. -/
def chooserReply (world : World) (id : Nat) : ReplyKind → World
  | .choose revision candidate => chooserChoose world id revision candidate
  | .submit secret => world.freeSecret secret
  | .cancel => chooserCancel world id
  | .failed error =>
      chooserFail world id (if error = .ok then .device else error)
  | .warning _ _ => world
  | .ready => world

/-- The interaction that a reply names. -/
def named (world : World) (reply : Reply) : Option Interaction :=
  world.interactions.find? fun interaction => interaction.id = reply.id

/-- `reply`. -/
def reply (world : World) (reply : Reply) : World :=
  match named world reply with
  | none => world.freeSecret (replyPage reply)
  | some found =>
      match found.subject with
      | .pin id => promptReply world found id reply.kind
      | .chooser id => chooserReply world id reply.kind

/-- A page is new when it is handed over. -/
def Reply.numbered (reply : Reply) (serial : Nat) : Reply :=
  match reply.kind with
  | .submit (some secret) =>
      { reply with kind := .submit (some { secret with serial }) }
  | _ => reply

/-- `xcc_choose`, `xcc_pin_submit` and the others, with `send_reply`. -/
def sendReply (world : World) (given : Reply) : World :=
  let reply := Reply.numbered given world.nextSecret
  let handed :=
    match replyPage reply with
    | none => world
    | some page =>
        { world with nextSecret := world.nextSecret + 1 }.emit
          (.submitted page.serial)
  if world.stopping || world.shutdownPosted then
    handed.freeSecret (replyPage reply)
  else
    { handed with inbox := handed.inbox ++ [reply] }

/-! ## Actions -/

/-- What can happen next: a call, a reply that is sent or received, a worker
that gets on, or a timer. -/
inductive Action where
  | login (login : PinLogin)
  | chooser
      (cancellable : Option Nat) (candidates : List CertificateCandidate)
      (tokensPresent : Bool)
  | updateChooser
      (chooser : Nat) (candidates : List CertificateCandidate)
      (tokensPresent : Bool)
  | readTokens (chooser : Nat) (reading : Bool)
  | cancel (cancellable : Nat)
  | send (reply : Reply)
  /-- The coordinator takes a reply from its queue. -/
  | receive (index : Nat)
  | refreshReturned (prompt : Nat) (flags : TokenFlags)
  | refreshDone (prompt : Nat)
  | loginReturned (prompt : Nat) (result : LoginResult)
  | loginRefreshed (prompt : Nat) (flags : TokenFlags)
  | loginDone (prompt : Nat)
  /-- A finished worker releases its prompt. -/
  | taskFinalized (prompt : Nat)
  | loginTimeout (prompt : Nat)
  | cancelledIdle (prompt : Nat)
  | chooserCancelledIdle (chooser : Nat)
  | deliver
  | stop
  | shutdown

/-- `g_cancellable_cancel`. -/
def cancel (world : World) (cancellable : Nat) : World :=
  if world.cancelled cancellable then
    world
  else
    { world with
      cancelled := Function.update world.cancelled cancellable true
      prompts := fun id =>
        let prompt := world.prompts id
        if prompt.connected && prompt.cancellable = some cancellable then
          Pin.onCancelled prompt
        else
          prompt
      choosers := fun id =>
        let chooser := world.choosers id
        if chooser.connected && chooser.cancellable = some cancellable then
          Chooser.onCancelled chooser
        else
          chooser }

/-- `reply` is dispatched. -/
def receive (world : World) (index : Nat) : Option World :=
  world.inbox[index]?.map fun received =>
    reply
      ({ world with inbox := world.inbox.eraseIdx index }.emit
        (.replied received))
      received

/-- `certificate_chooser_show`. -/
def showChooser
    (world : World) (cancellable : Option Nat)
    (candidates : List CertificateCandidate) (tokensPresent : Bool) :
    World :=
  if world.chooserAvailable then
    chooserShow world cancellable candidates tokensPresent
  else
    { world with nextChooser := world.nextChooser + 1 }.emit
      (.chooserDone world.nextChooser none .ok)

/-- `ui_deliver`. -/
def deliver (world : World) : Option World :=
  match world.pending with
  | [] => none
  | message :: rest =>
      some { world with
        pending := rest, delivered := world.delivered ++ [message] }

/-- A worker of this prompt that has come so far. -/
def worker (world : World) (id : Nat) (next : Worker → Option World) :
    Option World :=
  next (world.prompts id).worker

/-- One action, where the coordinator is ready for it. -/
def step (world : World) : Action → Option World
  | .login login => some (pinLoginFullKind world login)
  | .chooser cancellable candidates tokensPresent =>
      some (showChooser world cancellable candidates tokensPresent)
  | .updateChooser chooser candidates tokensPresent =>
      some (chooserUpdate world chooser candidates tokensPresent)
  | .readTokens chooser reading =>
      some (chooserSetTokensReading world chooser reading)
  | .cancel cancellable => some (cancel world cancellable)
  | .send reply => some (sendReply world reply)
  | .receive index => receive world index
  | .refreshReturned id flags =>
      worker world id fun
        | .refreshing => some (refreshReturned world id flags)
        | _ => none
  | .refreshDone id =>
      worker world id fun
        | .refreshed => some (onRefreshDone world id)
        | _ => none
  | .loginReturned id result =>
      worker world id fun
        | .loggingIn secret => some (loginReturned world id secret result)
        | _ => none
  | .loginRefreshed id flags =>
      worker world id fun
        | .loginRefreshing result =>
            some (loginRefreshed world id result flags)
        | _ => none
  | .loginDone id =>
      worker world id fun
        | .loggedIn result => some (onLoginDone world id result)
        | _ => none
  | .taskFinalized id =>
      let prompt := world.prompts id
      if 0 < prompt.tasks then
        some (promptUnref
          (world.setPrompt id { prompt with tasks := prompt.tasks - 1 }) id)
      else
        none
  | .loginTimeout id =>
      if (world.prompts id).loginTimeout then
        some (onLoginTimeout world id)
      else
        none
  | .cancelledIdle id =>
      if (world.prompts id).cancelIdle then
        some (Pin.onCancelledIdle world id)
      else
        none
  | .chooserCancelledIdle id =>
      if (world.choosers id).cancelIdle then
        some (Chooser.onCancelledIdle world id)
      else
        none
  | .deliver => deliver world
  | .stop => some { world with stopping := true }
  | .shutdown =>
      if world.stopping && world.interactions.isEmpty &&
          world.inbox.isEmpty && world.pending.isEmpty then
        some { world with shutdownPosted := true }
      else
        none

/-- The coordinator, with a provider for dialogs or without. -/
def machine : System World Action where
  initial world :=
    ∃ pinAvailable chooserAvailable timeout tokens,
      world = .start pinAvailable chooserAvailable timeout tokens
  step := step

/-! ## Workers -/

section Workers

variable {world next : World} {id : Nat}

/-- The worker that has read the flags of a token was out for them. -/
theorem step_refreshReturned {flags : TokenFlags}
    (moves : step world (.refreshReturned id flags) = some next) :
    (world.prompts id).worker = .refreshing ∧
      next = refreshReturned world id flags := by
  rw [step, worker] at moves
  split at moves
  · next works => exact ⟨works, (Option.some.inj moves).symm⟩
  · cases moves

theorem step_refreshDone
    (moves : step world (.refreshDone id) = some next) :
    (world.prompts id).worker = .refreshed ∧
      next = onRefreshDone world id := by
  rw [step, worker] at moves
  split at moves
  · next works => exact ⟨works, (Option.some.inj moves).symm⟩
  · cases moves

/-- The worker that has called the login function was at it. -/
theorem step_loginReturned {result : LoginResult}
    (moves : step world (.loginReturned id result) = some next) :
    ∃ secret, (world.prompts id).worker = .loggingIn secret ∧
      next = loginReturned world id secret result := by
  rw [step, worker] at moves
  split at moves
  · next works => exact ⟨_, works, (Option.some.inj moves).symm⟩
  · cases moves

theorem step_loginRefreshed {flags : TokenFlags}
    (moves : step world (.loginRefreshed id flags) = some next) :
    ∃ result, (world.prompts id).worker = .loginRefreshing result ∧
      next = loginRefreshed world id result flags := by
  rw [step, worker] at moves
  split at moves
  · next works => exact ⟨_, works, (Option.some.inj moves).symm⟩
  · cases moves

theorem step_loginDone
    (moves : step world (.loginDone id) = some next) :
    ∃ result, (world.prompts id).worker = .loggedIn result ∧
      next = onLoginDone world id result := by
  rw [step, worker] at moves
  split at moves
  · next works => exact ⟨_, works, (Option.some.inj moves).symm⟩
  · cases moves

end Workers

end PortalCertificate.Core.Ui
