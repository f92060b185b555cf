import PortalCertificate.Core.PromptViews
import PortalCertificate.Core.Ui

/-!
# The moves of the coordinator

A dispatch of the coordinator is made of moves, each of which changes one
prompt or none.  Beside the coordinator a frame has the phase of each prompt,
the prompt whose idle source is running, and the page that the running reply
still holds.

`Moves` says once what the coordinator can do.  The invariants of its runs
are proved by going through the moves.
-/

namespace PortalCertificate.Core.PromptMoves

open PortalCertificate.Core.Coordinator
open PortalCertificate.Core.InteractionTable
open PortalCertificate.Core.Interactions
open PortalCertificate.Core.Pin
open PortalCertificate.Core.PromptCourse
open PortalCertificate.Core.PromptFits
open PortalCertificate.Core.PromptViews
open PortalCertificate.Core.Secret
open PortalCertificate.Core.Ui

/-! ## Frames -/

/-- A world with the phase of each prompt, the prompt whose idle source is
running, and the secret that the running reply still holds. -/
structure Frame where
  world : World
  phases : Nat → Phase
  running : Option Nat
  hand : Option XccSecret

namespace Frame

/-- The world has changed, and no phase. -/
def turns (frame : Frame) (world : World) : Frame :=
  { frame with world }

/-- A prompt has come to a phase. -/
def goes (frame : Frame) (id : Nat) (phase : Phase) (world : World) :
    Frame :=
  { frame with world, phases := Function.update frame.phases id phase }

/-- The phase of a prompt that loses a reference. -/
def released (frame : Frame) (id : Nat) : Phase :=
  if (frame.world.prompts id).refs = 1 then .freed else frame.phases id

end Frame

/-- The phase of a prompt whose `done` has just run. -/
def settled (world : World) (id : Nat) : Phase :=
  if (world.prompts id).refs = 0 then .freed else .answered

/-- The record of a prompt whose warning has been accepted. -/
def confirming (prompt : PinPrompt) : PinPrompt :=
  { prompt with warningPending := false, protectedPathConfirmed := true }

/-- Prompts, choosers, messages and pages are as before. -/
structure Aside (world next : World) : Prop where
  prompts : next.prompts = world.prompts
  choosers : next.choosers = world.choosers
  nextChooser : world.nextChooser ≤ next.nextChooser
  nextPrompt : next.nextPrompt = world.nextPrompt
  pinQueue : next.pinQueue = world.pinQueue
  pinActive : next.pinActive = world.pinActive
  interactions : next.interactions = world.interactions
  nextUiId : next.nextUiId = world.nextUiId
  posted : next.posted = world.posted
  inbox : next.inbox = world.inbox
  nextSecret : next.nextSecret = world.nextSecret
  trace : next.trace = world.trace ∨ ∃ id chosen error,
    next.trace = .chooserDone id chosen error :: world.trace

/-! ## Moves -/

/-- The steps that the functions of the coordinator are made of. -/
inductive Moves : Frame → Frame → Prop where
  | refused (frame : Frame) (login : PinLogin) :
      Moves frame (frame.goes frame.world.nextPrompt .refused
        (refuse frame.world login))
  | queued (frame : Frame) (login : PinLogin)
      (busy : frame.world.pinActive.isSome = true) :
      Moves frame (frame.goes frame.world.nextPrompt .queued
        { newPrompt frame.world login with
          pinQueue := frame.world.pinQueue ++ [frame.world.nextPrompt] })
  | begun (frame : Frame) (login : PinLogin)
      (idle : frame.world.pinActive = none)
      (empty : frame.world.pinQueue = []) :
      Moves frame (frame.goes frame.world.nextPrompt .deciding
        (activate (newPrompt frame.world login) frame.world.nextPrompt))
  | popped (frame : Frame) {head : Nat} {rest : List Nat}
      (idle : frame.world.pinActive = none)
      (queue : frame.world.pinQueue = head :: rest) :
      Moves frame (frame.goes head .deciding
        (activate { frame.world with pinQueue := rest } head))
  | refreshStarted (frame : Frame) {id : Nat}
      (phase : frame.phases id = .deciding) :
      Moves frame (frame.goes id .refreshing (startRefresh frame.world id))
  | shown (frame : Frame) {id : Nat} (view : XccPinView)
      (phase : frame.phases id = .deciding) :
      Moves frame (frame.goes id .waiting
        (message frame.world (.pin id) (.pinShow view)))
  | deferred (frame : Frame) {id : Nat} (outcome : CertificatePinOutcome)
      (flying : ((frame.phases id).refreshes ||
        (frame.phases id).logsIn) = true) :
      Moves frame (frame.turns (defer frame.world id outcome))
  | retired (frame : Frame) {id : Nat} (outcome : CertificatePinOutcome)
      (active : (frame.phases id).isActive = true)
      (ready : (frame.phases id).answerable = true) :
      Moves frame (frame.goes id
        (.answering outcome (frame.phases id).succeeded)
        { shut frame.world id with pinActive := none })
  | done (frame : Frame) {id : Nat} {outcome : CertificatePinOutcome}
      {succeeded : Bool}
      (phase : frame.phases id = .answering outcome succeeded) :
      Moves frame (frame.goes id
        (settled (callDone frame.world id outcome
          (mustAbandon (frame.world.prompts id) outcome)) id)
        (callDone frame.world id outcome
          (mustAbandon (frame.world.prompts id) outcome)))
  | dequeued (frame : Frame) {id : Nat} (outcome : CertificatePinOutcome)
      (phase : frame.phases id = .queued) :
      Moves frame (frame.goes id
        (settled (callDone { shut frame.world id with
          pinQueue := frame.world.pinQueue.erase id } id outcome
            false) id)
        (callDone { shut frame.world id with
          pinQueue := frame.world.pinQueue.erase id } id outcome false))
  | idleRuns (frame : Frame) {id : Nat} (free : frame.running = none)
      (queued : (frame.world.prompts id).cancelIdle = true) :
      Moves frame { frame with
        world := frame.world.setPrompt id
          { frame.world.prompts id with cancelIdle := false }
        running := some id }
  | idleEnds (frame : Frame) {id : Nat} (here : frame.running = some id) :
      Moves frame { frame.goes id (frame.released id)
          (promptUnref frame.world id) with
        running := none }
  | finalized (frame : Frame) {id : Nat}
      (ended : 0 < (frame.world.prompts id).tasks) :
      Moves frame (frame.goes id (frame.released id)
        (promptUnref (frame.world.setPrompt id
          { frame.world.prompts id with
            tasks := (frame.world.prompts id).tasks - 1 }) id))
  | refreshReturned (frame : Frame) {id : Nat} (flags : TokenFlags)
      (phase : frame.phases id = .refreshing) :
      Moves frame (frame.goes id .refreshed
        (refreshReturned frame.world id flags))
  | refreshEnded (frame : Frame) {id : Nat}
      (phase : frame.phases id = .refreshed) :
      Moves frame (frame.goes id .deciding (endRefresh frame.world id))
  | loginReturned (frame : Frame) {id : Nat} {secret : Option XccSecret}
      (result : LoginResult) (phase : frame.phases id = .loggingIn)
      (worker : (frame.world.prompts id).worker = .loggingIn secret) :
      Moves frame (frame.goes id
        (if refreshesAfter (frame.world.prompts id) result then
          .loginRefreshing result else .loggedIn result)
        (loginReturned frame.world id secret result))
  | loginRefreshed (frame : Frame) {id : Nat} {result : LoginResult}
      (flags : TokenFlags)
      (phase : frame.phases id = .loginRefreshing result) :
      Moves frame (frame.goes id (.loggedIn result)
        (loginRefreshed frame.world id result flags))
  | loginEnded (frame : Frame) {id : Nat} {result : LoginResult}
      (phase : frame.phases id = .loggedIn result) :
      Moves frame (frame.goes id (.landed (result = .ok ()))
        (endLogin frame.world id result))
  | unbusied (frame : Frame) {id : Nat} {succeeded : Bool}
      (phase : frame.phases id = .landed succeeded) :
      Moves frame (frame.turns (setBusy frame.world id false))
  | retried (frame : Frame) {id : Nat}
      (phase : frame.phases id = .landed false)
      (typed : (frame.world.prompts id).protectedPath = false)
      (few : (frame.world.prompts id).attempts < pinMaxAttempts)
      (idle : (frame.world.prompts id).busy = false) :
      Moves frame (frame.goes id .waiting (retry frame.world id))
  | updated (frame : Frame) {id : Nat} (status : XccPinStatus)
      (phase : frame.phases id = .waiting) :
      Moves frame (frame.turns (pinUpdate frame.world id status))
  | asked (frame : Frame) {id : Nat}
      (phase : frame.phases id = .waiting) :
      Moves frame (frame.turns (askFinalTry frame.world id))
  | warningRefused (frame : Frame) {id : Nat}
      (phase : frame.phases id = .waiting) :
      Moves frame (frame.turns (frame.world.setPrompt id
        { frame.world.prompts id with warningPending := false }))
  | held (frame : Frame) {id : Nat} {page checked : XccSecret}
      (phase : frame.phases id = .waiting) (hand : frame.hand = some page)
      (same : checked.serial = page.serial)
      (typed : (frame.world.prompts id).protectedPath = false)
      (valid : Valid checked) :
      Moves frame { frame.goes id .holding
          ((frame.world.setPrompt id
            { frame.world.prompts id with secret := some checked }).emit
              (.held id page.serial)) with
        hand := none }
  | attempted (frame : Frame) {id : Nat}
      (ready : frame.phases id =
        if (frame.world.prompts id).protectedPath then .waiting
        else .holding) :
      Moves frame (frame.goes id .loggingIn (attempt frame.world id))
  | accepted (frame : Frame) {id : Nat}
      (phase : frame.phases id = .waiting)
      (path : (frame.world.prompts id).protectedPath = true) :
      Moves frame (frame.goes id .loggingIn
        (attempt (frame.world.setPrompt id
          (confirming (frame.world.prompts id))) id))
  | readied (frame : Frame) {found : Interaction}
      (member : found ∈ frame.world.interactions) :
      Moves frame (frame.turns
        (setInteraction frame.world { found with ready := true }))
  | timerFired (frame : Frame) {id : Nat}
      (armed : (frame.world.prompts id).loginTimeout = true) :
      Moves frame (frame.turns (frame.world.setPrompt id
        { frame.world.prompts id with loginTimeout := false }))
  | cancelled (frame : Frame) (cancellable : Nat) :
      Moves frame (frame.turns (cancel frame.world cancellable))
  | chooserShown (frame : Frame) (chooser : Chooser) (view : XccChooserView)
      (showing : chooser.finished = false) :
      Moves frame (frame.turns (message
        ({ frame.world with
          nextChooser := frame.world.nextChooser + 1 }.setChooser
            frame.world.nextChooser chooser)
        (.chooser frame.world.nextChooser) (.chooserShow view)))
  | chooserChanged (frame : Frame) {id : Nat} (chooser : Chooser)
      (same : chooser.finished = (frame.world.choosers id).finished) :
      Moves frame (frame.turns (frame.world.setChooser id chooser))
  | chooserUpdated (frame : Frame) {id : Nat} (view : XccChooserView)
      (showing : (frame.world.choosers id).finished = false) :
      Moves frame (frame.turns
        (message frame.world (.chooser id) (.chooserUpdate view)))
  | chooserFinished (frame : Frame) {id : Nat} (chooser : Chooser)
      (ended : chooser.finished = true) :
      Moves frame (frame.turns
        (close (frame.world.setChooser id chooser) (.chooser id)))
  | sent (frame : Frame) (reply : Reply) :
      Moves frame (frame.turns (sendReply frame.world reply))
  | received (frame : Frame) {index : Nat} {reply : Reply}
      (waiting : frame.world.inbox[index]? = some reply)
      (free : frame.hand = none) :
      Moves frame { frame with
        world := { frame.world with
          inbox := frame.world.inbox.eraseIdx index }.emit (.replied reply)
        hand := replyPage reply }
  | dropped (frame : Frame) {page wiped : XccSecret}
      (hand : frame.hand = some page)
      (same : wiped.serial = page.serial) :
      Moves frame { frame with
        world := frame.world.freeSecret (some wiped)
        hand := none }
  | aside (frame : Frame) {next : World}
      (same : Aside frame.world next) :
      Moves frame (frame.turns next)

/-! ## Frames that fit -/

/-- Every prompt fits its phase, and the active prompt and the queue are as
the phases say. -/
structure Coupled (frame : Frame) : Prop where
  table : Table frame.world
  fits : ∀ id, Fits id (frame.phases id) (frame.running = some id)
    (frame.world.prompts id) (find? frame.world (.pin id))
    (history id frame.world.trace)
  active : ∀ id, frame.world.pinActive = some id ↔
    (frame.phases id).isActive = true
  queued : ∀ id, id ∈ frame.world.pinQueue ↔ frame.phases id = .queued
  born : ∀ id, frame.phases id = .unborn ↔ frame.world.nextPrompt ≤ id
  /-- The queue is in the order of the logins. -/
  sorted : frame.world.pinQueue.Pairwise (· < ·)

/-- A prompt keeps what its login has asked for. -/
def Steady (first second : Frame) : Prop :=
  ∀ id, first.phases id ≠ .unborn →
    (second.world.prompts id).toPinLogin =
        (first.world.prompts id).toPinLogin ∧
      (second.world.prompts id).protectedPath =
        (first.world.prompts id).protectedPath

end PortalCertificate.Core.PromptMoves
