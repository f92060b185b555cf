import PortalCertificate.Broker.Machine
import PortalCertificate.Core.PromptLife

/-!
# The conversations of prompts

The broker takes a prompt to be a conversation, of which it sees the calls
of its login function and the end.  Here the prompts of `pin.c` are shown to
converse in this way: whatever the coordinator dispatches, the conversation
of each prompt goes on by steps that the broker expects.

Only in one place does a prompt know more than its record says.  The record
of a deferred answer is cleared when the worker is judged, and the prompt is
answered before the dispatch ends; the conversation is deferred until then.

Each of the two machines is stated with what it needs of the other: that of
the broker takes the steps of prompts as actions, and that of the coordinator
takes what a login function returns.
-/

namespace PortalCertificate.Broker.PromptConversations

open PortalCertificate.Broker.Login (Attempt Conversation PromptAction)
open PortalCertificate.Core.Chooser
open PortalCertificate.Core.Coordinator
open PortalCertificate.Core.InteractionTable
open PortalCertificate.Core.Interactions
open PortalCertificate.Core.Pin
open PortalCertificate.Core.PromptCourse
open PortalCertificate.Core.PromptDispatch
open PortalCertificate.Core.PromptFits
open PortalCertificate.Core.PromptInvariant
open PortalCertificate.Core.PromptMoves
open PortalCertificate.Core.PromptReplies
open PortalCertificate.Core.PromptRuns
open PortalCertificate.Core.PromptSteps
open PortalCertificate.Core.PromptViews
open PortalCertificate.Core.Secret
open PortalCertificate.Core.Ui
open PortalCertificate.Library.Transition
open PortalCertificate.Tokens.Discovery

/-! ## Steps of a conversation -/

/-- What the broker expects of a conversation: what the prompt does, the
calls of the login function, and in the end `done`. -/
inductive Steps : Conversation → Conversation → Prop where
  | goes {conversation next : Conversation} (action : PromptAction)
      (moves : conversation.after action = some next) :
      Steps conversation next
  | enters {conversation : Conversation}
      (calling : conversation.attempt = .calling) :
      Steps conversation { conversation with attempt := .holding }
  | returns {conversation : Conversation} (succeeded : Bool)
      (holding : conversation.attempt = .holding) :
      Steps conversation
        { conversation with attempt := .returned succeeded }
  | ends {conversation : Conversation}
      (quiet : conversation.quiet = true) :
      Steps conversation .closed

/-! ## What the broker sees of a prompt -/

/-- Where the worker is; the broker knows when it holds the device. -/
def attemptOf : Worker → Attempt
  | .none => .none
  | .refreshing | .refreshed => .refreshing
  | .loggingIn _ => .calling
  | .loginRefreshing result | .loggedIn result =>
      .returned (result = .ok ())

/-- The part of a record that makes the conversation. -/
structure Gist where
  finished : Bool
  inFlight : Bool
  deferred : Bool
  succeeded : Bool
  attempt : Attempt
  deriving DecidableEq

/-- What a login interaction sees of its prompt. -/
def gist (prompt : PinPrompt) : Gist where
  finished := prompt.finished
  inFlight := prompt.refreshInFlight || prompt.loginInFlight
  deferred := prompt.cancelDeferred
  succeeded := prompt.loginSucceeded
  attempt := attemptOf prompt.worker

/-- The conversation of a prompt is closed once the prompt has finished. -/
def Gist.conversation (gist : Gist) : Conversation :=
  if gist.finished then
    .closed
  else
    { attempt := gist.attempt, deferred := gist.deferred
      succeeded := gist.succeeded, finished := false }

/-- The conversation that a prompt amounts to. -/
def conversationOf (prompt : PinPrompt) : Conversation :=
  (gist prompt).conversation

/-- The prompt waits in the queue, or for an answer of the user. -/
def Gist.fresh : Gist := ⟨false, false, false, false, .none⟩

/-- The flags of the record say whether there is a worker. -/
def Gist.Flagged (gist : Gist) : Prop :=
  gist.inFlight = true ↔ gist.attempt ≠ .none

/-- The conversation of each prompt goes on. -/
structure Keeps (first second : World) : Prop where
  nextPrompt : second.nextPrompt = first.nextPrompt
  continues : ∀ id, Composed Steps (conversationOf (first.prompts id))
    (conversationOf (second.prompts id))

/-- No conversation goes on, and neither does the queue. -/
structure Same (first second : World) : Prop where
  still : Still first second
  gists : ∀ id, gist (second.prompts id) = gist (first.prompts id)

variable {world first second third : World} {id : Nat}

theorem Keeps.refl (world : World) : Keeps world world :=
  ⟨rfl, fun _ => .refl⟩

theorem Keeps.trans (here : Keeps first second) (there : Keeps second third) :
    Keeps first third where
  nextPrompt := there.nextPrompt.trans here.nextPrompt
  continues id := (here.continues id).trans (there.continues id)

theorem Same.refl (world : World) : Same world world :=
  ⟨.refl _, fun _ => rfl⟩

theorem Same.trans (here : Same first second) (there : Same second third) :
    Same first third where
  still := here.still.trans there.still
  gists id := (there.gists id).trans (here.gists id)

theorem Same.of_prompts
    (still : Still first second) (same : second.prompts = first.prompts) :
    Same first second :=
  ⟨still, fun id => by rw [same]⟩

/-- Conversations that do not change go on. -/
theorem Keeps.of_gists
    (numbered : second.nextPrompt = first.nextPrompt)
    (same : ∀ id, gist (second.prompts id) = gist (first.prompts id)) :
    Keeps first second :=
  ⟨numbered, fun id => by rw [conversationOf, conversationOf, same id]⟩

theorem Same.keeps (same : Same first second) : Keeps first second :=
  .of_gists same.still.nextPrompt same.gists

/-! ## Records -/

theorem same_setPrompt
    {prompt : PinPrompt} (same : gist prompt = gist (world.prompts id)) :
    Same world (world.setPrompt id prompt) := by
  refine ⟨still_setPrompt .., fun other => ?_⟩
  show gist (Function.update world.prompts id prompt other) = _
  by_cases here : other = id
  · rw [here, Function.update_self, same]
  · rw [Function.update_of_ne here]

/-- The conversation of one prompt goes on, and the others stay. -/
theorem keeps_setPrompt
    {prompt : PinPrompt}
    (goes : Composed Steps (conversationOf (world.prompts id))
      (conversationOf prompt)) :
    Keeps world (world.setPrompt id prompt) := by
  refine ⟨rfl, fun other => ?_⟩
  show Composed Steps _
    (conversationOf (Function.update world.prompts id prompt other))
  by_cases here : other = id
  · rw [here, Function.update_self]
    exact goes
  · rw [Function.update_of_ne here]

theorem same_emit (world : World) (event : Event) :
    Same world (world.emit event) :=
  .of_prompts (still_emit ..) rfl

theorem same_freeSecret (world : World) (secret : Option XccSecret) :
    Same world (world.freeSecret secret) :=
  .of_prompts (still_freeSecret ..) (freeSecret_prompts ..)

theorem same_promptRef (world : World) (id : Nat) :
    Same world (promptRef world id) :=
  same_setPrompt rfl

/-- The page of a prompt is freed and taken from its record. -/
theorem same_cleared (world : World) (id : Nat) :
    Same world ((world.freeSecret (world.prompts id).secret).setPrompt id
      { world.prompts id with secret := none }) := by
  refine (same_freeSecret world _).trans (same_setPrompt ?_)
  rw [freeSecret_prompts]
  rfl

theorem same_promptFree (world : World) (id : Nat) :
    Same world (promptFree world id) := by
  rw [promptFree]
  split_ifs
  · exact (same_cleared world id).trans (same_emit ..)
  · exact same_cleared world id

theorem same_promptUnref (world : World) (id : Nat) :
    Same world (promptUnref world id) := by
  have dropped : Same world (world.setPrompt id
      { world.prompts id with refs := (world.prompts id).refs - 1 }) :=
    same_setPrompt rfl
  rw [promptUnref]
  split_ifs
  · exact dropped.trans (same_promptFree ..)
  · exact dropped

/-! ## Messages -/

theorem same_interaction (world : World) (subject : Subject) :
    Same world (interaction world subject).2 := by
  rw [interaction]
  split
  · exact .refl _
  · cases subject with
    | chooser chooser => exact .of_prompts ⟨rfl, rfl, rfl⟩ rfl
    | pin prompt =>
        refine Same.trans ?_ (same_promptRef _ prompt)
        exact .of_prompts ⟨rfl, rfl, rfl⟩ rfl

theorem same_message (world : World) (subject : Subject) (call : UiCall) :
    Same world (message world subject call) :=
  (same_interaction world subject).trans (.of_prompts ⟨rfl, rfl, rfl⟩ rfl)

theorem same_warning (world : World) (id : Nat) (text : String) :
    Same world (warning world id text) :=
  (same_interaction world (.pin id)).trans (.of_prompts ⟨rfl, rfl, rfl⟩ rfl)

theorem same_hide (world : World) (id : Nat) :
    Same world (hide world id) := by
  refine ⟨still_hide .., fun other => ?_⟩
  rw [hide]
  split
  · rfl
  · split_ifs <;> rfl

theorem same_close (world : World) (subject : Subject) :
    Same world (close world subject) := by
  have closed (found : Interaction) :
      Same world { (if found.shown then post world found.id .close
          else world) with
        interactions := (if found.shown then post world found.id .close
          else world).interactions.filter
            fun other => other.id ≠ found.id } := by
    split_ifs
    · exact .of_prompts ⟨rfl, rfl, rfl⟩ rfl
    · exact .of_prompts ⟨rfl, rfl, rfl⟩ rfl
  rw [close]
  split
  · exact .refl _
  · next found _ =>
      cases subject with
      | chooser chooser => exact closed found
      | pin prompt => exact (closed found).trans (same_promptUnref _ prompt)

theorem same_pinUpdate (world : World) (id : Nat) (status : XccPinStatus) :
    Same world (pinUpdate world id status) :=
  same_message ..

theorem same_setBusy (world : World) (id : Nat) (busy : Bool) :
    Same world (setBusy world id busy) := by
  have marked : Same world
      (world.setPrompt id { world.prompts id with busy }) :=
    same_setPrompt rfl
  exact marked.trans (same_pinUpdate ..)

theorem same_askFinalTry (world : World) (id : Nat) :
    Same world (askFinalTry world id) := by
  have marked : Same world (world.setPrompt id
      { world.prompts id with warningPending := true }) :=
    same_setPrompt rfl
  exact marked.trans (same_warning ..)

theorem same_callDone
    (world : World) (id : Nat) (outcome : CertificatePinOutcome)
    (abandon : Bool) : Same world (callDone world id outcome abandon) := by
  rw [callDone]
  split_ifs
  · exact ((same_emit ..).trans (same_emit ..)).trans (same_promptUnref ..)
  · exact (same_emit ..).trans (same_promptUnref ..)

/-! ## Steps of records -/

theorem conversationOf_of_unfinished
    {prompt : PinPrompt} (late : (gist prompt).finished = false) :
    conversationOf prompt =
      { attempt := (gist prompt).attempt, deferred := (gist prompt).deferred
        succeeded := (gist prompt).succeeded, finished := false } := by
  rw [conversationOf, Gist.conversation, late]
  exact if_neg Bool.false_ne_true

theorem conversationOf_of_finished
    {prompt : PinPrompt} (ended : (gist prompt).finished = true) :
    conversationOf prompt = .closed :=
  if_pos ended

/-- A closed conversation does not go on. -/
theorem Steps.not_closed {conversation : Conversation} :
    ¬ Steps .closed conversation := by
  intro steps
  cases steps with
  | goes action moves => cases action <;> cases moves
  | enters calling => cases calling
  | returns succeeded holding => cases holding
  | ends quiet => cases quiet

/-- A finished prompt stays finished. -/
theorem finished_of_continues
    {first second : PinPrompt} (ended : (gist first).finished = true)
    (continues : Composed Steps (conversationOf first)
      (conversationOf second)) :
    (gist second).finished = true := by
  rw [conversationOf_of_finished ended] at continues
  have closed : conversationOf second = .closed := by
    rcases Relation.ReflTransGen.cases_head continues with
      same | ⟨_, steps, -⟩
    · exact same.symm
    · exact absurd steps Steps.not_closed
  by_contra late
  rw [Bool.not_eq_true] at late
  rw [conversationOf_of_unfinished late] at closed
  cases congrArg Conversation.finished closed

/-- A prompt without a worker is answered. -/
theorem continues_finished
    {first second : PinPrompt} (late : (gist first).finished = false)
    (idle : (gist first).attempt = .none)
    (ended : (gist second).finished = true) :
    Composed Steps (conversationOf first) (conversationOf second) := by
  rw [conversationOf_of_unfinished late, conversationOf_of_finished ended]
  refine .single (.ends ?_)
  rw [idle]
  rfl

/-- A worker is judged, and the prompt is answered: the answer may have been
deferred. -/
theorem continues_judged
    {first second : PinPrompt} {judged : Conversation}
    (judges : (conversationOf first).judged = some judged)
    (quiet : judged.quiet = true)
    (ended : (gist second).finished = true) :
    Composed Steps (conversationOf first) (conversationOf second) := by
  rw [conversationOf_of_finished ended]
  exact .tail (.single (.goes .judge judges)) (.ends quiet)

/-! ## Answers -/

/-- The prompts of a queue have yet to start. -/
structure Prepared (world : World) (queue : List Nat) : Prop where
  flagged : ∀ id, (gist (world.prompts id)).Flagged
  fresh : ∀ id ∈ queue, gist (world.prompts id) = .fresh
  nodup : queue.Nodup

variable {queue : List Nat} {next : World → World}

theorem Prepared.of_gists
    (prepared : Prepared first queue)
    (same : ∀ id, gist (second.prompts id) = gist (first.prompts id)) :
    Prepared second queue where
  flagged id := by
    rw [same id]
    exact prepared.flagged id
  fresh id member := by
    rw [same id]
    exact prepared.fresh id member
  nodup := prepared.nodup

/-- Another prompt has changed. -/
theorem Prepared.changed
    (prepared : Prepared first queue) (outside : id ∉ queue)
    (here : (gist (second.prompts id)).Flagged)
    (others : ∀ other, other ≠ id →
      gist (second.prompts other) = gist (first.prompts other)) :
    Prepared second queue where
  flagged other := by
    by_cases same : other = id
    · rw [same]
      exact here
    · rw [others other same]
      exact prepared.flagged other
  fresh other member := by
    rw [others other fun same => outside (same ▸ member)]
    exact prepared.fresh other member
  nodup := prepared.nodup

/-- The records after the sources and the page of a prompt are gone. -/
theorem gist_shut (world : World) (id : Nat) :
    (∀ other, other ≠ id → gist ((shut world id).prompts other) =
        gist (world.prompts other)) ∧
      gist ((shut world id).prompts id) =
        { gist (world.prompts id) with finished := true } := by
  let stopped := world.setPrompt id (stopping (world.prompts id))
  have retired : Same stopped (retire world id) := by
    rw [retire]
    have unheld (left : World) (secret : Option XccSecret) :
        Same left ((left.freeSecret secret).setPrompt id
          { (left.freeSecret secret).prompts id with
            secret := none }) :=
      (same_freeSecret ..).trans (same_setPrompt rfl)
    refine Same.trans ?_ (unheld _ _)
    split_ifs
    · exact same_promptUnref ..
    · exact .refl _
  have same := retired.trans (same_close (retire world id) (.pin id))
  constructor
  · intro other different
    rw [shut, same.gists]
    exact congrArg gist (Function.update_of_ne different ..)
  · rw [shut, same.gists]
    show gist (Function.update world.prompts id _ id) = _
    rw [Function.update_self]
    rfl

/-- What the next prompt of a queue does. -/
def Follows (next : World → World) (queue : List Nat) : Prop :=
  ∀ world, Prepared world queue → Keeps world (next world)

/-- An answer that waits for the worker. -/
theorem keeps_defer
    (flagged : (gist (world.prompts id)).Flagged)
    (late : (gist (world.prompts id)).finished = false)
    (flying : (gist (world.prompts id)).inFlight = true)
    (outcome : CertificatePinOutcome) :
    Keeps world (defer world id outcome) := by
  have deferred : Keeps world (world.setPrompt id
      (deferring (world.prompts id) outcome)) := by
    apply keeps_setPrompt
    rw [conversationOf_of_unfinished late]
    have after : (gist (deferring (world.prompts id) outcome)).finished =
      false := late
    rw [conversationOf_of_unfinished after]
    exact .single (.goes .defer (if_pos (flagged.mp flying)))
  rw [defer]
  dsimp only
  split_ifs
  · exact .refl _
  · exact deferred
  · exact deferred.trans (same_hide ..).keeps

theorem keeps_shut
    (flagged : (gist (world.prompts id)).Flagged)
    (late : (gist (world.prompts id)).finished = false)
    (landed : (gist (world.prompts id)).inFlight = false) :
    Keeps world (shut world id) := by
  rcases gist_shut world id with ⟨others, here⟩
  refine ⟨(still_shut world id).nextPrompt, fun other => ?_⟩
  by_cases same : other = id
  · rw [same]
    apply continues_finished late
    · by_contra flying
      rw [flagged.mpr flying] at landed
      cases landed
    · rw [here]
  · rw [conversationOf, conversationOf, others other same]

/-- An answer is deferred, or it finishes the prompt and the queue goes
on. -/
theorem keeps_answerThen
    (follows : Follows next queue) (prepared : Prepared world queue)
    (apart : world.pinActive = some id → id ∉ queue)
    (outcome : CertificatePinOutcome) :
    Keeps world (answerThen next world id outcome) ∧
      ((gist (world.prompts id)).inFlight = false →
        (gist ((answerThen next world id outcome).prompts id)).finished =
          true) := by
  have flagged := prepared.flagged id
  rw [answerThen]
  dsimp only
  split_ifs with ended flying active
  · exact ⟨.refl _, fun _ => ended⟩
  · refine ⟨keeps_defer flagged ?_ flying outcome, fun landed => ?_⟩
    · exact Bool.not_eq_true _ ▸ ended
    · exact absurd flying (Bool.not_eq_true _ ▸ landed)
  all_goals
    rw [Bool.not_eq_true] at ended flying
    have closes := keeps_shut flagged ended flying
    rcases gist_shut world id with ⟨others, here⟩
    have stopped : (gist ((shut world id).prompts id)).finished = true := by
      rw [here]
  · have outside := apart ((still_shut world id).pinActive ▸ active)
    have left : Prepared { shut world id with pinActive := none } queue := by
      refine prepared.changed outside ?_ others
      show (gist ((shut world id).prompts id)).Flagged
      rw [here]
      exact flagged
    have inactive : Keeps (shut world id)
        { shut world id with pinActive := none } :=
      .of_gists rfl fun _ => rfl
    have goes := (inactive.trans (follows _ left)).trans
      (same_callDone _ id outcome
        (mustAbandon (world.prompts id) outcome)).keeps
    refine ⟨closes.trans goes, fun _ => ?_⟩
    exact finished_of_continues stopped (goes.continues id)
  · have dequeued : Keeps (shut world id)
        { shut world id with
          pinQueue := (shut world id).pinQueue.erase id } :=
      .of_gists rfl fun _ => rfl
    have goes := dequeued.trans (same_callDone _ id outcome
      (mustAbandon (world.prompts id) outcome)).keeps
    refine ⟨closes.trans goes, fun _ => ?_⟩
    exact finished_of_continues stopped (goes.continues id)

/-! ## Starts -/

theorem keeps_showThen
    (follows : Follows next queue) (prepared : Prepared world queue)
    (outside : id ∉ queue) : Keeps world (showThen next world id) := by
  rw [showThen]
  split_ifs
  · exact (keeps_answerThen follows prepared (fun _ => outside) .locked).1
  · exact (same_message ..).keeps

theorem keeps_startRefresh
    (fresh : gist (world.prompts id) = .fresh) :
    Keeps world (startRefresh world id) := by
  refine (keeps_setPrompt ?_).trans (same_emit ..).keeps
  have late : (gist (world.prompts id)).finished = false := by rw [fresh]; rfl
  have after : (gist { world.prompts id with
    refreshInFlight := true, worker := .refreshing
    refs := (world.prompts id).refs + 1 }).finished = false := late
  rw [conversationOf_of_unfinished late, conversationOf_of_unfinished after]
  refine .single (.goes .refresh ?_)
  have deferred : (world.prompts id).cancelDeferred = false :=
    congrArg Gist.deferred fresh
  have succeeded : (world.prompts id).loginSucceeded = false :=
    congrArg Gist.succeeded fresh
  rw [fresh]
  simp [gist, Gist.fresh, Conversation.after, Conversation.mayStart,
    Conversation.quiet, attemptOf, deferred, succeeded]

theorem keeps_startThen
    (follows : Follows next queue) (prepared : Prepared world queue)
    (outside : id ∉ queue) (fresh : gist (world.prompts id) = .fresh) :
    Keeps world (startThen next world id) := by
  have begun : Keeps world (activate world id) :=
    .of_gists rfl fun _ => rfl
  have ready : Prepared (activate world id) queue :=
    prepared.of_gists fun _ => rfl
  rw [startThen]
  split_ifs
  · exact begun.trans
      (keeps_answerThen follows ready (fun _ => outside) .cancelled).1
  · exact begun.trans (keeps_startRefresh fresh)
  · exact begun.trans (keeps_showThen follows ready outside)

/-- The queue is started from its head. -/
theorem startNext_follows (queue : List Nat) :
    Follows (startNext queue) queue := by
  induction queue with
  | nil => exact fun world _ => .refl world
  | cons head rest ih =>
      intro world prepared
      rcases List.nodup_cons.mp prepared.nodup with ⟨outside, nodup⟩
      have popped : Keeps world { world with pinQueue := rest } :=
        .of_gists rfl fun _ => rfl
      have left : Prepared { world with pinQueue := rest } rest :=
        ⟨prepared.flagged,
          fun id member => prepared.fresh id (List.mem_cons_of_mem _ member),
          nodup⟩
      have fresh := prepared.fresh head (List.mem_cons_self ..)
      exact popped.trans (keeps_startThen ih left outside fresh)

/-- The queue is ready, and the active prompt is not in it. -/
structure Ready (world : World) : Prop where
  prepared : Prepared world world.pinQueue
  apart : ∀ id, world.pinActive = some id → id ∉ world.pinQueue

theorem Ready.same (ready : Ready first) (same : Same first second) :
    Ready second where
  prepared := by
    rw [same.still.pinQueue]
    exact ready.prepared.of_gists same.gists
  apart := by
    rw [same.still.pinQueue, same.still.pinActive]
    exact ready.apart

theorem Ready.answers
    (ready : Ready world) (id : Nat) (outcome : CertificatePinOutcome) :
    Keeps world (answer world id outcome) :=
  (keeps_answerThen (startNext_follows _) ready.prepared (ready.apart id)
    outcome).1

/-- Without a worker the prompt finishes. -/
theorem Ready.answers_finished
    (ready : Ready world) (outcome : CertificatePinOutcome)
    (landed : (gist (world.prompts id)).inFlight = false) :
    (gist ((answer world id outcome).prompts id)).finished = true :=
  (keeps_answerThen (startNext_follows _) ready.prepared (ready.apart id)
    outcome).2 landed

/-! ## Prompts between dispatches -/

section Fits

variable
  {phase : Phase} {running : Bool} {prompt : PinPrompt}
  {screen : Option Interaction} {history : List Event}

theorem gist_flagged
    (fits : Fits id phase running prompt screen history) :
    (gist prompt).Flagged := by
  have works := fits.worker
  rw [Gist.Flagged]
  simp only [gist, fits.refreshInFlight, fits.loginInFlight]
  cases phase with
  | loggingIn =>
      rcases works with ⟨secret, works⟩
      rw [works]
      exact iff_of_true rfl nofun
  | refreshing | refreshed | loginRefreshing | loggedIn =>
      rw [show prompt.worker = _ from works]
      exact iff_of_true rfl nofun
  | _ =>
      rw [show prompt.worker = _ from works]
      exact iff_of_false nofun fun works => works rfl

theorem gist_fresh
    (fits : Fits id phase running prompt screen history)
    (early : phase = .queued ∨ phase = .waiting) :
    gist prompt = .fresh := by
  have undeferred : prompt.cancelDeferred = false := by
    cases deferred : prompt.cancelDeferred with
    | false => rfl
    | true =>
        have flying := fits.deferred deferred
        rcases early with rfl | rfl <;> cases flying
  have finished := fits.finished
  have refreshInFlight := fits.refreshInFlight
  have loginInFlight := fits.loginInFlight
  have works := fits.worker
  rcases early with rfl | rfl
  all_goals
    have succeeded := fits.succeeded rfl
    simp only [gist, Gist.fresh, finished, refreshInFlight, loginInFlight,
      undeferred, succeeded, show prompt.worker = .none from works]
    rfl

end Fits

variable {frame : Frame}

theorem ready_of_coupled (coupled : Coupled frame) : Ready frame.world where
  prepared :=
    { flagged := fun id => gist_flagged (coupled.fits id)
      fresh := fun id member =>
        gist_fresh (coupled.fits id) (.inl ((coupled.queued id).mp member))
      nodup := coupled.sorted.imp fun less => less.ne }
  apart id active member := by
    have phase := (coupled.active id).mp active
    rw [(coupled.queued id).mp member] at phase
    cases phase

/-! ## Attempts -/

theorem keeps_attempt
    (fresh : gist (world.prompts id) = .fresh) :
    Keeps world (attempt world id) := by
  have begun : Keeps world
      (world.setPrompt id (attempting (world.prompts id))) := by
    apply keeps_setPrompt
    have late : (gist (world.prompts id)).finished = false := by
      rw [fresh]
      rfl
    have after : (gist (attempting (world.prompts id))).finished = false :=
      late
    rw [conversationOf_of_unfinished late,
      conversationOf_of_unfinished after]
    refine .single (.goes .attempt ?_)
    have deferred : (world.prompts id).cancelDeferred = false :=
      congrArg Gist.deferred fresh
    have succeeded : (world.prompts id).loginSucceeded = false :=
      congrArg Gist.succeeded fresh
    rw [fresh]
    simp [gist, Gist.fresh, attempting, Conversation.after,
      Conversation.mayStart, Conversation.quiet, attemptOf, deferred,
      succeeded]
  have timed (left : World) (timeout : Bool) :
      Same left (left.setPrompt id
        { left.prompts id with loginTimeout := timeout }) :=
    same_setPrompt rfl
  exact begun.trans
    (((same_setBusy _ id true).trans (timed _ _)).trans (same_emit ..)).keeps

/-- A prompt that tries to log in waits for the user. -/
theorem keeps_submit
    (fresh : (world.prompts id).loginInFlight = false →
      gist (world.prompts id) = .fresh) :
    Keeps world (submit world id) := by
  rw [submit]
  split_ifs with busy
  · exact .refl _
  · exact .refl _
  · exact (same_askFinalTry ..).keeps
  · exact (same_pinUpdate ..).keeps
  · rw [Bool.not_eq_true, Bool.or_eq_false_iff] at busy
    exact keeps_attempt (fresh busy.2)

theorem same_hold
    (world : World) (id : Nat) (secret : Option XccSecret) (length : Nat) :
    Same world (hold world id secret length).2 := by
  have cleared := same_cleared world id
  have holds (left : World) (page : XccSecret) (event : Event) :
      Same left ((left.setPrompt id
        { left.prompts id with secret := some page }).emit event) := by
    have held : Same left (left.setPrompt id
        { left.prompts id with secret := some page }) :=
      same_setPrompt rfl
    exact held.trans (same_emit ..)
  rw [hold]
  dsimp only
  split
  · exact same_freeSecret ..
  · cases secret with
    | none => exact cleared.trans (same_pinUpdate ..)
    | some secret =>
        dsimp only
        split
        · exact cleared.trans (holds _ _ _)
        · exact (cleared.trans (same_freeSecret ..)).trans
            (same_pinUpdate ..)

/-! ## Replies -/

theorem same_chooserFinish
    (world : World) (id : Nat) (chosen : Option CertificateCandidate) :
    Same world (chooserFinish world id chosen) := by
  rw [chooserFinish]
  dsimp only
  split_ifs
  · exact .refl _
  · have marked (chooser : Chooser) :
        Same world (world.setChooser id chooser) :=
      .of_prompts ⟨rfl, rfl, rfl⟩ rfl
    exact ((marked _).trans (same_close ..)).trans (same_emit ..)

theorem same_chooserReply
    (world : World) (id : Nat) (kind : ReplyKind) :
    Same world (chooserReply world id kind) := by
  cases kind with
  | choose revision candidate =>
      show Same world (chooserChoose world id revision candidate)
      rw [chooserChoose]
      split
      · exact .refl _
      · split_ifs
        · exact .refl _
        · split
          · exact .refl _
          · exact same_chooserFinish ..
  | submit secret => exact same_freeSecret ..
  | cancel =>
      show Same world (chooserCancel world id)
      rw [chooserCancel]
      split
      · exact .refl _
      · exact same_chooserFinish ..
  | failed error =>
      show Same world (chooserFail world id _)
      rw [chooserFail]
      split
      · exact .refl _
      · next chooser _ =>
          have marked (chooser : Chooser) :
              Same world (world.setChooser id chooser) :=
            .of_prompts ⟨rfl, rfl, rfl⟩ rfl
          exact (marked _).trans (same_chooserFinish ..)
  | warning | ready => exact .refl _

theorem keeps_submitReply
    {found : Interaction} {secret : Option XccSecret}
    (fresh : (world.prompts id).loginInFlight = false →
      gist (world.prompts id) = .fresh) :
    Keeps world (submitReply world found id secret) := by
  rw [submitReply.eq_def]
  dsimp only
  split_ifs with able path
  · refine (same_freeSecret ..).keeps.trans (keeps_submit ?_)
    rw [freeSecret_prompts]
    exact fresh
  · simp only [Bool.and_eq_true, Bool.not_eq_true'] at able
    have here := fresh able.1.2
    cases secret with
    | none => exact .refl _
    | some page =>
        have held := same_hold world id (some page) page.length
        dsimp only
        split_ifs
        · refine held.keeps.trans (keeps_submit fun _ => ?_)
          rw [held.gists, here]
        · exact held.keeps
  · exact (same_freeSecret ..).keeps

theorem keeps_promptReply
    (ready : Ready world) {found : Interaction} (kind : ReplyKind)
    (fresh : (world.prompts id).loginInFlight = false →
      gist (world.prompts id) = .fresh) :
    Keeps world (promptReply world found id kind) := by
  cases kind with
  | choose => exact .refl _
  | submit secret => exact keeps_submitReply fresh
  | warning warning accepted =>
      have marked (prompt : PinPrompt)
          (same : gist prompt = gist (world.prompts id)) :
          Same world (world.setPrompt id prompt) := same_setPrompt same
      show Keeps world (if _ then warningReply world id accepted else world)
      split_ifs
      · rw [warningReply]
        split_ifs with late
        · exact .refl _
        · simp only [Bool.or_eq_true, not_or, Bool.not_eq_true] at late
          have same := marked { world.prompts id with
            warningPending := false, protectedPathConfirmed := true } rfl
          refine same.keeps.trans (keeps_submit fun _ => ?_)
          rw [same.gists, fresh late.1.2]
        · have same := marked { world.prompts id with
            warningPending := false } rfl
          exact same.keeps.trans ((ready.same same).answers id .cancelled)
      · exact .refl _
  | cancel => exact ready.answers id .cancelled
  | failed error => exact ready.answers id _
  | ready =>
      have named (changed : Interaction) :
          Same world (setInteraction world changed) :=
        .of_prompts ⟨rfl, rfl, rfl⟩ rfl
      show Keeps world (readyReply world found id)
      rw [readyReply]
      split_ifs
      · exact (named _).keeps.trans (keeps_submit fresh)
      · exact (named _).keeps
      · exact .refl _

/-! ## Workers -/

/-- A worker has written the flags of the token, and goes on. -/
theorem same_worker
    {worker : Worker} (tokens : Nat → PinToken) (event : Event)
    (same : attemptOf worker = attemptOf (world.prompts id).worker) :
    Same world (({ world with tokens }.setPrompt id
      { world.prompts id with worker }).emit event) := by
  have written : Same world { world with tokens } :=
    .of_prompts ⟨rfl, rfl, rfl⟩ rfl
  have moved : Same { world with tokens } ({ world with tokens }.setPrompt id
      { world.prompts id with worker }) := by
    apply same_setPrompt
    show gist { world.prompts id with worker } = gist (world.prompts id)
    simp only [gist, same]
  exact (written.trans moved).trans (same_emit ..)

/-- The login function is called and returns. -/
theorem continues_returned
    {prompt : PinPrompt} {worker : Worker} {succeeded : Bool}
    (late : prompt.finished = false)
    (calling : attemptOf prompt.worker = .calling)
    (returned : attemptOf worker = .returned succeeded) :
    Composed Steps (conversationOf prompt)
      (conversationOf { prompt with worker }) := by
  let holding : Conversation :=
    ⟨.holding, prompt.cancelDeferred, prompt.loginSucceeded, false⟩
  have entered : Steps ⟨attemptOf prompt.worker, prompt.cancelDeferred,
      prompt.loginSucceeded, false⟩ holding := .enters calling
  have left : Steps holding { holding with attempt := .returned succeeded } :=
    .returns succeeded rfl
  have before : (gist prompt).finished = false := late
  have after : (gist { prompt with worker }).finished = false := late
  rw [conversationOf_of_unfinished before,
    conversationOf_of_unfinished after]
  show Composed Steps _ ⟨attemptOf worker, prompt.cancelDeferred,
    prompt.loginSucceeded, false⟩
  rw [returned]
  exact .tail (.single entered) left

theorem keeps_loginReturned
    {secret : Option XccSecret} (result : LoginResult)
    (late : (world.prompts id).finished = false)
    (works : (world.prompts id).worker = .loggingIn secret) :
    Keeps world (loginReturned world id secret result) := by
  let told := (world.freeSecret secret).emit (.loginReturned id result)
  have same : Same world told := (same_freeSecret ..).trans (same_emit ..)
  have record : told.prompts id = world.prompts id :=
    congrFun (freeSecret_prompts ..) id
  have returns (worker : Worker)
      (returned : attemptOf worker = .returned (result = .ok ())) :
      Keeps told (told.setPrompt id { world.prompts id with worker }) := by
    apply keeps_setPrompt
    rw [record]
    apply continues_returned late _ returned
    rw [works]
    rfl
  rw [loginReturned]
  split_ifs
  · exact same.keeps.trans (returns _ rfl)
  · exact (same.keeps.trans (returns _ rfl)).trans (same_emit ..).keeps

/-! ## The end of a worker -/

/-- A worker that has returned is judged. -/
theorem judged_of_returned
    {prompt : PinPrompt} {succeeded : Bool}
    (late : (gist prompt).finished = false)
    (returned : (gist prompt).attempt = .refreshing ∧ succeeded = false ∨
      (gist prompt).attempt = .returned succeeded) :
    (conversationOf prompt).judged =
      some
        { attempt := .none, deferred := (gist prompt).deferred
          succeeded := (gist prompt).succeeded || succeeded
          finished := false } := by
  rw [conversationOf_of_unfinished late]
  rcases returned with ⟨refreshing, rfl⟩ | returned
  · simp [Conversation.judged, refreshing]
  · simp [Conversation.judged, returned]

/-- What is left to be done once a worker has been judged. -/
structure Judges (world ended next : World) (id : Nat) : Prop where
  others : ∀ other, other ≠ id → ended.prompts other = world.prompts other
  numbered : ended.nextPrompt = world.nextPrompt
  goes : Keeps ended next
  /-- A deferred answer is given. -/
  answers : (gist (world.prompts id)).deferred = true →
    (gist (next.prompts id)).finished = true

theorem Judges.keeps
    {ended next : World} {succeeded : Bool}
    (judges : Judges world ended next id)
    (late : (gist (world.prompts id)).finished = false)
    (returned : (gist (world.prompts id)).attempt = .refreshing ∧
        succeeded = false ∨
      (gist (world.prompts id)).attempt = .returned succeeded)
    (judged : gist (ended.prompts id) =
      ⟨false, false, false,
        (gist (world.prompts id)).succeeded || succeeded, .none⟩) :
    Keeps world next := by
  refine ⟨judges.goes.nextPrompt.trans judges.numbered, fun other => ?_⟩
  by_cases here : other = id
  · subst here
    have moves := judged_of_returned late returned
    cases deferred : (gist (world.prompts other)).deferred with
    | true =>
        exact continues_judged moves rfl (judges.answers deferred)
    | false =>
        rw [deferred] at moves
        have same : conversationOf (ended.prompts other) =
            ⟨.none, false,
              (gist (world.prompts other)).succeeded || succeeded,
              false⟩ := by
          rw [conversationOf, judged]
          rfl
        have goes := judges.goes.continues other
        rw [same] at goes
        exact .head (.goes .judge moves) goes
  · have goes := judges.goes.continues other
    rwa [judges.others other here] at goes

theorem prompts_of_ne
    {prompt : PinPrompt} {other : Nat} (different : other ≠ id) :
    (world.setPrompt id prompt).prompts other = world.prompts other :=
  Function.update_of_ne different ..

theorem keeps_refreshDone
    (coupled : Coupled frame)
    (phase : frame.phases id = .refreshed) :
    Keeps frame.world (onRefreshDone frame.world id) := by
  have fits := coupled.fits id
  rw [phase] at fits
  have works : (frame.world.prompts id).worker = .refreshed := fits.worker
  have late : (frame.world.prompts id).finished = false := fits.finished
  have quiet : (frame.world.prompts id).loginInFlight = false :=
    fits.loginInFlight
  have after := (Moves.coupled (.refreshEnded frame phase) coupled).1
  have ready : Ready (endRefresh frame.world id) := ready_of_coupled after
  have record : gist ((endRefresh frame.world id).prompts id) =
      ⟨false, false, false,
        (gist (frame.world.prompts id)).succeeded || false, .none⟩ := by
    rw [endRefresh, World.setPrompt_self]
    simp [gist, late, quiet, attemptOf]
  have judges : Judges frame.world (endRefresh frame.world id)
      (onRefreshDone frame.world id) id := by
    refine ⟨fun other => prompts_of_ne, rfl, ?_, fun deferred => ?_⟩
    · rw [onRefreshDone]
      split_ifs
      · exact ready.answers id _
      · exact ready.answers id _
      · exact .refl _
      · have active := (after.active id).mpr (by
          rw [show (frame.goes id .deciding _).phases id = .deciding from
            Function.update_self ..]
          rfl)
        exact keeps_showThen (startNext_follows _) ready.prepared
          (ready.apart id active)
    · have here : (frame.world.prompts id).cancelDeferred = true := deferred
      rw [onRefreshDone, if_pos here]
      exact ready.answers_finished _ (by rw [record])
  have refreshing : (gist (frame.world.prompts id)).attempt =
      .refreshing := by
    rw [gist, works]
    rfl
  exact judges.keeps late (.inl ⟨refreshing, rfl⟩) record

theorem keeps_loginFailed
    (ready : Ready world) (error : Option CertificatePkcs11ErrorCode) :
    Keeps world (loginFailed world id error) := by
  have same := same_setBusy world id false
  have idle := ready.same same
  have answered (outcome : CertificatePinOutcome) :
      Keeps world (answer (setBusy world id false) id outcome) :=
    same.keeps.trans (idle.answers id outcome)
  have retried : Keeps world (retry (setBusy world id false) id) :=
    ((same.trans (same_cleared _ id)).trans (same_pinUpdate ..)).keeps
  cases error with
  | none => exact answered .deviceError
  | some code =>
      cases code with
      | cancelled => exact answered .cancelled
      | pinIncorrect =>
          rw [loginFailed]
          split_ifs
          · exact answered .locked
          · exact answered .incorrect
          · exact answered .incorrect
          · exact retried
      | pinLocked => exact answered .locked
      | tokenRemoved => exact answered .tokenRemoved
      | _ => exact answered .deviceError

theorem keeps_loginDone
    {result : LoginResult} (coupled : Coupled frame)
    (phase : frame.phases id = .loggedIn result) :
    Keeps frame.world (onLoginDone frame.world id result) := by
  have fits := coupled.fits id
  rw [phase] at fits
  have works : (frame.world.prompts id).worker = .loggedIn result :=
    fits.worker
  have late : (frame.world.prompts id).finished = false := fits.finished
  have quiet : (frame.world.prompts id).refreshInFlight = false :=
    fits.refreshInFlight
  have after := (Moves.coupled (.loginEnded frame phase) coupled).1
  have ready : Ready (endLogin frame.world id result) :=
    ready_of_coupled after
  have record : gist ((endLogin frame.world id result).prompts id) =
      ⟨false, false, false,
        (gist (frame.world.prompts id)).succeeded ||
          decide (result = .ok ()), .none⟩ := by
    rw [endLogin, World.setPrompt_self]
    simp [gist, late, quiet, attemptOf]
  have judges : Judges frame.world (endLogin frame.world id result)
      (onLoginDone frame.world id result) id := by
    refine ⟨fun other => prompts_of_ne, rfl, ?_, fun deferred => ?_⟩
    · rw [onLoginDone.eq_def]
      dsimp only
      split_ifs
      · exact ready.answers id _
      · exact .refl _
      · cases result with
        | ok => exact ready.answers id .ok
        | error error => exact keeps_loginFailed ready error
    · rw [onLoginDone.eq_def]
      dsimp only
      have here : (frame.world.prompts id).cancelDeferred = true := deferred
      rw [if_pos here]
      exact ready.answers_finished _ (by rw [record])
  have returned : (gist (frame.world.prompts id)).attempt =
      .returned (result = .ok ()) := by
    rw [gist, works]
    rfl
  exact judges.keeps late (.inr returned) record

/-! ## Choosers, cancellables and replies -/

theorem same_chooserShown
    (world : World) (id : Nat) (chooser : Chooser) (call : UiCall) :
    Same world (message (world.setChooser id chooser) (.chooser id) call) := by
  have marked : Same world (world.setChooser id chooser) :=
    .of_prompts ⟨rfl, rfl, rfl⟩ rfl
  exact marked.trans (same_message ..)

theorem same_showChooser
    (world : World) (cancellable : Option Nat)
    (candidates : List CertificateCandidate) (tokensPresent : Bool) :
    Same world (showChooser world cancellable candidates tokensPresent) := by
  have numbered : Same world
      { world with nextChooser := world.nextChooser + 1 } :=
    .of_prompts ⟨rfl, rfl, rfl⟩ rfl
  rw [showChooser]
  split_ifs
  · exact numbered.trans (same_chooserShown ..)
  · exact numbered.trans (same_emit ..)

theorem same_chooserUpdate
    (world : World) (id : Nat) (candidates : List CertificateCandidate)
    (tokensPresent : Bool) :
    Same world (chooserUpdate world id candidates tokensPresent) := by
  rw [chooserUpdate]
  dsimp only
  split_ifs
  · exact .refl _
  · exact same_chooserShown ..

theorem same_chooserSetTokensReading
    (world : World) (id : Nat) (reading : Bool) :
    Same world (chooserSetTokensReading world id reading) := by
  rw [chooserSetTokensReading]
  dsimp only
  split_ifs
  · exact .refl _
  · exact same_chooserShown ..

theorem same_chooserIdle (world : World) (id : Nat) :
    Same world (Core.Chooser.onCancelledIdle world id) := by
  have marked (chooser : Core.Coordinator.Chooser) :
      Same world (world.setChooser id chooser) :=
    .of_prompts ⟨rfl, rfl, rfl⟩ rfl
  exact (marked _).trans (same_chooserFinish ..)

theorem same_cancel (world : World) (cancellable : Nat) :
    Same world (cancel world cancellable) := by
  refine ⟨(cancel_still world cancellable).1, fun id => ?_⟩
  rw [cancel]
  split_ifs
  · rfl
  · dsimp only
    split_ifs
    · rw [Core.Pin.onCancelled]
      split_ifs <;> rfl
    · rfl

theorem same_sendReply (world : World) (reply : Reply) :
    Same world (sendReply world reply) := by
  rw [sendReply]
  cases replyPage (Reply.numbered reply world.nextSecret) with
  | none =>
      split_ifs
      · exact .of_prompts ⟨rfl, rfl, rfl⟩ rfl
      · exact .of_prompts ⟨rfl, rfl, rfl⟩ rfl
  | some page =>
      split_ifs
      · exact .of_prompts ⟨rfl, rfl, rfl⟩ rfl
      · exact .of_prompts ⟨rfl, rfl, rfl⟩ rfl

theorem keeps_receive
    (between : Between frame) {index : Nat} {next : World}
    (moves : receive frame.world index = some next) :
    Keeps frame.world next := by
  rw [receive, Option.map_eq_some_iff] at moves
  rcases moves with ⟨received, waiting, rfl⟩
  have moves := Moves.received frame waiting between.hand
  have coupled := (Moves.coupled moves between.coupled).1
  have receiving : Receiving { frame with
      world := { frame.world with
        inbox := frame.world.inbox.eraseIdx index }.emit (.replied received)
      hand := replyPage received } (replyPage received) :=
    ⟨coupled, between.running, rfl, between.rests, between.queue⟩
  have taken : Same frame.world ({ frame.world with
      inbox := frame.world.inbox.eraseIdx index }.emit
        (.replied received)) := .of_prompts ⟨rfl, rfl, rfl⟩ rfl
  refine taken.keeps.trans ?_
  rw [reply]
  cases lookup : named _ received with
  | none => exact (same_freeSecret ..).keeps
  | some found =>
      dsimp only
      cases subject : found.subject with
      | chooser id => exact (same_chooserReply ..).keeps
      | pin id =>
          refine keeps_promptReply (ready_of_coupled coupled) _ fun idle => ?_
          have member := List.mem_of_find?_eq_some lookup
          have phase := receiving.waiting member subject idle
          exact gist_fresh (coupled.fits id) (.inr phase)

/-! ## Logins -/

/-- The conversation of a prompt; one that has not been asked for is at its
start. -/
def talk (world : World) (id : Nat) : Conversation :=
  if id < world.nextPrompt then conversationOf (world.prompts id) else .start

theorem Keeps.converses (keeps : Keeps first second) (id : Nat) :
    Composed Steps (talk first id) (talk second id) := by
  rw [talk, talk, keeps.nextPrompt]
  split_ifs
  · exact keeps.continues id
  · exact .refl

theorem gist_newPrompt (world : World) (login : PinLogin) :
    (∀ other, other ≠ world.nextPrompt →
        gist ((newPrompt world login).prompts other) =
          gist (world.prompts other)) ∧
      gist ((newPrompt world login).prompts world.nextPrompt) =
        .fresh := by
  constructor
  · intro other different
    exact congrArg gist (Function.update_of_ne different ..)
  · show gist (Function.update world.prompts world.nextPrompt _
      world.nextPrompt) = _
    rw [Function.update_self]
    split_ifs <;> rfl

/-- A new prompt is at the start of its conversation. -/
theorem talk_newPrompt (world : World) (login : PinLogin) (id : Nat) :
    talk (newPrompt world login) id = talk world id := by
  rcases gist_newPrompt world login with ⟨others, here⟩
  have numbered : (newPrompt world login).nextPrompt =
    world.nextPrompt + 1 := rfl
  rw [talk, talk, numbered]
  rcases Nat.lt_trichotomy id world.nextPrompt with old | rfl | later
  · rw [if_pos (Nat.lt_succ_of_lt old), if_pos old, conversationOf,
      conversationOf, others id old.ne]
  · rw [if_pos (Nat.lt_succ_self _), if_neg (Nat.lt_irrefl _),
      conversationOf, here]
    rfl
  · rw [if_neg (by omega), if_neg (by omega)]

/-- A refused login is answered at once. -/
theorem converses_refuse
    (coupled : Coupled frame) (login : PinLogin) (id : Nat) :
    Composed Steps (talk frame.world id)
      (talk (refuse frame.world login) id) := by
  have records : (refuse frame.world login).prompts = frame.world.prompts ∧
      (refuse frame.world login).nextPrompt =
        frame.world.nextPrompt + 1 := by
    rw [refuse]
    split_ifs <;> exact ⟨rfl, rfl⟩
  rw [talk, talk, records.1, records.2]
  rcases Nat.lt_trichotomy id frame.world.nextPrompt with old | same | later
  · rw [if_pos (Nat.lt_succ_of_lt old), if_pos old]
  · have lived := (coupled.fits id).lived
    rw [(coupled.born id).mpr same.ge] at lived
    rw [if_neg same.not_lt, if_pos (by omega), lived.1]
    exact .single (.ends rfl)
  · rw [if_neg (by omega), if_neg (by omega)]

/-- A login that is begun at once has no queue before it. -/
theorem prepared_newPrompt
    (between : Between frame) (login : PinLogin) :
    Prepared (newPrompt frame.world login) [] := by
  rcases gist_newPrompt frame.world login with ⟨others, here⟩
  refine ⟨fun id => ?_, nofun, List.nodup_nil⟩
  by_cases same : id = frame.world.nextPrompt
  · rw [same, here]
    exact iff_of_false nofun fun busy => busy rfl
  · rw [others id same]
    exact gist_flagged (between.coupled.fits id)

theorem converses_login
    (between : Between frame) (login : PinLogin) (id : Nat) :
    Composed Steps (talk frame.world id)
      (talk (pinLoginFullKind frame.world login) id) := by
  rcases gist_newPrompt frame.world login with ⟨-, here⟩
  rw [pinLoginFullKind]
  dsimp only
  split_ifs with available busy
  · have same := talk_newPrompt frame.world login id
    rw [← same]
    exact .refl
  · have idle : frame.world.pinActive = none :=
      Option.not_isSome_iff_eq_none.mp busy
    have empty : (newPrompt frame.world login).pinQueue = [] :=
      between.queue idle
    have started := keeps_startThen (startNext_follows [])
      (prepared_newPrompt between login) List.not_mem_nil here
    rw [← talk_newPrompt frame.world login id]
    rw [promptStart, empty]
    exact started.converses id
  · exact converses_refuse between.coupled login id

/-! ## All actions -/

theorem converses_step
    (between : Between frame) {action : Action} {next : World}
    (moves : step frame.world action = some next) (id : Nat) :
    Composed Steps (talk frame.world id) (talk next id) := by
  have ready := ready_of_coupled between.coupled
  have fits (prompt : Nat) := between.coupled.fits prompt
  cases action with
  | login login =>
      cases moves
      exact converses_login between login id
  | chooser cancellable candidates present =>
      cases moves
      exact (same_showChooser ..).keeps.converses id
  | updateChooser chooser candidates present =>
      cases moves
      exact (same_chooserUpdate ..).keeps.converses id
  | readTokens chooser reading =>
      cases moves
      exact (same_chooserSetTokensReading ..).keeps.converses id
  | cancel cancellable =>
      cases moves
      exact (same_cancel ..).keeps.converses id
  | send reply =>
      cases moves
      exact (same_sendReply ..).keeps.converses id
  | receive index => exact (keeps_receive between moves).converses id
  | refreshReturned prompt flags =>
      rcases step_refreshReturned moves with ⟨works, rfl⟩
      exact (same_worker _ _ (by rw [works]; rfl)).keeps.converses id
  | refreshDone prompt =>
      rcases step_refreshDone moves with ⟨works, rfl⟩
      have phase := refreshed_of (works ▸ (fits prompt).worker)
      exact (keeps_refreshDone between.coupled phase).converses id
  | loginReturned prompt result =>
      rcases step_loginReturned moves with ⟨secret, works, rfl⟩
      have phase := loggingIn_of (works ▸ (fits prompt).worker)
      have late : (frame.world.prompts prompt).finished = false := by
        rw [(fits prompt).finished, phase]
        rfl
      exact (keeps_loginReturned result late works).converses id
  | loginRefreshed prompt flags =>
      rcases step_loginRefreshed moves with ⟨result, works, rfl⟩
      exact (same_worker _ _ (by rw [works]; rfl)).keeps.converses id
  | loginDone prompt =>
      rcases step_loginDone moves with ⟨result, works, rfl⟩
      have phase := loggedIn_of (works ▸ (fits prompt).worker)
      exact (keeps_loginDone between.coupled phase).converses id
  | taskFinalized prompt =>
      rw [step] at moves
      split_ifs at moves
      cases moves
      have ended : Same frame.world (frame.world.setPrompt prompt
          { frame.world.prompts prompt with
            tasks := (frame.world.prompts prompt).tasks - 1 }) :=
        same_setPrompt rfl
      exact (ended.trans (same_promptUnref ..)).keeps.converses id
  | loginTimeout prompt =>
      rw [step] at moves
      split_ifs at moves
      cases moves
      have fired : Same frame.world (frame.world.setPrompt prompt
          { frame.world.prompts prompt with loginTimeout := false }) :=
        same_setPrompt rfl
      rw [onLoginTimeout]
      split_ifs
      · exact (fired.keeps.trans
          ((ready.same fired).answers prompt .timedOut)).converses id
      · exact fired.keeps.converses id
  | cancelledIdle prompt =>
      rw [step] at moves
      split_ifs at moves
      cases moves
      have runs : Same frame.world (frame.world.setPrompt prompt
          { frame.world.prompts prompt with cancelIdle := false }) :=
        same_setPrompt rfl
      exact ((runs.keeps.trans
        ((ready.same runs).answers prompt .cancelled)).trans
          (same_promptUnref ..).keeps).converses id
  | chooserCancelledIdle chooser =>
      rw [step] at moves
      split_ifs at moves
      cases moves
      exact (same_chooserIdle ..).keeps.converses id
  | deliver =>
      rw [step, deliver] at moves
      split at moves
      · cases moves
      · cases moves
        exact .refl
  | stop =>
      cases moves
      exact .refl
  | shutdown =>
      rw [step] at moves
      split_ifs at moves
      cases moves
      exact .refl

/-! ## Reachable states -/

/-- Whatever the coordinator dispatches, every prompt converses as the
broker expects. -/
theorem prompts_converse
    {world next : World} (reachable : machine.Reachable world)
    {action : Action} (moves : machine.step world action = some next)
    (id : Nat) : Composed Steps (talk world id) (talk next id) := by
  rcases reachable_arrived reachable with ⟨frame, rfl, arrived⟩
  exact converses_step arrived.between moves id

/-- A prompt has come to where it is by a conversation from its start. -/
theorem conversation_of_reachable
    {world : World} (reachable : machine.Reachable world) (id : Nat) :
    Composed Steps .start (talk world id) := by
  induction reachable with
  | initial start =>
      rcases start with ⟨pin, chooser, timeout, tokens, rfl⟩
      exact .refl
  | step before _ moves ih =>
      exact ih.trans (prompts_converse before moves id)

/-- The conversation is closed when `done` has been called. -/
theorem talk_finished_iff
    {world : World} (reachable : machine.Reachable world) (id : Nat) :
    (talk world id).finished = true ↔
      ∃ outcome, .done id outcome ∈ world.trace := by
  rcases reachable_arrived reachable with ⟨frame, rfl, arrived⟩
  have coupled := arrived.between.coupled
  have calm := arrived.between.rests id
  have fits := coupled.fits id
  have lived := fits.lived
  have born := coupled.born id
  have ended : (talk frame.world id).finished = true ↔
      frame.phases id ≠ .unborn ∧ (frame.phases id).finished = true := by
    rw [talk, ← fits.finished, ne_eq, born, not_le]
    split_ifs with old
    · rw [and_iff_right old, conversationOf, Gist.conversation]
      show (if (frame.world.prompts id).finished = true then _
        else _ : Conversation).finished = true ↔ _
      split_ifs with finished
      · exact iff_of_true rfl finished
      · exact iff_of_false nofun finished
    · exact iff_of_false nofun fun both => old both.1
  rw [ended]
  show _ ↔ Core.PromptLife.Answered id frame.world.trace
  rw [← Core.PromptLife.answered_history]
  cases phase : frame.phases id <;> rw [phase] at lived calm
  case unborn =>
    rw [lived.2]
    exact iff_of_false (fun both => both.1 rfl) nofun
  case refused =>
    rcases lived with ⟨-, login, past⟩
    rw [past]
    refine iff_of_true ⟨nofun, rfl⟩ ⟨.noDisplay, ?_⟩
    exact List.mem_append_right _ (List.mem_cons_self ..)
  case answered | freed =>
    exact iff_of_true ⟨nofun, rfl⟩
      (Core.PromptLife.Course.answered lived rfl)
  all_goals first
    | exact Bool.noConfusion calm
    | skip
  all_goals
    refine iff_of_false (fun both => nomatch both.2) ?_
    rintro ⟨outcome, answered⟩
    exact (Course.open_of_not_done lived rfl).not_mem rfl answered

/-! ## The broker's side -/

/-- The broker takes every step of the prompt of a login; a call of the login
function waits for the device. -/
theorem broker_accepts
    {world : Login.World} {interaction : Nat} {next : Conversation}
    (steps : Steps (world.interactions interaction).conversation next) :
    (world.deviceLocked = true ∧
        (world.interactions interaction).conversation.attempt = .calling) ∨
      ∃ action after, Machine.machine.step world action = some after := by
  generalize same : (world.interactions interaction).conversation =
    conversation at steps
  cases steps with
  | goes action moves =>
      have goes : Machine.promptStep world interaction action =
          some (world.setInteraction interaction
            { world.interactions interaction with conversation := next }) := by
        rw [Machine.promptStep]
        dsimp only
        rw [same, moves]
        rfl
      exact .inr ⟨.prompt interaction action, _, goes⟩
  | enters calling =>
      cases locked : world.deviceLocked with
      | true => exact .inl ⟨rfl, calling⟩
      | false =>
          let answers : Device.OpenAnswers := ⟨[], none, .ok 0, none⟩
          exact .inr ⟨.login interaction answers,
            Machine.doLogin world interaction answers,
            if_pos ⟨same ▸ calling, locked⟩⟩
  | returns succeeded holding =>
      exact .inr ⟨.endLogin interaction 0 none,
        Machine.endLogin world interaction 0 none, if_pos (same ▸ holding)⟩
  | ends quiet =>
      exact .inr ⟨.pinDone interaction .ok,
        Login.onPinDone world interaction .ok, if_pos (same ▸ quiet)⟩

end PortalCertificate.Broker.PromptConversations
