import PortalCertificate.Core.PromptEvents
import PortalCertificate.Core.PromptInvariant

/-!
# Dispatches are made of moves

A dispatch of the coordinator begins and ends in a frame in which no prompt
is about to be judged, no idle source is running and no page is held by a
reply.  In between it makes moves.  The recursion of an answer into the next
prompt of the queue follows the queue.
-/

namespace PortalCertificate.Core.PromptRuns

open PortalCertificate.Core.Chooser
open PortalCertificate.Core.Coordinator
open PortalCertificate.Core.Interactions
open PortalCertificate.Core.Pin
open PortalCertificate.Core.PromptCourse
open PortalCertificate.Core.PromptEvents
open PortalCertificate.Core.PromptFits
open PortalCertificate.Core.PromptInvariant
open PortalCertificate.Core.PromptMoves
open PortalCertificate.Core.PromptSteps
open PortalCertificate.Core.PromptViews
open PortalCertificate.Core.Secret
open PortalCertificate.Core.Ui
open PortalCertificate.Library.Trace
open PortalCertificate.Library.Transition
open PortalCertificate.Tokens.Discovery

/-! ## Calls -/

/-- A phase in which a dispatch can leave a prompt. -/
def rests : Phase → Bool
  | .deciding | .holding | .landed _ | .answering _ _ => false
  | _ => true

/-- A phase in which the code may answer a prompt. -/
def judged (phase : Phase) : Bool := rests phase || phase.answerable

/-- The event is not an attempt to log in. -/
abbrev NoAttempt (event : Event) : Prop := isAttempt event = false

/-- A part of a dispatch that leaves the prompts it has called at rest. -/
structure Calls (first second : Frame) (called : List Nat) : Prop where
  moves : Composed Moves first second
  running : second.running = first.running
  hand : second.hand = first.hand
  others : ∀ id, id ∉ called → second.phases id = first.phases id
  rests : ∀ id ∈ called, rests (second.phases id) = true
  queue : second.world.pinActive = none → second.world.pinQueue = []
  quiet : Adds NoAttempt first.world.trace second.world.trace

/-- Some frame of this world is reached, with these callbacks on the way. -/
def Reaches (first : Frame) (called : List Nat) (world : World) : Prop :=
  ∃ second, second.world = world ∧ Calls first second called

/-- What has to be known of the function that starts the next prompt. -/
def Follows (next : World → World) (queue : List Nat) : Prop :=
  ∀ frame, Coupled frame → frame.world.pinActive = none →
    frame.world.pinQueue = queue →
      Reaches frame queue (next frame.world)

variable
  {frame first middle last : Frame} {id : Nat} {queue called : List Nat}
  {next : World → World}

theorem Calls.head
    (calls : Calls middle last called) (moves : Moves first middle)
    (running : middle.running = first.running)
    (hand : middle.hand = first.hand)
    (others : ∀ id, id ∉ called → middle.phases id = first.phases id)
    (quiet : Adds NoAttempt first.world.trace middle.world.trace) :
    Calls first last called where
  moves := Relation.ReflTransGen.head moves calls.moves
  running := calls.running.trans running
  hand := calls.hand.trans hand
  others id apart := (calls.others id apart).trans (others id apart)
  rests := calls.rests
  queue := calls.queue
  quiet := quiet.trans calls.quiet

/-- The phase of the prompt of a move is the only one that changes. -/
theorem goes_others
    {phase : Phase} {world : World} (member : id ∈ called) (other : Nat)
    (apart : other ∉ called) :
    (frame.goes id phase world).phases other = frame.phases other :=
  Function.update_of_ne (fun same => apart (by rwa [same])) ..

theorem Coupled.queue_rests
    (coupled : Coupled frame) (other : Nat)
    (member : other ∈ frame.world.pinQueue) :
    PromptRuns.rests (frame.phases other) = true := by
  rw [(coupled.queued other).mp member]
  rfl

/-- Nothing has happened. -/
theorem Coupled.reaches_self
    (coupled : Coupled frame) (same : frame.world.pinQueue = queue)
    (idle : frame.world.pinActive = none → queue = [])
    (calm : PromptRuns.rests (frame.phases id) = true) :
    Reaches frame (id :: queue) frame.world := by
  refine ⟨frame, rfl, .refl, rfl, rfl, fun _ _ => rfl, ?_, ?_, .refl _⟩
  · intro other member
    rcases List.mem_cons.mp member with rfl | member
    · exact calm
    · exact Coupled.queue_rests coupled other (same ▸ member)
  · exact fun none => same.trans (idle none)

/-- One move that leaves its prompt at rest and keeps the queue. -/
theorem Coupled.reaches_move
    (coupled : Coupled frame) (same : frame.world.pinQueue = queue)
    (idle : frame.world.pinActive = none → queue = [])
    {phase : Phase} {world : World}
    (moves : Moves frame (frame.goes id phase world))
    (calm : PromptRuns.rests phase = true) (still : Still frame.world world)
    (quiet : Adds NoAttempt frame.world.trace world.trace) :
    Reaches frame (id :: queue) world := by
  refine ⟨_, rfl, .single moves, rfl, rfl,
    goes_others (List.mem_cons_self ..), ?_, ?_, quiet⟩
  · intro other member
    by_cases here : other = id
    · rw [here]
      show PromptRuns.rests (Function.update frame.phases id phase id) = true
      rw [Function.update_self]
      exact calm
    · show PromptRuns.rests (Function.update frame.phases id phase other) =
        true
      rw [Function.update_of_ne here]
      exact Coupled.queue_rests coupled other
        (same ▸ (List.mem_cons.mp member).resolve_left here)
  · intro none
    show world.pinQueue = []
    rw [still.pinQueue, same]
    exact idle (still.pinActive ▸ none)

/-! ## Answers -/

/-- A prompt that can still be answered at once. -/
theorem answerable_of
    {phase : Phase} (able : judged phase = true)
    (late : phase.finished = false)
    (free : (phase.refreshes || phase.logsIn) = false) :
    phase.answerable = true := by
  cases phase <;> first
    | rfl
    | exact Bool.noConfusion late
    | exact Bool.noConfusion free
    | exact Bool.noConfusion able

theorem rests_of_finished
    {phase : Phase} (able : judged phase = true)
    (ended : phase.finished = true) : rests phase = true := by
  cases phase <;> first
    | rfl
    | exact Bool.noConfusion ended
    | exact Bool.noConfusion able

theorem rests_of_flying
    {phase : Phase} (flying : (phase.refreshes || phase.logsIn) = true) :
    rests phase = true := by
  cases phase <;> first
    | rfl
    | exact Bool.noConfusion flying

/-- The active prompt is answered, and the next one is started first. -/
theorem reaches_answered
    (follows : Follows next queue) (coupled : Coupled frame)
    (same : frame.world.pinQueue = queue)
    (active : (frame.phases id).isActive = true)
    (ready : (frame.phases id).answerable = true)
    (outcome : CertificatePinOutcome) :
    Reaches frame (id :: queue)
      (callDone (next { shut frame.world id with pinActive := none }) id
        outcome (mustAbandon (frame.world.prompts id) outcome)) := by
  have retired := Moves.retired frame outcome active ready
  let first := frame.goes id (.answering outcome (frame.phases id).succeeded)
    { shut frame.world id with pinActive := none }
  have shut_coupled : Coupled first := (Moves.coupled retired coupled).1
  have still := still_shut frame.world id
  rcases follows first shut_coupled rfl (still.pinQueue.trans same) with
    ⟨second, reached, calls⟩
  have outside : id ∉ queue := by
    intro member
    rw [(coupled.queued id).mp (same ▸ member)] at active
    cases active
  have phase : second.phases id =
      .answering outcome (frame.phases id).succeeded :=
    (calls.others id outside).trans (Function.update_self ..)
  have after := Coupled.run shut_coupled calls.moves
  have undo : mustAbandon (second.world.prompts id) outcome =
      mustAbandon (frame.world.prompts id) outcome := by
    have early : (frame.phases id).isDone = false := by
      cases at_ : frame.phases id <;> rw [at_] at ready <;>
        first | rfl | cases ready
    have alive : frame.phases id ≠ .unborn := by
      intro unborn
      rw [unborn] at active
      cases active
    have steady := (Steady.run coupled
      (Relation.ReflTransGen.head retired calls.moves)).1 id alive
    have here := (Coupled.at after phase).succeeded rfl
    have there := (coupled.fits id).succeeded early
    rw [mustAbandon, mustAbandon, steady.1, here, there]
    rfl
  have done := Moves.done second phase
  rw [undo] at done
  have calmed := still_callDone second.world id outcome
    (mustAbandon (frame.world.prompts id) outcome)
  have holds := (Coupled.at after phase).secret
  rw [← show second.world = next { shut frame.world id with
    pinActive := none } from reached]
  refine ⟨_, rfl, (Relation.ReflTransGen.head retired calls.moves).tail done,
    calls.running, calls.hand, ?_, ?_, ?_, ?_⟩
  · intro other apart
    rw [goes_others (List.mem_cons_self ..) other apart,
      calls.others other fun member => apart (List.mem_cons_of_mem _ member)]
    exact goes_others (List.mem_cons_self ..) other apart
  · intro other member
    by_cases here : other = id
    · rw [here]
      show rests (Function.update second.phases id _ id) = true
      rw [Function.update_self, settled]
      split_ifs <;> rfl
    · show rests (Function.update second.phases id _ other) = true
      rw [Function.update_of_ne here]
      exact calls.rests other
        ((List.mem_cons.mp member).resolve_left here)
  · intro none
    exact calmed.pinQueue.trans
      (calls.queue (calmed.pinActive.symm.trans none))
  · have before : Adds NoAttempt frame.world.trace
        (shut frame.world id).trace := shut_adds _ (fun _ _ => rfl) rfl
    have answered : Adds NoAttempt frame.world.trace
        (.done id outcome :: second.world.trace) :=
      (before.trans calls.quiet).cons rfl
    exact answered.trans (callDone_adds _ (fun _ _ => rfl) rfl rfl)

/-- A prompt that is still in the queue is answered. -/
theorem reaches_dequeued
    (coupled : Coupled frame) (same : frame.world.pinQueue = queue)
    (idle : frame.world.pinActive = none → queue = [])
    (phase : frame.phases id = .queued) (outcome : CertificatePinOutcome) :
    Reaches frame (id :: queue)
      (callDone { shut frame.world id with
        pinQueue := (shut frame.world id).pinQueue.erase id } id outcome
          (mustAbandon (frame.world.prompts id) outcome)) := by
  have still := still_shut frame.world id
  have plain : mustAbandon (frame.world.prompts id) outcome = false := by
    rw [mustAbandon, (Coupled.at coupled phase).succeeded rfl]
    rfl
  let left : World := { shut frame.world id with
    pinQueue := frame.world.pinQueue.erase id }
  have calmed := still_callDone left id outcome false
  have moves := Moves.dequeued frame outcome phase
  rw [plain, still.pinQueue]
  refine ⟨_, rfl, .single moves, rfl, rfl,
    goes_others (List.mem_cons_self ..), ?_, ?_, ?_⟩
  · intro other member
    by_cases here : other = id
    · rw [here]
      show rests (Function.update frame.phases id _ id) = true
      rw [Function.update_self, settled]
      split_ifs <;> rfl
    · show rests (Function.update frame.phases id _ other) = true
      rw [Function.update_of_ne here]
      exact Coupled.queue_rests coupled other
        (same ▸ (List.mem_cons.mp member).resolve_left here)
  · intro none
    have inactive : frame.world.pinActive = Option.none :=
      still.pinActive.symm.trans (calmed.pinActive.symm.trans none)
    have empty : left.pinQueue = [] := by
      show frame.world.pinQueue.erase id = []
      rw [same, idle inactive]
      rfl
    exact calmed.pinQueue.trans empty
  · have before : Adds NoAttempt frame.world.trace left.trace :=
      shut_adds _ (fun _ _ => rfl) rfl
    have answered : Adds NoAttempt frame.world.trace
        (.done id outcome :: left.trace) := before.cons rfl
    exact answered.trans (callDone_adds left (fun _ _ => rfl) rfl rfl)

theorem still_defer
    (world : World) (id : Nat) (outcome : CertificatePinOutcome) :
    Still world (defer world id outcome) := by
  rw [defer]
  dsimp only
  split_ifs
  · exact .refl _
  · exact still_setPrompt ..
  · exact (still_setPrompt ..).trans (still_hide ..)

theorem reaches_deferred
    (coupled : Coupled frame) (same : frame.world.pinQueue = queue)
    (idle : frame.world.pinActive = none → queue = [])
    (flying : ((frame.phases id).refreshes ||
      (frame.phases id).logsIn) = true) (outcome : CertificatePinOutcome) :
    Reaches frame (id :: queue) (defer frame.world id outcome) := by
  have moves := Moves.deferred frame outcome flying
  have turns : frame.turns (defer frame.world id outcome) =
      frame.goes id (frame.phases id) (defer frame.world id outcome) := by
    rw [Frame.goes, Function.update_eq_self, Frame.turns]
  refine Coupled.reaches_move coupled same idle (turns ▸ moves)
    (rests_of_flying flying) (still_defer ..) ?_
  rw [defer_trace]
  exact .refl _

theorem answerThen_reaches
    (follows : Follows next queue) (coupled : Coupled frame)
    (same : frame.world.pinQueue = queue)
    (idle : frame.world.pinActive = none → queue = [])
    (able : judged (frame.phases id) = true)
    (outcome : CertificatePinOutcome) :
    Reaches frame (id :: queue)
      (answerThen next frame.world id outcome) := by
  have fits := coupled.fits id
  have still := still_shut frame.world id
  rw [answerThen]
  simp only [fits.finished, fits.refreshInFlight, fits.loginInFlight]
  split_ifs with ended flying active
  · exact Coupled.reaches_self coupled same idle (rests_of_finished able ended)
  · exact reaches_deferred coupled same idle flying outcome
  · rw [still.pinActive, coupled.active] at active
    rw [Bool.not_eq_true] at ended flying
    exact reaches_answered follows coupled same active
      (answerable_of able ended flying) outcome
  · rw [still.pinActive, coupled.active] at active
    rw [Bool.not_eq_true] at ended flying active
    have ready := answerable_of able ended flying
    have phase : frame.phases id = .queued := by
      cases phase : frame.phases id <;> rw [phase] at ready active
      all_goals first
        | rfl
        | exact Bool.noConfusion ready
        | exact Bool.noConfusion active
    exact reaches_dequeued coupled same idle phase outcome

/-! ## Starts -/

theorem showThen_reaches
    (follows : Follows next queue) (coupled : Coupled frame)
    (same : frame.world.pinQueue = queue)
    (phase : frame.phases id = .deciding) :
    Reaches frame (id :: queue) (showThen next frame.world id) := by
  have active : frame.world.pinActive = some id := by
    rw [coupled.active, phase]
    rfl
  have idle : frame.world.pinActive = none → queue = [] := by
    rw [active]
    exact nofun
  rw [showThen]
  split_ifs
  · exact answerThen_reaches follows coupled same idle (by rw [phase]; rfl)
      .locked
  · refine Coupled.reaches_move coupled same idle
      (Moves.shown frame _ phase) rfl (still_message ..) ?_
    rw [message_trace]
    exact .refl _

/-- What `pin_prompt_start` does after it has made the prompt active. -/
theorem startThen_reaches
    (follows : Follows next queue) (coupled : Coupled frame)
    {world : World} (begun : frame.world = activate world id)
    (same : frame.world.pinQueue = queue)
    (phase : frame.phases id = .deciding) :
    Reaches frame (id :: queue) (startThen next world id) := by
  have active : frame.world.pinActive = some id := by
    rw [coupled.active, phase]
    rfl
  have idle : frame.world.pinActive = none → queue = [] := by
    rw [active]
    exact nofun
  rw [startThen]
  rw [← begun]
  split_ifs
  · exact answerThen_reaches follows coupled same idle (by rw [phase]; rfl)
      .cancelled
  · exact Coupled.reaches_move coupled same idle
      (Moves.refreshStarted frame phase) rfl ⟨rfl, rfl, rfl⟩
      ((Adds.refl _).cons rfl)
  · exact showThen_reaches follows coupled same phase

/-- The next prompt of any queue is started, and those that cannot be are
answered. -/
theorem startNext_follows (queue : List Nat) :
    Follows (startNext queue) queue := by
  induction queue with
  | nil =>
      intro frame coupled inactive same
      exact ⟨frame, rfl, .refl, rfl, rfl, fun _ _ => rfl, nofun,
        fun _ => same, .refl _⟩
  | cons head rest ih =>
      intro frame coupled inactive same
      have popped := Moves.popped frame inactive same
      have begun := (Moves.coupled popped coupled).1
      rcases startThen_reaches ih begun rfl rfl (Function.update_self ..)
        with ⟨second, reached, calls⟩
      refine ⟨second, reached, calls.head popped rfl rfl ?_ ?_⟩
      · exact goes_others (List.mem_cons_self ..)
      · exact (Adds.refl _).cons rfl

theorem answer_reaches
    (coupled : Coupled frame)
    (idle : frame.world.pinActive = none → frame.world.pinQueue = [])
    (able : judged (frame.phases id) = true)
    (outcome : CertificatePinOutcome) :
    Reaches frame (id :: frame.world.pinQueue)
      (answer frame.world id outcome) :=
  answerThen_reaches (startNext_follows _) coupled rfl idle able outcome

/-! ## Between dispatches -/

/-- The state between two dispatches: no callback is running, and every prompt
waits for something. -/
structure Between (frame : Frame) : Prop where
  coupled : Coupled frame
  running : frame.running = none
  hand : frame.hand = none
  rests : ∀ id, rests (frame.phases id) = true
  queue : frame.world.pinActive = none → frame.world.pinQueue = []

/-- Moves lead from the frame to the end of a dispatch. -/
def Ends (first : Frame) (world : World) : Prop :=
  ∃ second, second.world = world ∧ Composed Moves first second ∧
    Between second

/-- The same, without an attempt. -/
structure Quietly (first : Frame) (world : World) : Prop where
  ends : Ends first world
  quiet : Adds NoAttempt first.world.trace world.trace

theorem Ends.head
    {world : World} (ends : Ends middle world) (moves : Moves first middle) :
    Ends first world := by
  rcases ends with ⟨second, reached, rest, between⟩
  exact ⟨second, reached, Relation.ReflTransGen.head moves rest, between⟩

theorem Quietly.head
    {world : World} (quietly : Quietly middle world)
    (moves : Moves first middle)
    (quiet : Adds NoAttempt first.world.trace middle.world.trace) :
    Quietly first world :=
  ⟨quietly.ends.head moves, quiet.trans quietly.quiet⟩

theorem Quietly.run
    {world : World} (quietly : Quietly middle world)
    (moves : Composed Moves first middle)
    (quiet : Adds NoAttempt first.world.trace middle.world.trace) :
    Quietly first world := by
  rcases quietly.ends with ⟨second, reached, rest, between⟩
  exact ⟨⟨second, reached, moves.trans rest, between⟩,
    quiet.trans quietly.quiet⟩

theorem Between.self
    (between : Between frame) : Quietly frame frame.world :=
  ⟨⟨frame, rfl, .refl, between⟩, .refl _⟩

theorem rests_update
    {phases : Nat → Phase}
    (calm : ∀ other, other ≠ id → rests (phases other) = true)
    {phase : Phase} (here : rests phase = true) (other : Nat) :
    rests (Function.update phases id phase other) = true := by
  by_cases same : other = id
  · rwa [same, Function.update_self]
  · rw [Function.update_of_ne same]
    exact calm other same

/-- A move of no prompt that keeps the queue. -/
theorem Between.turns
    (between : Between frame) {world : World}
    (moves : Moves frame (frame.turns world))
    (still : Still frame.world world) : Between (frame.turns world) where
  coupled := (Moves.coupled moves between.coupled).1
  running := between.running
  hand := between.hand
  rests := between.rests
  queue none := still.pinQueue.trans
    (between.queue (still.pinActive.symm.trans none))

/-- A move of one prompt that keeps the queue. -/
theorem Between.goes
    (between : Between frame) {phase : Phase} {world : World}
    (moves : Moves frame (frame.goes id phase world))
    (calm : PromptRuns.rests phase = true)
    (still : Still frame.world world) :
    Between (frame.goes id phase world) where
  coupled := (Moves.coupled moves between.coupled).1
  running := between.running
  hand := between.hand
  rests := rests_update (fun other _ => between.rests other) calm
  queue none := still.pinQueue.trans
    (between.queue (still.pinActive.symm.trans none))

/-- A call that leaves all prompts at rest ends a dispatch. -/
theorem Reaches.quietly
    {world : World} (reaches : Reaches frame (id :: queue) world)
    (coupled : Coupled frame) (running : frame.running = none)
    (hand : frame.hand = none)
    (calm : ∀ other, other ≠ id → rests (frame.phases other) = true) :
    Quietly frame world := by
  rcases reaches with ⟨second, rfl, calls⟩
  refine ⟨⟨second, rfl, calls.moves, Coupled.run coupled calls.moves,
    calls.running.trans running, calls.hand.trans hand, ?_, calls.queue⟩,
    calls.quiet⟩
  intro other
  by_cases member : other ∈ id :: queue
  · exact calls.rests other member
  · rw [calls.others other member]
    exact calm other fun same => member (same ▸ List.mem_cons_self ..)

/-- An answer that is asked for leads to the end of a dispatch. -/
theorem Between.answer
    (between : Between frame) (id : Nat) (outcome : CertificatePinOutcome) :
    Quietly frame (answer frame.world id outcome) :=
  (answer_reaches between.coupled between.queue
    (by rw [judged, between.rests id]; rfl) outcome).quietly between.coupled
    between.running between.hand fun other _ => between.rests other

/-! ## Logins that are asked for -/

/-- A login that is asked for leads to the end of a dispatch. -/
theorem Between.pinLogin
    (between : Between frame) (login : PinLogin) :
    Quietly frame (pinLoginFullKind frame.world login) := by
  rw [pinLoginFullKind]
  dsimp only
  split_ifs with available busy
  · have moves := Moves.queued frame login busy
    refine ⟨⟨_, rfl, .single moves, (Moves.coupled moves between.coupled).1,
      between.running, between.hand,
      rests_update (fun other _ => between.rests other) rfl, ?_⟩,
      (Adds.refl _).cons rfl⟩
    intro none
    have inactive : frame.world.pinActive = Option.none := none
    have active : frame.world.pinActive.isSome = true := busy
    rw [inactive] at active
    cases active
  · have inactive : frame.world.pinActive = none :=
      Option.not_isSome_iff_eq_none.mp busy
    have empty := between.queue inactive
    have moves := Moves.begun frame login inactive empty
    have begun := (Moves.coupled moves between.coupled).1
    have quiet : Adds NoAttempt frame.world.trace
        (activate (newPrompt frame.world login)
          frame.world.nextPrompt).trace :=
      (adds_emit _ (by rfl)).trans (adds_emit _ (by rfl))
    have started := startThen_reaches (startNext_follows _) begun rfl rfl
      (Function.update_self ..)
    refine (started.quietly begun between.running between.hand ?_).head
      moves quiet
    intro other different
    rw [show (frame.goes frame.world.nextPrompt .deciding _).phases other =
      frame.phases other from Function.update_of_ne different ..]
    exact between.rests other
  · have moves := Moves.refused frame login
    have same : (refuse frame.world login).pinActive =
          frame.world.pinActive ∧
        (refuse frame.world login).pinQueue = frame.world.pinQueue ∧
        Adds NoAttempt frame.world.trace
          (refuse frame.world login).trace := by
      rw [refuse]
      split_ifs
      · exact ⟨rfl, rfl, ((adds_emit _ (by rfl)).trans
          (adds_emit _ (by rfl))).trans (adds_emit _ (by rfl))⟩
      · exact ⟨rfl, rfl, (adds_emit _ (by rfl)).trans
          (adds_emit _ (by rfl))⟩
    refine ⟨⟨_, rfl, .single moves, (Moves.coupled moves between.coupled).1,
      between.running, between.hand,
      rests_update (fun other _ => between.rests other) rfl, ?_⟩, same.2.2⟩
    intro none
    exact same.2.1.trans (between.queue (same.1.symm.trans none))

/-! ## Choosers -/

/-- One move of no prompt, and nothing else. -/
theorem Between.turned
    (between : Between frame) {world : World}
    (moves : Moves frame (frame.turns world))
    (still : Still frame.world world)
    (quiet : Adds NoAttempt frame.world.trace world.trace) :
    Quietly frame world :=
  ((between.turns moves still).self).head moves quiet

theorem aside_chooserDone
    (world : World) (id : Nat) (chosen : Option CertificateCandidate)
    (error : XccErrorCode) :
    Aside world (world.emit (.chooserDone id chosen error)) where
  prompts := rfl
  choosers := rfl
  nextChooser := le_rfl
  nextPrompt := rfl
  pinQueue := rfl
  pinActive := rfl
  interactions := rfl
  nextUiId := rfl
  posted := rfl
  inbox := rfl
  nextSecret := rfl
  trace := .inr ⟨id, chosen, error, rfl⟩

/-- The record of a chooser changes, and it stays open or finished. -/
theorem Between.chooserChanged
    (between : Between frame) {id : Nat} {chooser : Chooser}
    (same : chooser.finished = (frame.world.choosers id).finished)
    {world : World}
    (ends : Between (frame.turns (frame.world.setChooser id chooser)) →
      Quietly (frame.turns (frame.world.setChooser id chooser)) world) :
    Quietly frame world :=
  have moves := Moves.chooserChanged frame chooser same
  (ends (between.turns moves ⟨rfl, rfl, rfl⟩)).head moves (.refl _)

theorem Between.chooserFinish
    (between : Between frame) (id : Nat)
    (chosen : Option CertificateCandidate) :
    Quietly frame (chooserFinish frame.world id chosen) := by
  rw [Chooser.chooserFinish]
  dsimp only
  split_ifs with ended
  · exact between.self
  · let closing : Chooser := { frame.world.choosers id with
      finished := true, connected := false, cancelIdle := false }
    let closed := close (frame.world.setChooser id closing) (.chooser id)
    have moves : Moves frame (frame.turns closed) :=
      .chooserFinished frame closing rfl
    have first : Still frame.world (frame.world.setChooser id closing) :=
      ⟨rfl, rfl, rfl⟩
    have still : Still frame.world closed := first.trans (still_close ..)
    have told := Moves.aside (frame.turns closed)
      (aside_chooserDone closed id chosen (frame.world.choosers id).error)
    have after := between.turns moves still
    have quiet : Adds NoAttempt frame.world.trace closed.trace := by
      rw [close_chooser_trace]
      exact .refl _
    exact (after.turned told ⟨rfl, rfl, rfl⟩ (adds_emit _ (by rfl))).head
      moves quiet

theorem Between.chooserChoose
    (between : Between frame) (id revision candidate : Nat) :
    Quietly frame
      (chooserChoose frame.world id revision candidate) := by
  rw [Chooser.chooserChoose]
  split
  · exact between.self
  · split_ifs
    · exact between.self
    · split
      · exact between.self
      · exact between.chooserFinish id _

theorem Between.chooserCancel
    (between : Between frame) (id : Nat) :
    Quietly frame (chooserCancel frame.world id) := by
  rw [Chooser.chooserCancel]
  split
  · exact between.self
  · exact between.chooserFinish id none

theorem lookup_eq
    {world : World} {chooser : Chooser}
    (found : Chooser.lookup world id = some chooser) :
    chooser = world.choosers id ∧ chooser.finished = false := by
  rw [Chooser.lookup] at found
  split_ifs at found with ended
  cases found
  exact ⟨rfl, Bool.not_eq_true _ ▸ ended⟩

theorem Between.chooserFail
    (between : Between frame) (id : Nat) (error : XccErrorCode) :
    Quietly frame (chooserFail frame.world id error) := by
  rw [Chooser.chooserFail]
  split
  · exact between.self
  · next chooser found =>
      have same : { chooser with error }.finished =
          (frame.world.choosers id).finished := by
        rw [← (lookup_eq found).1]
      exact between.chooserChanged same fun after =>
        after.chooserFinish id none

theorem Between.chooserIdle
    (between : Between frame) (id : Nat) :
    Quietly frame (Chooser.onCancelledIdle frame.world id) := by
  have same : { frame.world.choosers id with cancelIdle := false }.finished =
      (frame.world.choosers id).finished := rfl
  exact between.chooserChanged same fun after => after.chooserFinish id none

/-- An open chooser shows what it has become. -/
theorem Between.chooserMessage
    (between : Between frame) (id : Nat) (chooser : Chooser)
    (showing : (frame.world.choosers id).finished = false)
    (same : chooser.finished = false) (view : XccChooserView) :
    Quietly frame (message (frame.world.setChooser id chooser) (.chooser id)
      (.chooserUpdate view)) := by
  refine between.chooserChanged (same.trans showing.symm) fun after => ?_
  have showing' : ((frame.turns
      (frame.world.setChooser id chooser)).world.choosers id).finished =
        false := by
    show (Function.update frame.world.choosers id chooser id).finished = false
    rwa [Function.update_self]
  have moves := Moves.chooserUpdated _ view showing'
  refine after.turned moves (still_message ..) ?_
  rw [message_trace]
  exact .refl _

theorem Between.chooserUpdate
    (between : Between frame) (id : Nat)
    (candidates : List CertificateCandidate) (tokensPresent : Bool) :
    Quietly frame
      (chooserUpdate frame.world id candidates tokensPresent) := by
  rw [Chooser.chooserUpdate]
  dsimp only
  split_ifs with ended
  · exact between.self
  · rw [Bool.not_eq_true] at ended
    refine between.chooserMessage id _ ended ?_ _
    exact ended

theorem Between.chooserSetTokensReading
    (between : Between frame) (id : Nat) (reading : Bool) :
    Quietly frame
      (chooserSetTokensReading frame.world id reading) := by
  rw [Chooser.chooserSetTokensReading]
  dsimp only
  split_ifs with ended
  · exact between.self
  · rw [Bool.or_eq_true, not_or, Bool.not_eq_true] at ended
    refine between.chooserMessage id _ ended.1 ?_ _
    exact ended.1

/-- A chooser that is shown makes no attempt. -/
theorem Between.showChooser
    (between : Between frame) (cancellable : Option Nat)
    (candidates : List CertificateCandidate) (tokensPresent : Bool) :
    Quietly frame
      (showChooser frame.world cancellable candidates tokensPresent) := by
  rw [Ui.showChooser]
  split_ifs
  · let made := replaceCandidates
      { Chooser.absent with finished := false, cancellable } candidates
      tokensPresent
    let connected : Chooser :=
      if frame.world.isCancelled cancellable then
        Chooser.onCancelled made
      else
        { made with connected := cancellable.isSome }
    have showing : connected.finished = false := by
      show (if frame.world.isCancelled cancellable then _ else _ :
        Chooser).finished = false
      split_ifs <;> rfl
    have moves := Moves.chooserShown frame connected
      (Chooser.chooserView connected) showing
    let numbered : World :=
      { frame.world with nextChooser := frame.world.nextChooser + 1 }
    have first : Still frame.world
        (numbered.setChooser frame.world.nextChooser connected) :=
      ⟨rfl, rfl, rfl⟩
    have quiet : Adds NoAttempt frame.world.trace
        (message (numbered.setChooser frame.world.nextChooser connected)
          (.chooser frame.world.nextChooser)
          (.chooserShow (Chooser.chooserView connected))).trace := by
      rw [message_trace]
      exact .refl _
    exact between.turned moves (first.trans (still_message ..)) quiet
  · refine between.turned (.aside frame ?_) ⟨rfl, rfl, rfl⟩
      (adds_emit _ (by rfl))
    exact { aside_chooserDone frame.world frame.world.nextChooser none .ok with
      nextChooser := Nat.le_succ _ }

/-! ## Workers -/

theorem refreshing_of
    {phase : Phase} (works : WorksAs phase .refreshing) :
    phase = .refreshing := by
  cases phase with
  | refreshing => rfl
  | loggingIn => rcases works with ⟨_, works⟩; cases works
  | _ => cases works

theorem refreshed_of
    {phase : Phase} (works : WorksAs phase .refreshed) :
    phase = .refreshed := by
  cases phase with
  | refreshed => rfl
  | loggingIn => rcases works with ⟨_, works⟩; cases works
  | _ => cases works

theorem loggingIn_of
    {phase : Phase} {secret : Option XccSecret}
    (works : WorksAs phase (.loggingIn secret)) : phase = .loggingIn := by
  cases phase with
  | loggingIn => rfl
  | _ => cases works

theorem loginRefreshing_of
    {phase : Phase} {result : LoginResult}
    (works : WorksAs phase (.loginRefreshing result)) :
    phase = .loginRefreshing result := by
  cases phase with
  | loginRefreshing => cases works; rfl
  | loggingIn => rcases works with ⟨_, works⟩; cases works
  | _ => cases works

theorem loggedIn_of
    {phase : Phase} {result : LoginResult}
    (works : WorksAs phase (.loggedIn result)) :
    phase = .loggedIn result := by
  cases phase with
  | loggedIn => cases works; rfl
  | loggingIn => rcases works with ⟨_, works⟩; cases works
  | _ => cases works

/-- One move of one prompt, and nothing else. -/
theorem Between.gone
    (between : Between frame) {phase : Phase} {world : World}
    (moves : Moves frame (frame.goes id phase world))
    (calm : PromptRuns.rests phase = true) (still : Still frame.world world)
    (quiet : Adds NoAttempt frame.world.trace world.trace) :
    Quietly frame world :=
  ((between.goes moves calm still).self).head moves quiet

/-- A worker that has read the flags of the token makes no attempt. -/
theorem Between.refreshReturned
    (between : Between frame) (flags : TokenFlags)
    (works : (frame.world.prompts id).worker = .refreshing) :
    Quietly frame (refreshReturned frame.world id flags) := by
  have phase := refreshing_of (works ▸ (between.coupled.fits id).worker)
  exact between.gone (.refreshReturned frame flags phase) rfl
    ⟨rfl, rfl, rfl⟩ (adds_emit _ (by rfl))

theorem Between.loginRefreshed
    (between : Between frame) {result : LoginResult} (flags : TokenFlags)
    (works : (frame.world.prompts id).worker = .loginRefreshing result) :
    Quietly frame (loginRefreshed frame.world id result flags) := by
  have phase := loginRefreshing_of (works ▸ (between.coupled.fits id).worker)
  exact between.gone (.loginRefreshed frame flags phase) rfl
    ⟨rfl, rfl, rfl⟩ (adds_emit _ (by rfl))

/-- A worker that has called the login function makes no other attempt. -/
theorem Between.loginReturned
    (between : Between frame) {secret : Option XccSecret}
    (result : LoginResult)
    (works : (frame.world.prompts id).worker = .loggingIn secret) :
    Quietly frame (loginReturned frame.world id secret result) := by
  have phase := loggingIn_of (works ▸ (between.coupled.fits id).worker)
  let told := (frame.world.freeSecret secret).emit (.loginReturned id result)
  have still : Still frame.world told :=
    (still_freeSecret ..).trans (still_emit ..)
  have quiet : Adds NoAttempt frame.world.trace told.trace :=
    (freeSecret_adds _ fun _ _ => rfl).trans (adds_emit _ (by rfl))
  refine between.gone (.loginReturned frame result phase works) ?_ ?_ ?_
  · split_ifs <;> rfl
  · rw [Pin.loginReturned]
    split_ifs
    · exact still.trans ⟨rfl, rfl, rfl⟩
    · exact still.trans ⟨rfl, rfl, rfl⟩
  · rw [Pin.loginReturned]
    split_ifs
    · exact quiet
    · exact quiet.trans (adds_emit _ (by rfl))

/-- A prompt has come to where it is judged; the others are at rest. -/
structure Judging (frame : Frame) (id : Nat) : Prop where
  coupled : Coupled frame
  running : frame.running = none
  hand : frame.hand = none
  able : judged (frame.phases id) = true
  rests : ∀ other, other ≠ id → rests (frame.phases other) = true
  queue : frame.world.pinActive = none → frame.world.pinQueue = []

theorem Judging.answer
    (judging : Judging frame id) (outcome : CertificatePinOutcome) :
    Quietly frame (answer frame.world id outcome) :=
  (answer_reaches judging.coupled judging.queue judging.able
    outcome).quietly judging.coupled judging.running judging.hand
      judging.rests

/-- A move of the prompt takes it to where it is judged. -/
theorem Between.judging
    (between : Between frame) {phase : Phase} {world : World}
    (moves : Moves frame (frame.goes id phase world))
    (able : judged phase = true) (still : Still frame.world world) :
    Judging (frame.goes id phase world) id where
  coupled := (Moves.coupled moves between.coupled).1
  running := between.running
  hand := between.hand
  able := by
    rw [show (frame.goes id phase world).phases id = phase from
      Function.update_self ..]
    exact able
  rests other different := by
    rw [show (frame.goes id phase world).phases other = frame.phases other
      from Function.update_of_ne different ..]
    exact between.rests other
  queue none := still.pinQueue.trans
    (between.queue (still.pinActive.symm.trans none))

/-- Reading the flags of the token ends with a window, or an answer. -/
theorem Between.refreshDone
    (between : Between frame)
    (works : (frame.world.prompts id).worker = .refreshed) :
    Quietly frame (onRefreshDone frame.world id) := by
  have fits := between.coupled.fits id
  have phase := refreshed_of (works ▸ fits.worker)
  have moves := Moves.refreshEnded frame phase
  have judging := between.judging moves rfl ⟨rfl, rfl, rfl⟩
  have late : (frame.world.prompts id).finished = false := by
    rw [fits.finished, phase]
    rfl
  have deciding : (frame.goes id .deciding
      (endRefresh frame.world id)).phases id = .deciding :=
    Function.update_self ..
  have quiet : Adds NoAttempt frame.world.trace
      (endRefresh frame.world id).trace := .refl _
  rw [onRefreshDone]
  split_ifs with deferred cancelled ended
  · exact (judging.answer _).head moves quiet
  · exact (judging.answer _).head moves quiet
  · rw [late] at ended
    cases ended
  · have shown := showThen_reaches (startNext_follows _) judging.coupled rfl
      deciding
    exact (shown.quietly judging.coupled judging.running judging.hand
      judging.rests).head moves quiet

/-- The record of a prompt on screen that is marked busy or idle. -/
theorem setBusy_prompt
    (coupled : Coupled frame) (visible : (frame.phases id).onScreen = true)
    (busy : Bool) :
    (setBusy frame.world id busy).prompts id =
      { frame.world.prompts id with busy } := by
  rcases (coupled.fits id).found visible with ⟨found, screen, -⟩
  have looks : Looks frame.world id (frame.world.prompts id) (some found)
      (history id frame.world.trace) := ⟨rfl, screen, rfl⟩
  have marked := looks.setPrompt { frame.world.prompts id with busy }
  exact (marked.message (coupled.table.congr rfl rfl) _).prompt

theorem setBusy_trace (world : World) (id : Nat) (busy : Bool) :
    (setBusy world id busy).trace = world.trace :=
  message_trace ..

theorem retry_trace
    {world : World} {id : Nat} (none : (world.prompts id).secret = none) :
    (retry world id).trace = world.trace := by
  rw [retry, none]
  exact message_trace ..

/-- The failure of a login is judged. -/
theorem Judging.loginFailed
    (judging : Judging frame id) (phase : frame.phases id = .landed false)
    (error : Option CertificatePkcs11ErrorCode) :
    Quietly frame (loginFailed frame.world id error) := by
  have visible : (frame.phases id).onScreen = true := by
    rw [phase]
    rfl
  have moves := Moves.unbusied frame phase
  have still : Still frame.world (setBusy frame.world id false) :=
    (still_setPrompt _ id _).trans (still_message ..)
  let idle := frame.turns (setBusy frame.world id false)
  have after : Judging idle id :=
    { judging with
      coupled := (Moves.coupled moves judging.coupled).1
      queue := fun none => still.pinQueue.trans
        (judging.queue (still.pinActive.symm.trans none)) }
  have quiet : Adds NoAttempt frame.world.trace idle.world.trace := by
    show Adds _ _ (setBusy frame.world id false).trace
    rw [setBusy_trace]
    exact .refl _
  have answered (outcome : CertificatePinOutcome) :
      Quietly frame (Pin.answer idle.world id outcome) :=
    (after.answer outcome).head moves quiet
  have retried (typed : (frame.world.prompts id).protectedPath = false)
      (few : (frame.world.prompts id).attempts < pinMaxAttempts) :
      Quietly frame (retry idle.world id) := by
    have record := setBusy_prompt judging.coupled visible false
    have again : Moves idle
        (idle.goes id .waiting (retry idle.world id)) := by
      refine .retried idle phase ?_ ?_ ?_
      · exact (congrArg PinPrompt.protectedPath record).trans typed
      · exact (congrArg PinPrompt.attempts record).trans_lt few
      · exact congrArg PinPrompt.busy record
    have secret : (idle.world.prompts id).secret = none :=
      (Coupled.at after.coupled phase).secret
    have kept : Still idle.world (retry idle.world id) :=
      ((still_freeSecret ..).trans (still_setPrompt _ id _)).trans
        (still_message ..)
    have told := retry_trace secret
    have quietly : Quietly idle (retry idle.world id) := by
      refine ⟨⟨_, rfl, .single again,
        (Moves.coupled again after.coupled).1, after.running, after.hand,
        ?_, ?_⟩, ?_⟩
      · exact rests_update judging.rests rfl
      · exact fun none => kept.pinQueue.trans
          (after.queue (kept.pinActive.symm.trans none))
      · rw [told]
        exact .refl _
    exact quietly.head moves quiet
  cases error with
  | none => exact answered .deviceError
  | some code =>
      cases code with
      | cancelled => exact answered .cancelled
      | pinIncorrect =>
          rw [Pin.loginFailed]
          split_ifs with locked path many
          · exact answered .locked
          · exact answered .incorrect
          · exact answered .incorrect
          · exact retried (Bool.not_eq_true _ ▸ path) (not_le.mp many)
      | pinLocked => exact answered .locked
      | tokenRemoved => exact answered .tokenRemoved
      | _ => exact answered .deviceError

/-- A login ends with another window, or an answer. -/
theorem Between.loginDone
    (between : Between frame) {result : LoginResult}
    (works : (frame.world.prompts id).worker = .loggedIn result) :
    Quietly frame (onLoginDone frame.world id result) := by
  have fits := between.coupled.fits id
  have phase := loggedIn_of (works ▸ fits.worker)
  have moves := Moves.loginEnded frame phase
  have judging := between.judging moves rfl ⟨rfl, rfl, rfl⟩
  have late : (frame.world.prompts id).finished = false := by
    rw [fits.finished, phase]
    rfl
  have quiet : Adds NoAttempt frame.world.trace
      (endLogin frame.world id result).trace := .refl _
  have early : ¬ (frame.world.prompts id).finished = true := by
    rw [late]
    exact Bool.noConfusion
  by_cases deferred : (frame.world.prompts id).cancelDeferred = true
  · have same : onLoginDone frame.world id result =
        Pin.answer (endLogin frame.world id result) id
          (frame.world.prompts id).deferredOutcome := by
      cases result <;> exact if_pos deferred
    rw [same]
    exact (judging.answer _).head moves quiet
  · cases result with
    | ok =>
        have same : onLoginDone frame.world id (.ok ()) =
            Pin.answer (endLogin frame.world id (.ok ())) id .ok := by
          rw [onLoginDone, if_neg deferred, if_neg early]
        rw [same]
        exact (judging.answer .ok).head moves quiet
    | error error =>
        have same : onLoginDone frame.world id (.error error) =
            Pin.loginFailed (endLogin frame.world id (.error error)) id
              error := by
          rw [onLoginDone, if_neg deferred, if_neg early]
        have landed : (frame.goes id (.landed (Except.error error = .ok ()))
            (endLogin frame.world id (.error error))).phases id =
              .landed false := Function.update_self ..
        rw [same]
        exact (judging.loginFailed landed error).head moves quiet

/-! ## Sources -/

/-- The end of a task gives its reference back. -/
theorem Between.finalize
    (between : Between frame) (ended : 0 < (frame.world.prompts id).tasks) :
    Quietly frame (promptUnref (frame.world.setPrompt id
      { frame.world.prompts id with
        tasks := (frame.world.prompts id).tasks - 1 }) id) := by
  refine between.gone (.finalized frame ended) ?_
    ((still_setPrompt _ id _).trans (still_promptUnref _ id))
    (promptUnref_adds (frame.world.setPrompt id _) (fun _ _ => rfl) rfl)
  rw [Frame.released]
  split_ifs
  · rfl
  · exact between.rests id

/-- The timeout of a login makes no attempt. -/
theorem Between.timeout
    (between : Between frame)
    (armed : (frame.world.prompts id).loginTimeout = true) :
    Quietly frame (onLoginTimeout frame.world id) := by
  have moves := Moves.timerFired frame armed
  have after := between.turns moves ⟨rfl, rfl, rfl⟩
  rw [onLoginTimeout]
  split_ifs
  · exact (after.answer id .timedOut).head moves (.refl _)
  · exact after.self.head moves (.refl _)

/-- A cancellation that is handled makes no attempt. -/
theorem Between.cancelledIdle
    (between : Between frame)
    (queued : (frame.world.prompts id).cancelIdle = true) :
    Quietly frame (Pin.onCancelledIdle frame.world id) := by
  have runs := Moves.idleRuns frame between.running queued
  have coupled := (Moves.coupled runs between.coupled).1
  have able : judged (frame.phases id) = true := by
    rw [judged, between.rests id]
    rfl
  rcases answer_reaches coupled between.queue able .cancelled with
    ⟨second, reached, calls⟩
  have ends := Moves.idleEnds second calls.running
  have still := still_promptUnref second.world id
  rw [Pin.onCancelledIdle]
  rw [show Pin.answer _ id .cancelled = second.world from reached.symm]
  refine ⟨⟨_, rfl, (Relation.ReflTransGen.head runs calls.moves).tail ends,
    (Moves.coupled ends (Coupled.run coupled calls.moves)).1, rfl,
    calls.hand.trans between.hand, ?_, ?_⟩,
    calls.quiet.trans (promptUnref_adds _ (fun _ _ => rfl) rfl)⟩
  · have calm : ∀ other, PromptRuns.rests (second.phases other) = true := by
      intro other
      by_cases member : other ∈ id :: frame.world.pinQueue
      · exact calls.rests other member
      · rw [calls.others other member]
        exact between.rests other
    refine rests_update (fun other _ => calm other) ?_
    rw [Frame.released]
    split_ifs
    · rfl
    · exact calm id
  · exact fun none => still.pinQueue.trans
      (calls.queue (still.pinActive.symm.trans none))

end PortalCertificate.Core.PromptRuns
