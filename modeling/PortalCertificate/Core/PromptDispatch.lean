import PortalCertificate.Core.PromptReplies

/-!
# Every dispatch

Whatever the coordinator dispatches, it goes by moves from one frame between
dispatches to the next, and only a live reply makes an attempt.  So what all
moves keep holds in every reachable state.
-/

namespace PortalCertificate.Core.PromptDispatch

open PortalCertificate.Core.Coordinator
open PortalCertificate.Core.Pin
open PortalCertificate.Core.PromptInvariant
open PortalCertificate.Core.PromptMoves
open PortalCertificate.Core.PromptReplies
open PortalCertificate.Core.PromptRuns
open PortalCertificate.Core.PromptSteps
open PortalCertificate.Core.PromptViews
open PortalCertificate.Core.Ui
open PortalCertificate.Library.Der (Octets)
open PortalCertificate.Library.Trace
open PortalCertificate.Library.Transition

variable {frame : Frame} {next : World}

/-! ## Single actions -/

theorem cancel_still (world : World) (cancellable : Nat) :
    Still world (cancel world cancellable) ∧
      (cancel world cancellable).trace = world.trace := by
  rw [cancel]
  split_ifs
  · exact ⟨.refl _, rfl⟩
  · exact ⟨⟨rfl, rfl, rfl⟩, rfl⟩

/-- Cancelling makes no attempt. -/
theorem Between.cancel
    (between : Between frame) (cancellable : Nat) :
    Quietly frame (cancel frame.world cancellable) := by
  have same := cancel_still frame.world cancellable
  refine between.turned (.cancelled frame cancellable) same.1 ?_
  rw [same.2]
  exact .refl _

/-- Sending a reply makes no attempt. -/
theorem Between.sendReply
    (between : Between frame) (reply : Reply) :
    Quietly frame (sendReply frame.world reply) := by
  have told : Still frame.world (Ui.sendReply frame.world reply) ∧
      Adds NoAttempt frame.world.trace
        (Ui.sendReply frame.world reply).trace := by
    rw [Ui.sendReply]
    cases replyPage (Reply.numbered reply frame.world.nextSecret) with
    | none =>
        split_ifs
        · exact ⟨⟨rfl, rfl, rfl⟩, .refl _⟩
        · exact ⟨⟨rfl, rfl, rfl⟩, .refl _⟩
    | some page =>
        have submitted : Adds NoAttempt frame.world.trace
            (.submitted page.serial :: frame.world.trace) :=
          (Adds.refl _).cons rfl
        have freed : Adds NoAttempt frame.world.trace
            (.secretFreed page.serial :: .submitted page.serial ::
              frame.world.trace) := submitted.cons rfl
        split_ifs
        · exact ⟨⟨rfl, rfl, rfl⟩, freed⟩
        · exact ⟨⟨rfl, rfl, rfl⟩, submitted⟩
  exact between.turned (.sent frame reply) told.1 told.2

/-- What prompts, messages and pages are does not change. -/
theorem Between.aside
    (between : Between frame) (same : Aside frame.world next)
    (trace : next.trace = frame.world.trace) : Quietly frame next := by
  refine between.turned (.aside frame same)
    ⟨same.pinActive, same.pinQueue, same.nextPrompt⟩ ?_
  rw [trace]
  exact .refl _

/-- Delivering a message makes no attempt. -/
theorem Between.deliver
    (between : Between frame) (moves : deliver frame.world = some next) :
    Quietly frame next := by
  rw [Ui.deliver] at moves
  split at moves
  · cases moves
  · next message rest pending =>
      cases moves
      exact Between.aside between ⟨rfl, rfl, le_rfl, rfl, rfl, rfl, rfl, rfl,
        by simp [World.posted, pending], rfl, rfl, .inl rfl⟩ rfl

/-- An attempt and the live reply that has made it. -/
def Tries (frame : Frame) (action : Action) (next : World) : Prop :=
  ∃ index reply id pin, action = .receive index ∧
    frame.world.inbox[index]? = some reply ∧
    Live frame.world reply id pin ∧ Attempts frame id pin next

/-- Receiving a reply makes at most the attempt that the reply asks for. -/
theorem Between.receive
    (between : Between frame) {index : Nat}
    (moves : receive frame.world index = some next) :
    Quietly frame next ∨ Tries frame (.receive index) next := by
  rw [Ui.receive, Option.map_eq_some_iff] at moves
  rcases moves with ⟨reply, waiting, rfl⟩
  have taken := Moves.received frame waiting between.hand
  have receiving : Receiving { frame with
      world := { frame.world with
        inbox := frame.world.inbox.eraseIdx index }.emit (.replied reply)
      hand := replyPage reply } (replyPage reply) :=
    ⟨(Moves.coupled taken between.coupled).1, between.running, rfl,
      between.rests, between.queue⟩
  have quiet : Adds NoAttempt frame.world.trace
      (.replied reply :: frame.world.trace) := (Adds.refl _).cons rfl
  cases receiving.dispatched with
  | quiet quietly => exact .inl (quietly.head taken quiet)
  | tried live attempts =>
      rcases live with ⟨named, unfinished, idle, undeferred⟩
      exact .inr ⟨index, reply, _, _, rfl, waiting,
        ⟨named, unfinished, idle, undeferred⟩, attempts.head taken quiet⟩

/-! ## All actions -/

/-- Every step leads to the end of a dispatch, with at most the attempt that
its reply asks for. -/
theorem Between.step
    (between : Between frame) {action : Action}
    (moves : step frame.world action = some next) :
    Quietly frame next ∨ Tries frame action next := by
  cases action with
  | login login =>
      cases moves
      exact .inl (between.pinLogin login)
  | chooser cancellable candidates present =>
      cases moves
      exact .inl (between.showChooser cancellable candidates present)
  | updateChooser chooser candidates present =>
      cases moves
      exact .inl (between.chooserUpdate chooser candidates present)
  | readTokens chooser reading =>
      cases moves
      exact .inl (between.chooserSetTokensReading chooser reading)
  | cancel cancellable =>
      cases moves
      exact .inl (Between.cancel between cancellable)
  | send reply =>
      cases moves
      exact .inl (Between.sendReply between reply)
  | receive index => exact Between.receive between moves
  | refreshReturned id flags =>
      rcases step_refreshReturned moves with ⟨works, rfl⟩
      exact .inl (between.refreshReturned flags works)
  | refreshDone id =>
      rcases step_refreshDone moves with ⟨works, rfl⟩
      exact .inl (between.refreshDone works)
  | loginReturned id result =>
      rcases step_loginReturned moves with ⟨secret, works, rfl⟩
      exact .inl (between.loginReturned result works)
  | loginRefreshed id flags =>
      rcases step_loginRefreshed moves with ⟨result, works, rfl⟩
      exact .inl (between.loginRefreshed flags works)
  | loginDone id =>
      rcases step_loginDone moves with ⟨result, works, rfl⟩
      exact .inl (between.loginDone works)
  | taskFinalized id =>
      rw [Ui.step] at moves
      split_ifs at moves with ended
      cases moves
      exact .inl (between.finalize ended)
  | loginTimeout id =>
      rw [Ui.step] at moves
      split_ifs at moves with armed
      cases moves
      exact .inl (between.timeout armed)
  | cancelledIdle id =>
      rw [Ui.step] at moves
      split_ifs at moves with queued
      cases moves
      exact .inl (between.cancelledIdle queued)
  | chooserCancelledIdle id =>
      rw [Ui.step] at moves
      split_ifs at moves
      cases moves
      exact .inl (between.chooserIdle id)
  | deliver => exact .inl (Between.deliver between moves)
  | stop =>
      cases moves
      exact .inl (Between.aside between ⟨rfl, rfl, le_rfl, rfl, rfl, rfl, rfl,
        rfl, rfl, rfl, rfl, .inl rfl⟩ rfl)
  | shutdown =>
      rw [Ui.step] at moves
      split_ifs at moves
      cases moves
      exact .inl (Between.aside between ⟨rfl, rfl, le_rfl, rfl, rfl, rfl, rfl,
        rfl, rfl, rfl, rfl, .inl rfl⟩ rfl)

/-! ## Reachable states -/

/-- The frame has been reached from a start by moves. -/
structure Arrived (frame : Frame) : Prop where
  between : Between frame
  moves : ∃ start, machine.initial start ∧
    Composed Moves (Frame.start start) frame

theorem arrived_start
    {start : World} (initial : machine.initial start) :
    Arrived (Frame.start start) := by
  refine ⟨⟨coupled_start initial, rfl, rfl, fun _ => rfl, ?_⟩,
    start, initial, .refl⟩
  rcases initial with ⟨pin, chooser, timeout, tokens, rfl⟩
  exact fun _ => rfl

/-- The end of a dispatch has been reached by moves. -/
theorem Arrived.ends
    (arrived : Arrived frame) (ends : Ends frame next) :
    ∃ after, after.world = next ∧ Arrived after ∧
      Composed Moves frame after := by
  rcases ends with ⟨after, reached, moves, between⟩
  rcases arrived.moves with ⟨start, initial, before⟩
  exact ⟨after, reached,
    ⟨between, start, initial, before.trans moves⟩, moves⟩

/-- A dispatch leads to the next frame between dispatches. -/
theorem Arrived.step
    (arrived : Arrived frame) {action : Action}
    (moves : Ui.step frame.world action = some next) :
    ∃ after, after.world = next ∧ Arrived after ∧
      Composed Moves frame after := by
  apply arrived.ends
  rcases Between.step arrived.between moves with quietly | tries
  · exact quietly.ends
  · rcases tries with ⟨_, _, _, _, -, -, -, attempts⟩
    exact attempts.ends

/-- Moves lead from a state to every later one. -/
theorem Arrived.run
    (arrived : Arrived frame) {actions : List Action} {last : World}
    (ran : machine.run frame.world actions = some last) :
    ∃ after, after.world = last ∧ Arrived after ∧
      Composed Moves frame after := by
  induction actions generalizing frame with
  | nil =>
      rw [System.run_nil, Option.some.injEq] at ran
      exact ⟨frame, ran, arrived, .refl⟩
  | cons action rest ih =>
      rw [System.run_cons, Option.bind_eq_some_iff] at ran
      rcases ran with ⟨next, first, rest⟩
      rcases arrived.step first with ⟨middle, rfl, there, here⟩
      rcases ih there rest with ⟨after, reached, last, onward⟩
      exact ⟨after, reached, last, here.trans onward⟩

/-- The world is that of a frame between two dispatches. -/
def Reached (world : World) : Prop :=
  ∃ frame, frame.world = world ∧ Arrived frame

/-- Moves lead to every reachable state. -/
theorem reachable_arrived
    {world : World} (reachable : machine.Reachable world) :
    Reached world := by
  refine System.Reachable.invariant ?_ ?_ reachable
  · exact fun start initial => ⟨_, rfl, arrived_start initial⟩
  · rintro _ action next _ ⟨frame, rfl, arrived⟩ moves
    rcases arrived.step moves with ⟨after, reached, there, -⟩
    exact ⟨after, reached, there⟩

/-- What moves keep holds wherever they have led. -/
theorem Arrived.keeps
    {property : Frame → Prop} (arrived : Arrived frame)
    (initially : ∀ start, machine.initial start →
      property (Frame.start start))
    (kept : ∀ first second, Coupled first → Coupled second →
      Moves first second → property first → property second) :
    property frame := by
  rcases arrived.moves with ⟨start, initial, moves⟩
  have start_coupled := coupled_start initial
  suffices both : ∀ last, Composed Moves (Frame.start start) last →
      Coupled last ∧ property last from (both frame moves).2
  intro last composed
  induction composed with
  | refl => exact ⟨start_coupled, initially start initial⟩
  | tail before last ih =>
      have after := (Moves.coupled last ih.1).1
      exact ⟨after, kept _ _ ih.1 after last ih.2⟩

end PortalCertificate.Core.PromptDispatch
