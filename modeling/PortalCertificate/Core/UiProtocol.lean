import PortalCertificate.Core.UiScreens

/-!
# The protocol with the user interface

Every move of the coordinator says at most one thing, and about an
interaction for which it is in order.  A prompt has an interaction while it
is on screen, and a chooser until it is finished; so no message of theirs
opens an interaction again.
-/

namespace PortalCertificate.Core.UiProtocol

open PortalCertificate.Core.Conversation
open PortalCertificate.Core.Coordinator
open PortalCertificate.Core.InteractionTable
open PortalCertificate.Core.Interactions
open PortalCertificate.Core.Pin
open PortalCertificate.Core.PromptCourse
open PortalCertificate.Core.PromptDispatch
open PortalCertificate.Core.PromptFits
open PortalCertificate.Core.PromptInvariant
open PortalCertificate.Core.PromptMoves
open PortalCertificate.Core.PromptRuns
open PortalCertificate.Core.PromptSteps
open PortalCertificate.Core.Ui
open PortalCertificate.Core.UiScreens
open PortalCertificate.Library.Transition

/-! ## Choosers and their interactions -/

/-- Every interaction is shown, and a chooser has one until it is finished. -/
structure Staged (world : World) : Prop where
  shown : AllShown world
  choosers : ∀ id, (find? world (.chooser id)).isSome =
    !(world.choosers id).finished
  fresh : ∀ id, world.nextChooser ≤ id →
    (world.choosers id).finished = true

/-- What a move says, with the choosers as they have to be. -/
def Spoken (first second : World) : Prop :=
  Talk (screen first) (screen second) ∧ Staged second

variable {first second frame : Frame} {world next : World} {id : Nat}

/-- One thing is said on a stage that is set. -/
theorem Staged.speaks
    (staged : Staged world) (speaks : Speaks world next) :
    Spoken world next := by
  refine ⟨speaks.talk, speaks.shown, fun id => ?_, ?_⟩
  · rw [speaks.find, speaks.choosers]
    exact staged.choosers id
  · rw [speaks.choosers, speaks.nextChooser]
    exact staged.fresh

theorem Staged.mute
    (staged : Staged world) (mute : Mute world next) : Spoken world next :=
  staged.speaks (mute.speaks staged.shown)

/-- A chooser changes, and it is finished if it was finished. -/
theorem Staged.chooserChanged
    (staged : Staged world) (chooser : Chooser)
    (same : chooser.finished = (world.choosers id).finished) :
    Spoken world (world.setChooser id chooser) := by
  have kept (other : Nat) :
      ((world.setChooser id chooser).choosers other).finished =
        (world.choosers other).finished := by
    show (Function.update world.choosers id chooser other).finished = _
    by_cases here : other = id
    · rw [here, Function.update_self, same]
    · rw [Function.update_of_ne here]
  refine ⟨Talk.silent _, staged.shown, fun other => ?_,
    fun other late => ?_⟩
  · rw [kept]
    exact staged.choosers other
  · rw [kept]
    exact staged.fresh other late

/-- A chooser that is not finished can be told something. -/
theorem Staged.chooserUpdated
    (staged : Staged world) (table : Table world) (view : XccChooserView)
    (showing : (world.choosers id).finished = false) :
    Spoken world (message world (.chooser id) (.chooserUpdate view)) := by
  have there : (find? world (.chooser id)).isSome = true := by
    rw [staged.choosers, showing]
    rfl
  have talk := talk_message table staged.shown
    (.inr ⟨Option.isSome_iff_exists.mp there, rfl⟩ :
      _ ∨ _ ∧ tells (.chooser id) (.chooserUpdate view) = true)
  have same := message_choosers world (.chooser id) (.chooserUpdate view)
  refine ⟨talk.1, talk.2, fun other => ?_, ?_⟩
  · rw [table.find_message, same.1]
    split_ifs with here
    · rw [Subject.chooser.inj here, showing]
      rfl
    · exact staged.choosers other
  · rw [same.1, same.2]
    exact staged.fresh

/-- A new chooser has no interaction before it is shown. -/
theorem Staged.chooserShown
    (staged : Staged world) (table : Table world) (chooser : Chooser)
    (view : XccChooserView) (showing : chooser.finished = false) :
    Spoken world (message
      ({ world with nextChooser := world.nextChooser + 1 }.setChooser
        world.nextChooser chooser)
      (.chooser world.nextChooser) (.chooserShow view)) := by
  let made := { world with nextChooser := world.nextChooser + 1 }.setChooser
    world.nextChooser chooser
  have none : find? made (.chooser world.nextChooser) = none := by
    have gone : (find? world (.chooser world.nextChooser)).isSome = false := by
      rw [staged.choosers, staged.fresh _ le_rfl]
      rfl
    exact Option.not_isSome_iff_eq_none.mp (Bool.not_eq_true _ ▸ gone)
  have numbered : Table made := table.congr rfl rfl
  have shown : AllShown made := staged.shown
  have talk := talk_message numbered shown
    (.inl ⟨none, rfl⟩ :
      find? made (.chooser world.nextChooser) = Option.none ∧
      opens (.chooser world.nextChooser) (.chooserShow view) = true ∨ _)
  have same := message_choosers made (.chooser world.nextChooser)
    (.chooserShow view)
  refine ⟨talk.1, talk.2, fun other => ?_, fun other late => ?_⟩
  · rw [numbered.find_message, same.1]
    show _ = !(Function.update world.choosers world.nextChooser chooser
      other).finished
    split_ifs with here
    · rw [Subject.chooser.inj here, Function.update_self, showing]
      rfl
    · rw [Function.update_of_ne fun equal => here (by rw [equal])]
      exact staged.choosers other
  · rw [same.1]
    rw [same.2] at late
    have later : world.nextChooser + 1 ≤ other := late
    show (Function.update world.choosers world.nextChooser chooser
      other).finished = true
    rw [Function.update_of_ne (by omega)]
    exact staged.fresh other (by omega)

/-- A chooser that is finished has no interaction any more. -/
theorem Staged.chooserFinished
    (staged : Staged world) (table : Table world) (chooser : Chooser)
    (ended : chooser.finished = true) :
    Spoken world (close (world.setChooser id chooser) (.chooser id)) := by
  let finished := world.setChooser id chooser
  have kept : Table finished := table.congr rfl rfl
  have closed : Talk (screen world)
        (screen (close finished (.chooser id))) ∧
      AllShown (close finished (.chooser id)) ∧
      (close finished (.chooser id)).choosers = finished.choosers ∧
      (close finished (.chooser id)).nextChooser = world.nextChooser := by
    cases lookup : find? finished (.chooser id) with
    | none =>
        rw [close_none lookup]
        exact ⟨Talk.silent _, staged.shown, rfl, rfl⟩
    | some found =>
        have shown : AllShown finished := staged.shown
        have told := screen_removed shown (mem_of_find lookup).1
        rw [close_chooser lookup]
        exact ⟨told.1, told.2, removed_choosers finished found⟩
  refine ⟨closed.1, closed.2.1, fun other => ?_, fun other late => ?_⟩
  · rw [kept.find_close, closed.2.2.1]
    show _ = !(Function.update world.choosers id chooser other).finished
    split_ifs with here
    · rw [Subject.chooser.inj here, Function.update_self, ended]
      rfl
    · rw [Function.update_of_ne fun equal => here (by rw [equal])]
      exact staged.choosers other
  · rw [closed.2.2.1]
    rw [closed.2.2.2] at late
    show (Function.update world.choosers id chooser other).finished = true
    by_cases here : other = id
    · rw [here, Function.update_self, ended]
    · rw [Function.update_of_ne here]
      exact staged.fresh other late

/-! ## Prompts and their interactions -/

/-- A prompt that is on screen has an interaction. -/
theorem Coupled.onScreen
    (coupled : Coupled frame)
    (visible : (frame.phases id).onScreen = true) :
    ∃ found, find? frame.world (.pin id) = some found := by
  rcases (coupled.fits id).found visible with ⟨found, lookup, -⟩
  exact ⟨found, lookup⟩

theorem Coupled.offScreen
    (coupled : Coupled frame)
    (hidden : (frame.phases id).onScreen = false) :
    find? frame.world (.pin id) = none := by
  have seen := (coupled.fits id).screen
  cases lookup : find? frame.world (.pin id) with
  | none => rfl
  | some found =>
      rw [lookup] at seen
      rw [seen.1] at hidden
      cases hidden

/-- A message to a prompt that is on screen. -/
theorem Coupled.tells
    (coupled : Coupled frame) (shown : AllShown frame.world)
    (visible : (frame.phases id).onScreen = true) {next : World}
    (mute : Mute frame.world next) {call : UiCall}
    (telling : tells (.pin id) call = true) :
    Speaks frame.world (message next (.pin id) call) := by
  rcases Coupled.onScreen coupled visible with ⟨found, lookup⟩
  have there : find? next (.pin id) = some found :=
    (mute.find_eq _).trans lookup
  exact mute.before (speaks_message (mute.table coupled.table)
    (mute.shown shown) (.inr ⟨⟨found, there⟩, telling⟩))

theorem speaks_shut
    (coupled : Coupled frame) (shown : AllShown frame.world) :
    Speaks frame.world (shut frame.world id) := by
  have mute : Mute frame.world (retire frame.world id) := mute_retire _
  exact mute.before (speaks_close (mute.table coupled.table)
    (mute.shown shown))

theorem speaks_attempt
    (coupled : Coupled frame) (shown : AllShown frame.world)
    (visible : (frame.phases id).onScreen = true) {next : World}
    (mute : Mute frame.world next) :
    Speaks frame.world (attempt next id) := by
  have begun : Mute frame.world
      (next.setPrompt id (attempting (next.prompts id))) :=
    mute.trans (mute_setPrompt next _)
  have busy : Speaks frame.world
      (setBusy (next.setPrompt id (attempting (next.prompts id))) id true) :=
    Coupled.tells coupled shown visible (begun.trans (mute_setPrompt _ _)) rfl
  exact busy.mute ((mute_setPrompt _ _).trans (mute_emit _ _))

theorem speaks_defer
    (shown : AllShown world) (outcome : CertificatePinOutcome) :
    Speaks world (defer world id outcome) := by
  have deferred : Mute world
      (world.setPrompt id (deferring (world.prompts id) outcome)) :=
    mute_setPrompt world _
  rw [defer]
  dsimp only
  split_ifs
  · exact (Mute.refl world).speaks shown
  · exact deferred.speaks shown
  · exact deferred.before (speaks_hide (deferred.shown shown))

/-- Cancelling finishes no chooser. -/
theorem Staged.cancelled
    (staged : Staged world) (cancellable : Nat) :
    Spoken world (cancel world cancellable) := by
  have same : screen (cancel world cancellable) = screen world ∧
      (cancel world cancellable).interactions = world.interactions ∧
      (cancel world cancellable).nextChooser = world.nextChooser ∧
      ∀ id, ((cancel world cancellable).choosers id).finished =
        (world.choosers id).finished := by
    rw [cancel]
    split_ifs
    · exact ⟨rfl, rfl, rfl, fun _ => rfl⟩
    · refine ⟨rfl, rfl, rfl, fun id => ?_⟩
      dsimp only
      split_ifs <;> rfl
  refine ⟨same.1 ▸ Talk.silent (screen world), ?_, fun id => ?_,
    fun id => ?_⟩
  · rw [AllShown, same.2.1]
    exact staged.shown
  · rw [find_congr same.2.1, same.2.2.2]
    exact staged.choosers id
  · rw [same.2.2.1, same.2.2.2]
    exact staged.fresh id

theorem Staged.aside
    (staged : Staged world) (same : Aside world next) :
    Spoken world next := by
  have told : screen next = screen world := by
    rw [screen, screen, same.interactions, same.nextUiId, same.posted]
  refine ⟨told ▸ Talk.silent (screen world), ?_, fun id => ?_,
    fun id late => ?_⟩
  · rw [AllShown, same.interactions]
    exact staged.shown
  · rw [find_congr same.interactions, same.choosers]
    exact staged.choosers id
  · rw [same.choosers]
    exact staged.fresh id (same.nextChooser.trans late)

/-- An interaction becomes ready. -/
theorem Staged.readied
    (staged : Staged world) (table : Table world) {found : Interaction}
    (member : found ∈ world.interactions) :
    Spoken world (setInteraction world { found with ready := true }) := by
  have same : entry { found with ready := true } = entry found := rfl
  have entries := entries_set table member same
  have told : screen (setInteraction world { found with ready := true }) =
      screen world := by
    rw [screen, entries]
    rfl
  have shown : found.shown = true := staged.shown found member
  refine ⟨told ▸ Talk.silent (screen world), shown_set staged.shown shown,
    fun id => ?_, staged.fresh⟩
  let changed : Interaction := { found with ready := true }
  have looked : find? (setInteraction world changed) (.chooser id) =
      if .chooser id = found.subject then some changed
      else find? world (.chooser id) :=
    @Table.find_setInteraction world table found changed member rfl rfl _
  rw [looked]
  split_ifs with here
  · have chooser := staged.choosers id
    rw [here, table.find_eq member] at chooser
    exact chooser
  · exact staged.choosers id

/-! ## All moves -/

/-- Every move says what can be done to a screen. -/
theorem Moves.spoken
    (coupled : Coupled first) (moves : Moves first second)
    (staged : Staged first.world) : Spoken first.world second.world := by
  have shown := staged.shown
  cases moves with
  | refused login => exact staged.mute (mute_refuse _ login)
  | queued login busy => exact staged.mute ⟨rfl, rfl, rfl, rfl, rfl⟩
  | begun login idle empty => exact staged.mute ⟨rfl, rfl, rfl, rfl, rfl⟩
  | popped idle queue => exact staged.mute ⟨rfl, rfl, rfl, rfl, rfl⟩
  | refreshStarted phase => exact staged.mute ⟨rfl, rfl, rfl, rfl, rfl⟩
  | @shown id view phase =>
      have hidden := Coupled.offScreen coupled
        (show (first.phases id).onScreen = false by rw [phase]; rfl)
      exact staged.speaks (speaks_message coupled.table shown
        (.inl ⟨hidden, rfl⟩))
  | deferred outcome flying => exact staged.speaks (speaks_defer shown _)
  | retired outcome active ready =>
      exact staged.speaks ((speaks_shut coupled shown).mute
        ⟨rfl, rfl, rfl, rfl, rfl⟩)
  | done phase => exact staged.mute (mute_callDone _ _ _)
  | @dequeued id outcome phase =>
      have left : Speaks first.world { shut first.world id with
          pinQueue := first.world.pinQueue.erase id } :=
        (speaks_shut coupled shown).mute ⟨rfl, rfl, rfl, rfl, rfl⟩
      exact staged.speaks (left.mute (mute_callDone _ _ _))
  | idleRuns free queued => exact staged.mute (mute_setPrompt _ _)
  | idleEnds here => exact staged.mute (mute_promptUnref _)
  | finalized ended =>
      exact staged.mute ((mute_setPrompt _ _).trans (mute_promptUnref _))
  | refreshReturned flags phase =>
      exact staged.mute ⟨rfl, rfl, rfl, rfl, rfl⟩
  | refreshEnded phase => exact staged.mute ⟨rfl, rfl, rfl, rfl, rfl⟩
  | loginReturned result phase worker =>
      exact staged.mute (mute_loginReturned _ _ _)
  | loginRefreshed flags phase =>
      exact staged.mute ⟨rfl, rfl, rfl, rfl, rfl⟩
  | loginEnded phase => exact staged.mute ⟨rfl, rfl, rfl, rfl, rfl⟩
  | @unbusied id succeeded phase =>
      exact staged.speaks (Coupled.tells coupled shown
        (show (first.phases id).onScreen = true by rw [phase]; rfl)
        (mute_setPrompt _ _) rfl)
  | @retried id phase typed few idle =>
      exact staged.speaks (Coupled.tells coupled shown
        (show (first.phases id).onScreen = true by rw [phase]; rfl)
        ((mute_freeSecret _ _).trans (mute_setPrompt _ _)) rfl)
  | @updated id status phase =>
      exact staged.speaks (Coupled.tells coupled shown
        (show (first.phases id).onScreen = true by rw [phase]; rfl)
        (.refl _) rfl)
  | @asked id phase =>
      have visible : (first.phases id).onScreen = true := by rw [phase]; rfl
      rcases Coupled.onScreen coupled visible with ⟨found, lookup⟩
      have pending : Mute first.world (first.world.setPrompt id
          { first.world.prompts id with warningPending := true }) :=
        mute_setPrompt _ _
      exact staged.speaks (pending.before
        (speaks_warning (pending.table coupled.table) shown _ lookup))
  | warningRefused phase => exact staged.mute (mute_setPrompt _ _)
  | held phase hand same typed valid =>
      exact staged.mute ((mute_setPrompt _ _).trans (mute_emit _ _))
  | @attempted id ready =>
      refine staged.speaks (speaks_attempt coupled shown ?_ (.refl _))
      rw [ready]
      split_ifs <;> rfl
  | @accepted id phase path =>
      exact staged.speaks (speaks_attempt coupled shown
        (show (first.phases id).onScreen = true by rw [phase]; rfl)
        (mute_setPrompt _ _))
  | readied member => exact staged.readied coupled.table member
  | timerFired armed => exact staged.mute (mute_setPrompt _ _)
  | cancelled cancellable => exact staged.cancelled cancellable
  | chooserShown chooser view showing =>
      exact staged.chooserShown coupled.table chooser view showing
  | chooserChanged chooser same => exact staged.chooserChanged chooser same
  | chooserUpdated view showing =>
      exact staged.chooserUpdated coupled.table view showing
  | chooserFinished chooser ended =>
      exact staged.chooserFinished coupled.table chooser ended
  | sent reply => exact staged.mute (mute_sendReply _ reply)
  | received waiting free => exact staged.mute ⟨rfl, rfl, rfl, rfl, rfl⟩
  | @dropped page wiped hand same =>
      exact staged.mute (mute_freeSecret first.world (some wiped))
  | aside same => exact staged.aside same

/-! ## Runs -/

/-- Any number of moves says what can be done to a screen. -/
theorem Coupled.spoken
    (coupled : Coupled first) (staged : Staged first.world)
    (moves : Composed Moves first second) :
    Composed Talk (screen first.world) (screen second.world) ∧
      Staged second.world := by
  suffices all : Coupled second ∧
      Composed Talk (screen first.world) (screen second.world) ∧
        Staged second.world from all.2
  induction moves with
  | refl => exact ⟨coupled, .refl, staged⟩
  | tail _ last ih =>
      have spoken := Moves.spoken ih.1 last ih.2.2
      exact ⟨(Moves.coupled last ih.1).1, ih.2.1.tail spoken.1, spoken.2⟩

theorem staged_start {start : World} (initial : machine.initial start) :
    screen start = ⟨[], 0, []⟩ ∧ Staged start := by
  rcases initial with ⟨pin, chooser, timeout, tokens, rfl⟩
  exact ⟨rfl, nofun, fun _ => rfl, fun _ _ => rfl⟩

theorem Arrived.staged (arrived : Arrived frame) :
    Protocol (screen frame.world) ∧ Staged frame.world := by
  rcases arrived.moves with ⟨start, initial, moves⟩
  have begun := staged_start initial
  have spoken := Coupled.spoken (coupled_start initial) begun.2 moves
  have nothing : Protocol (screen (Frame.start start).world) := by
    show Protocol (screen start)
    rw [begun.1]
    exact protocol_start
  exact ⟨(nothing.run spoken.1).1, spoken.2⟩

/-! ## What the user interface sees -/

/-- The UI of a run that has gone on to a later state. -/
structure Converses (world later : World) : Prop where
  delivered : ∀ id, Conversed (said id later.delivered)
  distinct : (later.interactions.map Interaction.id).Nodup
  known : ∀ found ∈ world.interactions, found.id ≤ world.nextUiId
  renewed : ∀ found ∈ later.interactions, world.nextUiId < found.id ∨
    ∃ earlier ∈ world.interactions, earlier.id = found.id ∧
      earlier.subject = found.subject

/-- Choosers, prompts, warnings and messages are as before. -/
structure Unmoved (world next : World) : Prop where
  prompts : next.prompts = world.prompts
  pinActive : next.pinActive = world.pinActive
  pinQueue : next.pinQueue = world.pinQueue
  choosers : next.choosers = world.choosers
  interactions : next.interactions = world.interactions
  posted : next.posted = world.posted

/-- What has been delivered about an interaction is a conversation. -/
theorem Protocol.conversed
    (protocol : Protocol (screen world)) (id : Nat) :
    Conversed (said id world.delivered) := by
  have orderly : Orderly (said id (world.delivered ++ world.pending)) :=
    protocol.orderly id
  rw [said_append] at orderly
  exact orderly.earlier.conversed

theorem Renewed.interactions
    (renewed : Renewed (screen world) (screen next)) (found : Interaction)
    (member : found ∈ next.interactions) :
    world.nextUiId < found.id ∨
      ∃ earlier ∈ world.interactions, earlier.id = found.id ∧
        earlier.subject = found.subject := by
  rcases renewed.entries _ (List.mem_map_of_mem member) with new | old
  · exact .inl new
  · rcases List.mem_map.mp old with ⟨earlier, inside, same⟩
    exact .inr ⟨earlier, inside, congrArg Prod.fst same,
      congrArg Prod.snd same⟩

/-- The messages of a run are in order, with the numbers they have to have. -/
theorem Arrived.converses
    (arrived : Arrived frame) {actions : List Action} {later : World}
    (ran : machine.run frame.world actions = some later) :
    Converses frame.world later := by
  rcases arrived.run ran with ⟨after, rfl, there, moves⟩
  have spoken := Coupled.spoken arrived.between.coupled
    (Arrived.staged arrived).2 moves
  have run := (Arrived.staged arrived).1.run spoken.1
  exact ⟨Protocol.conversed run.1, there.between.coupled.table.ids,
    arrived.between.coupled.table.bound, Renewed.interactions run.2⟩

/-- A reply to an interaction that is closed has no effect. -/
theorem Protocol.unmoved
    (protocol : Protocol (screen world)) {index : Nat} {reply : Reply}
    (waiting : world.inbox[index]? = some reply)
    (closed : ⟨reply.id, .close⟩ ∈ world.posted)
    (moves : step world (.receive index) = some next) :
    Unmoved world next := by
  have gone : named world reply = none := by
    rw [named, List.find?_eq_none]
    intro found member same
    exact protocol.gone closed _ (List.mem_map_of_mem member)
      (of_decide_eq_true same)
  rw [step, receive, waiting, Option.map_some, Option.some.injEq] at moves
  subst moves
  have ignored : Ui.reply
      ({ world with inbox := world.inbox.eraseIdx index }.emit
        (.replied reply)) reply =
      ({ world with inbox := world.inbox.eraseIdx index }.emit
        (.replied reply)).freeSecret (replyPage reply) := by
    have none : named ({ world with
        inbox := world.inbox.eraseIdx index }.emit (.replied reply)) reply =
          Option.none := gone
    rw [Ui.reply, none]
  rw [ignored]
  cases replyPage reply <;> exact ⟨rfl, rfl, rfl, rfl, rfl, rfl⟩

/-- From every reachable state, the UI goes on as the protocol has it, and
late replies change nothing. -/
theorem converses_of_reachable
    {world : World} (reachable : machine.Reachable world) :
    (∀ actions later, machine.run world actions = some later →
      Converses world later) ∧
    ∀ index reply next, world.inbox[index]? = some reply →
      ⟨reply.id, .close⟩ ∈ world.posted →
        step world (.receive index) = some next → Unmoved world next := by
  rcases reachable_arrived reachable with ⟨frame, rfl, arrived⟩
  constructor
  · exact fun actions later => Arrived.converses arrived
  · exact fun index reply next =>
      Protocol.unmoved (Arrived.staged arrived).1

/-- A prompt is shown, cancelled and closed before a late reply. -/
theorem converses_late_reply :
    ∃ world next, Converses world next ∧ Unmoved world next ∧
      Message.mk 1 .close ∈ world.posted := by
  let start := World.start true true 0 fun _ =>
    ⟨true, ⟨false, false, false⟩⟩
  let actions : List Action :=
    [.login ⟨0, false, true, true, none, false⟩, .send ⟨1, .cancel⟩,
      .send ⟨1, .ready⟩, .receive 0]
  have outcome : (machine.run start actions).any (fun world =>
      (step world (.receive 0)).any fun _ =>
        world.inbox = [⟨1, .ready⟩] ∧
          Message.mk 1 .close ∈ world.posted) = true := by decide +kernel
  rcases (Option.any_eq_true ..).mp outcome with ⟨world, ran, taken⟩
  rcases (Option.any_eq_true ..).mp taken with ⟨next, moves, facts⟩
  have told := of_decide_eq_true facts
  have reached : machine.Reachable start := .initial ⟨_, _, _, _, rfl⟩
  have both := converses_of_reachable (reached.run ran)
  refine ⟨world, next, both.1 [.receive 0] next ?_,
    both.2 0 ⟨1, .ready⟩ next ?_ told.2 moves, told.2⟩
  · rw [System.run_cons, show machine.step world (.receive 0) = some next
      from moves]
    rfl
  · rw [told.1]
    rfl

end PortalCertificate.Core.UiProtocol
