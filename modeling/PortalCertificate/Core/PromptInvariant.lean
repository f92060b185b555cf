import PortalCertificate.Core.PromptSteps

/-!
# The invariant of the coordinator's moves

What is left are the moves by which a prompt loses a reference and those
that are not about prompts.  Together the moves keep the invariant, and a
prompt keeps what its login has asked for.
-/

namespace PortalCertificate.Core.PromptInvariant

open PortalCertificate.Core.Coordinator
open PortalCertificate.Core.InteractionTable
open PortalCertificate.Core.Interactions
open PortalCertificate.Core.Pin
open PortalCertificate.Core.PromptCourse
open PortalCertificate.Core.PromptFits
open PortalCertificate.Core.PromptMoves
open PortalCertificate.Core.PromptSteps
open PortalCertificate.Core.PromptViews
open PortalCertificate.Core.Secret
open PortalCertificate.Core.Ui
open PortalCertificate.Library.Transition

variable {frame : Frame} {id : Nat}

/-! ## References -/

theorem coupled_idleRuns
    (coupled : Coupled frame) (free : frame.running = none)
    (queued : (frame.world.prompts id).cancelIdle = true) :
    Coupled { frame with
        world := frame.world.setPrompt id
          { frame.world.prompts id with cancelIdle := false }
        running := some id } ∧
      Steady frame { frame with
        world := frame.world.setPrompt id
          { frame.world.prompts id with cancelIdle := false }
        running := some id } := by
  have fits := coupled.fits id
  rw [decide_eq_false (by rw [free]; exact nofun)] at fits
  have runs := fits.idleRuns queued
  have result : Result frame id (frame.world.setPrompt id
      { frame.world.prompts id with cancelIdle := false })
      (frame.phases id) (some id) := by
    refine result_setPrompt coupled ?_ rfl rfl
    rw [decide_eq_true rfl]
    exact runs
  have same : ∀ other, other ≠ id →
      (some id = some other ↔ frame.running = some other) := by
    intro other different
    rw [free]
    exact ⟨fun same => absurd (Option.some.inj same).symm different, nofun⟩
  have still : Still frame.world (frame.world.setPrompt id
      { frame.world.prompts id with cancelIdle := false }) :=
    still_setPrompt _ id _
  have moved (hand : Option XccSecret) :=
    @Coupled.moved frame id coupled _ _ _ hand result same still (.refl _)
  rw [Function.update_eq_self] at moved
  exact moved frame.hand

/-- Only a prompt that has been answered loses its last reference here. -/
theorem answered_of_last
    {frame : Frame} (coupled : Coupled frame)
    (extra : (frame.running = some id) ∨
      0 < (frame.world.prompts id).tasks)
    (last : (frame.world.prompts id).refs = 1) :
    frame.phases id = .answered := by
  have fits := coupled.fits id
  have refs := fits.refs
  have alone : (frame.phases id).ownsItself = false := by
    cases owns : (frame.phases id).ownsItself with
    | false => rfl
    | true =>
        simp only [holders, owns, last, Bool.toNat_true] at refs
        rcases extra with running | tasks
        · rw [decide_eq_true running, Bool.toNat_true] at refs
          omega
        · omega
  have lived := fits.lived
  cases phase : frame.phases id with
  | unborn =>
      rw [phase] at lived
      rw [lived.1] at last
      cases last
  | refused =>
      rw [phase] at lived
      rw [lived.1] at last
      cases last
  | freed =>
      rw [fits.freed phase] at last
      cases last
  | answered => rfl
  | _ => rw [phase] at alone; cases alone

/-- A worker or an idle source of the prompt releases it. -/
theorem coupled_released
    (coupled : Coupled frame) {tasks : Nat} {running : Option Nat}
    (less : (decide (running = some id)).toNat + tasks + 1 =
      (decide (frame.running = some id)).toNat +
        (frame.world.prompts id).tasks)
    (same : ∀ other, other ≠ id →
      (running = some other ↔ frame.running = some other)) :
    Coupled ⟨promptUnref (frame.world.setPrompt id
          { frame.world.prompts id with tasks }) id,
        Function.update frame.phases id (frame.released id), running,
        frame.hand⟩ ∧
      Steady frame ⟨promptUnref (frame.world.setPrompt id
          { frame.world.prompts id with tasks }) id,
        Function.update frame.phases id (frame.released id), running,
        frame.hand⟩ := by
  have fits := coupled.fits id
  have left := fits.released less
  let fewer : PinPrompt := { frame.world.prompts id with tasks }
  have looks : Looks (frame.world.setPrompt id fewer) id fewer
      (find? frame.world (.pin id)) (history id frame.world.trace) :=
    looks_self.setPrompt fewer
  have others : ∀ other, other ≠ id → Untouched other frame.world
      (promptUnref (frame.world.setPrompt id fewer) id) :=
    fun other different =>
      (looks_self.setPrompt_other different fewer).promptUnref_other different
  have table : Table (promptUnref (frame.world.setPrompt id fewer) id) :=
    coupled.table.congr (promptUnref_interactions ..)
      (promptUnref_nextUiId ..)
  have still : Still frame.world
      (promptUnref (frame.world.setPrompt id fewer) id) :=
    (still_setPrompt _ id fewer).trans (still_promptUnref _ id)
  have extra : frame.running = some id ∨
      0 < (frame.world.prompts id).tasks := by
    by_cases running : frame.running = some id
    · exact .inl running
    · rw [decide_eq_false running, Bool.toNat_false] at less
      exact .inr (by omega)
  rw [Frame.released]
  split_ifs at left ⊢ with last
  · have phase := answered_of_last coupled extra last
    have none : fewer.secret = none := by
      have holds := fits.secret
      rwa [phase] at holds
    have zero : { fewer with refs := 0 } = unreffed fewer := by
      rw [unreffed]
      show _ = { fewer with refs := (frame.world.prompts id).refs - 1 }
      rw [last]
    refine Coupled.moved coupled ⟨⟨_, _, _,
      looks.promptUnref_last last none, zero ▸ left, rfl, rfl⟩, others,
      table⟩ same still ?_
    exact place_of phase rfl (by decide) (by decide)
  · have several : 1 < (frame.world.prompts id).refs := by
      have refs := fits.refs
      rw [holders] at refs
      omega
    exact Coupled.moved coupled ⟨⟨_, _, _, looks.promptUnref several, left,
      rfl, rfl⟩, others, table⟩ same still (.refl _)

theorem coupled_finalized
    (coupled : Coupled frame) (ended : 0 < (frame.world.prompts id).tasks) :
    Coupled (frame.goes id (frame.released id)
        (promptUnref (frame.world.setPrompt id
          { frame.world.prompts id with
            tasks := (frame.world.prompts id).tasks - 1 }) id)) ∧
      Steady frame (frame.goes id (frame.released id)
        (promptUnref (frame.world.setPrompt id
          { frame.world.prompts id with
            tasks := (frame.world.prompts id).tasks - 1 }) id)) :=
  coupled_released coupled (by omega) (fun _ _ => Iff.rfl)

theorem coupled_idleEnds
    (coupled : Coupled frame) (here : frame.running = some id) :
    Coupled { frame.goes id (frame.released id)
          (promptUnref frame.world id) with
        running := none } ∧
      Steady frame { frame.goes id (frame.released id)
          (promptUnref frame.world id) with
        running := none } := by
  have same : frame.world.setPrompt id
      { frame.world.prompts id with
        tasks := (frame.world.prompts id).tasks } = frame.world := by
    show { frame.world with
      prompts := Function.update frame.world.prompts id
        (frame.world.prompts id) } = _
    rw [Function.update_eq_self]
  have less : (decide (none = some id)).toNat +
      (frame.world.prompts id).tasks + 1 =
        (decide (frame.running = some id)).toNat +
          (frame.world.prompts id).tasks := by
    rw [decide_eq_true here, decide_eq_false nofun, Bool.toNat_true,
      Bool.toNat_false]
    omega
  have others : ∀ other, other ≠ id →
      (none = some other ↔ frame.running = some other) := by
    intro other different
    rw [here]
    exact ⟨nofun, fun same => absurd (Option.some.inj same).symm different⟩
  have released := coupled_released coupled less others
  rwa [same] at released

/-! ## Moves that are not about prompts -/

/-- Nothing that prompts have has changed. -/
theorem coupled_told
    (coupled : Coupled frame) {next : World} {hand : Option XccSecret}
    (prompts : next.prompts = frame.world.prompts)
    (interactions : next.interactions = frame.world.interactions)
    (counter : next.nextUiId = frame.world.nextUiId)
    (still : Still frame.world next)
    (trace : ∀ id, history id next.trace = history id frame.world.trace) :
    Coupled { frame with world := next, hand := hand } ∧
      Steady frame { frame with world := next, hand := hand } :=
  Coupled.elsewhere coupled
    (fun id => looks_self.congr prompts interactions (trace id)) still
    (coupled.table.congr interactions counter)

theorem coupled_chooserMessage
    (coupled : Coupled frame) {world : World}
    (untouched : ∀ id, Untouched id frame.world world)
    (still : Still frame.world world) (table : Table world) (chooser : Nat)
    (call : UiCall) :
    Coupled (frame.turns (message world (.chooser chooser) call)) ∧
      Steady frame (frame.turns (message world (.chooser chooser) call)) :=
  Coupled.elsewhere coupled
    (fun id => (untouched id).message_other table Subject.noConfusion call)
    (still.trans (still_message ..)) (table.message ..)

theorem coupled_chooserShown
    (coupled : Coupled frame) (chooser : Chooser) (view : XccChooserView) :
    Coupled (frame.turns (message
        ({ frame.world with
          nextChooser := frame.world.nextChooser + 1 }.setChooser
            frame.world.nextChooser chooser)
        (.chooser frame.world.nextChooser) (.chooserShow view))) ∧
      Steady frame (frame.turns (message
        ({ frame.world with
          nextChooser := frame.world.nextChooser + 1 }.setChooser
            frame.world.nextChooser chooser)
        (.chooser frame.world.nextChooser) (.chooserShow view))) := by
  let made := { frame.world with
    nextChooser := frame.world.nextChooser + 1 }.setChooser
      frame.world.nextChooser chooser
  have untouched (id : Nat) : Untouched id frame.world made :=
    looks_self.congr rfl rfl rfl
  have table : Table made := coupled.table.congr rfl rfl
  have still : Still frame.world made := ⟨rfl, rfl, rfl⟩
  exact coupled_chooserMessage coupled untouched still table _ _

theorem coupled_chooserFinished
    (coupled : Coupled frame) (id : Nat) (chooser : Chooser) :
    Coupled (frame.turns
        (close (frame.world.setChooser id chooser) (.chooser id))) ∧
      Steady frame (frame.turns
        (close (frame.world.setChooser id chooser) (.chooser id))) := by
  have untouched (id' : Nat) : Untouched id' frame.world
      (frame.world.setChooser id chooser) := looks_self.congr rfl rfl rfl
  have table : Table (frame.world.setChooser id chooser) :=
    coupled.table.congr rfl rfl
  have still : Still frame.world (frame.world.setChooser id chooser) :=
    ⟨rfl, rfl, rfl⟩
  exact Coupled.elsewhere coupled
    (fun id => (untouched id).close_other table Subject.noConfusion)
    (still.trans (still_close ..)) (table.close _)

theorem history_freeSecret
    (world : World) (secret : Option XccSecret) (id : Nat) :
    history id (world.freeSecret secret).trace = history id world.trace :=
  (looks_self.freeSecret secret).past

theorem coupled_sent
    (coupled : Coupled frame) (reply : Reply) :
    Coupled (frame.turns (sendReply frame.world reply)) ∧
      Steady frame (frame.turns (sendReply frame.world reply)) := by
  have sent : (sendReply frame.world reply).prompts = frame.world.prompts ∧
      (sendReply frame.world reply).interactions =
        frame.world.interactions ∧
      (sendReply frame.world reply).nextUiId = frame.world.nextUiId ∧
      Still frame.world (sendReply frame.world reply) ∧
      ∀ id, history id (sendReply frame.world reply).trace =
        history id frame.world.trace := by
    rw [sendReply]
    cases replyPage (Reply.numbered reply frame.world.nextSecret) with
    | none =>
        split_ifs <;>
          exact ⟨rfl, rfl, rfl, ⟨rfl, rfl, rfl⟩, fun _ => rfl⟩
    | some page =>
        split_ifs <;>
          exact ⟨rfl, rfl, rfl, ⟨rfl, rfl, rfl⟩, fun _ => rfl⟩
  rcases sent with ⟨prompts, interactions, counter, still, trace⟩
  exact coupled_told coupled prompts interactions counter still trace

theorem coupled_aside
    (coupled : Coupled frame) {next : World}
    (same : Aside frame.world next) :
    Coupled (frame.turns next) ∧ Steady frame (frame.turns next) := by
  refine coupled_told coupled same.prompts same.interactions same.nextUiId
    ⟨same.pinActive, same.pinQueue, same.nextPrompt⟩ ?_
  intro id
  rcases same.trace with trace | ⟨_, _, _, trace⟩
  · rw [trace]
  · rw [trace]
    rfl

/-! ## All moves -/

/-- Every move keeps prompts and phases together, and what a login has asked
for. -/
theorem Moves.coupled
    {first second : Frame} (moves : Moves first second)
    (coupled : Coupled first) : Coupled second ∧ Steady first second := by
  cases moves with
  | refused login => exact coupled_refused coupled login
  | queued login busy => exact coupled_queued coupled login
  | begun login idle empty => exact coupled_begun coupled login idle
  | popped idle queue => exact coupled_popped coupled idle queue
  | refreshStarted phase => exact coupled_refreshStarted coupled phase
  | shown view phase => exact coupled_shown coupled view phase
  | deferred outcome flying => exact coupled_deferred coupled outcome flying
  | retired outcome active ready =>
      exact coupled_retired coupled outcome active ready
  | done phase => exact coupled_done coupled phase
  | dequeued outcome phase => exact coupled_dequeued coupled outcome phase rfl
  | idleRuns free queued => exact coupled_idleRuns coupled free queued
  | idleEnds here => exact coupled_idleEnds coupled here
  | finalized ended => exact coupled_finalized coupled ended
  | refreshReturned flags phase =>
      exact coupled_refreshReturned coupled flags phase
  | refreshEnded phase => exact coupled_refreshEnded coupled phase
  | loginReturned result phase worker =>
      exact coupled_loginReturned coupled _ result phase
  | loginRefreshed flags phase =>
      exact coupled_loginRefreshed coupled flags phase
  | loginEnded phase => exact coupled_loginEnded coupled phase
  | unbusied phase =>
      exact coupled_unbusied coupled (by rw [phase]; rfl)
  | retried phase typed few idle =>
      exact coupled_retried coupled phase typed few idle
  | updated status phase =>
      exact coupled_updated coupled status (by rw [phase]; rfl)
  | asked phase => exact coupled_asked coupled (by rw [phase]; rfl)
  | warningRefused phase =>
      exact coupled_warningRefused coupled (by rw [phase]; rfl)
  | held phase hand same typed valid =>
      exact coupled_held coupled phase typed valid none
  | attempted ready => exact coupled_attempted coupled ready
  | accepted phase path => exact coupled_accepted coupled phase path
  | readied member => exact coupled_readied coupled member
  | timerFired armed => exact coupled_timerFired coupled armed
  | cancelled cancellable => exact coupled_cancelled coupled cancellable
  | chooserShown chooser view showing =>
      exact coupled_chooserShown coupled chooser view
  | chooserChanged chooser same =>
      exact coupled_told coupled rfl rfl rfl ⟨rfl, rfl, rfl⟩ fun _ => rfl
  | chooserUpdated view showing =>
      exact coupled_chooserMessage coupled (fun id => looks_self) (.refl _)
        coupled.table _ _
  | chooserFinished chooser ended =>
      exact coupled_chooserFinished coupled _ chooser
  | sent reply => exact coupled_sent coupled reply
  | received waiting free =>
      exact coupled_told coupled rfl rfl rfl ⟨rfl, rfl, rfl⟩ fun _ => rfl
  | dropped hand same =>
      exact coupled_told coupled rfl rfl rfl ⟨rfl, rfl, rfl⟩
        fun _ => history_freeSecret ..
  | aside same => exact coupled_aside coupled same

theorem Steady.refl (frame : Frame) : Steady frame frame :=
  fun _ _ => ⟨rfl, rfl⟩

/-- A prompt of a move comes to some phase, and the others stay. -/
theorem alive_update
    {phase : Phase} (there : phase ≠ .unborn) {other : Nat}
    (alive : frame.phases other ≠ .unborn) :
    Function.update frame.phases id phase other ≠ .unborn := by
  by_cases here : other = id
  · rwa [here, Function.update_self]
  · rwa [Function.update_of_ne here]

theorem settled_there (world : World) (id : Nat) :
    settled world id ≠ .unborn := by
  rw [settled]
  split_ifs <;> exact Phase.noConfusion

theorem alive_released
    {other : Nat} (alive : frame.phases other ≠ .unborn) :
    Function.update frame.phases id (frame.released id) other ≠ .unborn := by
  rw [Frame.released]
  split_ifs
  · exact alive_update Phase.noConfusion alive
  · rwa [Function.update_eq_self]

/-- A prompt that has been asked for has been asked for ever after. -/
theorem Moves.alive
    {first second : Frame} (moves : Moves first second)
    (alive : first.phases id ≠ .unborn) : second.phases id ≠ .unborn := by
  cases moves with
  | done phase => exact alive_update (settled_there _ _) alive
  | dequeued outcome phase => exact alive_update (settled_there _ _) alive
  | idleEnds here => exact alive_released alive
  | finalized ended => exact alive_released alive
  | loginReturned result phase worker =>
      refine alive_update ?_ alive
      split_ifs <;> exact Phase.noConfusion
  | refused | queued | begun | popped | refreshStarted | shown | retired
  | refreshReturned | refreshEnded | loginRefreshed | loginEnded | retried
  | held | attempted | accepted => exact alive_update Phase.noConfusion alive
  | deferred | idleRuns | unbusied | updated | asked | warningRefused
  | readied | timerFired | cancelled | chooserShown | chooserChanged
  | chooserUpdated | chooserFinished | sent | received | dropped
  | aside => exact alive

/-! ## Many moves -/

/-- Any number of moves keeps prompts and phases together. -/
theorem Coupled.run
    {first second : Frame} (coupled : Coupled first)
    (moves : Composed Moves first second) : Coupled second := by
  induction moves with
  | refl => exact coupled
  | tail before last ih => exact (Moves.coupled last ih).1

/-- Any number of moves keeps what a login has asked for. -/
theorem Steady.run
    {first second : Frame} (coupled : Coupled first)
    (moves : Composed Moves first second) :
    Steady first second ∧
      ∀ id, first.phases id ≠ .unborn → second.phases id ≠ .unborn := by
  induction moves with
  | refl => exact ⟨Steady.refl first, fun _ alive => alive⟩
  | tail before last ih =>
      have middle := Coupled.run coupled before
      have steady := (Moves.coupled last middle).2
      refine ⟨fun id alive => ?_, fun id alive => ?_⟩
      · have there := ih.1 id alive
        have after := steady id (ih.2 id alive)
        exact ⟨after.1.trans there.1, after.2.trans there.2⟩
      · exact Moves.alive last (ih.2 id alive)

/-! ## Where runs begin -/

/-- The frame in which nothing has happened. -/
def Frame.start (world : World) : Frame :=
  ⟨world, fun _ => .unborn, none, none⟩

/-- Prompts and phases are together at the start. -/
theorem coupled_start
    {world : World} (start : machine.initial world) :
    Coupled (Frame.start world) := by
  rcases start with ⟨pin, chooser, timeout, tokens, rfl⟩
  refine ⟨?_, fun id => fits_unborn, fun id => ⟨nofun, nofun⟩,
    fun id => ⟨nofun, nofun⟩, fun id => ?_, List.Pairwise.nil⟩
  · constructor <;> simp [Frame.start, World.start]
  · exact ⟨fun _ => Nat.zero_le id, fun _ => rfl⟩

end PortalCertificate.Core.PromptInvariant
