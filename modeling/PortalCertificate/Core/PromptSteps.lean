import PortalCertificate.Core.PromptMoves

/-!
# Every move fits

The invariant of frames is kept by each move, one lemma for each kind of
move.  A lemma says how the prompt of the move looks afterwards; the other
prompts are untouched.
-/

namespace PortalCertificate.Core.PromptSteps

open PortalCertificate.Core.Coordinator
open PortalCertificate.Core.InteractionTable
open PortalCertificate.Core.Interactions
open PortalCertificate.Core.Pin
open PortalCertificate.Core.PromptCourse
open PortalCertificate.Core.PromptFits
open PortalCertificate.Core.PromptMoves
open PortalCertificate.Core.PromptViews
open PortalCertificate.Core.Secret
open PortalCertificate.Core.Ui

variable {frame : Frame} {id : Nat}

/-! ## Rules -/

/-- The move keeps its prompt in the queue, active, or out of both. -/
structure SamePlace (before after : Phase) : Prop where
  active : after.isActive = before.isActive
  queued : after = .queued ↔ before = .queued
  unborn : after = .unborn ↔ before = .unborn

theorem SamePlace.refl (phase : Phase) : SamePlace phase phase :=
  ⟨rfl, Iff.rfl, Iff.rfl⟩

/-- The prompt of a move, afterwards. -/
structure Result
    (frame : Frame) (id : Nat) (next : World) (phase : Phase)
    (running : Option Nat) : Prop where
  looks : ∃ prompt screen past, Looks next id prompt screen past ∧
    Fits id phase (running = some id) prompt screen past ∧
    prompt.toPinLogin = (frame.world.prompts id).toPinLogin ∧
    prompt.protectedPath = (frame.world.prompts id).protectedPath
  others : ∀ other, other ≠ id → Untouched other frame.world next
  table : Table next

theorem Result.fits
    {next : World} {phase : Phase} {running : Option Nat}
    (result : Result frame id next phase running)
    (coupled : Coupled frame)
    (same : ∀ other, other ≠ id →
      (running = some other ↔ frame.running = some other))
    (other : Nat) :
    Fits other (Function.update frame.phases id phase other)
      (running = some other) (next.prompts other)
      (find? next (.pin other)) (history other next.trace) := by
  by_cases here : other = id
  · subst here
    rcases result.looks with ⟨_, _, _, ⟨rfl, rfl, rfl⟩, fits, -⟩
    rw [Function.update_self]
    exact fits
  · have untouched := result.others other here
    rw [Function.update_of_ne here, untouched.prompt, untouched.screen,
      untouched.past, decide_eq_decide.mpr (same other here)]
    exact coupled.fits other

theorem Result.steady
    {next : World} {phase : Phase} {running : Option Nat}
    (result : Result frame id next phase running)
    {after : Frame} (world : after.world = next) : Steady frame after := by
  intro other _
  rw [world]
  by_cases here : other = id
  · subst here
    rcases result.looks with ⟨_, _, _, ⟨rfl, -, -⟩, -, login, path⟩
    exact ⟨login, path⟩
  · rw [(result.others other here).prompt]
    exact ⟨rfl, rfl⟩

/-- A move, with what it does to the queue. -/
theorem Coupled.placed
    (coupled : Coupled frame) {next : World} {phase : Phase}
    {running : Option Nat} {hand : Option XccSecret}
    (result : Result frame id next phase running)
    (same : ∀ other, other ≠ id →
      (running = some other ↔ frame.running = some other))
    (active : ∀ other, next.pinActive = some other ↔
      (Function.update frame.phases id phase other).isActive = true)
    (queued : ∀ other, other ∈ next.pinQueue ↔
      Function.update frame.phases id phase other = .queued)
    (fewer : next.pinQueue.Sublist frame.world.pinQueue)
    (born : next.nextPrompt = frame.world.nextPrompt)
    (unborn : phase = .unborn ↔ frame.phases id = .unborn) :
    Coupled ⟨next, Function.update frame.phases id phase, running, hand⟩ ∧
      Steady frame
        ⟨next, Function.update frame.phases id phase, running, hand⟩ := by
  refine ⟨⟨result.table, result.fits coupled same, active, queued, ?_,
    coupled.sorted.sublist fewer⟩, result.steady rfl⟩
  intro other
  show Function.update frame.phases id phase other = .unborn ↔
    next.nextPrompt ≤ other
  rw [born, ← coupled.born other]
  by_cases here : other = id
  · rw [here, Function.update_self, unborn]
  · rw [Function.update_of_ne here]

/-- A move that keeps the queue and the place of its prompt. -/
theorem Coupled.moved
    (coupled : Coupled frame) {next : World} {phase : Phase}
    {running : Option Nat} {hand : Option XccSecret}
    (result : Result frame id next phase running)
    (same : ∀ other, other ≠ id →
      (running = some other ↔ frame.running = some other))
    (still : Still frame.world next)
    (place : SamePlace (frame.phases id) phase) :
    Coupled ⟨next, Function.update frame.phases id phase, running, hand⟩ ∧
      Steady frame
        ⟨next, Function.update frame.phases id phase, running, hand⟩ := by
  refine Coupled.placed coupled result same ?_ ?_ (by rw [still.pinQueue])
    still.nextPrompt place.unborn
  · intro other
    rw [still.pinActive, coupled.active other]
    by_cases here : other = id
    · rw [here, Function.update_self, place.active]
    · rw [Function.update_of_ne here]
  · intro other
    rw [still.pinQueue, coupled.queued other]
    by_cases here : other = id
    · rw [here, Function.update_self, place.queued]
    · rw [Function.update_of_ne here]

theorem Coupled.goes
    (coupled : Coupled frame) {next : World} {phase : Phase}
    (result : Result frame id next phase frame.running)
    (still : Still frame.world next)
    (place : SamePlace (frame.phases id) phase) :
    Coupled (frame.goes id phase next) ∧
      Steady frame (frame.goes id phase next) :=
  Coupled.moved coupled result (fun _ _ => Iff.rfl) still place

/-- A prompt may change within its phase. -/
theorem Coupled.turns
    (coupled : Coupled frame) {next : World}
    (result : Result frame id next (frame.phases id) frame.running)
    (still : Still frame.world next) :
    Coupled (frame.turns next) ∧ Steady frame (frame.turns next) := by
  have moved := Coupled.goes coupled result still (.refl _)
  have same : frame.goes id (frame.phases id) next = frame.turns next := by
    rw [Frame.goes, Function.update_eq_self, Frame.turns]
  rwa [same] at moved

/-- A move that is not about prompts. -/
theorem Coupled.elsewhere
    (coupled : Coupled frame) {next : World} {hand : Option XccSecret}
    (untouched : ∀ id, Untouched id frame.world next)
    (still : Still frame.world next) (table : Table next) :
    Coupled ⟨next, frame.phases, frame.running, hand⟩ ∧
      Steady frame ⟨next, frame.phases, frame.running, hand⟩ := by
  refine ⟨⟨table, ?_, ?_, ?_, ?_, ?_⟩, ?_⟩
  · intro id
    show Fits id (frame.phases id) _ (next.prompts id) _ _
    rw [(untouched id).prompt, (untouched id).screen, (untouched id).past]
    exact coupled.fits id
  · intro id
    show next.pinActive = some id ↔ _
    rw [still.pinActive]
    exact coupled.active id
  · intro id
    show id ∈ next.pinQueue ↔ _
    rw [still.pinQueue]
    exact coupled.queued id
  · intro id
    show _ ↔ next.nextPrompt ≤ id
    rw [still.nextPrompt]
    exact coupled.born id
  · show next.pinQueue.Pairwise (· < ·)
    rw [still.pinQueue]
    exact coupled.sorted
  · intro id _
    show (next.prompts id).toPinLogin = _ ∧
      (next.prompts id).protectedPath = _
    rw [(untouched id).prompt]
    exact ⟨rfl, rfl⟩

/-! ## Records and events -/

/-- The prompt is in this phase, with its invariant. -/
theorem Coupled.at
    (coupled : Coupled frame) {phase : Phase}
    (here : frame.phases id = phase) :
    Fits id phase (frame.running = some id) (frame.world.prompts id)
      (find? frame.world (.pin id)) (history id frame.world.trace) :=
  here ▸ coupled.fits id

/-- A move that writes to the record of one prompt only. -/
theorem result_setPrompt
    (coupled : Coupled frame) {changed : PinPrompt} {phase : Phase}
    {running : Option Nat}
    (fits : Fits id phase (running = some id) changed
      (find? frame.world (.pin id)) (history id frame.world.trace))
    (login : changed.toPinLogin = (frame.world.prompts id).toPinLogin)
    (path : changed.protectedPath =
      (frame.world.prompts id).protectedPath) :
    Result frame id (frame.world.setPrompt id changed) phase running :=
  ⟨⟨_, _, _, looks_self.setPrompt changed, fits, login, path⟩,
    fun _ different => looks_self.setPrompt_other different changed,
    coupled.table.congr rfl rfl⟩

/-- One event about the prompt goes with the change of its record. -/
theorem Result.emit
    {world : World} {prompt : PinPrompt} {screen : Option Interaction}
    {past : List Event} {phase : Phase} {running : Option Nat}
    (looks : Looks world id prompt screen past)
    (others : ∀ other, other ≠ id → Untouched other frame.world world)
    (table : Table world) {event : Event}
    (about : ∀ other, concerns other event = decide (id = other))
    (fits : Fits id phase (running = some id) prompt screen (event :: past))
    (login : prompt.toPinLogin = (frame.world.prompts id).toPinLogin)
    (path : prompt.protectedPath = (frame.world.prompts id).protectedPath) :
    Result frame id (world.emit event) phase running := by
  refine ⟨⟨_, _, _, looks.emit ?_, fits, login, path⟩, ?_,
    table.congr rfl rfl⟩
  · rw [about, decide_eq_true rfl]
  · intro other different
    refine (others other different).emit_other ?_
    rw [about, decide_eq_false different.symm]

/-! ## Prompts that are asked for -/

/-- The prompt is not there yet. -/
theorem Coupled.unborn
    (coupled : Coupled frame) :
    frame.phases frame.world.nextPrompt = .unborn :=
  (coupled.born _).mpr le_rfl

/-- The next prompt has no record, no interaction and no history. -/
theorem Coupled.absent
    (coupled : Coupled frame) :
    Looks frame.world frame.world.nextPrompt .absent none [] ∧
      frame.running ≠ some frame.world.nextPrompt := by
  have fits := Coupled.at coupled (Coupled.unborn coupled)
  have lived := fits.lived
  refine ⟨⟨lived.1, ?_, lived.2⟩, ?_⟩
  · have seen := fits.screen
    cases screen : find? frame.world (.pin frame.world.nextPrompt) with
    | none => rfl
    | some found =>
        rw [screen] at seen
        cases seen.1
  · intro running
    have refs := fits.refs
    rw [lived.1, decide_eq_true running] at refs
    exact absurd refs (by decide)

/-- What becomes of a login that is asked for. -/
theorem Coupled.created
    (coupled : Coupled frame) {next : World} {phase : Phase}
    {prompt : PinPrompt} {past : List Event}
    (looks : Looks next frame.world.nextPrompt prompt none past)
    (fits : Fits frame.world.nextPrompt phase false prompt none past)
    (others : ∀ other, other ≠ frame.world.nextPrompt →
      Untouched other frame.world next)
    (table : Table next)
    (counter : next.nextPrompt = frame.world.nextPrompt + 1)
    (there : phase ≠ .unborn)
    (active : ∀ other, next.pinActive = some other ↔
      (Function.update frame.phases frame.world.nextPrompt phase
        other).isActive = true)
    (queued : ∀ other, other ∈ next.pinQueue ↔
      Function.update frame.phases frame.world.nextPrompt phase other =
        .queued)
    (sorted : next.pinQueue.Pairwise (· < ·)) :
    Coupled (frame.goes frame.world.nextPrompt phase next) ∧
      Steady frame (frame.goes frame.world.nextPrompt phase next) := by
  refine ⟨⟨table, ?_, active, queued, ?_, sorted⟩, ?_⟩
  · intro other
    show Fits other
      (Function.update frame.phases frame.world.nextPrompt phase other)
      (frame.running = some other) (next.prompts other)
      (find? next (.pin other)) (history other next.trace)
    by_cases here : other = frame.world.nextPrompt
    · subst here
      rw [Function.update_self, looks.prompt, looks.screen, looks.past,
        decide_eq_false (Coupled.absent coupled).2]
      exact fits
    · have untouched := others other here
      rw [Function.update_of_ne here, untouched.prompt, untouched.screen,
        untouched.past]
      exact coupled.fits other
  · intro other
    show Function.update frame.phases frame.world.nextPrompt phase other =
      .unborn ↔ next.nextPrompt ≤ other
    rw [counter]
    by_cases here : other = frame.world.nextPrompt
    · rw [here, Function.update_self]
      exact ⟨fun same => absurd same there, fun less => by omega⟩
    · rw [Function.update_of_ne here, coupled.born]
      omega
  · intro other alive
    have here : other ≠ frame.world.nextPrompt := by
      rintro rfl
      exact alive (Coupled.unborn coupled)
    show (next.prompts other).toPinLogin = _ ∧
      (next.prompts other).protectedPath = _
    rw [(others other here).prompt]
    exact ⟨rfl, rfl⟩

/-- Prompts have their places when a new one is made. -/
theorem Coupled.places
    (coupled : Coupled frame) {phase : Phase}
    (active : phase.isActive = false) (queued : phase ≠ .queued)
    (other : Nat) :
    (frame.world.pinActive = some other ↔
      (Function.update frame.phases frame.world.nextPrompt phase
        other).isActive = true) ∧
    (other ∈ frame.world.pinQueue ↔
      Function.update frame.phases frame.world.nextPrompt phase other =
        .queued) := by
  have unborn := Coupled.unborn coupled
  rw [coupled.active, coupled.queued]
  by_cases here : other = frame.world.nextPrompt
  · rw [here, Function.update_self, unborn, active]
    exact ⟨Iff.rfl, ⟨nofun, fun same => absurd same queued⟩⟩
  · rw [Function.update_of_ne here]
    exact ⟨Iff.rfl, Iff.rfl⟩

/-- An event about another prompt. -/
theorem Looks.emit_about
    {world : World} {other : Nat} {prompt : PinPrompt}
    {screen : Option Interaction} {past : List Event}
    (looks : Looks world other prompt screen past) {event : Event}
    (about : concerns other event = decide (id = other))
    (different : other ≠ id) :
    Looks (world.emit event) other prompt screen past := by
  refine looks.emit_other ?_
  rw [about, decide_eq_false different.symm]

/-- A login is refused without a display. -/
theorem coupled_refused
    (coupled : Coupled frame) (login : PinLogin) :
    Coupled (frame.goes frame.world.nextPrompt .refused
        (refuse frame.world login)) ∧
      Steady frame (frame.goes frame.world.nextPrompt .refused
        (refuse frame.world login)) := by
  let numbered : World :=
    { frame.world with nextPrompt := frame.world.nextPrompt + 1 }
  let told := (numbered.emit (.requested frame.world.nextPrompt)).emit
    (.done frame.world.nextPrompt .noDisplay)
  have first : Looks numbered frame.world.nextPrompt .absent none [] :=
    (Coupled.absent coupled).1.congr rfl rfl rfl
  have requested : Looks
      (numbered.emit (.requested frame.world.nextPrompt))
      frame.world.nextPrompt .absent none
      [.requested frame.world.nextPrompt] := first.emit (decide_eq_true rfl)
  have answered : Looks told frame.world.nextPrompt .absent none
      [.done frame.world.nextPrompt .noDisplay,
        .requested frame.world.nextPrompt] :=
    requested.emit (decide_eq_true rfl)
  have others : ∀ other, other ≠ frame.world.nextPrompt →
      Untouched other frame.world told := by
    intro other different
    have same : Untouched other frame.world numbered :=
      looks_self.congr rfl rfl rfl
    exact Looks.emit_about (Looks.emit_about same rfl different) rfl
      different
  have ended : Looks (refuse frame.world login) frame.world.nextPrompt
        .absent none
        (freeEvents login frame.world.nextPrompt ++
          [.done frame.world.nextPrompt .noDisplay,
            .requested frame.world.nextPrompt]) ∧
      (∀ other, other ≠ frame.world.nextPrompt →
        Untouched other frame.world (refuse frame.world login)) ∧
      Table (refuse frame.world login) := by
    rw [refuse, freeEvents]
    split_ifs
    · refine ⟨answered.emit (decide_eq_true rfl), ?_,
        coupled.table.congr rfl rfl⟩
      intro other different
      exact Looks.emit_about (others other different) rfl different
    · exact ⟨answered, others, coupled.table.congr rfl rfl⟩
  have fields : (refuse frame.world login).nextPrompt =
        frame.world.nextPrompt + 1 ∧
      (refuse frame.world login).pinActive = frame.world.pinActive ∧
      (refuse frame.world login).pinQueue = frame.world.pinQueue := by
    rw [refuse]
    split_ifs <;> exact ⟨rfl, rfl, rfl⟩
  refine Coupled.created coupled ended.1 (fits_refused login) ended.2.1
    ended.2.2 fields.1 Phase.noConfusion ?_ ?_ (fields.2.2 ▸ coupled.sorted)
  · intro other
    rw [fields.2.1]
    exact (Coupled.places coupled rfl Phase.noConfusion other).1
  · intro other
    rw [fields.2.2]
    exact (Coupled.places coupled rfl Phase.noConfusion other).2

/-- The new prompt, and that the others are as before. -/
theorem Coupled.newPrompt
    (coupled : Coupled frame) (login : PinLogin) :
    (∃ prompt, Looks (newPrompt frame.world login) frame.world.nextPrompt
        prompt none [.requested frame.world.nextPrompt] ∧
      Fits frame.world.nextPrompt .queued false prompt none
        [.requested frame.world.nextPrompt] ∧
      Fits frame.world.nextPrompt .deciding false prompt none
        [.started frame.world.nextPrompt,
          .requested frame.world.nextPrompt]) ∧
    ∀ other, other ≠ frame.world.nextPrompt →
      Untouched other frame.world (Pin.newPrompt frame.world login) := by
  let numbered : World :=
    { frame.world with nextPrompt := frame.world.nextPrompt + 1 }
  have first : Looks numbered frame.world.nextPrompt .absent none [] :=
    (Coupled.absent coupled).1.congr rfl rfl rfl
  constructor
  · refine ⟨_, (first.setPrompt _).emit (decide_eq_true rfl), ?_⟩
    refine fits_new login
      (frame.world.tokens login.token).protectedAuthenticationPath ?_
    split_ifs
    · exact .inl rfl
    · exact .inr ⟨_, rfl⟩
  · intro other different
    have same : Untouched other frame.world numbered :=
      looks_self.congr rfl rfl rfl
    exact Looks.emit_about (same.setPrompt_other different _) rfl different

/-- A login waits behind others. -/
theorem coupled_queued
    (coupled : Coupled frame) (login : PinLogin) :
    Coupled (frame.goes frame.world.nextPrompt .queued
        { Pin.newPrompt frame.world login with
          pinQueue :=
            frame.world.pinQueue ++ [frame.world.nextPrompt] }) ∧
      Steady frame (frame.goes frame.world.nextPrompt .queued
        { Pin.newPrompt frame.world login with
          pinQueue :=
            frame.world.pinQueue ++ [frame.world.nextPrompt] }) := by
  rcases Coupled.newPrompt coupled login with
    ⟨⟨_, looks, fits, -⟩, others⟩
  refine Coupled.created coupled (looks.congr rfl rfl rfl) fits ?_
    (coupled.table.congr rfl rfl) rfl nofun ?_ ?_ ?_
  · exact fun other different => (others other different).congr rfl rfl rfl
  · intro other
    show frame.world.pinActive = some other ↔ _
    rw [coupled.active]
    by_cases here : other = frame.world.nextPrompt
    · rw [here, Function.update_self, Coupled.unborn coupled]
      exact Iff.rfl
    · rw [Function.update_of_ne here]
  · intro other
    show other ∈ frame.world.pinQueue ++ [frame.world.nextPrompt] ↔ _
    rw [List.mem_append, List.mem_singleton, coupled.queued]
    by_cases here : other = frame.world.nextPrompt
    · rw [here, Function.update_self]
      exact ⟨fun _ => rfl, fun _ => .inr rfl⟩
    · rw [Function.update_of_ne here]
      exact or_iff_left here
  · refine List.pairwise_append.mpr
      ⟨coupled.sorted, List.pairwise_singleton .., ?_⟩
    intro waiting member last same
    rw [List.mem_singleton.mp same]
    by_contra late
    have unborn := (coupled.born waiting).mpr (not_lt.mp late)
    rw [(coupled.queued waiting).mp member] at unborn
    cases unborn

/-- No prompt is active, so none is in an active phase. -/
theorem Coupled.inactive
    (coupled : Coupled frame) (idle : frame.world.pinActive = none)
    (other : Nat) : (frame.phases other).isActive = false := by
  rw [← Bool.not_eq_true, ← coupled.active, idle]
  exact nofun

/-- The prompt that becomes active is the only one. -/
theorem Coupled.activated
    (coupled : Coupled frame) (idle : frame.world.pinActive = none)
    {phase : Phase} (active : phase.isActive = true) (other : Nat) :
    some id = some other ↔
      (Function.update frame.phases id phase other).isActive = true := by
  rw [Option.some.injEq]
  by_cases here : other = id
  · rw [here, Function.update_self]
    exact ⟨fun _ => active, fun _ => rfl⟩
  · rw [Function.update_of_ne here, Coupled.inactive coupled idle]
    exact ⟨fun same => absurd same.symm here, nofun⟩

/-- A login is begun at once when no other is. -/
theorem coupled_begun
    (coupled : Coupled frame) (login : PinLogin)
    (idle : frame.world.pinActive = none) :
    Coupled (frame.goes frame.world.nextPrompt .deciding
        (activate (Pin.newPrompt frame.world login)
          frame.world.nextPrompt)) ∧
      Steady frame (frame.goes frame.world.nextPrompt .deciding
        (activate (Pin.newPrompt frame.world login)
          frame.world.nextPrompt)) := by
  rcases Coupled.newPrompt coupled login with
    ⟨⟨prompt, looks, -, fits⟩, others⟩
  let active : World :=
    { Pin.newPrompt frame.world login with
      pinActive := some frame.world.nextPrompt }
  have chosen : Looks active frame.world.nextPrompt prompt none
      [.requested frame.world.nextPrompt] := looks.congr rfl rfl rfl
  refine Coupled.created coupled (chosen.emit (decide_eq_true rfl)) fits ?_
    (coupled.table.congr rfl rfl) rfl nofun
    (Coupled.activated coupled idle rfl) ?_ coupled.sorted
  · intro other different
    have same : Untouched other frame.world active :=
      (others other different).congr rfl rfl rfl
    exact Looks.emit_about same rfl different
  · exact fun other => by
      show other ∈ frame.world.pinQueue ↔ _
      rw [coupled.queued]
      by_cases here : other = frame.world.nextPrompt
      · rw [here, Function.update_self, Coupled.unborn coupled]
        exact ⟨nofun, nofun⟩
      · rw [Function.update_of_ne here]

/-- The head of the queue is begun when its turn comes. -/
theorem coupled_popped
    (coupled : Coupled frame) {head : Nat} {rest : List Nat}
    (idle : frame.world.pinActive = none)
    (queue : frame.world.pinQueue = head :: rest) :
    Coupled (frame.goes head .deciding
        (activate { frame.world with pinQueue := rest } head)) ∧
      Steady frame (frame.goes head .deciding
        (activate { frame.world with pinQueue := rest } head)) := by
  have phase : frame.phases head = .queued :=
    (coupled.queued head).mp (queue ▸ List.mem_cons_self ..)
  have fits := Coupled.at coupled phase
  have sorted := coupled.sorted
  rw [queue, List.pairwise_cons] at sorted
  have single : head ∉ rest := fun member =>
    lt_irrefl head (sorted.1 head member)
  let chosen : World :=
    { frame.world with pinQueue := rest, pinActive := some head }
  have same (other : Nat) : Untouched other frame.world chosen :=
    looks_self.congr rfl rfl rfl
  have result : Result frame head (activate
      { frame.world with pinQueue := rest } head) .deciding
      frame.running :=
    Result.emit (same head) (fun other _ => same other)
      (coupled.table.congr rfl rfl) (fun _ => rfl) fits.started rfl rfl
  refine Coupled.placed coupled result (fun _ _ => Iff.rfl)
    (Coupled.activated coupled idle rfl) ?_
    (queue ▸ List.sublist_cons_self ..) rfl
    ⟨nofun, fun unborn => by rw [phase] at unborn; cases unborn⟩
  intro other
  show other ∈ rest ↔ _
  by_cases here : other = head
  · rw [here, Function.update_self]
    exact ⟨fun member => absurd member single, nofun⟩
  · rw [Function.update_of_ne here, ← coupled.queued, queue,
      List.mem_cons, or_iff_right here]

/-! ## Workers -/

theorem place_of
    {before after : Phase} (here : frame.phases id = before)
    (active : after.isActive = before.isActive)
    (queued : after = .queued ↔ before = .queued)
    (unborn : after = .unborn ↔ before = .unborn) :
    SamePlace (frame.phases id) after :=
  here ▸ ⟨active, queued, unborn⟩

/-- The flags of the token are written. -/
theorem untouched_tokens
    (frame : Frame) (tokens : Nat → PinToken) (other : Nat) :
    Untouched other frame.world { frame.world with tokens } :=
  looks_self.congr rfl rfl rfl

theorem coupled_refreshStarted
    (coupled : Coupled frame) (phase : frame.phases id = .deciding) :
    Coupled (frame.goes id .refreshing (startRefresh frame.world id)) ∧
      Steady frame
        (frame.goes id .refreshing (startRefresh frame.world id)) := by
  have result : Result frame id (startRefresh frame.world id) .refreshing
      frame.running :=
    Result.emit (looks_self.setPrompt _)
      (fun _ different => looks_self.setPrompt_other different _)
      (coupled.table.congr rfl rfl) (fun _ => rfl)
      (Coupled.at coupled phase).refreshStarted rfl rfl
  exact Coupled.goes coupled result ⟨rfl, rfl, rfl⟩
    (place_of phase rfl ⟨nofun, nofun⟩ ⟨nofun, nofun⟩)

theorem coupled_refreshReturned
    (coupled : Coupled frame) (flags : TokenFlags)
    (phase : frame.phases id = .refreshing) :
    Coupled (frame.goes id .refreshed
        (refreshReturned frame.world id flags)) ∧
      Steady frame (frame.goes id .refreshed
        (refreshReturned frame.world id flags)) := by
  have result : Result frame id (refreshReturned frame.world id flags)
      .refreshed frame.running :=
    Result.emit ((untouched_tokens frame _ id).setPrompt _)
      (fun other different =>
        (untouched_tokens frame _ other).setPrompt_other different _)
      (coupled.table.congr rfl rfl) (fun _ => rfl)
      (Coupled.at coupled phase).refreshReturned rfl rfl
  exact Coupled.goes coupled result ⟨rfl, rfl, rfl⟩
    (place_of phase rfl ⟨nofun, nofun⟩ ⟨nofun, nofun⟩)

theorem coupled_refreshEnded
    (coupled : Coupled frame) (phase : frame.phases id = .refreshed) :
    Coupled (frame.goes id .deciding (endRefresh frame.world id)) ∧
      Steady frame (frame.goes id .deciding (endRefresh frame.world id)) :=
  Coupled.goes coupled
    (result_setPrompt coupled (Coupled.at coupled phase).refreshEnded rfl
      rfl)
    ⟨rfl, rfl, rfl⟩
    (place_of phase rfl ⟨nofun, nofun⟩ ⟨nofun, nofun⟩)

theorem coupled_loginReturned
    (coupled : Coupled frame) (secret : Option XccSecret)
    (result : LoginResult) (phase : frame.phases id = .loggingIn) :
    Coupled (frame.goes id
        (if refreshesAfter (frame.world.prompts id) result then
          .loginRefreshing result else .loggedIn result)
        (loginReturned frame.world id secret result)) ∧
      Steady frame (frame.goes id
        (if refreshesAfter (frame.world.prompts id) result then
          .loginRefreshing result else .loggedIn result)
        (loginReturned frame.world id secret result)) := by
  have fits := (Coupled.at coupled phase).loginReturned result
  let freed := frame.world.freeSecret secret
  have told : Looks (freed.emit (.loginReturned id result)) id
      (frame.world.prompts id) (find? frame.world (.pin id))
      (.loginReturned id result :: history id frame.world.trace) :=
    (looks_self.freeSecret secret).emit (decide_eq_true rfl)
  have others : ∀ other, other ≠ id → Untouched other frame.world
      (freed.emit (.loginReturned id result)) := fun other different =>
    Looks.emit_about (looks_self.freeSecret secret) rfl different
  have table : Table (freed.emit (.loginReturned id result)) :=
    coupled.table.congr (freeSecret_interactions ..) (freeSecret_nextUiId ..)
  have still := (still_freeSecret frame.world secret).trans
    (still_emit freed (.loginReturned id result))
  rw [loginReturned]
  split_ifs
  · refine Coupled.goes coupled ?_ (still.trans (still_setPrompt _ id _))
      (place_of phase rfl ⟨nofun, nofun⟩ ⟨nofun, nofun⟩)
    exact ⟨⟨_, _, _, told.setPrompt _, fits, rfl, rfl⟩,
      fun other different =>
        (others other different).setPrompt_other different _,
      table.congr rfl rfl⟩
  · refine Coupled.goes coupled ?_
      ((still.trans (still_setPrompt _ id _)).trans (still_emit _ _))
      (place_of phase rfl ⟨nofun, nofun⟩ ⟨nofun, nofun⟩)
    exact Result.emit (told.setPrompt _)
      (fun other different =>
        (others other different).setPrompt_other different _)
      (table.congr rfl rfl) (fun _ => rfl) fits.loginRefreshed rfl rfl

theorem coupled_loginRefreshed
    (coupled : Coupled frame) {result : LoginResult} (flags : TokenFlags)
    (phase : frame.phases id = .loginRefreshing result) :
    Coupled (frame.goes id (.loggedIn result)
        (loginRefreshed frame.world id result flags)) ∧
      Steady frame (frame.goes id (.loggedIn result)
        (loginRefreshed frame.world id result flags)) := by
  have changed : Result frame id
      (loginRefreshed frame.world id result flags) (.loggedIn result)
      frame.running :=
    Result.emit ((untouched_tokens frame _ id).setPrompt _)
      (fun other different =>
        (untouched_tokens frame _ other).setPrompt_other different _)
      (coupled.table.congr rfl rfl) (fun _ => rfl)
      (Coupled.at coupled phase).loginRefreshed rfl rfl
  exact Coupled.goes coupled changed ⟨rfl, rfl, rfl⟩
    (place_of phase rfl ⟨nofun, nofun⟩ ⟨nofun, nofun⟩)

theorem coupled_loginEnded
    (coupled : Coupled frame) {result : LoginResult}
    (phase : frame.phases id = .loggedIn result) :
    Coupled (frame.goes id (.landed (result = .ok ()))
        (endLogin frame.world id result)) ∧
      Steady frame (frame.goes id (.landed (result = .ok ()))
        (endLogin frame.world id result)) :=
  Coupled.goes coupled
    (result_setPrompt coupled (Coupled.at coupled phase).loginEnded rfl rfl)
    ⟨rfl, rfl, rfl⟩
    (place_of phase rfl ⟨nofun, nofun⟩ ⟨nofun, nofun⟩)

/-! ## On screen -/

/-- A prompt is shown once its token has been read. -/
theorem coupled_shown
    (coupled : Coupled frame) (view : XccPinView)
    (phase : frame.phases id = .deciding) :
    Coupled (frame.goes id .waiting
        (message frame.world (.pin id) (.pinShow view))) ∧
      Steady frame (frame.goes id .waiting
        (message frame.world (.pin id) (.pinShow view))) := by
  have fits := Coupled.at coupled phase
  have dark : find? frame.world (.pin id) = none := by
    have seen := fits.screen
    cases screen : find? frame.world (.pin id) with
    | none => rfl
    | some found =>
        rw [screen] at seen
        cases seen.1
  have first : Looks frame.world id (frame.world.prompts id) none
      (history id frame.world.trace) := ⟨rfl, dark, rfl⟩
  refine Coupled.goes coupled ?_ (still_message ..)
    (place_of phase rfl ⟨nofun, nofun⟩ ⟨nofun, nofun⟩)
  refine ⟨⟨_, _, _, first.firstMessage coupled.table _, fits.shown rfl, rfl,
    rfl⟩, ?_, coupled.table.message ..⟩
  intro other different
  exact looks_self.message_other coupled.table
    (fun same => different (by cases same; rfl)) _

/-- A record changes, and then a message goes to its prompt. -/
theorem result_updated
    {world : World} {prompt : PinPrompt}
    {past : List Event} {phase : Phase} {found : Interaction}
    (looks : Looks world id prompt (some found) past)
    (others : ∀ other, other ≠ id → Untouched other frame.world world)
    (table : Table world)
    (fits : Fits id phase (frame.running = some id) prompt (some found) past)
    (visible : phase.onScreen = true)
    (login : prompt.toPinLogin = (frame.world.prompts id).toPinLogin)
    (path : prompt.protectedPath = (frame.world.prompts id).protectedPath)
    (call : UiCall) :
    Result frame id (message world (.pin id) call) phase frame.running := by
  refine ⟨⟨_, _, _, looks.message table call, fits.redrawn visible rfl,
    login, path⟩, ?_, table.message ..⟩
  intro other different
  exact (others other different).message_other table
    (fun same => different (by cases same; rfl)) call

theorem alive_of_onScreen
    {phase : Phase} (visible : phase.onScreen = true) :
    phase ≠ .unborn ∧ phase ≠ .refused := by
  constructor
  · rintro rfl
    cases visible
  · rintro rfl
    cases visible

theorem coupled_updated
    (coupled : Coupled frame) (status : XccPinStatus)
    (visible : (frame.phases id).onScreen = true) :
    Coupled (frame.turns (pinUpdate frame.world id status)) ∧
      Steady frame (frame.turns (pinUpdate frame.world id status)) := by
  rcases (coupled.fits id).found visible with ⟨found, screen, -⟩
  have looks : Looks frame.world id (frame.world.prompts id) (some found)
      (history id frame.world.trace) := ⟨rfl, screen, rfl⟩
  have result := result_updated looks (fun _ _ => looks_self)
    coupled.table (screen ▸ coupled.fits id) visible rfl rfl
  exact Coupled.turns coupled (result _) (still_message ..)

theorem coupled_unbusied
    (coupled : Coupled frame)
    (visible : (frame.phases id).onScreen = true) :
    Coupled (frame.turns (setBusy frame.world id false)) ∧
      Steady frame (frame.turns (setBusy frame.world id false)) := by
  rcases (coupled.fits id).found visible with ⟨found, screen, -⟩
  have looks : Looks frame.world id (frame.world.prompts id) (some found)
      (history id frame.world.trace) := ⟨rfl, screen, rfl⟩
  have fits : Fits id (frame.phases id) (frame.running = some id)
      (frame.world.prompts id) (some found)
      (history id frame.world.trace) := screen ▸ coupled.fits id
  have marked := fits.marked (alive_of_onScreen visible) false
    (frame.world.prompts id).warningPending (fun _ => rfl)
  have result := result_updated (looks.setPrompt _)
    (fun _ different => looks_self.setPrompt_other different _)
    (coupled.table.congr rfl rfl) marked visible rfl rfl
  exact Coupled.turns coupled (result _)
    ((still_setPrompt _ id _).trans (still_message ..))

theorem coupled_warningRefused
    (coupled : Coupled frame)
    (visible : (frame.phases id).onScreen = true) :
    Coupled (frame.turns (frame.world.setPrompt id
        { frame.world.prompts id with warningPending := false })) ∧
      Steady frame (frame.turns (frame.world.setPrompt id
        { frame.world.prompts id with warningPending := false })) := by
  have fits := coupled.fits id
  have marked := fits.marked (alive_of_onScreen visible)
    (frame.world.prompts id).busy false fun idles => (fits.idle idles).1
  exact Coupled.turns coupled (result_setPrompt coupled marked rfl rfl)
    ⟨rfl, rfl, rfl⟩

theorem coupled_asked
    (coupled : Coupled frame)
    (visible : (frame.phases id).onScreen = true) :
    Coupled (frame.turns (askFinalTry frame.world id)) ∧
      Steady frame (frame.turns (askFinalTry frame.world id)) := by
  rcases (coupled.fits id).found visible with ⟨found, screen, shown⟩
  have looks : Looks frame.world id (frame.world.prompts id) (some found)
      (history id frame.world.trace) := ⟨rfl, screen, rfl⟩
  have fits : Fits id (frame.phases id) (frame.running = some id)
      (frame.world.prompts id) (some found)
      (history id frame.world.trace) := screen ▸ coupled.fits id
  have marked := fits.marked (alive_of_onScreen visible)
    (frame.world.prompts id).busy true fun idles => (fits.idle idles).1
  have table : Table (frame.world.setPrompt id
      { frame.world.prompts id with warningPending := true }) :=
    coupled.table.congr rfl rfl
  have warned := (looks.setPrompt
    { frame.world.prompts id with warningPending := true }).warning table
      certificatePinPromptFinalTryWarning
  have result : Result frame id (askFinalTry frame.world id)
      (frame.phases id) frame.running :=
    ⟨⟨_, _, _, warned, marked.redrawn visible shown, rfl, rfl⟩,
      fun other different =>
        (looks_self.setPrompt_other different _).warning_other table
          different _,
      table.warning ..⟩
  exact Coupled.turns coupled result
    ((still_setPrompt _ id _).trans (still_warning ..))

/-- A prompt whose login failed waits once more. -/
theorem coupled_retried
    (coupled : Coupled frame) (phase : frame.phases id = .landed false)
    (typed : (frame.world.prompts id).protectedPath = false)
    (few : (frame.world.prompts id).attempts < pinMaxAttempts)
    (idle : (frame.world.prompts id).busy = false) :
    Coupled (frame.goes id .waiting (retry frame.world id)) ∧
      Steady frame (frame.goes id .waiting (retry frame.world id)) := by
  have fits := Coupled.at coupled phase
  rcases fits.found rfl with ⟨found, screen, -⟩
  have looks : Looks frame.world id (frame.world.prompts id) (some found)
      (history id frame.world.trace) := ⟨rfl, screen, rfl⟩
  rw [screen] at fits
  have freed := looks.freeSecret (frame.world.prompts id).secret
  have result := result_updated (freed.setPrompt _)
    (fun _ different =>
      (looks_self.freeSecret _).setPrompt_other different _)
    (coupled.table.congr (freeSecret_interactions ..)
      (freeSecret_nextUiId ..))
    (fits.retried typed few idle) rfl rfl rfl
  exact Coupled.goes coupled (result _)
    (((still_freeSecret _ _).trans (still_setPrompt _ id _)).trans
      (still_message ..))
    (place_of phase rfl ⟨nofun, nofun⟩ ⟨nofun, nofun⟩)

/-- A submitted PIN is held until it is tried. -/
theorem coupled_held
    (coupled : Coupled frame) {page checked : XccSecret}
    (phase : frame.phases id = .waiting)
    (typed : (frame.world.prompts id).protectedPath = false)
    (valid : Valid checked) (hand : Option XccSecret) :
    Coupled { frame.goes id .holding
          ((frame.world.setPrompt id
            { frame.world.prompts id with secret := some checked }).emit
              (.held id page.serial)) with hand } ∧
      Steady frame { frame.goes id .holding
          ((frame.world.setPrompt id
            { frame.world.prompts id with secret := some checked }).emit
              (.held id page.serial)) with hand } := by
  have result : Result frame id
      ((frame.world.setPrompt id
        { frame.world.prompts id with secret := some checked }).emit
          (.held id page.serial)) .holding frame.running :=
    Result.emit (looks_self.setPrompt _)
      (fun _ different => looks_self.setPrompt_other different _)
      (coupled.table.congr rfl rfl) (fun _ => rfl)
      ((Coupled.at coupled phase).held typed valid page.serial) rfl rfl
  exact Coupled.moved coupled result (fun _ _ => Iff.rfl) ⟨rfl, rfl, rfl⟩
    (place_of phase rfl ⟨nofun, nofun⟩ ⟨nofun, nofun⟩)

/-- An attempt is made from a world in which only its prompt differs. -/
theorem result_attempted
    {world : World} {prompt : PinPrompt} {past : List Event}
    {found : Interaction} (looks : Looks world id prompt (some found) past)
    (others : ∀ other, other ≠ id → Untouched other frame.world world)
    (table : Table world)
    (fits : ∀ timeout, Fits id .loggingIn (frame.running = some id)
      { attempting prompt with busy := true, loginTimeout := timeout }
      (some found)
      (.attempted id
        (if prompt.protectedPath then none
          else xccSecretView prompt.secret) :: past))
    (login : prompt.toPinLogin = (frame.world.prompts id).toPinLogin)
    (path : prompt.protectedPath = (frame.world.prompts id).protectedPath) :
    Result frame id (attempt world id) .loggingIn frame.running := by
  rcases looks with ⟨rfl, screen, rfl⟩
  let begun := world.setPrompt id (attempting (world.prompts id))
  let busy := begun.setPrompt id { begun.prompts id with busy := true }
  let call := UiCall.pinUpdate (pinView busy (busy.prompts id) .none)
  have before : Looks world id (world.prompts id) (some found)
      (history id world.trace) := ⟨rfl, screen, rfl⟩
  have calm : Table busy := table.congr rfl rfl
  have told : Table (message busy (.pin id) call) := calm.message ..
  have busied := (before.setPrompt (attempting (world.prompts id))).modify
    fun prompt => { prompt with busy := true }
  have timed := (busied.message calm call).modify fun prompt =>
    { prompt with
      loginTimeout := (world.prompts id).loginTimeout ||
        0 < world.pinLoginTimeoutSeconds }
  have apart : ∀ other, other ≠ id → Untouched other frame.world
      (message busy (.pin id) call) := by
    intro other different
    refine Looks.message_other ?_ calm
      (fun same => different (by cases same; rfl)) _
    exact ((others other different).setPrompt_other different
      _).setPrompt_other different _
  exact Result.emit timed
    (fun other different => (apart other different).setPrompt_other different _)
    (told.congr rfl rfl) (fun _ => rfl) ((fits _).redrawn rfl rfl) login path

theorem still_attempt (world : World) (id : Nat) :
    Still world (attempt world id) := by
  let begun := world.setPrompt id (attempting (world.prompts id))
  let busy := begun.setPrompt id { begun.prompts id with busy := true }
  let call := UiCall.pinUpdate (pinView busy (busy.prompts id) .none)
  have first : Still world busy := ⟨rfl, rfl, rfl⟩
  exact (first.trans (still_message busy (.pin id) call)).trans
    ⟨rfl, rfl, rfl⟩

/-- A prompt that is ready attempts a login. -/
theorem coupled_attempted
    (coupled : Coupled frame)
    (ready : frame.phases id =
      if (frame.world.prompts id).protectedPath then .waiting
      else .holding) :
    Coupled (frame.goes id .loggingIn (attempt frame.world id)) ∧
      Steady frame
        (frame.goes id .loggingIn (attempt frame.world id)) := by
  have fits := coupled.fits id
  have visible : (frame.phases id).onScreen = true := by
    rw [ready]
    split_ifs <;> rfl
  rcases fits.found visible with ⟨found, screen, -⟩
  rw [screen] at fits
  have result : Result frame id (attempt frame.world id) .loggingIn
      frame.running :=
    result_attempted ⟨rfl, screen, rfl⟩ (fun _ _ => looks_self)
      coupled.table
      (fun timeout => fits.attempted ready timeout _ _ fits.unconfirmed) rfl
      rfl
  refine Coupled.goes coupled result (still_attempt _ id) ?_
  refine ⟨?_, ?_, ?_⟩
  all_goals
    rw [ready]
    split_ifs <;> simp [Phase.isActive]

theorem coupled_accepted
    (coupled : Coupled frame) (phase : frame.phases id = .waiting)
    (path : (frame.world.prompts id).protectedPath = true) :
    Coupled (frame.goes id .loggingIn
        (attempt (frame.world.setPrompt id
          (confirming (frame.world.prompts id))) id)) ∧
      Steady frame (frame.goes id .loggingIn
        (attempt (frame.world.setPrompt id
          (confirming (frame.world.prompts id))) id)) := by
  have fits := Coupled.at coupled phase
  rcases fits.found rfl with ⟨found, screen, -⟩
  rw [screen] at fits
  have before : Looks frame.world id (frame.world.prompts id) (some found)
      (history id frame.world.trace) := ⟨rfl, screen, rfl⟩
  have ready : Phase.waiting =
      if (frame.world.prompts id).protectedPath then .waiting
      else .holding := by rw [if_pos path]
  have typed : (frame.world.prompts id).protectedPath = false →
      true = false := by
    rw [path]
    exact fun same => same
  have result : Result frame id
      (attempt (frame.world.setPrompt id
        (confirming (frame.world.prompts id))) id) .loggingIn
      frame.running :=
    result_attempted (before.setPrompt _)
      (fun _ different => looks_self.setPrompt_other different _)
      (coupled.table.congr rfl rfl)
      (fun timeout => fits.attempted ready timeout false true typed) rfl rfl
  exact Coupled.goes coupled result
    ((still_setPrompt _ id _).trans (still_attempt _ id))
    (place_of phase rfl ⟨nofun, nofun⟩ ⟨nofun, nofun⟩)

/-! ## Interactions and sources -/

theorem coupled_readied
    (coupled : Coupled frame) {found : Interaction}
    (member : found ∈ frame.world.interactions) :
    Coupled (frame.turns
        (setInteraction frame.world { found with ready := true })) ∧
      Steady frame (frame.turns
        (setInteraction frame.world { found with ready := true })) := by
  let changed : Interaction := { found with ready := true }
  have table : Table (setInteraction frame.world changed) :=
    coupled.table.setInteraction member rfl rfl
  have looked : ∀ id, Looks (setInteraction frame.world changed) id
      (frame.world.prompts id)
      (if .pin id = changed.subject then some changed
        else find? frame.world (.pin id))
      (history id frame.world.trace) := fun id =>
    looks_self.setInteraction coupled.table member rfl rfl
  refine ⟨⟨table, ?_, coupled.active, coupled.queued, coupled.born,
    coupled.sorted⟩, fun _ _ => ⟨rfl, rfl⟩⟩
  intro id
  show Fits id (frame.phases id) _ (frame.world.prompts id)
    (find? (setInteraction frame.world changed) (.pin id))
    (history id frame.world.trace)
  rw [(looked id).screen]
  split_ifs with same
  · have there : find? frame.world (.pin id) = some found := by
      rw [same]
      exact coupled.table.find_eq member
    have fits := coupled.fits id
    rw [there] at fits
    exact fits.redrawn fits.screen.1 fits.screen.2
  · exact coupled.fits id

theorem coupled_timerFired
    (coupled : Coupled frame)
    (armed : (frame.world.prompts id).loginTimeout = true) :
    Coupled (frame.turns (frame.world.setPrompt id
        { frame.world.prompts id with loginTimeout := false })) ∧
      Steady frame (frame.turns (frame.world.setPrompt id
        { frame.world.prompts id with loginTimeout := false })) :=
  Coupled.turns coupled
    (result_setPrompt coupled ((coupled.fits id).timerFired armed) rfl rfl)
    ⟨rfl, rfl, rfl⟩

theorem coupled_cancelled
    (coupled : Coupled frame) (cancellable : Nat) :
    Coupled (frame.turns (cancel frame.world cancellable)) ∧
      Steady frame (frame.turns (cancel frame.world cancellable)) := by
  rw [cancel]
  split_ifs
  · exact ⟨coupled, fun _ _ => ⟨rfl, rfl⟩⟩
  · refine ⟨⟨coupled.table.congr rfl rfl, ?_, coupled.active,
      coupled.queued, coupled.born, coupled.sorted⟩, ?_⟩
    · intro id
      have fits := coupled.fits id
      show Fits id (frame.phases id) _ (if _ then _ else _) _ _
      split_ifs with called
      · rw [Bool.and_eq_true] at called
        exact fits.cancelled called.1
      · exact fits
    · intro id _
      show (if _ then _ else _ : PinPrompt).toPinLogin = _ ∧
        (if _ then _ else _ : PinPrompt).protectedPath = _
      split_ifs
      · rw [onCancelled]
        split_ifs <;> exact ⟨rfl, rfl⟩
      · exact ⟨rfl, rfl⟩

/-! ## Answers -/

/-- An answer is put off while a worker is out. -/
theorem coupled_deferred
    (coupled : Coupled frame) (outcome : CertificatePinOutcome)
    (flying : ((frame.phases id).refreshes ||
      (frame.phases id).logsIn) = true) :
    Coupled (frame.turns (defer frame.world id outcome)) ∧
      Steady frame (frame.turns (defer frame.world id outcome)) := by
  have fits := (coupled.fits id).deferred_by flying outcome
  have set : Result frame id (frame.world.setPrompt id
      (deferring (frame.world.prompts id) outcome)) (frame.phases id)
      frame.running := result_setPrompt coupled fits rfl rfl
  rw [defer]
  split_ifs
  · exact ⟨coupled, fun _ _ => ⟨rfl, rfl⟩⟩
  · exact Coupled.turns coupled set ⟨rfl, rfl, rfl⟩
  · let deferred := frame.world.setPrompt id
      (deferring (frame.world.prompts id) outcome)
    rcases set.looks with ⟨_, _, _, looks, rest⟩
    have hidden := hide_interactions deferred id
    have result : Result frame id (hide deferred id) (frame.phases id)
        frame.running :=
      ⟨⟨_, _, _, looks.hide id, rest⟩,
        fun other different => (set.others other different).hide id,
        set.table.congr hidden.1 hidden.2⟩
    exact Coupled.turns coupled result
      ((still_setPrompt _ id _).trans (still_hide deferred id))

/-- The sources and the page of a prompt are released. -/
theorem Looks.retire
    {world : World} {prompt : PinPrompt} {screen : Option Interaction}
    {past : List Event} (looks : Looks world id prompt screen past)
    (owns : 1 + prompt.cancelIdle.toNat ≤ prompt.refs) :
    Looks (retire world id) id (PinPrompt.shut prompt false) screen
      past := by
  have first := looks.setPrompt (stopping prompt)
  have idle : Looks
      (if prompt.cancelIdle then
        promptUnref (world.setPrompt id (stopping prompt)) id
      else world.setPrompt id (stopping prompt)) id
      { stopping prompt with
        refs := prompt.refs - prompt.cancelIdle.toNat } screen past := by
    split_ifs with queued
    · rw [queued] at owns ⊢
      exact first.promptUnref owns
    · rw [Bool.not_eq_true] at queued
      rw [queued]
      exact first
  rcases looks with ⟨rfl, rfl, rfl⟩
  exact (idle.freeSecret (world.prompts id).secret).modify
    fun prompt => { prompt with secret := none }

theorem Looks.retire_other
    {world : World} {other : Nat} {prompt : PinPrompt}
    {screen : Option Interaction} {past : List Event}
    (looks : Looks world other prompt screen past) (different : other ≠ id) :
    Looks (Pin.retire world id) other prompt screen past := by
  let stopped := world.setPrompt id (stopping (world.prompts id))
  have first : Looks stopped other prompt screen past :=
    looks.setPrompt_other different _
  have idle : Looks
      (if (world.prompts id).cancelIdle then promptUnref stopped id
        else stopped) other prompt screen past := by
    split_ifs
    · exact first.promptUnref_other different
    · exact first
  exact (idle.freeSecret _).setPrompt_other different _

theorem retire_table (world : World) (id : Nat) :
    (retire world id).interactions = world.interactions ∧
      (retire world id).nextUiId = world.nextUiId := by
  rw [retire]
  dsimp only
  split_ifs
  · constructor
    · exact (freeSecret_interactions ..).trans (promptUnref_interactions ..)
    · exact (freeSecret_nextUiId ..).trans (promptUnref_nextUiId ..)
  · exact ⟨freeSecret_interactions .., freeSecret_nextUiId ..⟩

theorem still_retire (world : World) (id : Nat) :
    Still world (retire world id) := by
  rw [retire]
  dsimp only
  split_ifs
  · exact (((still_setPrompt world id _).trans (still_promptUnref _ id)).trans
      (still_freeSecret ..)).trans (still_setPrompt _ id _)
  · exact ((still_setPrompt world id _).trans
      (still_freeSecret ..)).trans (still_setPrompt _ id _)

theorem still_shut (world : World) (id : Nat) :
    Still world (shut world id) :=
  (still_retire world id).trans (still_close ..)

/-- A prompt is shut, whether it is on screen or not. -/
theorem result_shut
    (coupled : Coupled frame) (outcome : CertificatePinOutcome)
    (ready : (frame.phases id).answerable = true) :
    Result frame id (shut frame.world id)
      (.answering outcome (frame.phases id).succeeded) frame.running := by
  have fits := coupled.fits id
  have table : Table (retire frame.world id) :=
    coupled.table.congr (retire_table ..).1 (retire_table ..).2
  have owns : (frame.phases id).ownsItself = true := by
    cases phase : frame.phases id <;> rw [phase] at ready <;>
      first | rfl | cases ready
  have refs := fits.refs
  rw [holders, owns] at refs
  simp only [Bool.toNat_true] at refs
  have retired := Looks.retire (@looks_self frame.world id) (by omega)
  refine ⟨?_, ?_, table.close _⟩
  · cases screen : find? frame.world (.pin id) with
    | none =>
        rw [screen] at retired fits
        exact ⟨_, _, _, retired.close_none, fits.shut ready outcome, rfl,
          rfl⟩
    | some found =>
        rw [screen] at retired fits
        have visible : (frame.phases id).onScreen = true := fits.screen.1
        rw [visible] at refs
        simp only [Bool.toNat_true] at refs
        have several : 1 <
            (PinPrompt.shut (frame.world.prompts id) false).refs := by
          show 1 < (frame.world.prompts id).refs -
            (frame.world.prompts id).cancelIdle.toNat - 0
          omega
        exact ⟨_, _, _, retired.close table several, fits.shut ready outcome,
          rfl, rfl⟩
  · intro other different
    exact (Looks.retire_other looks_self different).close_other table
      (fun same => different (by cases same; rfl))

theorem Result.congr
    {next after : World} {phase : Phase} {running : Option Nat}
    (result : Result frame id next phase running)
    (prompts : after.prompts = next.prompts)
    (interactions : after.interactions = next.interactions)
    (counter : after.nextUiId = next.nextUiId)
    (trace : after.trace = next.trace) :
    Result frame id after phase running := by
  rcases result with ⟨⟨_, _, _, looks, rest⟩, others, table⟩
  refine ⟨⟨_, _, _,
    looks.congr prompts interactions (by rw [trace]), rest⟩,
    ?_, table.congr interactions counter⟩
  exact fun other different =>
    (others other different).congr prompts interactions (by rw [trace])

/-- The active prompt is shut before it is answered. -/
theorem coupled_retired
    (coupled : Coupled frame) (outcome : CertificatePinOutcome)
    (active : (frame.phases id).isActive = true)
    (ready : (frame.phases id).answerable = true) :
    Coupled (frame.goes id (.answering outcome (frame.phases id).succeeded)
        { shut frame.world id with pinActive := none }) ∧
      Steady frame
        (frame.goes id (.answering outcome (frame.phases id).succeeded)
          { shut frame.world id with pinActive := none }) := by
  have result : Result frame id
      { shut frame.world id with pinActive := none }
      (.answering outcome (frame.phases id).succeeded) frame.running :=
    (result_shut coupled outcome ready).congr rfl rfl rfl rfl
  have still := still_shut frame.world id
  have here := (coupled.active id).mpr active
  refine Coupled.placed coupled result (fun _ _ => Iff.rfl) ?_ ?_
    (by rw [← still.pinQueue]) still.nextPrompt ⟨nofun, fun unborn => ?_⟩
  · intro other
    show none = some other ↔ _
    refine ⟨nofun, fun other_active => ?_⟩
    by_cases same : other = id
    · rw [same, Function.update_self] at other_active
      cases other_active
    · rw [Function.update_of_ne same, ← coupled.active, here] at other_active
      exact absurd (Option.some.inj other_active).symm same
  · intro other
    show other ∈ (shut frame.world id).pinQueue ↔ _
    rw [still.pinQueue, coupled.queued]
    by_cases same : other = id
    · rw [same, Function.update_self]
      refine ⟨fun queued => ?_, nofun⟩
      rw [queued] at active
      cases active
    · rw [Function.update_of_ne same]
  · rw [unborn] at active
    cases active

/-- `done` runs, and the prompt drops its reference to itself. -/
theorem Looks.callDone
    {world : World} {prompt : PinPrompt} {screen : Option Interaction}
    {past : List Event} {running : Bool} {outcome : CertificatePinOutcome}
    {succeeded : Bool} (looks : Looks world id prompt screen past)
    (fits : Fits id (.answering outcome succeeded) running prompt screen
      past) :
    ∃ after, Looks
        (callDone world id outcome (mustAbandon prompt outcome)) id
        (unreffed prompt) screen after ∧
      Fits id (if prompt.refs = 1 then .freed else .answered) running
        (unreffed prompt) screen after := by
  have same : mustAbandon prompt outcome =
      (succeeded && outcome ≠ .ok && prompt.abandon) := by
    rw [mustAbandon, fits.succeeded rfl]
    rfl
  have told : Looks
      (if mustAbandon prompt outcome then
        (world.emit (.done id outcome)).emit (.abandoned id)
      else world.emit (.done id outcome)) id prompt screen
      (doneEvents prompt.toPinLogin id outcome succeeded ++ past) := by
    have first : Looks (world.emit (.done id outcome)) id prompt screen
        (.done id outcome :: past) := looks.emit (decide_eq_true rfl)
    rw [same, doneEvents]
    split_ifs
    · exact first.emit (decide_eq_true rfl)
    · exact first
  have ended := fits.done
  have alive : 0 < prompt.refs := fits.alive rfl
  split_ifs at ended ⊢ with last
  · refine ⟨_, told.promptUnref_last last fits.secret, ?_⟩
    have zero : { prompt with refs := 0 } = unreffed prompt := by
      rw [unreffed, last]
    exact zero ▸ ended
  · exact ⟨_, told.promptUnref (by omega), ended⟩

theorem Looks.callDone_other
    {world : World} {other : Nat} {prompt : PinPrompt}
    {screen : Option Interaction} {past : List Event}
    (looks : Looks world other prompt screen past) (different : other ≠ id)
    (outcome : CertificatePinOutcome) (abandon : Bool) :
    Looks (Pin.callDone world id outcome abandon) other prompt screen
      past := by
  have first : Looks (world.emit (.done id outcome)) other prompt screen
      past := Looks.emit_about looks rfl different
  have told : Looks
      (if abandon then (world.emit (.done id outcome)).emit (.abandoned id)
        else world.emit (.done id outcome)) other prompt screen past := by
    split_ifs
    · exact Looks.emit_about first rfl different
    · exact first
  exact told.promptUnref_other different

theorem callDone_table
    (world : World) (id : Nat) (outcome : CertificatePinOutcome)
    (abandon : Bool) :
    (callDone world id outcome abandon).interactions =
        world.interactions ∧
      (callDone world id outcome abandon).nextUiId = world.nextUiId := by
  have unref := promptUnref_interactions
  have counter := promptUnref_nextUiId
  rw [callDone]
  split_ifs
  · exact ⟨unref _ id, counter _ id⟩
  · exact ⟨unref _ id, counter _ id⟩

theorem still_callDone
    (world : World) (id : Nat) (outcome : CertificatePinOutcome)
    (abandon : Bool) :
    Still world (callDone world id outcome abandon) := by
  rw [callDone]
  split_ifs
  · exact ((still_emit ..).trans (still_emit ..)).trans
      (still_promptUnref _ id)
  · exact (still_emit ..).trans (still_promptUnref _ id)

/-- The phase afterwards can be read off the references. -/
theorem settled_eq
    {world : World} {prompt : PinPrompt} {screen : Option Interaction}
    {past : List Event} (looks : Looks world id (unreffed prompt) screen past)
    (alive : 0 < prompt.refs) :
    settled world id = if prompt.refs = 1 then .freed else .answered := by
  rw [settled, looks.prompt]
  have same : (unreffed prompt).refs = 0 ↔ prompt.refs = 1 := by
    show prompt.refs - 1 = 0 ↔ _
    omega
  simp only [same]

/-- The callback of a prompt ends it, with its undoing. -/
theorem coupled_done
    (coupled : Coupled frame) {outcome : CertificatePinOutcome}
    {succeeded : Bool}
    (phase : frame.phases id = .answering outcome succeeded) :
    Coupled (frame.goes id
        (settled (callDone frame.world id outcome
          (mustAbandon (frame.world.prompts id) outcome)) id)
        (callDone frame.world id outcome
          (mustAbandon (frame.world.prompts id) outcome))) ∧
      Steady frame (frame.goes id
        (settled (callDone frame.world id outcome
          (mustAbandon (frame.world.prompts id) outcome)) id)
        (callDone frame.world id outcome
          (mustAbandon (frame.world.prompts id) outcome))) := by
  have fits := Coupled.at coupled phase
  rcases Looks.callDone looks_self fits with ⟨past, looks, ended⟩
  have alive : 0 < (frame.world.prompts id).refs := fits.alive rfl
  have unchanged := callDone_table frame.world id outcome
    (mustAbandon (frame.world.prompts id) outcome)
  rw [settled_eq looks alive]
  refine Coupled.goes coupled ⟨⟨_, _, _, looks, ended, rfl, rfl⟩, ?_,
    coupled.table.congr unchanged.1 unchanged.2⟩ (still_callDone ..) ?_
  · exact fun other different =>
      Looks.callDone_other looks_self different _ _
  · rw [phase]
    split_ifs <;> exact ⟨rfl, ⟨nofun, nofun⟩, ⟨nofun, nofun⟩⟩

/-- A prompt that has not been started leaves the queue. -/
theorem coupled_dequeued
    (coupled : Coupled frame) (outcome : CertificatePinOutcome)
    (phase : frame.phases id = .queued) {next : World}
    (left : next = { shut frame.world id with
      pinQueue := frame.world.pinQueue.erase id }) :
    Coupled (frame.goes id
        (settled (callDone next id outcome false) id)
        (callDone next id outcome false)) ∧
      Steady frame (frame.goes id
        (settled (callDone next id outcome false) id)
        (callDone next id outcome false)) := by
  have ready : (frame.phases id).answerable = true := by rw [phase]; rfl
  have shutting : Result frame id next
      (.answering outcome (frame.phases id).succeeded) frame.running := by
    rw [left]
    exact (result_shut coupled outcome ready).congr rfl rfl rfl rfl
  rcases shutting with ⟨⟨prompt, _, _, looks, fits, login, path⟩, others,
    table⟩
  rw [phase] at fits
  have plain : mustAbandon prompt outcome = false := by
    rw [mustAbandon, fits.succeeded rfl]
    rfl
  rcases Looks.callDone looks fits with ⟨past, told, ended⟩
  rw [plain] at told
  have alive : 0 < prompt.refs := fits.alive rfl
  have unchanged := callDone_table next id outcome false
  have still := still_callDone next id outcome false
  have before := still_shut frame.world id
  rw [settled_eq told alive]
  have result : Result frame id (callDone next id outcome false)
      (if prompt.refs = 1 then .freed else .answered) frame.running :=
    ⟨⟨_, _, _, told, ended, login, path⟩,
      fun other different =>
        Looks.callDone_other (others other different) different _ _,
      table.congr unchanged.1 unchanged.2⟩
  have quiet : (if prompt.refs = 1 then Phase.freed else .answered).isActive =
        false ∧
      (if prompt.refs = 1 then Phase.freed else .answered) ≠ .queued ∧
      (if prompt.refs = 1 then Phase.freed else .answered) ≠ .unborn := by
    split_ifs <;> exact ⟨rfl, nofun, nofun⟩
  have queue : (callDone next id outcome false).pinQueue =
      frame.world.pinQueue.erase id := by
    rw [still.pinQueue, left]
  refine Coupled.placed coupled result (fun _ _ => Iff.rfl) ?_ ?_ ?_ ?_ ?_
  · intro other
    rw [still.pinActive, left]
    show (shut frame.world id).pinActive = some other ↔ _
    rw [before.pinActive, coupled.active]
    by_cases same : other = id
    · rw [same, Function.update_self, quiet.1, phase]
      exact Iff.rfl
    · rw [Function.update_of_ne same]
  · intro other
    rw [queue, coupled.sorted.nodup.mem_erase_iff, coupled.queued]
    by_cases same : other = id
    · rw [same, Function.update_self]
      exact ⟨fun both => absurd rfl both.1,
        fun queued => absurd queued quiet.2.1⟩
    · rw [Function.update_of_ne same]
      exact and_iff_right same
  · rw [queue]
    exact List.erase_sublist
  · rw [still.nextPrompt, left]
    exact before.nextPrompt
  · rw [phase]
    exact ⟨fun unborn => absurd unborn quiet.2.2, nofun⟩

end PortalCertificate.Core.PromptSteps
