import PortalCertificate.Core.PromptFits

/-!
# What operations do to the prompts

Of the whole coordinator a prompt has its record, its interaction and the
events about it.  Each operation is described by what these are afterwards,
for the prompt that it is about and for every other prompt.
-/

namespace PortalCertificate.Core.PromptViews

open PortalCertificate.Core.Coordinator
open PortalCertificate.Core.InteractionTable
open PortalCertificate.Core.Interactions
open PortalCertificate.Core.Pin
open PortalCertificate.Core.PromptCourse
open PortalCertificate.Core.PromptFits
open PortalCertificate.Core.Secret

/-! ## Views -/

/-- Whether an event is about a prompt. -/
def concerns (id : Nat) : Event → Bool
  | .requested prompt | .started prompt | .refreshStarted prompt
  | .attempted prompt _ | .loginReturned prompt _ | .workerReturned prompt
  | .done prompt _ | .abandoned prompt | .loginDataFreed prompt
  | .held prompt _ => prompt = id
  | _ => false

/-- The events about a prompt, newest first. -/
def history (id : Nat) (trace : List Event) : List Event :=
  trace.filter (concerns id)

/-- What a prompt looks like from outside: its record, its interaction and its
history. -/
structure Looks
    (world : World) (id : Nat) (prompt : PinPrompt)
    (screen : Option Interaction) (past : List Event) : Prop where
  prompt : world.prompts id = prompt
  screen : find? world (.pin id) = screen
  past : history id world.trace = past

/-- The prompt looks as it did before. -/
abbrev Untouched (id : Nat) (first second : World) : Prop :=
  Looks second id (first.prompts id) (find? first (.pin id))
    (history id first.trace)

/-- The queue and the numbering of prompts are as before. -/
structure Still (first second : World) : Prop where
  pinActive : second.pinActive = first.pinActive
  pinQueue : second.pinQueue = first.pinQueue
  nextPrompt : second.nextPrompt = first.nextPrompt

variable
  {world first second third : World} {id other : Nat} {prompt : PinPrompt}
  {screen : Option Interaction} {past : List Event}

theorem looks_self :
    Looks world id (world.prompts id) (find? world (.pin id))
      (history id world.trace) :=
  ⟨rfl, rfl, rfl⟩

theorem Still.refl (world : World) : Still world world := ⟨rfl, rfl, rfl⟩

theorem Still.trans
    (here : Still first second) (there : Still second third) :
    Still first third where
  pinActive := there.pinActive.trans here.pinActive
  pinQueue := there.pinQueue.trans here.pinQueue
  nextPrompt := there.nextPrompt.trans here.nextPrompt

/-- Nothing that prompts have has changed. -/
theorem Looks.congr
    (looks : Looks world id prompt screen past) {next : World}
    (prompts : next.prompts = world.prompts)
    (interactions : next.interactions = world.interactions)
    (trace : history id next.trace = history id world.trace) :
    Looks next id prompt screen past where
  prompt := by rw [prompts, looks.prompt]
  screen := (find_congr interactions _).trans looks.screen
  past := trace.trans looks.past

/-! ## Records and events -/

/-- A prompt looks like the record that is written for it. -/
theorem Looks.setPrompt
    (looks : Looks world id prompt screen past) (changed : PinPrompt) :
    Looks (world.setPrompt id changed) id changed screen past :=
  ⟨Function.update_self .., looks.screen, looks.past⟩

/-- The record is written from what it was. -/
theorem Looks.modify
    (looks : Looks world id prompt screen past)
    (change : PinPrompt → PinPrompt) :
    Looks (world.setPrompt id (change (world.prompts id))) id
      (change prompt) screen past := by
  rcases looks with ⟨rfl, rfl, rfl⟩
  exact looks_self.setPrompt _

theorem Looks.setPrompt_other
    (looks : Looks world other prompt screen past) (different : other ≠ id)
    (changed : PinPrompt) :
    Looks (world.setPrompt id changed) other prompt screen past :=
  ⟨(Function.update_of_ne different ..).trans looks.prompt, looks.screen,
    looks.past⟩

theorem Looks.emit
    (looks : Looks world id prompt screen past) {event : Event}
    (about : concerns id event = true) :
    Looks (world.emit event) id prompt screen (event :: past) :=
  ⟨looks.prompt, looks.screen, by
    rw [← looks.past]
    exact List.filter_cons_of_pos about⟩

theorem Looks.emit_other
    (looks : Looks world id prompt screen past) {event : Event}
    (about : concerns id event = false) :
    Looks (world.emit event) id prompt screen past :=
  ⟨looks.prompt, looks.screen, by
    rw [← looks.past]
    exact List.filter_cons_of_neg (by rw [about]; exact Bool.noConfusion)⟩

theorem Looks.freeSecret
    (looks : Looks world id prompt screen past) (secret : Option XccSecret) :
    Looks (world.freeSecret secret) id prompt screen past := by
  cases secret with
  | none => exact looks
  | some page => exact looks.emit_other rfl

theorem still_setPrompt (world : World) (id : Nat) (changed : PinPrompt) :
    Still world (world.setPrompt id changed) := ⟨rfl, rfl, rfl⟩

theorem still_emit (world : World) (event : Event) :
    Still world (world.emit event) := ⟨rfl, rfl, rfl⟩

theorem still_freeSecret (world : World) (secret : Option XccSecret) :
    Still world (world.freeSecret secret) := by
  cases secret with
  | none => exact .refl world
  | some page => exact still_emit world _

/-! ## References -/

/-- What is left of a prompt that has lost a reference. -/
def unreffed (prompt : PinPrompt) : PinPrompt :=
  { prompt with refs := prompt.refs - 1 }

theorem Looks.promptFree
    (looks : Looks world id prompt screen past)
    (none : prompt.secret = none) :
    Looks (promptFree world id) id prompt screen
      (freeEvents prompt.toPinLogin id ++ past) := by
  have cleared := (looks.freeSecret prompt.secret).setPrompt
    { prompt with secret := Option.none }
  have same : { prompt with secret := Option.none } = prompt := by
    rw [← none]
  rw [same] at cleared
  rcases looks with ⟨rfl, rfl, rfl⟩
  rw [Interactions.promptFree, freeEvents, same]
  split_ifs
  · exact cleared.emit (decide_eq_true rfl)
  · exact cleared

theorem Looks.promptFree_other
    (looks : Looks world other prompt screen past)
    (different : other ≠ id) :
    Looks (Interactions.promptFree world id) other prompt screen past := by
  have cleared := (looks.freeSecret (world.prompts id).secret).setPrompt_other
    different { world.prompts id with secret := none }
  rw [Interactions.promptFree]
  split_ifs
  · exact cleared.emit_other (decide_eq_false different.symm)
  · exact cleared

/-- One of several references is dropped. -/
theorem Looks.promptUnref
    (looks : Looks world id prompt screen past) (several : 1 < prompt.refs) :
    Looks (promptUnref world id) id (unreffed prompt) screen past := by
  have dropped := looks.setPrompt (unreffed prompt)
  rcases looks with ⟨rfl, rfl, rfl⟩
  rw [Interactions.promptUnref, if_neg several.ne']
  exact dropped

/-- With its last reference a prompt is freed. -/
theorem Looks.promptUnref_last
    (looks : Looks world id prompt screen past) (last : prompt.refs = 1)
    (none : prompt.secret = none) :
    Looks (Interactions.promptUnref world id) id (unreffed prompt) screen
      (freeEvents prompt.toPinLogin id ++ past) := by
  have dropped := looks.setPrompt (unreffed prompt)
  rcases looks with ⟨rfl, rfl, rfl⟩
  rw [Interactions.promptUnref, if_pos last]
  exact dropped.promptFree none

theorem Looks.promptUnref_other
    (looks : Looks world other prompt screen past)
    (different : other ≠ id) :
    Looks (Interactions.promptUnref world id) other prompt screen past := by
  have dropped := looks.setPrompt_other different
    (unreffed (world.prompts id))
  rw [Interactions.promptUnref]
  split_ifs
  · exact dropped.promptFree_other different
  · exact dropped

theorem still_promptFree (world : World) (id : Nat) :
    Still world (promptFree world id) := by
  rw [promptFree]
  have cleared := (still_freeSecret world (world.prompts id).secret).trans
    (still_setPrompt _ id { world.prompts id with secret := none })
  split_ifs
  · exact cleared.trans (still_emit _ _)
  · exact cleared

theorem still_promptUnref (world : World) (id : Nat) :
    Still world (promptUnref world id) := by
  have dropped := still_setPrompt world id (unreffed (world.prompts id))
  rw [promptUnref]
  split_ifs
  · exact dropped.trans (still_promptFree _ id)
  · exact dropped

/-! ## Messages -/

/-- The record of a prompt that an interaction has taken a reference to. -/
def reffed (prompt : PinPrompt) : PinPrompt :=
  { prompt with refs := prompt.refs + 1 }

theorem still_message
    (world : World) (subject : Subject) (call : UiCall) :
    Still world (message world subject call) := by
  have made : Still world (interaction world subject).2 := by
    cases lookup : find? world subject with
    | some found =>
        rw [interaction_found lookup]
        exact .refl world
    | none =>
        cases subject with
        | chooser chooser =>
            rw [interaction_chooser lookup]
            exact ⟨rfl, rfl, rfl⟩
        | pin prompt =>
            rw [interaction_pin lookup]
            exact ⟨rfl, rfl, rfl⟩
  exact made.trans ⟨rfl, rfl, rfl⟩

theorem still_warning (world : World) (id : Nat) (text : String) :
    Still world (warning world id text) :=
  ⟨(still_message world (.pin id) .hide).pinActive,
    (still_message world (.pin id) .hide).pinQueue,
    (still_message world (.pin id) .hide).nextPrompt⟩

theorem still_hide (world : World) (id : Nat) :
    Still world (hide world id) := by
  rw [hide]
  split
  · exact .refl world
  · split_ifs
    · exact ⟨rfl, rfl, rfl⟩
    · exact .refl world

theorem still_close (world : World) (subject : Subject) :
    Still world (close world subject) := by
  cases lookup : find? world subject with
  | none =>
      rw [close_none lookup]
      exact .refl world
  | some found =>
      have gone : Still world (removed world found) := by
        rw [removed]
        split_ifs <;> exact ⟨rfl, rfl, rfl⟩
      cases subject with
      | chooser chooser =>
          rw [close_chooser lookup]
          exact gone
      | pin prompt =>
          rw [close_pin lookup]
          exact gone.trans (still_promptUnref _ prompt)

/-- What a lookup that makes its interaction does to a prompt. -/
theorem interaction_looks
    (world : World) (subject : Subject) (id : Nat) :
    (interaction world subject).2.trace = world.trace ∧
      (interaction world subject).2.prompts id =
        if subject = .pin id ∧ find? world subject = none then
          reffed (world.prompts id)
        else world.prompts id := by
  cases lookup : find? world subject with
  | some found =>
      rw [interaction_found lookup]
      exact ⟨rfl, (if_neg fun both => by cases both.2).symm⟩
  | none =>
      cases subject with
      | chooser chooser =>
          rw [interaction_chooser lookup]
          exact ⟨rfl, (if_neg fun both => by cases both.1).symm⟩
      | pin prompt =>
          rw [interaction_pin lookup]
          refine ⟨rfl, ?_⟩
          by_cases same : prompt = id
          · subst same
            rw [if_pos ⟨rfl, rfl⟩]
            exact Function.update_self ..
          · rw [if_neg fun both => same (by cases both.1; rfl)]
            exact Function.update_of_ne (Ne.symm same) ..

theorem Looks.message_other
    (looks : Looks world id prompt screen past) (table : Table world)
    {subject : Subject} (different : subject ≠ .pin id) (call : UiCall) :
    Looks (message world subject call) id prompt screen past where
  prompt := by
    have made := (interaction_looks world subject id).2
    rw [if_neg fun both => different both.1, looks.prompt] at made
    exact made
  screen := by
    rw [table.find_message, if_neg different.symm, looks.screen]
  past := by
    have made := (interaction_looks world subject id).1
    exact (congrArg (history id) made).trans looks.past

/-- A message shows the interaction of a prompt. -/
theorem Looks.message
    {found : Interaction}
    (looks : Looks world id prompt (some found) past) (table : Table world)
    (call : UiCall) :
    Looks (message world (.pin id) call) id prompt
      (some { found with shown := true }) past where
  prompt := by
    have made := (interaction_looks world (.pin id) id).2
    have there : ¬ (Subject.pin id = .pin id ∧
        find? world (.pin id) = none) := by simp [looks.screen]
    rw [if_neg there, looks.prompt] at made
    exact made
  screen := by
    rw [table.find_message, if_pos rfl, interaction_found looks.screen]
  past := by
    have made := (interaction_looks world (.pin id) id).1
    exact (congrArg (history id) made).trans looks.past

/-- The first message to a prompt. -/
theorem Looks.firstMessage
    (looks : Looks world id prompt none past) (table : Table world)
    (call : UiCall) :
    Looks (Interactions.message world (.pin id) call) id (reffed prompt)
      (some { freshInteraction world (.pin id) with shown := true })
      past where
  prompt := by
    have made := (interaction_looks world (.pin id) id).2
    rw [if_pos ⟨rfl, looks.screen⟩, looks.prompt] at made
    exact made
  screen := by
    rw [table.find_message, if_pos rfl, interaction_pin looks.screen]
  past := by
    have made := (interaction_looks world (.pin id) id).1
    exact (congrArg (history id) made).trans looks.past

theorem Looks.warning_other
    (looks : Looks world id prompt screen past) (table : Table world)
    {other : Nat} (different : id ≠ other) (text : String) :
    Looks (warning world other text) id prompt screen past where
  prompt := by
    have made := (interaction_looks world (.pin other) id).2
    rw [if_neg fun both => different (by cases both.1; rfl), looks.prompt]
      at made
    exact made
  screen := by
    have apart : Subject.pin id ≠ .pin other := by simpa using different
    rw [table.find_warning, if_neg apart, looks.screen]
  past := by
    have made := (interaction_looks world (.pin other) id).1
    exact (congrArg (history id) made).trans looks.past

theorem Looks.warning
    {found : Interaction}
    (looks : Looks world id prompt (some found) past) (table : Table world)
    (text : String) :
    Looks (Interactions.warning world id text) id prompt
      (some { found with warningId := found.warningId + 1 }) past where
  prompt := by
    have made := (interaction_looks world (.pin id) id).2
    have there : ¬ (Subject.pin id = .pin id ∧
        find? world (.pin id) = none) := by simp [looks.screen]
    rw [if_neg there, looks.prompt] at made
    exact made
  screen := by
    rw [table.find_warning, if_pos rfl, warned,
      interaction_found looks.screen]
  past := by
    have made := (interaction_looks world (.pin id) id).1
    exact (congrArg (history id) made).trans looks.past

theorem Looks.hide
    (looks : Looks world id prompt screen past) (other : Nat) :
    Looks (hide world other) id prompt screen past := by
  rw [Interactions.hide]
  split
  · exact looks
  · split_ifs
    · exact looks.congr rfl rfl rfl
    · exact looks

theorem removed_looks (world : World) (found : Interaction) :
    (removed world found).prompts = world.prompts ∧
      (removed world found).trace = world.trace := by
  rw [removed]
  split_ifs <;> exact ⟨rfl, rfl⟩

theorem Looks.close_other
    (looks : Looks world id prompt screen past) (table : Table world)
    {subject : Subject} (different : subject ≠ .pin id) :
    Looks (close world subject) id prompt screen past := by
  have screen' : find? (close world subject) (.pin id) = screen := by
    rw [table.find_close, if_neg different.symm, looks.screen]
  cases lookup : find? world subject with
  | none => rwa [close_none lookup]
  | some found =>
      have gone := removed_looks world found
      have left : Looks (removed world found) id prompt
          (find? (removed world found) (.pin id)) past :=
        ⟨by rw [gone.1, looks.prompt], rfl, by rw [gone.2, looks.past]⟩
      cases subject with
      | chooser chooser =>
          rw [close_chooser lookup] at screen' ⊢
          exact ⟨left.prompt, screen', left.past⟩
      | pin other =>
          rw [close_pin lookup] at screen' ⊢
          have apart : id ≠ other := fun same => different (by rw [same])
          have dropped := left.promptUnref_other apart
          exact ⟨dropped.prompt, screen', dropped.past⟩

theorem Looks.close_none
    (looks : Looks world id prompt none past) :
    Looks (close world (.pin id)) id prompt none past := by
  rwa [InteractionTable.close_none looks.screen]

theorem Looks.close
    {found : Interaction}
    (looks : Looks world id prompt (some found) past) (table : Table world)
    (several : 1 < prompt.refs) :
    Looks (close world (.pin id)) id (unreffed prompt) none past := by
  have screen' : find? (Interactions.close world (.pin id)) (.pin id) =
      none := by
    rw [table.find_close, if_pos rfl]
  have gone := removed_looks world found
  have left : Looks (removed world found) id prompt
      (find? (removed world found) (.pin id)) past :=
    ⟨by rw [gone.1, looks.prompt], rfl, by rw [gone.2, looks.past]⟩
  have dropped := left.promptUnref several
  rw [close_pin looks.screen] at screen' ⊢
  exact ⟨dropped.prompt, screen', dropped.past⟩

/-- Writes to an interaction that are not about being shown. -/
theorem Looks.setInteraction
    {found changed : Interaction}
    (looks : Looks world id prompt screen past) (table : Table world)
    (member : found ∈ world.interactions) (same : changed.id = found.id)
    (subject : changed.subject = found.subject) :
    Looks (setInteraction world changed) id prompt
      (if .pin id = changed.subject then some changed else screen)
      past where
  prompt := looks.prompt
  screen := by
    rw [table.find_setInteraction member same subject, looks.screen]
  past := looks.past

end PortalCertificate.Core.PromptViews
