import PortalCertificate.Core.Conversation
import PortalCertificate.Core.PinLedger

/-!
# What operations say to the user interface

The screen of a coordinator, and what each operation on prompts adds to its
conversations.  Most operations say nothing; the others say one thing about
one interaction, and keep those of choosers.
-/

namespace PortalCertificate.Core.UiScreens

open PortalCertificate.Core.Conversation
open PortalCertificate.Core.Coordinator
open PortalCertificate.Core.InteractionTable
open PortalCertificate.Core.Interactions
open PortalCertificate.Core.Pin
open PortalCertificate.Core.Secret
open PortalCertificate.Core.Ui

/-- The number and the subject of an interaction. -/
def entry (found : Interaction) : Nat × Subject := (found.id, found.subject)

/-- What the interface knows of a coordinator. -/
def screen (world : World) : Screen where
  entries := world.interactions.map entry
  counter := world.nextUiId
  messages := world.posted

/-- Every interaction has been shown. -/
def AllShown (world : World) : Prop :=
  ∀ found ∈ world.interactions, found.shown = true

/-! ## Operations that say nothing -/

/-- Nothing that the interface knows has changed. -/
structure Mute (first second : World) : Prop where
  interactions : second.interactions = first.interactions
  nextUiId : second.nextUiId = first.nextUiId
  posted : second.posted = first.posted
  choosers : second.choosers = first.choosers
  nextChooser : second.nextChooser = first.nextChooser

variable {first second third : World}

theorem Mute.refl (world : World) : Mute world world :=
  ⟨rfl, rfl, rfl, rfl, rfl⟩

theorem Mute.trans
    (here : Mute first second) (there : Mute second third) :
    Mute first third where
  interactions := there.interactions.trans here.interactions
  nextUiId := there.nextUiId.trans here.nextUiId
  posted := there.posted.trans here.posted
  choosers := there.choosers.trans here.choosers
  nextChooser := there.nextChooser.trans here.nextChooser

theorem Mute.screen_eq (mute : Mute first second) :
    screen second = screen first := by
  rw [screen, screen, mute.interactions, mute.nextUiId, mute.posted]

theorem Mute.find_eq (mute : Mute first second) (subject : Subject) :
    find? second subject = find? first subject :=
  find_congr mute.interactions subject

theorem Mute.table (mute : Mute first second) (table : Table first) :
    Table second :=
  table.congr mute.interactions mute.nextUiId

theorem Mute.shown (mute : Mute first second) (shown : AllShown first) :
    AllShown second := by
  rw [AllShown, mute.interactions]
  exact shown

variable (world : World) {id : Nat}

theorem mute_setPrompt (prompt : PinPrompt) :
    Mute world (world.setPrompt id prompt) := ⟨rfl, rfl, rfl, rfl, rfl⟩

theorem mute_emit (event : Event) : Mute world (world.emit event) :=
  ⟨rfl, rfl, rfl, rfl, rfl⟩

theorem mute_freeSecret (secret : Option XccSecret) :
    Mute world (world.freeSecret secret) := by
  cases secret with
  | none => exact .refl world
  | some page => exact mute_emit world _

theorem mute_promptFree : Mute world (promptFree world id) := by
  have cleared : Mute world ((world.freeSecret (world.prompts id).secret)
      |>.setPrompt id { world.prompts id with secret := none }) :=
    (mute_freeSecret world _).trans (mute_setPrompt _ _)
  rw [promptFree]
  split_ifs
  · exact cleared.trans (mute_emit _ _)
  · exact cleared

theorem mute_promptUnref : Mute world (promptUnref world id) := by
  have dropped (refs : Nat) : Mute world
      (world.setPrompt id { world.prompts id with refs }) :=
    mute_setPrompt world _
  rw [promptUnref]
  split_ifs
  · exact (dropped _).trans (mute_promptFree _)
  · exact dropped _

theorem mute_retire : Mute world (retire world id) := by
  have stopped : Mute world
      (world.setPrompt id (stopping (world.prompts id))) :=
    mute_setPrompt world _
  rw [retire]
  dsimp only
  refine Mute.trans ?_ (mute_setPrompt _ _)
  refine Mute.trans ?_ (mute_freeSecret _ _)
  split_ifs
  · exact stopped.trans (mute_promptUnref _)
  · exact stopped

theorem mute_callDone (outcome : CertificatePinOutcome) (abandon : Bool) :
    Mute world (callDone world id outcome abandon) := by
  rw [callDone]
  split_ifs
  · exact ((mute_emit world _).trans (mute_emit _ _)).trans
      (mute_promptUnref _)
  · exact (mute_emit world _).trans (mute_promptUnref _)

theorem mute_refuse (login : PinLogin) : Mute world (refuse world login) := by
  rw [refuse]
  split_ifs <;> exact ⟨rfl, rfl, rfl, rfl, rfl⟩

theorem mute_loginReturned (secret : Option XccSecret) (result : LoginResult) :
    Mute world (loginReturned world id secret result) := by
  have told : Mute world
      ((world.freeSecret secret).emit (.loginReturned id result)) :=
    (mute_freeSecret world secret).trans (mute_emit _ _)
  rw [loginReturned]
  split_ifs
  · exact told.trans (mute_setPrompt _ _)
  · exact (told.trans (mute_setPrompt _ _)).trans (mute_emit _ _)

theorem mute_sendReply (reply : Reply) :
    Mute world (sendReply world reply) := by
  have handed (page : XccSecret) : Mute world
      ({ world with nextSecret := world.nextSecret + 1 }.emit
        (.submitted page.serial)) := ⟨rfl, rfl, rfl, rfl, rfl⟩
  rw [sendReply]
  cases replyPage (Reply.numbered reply world.nextSecret) with
  | none =>
      split_ifs
      · exact .refl world
      · exact ⟨rfl, rfl, rfl, rfl, rfl⟩
  | some page =>
      split_ifs
      · exact (handed page).trans (mute_freeSecret _ _)
      · exact (handed page).trans ⟨rfl, rfl, rfl, rfl, rfl⟩

/-! ## Operations that say something -/

/-- One thing is said, and not about a chooser. -/
structure Speaks (first second : World) : Prop where
  talk : Talk (screen first) (screen second)
  shown : AllShown second
  find : ∀ chooser,
    find? second (.chooser chooser) = find? first (.chooser chooser)
  choosers : second.choosers = first.choosers
  nextChooser : second.nextChooser = first.nextChooser

theorem Mute.speaks (mute : Mute first second) (shown : AllShown first) :
    Speaks first second where
  talk := mute.screen_eq ▸ Talk.silent (screen first)
  shown := mute.shown shown
  find _ := mute.find_eq _
  choosers := mute.choosers
  nextChooser := mute.nextChooser

theorem Mute.before
    (mute : Mute first second) (speaks : Speaks second third) :
    Speaks first third where
  talk := mute.screen_eq ▸ speaks.talk
  shown := speaks.shown
  find chooser := (speaks.find chooser).trans (mute.find_eq _)
  choosers := speaks.choosers.trans mute.choosers
  nextChooser := speaks.nextChooser.trans mute.nextChooser

theorem Speaks.mute
    (speaks : Speaks first second) (mute : Mute second third) :
    Speaks first third where
  talk := mute.screen_eq ▸ speaks.talk
  shown := mute.shown speaks.shown
  find chooser := (mute.find_eq _).trans (speaks.find chooser)
  choosers := mute.choosers.trans speaks.choosers
  nextChooser := mute.nextChooser.trans speaks.nextChooser

section Messages

variable {world : World} {subject : Subject} {found changed : Interaction}

/-- Writing to an interaction leaves what it is about. -/
theorem entries_set
    (table : Table world) (member : found ∈ world.interactions)
    (same : entry changed = entry found) :
    (setInteraction world changed).interactions.map entry =
      world.interactions.map entry := by
  rw [setInteraction, List.map_map]
  refine List.map_congr_left fun other inside => ?_
  have id : changed.id = found.id := congrArg Prod.fst same
  show entry (if other.id = changed.id then changed else other) = entry other
  split_ifs with equal
  · rw [same, table.eq_of_id inside member (equal.trans id)]
  · rfl

theorem shown_set
    (shown : AllShown world) (here : changed.shown = true) :
    AllShown (setInteraction world changed) := by
  intro other inside
  rcases List.mem_map.mp inside with ⟨before, earlier, rfl⟩
  split_ifs
  · exact here
  · exact shown before earlier

theorem posted_concat (world : World) (id : Nat) (call : UiCall) :
    (post world id call).posted = world.posted ++ [⟨id, call⟩] :=
  (List.append_assoc ..).symm

/-- Something is said about an interaction that has been shown. -/
theorem screen_told
    (table : Table world) (member : found ∈ world.interactions)
    (same : entry changed = entry found) (call : UiCall) :
    screen (post (setInteraction world changed) found.id call) =
      { screen world with
        messages := world.posted ++ [⟨found.id, call⟩] } := by
  have entries := entries_set table member same
  rw [screen, posted_concat]
  show Screen.mk ((setInteraction world changed).interactions.map entry)
    world.nextUiId (world.posted ++ _) = _
  rw [entries]
  rfl

theorem talk_told
    (table : Table world) (shown : AllShown world)
    (lookup : find? world subject = some found) {call : UiCall}
    (same : entry changed = entry found) (here : changed.shown = true)
    (telling : tells subject call = true) :
    Talk (screen world)
        (screen (post (setInteraction world changed) found.id call)) ∧
      AllShown (post (setInteraction world changed) found.id call) := by
  have there := mem_of_find lookup
  refine ⟨?_, shown_set shown here⟩
  rw [screen_told table there.1 same]
  refine Talk.told (screen world) ?_ telling
  rw [← there.2]
  exact List.mem_map_of_mem there.1

/-- The first message about a subject opens its interaction. -/
theorem talk_opened
    {next : World} (table : Table world) (shown : AllShown world)
    (none : find? world subject = none) {call : UiCall}
    (interactions : next.interactions =
      (enlarged world subject).interactions)
    (counter : next.nextUiId = (enlarged world subject).nextUiId)
    (posted : next.posted = world.posted)
    (opening : opens subject call = true) :
    Talk (screen world)
        (screen (post (setInteraction next
          { freshInteraction world subject with shown := true })
            (world.nextUiId + 1) call)) ∧
      AllShown (post (setInteraction next
        { freshInteraction world subject with shown := true })
          (world.nextUiId + 1) call) := by
  have wider : Table next :=
    table.cons rfl none interactions counter
  have member : freshInteraction world subject ∈ next.interactions := by
    rw [interactions]
    exact List.mem_cons_self ..
  constructor
  · have told := screen_told wider member
      (show entry { freshInteraction world subject with shown := true } =
        entry (freshInteraction world subject) from rfl) call
    have opened : screen next =
        ⟨(world.nextUiId + 1, subject) :: (screen world).entries,
          world.nextUiId + 1, world.posted⟩ := by
      rw [screen, interactions, counter, posted]
      rfl
    rw [opened, posted] at told
    show Talk (screen world) (screen (post _
      (freshInteraction world subject).id call))
    rw [told]
    exact Talk.opened (screen world) opening
  · intro other inside
    rcases List.mem_map.mp inside with ⟨before, earlier, rfl⟩
    rw [interactions] at earlier
    split_ifs with same
    · rfl
    · rcases List.mem_cons.mp earlier with rfl | earlier
      · exact absurd rfl same
      · exact shown before earlier

/-- A message fits an interaction that is there, or opens a new one. -/
theorem talk_message
    (table : Table world) (shown : AllShown world) {call : UiCall}
    (fits : (find? world subject = none ∧ opens subject call = true) ∨
      (∃ found, find? world subject = some found) ∧
        tells subject call = true) :
    Talk (screen world) (screen (message world subject call)) ∧
      AllShown (message world subject call) := by
  rcases fits with ⟨none, opening⟩ | ⟨⟨found, lookup⟩, telling⟩
  · cases subject with
    | chooser chooser =>
        rw [message, interaction_chooser none]
        exact talk_opened table shown none rfl rfl rfl opening
    | pin id =>
        rw [message, interaction_pin none]
        exact talk_opened table shown none rfl rfl rfl opening
  · rw [message, interaction_found lookup]
    exact talk_told table shown lookup rfl rfl telling

theorem message_choosers (world : World) (subject : Subject) (call : UiCall) :
    (message world subject call).choosers = world.choosers ∧
      (message world subject call).nextChooser = world.nextChooser := by
  cases lookup : find? world subject with
  | some found =>
      rw [message, interaction_found lookup]
      exact ⟨rfl, rfl⟩
  | none =>
      cases subject with
      | chooser chooser =>
          rw [message, interaction_chooser lookup]
          exact ⟨rfl, rfl⟩
      | pin id =>
          rw [message, interaction_pin lookup]
          exact ⟨rfl, rfl⟩

/-- A message about a prompt. -/
theorem speaks_message
    (table : Table world) (shown : AllShown world) {call : UiCall}
    (fits : (find? world (.pin id) = none ∧ opens (.pin id) call = true) ∨
      (∃ found, find? world (.pin id) = some found) ∧
        tells (.pin id) call = true) :
    Speaks world (message world (.pin id) call) where
  talk := (talk_message table shown fits).1
  shown := (talk_message table shown fits).2
  find chooser := by
    rw [table.find_message, if_neg Subject.noConfusion]
  choosers := (message_choosers ..).1
  nextChooser := (message_choosers ..).2

theorem speaks_warning
    (table : Table world) (shown : AllShown world) (text : String)
    (lookup : find? world (.pin id) = some found) :
    Speaks world (warning world id text) := by
  have member := (mem_of_find lookup).1
  have there : found.shown = true := shown found member
  have told : Talk _ _ ∧ AllShown _ :=
    talk_told table shown lookup
      (show entry { found with warningId := found.warningId + 1 } =
        entry found from rfl) there
      (show tells (.pin id) (.warning (found.warningId + 1) text) = true
        from rfl)
  have find := table.find_warning id text
  have same : warning world id text =
      post (setInteraction world
        { found with warningId := found.warningId + 1 }) found.id
          (.warning (found.warningId + 1) text) := by
    rw [warning, interaction_found lookup]
  rw [same] at find ⊢
  refine ⟨told.1, told.2, fun chooser => ?_, rfl, rfl⟩
  rw [find, if_neg Subject.noConfusion]

theorem speaks_hide (shown : AllShown world) :
    Speaks world (hide world id) := by
  rw [hide]
  cases lookup : find? world (.pin id) with
  | none => exact (Mute.refl world).speaks shown
  | some found =>
      have there := mem_of_find lookup
      dsimp only
      rw [if_pos (shown found there.1)]
      refine ⟨?_, shown, fun _ => rfl, rfl, rfl⟩
      have told : screen (post world found.id .hide) =
          { screen world with
            messages := world.posted ++ [⟨found.id, .hide⟩] } := by
        rw [screen, posted_concat]
        rfl
      rw [told]
      refine Talk.told (screen world)
        (show (found.id, Subject.pin id) ∈ (screen world).entries from ?_) rfl
      rw [← there.2]
      exact List.mem_map_of_mem there.1

/-- The last message about an interaction. -/
theorem screen_removed
    (shown : AllShown world) (member : found ∈ world.interactions) :
    Talk (screen world) (screen (removed world found)) ∧
      AllShown (removed world found) := by
  have closing : removed world found =
      { post world found.id .close with
        interactions := world.interactions.filter fun other =>
          other.id ≠ found.id } := by
    rw [removed, if_pos (shown found member)]
    rfl
  constructor
  · have closed : screen (removed world found) =
        { screen world with
          entries := (screen world).entries.filter fun entry =>
            entry.1 ≠ found.id
          messages := world.posted ++ [⟨found.id, .close⟩] } := by
      rw [closing, screen, ← posted_concat]
      dsimp only [screen]
      rw [List.filter_map]
      rfl
    rw [closed]
    exact Talk.closed (screen world)
      (show (found.id, found.subject) ∈ _ from List.mem_map_of_mem member)
  · rw [closing]
    exact fun other inside => shown other (List.mem_of_mem_filter inside)

theorem removed_choosers (world : World) (found : Interaction) :
    (removed world found).choosers = world.choosers ∧
      (removed world found).nextChooser = world.nextChooser := by
  rw [removed]
  split_ifs <;> exact ⟨rfl, rfl⟩

theorem speaks_close
    (table : Table world) (shown : AllShown world) :
    Speaks world (close world (.pin id)) := by
  cases lookup : find? world (.pin id) with
  | none =>
      rw [close_none lookup]
      exact (Mute.refl world).speaks shown
  | some found =>
      have find := table.find_close (.pin id)
      have told := screen_removed shown (mem_of_find lookup).1
      have mute : Mute (removed world found) (close world (.pin id)) := by
        rw [close_pin lookup]
        exact mute_promptUnref _
      have chooser (other : Nat) :
          find? (removed world found) (.chooser other) =
            find? world (.chooser other) := by
        rw [← mute.find_eq, find, if_neg Subject.noConfusion]
      have spoken : Speaks world (removed world found) :=
        ⟨told.1, told.2, chooser, (removed_choosers world found).1,
          (removed_choosers world found).2⟩
      exact spoken.mute mute

end Messages

end PortalCertificate.Core.UiScreens
