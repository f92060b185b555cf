import PortalCertificate.Core.Coordinator

/-!
# Interactions

The part of `ui.c` that prompts and choosers call.  An interaction is looked
up by its prompt or chooser, and made for the first message that needs it.
-/

namespace PortalCertificate.Core.Interactions

open PortalCertificate.Core.Coordinator

/-! ## References of prompts -/

/-- `certificate_pin_prompt_ref`. -/
def promptRef (world : World) (id : Nat) : World :=
  let prompt := world.prompts id
  world.setPrompt id { prompt with refs := prompt.refs + 1 }

/-- `pin_prompt_free`. -/
def promptFree (world : World) (id : Nat) : World :=
  let prompt := world.prompts id
  let cleared := (world.freeSecret prompt.secret).setPrompt id
    { prompt with secret := none }
  if prompt.loginDataFree then cleared.emit (.loginDataFreed id) else cleared

/-- `pin_prompt_unref`. -/
def promptUnref (world : World) (id : Nat) : World :=
  let prompt := world.prompts id
  let dropped := world.setPrompt id { prompt with refs := prompt.refs - 1 }
  if prompt.refs = 1 then promptFree dropped id else dropped

/-! ## The table of interactions -/

/-- The interaction of a prompt or a chooser, if it has one. -/
def find? (world : World) (subject : Subject) : Option Interaction :=
  world.interactions.find? fun interaction => interaction.subject = subject

/-- `interaction` with `create`. -/
def interaction (world : World) (subject : Subject) :
    Interaction × World :=
  match find? world subject with
  | some found => (found, world)
  | none =>
      let fresh : Interaction :=
        { id := world.nextUiId + 1, subject, shown := false
          ready := false, warningId := 0 }
      let world :=
        { world with
          nextUiId := world.nextUiId + 1
          interactions := fresh :: world.interactions }
      match subject with
      | .chooser _ => (fresh, world)
      | .pin prompt => (fresh, promptRef world prompt)

/-- Writes to the interaction with this identifier. -/
def setInteraction (world : World) (changed : Interaction) : World :=
  { world with
    interactions := world.interactions.map fun other =>
      if other.id = changed.id then changed else other }

/-- A call is put into the queue of the interface. -/
def post (world : World) (id : Nat) (call : UiCall) : World :=
  { world with pending := world.pending ++ [⟨id, call⟩] }

/-- `chooser_message` and `pin_message`. -/
def message (world : World) (subject : Subject) (call : UiCall) : World :=
  let (found, world) := interaction world subject
  post (setInteraction world { found with shown := true }) found.id call

/-- `warning`. -/
def warning (world : World) (prompt : Nat) (text : String) : World :=
  let (found, world) := interaction world (.pin prompt)
  let changed := { found with warningId := found.warningId + 1 }
  post (setInteraction world changed) found.id
    (.warning changed.warningId text)

/-- The dialog of a prompt is hidden, if it is shown. -/
def hide (world : World) (prompt : Nat) : World :=
  match find? world (.pin prompt) with
  | none => world
  | some found => if found.shown then post world found.id .hide else world

/-- `close_interaction`, `chooser_close` and `pin_close`. -/
def close (world : World) (subject : Subject) : World :=
  match find? world subject with
  | none => world
  | some found =>
      let told :=
        if found.shown then post world found.id .close else world
      let removed :=
        { told with
          interactions :=
            told.interactions.filter fun other => other.id ≠ found.id }
      match subject with
      | .chooser _ => removed
      | .pin prompt => promptUnref removed prompt

end PortalCertificate.Core.Interactions
