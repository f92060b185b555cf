import PortalCertificate.Core.Ui

/-!
# Pages

Where the pages of a prompt are: at the prompt, or with the worker that has
been given one.  Few operations move a page; the lemmas here are about those
that do not, and a prompt that is answered or released has no page to free.
-/

namespace PortalCertificate.Core.PinPages

open PortalCertificate.Core.Coordinator
open PortalCertificate.Core.Interactions
open PortalCertificate.Core.Pin
open PortalCertificate.Core.Secret
open PortalCertificate.Core.Ui

/-! ## Where pages are -/

/-- The number of a secret, if there is one. -/
def serials (secret : Option XccSecret) : List Nat :=
  (secret.map XccSecret.serial).toList

/-- The secrets that a worker holds. -/
def workerPages : Worker → List Nat
  | .loggingIn secret => serials secret
  | _ => []

/-- The secrets that a prompt and its worker hold. -/
def pages (prompt : PinPrompt) : List Nat :=
  serials prompt.secret ++ workerPages prompt.worker

/-- The pages of replies that have not been dispatched. -/
def inboxPages (inbox : List Reply) : List Nat :=
  inbox.flatMap fun reply => serials (replyPage reply)

/-- No page has moved. -/
structure SamePages (first second : World) : Prop where
  pages : ∀ id, pages (second.prompts id) = pages (first.prompts id)
  inbox : second.inbox = first.inbox
  nextSecret : second.nextSecret = first.nextSecret

variable {first second third : World}

theorem SamePages.refl (world : World) : SamePages world world :=
  ⟨fun _ => rfl, rfl, rfl⟩

theorem SamePages.trans
    (here : SamePages first second) (there : SamePages second third) :
    SamePages first third where
  pages id := (there.pages id).trans (here.pages id)
  inbox := there.inbox.trans here.inbox
  nextSecret := there.nextSecret.trans here.nextSecret

/-- Operations on other parts of the coordinator. -/
theorem samePages_of
    (prompts : second.prompts = first.prompts)
    (inbox : second.inbox = first.inbox)
    (nextSecret : second.nextSecret = first.nextSecret) :
    SamePages first second :=
  ⟨fun id => by rw [prompts], inbox, nextSecret⟩

variable (world : World) {id : Nat}

/-! ## Records and references -/

theorem samePages_setPrompt
    {prompt : PinPrompt} (same : pages prompt = pages (world.prompts id)) :
    SamePages world (world.setPrompt id prompt) := by
  refine ⟨fun other => ?_, rfl, rfl⟩
  by_cases here : other = id
  · rw [here, World.setPrompt_self, same]
  · exact congrArg pages (Function.update_of_ne here ..)

theorem samePages_freeSecret (secret : Option XccSecret) :
    SamePages world (world.freeSecret secret) := by
  cases secret with
  | none => exact .refl world
  | some page => exact samePages_of rfl rfl rfl

/-- A prompt without a page has none to free. -/
theorem pages_cleared
    {prompt : PinPrompt} (none : prompt.secret = none) :
    pages { prompt with secret := Option.none } = pages prompt := by
  rw [pages, pages, none]

theorem samePages_promptFree (none : (world.prompts id).secret = none) :
    SamePages world (promptFree world id) := by
  have freed := samePages_freeSecret world (world.prompts id).secret
  have same : pages { world.prompts id with secret := Option.none } =
      pages ((world.freeSecret (world.prompts id).secret).prompts id) := by
    rw [pages_cleared none, freed.pages]
  have cleared := freed.trans (samePages_setPrompt _ same)
  rw [promptFree]
  split_ifs
  · exact cleared.trans (samePages_of rfl rfl rfl)
  · exact cleared

theorem samePages_promptUnref (none : (world.prompts id).secret = none) :
    SamePages world (promptUnref world id) := by
  have dropped (refs : Nat) : SamePages world
      (world.setPrompt id { world.prompts id with refs }) :=
    samePages_setPrompt world rfl
  rw [promptUnref]
  split_ifs
  · refine (dropped _).trans (samePages_promptFree _ ?_)
    rw [World.setPrompt_self]
    exact none
  · exact dropped _

theorem promptUnref_secret (none : (world.prompts id).secret = none) :
    ((promptUnref world id).prompts id).secret = Option.none := by
  rw [promptUnref]
  split_ifs
  · rw [promptFree]
    split_ifs
    · exact congrArg PinPrompt.secret (World.setPrompt_self ..)
    · exact congrArg PinPrompt.secret (World.setPrompt_self ..)
  · rw [World.setPrompt_self]
    exact none

/-! ## Messages -/

theorem samePages_interaction (subject : Subject) :
    SamePages world (interaction world subject).2 := by
  rw [interaction]
  split
  · exact .refl world
  · cases subject with
    | chooser chooser => exact samePages_of rfl rfl rfl
    | pin prompt =>
        have made : SamePages world { world with
            nextUiId := world.nextUiId + 1
            interactions := ⟨world.nextUiId + 1, .pin prompt, false, false,
              0⟩ :: world.interactions } := samePages_of rfl rfl rfl
        exact made.trans (samePages_setPrompt _ rfl)

theorem samePages_message (subject : Subject) (call : UiCall) :
    SamePages world (message world subject call) :=
  (samePages_interaction world subject).trans (samePages_of rfl rfl rfl)

theorem samePages_warning (text : String) :
    SamePages world (warning world id text) :=
  (samePages_interaction world (.pin id)).trans (samePages_of rfl rfl rfl)

theorem samePages_hide : SamePages world (hide world id) := by
  rw [hide]
  split
  · exact .refl world
  · split_ifs
    · exact samePages_of rfl rfl rfl
    · exact .refl world

theorem samePages_close_chooser (chooser : Nat) :
    SamePages world (close world (.chooser chooser)) := by
  rw [close]
  split
  · exact .refl world
  · dsimp only
    split_ifs <;> exact samePages_of rfl rfl rfl

theorem samePages_close_pin (none : (world.prompts id).secret = none) :
    SamePages world (close world (.pin id)) := by
  rw [close]
  split
  · exact .refl world
  · next found _ =>
      dsimp only
      split_ifs
      · have told : SamePages world
            { post world found.id .close with
              interactions := world.interactions.filter fun other =>
                other.id ≠ found.id } := samePages_of rfl rfl rfl
        exact told.trans (samePages_promptUnref _ none)
      · have told : SamePages world
            { world with
              interactions := world.interactions.filter fun other =>
                other.id ≠ found.id } := samePages_of rfl rfl rfl
        exact told.trans (samePages_promptUnref _ none)

/-! ## Answers -/

theorem samePages_retire (none : (world.prompts id).secret = none) :
    SamePages world (retire world id) := by
  let stopped := world.setPrompt id (stopping (world.prompts id))
  have first : SamePages world stopped := samePages_setPrompt world rfl
  have clear : (stopped.prompts id).secret = Option.none := by
    rw [World.setPrompt_self]
    exact none
  have idle : SamePages world
      (if (world.prompts id).cancelIdle then promptUnref stopped id
        else stopped) := by
    split_ifs
    · exact first.trans (samePages_promptUnref stopped clear)
    · exact first
  have still : ((if (world.prompts id).cancelIdle then
      promptUnref stopped id else stopped).prompts id).secret =
        Option.none := by
    split_ifs
    · exact promptUnref_secret stopped clear
    · exact clear
  rw [retire, none]
  exact idle.trans (samePages_setPrompt _ (pages_cleared still))

theorem samePages_shut (none : (world.prompts id).secret = none) :
    SamePages world (shut world id) := by
  refine (samePages_retire world none).trans (samePages_close_pin _ ?_)
  rw [retire, World.setPrompt_self]

theorem samePages_callDone
    (none : (world.prompts id).secret = none)
    (outcome : CertificatePinOutcome) (abandon : Bool) :
    SamePages world (callDone world id outcome abandon) := by
  have told : SamePages world
      (if abandon then (world.emit (.done id outcome)).emit (.abandoned id)
        else world.emit (.done id outcome)) := by
    split_ifs <;> exact samePages_of rfl rfl rfl
  rw [callDone]
  refine told.trans (samePages_promptUnref _ ?_)
  split_ifs <;> exact none

theorem samePages_defer (outcome : CertificatePinOutcome) :
    SamePages world (defer world id outcome) := by
  have deferred : SamePages world
      (world.setPrompt id (deferring (world.prompts id) outcome)) :=
    samePages_setPrompt world rfl
  rw [defer]
  dsimp only
  split_ifs
  · exact .refl world
  · exact deferred
  · exact deferred.trans (samePages_hide _)

theorem samePages_setBusy (busy : Bool) :
    SamePages world (setBusy world id busy) := by
  have marked : SamePages world
      (world.setPrompt id { world.prompts id with busy }) :=
    samePages_setPrompt world rfl
  exact marked.trans (samePages_message ..)

theorem samePages_retry (none : (world.prompts id).secret = none) :
    SamePages world (retry world id) := by
  have freed := samePages_freeSecret world (world.prompts id).secret
  have same : pages { world.prompts id with secret := Option.none } =
      pages ((world.freeSecret (world.prompts id).secret).prompts id) := by
    rw [pages_cleared none, freed.pages]
  exact (freed.trans (samePages_setPrompt _ same)).trans
    (samePages_message ..)

/-- The page of an attempt goes from the prompt to its worker. -/
theorem samePages_attempt
    (idle : (world.prompts id).worker = .none) :
    SamePages world (attempt world id) := by
  have same : pages (attempting (world.prompts id)) =
      pages (world.prompts id) := by
    rw [pages, pages, idle]
    exact (List.append_nil _).symm
  let begun := world.setPrompt id (attempting (world.prompts id))
  have first : SamePages world begun := samePages_setPrompt world same
  have busy : SamePages begun (setBusy begun id true) :=
    samePages_setBusy begun true
  have timed : SamePages (setBusy begun id true)
      ((setBusy begun id true).setPrompt id
        { (setBusy begun id true).prompts id with
          loginTimeout := (world.prompts id).loginTimeout ||
            0 < world.pinLoginTimeoutSeconds }) :=
    samePages_setPrompt _ rfl
  exact ((first.trans busy).trans timed).trans (samePages_of rfl rfl rfl)

theorem samePages_cancel (cancellable : Nat) :
    SamePages world (cancel world cancellable) := by
  rw [cancel]
  split_ifs
  · exact .refl world
  · refine ⟨fun id => ?_, rfl, rfl⟩
    show pages (if _ then _ else _) = _
    split_ifs
    · rw [onCancelled]
      split_ifs <;> rfl
    · rfl

end PortalCertificate.Core.PinPages
