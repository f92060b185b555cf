import PortalCertificate.Core.Pin
import PortalCertificate.Library.Trace

/-!
# What operations add to the trace

Each operation with the kinds of events that it can add.  The kinds are a
parameter, so that one lemma serves every statement about the trace.
-/

namespace PortalCertificate.Core.PromptEvents

open PortalCertificate.Core.Coordinator
open PortalCertificate.Core.Interactions
open PortalCertificate.Core.Pin
open PortalCertificate.Core.Secret
open PortalCertificate.Library.Trace

variable (world : World) {id : Nat} {kinds : Event → Prop}

theorem adds_emit {event : Event} (kind : kinds event) :
    Adds kinds world.trace (world.emit event).trace :=
  (Adds.refl _).cons kind

/-! ## References and pages -/

/-- The page of a prompt may be freed. -/
def Frees (kinds : Event → Prop) (secret : Option XccSecret) : Prop :=
  ∀ page ∈ secret, kinds (.secretFreed page.serial)

theorem frees_none : Frees kinds none := nofun

theorem freeSecret_adds
    {secret : Option XccSecret} (pages : Frees kinds secret) :
    Adds kinds world.trace (world.freeSecret secret).trace := by
  cases secret with
  | none => exact .refl _
  | some page => exact (Adds.refl _).cons (pages page rfl)

theorem promptFree_adds
    (pages : Frees kinds (world.prompts id).secret)
    (data : kinds (.loginDataFreed id)) :
    Adds kinds world.trace (promptFree world id).trace := by
  have freed := freeSecret_adds world pages
  rw [promptFree]
  split_ifs
  · exact freed.cons data
  · exact freed

theorem promptUnref_adds
    (pages : Frees kinds (world.prompts id).secret)
    (data : kinds (.loginDataFreed id)) :
    Adds kinds world.trace (promptUnref world id).trace := by
  rw [promptUnref]
  split_ifs
  · refine promptFree_adds (world.setPrompt id _) ?_ data
    rw [World.setPrompt_self]
    exact pages
  · exact .refl _

/-! ## Messages -/

theorem interaction_trace (subject : Subject) :
    (interaction world subject).2.trace = world.trace := by
  rw [interaction]
  split
  · rfl
  · cases subject <;> rfl

theorem message_trace (subject : Subject) (call : UiCall) :
    (message world subject call).trace = world.trace :=
  interaction_trace world subject

theorem warning_trace (id : Nat) (text : String) :
    (warning world id text).trace = world.trace :=
  interaction_trace world (.pin id)

theorem hide_trace (id : Nat) :
    (hide world id).trace = world.trace := by
  rw [hide]
  split
  · rfl
  · split_ifs <;> rfl

theorem close_chooser_trace (chooser : Nat) :
    (close world (.chooser chooser)).trace = world.trace := by
  rw [close]
  split
  · rfl
  · dsimp only
    split_ifs <;> rfl

theorem close_pin_adds
    (pages : Frees kinds (world.prompts id).secret)
    (data : kinds (.loginDataFreed id)) :
    Adds kinds world.trace (close world (.pin id)).trace := by
  rw [close]
  split
  · exact .refl _
  · dsimp only
    split_ifs
    · exact promptUnref_adds
        { post world _ .close with interactions := _ } pages data
    · exact promptUnref_adds { world with interactions := _ } pages data

/-! ## Answers -/

theorem retire_adds
    (pages : Frees kinds (world.prompts id).secret)
    (data : kinds (.loginDataFreed id)) :
    Adds kinds world.trace (retire world id).trace := by
  let stopped := world.setPrompt id (stopping (world.prompts id))
  have same : (stopped.prompts id).secret = (world.prompts id).secret := by
    rw [World.setPrompt_self]
    rfl
  have released : Adds kinds world.trace (promptUnref stopped id).trace :=
    promptUnref_adds stopped (by rwa [same]) data
  rw [retire]
  dsimp only
  split_ifs
  · exact released.trans (freeSecret_adds _ pages)
  · exact freeSecret_adds stopped pages

theorem shut_adds
    (pages : Frees kinds (world.prompts id).secret)
    (data : kinds (.loginDataFreed id)) :
    Adds kinds world.trace (shut world id).trace := by
  refine (retire_adds world pages data).trans (close_pin_adds _ ?_ data)
  rw [retire, World.setPrompt_self]
  exact frees_none

theorem callDone_adds
    {outcome : CertificatePinOutcome} {abandon : Bool}
    (pages : Frees kinds (world.prompts id).secret)
    (abandoned : kinds (.abandoned id)) (data : kinds (.loginDataFreed id)) :
    Adds kinds (.done id outcome :: world.trace)
      (callDone world id outcome abandon).trace := by
  have answered : Adds kinds (.done id outcome :: world.trace)
      (world.emit (.done id outcome)).trace := .refl _
  rw [callDone]
  split_ifs
  · exact (answered.cons abandoned).trans (promptUnref_adds
      ((world.emit _).emit _) pages data)
  · exact answered.trans (promptUnref_adds (world.emit _) pages data)

theorem defer_trace
    (id : Nat) (outcome : CertificatePinOutcome) :
    (defer world id outcome).trace = world.trace := by
  rw [defer]
  dsimp only
  split_ifs
  · rfl
  · rfl
  · exact hide_trace _ id

end PortalCertificate.Core.PromptEvents
