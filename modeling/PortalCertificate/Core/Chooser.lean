import PortalCertificate.Core.Interactions

/-!
# Choosers

`chooser.c`.  The provider of the coordinator only posts messages, so no
reply arrives while it is called, and `provider_depth` is zero in every
reply.  A prompt or a chooser is never of the legacy context, whose replies
are made by another thread.
-/

namespace PortalCertificate.Core.Chooser

open PortalCertificate.Core.Coordinator
open PortalCertificate.Core.Interactions
open PortalCertificate.Tokens.Discovery

/-- `chooser_view`: what the dialog is shown. -/
def chooserView (chooser : Chooser) : XccChooserView where
  revision := chooser.revision
  candidates := chooser.choices
  tokensPresent := chooser.tokensPresent
  tokensReading := chooser.tokensReading

/-- `g_hash_table_lookup` in `choosers`. -/
def lookup (world : World) (id : Nat) : Option Chooser :=
  let chooser := world.choosers id
  if chooser.finished then none else some chooser

/-- `chooser_finish`. -/
def chooserFinish
    (world : World) (id : Nat) (chosen : Option CertificateCandidate) :
    World :=
  let chooser := world.choosers id
  if chooser.finished then
    world
  else
    let finished := world.setChooser id
      { chooser with
        finished := true, connected := false, cancelIdle := false }
    (close finished (.chooser id)).emit
      (.chooserDone id chosen chooser.error)

/-- `certificate_chooser_choose`. -/
def chooserChoose
    (world : World) (id revision candidate : Nat) : World :=
  match lookup world id with
  | none => world
  | some chooser =>
      if revision ≠ chooser.revision ∨ candidate = 0 then
        world
      else
        match chooser.choices.find? fun choice => choice.id = candidate with
        | none => world
        | some choice => chooserFinish world id (some choice.candidate)

/-- `certificate_chooser_cancel`. -/
def chooserCancel (world : World) (id : Nat) : World :=
  match lookup world id with
  | none => world
  | some _ => chooserFinish world id none

/-- `certificate_chooser_fail`. -/
def chooserFail (world : World) (id : Nat) (error : XccErrorCode) : World :=
  match lookup world id with
  | none => world
  | some chooser =>
      chooserFinish (world.setChooser id { chooser with error }) id none

/-- `on_cancelled_idle`. -/
def onCancelledIdle (world : World) (id : Nat) : World :=
  chooserFinish
    (world.setChooser id { world.choosers id with cancelIdle := false }) id
    none

/-- `on_cancelled`. -/
def onCancelled (chooser : Chooser) : Chooser :=
  { chooser with cancelIdle := true }

/-- The rows for these candidates; a row keeps its number. -/
def numberRows
    (previous : List Choice) (next : Nat) :
    List CertificateCandidate → List Choice × Nat
  | [] => ([], next)
  | candidate :: rest =>
      match previous.find? fun choice =>
          certificateCandidateSame choice.candidate candidate with
      | some choice =>
          let (rows, last) := numberRows previous next rest
          (⟨choice.id, candidate⟩ :: rows, last)
      | none =>
          let (rows, last) := numberRows previous (next + 1) rest
          (⟨next + 1, candidate⟩ :: rows, last)

/-- The rows are numbered anew, under the next revision. -/
def replaceCandidates
    (chooser : Chooser) (candidates : List CertificateCandidate)
    (tokensPresent : Bool) : Chooser :=
  let (choices, next) :=
    numberRows chooser.choices chooser.nextCandidateId candidates
  { chooser with
    choices, nextCandidateId := next, revision := chooser.revision + 1
    tokensPresent }

/-- `certificate_chooser_update`. -/
def chooserUpdate
    (world : World) (id : Nat) (candidates : List CertificateCandidate)
    (tokensPresent : Bool) : World :=
  let chooser := world.choosers id
  if chooser.finished then
    world
  else
    let updated :=
      replaceCandidates { chooser with tokensReading := false } candidates
        tokensPresent
    Interactions.message (world.setChooser id updated) (.chooser id)
      (.chooserUpdate (chooserView updated))

/-- `certificate_chooser_set_tokens_reading`. -/
def chooserSetTokensReading
    (world : World) (id : Nat) (reading : Bool) : World :=
  let chooser := world.choosers id
  if chooser.finished || chooser.tokensReading = reading then
    world
  else
    let updated :=
      { chooser with
        tokensReading := reading, revision := chooser.revision + 1 }
    Interactions.message (world.setChooser id updated) (.chooser id)
      (.chooserUpdate (chooserView updated))

/-- `certificate_chooser_show` of a provider that is there. -/
def chooserShow
    (world : World) (cancellable : Option Nat)
    (candidates : List CertificateCandidate) (tokensPresent : Bool) :
    World :=
  let id := world.nextChooser
  let chooser :=
    replaceCandidates
      { Chooser.absent with finished := false, cancellable } candidates
      tokensPresent
  let connected :=
    if world.isCancelled cancellable then
      onCancelled chooser
    else
      { chooser with connected := cancellable.isSome }
  let made :=
    { world with nextChooser := id + 1 }.setChooser id connected
  Interactions.message made (.chooser id) (.chooserShow (chooserView connected))

end PortalCertificate.Core.Chooser
