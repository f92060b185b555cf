import PortalCertificate.Core.Ui

/-!
# What prompts leave alone

Operations on prompts cancel nothing, and they know neither the choosers nor
how far the context has come.  Choosers change one of the choosers, and
nothing else of this.
-/

namespace PortalCertificate.Core.UiFrames

open PortalCertificate.Core.Chooser
open PortalCertificate.Core.Coordinator
open PortalCertificate.Core.Interactions
open PortalCertificate.Core.Pin
open PortalCertificate.Core.Secret
open PortalCertificate.Core.Ui

/-- What is not a matter of prompts. -/
structure Surroundings where
  cancelled : Nat → Bool
  choosers : Nat → Chooser
  nextChooser : Nat
  stopping : Bool
  shutdownPosted : Bool
  chooserAvailable : Bool

/-- What the functions on prompts leave alone. -/
def surroundings (world : World) : Surroundings where
  cancelled := world.cancelled
  choosers := world.choosers
  nextChooser := world.nextChooser
  stopping := world.stopping
  shutdownPosted := world.shutdownPosted
  chooserAvailable := world.chooserAvailable

variable (world : World) (id : Nat)

/-! ## Interactions -/

@[simp]
theorem surroundings_emit (event : Event) :
    surroundings (world.emit event) = surroundings world := rfl

@[simp]
theorem surroundings_setPrompt (prompt : PinPrompt) :
    surroundings (world.setPrompt id prompt) = surroundings world := rfl

@[simp]
theorem surroundings_freeSecret (secret : Option XccSecret) :
    surroundings (world.freeSecret secret) = surroundings world := by
  cases secret <;> rfl

@[simp]
theorem surroundings_promptFree :
    surroundings (promptFree world id) = surroundings world := by
  rw [promptFree]
  split_ifs <;> simp

@[simp]
theorem surroundings_promptUnref :
    surroundings (promptUnref world id) = surroundings world := by
  rw [promptUnref]
  split_ifs <;> simp

@[simp]
theorem surroundings_interaction (subject : Subject) :
    surroundings (interaction world subject).2 = surroundings world := by
  rw [interaction]
  cases find? world subject with
  | some found => rfl
  | none => cases subject <;> rfl

@[simp]
theorem surroundings_message (subject : Subject) (call : UiCall) :
    surroundings (message world subject call) = surroundings world :=
  surroundings_interaction world subject

@[simp]
theorem surroundings_warning (text : String) :
    surroundings (warning world id text) = surroundings world :=
  surroundings_interaction world (.pin id)

@[simp]
theorem surroundings_hide :
    surroundings (hide world id) = surroundings world := by
  rw [hide]
  cases find? world (.pin id) with
  | none => rfl
  | some found =>
      dsimp only
      split_ifs <;> rfl

@[simp]
theorem surroundings_close (subject : Subject) :
    surroundings (close world subject) = surroundings world := by
  rw [close]
  cases find? world subject with
  | none => rfl
  | some found =>
      cases subject with
      | chooser chooser =>
          dsimp only
          split_ifs <;> rfl
      | pin prompt =>
          dsimp only
          rw [surroundings_promptUnref]
          split_ifs <;> rfl

/-! ## Answers to prompts -/

@[simp]
theorem surroundings_setBusy (busy : Bool) :
    surroundings (setBusy world id busy) = surroundings world := by
  rw [setBusy, pinUpdate, surroundings_message, surroundings_setPrompt]

@[simp]
theorem surroundings_defer (outcome : CertificatePinOutcome) :
    surroundings (defer world id outcome) = surroundings world := by
  rw [defer]
  dsimp only
  split_ifs <;> simp

@[simp]
theorem surroundings_retire :
    surroundings (retire world id) = surroundings world := by
  rw [retire]
  dsimp only
  split_ifs <;> simp

@[simp]
theorem surroundings_shut :
    surroundings (shut world id) = surroundings world := by
  rw [shut, surroundings_close, surroundings_retire]

@[simp]
theorem surroundings_callDone
    (outcome : CertificatePinOutcome) (abandon : Bool) :
    surroundings (callDone world id outcome abandon) =
      surroundings world := by
  rw [callDone]
  split_ifs <;> simp

section Queue

variable {next : World → World}
  (same : ∀ world, surroundings (next world) = surroundings world)

include same

theorem surroundings_answerThen (outcome : CertificatePinOutcome) :
    surroundings (answerThen next world id outcome) =
      surroundings world := by
  rw [answerThen]
  split_ifs
  · rfl
  · exact surroundings_defer world id outcome
  · rw [surroundings_callDone]
    split_ifs
    · rw [same]
      exact surroundings_shut world id
    · exact surroundings_shut world id

theorem surroundings_showThen :
    surroundings (showThen next world id) = surroundings world := by
  rw [showThen]
  split_ifs
  · exact surroundings_answerThen world id same _
  · exact surroundings_message world _ _

theorem surroundings_startThen :
    surroundings (startThen next world id) = surroundings world := by
  rw [startThen]
  split_ifs
  · exact surroundings_answerThen _ id same _
  · rfl
  · exact surroundings_showThen _ id same

end Queue

theorem surroundings_startNext (queue : List Nat) :
    ∀ world, surroundings (startNext queue world) = surroundings world := by
  induction queue with
  | nil => exact fun _ => rfl
  | cons head rest ih =>
      intro world
      exact surroundings_startThen { world with pinQueue := rest } head ih

@[simp]
theorem surroundings_answer (outcome : CertificatePinOutcome) :
    surroundings (answer world id outcome) = surroundings world :=
  surroundings_answerThen world id (surroundings_startNext _) outcome

@[simp]
theorem surroundings_promptShow :
    surroundings (promptShow world id) = surroundings world :=
  surroundings_showThen world id (surroundings_startNext _)

@[simp]
theorem surroundings_promptStart :
    surroundings (promptStart world id) = surroundings world :=
  surroundings_startThen world id (surroundings_startNext _)

/-! ## Attempts -/

@[simp]
theorem surroundings_attempt :
    surroundings (attempt world id) = surroundings world := by
  rw [attempt]
  simp

@[simp]
theorem surroundings_submit :
    surroundings (submit world id) = surroundings world := by
  rw [submit]
  split_ifs <;> simp [askFinalTry, pinUpdate]

@[simp]
theorem surroundings_warningReply (accepted : Bool) :
    surroundings (warningReply world id accepted) = surroundings world := by
  rw [warningReply]
  split_ifs <;> simp

@[simp]
theorem surroundings_hold (secret : Option XccSecret) (length : Nat) :
    surroundings (hold world id secret length).2 = surroundings world := by
  rw [hold]
  dsimp only
  by_cases past : ((world.prompts id).finished ||
      (world.prompts id).loginInFlight) = true
  · rw [if_pos past]
    exact surroundings_freeSecret world secret
  · rw [if_neg past]
    cases secret with
    | none => simp [pinUpdate]
    | some page =>
        dsimp only
        split_ifs <;> simp [pinUpdate]

/-! ## Workers and logins -/

@[simp]
theorem surroundings_onRefreshDone :
    surroundings (onRefreshDone world id) = surroundings world := by
  rw [onRefreshDone]
  split_ifs <;> simp [endRefresh]

@[simp]
theorem surroundings_loginReturned
    (secret : Option XccSecret) (result : LoginResult) :
    surroundings (loginReturned world id secret result) =
      surroundings world := by
  rw [loginReturned]
  split_ifs <;> simp

@[simp]
theorem surroundings_loginFailed
    (error : Option CertificatePkcs11ErrorCode) :
    surroundings (loginFailed world id error) = surroundings world := by
  unfold loginFailed
  dsimp only
  cases error with
  | none => simp
  | some code =>
      cases code with
      | pinIncorrect =>
          dsimp only
          split_ifs <;> simp [retry, pinUpdate]
      | _ => simp

@[simp]
theorem surroundings_onLoginDone (result : LoginResult) :
    surroundings (onLoginDone world id result) = surroundings world := by
  have ended : surroundings (endLogin world id result) =
      surroundings world := rfl
  unfold onLoginDone
  dsimp only
  by_cases deferred : (world.prompts id).cancelDeferred = true
  · rw [if_pos deferred, surroundings_answer, ended]
  · rw [if_neg deferred]
    by_cases finished : (world.prompts id).finished = true
    · rw [if_pos finished, ended]
    · rw [if_neg finished]
      cases result with
      | ok => exact (surroundings_answer _ id _).trans ended
      | error error => exact (surroundings_loginFailed _ id error).trans ended

@[simp]
theorem surroundings_onLoginTimeout :
    surroundings (onLoginTimeout world id) = surroundings world := by
  rw [onLoginTimeout]
  split_ifs <;> simp

theorem surroundings_pinLoginFullKind (login : PinLogin) :
    surroundings (pinLoginFullKind world login) = surroundings world := by
  have made : surroundings (newPrompt world login) = surroundings world :=
    rfl
  rw [pinLoginFullKind]
  dsimp only
  split_ifs
  · exact made
  · rw [surroundings_promptStart, made]
  · rw [refuse]
    split_ifs <;> rfl

/-! ## Replies -/

theorem surroundings_submitReply
    (found : Interaction) (secret : Option XccSecret) :
    surroundings (submitReply world found id secret) =
      surroundings world := by
  unfold submitReply
  dsimp only
  generalize (!(world.prompts id).finished &&
    !(world.prompts id).cancelDeferred && !(world.prompts id).busy &&
    !(world.prompts id).loginInFlight && found.ready) = ready
  cases ready with
  | false => exact surroundings_freeSecret world secret
  | true =>
      rw [if_pos rfl]
      cases (world.prompts id).protectedPath with
      | true =>
          rw [if_pos rfl, surroundings_submit, surroundings_freeSecret]
      | false =>
          rw [if_neg Bool.false_ne_true]
          cases secret with
          | none => rfl
          | some page =>
              have held :=
                surroundings_hold world id (some page) page.length
              rcases hold world id (some page) page.length with ⟨kept, next⟩
              dsimp only at held ⊢
              split_ifs
              · rw [surroundings_submit, held]
              · exact held

theorem surroundings_promptReply (found : Interaction) (kind : ReplyKind) :
    surroundings (promptReply world found id kind) =
      surroundings world := by
  cases kind with
  | choose revision candidate => rfl
  | submit secret =>
      exact surroundings_submitReply world id found secret
  | warning warning accepted =>
      rw [promptReply]
      split_ifs <;> simp
  | cancel => exact surroundings_answer world id _
  | failed error => exact surroundings_answer world id _
  | ready =>
      rw [promptReply, readyReply]
      dsimp only
      split_ifs
      · exact surroundings_submit _ id
      · rfl
      · rfl

theorem surroundings_sendReply (reply : Reply) :
    surroundings (sendReply world reply) = surroundings world := by
  rw [sendReply]
  cases replyPage (Reply.numbered reply world.nextSecret) with
  | none =>
      split_ifs <;> rfl
  | some page =>
      split_ifs <;> rfl

/-! ## Choosers -/

/-- One chooser has changed. -/
def rechosen (world : World) (id : Nat) (chooser : Chooser) :
    Surroundings :=
  { surroundings world with
    choosers := Function.update world.choosers id chooser }

theorem surroundings_setChooser (chooser : Chooser) :
    surroundings (world.setChooser id chooser) =
      rechosen world id chooser := rfl

theorem surroundings_update
    (candidates : List Tokens.Discovery.CertificateCandidate)
    (tokensPresent : Bool) (showing : (world.choosers id).finished = false) :
    surroundings (chooserUpdate world id candidates tokensPresent) =
      rechosen world id
        (replaceCandidates
          { world.choosers id with tokensReading := false } candidates
          tokensPresent) := by
  rw [chooserUpdate, if_neg (by rw [showing]; exact Bool.false_ne_true)]
  rw [surroundings_message, surroundings_setChooser]

/-- The rows of a chooser that is made. -/
def firstRows
    (candidates : List Tokens.Discovery.CertificateCandidate) :
    List Choice :=
  (numberRows Chooser.absent.choices Chooser.absent.nextCandidateId
    candidates).1

theorem surroundings_show (cancellable : Option Nat)
    (candidates : List Tokens.Discovery.CertificateCandidate)
    (tokensPresent : Bool) :
    ∃ chooser : Chooser, chooser.finished = false ∧
      chooser.cancellable = cancellable ∧
      chooser.choices = firstRows candidates ∧
      surroundings
          (chooserShow world cancellable candidates tokensPresent) =
        { rechosen world world.nextChooser chooser with
          nextChooser := world.nextChooser + 1 } := by
  rw [chooserShow]
  dsimp only
  rw [surroundings_message]
  split_ifs
  · exact ⟨_, rfl, rfl, rfl, rfl⟩
  · exact ⟨_, rfl, rfl, rfl, rfl⟩

/-- The rows and the request of a chooser stay. -/
structure SameChooser (before after : Chooser) : Prop where
  choices : after.choices = before.choices
  finished : after.finished = before.finished
  cancellable : after.cancellable = before.cancellable

theorem SameChooser.refl (chooser : Chooser) : SameChooser chooser chooser :=
  ⟨rfl, rfl, rfl⟩

theorem sameChooser_update {chooser : Chooser}
    (same : SameChooser (world.choosers id) chooser) (other : Nat) :
    SameChooser (world.choosers other)
      (Function.update world.choosers id chooser other) := by
  by_cases here : other = id
  · rw [here, Function.update_self]
    exact same
  · rw [Function.update_of_ne here]
    exact .refl _

/-- A note about the tokens changes no row. -/
theorem surroundings_reading (reading : Bool) :
    ∃ chooser, SameChooser (world.choosers id) chooser ∧
      surroundings (chooserSetTokensReading world id reading) =
        rechosen world id chooser := by
  rw [chooserSetTokensReading]
  split_ifs
  · refine ⟨world.choosers id, .refl _, ?_⟩
    rw [rechosen, Function.update_eq_self]
    rfl
  · refine ⟨{ world.choosers id with
      tokensReading := reading
      revision := (world.choosers id).revision + 1 }, ⟨rfl, rfl, rfl⟩, ?_⟩
    rw [surroundings_message, surroundings_setChooser]

/-! ## The end of a chooser -/

/-- A chooser has been open, and it calls back. -/
structure Finishes
    (before after : World) (id : Nat)
    (chosen : Option Tokens.Discovery.CertificateCandidate)
    (error : XccErrorCode) : Prop where
  showing : (before.choosers id).finished = false
  calls : after.trace.head? = some (.chooserDone id chosen error)
  last : ∃ chooser, chooser.finished = true ∧
    surroundings after = rechosen before id chooser

theorem finishes_of_open
    (chosen : Option Tokens.Discovery.CertificateCandidate)
    (showing : (world.choosers id).finished = false) :
    Finishes world (chooserFinish world id chosen) id chosen
      (world.choosers id).error := by
  rw [chooserFinish, if_neg (by rw [showing]; exact Bool.false_ne_true)]
  refine ⟨showing, rfl, { world.choosers id with
    finished := true, connected := false, cancelIdle := false }, rfl, ?_⟩
  rw [surroundings_emit, surroundings_close, surroundings_setChooser]

/-- A change of a chooser that stays open, before it ends. -/
theorem Finishes.after_change {chooser : Chooser} {after : World}
    {chosen : Option Tokens.Discovery.CertificateCandidate}
    {error : XccErrorCode}
    (showing : (world.choosers id).finished = false)
    (finishes :
      Finishes (world.setChooser id chooser) after id chosen error) :
    Finishes world after id chosen error := by
  rcases finishes with ⟨-, calls, last, ended, same⟩
  refine ⟨showing, calls, last, ended, same.trans ?_⟩
  show rechosen (world.setChooser id chooser) id last = _
  rw [rechosen, rechosen]
  congr 1
  exact Function.update_idem ..

/-- What a reply or the source of a cancellation does to a chooser. -/
inductive Concludes
    (before after : World) (id : Nat)
    (fair : Tokens.Discovery.CertificateCandidate → Prop) : Prop where
  | aside (same : surroundings after = surroundings before)
  | finished (chosen : Option Tokens.Discovery.CertificateCandidate)
      (error : XccErrorCode)
      (finishes : Finishes before after id chosen error)
      (fair : ∀ candidate ∈ chosen, fair candidate)

theorem fair_none
    {fair : Tokens.Discovery.CertificateCandidate → Prop} :
    ∀ candidate ∈ (none : Option Tokens.Discovery.CertificateCandidate),
      fair candidate :=
  fun candidate here => absurd here (Option.not_mem_none candidate)

theorem setChooser_self (chooser : Chooser) :
    (world.setChooser id chooser).choosers id = chooser :=
  Function.update_self ..

/-- A row of the view that a reply names. -/
def NamesRow
    (chooser : Chooser) (kind : ReplyKind)
    (candidate : Tokens.Discovery.CertificateCandidate) : Prop :=
  ∃ row ∈ chooser.choices, kind = .choose chooser.revision row.id ∧
    row.candidate = candidate

theorem lookup_some {chooser : Chooser}
    (found : lookup world id = some chooser) :
    chooser = world.choosers id ∧ (world.choosers id).finished = false := by
  rw [lookup] at found
  split_ifs at found with finished
  cases found
  exact ⟨rfl, Bool.eq_false_iff.mpr finished⟩

theorem concludes_choose (revision candidate : Nat) :
    Concludes world (chooserChoose world id revision candidate) id
      (NamesRow (world.choosers id) (.choose revision candidate)) := by
  rw [chooserChoose]
  cases found : lookup world id with
  | none => exact .aside rfl
  | some chooser =>
      rcases lookup_some world id found with ⟨rfl, showing⟩
      dsimp only
      split_ifs with stale
      · exact .aside rfl
      · rw [not_or, not_not] at stale
        cases row : (world.choosers id).choices.find? fun choice =>
            choice.id = candidate with
        | none => exact .aside rfl
        | some choice =>
            refine .finished _ _ (finishes_of_open world id _ showing) ?_
            intro chosen here
            cases here
            refine ⟨choice, List.mem_of_find?_eq_some row, ?_, rfl⟩
            have same : choice.id = candidate := by
              simpa using List.find?_some row
            rw [same, stale.1]

theorem concludes_cancel
    {fair : Tokens.Discovery.CertificateCandidate → Prop} :
    Concludes world (chooserCancel world id) id fair := by
  rw [chooserCancel]
  cases found : lookup world id with
  | none => exact .aside rfl
  | some chooser =>
      rcases lookup_some world id found with ⟨rfl, showing⟩
      exact .finished _ _ (finishes_of_open world id _ showing) fair_none

theorem concludes_fail (error : XccErrorCode)
    {fair : Tokens.Discovery.CertificateCandidate → Prop} :
    Concludes world (chooserFail world id error) id fair := by
  rw [chooserFail]
  cases found : lookup world id with
  | none => exact .aside rfl
  | some chooser =>
      rcases lookup_some world id found with ⟨rfl, showing⟩
      refine .finished _ _ (.after_change world id showing
        (finishes_of_open _ id none ?_))
        fair_none
      rw [setChooser_self]
      exact showing

/-- A reply ends a chooser with a row of its view, or without one. -/
theorem concludes_reply (kind : ReplyKind) :
    Concludes world (chooserReply world id kind) id
      (NamesRow (world.choosers id) kind) := by
  cases kind with
  | choose revision candidate => exact concludes_choose world id _ _
  | submit secret => exact .aside (surroundings_freeSecret world secret)
  | cancel => exact concludes_cancel world id
  | failed error => exact concludes_fail world id _
  | warning warning accepted => exact .aside rfl
  | ready => exact .aside rfl

/-- The source of a cancellation ends a chooser without a row. -/
theorem concludes_idle
    (showing : (world.choosers id).finished = false)
    {fair : Tokens.Discovery.CertificateCandidate → Prop} :
    Concludes world (Chooser.onCancelledIdle world id) id fair := by
  refine .finished _ _ (.after_change world id showing
    (finishes_of_open _ id none ?_)) fair_none
  rw [setChooser_self]
  exact showing

/-- The source of a chooser that has ended. -/
theorem idle_finished (ended : (world.choosers id).finished = true) :
    surroundings (Chooser.onCancelledIdle world id) =
      rechosen world id { world.choosers id with cancelIdle := false } := by
  rw [Chooser.onCancelledIdle, chooserFinish, if_pos]
  · rfl
  · rw [setChooser_self]
    exact ended

/-! ## Cancellation -/

/-- Cancelling changes no row. -/
theorem sameChooser_cancel (cancellable chooser : Nat) :
    SameChooser (world.choosers chooser)
      ((cancel world cancellable).choosers chooser) := by
  rw [cancel]
  split_ifs
  · exact .refl _
  · dsimp only
    split_ifs
    · exact ⟨rfl, rfl, rfl⟩
    · exact .refl _

theorem cancelled_cancel (cancellable : Nat) :
    (cancel world cancellable).cancelled =
      Function.update world.cancelled cancellable true := by
  rw [cancel]
  split_ifs with before
  · rw [← before, Function.update_eq_self]
  · rfl

end PortalCertificate.Core.UiFrames
