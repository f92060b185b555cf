import PortalCertificate.Core.PromptLife

/-!
# Attempts

A PIN reaches C_Login only through an attempt, and too many attempts lock a
token.  `Careful` says what one dispatch can do about attempts, and `Sparing`
what holds of all attempts of a run and of the pages they were typed on.
-/

namespace PortalCertificate.Core.PinAttempts

open PortalCertificate.Core.Coordinator
open PortalCertificate.Core.Pin
open PortalCertificate.Core.PinLedger
open PortalCertificate.Core.PromptCourse
open PortalCertificate.Core.PromptDispatch
open PortalCertificate.Core.PromptFits
open PortalCertificate.Core.PromptLife
open PortalCertificate.Core.PromptMoves
open PortalCertificate.Core.PromptReplies
open PortalCertificate.Core.PromptRuns
open PortalCertificate.Core.PromptSteps
open PortalCertificate.Core.PromptViews
open PortalCertificate.Core.Ui
open PortalCertificate.Library.Der (Octets)
open PortalCertificate.Library.Trace

/-! ## Statements -/

/-- The dispatch of a live reply has tried this PIN. -/
structure Tried
    (world : World) (action : Action) (next : World) (id : Nat)
    (pin : Option Octets) : Prop where
  replied : ∃ index reply, action = .receive index ∧
    world.inbox[index]? = some reply ∧ Live world reply id pin ∧
      (finalTry world (world.prompts id) = true →
        (world.prompts id).protectedPath = true →
          (world.prompts id).warningPending = true ∧
            ∃ found, named world reply = some found ∧
              reply.kind = .warning found.warningId true)
  once : ∃ before, next.trace = .attempted id pin :: before ∧
    Adds NoAttempt world.trace before

/-- A dispatch makes no attempt, or one that a live reply asks for. -/
def Careful (world : World) (action : Action) (next : World) : Prop :=
  Adds NoAttempt world.trace next.trace ∨
    ∃ id pin, Tried world action next id pin

/--
No login is tried more often than it may be, every PIN that is passed on has a
fitting size, and every submitted secret is freed just once or still held in
one place.
-/
structure Sparing (world : World) : Prop where
  few : ∀ id, attempts (history id world.trace) ≤ pinMaxAttempts
  once : ∀ id, (world.prompts id).protectedPath = true →
    attempts (history id world.trace) ≤ 1
  pins : ∀ id pin, .attempted id pin ∈ world.trace →
    PinFits (world.prompts id).protectedPath pin
  submitted : ∀ secret, world.trace.count (.submitted secret) =
    if secret < world.nextSecret then 1 else 0
  consumed : ∀ secret, world.trace.count (.secretFreed secret) +
      (whereabouts world none).count secret =
    world.trace.count (.submitted secret)

/-! ## One dispatch -/

variable {frame : Frame}

/-- Only the answer to a warning makes the last try of a reader. -/
theorem Live.warned
    {world : World} {reply : Reply} {id : Nat} {pin : Option Octets}
    (live : Live world reply id pin)
    (last : finalTry world (world.prompts id) = true)
    (path : (world.prompts id).protectedPath = true) :
    (world.prompts id).warningPending = true ∧
      ∃ found, named world reply = some found ∧
        reply.kind = .warning found.warningId true := by
  rcases live.named with ⟨found, lookup, -, triggers⟩
  rw [last] at triggers
  generalize kind : reply.kind = given at triggers
  cases triggers with
  | typed typed => rw [path] at typed; cases typed
  | pushed secret path ready safe => cases safe
  | readied path first safe => cases safe
  | accepted path pending => exact ⟨pending, found, lookup, rfl⟩

theorem Between.careful
    (between : Between frame) {action : Action} {next : World}
    (moves : step frame.world action = some next) :
    Careful frame.world action next := by
  rcases PromptDispatch.Between.step between moves with quietly | tries
  · exact .inl quietly.quiet
  · rcases tries with
      ⟨index, reply, id, pin, taken, waiting, live, attempts⟩
    exact .inr ⟨id, pin,
      ⟨index, reply, taken, waiting, live, Live.warned live⟩,
      attempts.trace⟩

/-! ## All attempts -/

section Courses

variable
  {login : PinLogin} {protectedPath : Bool} {id : Nat} {phase : Phase}
  {past : List Event}

theorem Course.pinFits
    (course : Course login protectedPath id phase past)
    {pin : Option Octets} (tried : .attempted id pin ∈ past) :
    PinFits protectedPath pin := by
  induction course with
  | requested | begun => simp at tried
  | started before ih | refreshStarted before ih | refreshReturned before ih
  | held before typed ih | loginReturned before ih
  | loginRefreshed before ih =>
      exact ih ((List.mem_cons.mp tried).resolve_left Event.noConfusion)
  | refreshEnded before ih | shown before ih | landed before ih
  | retried before typed few ih | answering before ready ih => exact ih tried
  | attempted before ready fits ih =>
      rcases List.mem_cons.mp tried with same | tried
      · cases same
        exact fits
      · exact ih tried
  | done before ih =>
      rcases List.mem_append.mp tried with ended | tried
      · rcases mem_doneEvents ended with same | same <;> cases same
      · exact ih tried
  | freed before ih =>
      rcases List.mem_append.mp tried with ended | tried
      · rw [freeEvents] at ended
        split_ifs at ended
        · cases List.mem_singleton.mp ended
        · cases ended
      · exact ih tried

/-- In every phase there have been few attempts. -/
theorem Phase.Allows.few
    {count : Nat} (allows : phase.Allows protectedPath count) :
    count ≤ pinMaxAttempts ∧ (protectedPath = true → count ≤ 1) := by
  cases phase with
  | queued | deciding | refreshing | refreshed =>
      rw [show count = 0 from allows]
      exact ⟨Nat.zero_le _, fun _ => Nat.zero_le _⟩
  | waiting | holding =>
      exact ⟨allows.1.le, fun path => (allows.2 path).le.trans zero_le_one⟩
  | _ => exact allows

end Courses

theorem attempts_refused
    (login : PinLogin) (id : Nat) (outcome : CertificatePinOutcome) :
    attempts (freeEvents login id ++ [.done id outcome, .requested id]) =
      0 := by
  rw [freeEvents]
  split_ifs <;> rfl

/-- A prompt makes three attempts at most, and one on a protected path. -/
theorem Coupled.few
    (coupled : Coupled frame) (id : Nat) :
    attempts (history id frame.world.trace) ≤ pinMaxAttempts ∧
      ((frame.world.prompts id).protectedPath = true →
        attempts (history id frame.world.trace) ≤ 1) := by
  have lived := (coupled.fits id).lived
  cases phase : frame.phases id <;> rw [phase] at lived
  case unborn =>
    rw [lived.2]
    exact ⟨Nat.zero_le _, fun _ => Nat.zero_le _⟩
  case refused =>
    rcases lived with ⟨-, login, past⟩
    rw [past, attempts_refused]
    exact ⟨Nat.zero_le _, fun _ => Nat.zero_le _⟩
  all_goals exact Phase.Allows.few (Course.allows lived)

theorem Coupled.pinFits
    (coupled : Coupled frame) {id : Nat} {pin : Option Octets}
    (tried : .attempted id pin ∈ frame.world.trace) :
    PinFits (frame.world.prompts id).protectedPath pin := by
  have lived := (coupled.fits id).lived
  have inside : .attempted id pin ∈ history id frame.world.trace :=
    (mem_history (.attempted id pin) (decide_eq_true rfl)).mpr tried
  cases phase : frame.phases id <;> rw [phase] at lived
  case unborn =>
    rw [lived.2] at inside
    cases inside
  case refused =>
    rcases lived with ⟨-, login, past⟩
    have none := attempts_refused login id .noDisplay
    rw [← past, attempts, List.countP_eq_zero] at none
    exact absurd rfl (none _ inside)
  all_goals exact Course.pinFits lived inside

/-! ## Reachable states -/

theorem Arrived.sparing (arrived : Arrived frame) :
    Sparing frame.world := by
  have coupled := arrived.between.coupled
  have ledger := PinLedger.Arrived.ledger arrived
  constructor
  · exact fun id => (Coupled.few coupled id).1
  · exact fun id => (Coupled.few coupled id).2
  · exact fun id pin => Coupled.pinFits coupled
  · exact ledger.pages.numbered
  · rw [← arrived.between.hand]
    exact ledger.pages.consumed

/-- In every reachable state, attempts have been spared and what the next
dispatch may attempt has been asked for. -/
theorem careful_of_reachable
    {world : World} (reachable : machine.Reachable world) :
    Sparing world ∧ ∀ action next, step world action = some next →
      Careful world action next := by
  rcases reachable_arrived reachable with ⟨frame, rfl, arrived⟩
  exact ⟨Arrived.sparing arrived, fun action next =>
    Between.careful arrived.between⟩

/-- A reader on its last try waits for the warning to be accepted. -/
theorem careful_last_try :
    ∃ world next, Sparing world ∧ Careful world (.receive 0) next ∧
      .attempted 0 none ∉ world.trace ∧
      .attempted 0 none ∈ next.trace := by
  let start := World.start true true 0 fun _ =>
    ⟨true, ⟨false, true, false⟩⟩
  let actions : List Action :=
    [.login ⟨0, false, true, true, none, false⟩, .send ⟨1, .ready⟩,
      .receive 0, .send ⟨1, .warning 1 true⟩]
  have outcome : (machine.run start actions).any (fun world =>
      (step world (.receive 0)).any fun next =>
        .attempted 0 none ∉ world.trace ∧
          .attempted 0 none ∈ next.trace) = true := by decide +kernel
  rcases (Option.any_eq_true ..).mp outcome with ⟨world, ran, taken⟩
  rcases (Option.any_eq_true ..).mp taken with ⟨next, moves, facts⟩
  have reached : machine.Reachable start := .initial ⟨_, _, _, _, rfl⟩
  have careful := careful_of_reachable (reached.run ran)
  exact ⟨world, next, careful.1, careful.2 _ _ moves,
    of_decide_eq_true facts⟩

end PortalCertificate.Core.PinAttempts
