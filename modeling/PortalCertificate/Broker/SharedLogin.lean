import PortalCertificate.Broker.DeviceBinding
import PortalCertificate.Broker.Sharing

/-!
# What holds of every shared login

Results about all runs of the broker of a session.  Every operation is
answered once, logins come one after another, the outcome of a login reaches
those that wanted it, and a login that was not wanted is undone.
-/

namespace PortalCertificate.Broker.SharedLogin

open PortalCertificate.Broker.Device hiding Event State
open PortalCertificate.Broker.DeviceBinding
  (exampleCandidate exampleOpen)
open PortalCertificate.Broker.Ledger
open PortalCertificate.Broker.Login
open PortalCertificate.Broker.Machine
open PortalCertificate.Broker.Operations
open PortalCertificate.Broker.Places
open PortalCertificate.Broker.Sharing
open PortalCertificate.Core.Coordinator (CertificatePinOutcome)
open PortalCertificate.Core.Principals (XccSession)
open PortalCertificate.Library.Trace
open PortalCertificate.Library.Transition

variable {world : World} {id interaction : Nat}
  {outcome : CertificatePinOutcome} {trace : List Event}

/-! ## A session for examples -/

section Example

/-- A session whose grant signs and decrypts. -/
def exampleSession : XccSession Grant where
  ownerGeneration := 1
  appId := "app"
  identityLevel := 0
  identitySeen := true
  closed := false
  rest :=
    { granted := true
      grantPending := false
      candidate := some (exampleCandidate [1])
      maySign := true
      mayDecrypt := true
      decryptCount := 0
      expiresAt := 60 }

/-- A signature of a SHA-256 digest is asked for. -/
def exampleSign : Action :=
  .perform false none (some "RSA_PKCS1_V1_5")
    (some [("hash", .string "SHA256")]) (List.replicate 32 0)

/-- Two operations; the first is cancelled while its login takes effect, and
the second, which comes too late, then gets a login of its own, for which
there is no display. -/
def exampleRun : List Action :=
  [exampleSign, exampleSign, .openThread 0 (exampleOpen 5),
    .openThread 1 (exampleOpen 5), .opened 0 true, .prompt 0 .attempt,
    .login 0 (exampleOpen 5), .endLogin 0 0 none, .cancel 0,
    .waiterCancelled 0, .opened 0 true, .prompt 0 .judge, .pinDone 0 .ok,
    .release (some 0), .released (some 0), .openThread 1 (exampleOpen 5),
    .opened 0 false]

theorem exampleStart_reachable :
    machine.Reachable (.start exampleSession 0) :=
  .initial ⟨_, _, rfl, rfl⟩

end Example

/-! ## Operations -/

/-- No task is under way, and no login. -/
structure Idle (world : World) : Prop where
  opens : world.opens = []
  opened : world.opened = []
  signs : world.signs = []
  signing : world.signing = none
  signed : world.signed = []
  login : world.loginInProgress = false

theorem answers_add_load (accounted : Accounted [] world) (id : Nat) :
    answers id world.trace + load world id =
      if id < world.nextOperation then 1 else 0 := by
  have placed := accounted.placed id
  have counted := accounted.answers id
  rw [List.count_nil, Nat.zero_add] at placed
  rw [placed, counted]
  by_cases known : id < world.nextOperation
  · cases (world.operations id).answered <;> simp [known]
  · simp [known]

theorem load_of_idle (shared : Shared [] none world) (idle : Idle world)
    (id : Nat) : load world id = 0 := by
  have waiting : world.loginWaiters = none := by
    simpa [idle.login] using shared.waiting
  simp [load, World.waiters, waiting, idle.opens, idle.opened, idle.signs,
    idle.signing, idle.signed]

/-- An operation is in one place until it is answered, and is answered once;
when nothing is under way, every operation has been answered. -/
theorem operations_answered (reachable : machine.Reachable world) :
    (∀ id, answers id world.trace + load world id =
      if id < world.nextOperation then 1 else 0) ∧
      (Idle world →
        ∀ id < world.nextOperation, answers id world.trace = 1) := by
  have counted := answers_add_load (accounted_of_reachable reachable)
  refine ⟨counted, fun idle id known => ?_⟩
  have answered := counted id
  rw [load_of_idle (shared_of_reachable reachable) idle, if_pos known]
    at answered
  exact answered

/-- Both operations are answered once. -/
theorem operations_answered_both :
    ∃ world, machine.run (.start exampleSession 0) exampleRun = some world ∧
      answers 0 world.trace = 1 ∧ answers 1 world.trace = 1 := by
  have run : ∃ world,
      machine.run (.start exampleSession 0) exampleRun = some world ∧
        Idle world ∧ world.nextOperation = 2 :=
    ⟨_, rfl, ⟨rfl, rfl, rfl, rfl, rfl, rfl⟩, rfl⟩
  rcases run with ⟨world, moved, idle, two⟩
  have answered :=
    (operations_answered (exampleStart_reachable.run moved)).2 idle
  rw [two] at answered
  exact ⟨world, moved, answered 0 (by decide), answered 1 (by decide)⟩

/-! ## One login after another -/

/-- A login begins when all earlier ones have been settled, and takes its
course once. -/
def Single : Event → List Event → Prop
  | .asked interaction _, before =>
      (∀ event ∈ before, about event ≠ some interaction) ∧
        ∀ earlier < interaction, .settled earlier ∈ before
  | .loggedIn interaction, before =>
      .loggedIn interaction ∉ before ∧
        ∀ outcome, .ended interaction outcome ∉ before
  | .ended interaction _, before =>
      ∀ outcome, .ended interaction outcome ∉ before
  | .settled interaction, before =>
      .settled interaction ∉ before ∧
        ∃ outcome, .ended interaction outcome ∈ before
  | _, _ => True

theorem single_of_proper {event : Event} (proper : Proper event trace) :
    Single event trace := by
  cases event
  case asked => exact proper
  case loggedIn => exact proper
  case ended => exact proper.1
  case settled =>
      rcases proper with ⟨once, outcome, ended, -⟩
      exact ⟨once, outcome, ended⟩
  all_goals trivial

/-- There is one login at a time, and one prompt. -/
theorem logins_single (reachable : machine.Reachable world) :
    Each Single world.trace ∧
      ∀ first second,
        (world.interactions first).conversation.finished = false →
          (world.interactions second).conversation.finished = false →
            first = second := by
  have shared := shared_of_reachable reachable
  refine ⟨shared.proper.imp fun _ _ _ => single_of_proper, ?_⟩
  intro first second here there
  have ⟨current, _⟩ := shared.of_talking here
  have ⟨other, _⟩ := shared.of_talking there
  exact Option.some.inj (current.symm.trans other)

/-- The second login begins after the first has been settled. -/
theorem logins_single_both :
    ∃ world, machine.run (.start exampleSession 0) exampleRun = some world ∧
      ∃ since before, world.trace = since ++ .asked 1 1 :: before ∧
        .settled 0 ∈ before := by
  have run : ∃ world,
      machine.run (.start exampleSession 0) exampleRun = some world ∧
        ∃ since before, world.trace = since ++ .asked 1 1 :: before :=
    ⟨_, rfl, [_, _, _, _], _, rfl⟩
  rcases run with ⟨world, moved, since, before, split⟩
  have single := (logins_single (exampleStart_reachable.run moved)).1
  exact ⟨world, moved, since, before, split,
    (single since _ before split).2 0 (by decide)⟩

/-! ## Who is told -/

/-- A login is withdrawn when everybody has left, and has no success then.
Its outcome goes to operations that waited for it in time; those that came
late open the device again. -/
def Served : Event → List Event → Prop
  | .joined interaction _ retries, before =>
      .settled interaction ∉ before ∧
        (.withdrawn interaction ∈ before ∨
            (∃ outcome, .ended interaction outcome ∈ before) →
          retries = true)
  | .withdrawn interaction, before =>
      ∀ id, Asked interaction id before → Answered id before
  | .ended interaction outcome, before =>
      outcome = .ok → .withdrawn interaction ∉ before
  | .told interaction id outcome, before =>
      .ended interaction outcome ∈ before ∧
        .withdrawn interaction ∉ before ∧
        Waits interaction id false before ∧ ¬Answered id before
  | .reopened interaction id, before =>
      .settled interaction ∈ before ∧ Waits interaction id true before ∧
        ¬Answered id before
  | _, _ => True

/-- Whoever waited in time for a login that has been withdrawn has been
answered. -/
theorem answered_of_withdrawn (each : Each Proper trace)
    (withdrawn : .withdrawn interaction ∈ trace)
    (waits : Waits interaction id false trace) : Answered id trace := by
  induction trace with
  | nil => cases withdrawn
  | cons event before ih =>
      rcases each_cons.mp each with ⟨proper, earlier⟩
      rcases waits with ⟨waits, settles⟩
      have inTime : .joined interaction id true ∉ before :=
        fun member => settles (List.mem_cons_of_mem _ member)
      rcases List.mem_cons.mp withdrawn with rfl | past
      · refine (proper.2 id ?_).cons
        rcases waits with asked | joined
        · exact .inl ((List.mem_cons.mp asked).resolve_left nofun)
        · exact .inr
            ⟨false, (List.mem_cons.mp joined).resolve_left nofun⟩
      · rcases waits with asked | joined
        · rcases List.mem_cons.mp asked with rfl | asked
          · exact absurd rfl (proper.1 _ past)
          · exact (ih earlier past ⟨.inl asked, inTime⟩).cons
        · rcases List.mem_cons.mp joined with rfl | joined
          · exact absurd (proper.2 (.inl past)) Bool.noConfusion
          · exact (ih earlier past ⟨.inr joined, inTime⟩).cons

theorem served_of_proper {event : Event} (each : Each Proper trace)
    (proper : Proper event trace) : Served event trace := by
  cases event
  case joined => exact proper
  case withdrawn => exact proper.2
  case ended => exact proper.2
  case told =>
      rcases proper with ⟨-, ended, waits, unanswered⟩
      refine ⟨ended, fun withdrawn => ?_, waits, unanswered⟩
      exact unanswered (answered_of_withdrawn each withdrawn waits)
  case reopened => exact proper
  all_goals trivial

/-- A shared login reaches those that wanted it, and no others. -/
theorem outcomes_served (reachable : machine.Reachable world) :
    Each Served world.trace :=
  (shared_of_reachable reachable).proper.imp fun _ _ => served_of_proper

/-- The operation that came too late opens the device again. -/
theorem outcomes_served_late :
    ∃ world, machine.run (.start exampleSession 0) exampleRun = some world ∧
      ∃ since before, world.trace = since ++ .reopened 0 1 :: before ∧
        .joined 0 1 true ∈ before ∧ ¬Answered 1 before := by
  have run : ∃ world,
      machine.run (.start exampleSession 0) exampleRun = some world ∧
        ∃ since before, world.trace = since ++ .reopened 0 1 :: before :=
    ⟨_, rfl, [_, _, _, _, _, _, _, _], _, rfl⟩
  rcases run with ⟨world, moved, since, before, split⟩
  have served := outcomes_served (exampleStart_reachable.run moved)
  exact ⟨world, moved, since, before, split,
    (served since _ before split).2⟩

/-! ## Logins that are not wanted -/

/-- If the login took effect and did not end well, the device has been
released since. -/
def Clean (interaction : Nat) (trace : List Event) : Prop :=
  ∀ outcome, outcome ≠ .ok → .ended interaction outcome ∈ trace →
    .loggedIn interaction ∈ trace → Undone interaction outcome trace

/-- A login that is not wanted is undone before anybody hears of it, and
before the next one. -/
def Undoes : Event → List Event → Prop
  | .released interaction, before =>
      ∃ outcome, outcome ≠ .ok ∧ .ended interaction outcome ∈ before
  | .told interaction _ _, before => Clean interaction before
  | .reopened interaction _, before => Clean interaction before
  | .asked interaction _, before =>
      ∀ earlier < interaction, Clean earlier before
  | _, _ => True

theorem ended_of_settled (each : Each Proper trace)
    (settled : .settled interaction ∈ trace) :
    ∃ outcome, .ended interaction outcome ∈ trace := by
  induction trace with
  | nil => cases settled
  | cons event before ih =>
      rcases each_cons.mp each with ⟨proper, earlier⟩
      rcases List.mem_cons.mp settled with rfl | settled
      · rcases proper with ⟨-, outcome, ended, -⟩
        exact ⟨outcome, List.mem_cons_of_mem _ ended⟩
      · rcases ih earlier settled with ⟨outcome, ended⟩
        exact ⟨outcome, List.mem_cons_of_mem _ ended⟩

/-- A login ends once. -/
theorem ended_unique {first second : CertificatePinOutcome}
    (each : Each Proper trace)
    (here : .ended interaction first ∈ trace)
    (there : .ended interaction second ∈ trace) : first = second := by
  induction trace with
  | nil => cases here
  | cons event before ih =>
      rcases each_cons.mp each with ⟨proper, earlier⟩
      rcases List.mem_cons.mp here with rfl | past
      · rcases List.mem_cons.mp there with same | past
        · cases same
          rfl
        · exact absurd past (proper.1 second)
      · rcases List.mem_cons.mp there with rfl | also
        · exact absurd past (proper.1 first)
        · exact ih earlier past also

theorem clean_of_settled (each : Each Proper trace)
    (settled : .settled interaction ∈ trace) : Clean interaction trace := by
  intro outcome unwanted ended loggedIn
  induction trace with
  | nil => cases settled
  | cons event before ih =>
      rcases each_cons.mp each with ⟨proper, earlier⟩
      rcases List.mem_cons.mp settled with rfl | past
      · rcases proper with ⟨-, other, first, undone⟩
        have ended := (List.mem_cons.mp ended).resolve_left nofun
        cases ended_unique earlier ended first
        exact (undone unwanted
          ((List.mem_cons.mp loggedIn).resolve_left nofun)).cons trivial
      · rcases ended_of_settled earlier past with ⟨other, first⟩
        rcases List.mem_cons.mp ended with rfl | ended
        · exact absurd first (proper.1 other)
        · rcases List.mem_cons.mp loggedIn with rfl | loggedIn
          · exact absurd first (proper.2 other)
          · exact (ih earlier past ended loggedIn).cons trivial

theorem undoes_of_proper {event : Event} (each : Each Proper trace)
    (proper : Proper event trace) : Undoes event trace := by
  cases event
  case released => exact proper
  case told => exact clean_of_settled each proper.1
  case reopened => exact clean_of_settled each proper.1
  case asked =>
      exact fun earlier older =>
        clean_of_settled each (proper.2 earlier older)
  all_goals trivial

/-- A login that took effect after it was not wanted any more is undone. -/
theorem logins_undone (reachable : machine.Reachable world) :
    Each Undoes world.trace :=
  (shared_of_reachable reachable).proper.imp fun _ _ => undoes_of_proper

/-- The login that was withdrawn is undone before the second begins. -/
theorem logins_undone_withdrawn :
    ∃ world, machine.run (.start exampleSession 0) exampleRun = some world ∧
      ∃ since before, world.trace = since ++ .asked 1 1 :: before ∧
        .loggedIn 0 ∈ before ∧ Undone 0 .cancelled before := by
  have run : ∃ world,
      machine.run (.start exampleSession 0) exampleRun = some world ∧
        ∃ since before, world.trace = since ++ .asked 1 1 :: before ∧
          .loggedIn 0 ∈ before ∧ .ended 0 .cancelled ∈ before :=
    ⟨_, rfl, [_, _, _, _], _, rfl, by decide, by decide⟩
  rcases run with ⟨world, moved, since, before, split, loggedIn, ended⟩
  have undone := logins_undone (exampleStart_reachable.run moved)
  exact ⟨world, moved, since, before, split, loggedIn,
    undone since _ before split 0 (by decide) _ nofun ended loggedIn⟩

end PortalCertificate.Broker.SharedLogin
