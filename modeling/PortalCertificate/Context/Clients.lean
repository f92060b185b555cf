import PortalCertificate.Context.Silence

/-!
# What stays so for a client

What a client knows of its requests and sessions stays so, whatever step the
context takes: what they are for, and that a session has ended.  A request
of a session that has ended does not recover.
-/

namespace PortalCertificate.Context.Clients

open PortalCertificate.Context.Accounts
open PortalCertificate.Context.Callbacks
open PortalCertificate.Context.Completion
open PortalCertificate.Context.Fencing
open PortalCertificate.Context.Grants
open PortalCertificate.Context.Lasting
open PortalCertificate.Context.Machine
open PortalCertificate.Context.Moves
open PortalCertificate.Context.Requests
open PortalCertificate.Context.Sessions
open PortalCertificate.Context.Silence
open PortalCertificate.Context.Starts
open PortalCertificate.Context.Steps
open PortalCertificate.Core.Coordinator (XccErrorCode)
open PortalCertificate.Core.Principals
  (XccPrincipal XccSession XccSessionSpec)
open PortalCertificate.Core.Specs (XccAcquireSpec XccSignSpec)
open PortalCertificate.Library.Transition

variable {world next : World}

/-- What a move does not take back: who has asked for what, and what is
closed. -/
structure Onward (world next : World) : Prop where
  requests : world.nextRequest ≤ next.nextRequest
  sessions : world.nextSession ≤ next.nextSession
  asked : ∀ id < world.nextRequest,
    (next.requests id).toAsked = (world.requests id).toAsked
  owner : ∀ session < world.nextSession,
    (next.sessions session).ownerGeneration =
      (world.sessions session).ownerGeneration
  closed : ∀ session < world.nextSession,
    (world.sessions session).closed = true →
      (next.sessions session).closed = true
  spent : ∀ id < world.nextRequest, ∀ session < world.nextSession,
    (world.requests id).session = some session →
      (world.sessions session).closed = true → Spent world id →
        Spent next id

theorem Onward.refl (world : World) : Onward world world where
  requests := Nat.le_refl _
  sessions := Nat.le_refl _
  asked _ _ := rfl
  owner _ _ := rfl
  closed _ _ closed := closed
  spent _ _ _ _ _ _ spent := spent

theorem Onward.trans {last : World} (here : Onward world next)
    (there : Onward next last) : Onward world last where
  requests := here.requests.trans there.requests
  sessions := here.sessions.trans there.sessions
  asked id born :=
    (there.asked id (born.trans_le here.requests)).trans (here.asked id born)
  owner session known :=
    (there.owner session (known.trans_le here.sessions)).trans
      (here.owner session known)
  closed session known closed :=
    there.closed session (known.trans_le here.sessions)
      (here.closed session known closed)
  spent id born session known bound closed spent := by
    have asked := congrArg Asked.session (here.asked id born)
    exact there.spent id (born.trans_le here.requests) session
      (known.trans_le here.sessions) (asked.trans bound)
      (here.closed session known closed)
      (here.spent id born session known bound closed spent)

theorem onward_move (move : Move world next) (basic : Basic world) :
    Onward world next where
  requests := nextRequest_move move
  sessions := by
    rcases quiet_move move with quiet | ⟨request, made⟩ | settled
    · exact quiet.nextSession.ge
    · exact made.nextSession.ge
    · exact (stands_settled settled).known
  asked _ born := (lasting_move move basic.orderly born).asked
  owner session known := by
    rcases quiet_move move with quiet | ⟨request, made⟩ | settled
    · exact (quiet.sessions session).ownerGeneration
    · rw [made.sessions]
    · exact (stands_settled settled).owner session known
  closed session known closed := (ends_move move known closed).2
  spent _ _ session _ bound closed spent :=
    spent_move move basic (fun _ => ⟨session, bound, closed⟩) spent

theorem onward_moved (moved : Moved world next) (basic : Basic world) :
    Onward world next :=
  (@Composed.keeps _ _ (fun later => Basic later ∧ Onward world later)
    (fun _ _ move here =>
      ⟨basic_move move here.1,
        here.2.trans (onward_move move here.1)⟩)
    _ _ moved ⟨basic, .refl world⟩).2

/-- No step takes back what has been asked, or what is closed. -/
theorem onward_step {action : Action} (reachable : machine.Reachable world)
    (moves : step world action = some next) : Onward world next := by
  have basic := basic_of_reachable reachable
  exact onward_moved (step_moves basic moves) basic

/-! ## What a client asks for -/

/-- A client has got a request, and nobody is called back. -/
structure Requested
    (world next : World) (kind : XccResultKind) (session : Option Nat) :
    Prop where
  moves : ∃ action, step world action = some next
  told : ∀ id, told next.trace id = told world.trace id
  made : next.nextRequest = world.nextRequest + 1
  kind : (next.requests world.nextRequest).kind = kind
  session : (next.requests world.nextRequest).session = session

theorem toAsked_complete (world : World) (id other : Nat)
    (error : XccErrorCode) :
    ((xccRequestComplete world id error).requests other).toAsked =
      (world.requests other).toAsked := by
  cases answered : (world.requests id).answered with
  | true =>
      rw [xccRequestComplete, answered]
      rfl
  | false =>
      rw [xccRequestComplete_open answered]
      exact world.setRequest_field XccRequest.toAsked (by rfl) other

theorem toAsked_schedule (world : World) (asked : Asked)
    (principal : XccPrincipal) :
    ((schedule world asked principal).requests
      world.nextRequest).toAsked = asked := by
  let made : World :=
    { world.setRequest world.nextRequest (xccRequestNew asked principal) with
      nextRequest := world.nextRequest + 1 }
  have self : (made.requests world.nextRequest).toAsked = asked :=
    congrArg XccRequest.toAsked (World.setRequest_self ..)
  show ((xccRequestSchedule made world.nextRequest).requests _).toAsked = _
  rw [xccRequestSchedule]
  split_ifs
  · rw [toAsked_complete]
    exact (made.setRequest_field XccRequest.toAsked (by rfl) _).trans self
  · rw [requests_post]
    exact self

theorem requested_schedule {action : Action} {asked : Asked}
    {principal : XccPrincipal}
    (moves : step world action = some (schedule world asked principal)) :
    Requested world (schedule world asked principal) asked.kind
      asked.session where
  moves := ⟨action, moves⟩
  told := (schedule_asks asked principal).1
  made := (schedule_asks asked principal).2
  kind := congrArg Asked.kind (toAsked_schedule world asked principal)
  session := congrArg Asked.session (toAsked_schedule world asked principal)

/-- The call of an acquisition makes a request of its session. -/
theorem requested_acquire {session : Nat} (known : session < world.nextSession)
    (spec : Option XccAcquireSpec) :
    Requested world (acquireAsync world session spec) .acquire
      (some session) := by
  have moves : step world (.acquire session spec) =
      some (acquireAsync world session spec) := if_pos known
  exact requested_schedule moves

/-- The call of a signature makes a request of its session. -/
theorem requested_sign {session : Nat} (known : session < world.nextSession)
    (spec : Option XccSignSpec) (validParameters : Bool) :
    Requested world (signAsync world session spec validParameters) .sign
      (some session) := by
  have moves : step world (.sign session spec validParameters) =
      some (signAsync world session spec validParameters) := if_pos known
  exact requested_schedule moves

/-- The call for the capabilities makes a request without a session. -/
theorem requested_capabilities :
    Requested world (getCapabilitiesAsync world) .capabilities none := by
  have moves : step world .capabilities =
      some (getCapabilitiesAsync world) := rfl
  exact requested_schedule moves

/-! ## New sessions -/

theorem sessionNewRegister_new {spec : XccSessionSpec}
    (running : world.ui.stopping = false)
    (current : spec.ownerGeneration = world.generation) :
    world.nextSession < (sessionNewRegister world spec).nextSession ∧
      ((sessionNewRegister world spec).sessions
        world.nextSession).ownerGeneration = spec.ownerGeneration := by
  rw [sessionNewRegister, if_neg (by simp [running, current])]
  refine ⟨Nat.lt_succ_self _, ?_⟩
  exact congrArg XccSession.ownerGeneration (World.setSession_self ..)

theorem sessions_checkShutdown (world : World) :
    (xccContextCheckShutdown world).sessions = world.sessions ∧
      (xccContextCheckShutdown world).nextSession = world.nextSession := by
  rw [xccContextCheckShutdown]
  split_ifs <;> exact ⟨rfl, rfl⟩

/-- The coordinator runs a post that makes a session. -/
theorem registered_of_post {spec : XccSessionSpec}
    (moves : step world .post = some next)
    (head : world.posts.head? = some (.sessionNewRegister spec))
    (running : world.ui.stopping = false)
    (current : spec.ownerGeneration = world.generation) :
    world.nextSession < next.nextSession ∧
      (next.sessions world.nextSession).ownerGeneration =
        spec.ownerGeneration := by
  rw [step] at moves
  cases posts : world.posts with
  | nil =>
      rw [posts] at head
      cases head
  | cons post rest =>
      rw [posts] at head moves
      cases Option.some.inj head
      rcases coordinates_some moves with ⟨-, -, rfl⟩
      have made := @sessionNewRegister_new { world with posts := rest } spec
        running current
      rw [coordinatorPost, (sessions_checkShutdown _).1,
        (sessions_checkShutdown _).2]
      exact made

/-! ## What a client is told -/

/-- A client is about to be called back: its request has not been told of
before. -/
theorem untold_of_calling {id : Nat} (reachable : machine.Reachable world)
    (calling : world.desktop = .calling id) :
    id < world.nextRequest ∧ told world.trace id = 0 := by
  have located := (basic_of_reachable reachable).located
  have here : desk world.desktop id = 1 := by
    rw [calling, desk, if_pos rfl]
  have place := located.answered_of_desk here
  refine ⟨?_, place.2.2.2⟩
  by_contra unborn
  have fresh := (located.unborn id (Nat.le_of_not_lt unborn)).1
  rw [place.1] at fresh
  cases fresh

theorem told_completionCalls (world : World) (id other : Nat) :
    told (completionCalls world id).trace other =
      told world.trace other + (decide (id = other)).toNat := by
  rw [trace_completionCalls, told, List.countP_cons]
  congr 1
  by_cases same : id = other <;> simp [isDone, same]

/-- A request that is spent is not told of a success. -/
theorem error_of_spent {id : Nat} (reachable : machine.Reachable world)
    (calling : world.desktop = .calling id) (spent : Spent world id) :
    (world.requests id).result.error ≠ .ok := by
  have located := (basic_of_reachable reachable).located
  have here : desk world.desktop id = 1 := by
    rw [calling, desk, if_pos rfl]
  have place := located.answered_of_desk here
  cases spent with
  | idle idle =>
      have fresh := idle.unanswered
      rw [place.1] at fresh
      cases fresh
  | unwanted intent away =>
      rw [here] at away
      cases away
  | refused answered bad => exact bad
  | past told =>
      rw [place.2.2.2] at told
      cases told

end PortalCertificate.Context.Clients
