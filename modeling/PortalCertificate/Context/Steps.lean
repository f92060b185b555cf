import PortalCertificate.Context.Callbacks
import PortalCertificate.Core.RowIdentities

/-!
# Steps are made of moves

Every action of a context is composed of moves, so that what moves keep holds
of every context that can be reached.
-/

namespace PortalCertificate.Context.Steps

open PortalCertificate.Broker.Operations (OperationError onOperationDone)
open PortalCertificate.Context.Accounts
open PortalCertificate.Context.Acquire
open PortalCertificate.Context.Callbacks
open PortalCertificate.Context.Completion
open PortalCertificate.Context.Floors
open PortalCertificate.Context.Machine
open PortalCertificate.Context.Moves
open PortalCertificate.Context.Nudges
open PortalCertificate.Context.Requests
open PortalCertificate.Context.Sessions
open PortalCertificate.Context.Starts
open PortalCertificate.Core.Coordinator (XccErrorCode Reply)
open PortalCertificate.Core.Principals
  (sizeofXccPrincipal sizeofXccSessionSpec xccAbiVersion)
open PortalCertificate.Core.RowIdentities (exampleToken exampleCandidate)
open PortalCertificate.Core.Specs (XccAcquireSpec sizeofXccAcquireSpec)
open PortalCertificate.Core.UiFrames
open PortalCertificate.Library.Transition
open PortalCertificate.Tokens.Discovery
open PortalCertificate.Tokens.Watcher

variable {world next : World} {id : Nat}

/-! ## The main loop -/

theorem moved_check : Moved world (xccContextCheckShutdown world) := by
  by_cases ready : shutdownReady world = true
  · exact Moved.one (.shut ready)
  · rw [xccContextCheckShutdown, if_neg ready]

theorem moved_runPost {post : Post} {rest : List Post} (basic : Basic world)
    (running : world.ui.shutdownPosted = false)
    (posts : world.posts = post :: rest) :
    Moved world (runPost { world with posts := rest } post) := by
  have opened (plain : Post.plain post = true) :
      Moved world { world with posts := rest } :=
    Moved.one (.opened plain posts)
  cases post with
  | start id => exact moved_start basic posts
  | cancel id reason =>
      exact (opened rfl).trans
        (Nudged.moved (nudged_touched (touched_cancel id reason)))
  | rollbackAcquisition id => exact Moved.one (.rolledBack posts)
  | completionAck id => exact Moved.one (.acknowledged posts)
  | generation value => exact Moved.one (.regenerated running posts)
  | shutdownStart =>
      exact (opened rfl).trans (Nudged.moved (nudged_shutdownStart running))
  | sessionNewRegister spec =>
      refine (opened rfl).trans ?_
      show Moved _ (sessionNewRegister { world with posts := rest } spec)
      by_cases refused : (world.ui.stopping ||
          spec.ownerGeneration ≠ world.generation) = true
      · rw [sessionNewRegister]
        rw [if_pos refused]
      · rw [Bool.or_eq_true, not_or] at refused
        refine Moved.one (.registered spec
          (Bool.eq_false_iff.mpr refused.1) ?_)
        simpa using refused.2
  | principalCheck session principal =>
      exact (opened rfl).trans
        (Nudged.moved (nudged_checkPrincipal session principal))
  | sessionCall session reason =>
      exact (opened rfl).trans
        (Nudged.moved (@nudged_sessionCall { world with posts := rest }
          running session reason))

theorem moved_coordinatorPost {post : Post} {rest : List Post}
    (basic : Basic world) (running : world.ui.shutdownPosted = false)
    (posts : world.posts = post :: rest) :
    Moved world (coordinatorPost { world with posts := rest } post) :=
  (moved_runPost basic running posts).trans moved_check

/-- A request that a worker or an operation has been handed. -/
theorem answerable_of_awaits {kind : XccResultKind} (basic : Basic world)
    (awaits : awaits world id kind = true) :
    Answerable world id ∧ (world.requests id).kind ≠ .acquire ∧
      (world.requests id).working = true := by
  simp only [Machine.awaits, Bool.and_eq_true, Bool.not_eq_true',
    decide_eq_true_eq] at awaits
  rcases awaits with ⟨⟨working, unanswered⟩, -⟩
  have works := basic.orderly.works id working
  have active : id ∈ world.active := by
    rcases works.2 with answered | active
    · exact absurd (unanswered.symm.trans answered) Bool.false_ne_true
    · exact active
  refine ⟨⟨unanswered, active, ?_, ?_⟩, works.1, working⟩
  · rw [Bool.eq_false_iff]
    exact fun running => works.1 (basic.orderly.enumerating id running).kind
  · rw [← Option.not_isSome_iff_eq_none, Option.isSome_iff_exists]
    rintro ⟨chooser, choosing⟩
    exact works.1 (basic.orderly.choosing id chooser choosing).1.kind

theorem moved_operationDone (basic : Basic world)
    (awaits : awaits world id .sign = true)
    (outcome : Except OperationError Library.Der.Octets) :
    Moved world (operationDone world id outcome) := by
  rcases answerable_of_awaits basic awaits with ⟨answerable, kind, working⟩
  cases outcome with
  | error error =>
      exact Moved.one (.answered answerable fun ok =>
        absurd ok (onOperationDone_bad error))
  | ok value =>
      have wrote : Touched world (world.setRequest id
          { world.requests id with signature := some value }) :=
        .write { Alike.refl (world.requests id) with }
      have steady := Touched.steady wrote
      have same := steady.requests id
      have asked : ((world.setRequest id
          { world.requests id with signature := some value }).requests
            id).kind = (world.requests id).kind :=
        congrArg Asked.kind same.asked
      refine (Nudged.moved (nudged_touched wrote)).trans (Moved.one
        (.answered ⟨?_, answerable.active, ?_, ?_⟩ fun _ => ⟨?_, ?_⟩))
      · exact same.answered.trans answerable.unanswered
      · exact (wrote.requests id).enumerating.trans answerable.landed
      · exact same.chooser.trans answerable.chooser
      · exact asked ▸ kind
      · exact same.working.trans working

/-! ## The UI -/

variable {ui : Core.Coordinator.World}

theorem aside_of_surroundings (running : world.ui.shutdownPosted = false)
    (same : surroundings ui = surroundings world.ui) :
    UiAside world.ui ui :=
  UiAside.of_surroundings same fun posted => by
    rw [running] at posted
    cases posted

theorem moved_aside (aside : UiAside world.ui ui) :
    Moved world { world with ui } :=
  Nudged.moved (nudged_touched (.ofAside aside))

theorem concludes_of_surroundings
    {before earlier after : Core.Coordinator.World}
    {chooser : Nat} {fair : CertificateCandidate → Prop}
    (concludes : Concludes before after chooser fair)
    (same : surroundings before = surroundings earlier) :
    Concludes earlier after chooser fair := by
  have choosers : before.choosers = earlier.choosers :=
    congrArg Surroundings.choosers same
  cases concludes with
  | aside told => exact .aside (told.trans same)
  | finished chosen error finishes fair =>
      refine .finished chosen error ⟨?_, finishes.calls, ?_⟩ fair
      · rw [← choosers]
        exact finishes.showing
      · rcases finishes.last with ⟨last, ended, told⟩
        refine ⟨last, ended, told.trans ?_⟩
        rw [rechosen, rechosen, same, choosers]

/-- A chooser ends, and its request is called back. -/
theorem moved_finishes {chooser : Nat} {reply : Option Reply}
    {action : Core.Ui.Action} {chosen : Option CertificateCandidate}
    {error : XccErrorCode} (basic : Basic world)
    (running : world.ui.shutdownPosted = false)
    (mays : mayEnd world.ui action = some (chooser, reply))
    (finishes : Finishes world.ui ui chooser chosen error)
    (fair : ∀ candidate ∈ chosen, ∃ given,
      reply = some given ∧ ∃ row ∈ (world.ui.choosers chooser).choices,
        given.kind = .choose (world.ui.choosers chooser).revision row.id ∧
          row.candidate = candidate) :
    Moved world (afterUi world action ui) := by
  rcases finishes.last with ⟨last, past, same⟩
  have choosers : ui.choosers =
      Function.update world.ui.choosers chooser last :=
    congrArg Surroundings.choosers same
  have finished : (ui.choosers chooser).finished = true := by
    rw [choosers, Function.update_self]
    exact past
  have ended : ended world.ui ui chooser = some (chosen, error) := by
    rw [Machine.ended, finishes.showing, finished, finishes.calls]
    rfl
  rcases basic.orderly.owned chooser finishes.showing with ⟨id, choosing⟩
  have seated := (basic.orderly.choosing id chooser choosing).2.2.2
  have owner : owner (world.ui.choosers chooser) = id := by
    have mine : (world.ui.choosers chooser).cancellable =
        some (cancellable id) := congrArg Seat.cancellable seated
    rw [Machine.owner, mine]
    exact Nat.mul_div_cancel_left id (by decide)
  have ends : Ends world ui id chooser :=
    { choosing
      ended := finished
      others := fun other apart => by
        rw [choosers, Function.update_of_ne apart]
      nextChooser := congrArg Surroundings.nextChooser same
      cancelled := congrArg Surroundings.cancelled same
      stopping := congrArg Surroundings.stopping same
      shutdownPosted := congrArg Surroundings.shutdownPosted same
      available := congrArg Surroundings.chooserAvailable same
      running }
  unfold afterUi
  dsimp only
  rw [mays]
  dsimp only
  rw [ended]
  dsimp only
  rw [owner]
  exact moved_concluded basic ends fair

theorem moved_concludes {chooser : Nat} {reply : Option Reply}
    {action : Core.Ui.Action} {fair : CertificateCandidate → Prop}
    (basic : Basic world) (running : world.ui.shutdownPosted = false)
    (mays : mayEnd world.ui action = some (chooser, reply))
    (concludes : Concludes world.ui ui chooser fair)
    (just : ∀ candidate, fair candidate → ∃ given,
      reply = some given ∧ ∃ row ∈ (world.ui.choosers chooser).choices,
        given.kind = .choose (world.ui.choosers chooser).revision row.id ∧
          row.candidate = candidate) :
    Moved world (afterUi world action ui) := by
  cases concludes with
  | finished chosen error finishes fair =>
      exact moved_finishes basic running mays finishes
        fun candidate member => just candidate (fair candidate member)
  | aside same =>
      have choosers : ui.choosers = world.ui.choosers :=
        congrArg Surroundings.choosers same
      have goesOn : ended world.ui ui chooser = none := by
        rw [Machine.ended, choosers, if_pos]
        cases (world.ui.choosers chooser).finished <;> rfl
      unfold afterUi
      dsimp only
      rw [mays]
      dsimp only
      rw [goesOn]
      exact moved_aside (aside_of_surroundings running same)

theorem moved_quiet {action : Core.Ui.Action}
    (none : mayEnd world.ui action = none)
    (aside : UiAside world.ui ui) :
    Moved world (afterUi world action ui) := by
  unfold afterUi
  rw [none]
  exact moved_aside aside

theorem aside_sendReply (reply : Reply) :
    UiAside world.ui (Core.Ui.sendReply world.ui reply) := by
  refine UiAside.of_surroundings (surroundings_sendReply _ reply) ?_
  intro _ empty
  have freed (ui : Core.Coordinator.World)
      (secret : Option Core.Secret.XccSecret) :
      (ui.freeSecret secret).pending = ui.pending := by
    cases secret <;> rfl
  rw [Core.Ui.sendReply]
  cases Core.Ui.replyPage (Core.Ui.Reply.numbered reply
    world.ui.nextSecret) with
  | none =>
      dsimp only
      split_ifs
      · exact empty
      · exact empty
  | some page =>
      dsimp only
      split_ifs
      · exact (freed _ _).trans empty
      · exact empty

theorem moved_receive {index : Nat} (basic : Basic world)
    (running : world.ui.shutdownPosted = false)
    (received : Core.Ui.receive world.ui index = some ui) :
    Moved world (afterUi world (.receive index) ui) := by
  rw [Core.Ui.receive, Option.map_eq_some_iff] at received
  rcases received with ⟨reply, queued, rfl⟩
  have before : surroundings
      ({ world.ui with inbox := world.ui.inbox.eraseIdx index }.emit
        (.replied reply)) = surroundings world.ui := rfl
  have names : Core.Ui.named
      ({ world.ui with inbox := world.ui.inbox.eraseIdx index }.emit
        (.replied reply)) reply = Core.Ui.named world.ui reply := rfl
  rw [Core.Ui.reply, names]
  cases found : Core.Ui.named world.ui reply with
  | none =>
      refine moved_quiet ?_ (aside_of_surroundings running
        ((surroundings_freeSecret _ _).trans before))
      rw [mayEnd, queued, Option.bind_some, found]
      rfl
  | some interaction =>
      rcases interaction with ⟨id, subject, shown, ready, warning⟩
      cases subject with
      | pin prompt =>
          refine moved_quiet ?_ (aside_of_surroundings running
            ((surroundings_promptReply _ _ _ _).trans before))
          rw [mayEnd, queued, Option.bind_some, found]
          rfl
      | chooser chooser =>
          refine @moved_concludes _ _ _ (some reply) _ _ basic running ?_
            (concludes_of_surroundings
              (concludes_reply _ chooser reply.kind) before) ?_
          · rw [mayEnd, queued, Option.bind_some, found]
            rfl
          · rintro candidate ⟨row, member, kind, same⟩
            exact ⟨reply, rfl, row, member, kind, same⟩

/-- The source of a chooser that has been cancelled. -/
theorem moved_chooserIdle {chooser : Nat} (basic : Basic world)
    (running : world.ui.shutdownPosted = false) :
    Moved world (afterUi world (.chooserCancelledIdle chooser)
      (Core.Chooser.onCancelledIdle world.ui chooser)) := by
  cases past : (world.ui.choosers chooser).finished with
  | false =>
      exact @moved_concludes _ _ _ none _ (fun _ => False) basic running rfl
        (concludes_idle _ chooser past)
        fun _ => False.elim
  | true =>
      have same := idle_finished world.ui chooser past
      have rows : SameChooser (world.ui.choosers chooser)
          { world.ui.choosers chooser with cancelIdle := false } :=
        ⟨rfl, rfl, rfl⟩
      have aside : UiAside world.ui
          (Core.Chooser.onCancelledIdle world.ui chooser) :=
        UiAside.of_rechosen rows same fun posted => by
          rw [running] at posted
          cases posted
      have goesOn : ended world.ui
          (Core.Chooser.onCancelledIdle world.ui chooser) chooser = none := by
        rw [Machine.ended, past]
        rfl
      unfold afterUi
      dsimp only [mayEnd]
      rw [goesOn]
      exact moved_aside aside

theorem moved_ui {action : Core.Ui.Action} (basic : Basic world)
    (moves : uiStep world action = some next) : Moved world next := by
  rw [uiStep] at moves
  split_ifs at moves with allowed
  rw [Option.map_eq_some_iff] at moves
  rcases moves with ⟨ui, steps, rfl⟩
  rw [Bool.and_eq_true, Bool.not_eq_true', Bool.and_eq_false_iff] at allowed
  rcases allowed with ⟨alone, past⟩
  have runs (coordinates : uiCoordinates action = true) :
      world.ui.shutdownPosted = false := by
    rcases past with idle | running
    · exact absurd (idle.symm.trans coordinates) Bool.false_ne_true
    · exact running
  -- What prompts do is not a matter of choosers.
  have prompts (coordinates : uiCoordinates action = true)
      (same : surroundings ui = surroundings world.ui) :
      Moved world { world with ui } :=
    moved_aside (aside_of_surroundings (runs coordinates) same)
  cases action with
  | chooser | updateChooser | readTokens | stop | shutdown => cases alone
  | login login =>
      cases steps
      exact prompts rfl (surroundings_pinLoginFullKind _ login)
  | cancel cancellable =>
      cases steps
      exact moved_aside (UiAside.cancel _ cancellable)
  | send reply =>
      cases steps
      exact moved_aside (aside_sendReply reply)
  | receive index => exact moved_receive basic (runs rfl) steps
  | refreshReturned prompt flags =>
      rcases Core.Ui.step_refreshReturned steps with ⟨-, rfl⟩
      exact prompts rfl rfl
  | refreshDone prompt =>
      rcases Core.Ui.step_refreshDone steps with ⟨-, rfl⟩
      exact prompts rfl (surroundings_onRefreshDone _ prompt)
  | loginReturned prompt result =>
      rcases Core.Ui.step_loginReturned steps with ⟨_, -, rfl⟩
      exact prompts rfl (surroundings_loginReturned _ prompt _ result)
  | loginRefreshed prompt flags =>
      rcases Core.Ui.step_loginRefreshed steps with ⟨_, -, rfl⟩
      exact prompts rfl rfl
  | loginDone prompt =>
      rcases Core.Ui.step_loginDone steps with ⟨_, -, rfl⟩
      exact prompts rfl (surroundings_onLoginDone _ prompt _)
  | taskFinalized prompt =>
      rw [Core.Ui.step] at steps
      split_ifs at steps
      cases steps
      exact prompts rfl (surroundings_promptUnref _ prompt)
  | loginTimeout prompt =>
      rw [Core.Ui.step] at steps
      split_ifs at steps
      cases steps
      exact prompts rfl (surroundings_onLoginTimeout _ prompt)
  | cancelledIdle prompt =>
      rw [Core.Ui.step] at steps
      split_ifs at steps
      cases steps
      refine prompts rfl ?_
      rw [Core.Pin.onCancelledIdle, surroundings_promptUnref,
        surroundings_answer]
      rfl
  | chooserCancelledIdle chooser =>
      rw [Core.Ui.step] at steps
      split_ifs at steps
      cases steps
      exact moved_chooserIdle basic (runs rfl)
  | deliver =>
      rw [Core.Ui.step, Core.Ui.deliver] at steps
      cases pending : world.ui.pending with
      | nil =>
          rw [pending] at steps
          cases steps
      | cons message rest =>
          rw [pending] at steps
          cases steps
          refine Moved.one (.uiTold ?_ ?_)
          · refine UiAside.of_surroundings rfl fun _ empty => ?_
            rw [pending] at empty
            cases empty
          · rw [pending]
            exact List.cons_ne_nil _ _

/-! ## Every action -/

theorem moved_cancel (id : Nat) (reason : XccCancelReason) :
    Moved world (xccRequestCancel world id reason) := by
  rw [xccRequestCancel]
  split_ifs
  · exact .refl
  · exact (Nudged.moved (nudged_touched (touched_intend id reason))).trans
      (moved_post rfl)

theorem moved_outside (now : Int) (held : Nat) (more : List WatchEvent)
    (watchStopped shutdownStarted : Bool) :
    Moved world
      { world with
        now, held, watchStopped, shutdownStarted
        events := world.events ++ more } :=
  Moved.one (.outside now held more watchStopped shutdownStarted)

/-- A step of the coordinator is taken before the shutdown only, and where it
is enabled. -/
theorem coordinates_some {enabled : Bool}
    {result : World} (taken : coordinates world enabled result = some next) :
    world.ui.shutdownPosted = false ∧ enabled = true ∧ result = next := by
  rw [coordinates] at taken
  split_ifs at taken with runs
  rw [Bool.and_eq_true, Bool.not_eq_true'] at runs
  exact ⟨runs.1, runs.2, Option.some.inj taken⟩

/-- Every step is made of moves. -/
theorem step_moves {action : Action} (basic : Basic world)
    (moves : step world action = some next) : Moved world next := by
  have outside (now : Int) (held : Nat)
      (watchStopped shutdownStarted : Bool) :
      Moved world
        { world with now, held, watchStopped, shutdownStarted } := by
    have moved := @moved_outside world now held [] watchStopped
      shutdownStarted
    rwa [List.append_nil] at moved
  cases action with
  | acquire session spec =>
      rw [step] at moves
      split_ifs at moves
      cases moves
      exact moved_schedule _ _ fun _ => rfl
  | sign session spec validParameters =>
      rw [step] at moves
      split_ifs at moves
      cases moves
      exact moved_schedule _ _ fun _ => rfl
  | capabilities =>
      cases moves
      exact moved_schedule _ _ fun other => absurd rfl other
  | cancel request reason =>
      rw [step] at moves
      split_ifs at moves
      cases moves
      exact moved_cancel request reason
  | sessionNew spec =>
      rw [step] at moves
      split_ifs at moves
      cases moves
      exact moved_post rfl
  | checkPrincipal session principal =>
      rw [step] at moves
      split_ifs at moves
      cases moves
      exact moved_post rfl
  | sessionClose session =>
      rw [step] at moves
      split_ifs at moves
      cases moves
      exact moved_post rfl
  | sessionInvalidate session reason =>
      rw [step] at moves
      split_ifs at moves
      cases moves
      exact moved_post rfl
  | setOwnerGeneration value =>
      cases moves
      exact moved_post rfl
  | shutdown =>
      cases moves
      rw [xccContextShutdownAsync]
      split_ifs
      · exact .refl
      · exact (outside world.now world.held world.watchStopped true).trans
          (moved_post rfl)
  | tick now =>
      rw [step] at moves
      split_ifs at moves
      cases moves
      exact outside now world.held world.watchStopped world.shutdownStarted
  | hold held =>
      cases moves
      exact outside world.now held world.watchStopped world.shutdownStarted
  | watchEmit event =>
      cases moves
      exact moved_outside world.now world.held [event] world.watchStopped
        world.shutdownStarted
  | post =>
      rw [step] at moves
      split at moves
      · cases moves
      · rename_i post rest posts
        rcases coordinates_some moves with ⟨running, -, rfl⟩
        exact moved_coordinatorPost basic running posts
  | dispatchEvents =>
      rcases coordinates_some moves with ⟨running, -, rfl⟩
      exact Moved.one (.dispatched running)
  | enumerated request enumeration outcome tokensPresent realTime =>
      rcases coordinates_some moves with ⟨running, flying, rfl⟩
      exact moved_onEnumerated basic running
        (List.contains_iff_mem.mp flying) _ _ _
  | operationDone request outcome =>
      rcases coordinates_some moves with ⟨-, waits, rfl⟩
      exact moved_operationDone basic waits outcome
  | capabilitiesDone request =>
      rcases coordinates_some moves with ⟨-, waits, rfl⟩
      have ready := answerable_of_awaits basic waits
      exact Moved.one (.answered ready.1 fun _ => ready.2)
  | lifetimeExpired session =>
      rcases coordinates_some moves with ⟨running, -, rfl⟩
      exact Nudged.moved (nudged_lifetimeExpired running session)
  | watchStopped =>
      rcases coordinates_some moves with ⟨-, -, rfl⟩
      exact (outside world.now world.held true world.shutdownStarted).trans
        moved_check
  | shutdownPoll =>
      rcases coordinates_some moves with ⟨-, -, rfl⟩
      exact moved_check
  | ui action => exact moved_ui basic moves
  | deliver =>
      rw [step] at moves
      split at moves
      · rename_i delivery rest idle queue
        cases moves
        cases delivery with
        | completion id => exact Moved.one (.reads idle queue)
        | invalidated session reason =>
            exact Moved.one (.invalidationTold idle queue)
        | shutdownDelivered => exact Moved.one (.shutdownTold idle queue)
      · cases moves
  | proceed =>
      rw [step, proceed] at moves
      split at moves
      · cases moves
      · rename_i id delivering
        cases moves
        exact Moved.one (.settles delivering)
      · rename_i id calling
        cases moves
        exact Moved.one (.calls calling)

/-! ## Reachable contexts -/

theorem basic_start (ui : Core.Coordinator.World) (generation : Nat)
    (now : Int) (initial : Core.Ui.machine.initial ui) :
    Basic (.start ui generation now) := by
  rcases initial with ⟨pinAvailable, chooserAvailable, timeout, tokens, rfl⟩
  refine ⟨?_, ?_, ?_, ?_⟩
  · constructor <;> intros <;> simp_all [World.start, requestAbsent,
      xccRequestNew, desk, told, Core.Coordinator.World.start]
  · constructor <;> intros <;> simp_all [World.start, floor, standing,
      requestAbsent, xccRequestNew, Core.Coordinator.World.start, seat,
      Core.Coordinator.Chooser.absent]
  · intro _ id showing
    cases showing
  · intro id chosen pending
    cases pending

theorem basic_step {action : Action} (basic : Basic world)
    (moves : step world action = some next) : Basic next :=
  basic_moved (step_moves basic moves) basic

/-- A run is made of moves. -/
theorem moved_run {actions : List Action} (basic : Basic world)
    (run : machine.run world actions = some next) : Moved world next := by
  induction actions generalizing world with
  | nil =>
      cases Option.some.inj run
      exact .refl
  | cons action rest ih =>
      rw [System.run_cons, Option.bind_eq_some_iff] at run
      rcases run with ⟨between, moves, rest⟩
      have moved := step_moves basic moves
      exact moved.trans (ih (basic_moved moved basic) rest)

/-- What the other invariants rest on holds in every reachable state. -/
theorem basic_of_reachable (reachable : machine.Reachable world) :
    Basic world := by
  refine reachable.invariant ?_ ?_
  · rintro world ⟨ui, generation, now, initial, rfl⟩
    exact basic_start ui generation now initial
  · intro world action next _ basic moves
    exact basic_step basic moves

/-- What holds initially and is kept by moves always holds. -/
theorem invariant_of_moves {holds : World → Prop}
    (initially : ∀ ui generation now, Core.Ui.machine.initial ui →
      holds (.start ui generation now))
    (kept : ∀ world next, Basic world → holds world → Move world next →
      holds next)
    (reachable : machine.Reachable world) : holds world := by
  refine reachable.invariant ?_ ?_
  · rintro world ⟨ui, generation, now, initial, rfl⟩
    exact initially ui generation now initial
  · intro world action next before here moves
    have basic := basic_of_reachable before
    have both : Basic next ∧ holds next :=
      Composed.keeps (fun first second move here =>
        And.intro (basic_move move here.1)
          (kept first second here.1 here.2 move))
        (step_moves basic moves) ⟨basic, here⟩
    exact both.2

/-! ## Examples of runs -/

section Example

/-- A context with a chooser, in which nothing has happened. -/
def exampleStart : World :=
  .start (.start true true 0 fun _ => ⟨false, ⟨false, false, false⟩⟩)
    1 0

theorem exampleStart_reachable : machine.Reachable exampleStart :=
  .initial ⟨_, 1, 0, ⟨_, _, _, _, rfl⟩, rfl⟩

/-- The specification of an acquisition for client authentication. -/
def exampleSpec : XccAcquireSpec where
  structSize := sizeofXccAcquireSpec
  abiVersion := xccAbiVersion
  principal := ⟨sizeofXccPrincipal, xccAbiVersion, 1, some "app", 0, false⟩
  purpose := .clientAuth
  genericPurposePresent := false
  genericPurpose := false
  parentWindow := none
  activationToken := none
  reason := none
  lifetimePresent := false
  lifetimeSeconds := 0
  signPresent := false
  sign := false
  interactionPresent := false
  interactionForbidden := false
  issuersPresent := false
  issuers := none
  nIssuers := 0
  keyUsagePresent := false
  ekuOidsPresent := false
  keyAlgorithmsPresent := false
  keyUsage := none
  ekuOids := none
  keyAlgorithms := none
  tokenLabelPresent := false
  pivSlotPresent := false
  tokenLabel := none
  pivSlot := none

/-- A session, an acquisition of it, and a certificate that is found. -/
def exampleChoosing : List Action :=
  [.sessionNew
      ⟨⟨sizeofXccSessionSpec, xccAbiVersion, 1, some "app", 0, false⟩⟩,
    .post, .acquire 0 (some exampleSpec), .post,
    .enumerated 0 0 (.ok [exampleCandidate [1]]) true 0]

/-- The removal of a token. -/
def exampleRemoval : WatchEvent := ⟨⟨exampleToken, 0, 0⟩, false⟩

end Example

end PortalCertificate.Context.Steps
