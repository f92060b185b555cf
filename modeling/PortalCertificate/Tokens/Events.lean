import PortalCertificate.Library.Transition
import PortalCertificate.Tokens.Watcher

/-!
# Presence events

Events are queued by any thread, and delivered by the thread of the watch
context.  The parts of a dispatch that hold no common lock are separate
steps, so events are queued between all of them.  The receiver of events is
set, and it does not iterate the main context.
-/

namespace PortalCertificate.Tokens.Events

open PortalCertificate.Library.Transition
open PortalCertificate.Tokens.Watcher

/-! ## The queue -/

/-- Where the thread of the watch context is.  A dispatch is made for the
source that runs, or it is called by itself. -/
inductive Coordinator where
  | idle
  | fired (source : Nat)
  | released (source : Nat)
  | entered (source : Option Nat)
  | delivering (source : Option Nat) (pending : List WatchEvent)
  | called (source : Option Nat) (pending : List WatchEvent)
  | finished (source : Nat)
  deriving DecidableEq, Repr

/-- The queue of events, the source for it, and the mark of a dispatch. -/
structure CertificateTokens where
  events : List WatchEvent
  eventSource : Option Nat
  dispatchingEvents : Bool
  deriving DecidableEq, Repr

/-- The sources of the watch context are numbered.  `emitted` and
`delivered` are the whole history. -/
structure World where
  tokens : CertificateTokens
  attached : List Nat
  nextSource : Nat
  coordinator : Coordinator
  emitted : List WatchEvent
  delivered : List WatchEvent
  deriving DecidableEq, Repr

/-- There are no events, and no source. -/
def initially : World where
  tokens := ⟨[], none, false⟩
  attached := []
  nextSource := 0
  coordinator := .idle
  emitted := []
  delivered := []

/-- What a thread or the main loop does next. -/
inductive Action where
  /-- Any thread, and also the receiver of an event. -/
  | watchEmit (event : WatchEvent)
  /-- The main context runs a source. -/
  | iterate (source : Nat)
  /-- A call of `certificate_tokens_dispatch_pending`. -/
  | dispatchPending
  /-- The next step of the coordinator. -/
  | proceed
  deriving DecidableEq, Repr

/-! ## Steps -/

/-- `watch_emit`. -/
def watchEmit (world : World) (event : WatchEvent) : World :=
  let world := { world with
    tokens := { world.tokens with events := world.tokens.events ++ [event] }
    emitted := world.emitted ++ [event] }
  match world.tokens.eventSource with
  | some _ => world
  | none =>
      { world with
        tokens := { world.tokens with eventSource := some world.nextSource }
        attached := world.attached ++ [world.nextSource]
        nextSource := world.nextSource + 1 }

/-- Where a dispatch goes back to. -/
def returned : Option Nat → Coordinator
  | none => .idle
  | some source => .finished source

/-- The beginning of `certificate_tokens_dispatch_pending`, which a dispatch
within a dispatch leaves again. -/
def enterDispatch (world : World) (source : Option Nat) : World :=
  if world.tokens.dispatchingEvents then
    { world with coordinator := returned source }
  else
    { world with
      tokens := { world.tokens with dispatchingEvents := true }
      coordinator := .entered source }

/-- The next step of the coordinator, if it has anything to do. -/
def proceed (world : World) : Option World :=
  match world.coordinator with
  | .idle => none
  | .fired source =>
      some { world with
        tokens := { world.tokens with eventSource := none }
        coordinator := .released source }
  | .released source => some (enterDispatch world (some source))
  | .entered source =>
      some { world with
        tokens := { world.tokens with events := [] }
        coordinator := .delivering source world.tokens.events }
  | .delivering source (event :: pending) =>
      some { world with
        delivered := world.delivered ++ [event]
        coordinator := .called source pending }
  | .delivering source [] =>
      some { world with
        tokens := { world.tokens with dispatchingEvents := false }
        coordinator := returned source }
  | .called source pending =>
      some { world with coordinator := .delivering source pending }
  | .finished source =>
      some { world with
        attached := world.attached.erase source
        coordinator := .idle }

/-- One action, where it may come. -/
def step (world : World) : Action → Option World
  | .watchEmit event => some (watchEmit world event)
  | .iterate source =>
      if world.coordinator = .idle ∧ source ∈ world.attached then
        some { world with coordinator := .fired source }
      else
        none
  | .dispatchPending =>
      match world.coordinator with
      | .idle => some (enterDispatch world none)
      -- A receiver that dispatches is inside of a dispatch.
      | .called .. =>
          if world.tokens.dispatchingEvents then some world else none
      | _ => none
  | .proceed => proceed world

/-- The queue of events, from the beginning. -/
def machine : System World Action where
  initial world := world = initially
  step := step

/-! ## Sources and the queue -/

/-- Events that a dispatch has detached and not delivered. -/
def Coordinator.pending : Coordinator → List WatchEvent
  | .delivering _ pending => pending
  | .called _ pending => pending
  | _ => []

/-- The source that runs and is no longer the source of the tokens. -/
def Coordinator.held : Coordinator → Option Nat
  | .idle => none
  | .fired _ => none
  | .released source => some source
  | .entered source => source
  | .delivering source _ => source
  | .called source _ => source
  | .finished source => some source

/-- The coordinator is in a dispatch. -/
def Coordinator.draining : Coordinator → Bool
  | .entered _ => true
  | .delivering .. => true
  | .called .. => true
  | _ => false

/-- A dispatch that has not detached the queue yet. -/
def Coordinator.detaches : Coordinator → Bool
  | .fired _ => true
  | .released _ => true
  | .entered _ => true
  | _ => false

@[simp]
theorem returned_pending (source : Option Nat) :
    (returned source).pending = [] := by
  cases source <;> rfl

@[simp]
theorem returned_held (source : Option Nat) :
    (returned source).held = source := by
  cases source <;> rfl

@[simp]
theorem returned_draining (source : Option Nat) :
    (returned source).draining = false := by
  cases source <;> rfl

/-- Every emitted event is delivered, being delivered or in the queue, and a
queue that is not empty has a source or a dispatch that will empty it. -/
structure Sourced (world : World) : Prop where
  history : world.delivered ++ world.coordinator.pending ++
    world.tokens.events = world.emitted
  guarded : world.tokens.dispatchingEvents = world.coordinator.draining
  attached : world.attached =
    world.coordinator.held.toList ++ world.tokens.eventSource.toList
  fired : ∀ source, world.coordinator = .fired source →
    world.tokens.eventSource = some source
  awake : world.tokens.events ≠ [] →
    world.tokens.eventSource = none → world.coordinator.detaches = true

theorem Sourced.initially : Sourced initially := by
  constructor <;> simp [Events.initially, Coordinator.pending,
    Coordinator.draining, Coordinator.held]

variable {world next : World}

theorem Sourced.watchEmit (sourced : Sourced world) (event : WatchEvent) :
    Sourced (watchEmit world event) := by
  have history : world.delivered ++ world.coordinator.pending ++
      (world.tokens.events ++ [event]) = world.emitted ++ [event] := by
    rw [← List.append_assoc, sourced.history]
  have attached := sourced.attached
  cases source : world.tokens.eventSource with
  | some found =>
      simp only [Events.watchEmit, source]
      constructor
      case history => exact history
      case guarded => exact sourced.guarded
      case attached => rw [attached, source]
      case fired =>
        intro other there
        exact source ▸ sourced.fired other there
      case awake => exact fun _ none => nomatch none
  | none =>
      simp only [Events.watchEmit, source]
      constructor
      case history => exact history
      case guarded => exact sourced.guarded
      case attached =>
        rw [attached, source]
        simp
      case fired =>
        intro other there
        have found := sourced.fired other there
        rw [source] at found
        cases found
      case awake => exact fun _ none => nomatch none

/-- The guard is not set when a dispatch is entered. -/
theorem Sourced.enterDispatch
    {source : Option Nat} (sourced : Sourced world)
    (outside : world.coordinator.draining = false)
    (nothing : world.coordinator.pending = [])
    (held : world.coordinator.held = source) :
    Sourced (enterDispatch world source) := by
  have closed := sourced.guarded.trans outside
  have history := sourced.history
  rw [nothing] at history
  rw [Events.enterDispatch, if_neg (by rw [closed]; exact Bool.false_ne_true)]
  constructor
  case history => exact history
  case guarded => rfl
  case attached =>
    rw [sourced.attached, held]
    rfl
  case fired => exact nofun
  case awake => exact fun _ _ => rfl

theorem Sourced.proceed
    (sourced : Sourced world) (moves : proceed world = some next) :
    Sourced next := by
  rcases sourced with ⟨history, guarded, attached, fired, awake⟩
  rw [Events.proceed] at moves
  cases coordinator : world.coordinator with
  | idle =>
      rw [coordinator] at moves
      cases moves
  | fired source =>
      rw [coordinator] at moves history guarded attached
      cases moves
      constructor
      case history => exact history
      case guarded => exact guarded
      case attached =>
        rw [fired source coordinator] at attached
        exact attached
      case fired => exact nofun
      case awake => exact fun _ _ => rfl
  | released source =>
      rw [coordinator] at moves
      cases moves
      apply Sourced.enterDispatch ⟨history, guarded, attached, fired, awake⟩
      all_goals rw [coordinator]; rfl
  | entered source =>
      rw [coordinator] at moves history guarded attached
      cases moves
      constructor
      case history =>
        show world.delivered ++ world.tokens.events ++ [] = world.emitted
        rw [← history]
        simp [Coordinator.pending]
      case guarded => exact guarded
      case attached => exact attached
      case fired => exact nofun
      case awake => exact fun some => absurd rfl some
  | delivering source pending =>
      rw [coordinator] at moves history guarded attached awake
      cases pending with
      | nil =>
          cases moves
          constructor
          case history => rwa [returned_pending]
          case guarded => rw [returned_draining]
          case attached => rwa [returned_held]
          case fired =>
            intro other there
            cases source <;> cases there
          case awake => exact fun some none => nomatch awake some none
      | cons event pending =>
          cases moves
          constructor
          case history =>
            rw [← history]
            simp [Coordinator.pending]
          case guarded => exact guarded
          case attached => exact attached
          case fired => exact nofun
          case awake => exact fun some none => nomatch awake some none
  | called source pending =>
      rw [coordinator] at moves history guarded attached awake
      cases moves
      constructor
      case history => exact history
      case guarded => exact guarded
      case attached => exact attached
      case fired => exact nofun
      case awake => exact fun some none => nomatch awake some none
  | finished source =>
      rw [coordinator] at moves history guarded attached awake
      cases moves
      constructor
      case history => exact history
      case guarded => exact guarded
      case attached =>
        rw [attached]
        simp [Coordinator.held]
      case fired => exact nofun
      case awake => exact fun some none => nomatch awake some none

/-- Every step keeps the events sourced. -/
theorem Sourced.step
    {action : Action} (sourced : Sourced world)
    (moves : step world action = some next) : Sourced next := by
  cases action with
  | watchEmit event =>
      cases moves
      exact sourced.watchEmit event
  | iterate source =>
      rw [Events.step] at moves
      split_ifs at moves with runs
      cases moves
      rcases sourced with ⟨history, guarded, attached, fired, awake⟩
      rw [runs.1] at history guarded attached awake
      have found : world.tokens.eventSource = some source := by
        have member := attached ▸ runs.2
        exact Option.mem_toList.mp member
      constructor
      case history => exact history
      case guarded => exact guarded
      case attached => exact attached
      case fired =>
        intro other there
        cases there
        exact found
      case awake =>
        intro _ none
        rw [found] at none
        cases none
  | dispatchPending =>
      rw [Events.step] at moves
      cases coordinator : world.coordinator with
      | idle =>
          rw [coordinator] at moves
          cases moves
          apply sourced.enterDispatch
          all_goals rw [coordinator]; rfl
      | called source pending =>
          rw [coordinator] at moves
          dsimp only at moves
          split_ifs at moves
          cases moves
          exact sourced
      | _ =>
          rw [coordinator] at moves
          cases moves
  | proceed => exact sourced.proceed moves

theorem sourced_of_reachable (reachable : machine.Reachable world) :
    Sourced world := by
  apply reachable.invariant
  · intro state start
    cases start
    exact .initially
  · intro state action next _ sourced moves
    exact sourced.step moves

/-! ## Dispatches -/

/-- A dispatch that has begun delivers the events before it, or will detach
them. -/
def Covers (before : List WatchEvent) (world : World) : Prop :=
  if world.coordinator.detaches then before <+: world.emitted
  else before <+: world.delivered ++ world.coordinator.pending

@[simp]
theorem returned_detaches (source : Option Nat) :
    (returned source).detaches = false := by
  cases source <;> rfl

theorem Sourced.delivered_prefix (sourced : Sourced world) :
    world.delivered ++ world.coordinator.pending <+: world.emitted :=
  ⟨world.tokens.events, sourced.history⟩

theorem Covers.emitted
    {before : List WatchEvent} (covers : Covers before world)
    (sourced : Sourced world) : before <+: world.emitted := by
  rw [Covers] at covers
  split_ifs at covers
  · exact covers
  · exact covers.trans sourced.delivered_prefix

theorem Covers.watchEmit
    {before : List WatchEvent} (covers : Covers before world)
    (event : WatchEvent) : Covers before (watchEmit world event) := by
  have same : (Events.watchEmit world event).coordinator =
        world.coordinator ∧
      (Events.watchEmit world event).delivered = world.delivered ∧
      (Events.watchEmit world event).emitted = world.emitted ++ [event] := by
    rw [Events.watchEmit]
    split <;> exact ⟨rfl, rfl, rfl⟩
  rw [Covers, same.1, same.2.1, same.2.2]
  rw [Covers] at covers
  split_ifs at covers ⊢
  · exact covers.trans (List.prefix_append _ _)
  · exact covers

theorem Covers.proceed
    {before : List WatchEvent} (sourced : Sourced world)
    (covers : Covers before world) (moves : proceed world = some next) :
    Covers before next := by
  have guarded := sourced.guarded
  have history := sourced.history
  rw [Events.proceed] at moves
  rw [Covers] at covers
  cases coordinator : world.coordinator with
  | idle =>
      rw [coordinator] at moves
      cases moves
  | fired source =>
      rw [coordinator] at moves covers
      cases moves
      exact covers
  | released source =>
      rw [coordinator] at moves covers guarded
      cases moves
      rw [enterDispatch, if_neg (by rw [guarded]; exact Bool.false_ne_true)]
      exact covers
  | entered source =>
      rw [coordinator] at moves covers history
      cases moves
      have detached : world.delivered ++ world.tokens.events =
          world.emitted := by
        rw [← history]
        simp [Coordinator.pending]
      show before <+: world.delivered ++ world.tokens.events
      rw [detached]
      exact covers
  | delivering source pending =>
      rw [coordinator] at moves covers
      cases pending with
      | nil =>
          cases moves
          rw [Covers, returned_detaches, returned_pending]
          exact covers
      | cons event pending =>
          cases moves
          simpa [Covers, Coordinator.detaches, Coordinator.pending]
            using covers
  | called source pending =>
      rw [coordinator] at moves covers
      cases moves
      exact covers
  | finished source =>
      rw [coordinator] at moves covers
      cases moves
      exact covers

/-- The thread of the watch context starts a dispatch. -/
def Action.dispatches : Action → Bool
  | .iterate _ => true
  | .dispatchPending => true
  | _ => false

/-- A dispatch starts before it detaches the queue. -/
theorem Sourced.dispatch
    {action : Action} (sourced : Sourced world)
    (idle : world.coordinator = .idle) (starts : action.dispatches = true)
    (moves : Events.step world action = some next) :
    next.coordinator.detaches = true ∧ next.emitted = world.emitted := by
  cases action with
  | iterate source =>
      rw [Events.step] at moves
      split_ifs at moves
      cases moves
      exact ⟨rfl, rfl⟩
  | dispatchPending =>
      have guarded := sourced.guarded
      rw [idle] at guarded
      rw [Events.step, idle] at moves
      cases moves
      rw [Events.enterDispatch,
        if_neg (by rw [guarded]; exact Bool.false_ne_true)]
      exact ⟨rfl, rfl⟩
  | watchEmit event => cases starts
  | proceed => cases starts

/-- Every step keeps what is covered. -/
theorem Covers.step
    {before : List WatchEvent} {action : Action} (sourced : Sourced world)
    (covers : Covers before world)
    (moves : Events.step world action = some next) :
    Covers before next := by
  have restarts (idle : world.coordinator = .idle)
      (starts : action.dispatches = true) : Covers before next := by
    have started := sourced.dispatch idle starts moves
    rw [Covers, if_pos started.1, started.2]
    exact covers.emitted sourced
  cases action with
  | watchEmit event =>
      cases moves
      exact covers.watchEmit event
  | iterate source =>
      apply restarts _ rfl
      rw [Events.step] at moves
      split_ifs at moves with runs
      exact runs.1
  | dispatchPending =>
      cases coordinator : world.coordinator with
      | idle => exact restarts coordinator rfl
      | called source pending =>
          rw [Events.step, coordinator] at moves
          dsimp only at moves
          split_ifs at moves
          cases moves
          exact covers
      | _ =>
          rw [Events.step, coordinator] at moves
          cases moves
  | proceed => exact covers.proceed sourced moves

/-- Every run keeps what is covered. -/
theorem Covers.run
    {before : List WatchEvent} {actions : List Action}
    (sourced : Sourced world) (covers : Covers before world)
    (moves : machine.run world actions = some next) :
    Covers before next ∧ Sourced next := by
  induction actions generalizing world with
  | nil =>
      cases moves
      exact ⟨covers, sourced⟩
  | cons action actions ih =>
      rw [System.run_cons, Option.bind_eq_some_iff] at moves
      rcases moves with ⟨middle, first, rest⟩
      exact ih (sourced.step first) (Covers.step sourced covers first) rest

/-- A dispatch that is over has delivered what was queued before it. -/
theorem Sourced.dispatched
    {action : Action} {actions : List Action} (sourced : Sourced world)
    (idle : world.coordinator = .idle) (starts : action.dispatches = true)
    (moves : machine.run world (action :: actions) = some next)
    (idles : next.coordinator = .idle) :
    world.emitted <+: next.delivered := by
  rw [System.run_cons, Option.bind_eq_some_iff] at moves
  rcases moves with ⟨started, first, rest⟩
  have begins := sourced.dispatch idle starts first
  have covers : Covers world.emitted started := by
    rw [Covers, if_pos begins.1, begins.2]
  have ends := (Covers.run (sourced.step first) covers rest).1
  rw [Covers, idles] at ends
  simpa [Coordinator.detaches, Coordinator.pending] using ends

/-! ## Progress -/

/-- How many steps a dispatch makes when nothing is queued meanwhile. -/
def left (world : World) : Nat :=
  match world.coordinator with
  | .idle => 0
  | .fired _ => 2 * world.tokens.events.length + 5
  | .released _ => 2 * world.tokens.events.length + 4
  | .entered _ => 2 * world.tokens.events.length + 3
  | .delivering _ pending => 2 * pending.length + 2
  | .called _ pending => 2 * pending.length + 3
  | .finished _ => 1

/-- A dispatch that is busy can proceed, and has less left then. -/
theorem Sourced.proceeds
    (sourced : Sourced world) (busy : world.coordinator ≠ .idle) :
    ∃ next, Events.proceed world = some next ∧ left next < left world := by
  have guarded := sourced.guarded
  rw [Events.proceed]
  cases coordinator : world.coordinator with
  | idle => exact absurd coordinator busy
  | released source =>
      rw [coordinator] at guarded
      refine ⟨_, rfl, ?_⟩
      rw [Events.enterDispatch,
        if_neg (by rw [guarded]; exact Bool.false_ne_true)]
      simp [left, coordinator]
  | delivering source pending =>
      cases pending with
      | nil =>
          refine ⟨_, rfl, ?_⟩
          cases source <;> simp [left, coordinator, returned]
      | cons event pending =>
          refine ⟨_, rfl, ?_⟩
          simp [left, coordinator]
          omega
  | _ =>
      refine ⟨_, rfl, ?_⟩
      simp [left, coordinator]

theorem run_proceed
    {actions : List Action} {middle : World}
    (moves : proceed world = some middle)
    (rest : machine.run middle actions = some next) :
    machine.run world (.proceed :: actions) = some next := by
  rw [System.run_cons, Option.bind_eq_some_iff]
  exact ⟨middle, moves, rest⟩

/-- A dispatch that is left alone comes to its end. -/
theorem Sourced.finishes (sourced : Sourced world) :
    ∃ count final,
      machine.run world (List.replicate count .proceed) = some final ∧
        final.coordinator = .idle := by
  generalize bound : left world = steps
  induction steps using Nat.strong_induction_on generalizing world with
  | _ steps ih =>
      by_cases idle : world.coordinator = .idle
      · exact ⟨0, world, rfl, idle⟩
      · rcases sourced.proceeds idle with ⟨next, moves, less⟩
        rw [bound] at less
        rcases ih (left next) less (sourced.proceed moves) rfl with
          ⟨count, final, rest, idle⟩
        exact ⟨count + 1, final, run_proceed moves rest, idle⟩

/-! ## Delivery -/

/-- What holds of the events at any time. -/
structure Delivers (world : World) : Prop where
  in_order : world.delivered <+: world.emitted
  awake : world.coordinator = .idle → world.tokens.events ≠ [] →
    ∃ source ∈ world.attached, world.tokens.eventSource = some source ∧
      (step world (.iterate source)).isSome = true
  attached : world.tokens.events ≠ [] →
    world.coordinator.detaches = false →
    ∃ source ∈ world.attached, world.tokens.eventSource = some source
  quiet : world.coordinator = .idle → world.attached = [] →
    world.delivered = world.emitted
  reentrant : ∀ source pending,
    world.coordinator = .called source pending →
      step world .dispatchPending = some world
  delivers : ∀ action actions final, world.coordinator = .idle →
    action.dispatches = true →
      machine.run world (action :: actions) = some final →
        final.coordinator = .idle → world.emitted <+: final.delivered
  finishes : ∃ count final,
    machine.run world (List.replicate count .proceed) = some final ∧
      final.coordinator = .idle

/-- Events are delivered once and in their order, and none is stranded. -/
theorem delivers_of_reachable
    {world : World} (reachable : machine.Reachable world) :
    Delivers world := by
  have sourced := sourced_of_reachable reachable
  have attached (waiting : world.tokens.events ≠ [])
      (detached : world.coordinator.detaches = false) :
      ∃ source ∈ world.attached,
        world.tokens.eventSource = some source := by
    cases found : world.tokens.eventSource with
    | none =>
        have early := sourced.awake waiting found
        rw [detached] at early
        cases early
    | some source =>
        refine ⟨source, ?_, rfl⟩
        rw [sourced.attached, found]
        simp
  constructor
  case in_order =>
    exact (List.prefix_append _ _).trans sourced.delivered_prefix
  case awake =>
    intro idle waiting
    have late : world.coordinator.detaches = false := by
      rw [idle]
      rfl
    rcases attached waiting late with ⟨source, member, found⟩
    refine ⟨source, member, found, ?_⟩
    rw [step, if_pos ⟨idle, member⟩]
    rfl
  case attached => exact attached
  case quiet =>
    intro idle none
    have late : world.coordinator.detaches = false := by
      rw [idle]
      rfl
    have empty : world.tokens.events = [] := by
      by_contra waiting
      rcases attached waiting late with ⟨source, member, -⟩
      rw [none] at member
      cases member
    have history := sourced.history
    rw [idle, empty] at history
    simpa [Coordinator.pending] using history
  case reentrant =>
    intro source pending called
    have guarded := sourced.guarded
    rw [called] at guarded
    rw [step, called]
    exact if_pos guarded
  case delivers =>
    intro action actions final idle starts moves idles
    exact sourced.dispatched idle starts moves idles
  case finishes => exact sourced.finishes

/-- The insertion of a card without a serial. -/
def cardInserted : WatchEvent where
  token :=
    { label := some "Card", manufacturer := none, model := none
      serial := none, readerName := none
      protectedAuthenticationPath := false, loginRequired := false
      module := 0, slot := 0 }
  added := true

/-- An event that is queued while another one is delivered is delivered by
the next source. -/
theorem delivers_meanwhile :
    ∃ world, Delivers world ∧
      world.delivered = [cardInserted, cardInserted] ∧
      world.coordinator = .idle := by
  have moves : machine.run initially
      [.watchEmit cardInserted, .iterate 0, .proceed, .proceed, .proceed,
        .proceed, .watchEmit cardInserted, .dispatchPending, .proceed,
        .proceed, .proceed, .iterate 1, .proceed, .proceed, .proceed,
        .proceed, .proceed, .proceed, .proceed] =
      some ⟨⟨[], none, false⟩, [], 2, .idle, [cardInserted, cardInserted],
        [cardInserted, cardInserted]⟩ := rfl
  have reachable := (System.Reachable.initial rfl).run moves
  exact ⟨_, delivers_of_reachable reachable, rfl, rfl⟩

end PortalCertificate.Tokens.Events
