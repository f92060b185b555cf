import PortalCertificate.Adapter.Handlers

/-!
# Runs of the adapter

Every action of the adapter keeps what holds between two actions, whatever
the bus replies and however the context goes on meanwhile.
-/

namespace PortalCertificate.Adapter.Backend

open PortalCertificate.Adapter.Calls
open PortalCertificate.Adapter.Handlers
open PortalCertificate.Adapter.Machine
open PortalCertificate.Adapter.Responses
open PortalCertificate.Adapter.Tables
open PortalCertificate.Context.Clients
open PortalCertificate.Context.Completion (completionCalls)
open PortalCertificate.Context.Machine (coordinatorPost xccContextShutdownAsync)
open PortalCertificate.Context.Requests hiding World Event sessionAbsent
open PortalCertificate.Context.Sessions
open PortalCertificate.Context.Silence (silent_step taken)
open PortalCertificate.Core.Principals (XccSessionSpec)
open PortalCertificate.Library.Trace
open PortalCertificate.Library.Transition

variable {world next : World} {core : Core} {id : Nat}

/-! ## Calls of the bus -/

theorem resolves_beforeClosure (settled : Settled world) (sender : String)
    (bus : Bus) (method : Method) :
    Resolves world (beforeClosure world sender bus method) := by
  cases method with
  | closeRequest id => exact (settled.sender sender bus.lookups).1
  | _ => exact ⟨settled, .refl world⟩

theorem ready_iff : ready world = true ↔
    world.waiting = none ∧ world.core.desktop = .idle ∧
      world.drained = false := by
  rw [ready]
  cases world.waiting <;> simp

/-- The handler of a call that has been authorized. -/
theorem good_handle {method : Method} {invocation : Nat} {sender : String}
    (handling : Handling world invocation sender method)
    (present : ∀ session, Serving world invocation session)
    (quiet : world.core.desktop = .idle)
    (request : ∀ id, method = .closeRequest id → id ∈ world.transactions)
    (session : ∀ session, method = .closeSession session →
      session < world.core.nextSession) (bus : Bus) :
    Good (handle world invocation sender bus method) := by
  cases method with
  | createSession handle path appId => exact handling.creates rfl quiet bus
  | acquireCredential handle path appId parentWindow options =>
      exact handling.acquires present rfl options bus
  | sign handle path appId parentWindow options =>
      exact handling.operates present rfl options bus
  | getCapabilities => exact handling.inquires
  | closeRequest id => exact handling.closesRequest (request id rfl)
  | closeSession number =>
      exact handling.closesSession (session number rfl)

/-- A call that has passed the authorization. -/
structure Accepted
    (world accepted : World) (invocation : Nat) (call : Call) : Prop where
  handling : Handling accepted invocation call.sender call.method
  present : ∀ session, Serving accepted invocation session
  transactions : accepted.transactions = world.transactions
  desktop : accepted.core.desktop = world.core.desktop
  nextSession : accepted.core.nextSession = world.core.nextSession

theorem authorizes {invocation : Nat} {call : Call}
    (settled : Settled world) (booked : Booked (some invocation) world)
    (waiting : world.waiting = none)
    (received : .received invocation call ∈ world.trace)
    (lookups : Lookups) :
    (∃ rejected,
      rejectStranger world invocation call.sender lookups = .inl rejected ∧
        Good rejected) ∨
      ∃ accepted,
        rejectStranger world invocation call.sender lookups =
          .inr accepted ∧ Accepted world accepted invocation call := by
  have checks := settled.sender call.sender lookups
  rw [rejectStranger]
  generalize certificateImplSenderIsFrontend world call.sender lookups =
    result at checks ⊢
  rcases result with ⟨accepted, passed⟩
  rcases checks with ⟨⟨settled, aside⟩, confirms⟩
  have counted := booked.aside aside
  cases accepted with
  | false =>
      refine .inl ⟨_, rfl, settled_emit settled rfl, ?_, ?_⟩
      · exact counted.answers (aside.trace.subset received)
          ⟨.inl rfl, fun _ => Reply.noConfusion⟩
      · exact expected_idle (aside.waiting.trans waiting)
  | true =>
      have confirmed := confirms rfl
      have adds : Adds Uncounted passed.trace
          (passed.emit (.authorized invocation call.sender)).trace :=
        (Adds.refl _).cons fun _ => ⟨rfl, rfl⟩
      refine .inr ⟨_, rfl, ?_, fun session exported => ?_,
        aside.transactions, aside.desktop, aside.nextSession⟩
      rotate_left
      · have registered := settled.sound.table _ _
          (settled.sound.shown session exported)
        have owner : (passed.objects session).owner = call.sender :=
          Option.some.inj (registered.owner.symm.trans confirmed.owner)
        have started : Exported session (passed.objects session).id
          passed.trace := counted.exported session exported
        show Served _ _ (passed.objects session).owner _ _
        rw [owner]
        exact since_now started
      have same : SameCalls passed
          (passed.emit (.authorized invocation call.sender)) :=
        sameCalls_emit fun _ => Event.noConfusion
      exact
        { settled := settled_emit settled rfl
          booked := counted.same same adds counted.exports
          idle := aside.waiting.trans waiting
          owner := confirmed.owner
          authorized := by
            rcases confirmed.named with ⟨earlier, trace⟩
            refine ⟨[], earlier, ?_⟩
            show _ :: passed.trace = _
            rw [trace]
            rfl
          received := adds.subset (aside.trace.subset received) }

theorem good_receive (good : Good world) (waiting : world.waiting = none)
    (quiet : world.core.desktop = .idle) (call : Call) (bus : Bus)
    (dispatched : dispatchable world call.method = true) :
    Good (receive world call bus) := by
  let invocation := world.nextInvocation
  let received := { world with nextInvocation := invocation + 1 }.emit
    (.received invocation call)
  have settled : Settled received :=
    ⟨{ good.settled.sound with }, good.settled.shown, good.settled.recorded⟩
  have booked : Booked (some invocation) received :=
    good.booked.receives call
  have sees := resolves_beforeClosure settled call.sender bus call.method
  rw [receive]
  rcases authorizes sees.settled (booked.aside sees.aside)
      (sees.aside.waiting.trans waiting)
      (sees.aside.trace.subset (List.mem_cons_self ..))
      (decidingLookups bus call.method) with
    ⟨rejected, same, good⟩ | ⟨accepted, same, passes⟩
  · rw [same]
    exact good
  · rw [same]
    refine good_handle passes.handling passes.present
      (passes.desktop.trans (sees.aside.desktop.trans quiet)) ?_ ?_ bus
    · intro id named
      rw [named, dispatchable, Bool.and_eq_true] at dispatched
      rw [passes.transactions, sees.aside.transactions]
      exact List.contains_iff_mem.mp dispatched.1
    · intro session named
      rw [named] at dispatched
      rw [passes.nextSession, sees.aside.nextSession]
      exact (good.settled.sound.table _ _
        (good.settled.sound.shown session dispatched)).known

/-! ## The handler that waits -/

theorem good_resume (good : Good world) {waiting : Waiting}
    (waits : world.waiting = some waiting)
    (moves : resume { world with waiting := none } waiting = some next) :
    Good next := by
  let awake := { world with waiting := none }
  have settled : Settled awake :=
    ⟨{ good.settled.sound with }, good.settled.shown, good.settled.recorded⟩
  have booked := good.booked.resumes waits
  have awaited := good.booked.awaited waiting waits
  have expected := good.expected waiting waits
  cases waiting with
  | creating invocation sender path appId spec sessionExports made =>
      cases made with
      | none => cases moves
      | some made =>
          cases moves
          rcases awaited with ⟨authorized, handle, received⟩
          rcases expected.found with ⟨owner, -, free, unused⟩
          have handling : Handling awake invocation sender
              (.createSession handle path appId) :=
            ⟨settled, booked, rfl, owner, authorized, received⟩
          refine handling.finishes rfl free (fun session made => ?_) _
          exact { unused session (congrArg some made) with }
  | checking invocation sender session arguments options principal
      requestExports verdict =>
      cases verdict with
      | none => cases moves
      | some verdict =>
          cases moves
          rcases expected.found with ⟨owner, listed, appId⟩
          rcases awaited with ⟨placed, serving⟩
          have registered := good.settled.sound.table _ _ listed
          have same : (world.objects session).owner = sender :=
            Option.some.inj (registered.owner.symm.trans owner)
          rcases placed.received with ⟨method, received, names⟩
          have handling : Handling awake invocation sender method :=
            ⟨settled, booked, rfl, owner, same ▸ placed.authorized,
              same ▸ received⟩
          have serves : Serves awake invocation session arguments.appId :=
            ⟨listed, appId, placed, serving⟩
          exact handling.finishesAcquire serves verdict options
            requestExports

/-! ## The context -/

theorem booked_core (booked : Booked none world) (core : Core) :
    Booked none { world with core } :=
  { booked with
    awaited := fun waiting there => by
      have awaited := booked.awaited waiting there
      cases waiting <;> exact awaited }

theorem found_onward {waiting : Waiting}
    (found : Found world waiting) (onward : Onward world.core core) :
    Found { world with core } waiting := by
  cases waiting with
  | creating invocation sender path appId spec sessionExports made =>
      rcases found with ⟨owner, same, free, unused⟩
      refine ⟨owner, same, free, fun session made => ?_⟩
      have unused := unused session made
      exact
        { unused with
          known := unused.known.trans_le onward.sessions
          generation :=
            (onward.owner session unused.known).trans unused.generation }
  | checking => exact found

/-- The context goes on, nobody is called back, and no handler is told. -/
theorem good_drive (good : Good world) {action : Context.Machine.Action}
    (moves : Context.Machine.step world.core action = some core)
    (others : Context.Silence.asks action = false)
    (apart : ∀ id, world.core.desktop = .calling id → action ≠ .proceed)
    (untold : ∀ waiting post, world.waiting = some waiting →
      waiting.post = some post → post ∈ world.core.posts →
        post ∈ (taken world.core action).posts) :
    Good { world with core } where
  settled := ⟨{ good.settled.sound.drive moves others apart with },
    good.settled.shown, good.settled.recorded⟩
  booked := booked_core good.booked core
  expected waiting there := by
    have expected := good.expected waiting there
    have onward := onward_step good.settled.sound.core moves
    refine ⟨found_onward expected.found onward, fun post same => ?_⟩
    refine (silent_step moves others apart).posts.subset ?_
    exact untold waiting post there same (expected.posted post same)

theorem good_withdraws (good : Good world) (idle : world.waiting = none)
    (settled : Settled next) (aside : Aside world next) : Good next where
  settled := settled
  booked := good.booked.aside aside
  expected := expected_idle (aside.waiting.trans idle)

theorem good_invalidated (good : Good world) (idle : world.waiting = none)
    (session : Nat) (reason : InvalidationReason) :
    Good (onCoreInvalidated world session reason) := by
  let object := { world.objects session with invalidated := true }
  let marked := world.setObject session object
  have exported (other : Nat) : (marked.objects other).exported =
      (world.objects other).exported := by
    show (Function.update world.objects session object other).exported = _
    by_cases same : other = session
    · rw [same, Function.update_self]
    · rw [Function.update_of_ne same]
  have same : SameObject (world.objects session) object := ⟨rfl, rfl, rfl⟩
  have settled : Settled marked :=
    ⟨{ good.settled.sound.setObject same id with }, fun entry member =>
      (exported _).trans (good.settled.shown entry member),
      good.settled.recorded⟩
  have aside : Aside world marked :=
    { Aside.refl world with
      objects := fun other => by
        show SameObject _ (Function.update world.objects session object other)
        by_cases here : other = session
        · rw [here, Function.update_self]
          exact same
        · rw [Function.update_of_ne here]
          exact ⟨rfl, rfl, rfl⟩
      stays := fun other still => ⟨exported other ▸ still, .refl _⟩ }
  have told : Settled
      (marked.emit (.sessionInvalidated object.id reason)) :=
    settled_emit settled rfl
  have tells : Aside world
      (marked.emit (.sessionInvalidated object.id reason)) :=
    aside.emit rfl fun _ => Event.noConfusion
  rw [onCoreInvalidated]
  dsimp only
  split_ifs
  · exact good_withdraws good idle (settled_emit told rfl)
      (tells.emit rfl fun _ => Event.noConfusion)
  · exact good_withdraws good idle told tells
  · exact good

/-- The session that the coordinator has made for the handler. -/
theorem unused_registered (good : Good world) {spec : XccSessionSpec}
    {session : Nat} (moves : Context.Machine.step world.core .post = some core)
    (head : world.core.posts.head? = some (.sessionNewRegister spec))
    (current : spec.ownerGeneration = world.ownerGeneration)
    (made : registers world.core spec = some session) :
    Unused { world with core } session := by
  have sound := good.settled.sound
  rw [registers] at made
  split_ifs at made with fits
  cases made
  rw [Bool.and_eq_true, Bool.not_eq_true', decide_eq_true_eq] at fits
  have registered := registered_of_post moves head fits.1 fits.2
  exact
    { known := registered.1
      generation := registered.2.trans current
      entries := fun entry member => (sound.table _ _ member).known.ne
      transactions := fun id member => (sound.live id member).known.ne }

theorem good_told (good : Good world) {waiting : Waiting}
    (waits : world.waiting = some waiting)
    (moves : Context.Machine.step world.core .post = some core)
    (post : waiting.post.isSome = true)
    (head : world.core.posts.head? = waiting.post) :
    Good { world with core, waiting := some (waiting.told world.core) } := by
  have sound := good.settled.sound.drive moves rfl fun _ _ =>
    Context.Machine.Action.noConfusion
  refine ⟨⟨{ sound with }, good.settled.shown, good.settled.recorded⟩,
    good.booked.tells waits core world.core, ?_⟩
  intro other there
  cases Option.some.inj there
  have onward := onward_step good.settled.sound.core moves
  have found := found_onward (good.expected waiting waits).found onward
  cases waiting with
  | creating invocation sender path appId spec sessionExports made =>
      rcases found with ⟨owner, same, free, -⟩
      cases made with
      | some made => cases post
      | none =>
          refine ⟨⟨owner, same, free, fun session made => ?_⟩,
            fun _ none => by cases none⟩
          have unused := unused_registered good moves head (same ▸ rfl)
            (Option.some.inj made)
          exact { unused with }
  | checking => exact ⟨found, fun _ none => by cases none⟩

/-- What an action of the context that may be taken is not. -/
structure Taken (world : World) (action : Context.Machine.Action) : Prop where
  others : Context.Silence.asks action = false
  waits : onDesktop action = true → world.waiting = none
  apart : ∀ id, world.core.desktop = .calling id → action ≠ .proceed

theorem taken_of_mayTake {action : Context.Machine.Action}
    (may : mayTake world action = true) : Taken world action := by
  refine ⟨?_, fun here => ?_, ?_⟩
  · cases action <;> first | rfl | cases may
  · rw [mayTake, here, Bool.true_and, Bool.and_eq_true, Bool.and_eq_true,
      Bool.not_eq_true', Bool.not_eq_true', Bool.or_eq_false_iff] at may
    exact Option.isNone_iff_eq_none.mp
      (Option.isSome_eq_false_iff.mp may.1.2.1)
  · rintro id there rfl
    rw [mayTake, calling, there, Bool.and_eq_true] at may
    exact absurd may.2 Bool.false_ne_true

theorem mem_tail {posts : List Post} {post : Post}
    (other : posts.head? ≠ some post) (member : post ∈ posts) :
    post ∈ posts.tail := by
  cases posts with
  | nil => cases member
  | cons first rest =>
      refine (List.mem_cons.mp member).resolve_left fun same => other ?_
      rw [List.head?_cons, same]

theorem good_core (good : Good world) {action : Context.Machine.Action}
    (taken : Taken world action)
    (moves : Context.Machine.step world.core action = some core) :
    Good (afterCore world core action) := by
  have driven := good_drive good moves taken.others taken.apart
  cases action with
  | deliver =>
      have driven := driven fun _ _ _ _ member => member
      have idle : world.waiting = none := taken.waits rfl
      rw [afterCore]
      split
      · exact good_invalidated driven idle _ _
      · exact
          ⟨⟨{ driven.settled.sound with }, driven.settled.shown,
            driven.settled.recorded⟩,
            { driven.booked with
              awaited := fun waiting there =>
                absurd (idle.symm.trans there) (Option.some_ne_none _).symm },
            expected_idle idle⟩
      · exact driven
  | post =>
      rw [afterCore]
      cases waits : world.waiting with
      | none =>
          have same : { world with core, waiting := none } =
              { world with core } := by rw [← waits]
          rw [Option.map_none, same]
          refine driven fun waiting _ there => ?_
          rw [waits] at there
          cases there
      | some waiting =>
          rw [Option.map_some]
          split_ifs with told
          · rw [Bool.and_eq_true, decide_eq_true_eq] at told
            exact good_told good waits moves told.1 told.2
          · have same : { world with core, waiting := some waiting } =
                { world with core } := by rw [← waits]
            rw [same]
            refine driven fun other post there named member => ?_
            cases Option.some.inj (waits.symm.trans there)
            have head : world.core.posts.head? ≠ some post := fun head =>
              told (by simp [named, head])
            exact mem_tail head member
  | _ => exact driven fun _ _ _ _ member => member

/-! ## Callbacks -/

theorem calling_some {id : Nat} (here : calling world.core = some id) :
    world.core.desktop = .calling id := by
  rw [calling] at here
  split at here
  · rename_i other there
    cases here
    exact there
  · cases here

theorem mem_removeFast {entries : List Nat} {entry other : Nat}
    (member : entry ∈ entries) (once : entries.Nodup) :
    other ∈ removeFast entries entry ↔
      other ∈ entries ∧ other ≠ entry := by
  rw [(removeFast_perm member).mem_iff, once.mem_erase_iff, and_comm]

theorem requestUnexport_core (world : World) (core : Core) (id : Nat) :
    certificateImplRequestUnexport { world with core } id =
      { certificateImplRequestUnexport world id with core } := by
  rw [certificateImplRequestUnexport, certificateImplRequestUnexport]
  dsimp only
  split_ifs <;> rfl

/-- A transaction whose client is called back leaves the tables. -/
theorem settled_responds (settled : Settled world)
    (calls : world.core.desktop = .calling id)
    (member : id ∈ world.transactions) (answer : Answer) :
    Settled (transactionRespond
      { world with core := completionCalls world.core id } id answer) := by
  let shown := certificateImplRequestUnexport world id
  have hidden : Settled shown := settled_requestUnexport settled id
  have keeps := requestUnexport_keeps world id
  have once := hidden.sound.once
  have there : id ∈ shown.transactions := keeps.transactions ▸ member
  have apart : id ∉ shown.asking := fun asks =>
    (hidden.sound.live id there).kind (hidden.sound.asks id asks).kind
  have sound := hidden.sound.tells (keeps.core ▸ calls)
    ((removeFast_perm there).nodup_iff.mpr (once.erase id))
    hidden.sound.asksOnce (fun other => mem_removeFast there once)
    fun other => ⟨fun asks => ⟨asks, fun same => apart (same ▸ asks)⟩,
      fun both => both.1⟩
  have left : Settled
      { shown with
        core := completionCalls shown.core id
        transactions := removeFast shown.transactions id } :=
    ⟨{ sound with }, hidden.shown, hidden.recorded⟩
  have core : shown.core = world.core := keeps.core
  have transactions : shown.transactions = world.transactions :=
    keeps.transactions
  rw [core, transactions] at left
  rw [transactionRespond, requestUnexport_core]
  exact settled_emit left rfl

/-- `core_done`. -/
theorem good_responds (good : Good world) (idle : world.waiting = none)
    (running : world.drained = false)
    (calls : world.core.desktop = .calling id)
    (member : id ∈ world.transactions) :
    Good (transactionRespond
      { world with core := completionCalls world.core id } id
        (coreAnswer (world.core.requests id).kind
          (world.ledger id).cancelledCode
          (world.core.requests id).result)) := by
  let told : World :=
    { world with core := completionCalls world.core id }
  have settled := good.settled
  have keeps := requestUnexport_keeps told id
  have booked : Booked none told := booked_core good.booked _
  refine ⟨settled_responds settled calls member _, ?_,
    expected_idle (keeps.waiting.trans idle)⟩
  refine booked.responds member settled.sound.once fun success => ?_
  rcases response_coreAnswer success with ⟨uncancelled, good⟩
  rcases settled.sound.success calls member running uncancelled good with
    ⟨owner, listed⟩
  exact ⟨settled.recorded.trans owner, settled.shown _ listed⟩

/-- `core_done` and `on_capabilities`. -/
theorem good_calledBack (good : Good world) (idle : world.waiting = none)
    (running : world.drained = false)
    (calls : world.core.desktop = .calling id) (mechanisms : List String)
    (protectedPath : Bool) :
    Good (calledBack world id mechanisms protectedPath) := by
  have settled := good.settled
  have untold := untold_of_calling settled.sound.core calls
  have place := settled.sound.pending id untold.1 untold.2
  rw [calledBack]
  dsimp only
  split_ifs with kind
  · have member : id ∈ world.asking := place.resolve_left fun there =>
      (settled.sound.live id there).kind kind
    have apart : id ∉ world.transactions := fun there =>
      (settled.sound.live id there).kind kind
    refine ⟨⟨?_, settled.shown, ?_⟩, ?_, expected_idle (by exact idle)⟩
    · have asksOnce := settled.sound.asksOnce
      have sound := settled.sound.tells calls settled.sound.once
        (asksOnce.erase id) (fun other => ⟨fun there => ⟨there, fun same =>
          apart (same ▸ there)⟩, fun both => both.1⟩) fun other => by
            rw [asksOnce.mem_erase_iff, and_comm]
      exact { sound with }
    · exact (recordedOwner_cons rfl _).trans settled.recorded
    · exact good.booked.reports member _ _
  · have member : id ∈ world.transactions := place.resolve_right fun there =>
      kind (settled.sound.asks id there).kind
    exact good_responds good idle running calls member

/-! ## Runs -/

theorem good_shutdown (good : Good world) :
    Good { world with core := xccContextShutdownAsync world.core } := by
  have moves : Context.Machine.step world.core .shutdown =
      some (xccContextShutdownAsync world.core) := rfl
  refine good_drive good moves rfl (fun _ _ => ?_) fun _ _ _ _ member =>
    member
  exact Context.Machine.Action.noConfusion

theorem sameFrontend_closeAndForgetAll (world : World) :
    SameFrontend world (closeAndForgetAll world) := by
  have closes : SameFrontend world
      ((world.sessions.map Prod.snd).foldl closeAndUnexport world) :=
    List.foldlRecOn _ _ (.refl world) fun _ here session _ =>
      here.trans ((sameFrontend_sessionClose session).trans
        (sameFrontend_sessionUnexport session))
  exact ⟨closes.owner, closes.generation, closes.recorded⟩

theorem good_closeAll (good : Good world) (idle : world.waiting = none) :
    Good { closeAndForgetAll world with drained := true } := by
  have same := sameFrontend_closeAndForgetAll world
  have aside := @aside_closeAndForgetAll world
  have waits := aside.waiting.trans idle
  refine ⟨good.settled.same ⟨same.owner, same.generation, same.recorded⟩
    good.settled.sound.forgetsAll ?_, ?_, expected_idle (by exact waits)⟩
  · intro entry member
    cases member
  · have booked := good.booked.aside aside
    exact
      { booked with
        awaited := fun waiting there =>
          absurd (waits.symm.trans there) (Option.some_ne_none _).symm }

theorem good_step {action : Action} (good : Good world)
    (moves : step world action = some next) : Good next := by
  cases action with
  | call call bus =>
      rw [step] at moves
      split_ifs at moves with taken
      cases moves
      rw [Bool.and_eq_true] at taken
      rcases ready_iff.mp taken.1 with ⟨waiting, quiet, -⟩
      exact good_receive good waiting quiet call bus taken.2
  | appeared owner =>
      rw [step] at moves
      split_ifs at moves with free
      cases moves
      have resolves := good.settled.appeared owner
      exact good_withdraws good (ready_iff.mp free).1 resolves.settled
        resolves.aside
  | vanished =>
      rw [step] at moves
      split_ifs at moves with free
      cases moves
      have resolves := good.settled.vanished
      exact good_withdraws good (ready_iff.mp free).1 resolves.settled
        resolves.aside
  | core action =>
      rw [step] at moves
      split_ifs at moves with may
      rcases Option.map_eq_some_iff.mp moves with ⟨core, taken, rfl⟩
      exact good_core good (taken_of_mayTake may) taken
  | resumed =>
      rcases Option.bind_eq_some_iff.mp moves with ⟨waiting, waits, resumes⟩
      exact good_resume good waits resumes
  | called mechanisms protectedPath =>
      rw [step] at moves
      split_ifs at moves with free
      rw [Bool.and_eq_true, Bool.not_eq_true'] at free
      rcases Option.map_eq_some_iff.mp moves with ⟨id, here, rfl⟩
      exact good_calledBack good (Option.isNone_iff_eq_none.mp free.1)
        free.2 (calling_some here) mechanisms protectedPath
  | shutdown =>
      rw [step] at moves
      split_ifs at moves
      cases moves
      exact good_shutdown good
  | closeAll =>
      rw [step] at moves
      split_ifs at moves with free
      cases moves
      rw [Bool.and_eq_true] at free
      exact good_closeAll good (ready_iff.mp free.1).1

theorem good_initial (start : machine.initial world) : Good world := by
  rcases start with ⟨core, hasDisplay, initial, generation, rfl⟩
  have reachable : Context.Machine.machine.Reachable core :=
    System.Reachable.initial initial
  rcases initial with ⟨ui, value, now, initial, rfl⟩
  refine ⟨⟨?_, fun entry member => ?_, rfl⟩, ?_, expected_idle rfl⟩
  · exact
      { core := reachable
        table := fun path session member => absurd member List.not_mem_nil
        keys := List.nodup_nil
        shown := fun _ => Bool.noConfusion
        live := fun id member => absurd member List.not_mem_nil
        once := List.nodup_nil
        asks := fun id member => absurd member List.not_mem_nil
        asksOnce := List.nodup_nil
        pending := fun id born => absurd born (Nat.not_lt_zero id)
        wanted := fun _ id member => absurd member List.not_mem_nil }
  · cases member
  · exact
      { balance := fun _ => rfl
        receipts := fun other =>
          (congrArg Bool.toNat (decide_eq_false (Nat.not_lt_zero other))).symm
        exports := fun _ => rfl
        placed := fun id member => absurd member List.not_mem_nil
        opened := fun entry member => absurd member List.not_mem_nil
        asks := fun id member => absurd member List.not_mem_nil
        awaited := fun waiting there =>
          absurd there.symm (Option.some_ne_none _)
        serving := fun id member => absurd member List.not_mem_nil
        exported := fun _ => Bool.noConfusion
        truthful := each_nil }

/-- What holds between two calls holds in every reachable state. -/
theorem good_of_reachable (reachable : machine.Reachable world) :
    Good world :=
  System.Reachable.invariant (fun _ => good_initial)
    (fun _ _ _ _ good moves => good_step good moves) reachable

end PortalCertificate.Adapter.Backend
