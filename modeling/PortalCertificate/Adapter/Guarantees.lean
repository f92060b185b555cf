import PortalCertificate.Adapter.Backend

/-!
# What the adapter guarantees

For every run: whose sessions are on the bus, how often and when calls are
answered and by whom a success can be had, what the context below has
reached, and that a handler does not wait for ever.
-/

namespace PortalCertificate.Adapter.Guarantees

open PortalCertificate.Adapter.Backend
open PortalCertificate.Adapter.Calls
open PortalCertificate.Adapter.Handlers
open PortalCertificate.Adapter.Machine
open PortalCertificate.Adapter.Responses
open PortalCertificate.Adapter.Tables
open PortalCertificate.Context.Accounts
open PortalCertificate.Context.Requests hiding World Event sessionAbsent
open PortalCertificate.Context.Silence (silent_step taken)
open PortalCertificate.Context.Steps
open PortalCertificate.Core.RowIdentities (exampleCandidate)
open PortalCertificate.Library.Trace
open PortalCertificate.Library.Transition

variable {world next : World} {id : Nat}

/-! ## An example -/

/-- An adapter without a frontend. -/
def exampleAdapter : World :=
  .start
    (.start (.start true true 0 fun _ =>
      ⟨false, ⟨false, false, false⟩⟩) 0 0) true

theorem exampleAdapter_reachable : machine.Reachable exampleAdapter :=
  .initial ⟨_, true, ⟨_, 0, 0, ⟨_, _, _, _, rfl⟩, rfl⟩, rfl, rfl⟩

/-- The bus names this owner at every lookup. -/
def exampleBus (owner : String) : Bus :=
  ⟨⟨some owner, some owner⟩, ⟨some owner, some owner⟩, true, true⟩

/-- The frontend opens a session. -/
def exampleOpening : List Action :=
  [.call ⟨":1.7", .createSession "/request/0" "/session" "app"⟩
      (exampleBus ":1.7"),
    .core .post, .core .post, .resumed]

/-- It acquires a certificate; the principal has still to be checked. -/
def exampleChecking : List Action :=
  exampleOpening ++
    [.call
      ⟨":1.7", .acquireCredential "/request/1" "/session" "app" ""
        [("purpose", .string "client_auth")]⟩
      (exampleBus ":1.7")]

/-- The user chooses, and the acquisition is answered. -/
def exampleAcquiring : List Action :=
  exampleChecking ++
    [.core .post, .resumed, .core .post,
      .core (.enumerated 0 0 (.ok [exampleCandidate [1]]) true 0),
      .core (.ui (.send ⟨1, .choose 1 1⟩)), .core (.ui (.receive 0)),
      .core .deliver, .core .proceed, .called [] false]

/-! ## Sessions on the bus -/

/-- The sessions on the bus are those of the table; all of them belong to
the owner that has been recorded last, and to its generation. -/
structure Owned (world : World) : Prop where
  table : ∀ path session, (path, session) ∈ world.sessions ↔
    (world.objects session).exported = true ∧
      (world.objects session).id = path
  owner : ∀ session, (world.objects session).exported = true →
    recordedOwner world.trace = some (world.objects session).owner
  generation : ∀ session, (world.objects session).exported = true →
    (world.core.sessions session).ownerGeneration = world.ownerGeneration
  paths : ∀ session other, (world.objects session).exported = true →
    (world.objects other).exported = true →
      (world.objects other).id = (world.objects session).id →
        other = session

/-- In every run the sessions on the bus have different paths and belong to
the present frontend; those of an earlier one are gone. -/
theorem sessions_owned (reachable : machine.Reachable world) :
    Owned world := by
  have settled := (good_of_reachable reachable).settled
  have listed (session : Nat)
      (exported : (world.objects session).exported = true) :=
    settled.sound.shown session exported
  refine ⟨fun path session => ⟨fun member => ?_, ?_⟩, ?_, ?_, ?_⟩
  · exact ⟨settled.shown _ member, (settled.sound.table _ _ member).id⟩
  · rintro ⟨exported, rfl⟩
    exact listed session exported
  · intro session exported
    have registered := settled.sound.table _ _ (listed session exported)
    exact settled.recorded.trans registered.owner
  · intro session exported
    exact (settled.sound.table _ _ (listed session exported)).generation
  · intro session other here there same
    exact settled.sound.unique (listed session here)
      (same ▸ listed other there)

/-- A session has been opened. -/
theorem sessions_owned_opened :
    ∃ world, machine.run exampleAdapter exampleOpening = some world ∧
      world.sessions = [("/session", 0)] ∧
      (world.objects 0).exported = true ∧ Owned world := by
  have run : ∃ world,
      machine.run exampleAdapter exampleOpening = some world ∧
      world.sessions = [("/session", 0)] ∧
      (world.objects 0).exported = true :=
    ⟨_, rfl, rfl, rfl⟩
  rcases run with ⟨world, moved, sessions, exported⟩
  exact ⟨world, moved, sessions, exported,
    sessions_owned (exampleAdapter_reachable.run moved)⟩

/-! ## Calls and answers -/

/-- The context has shut down, and the desktop has taken what it was told. -/
structure Finished (world : World) : Prop where
  shut : world.core.ui.shutdownPosted = true
  taken : world.core.queue = []
  idle : world.core.desktop = .idle
  free : world.waiting = none

/-- Nobody is left to be called back. -/
theorem told_of_finished
    (reachable : Context.Machine.machine.Reachable world.core)
    (finished : Finished world) (born : id < world.core.nextRequest) :
    told world.core.trace id ≠ 0 := by
  have located := (basic_of_reachable reachable).located
  rcases located.past finished.shut with ⟨posts, active, -⟩
  have balance := located.balance id
  rw [posts, finished.taken, finished.idle] at balance
  cases answered : (world.core.requests id).answered with
  | true =>
      rw [answered] at balance
      intro untold
      rw [untold] at balance
      cases balance
  | false =>
      rcases located.waiting id born answered with start | here
      · rw [posts] at start
        cases start
      · rw [active] at here
        cases here

theorem pending_of_finished (sound : Sound world.frontendOwner
      world.ownerGeneration world) (finished : Finished world)
    (invocation : Nat) : pending world invocation = 0 := by
  have transactions : world.transactions = [] :=
    List.eq_nil_iff_forall_not_mem.mpr fun id member =>
      told_of_finished sound.core finished (sound.live id member).born
        (sound.live id member).untold
  have asking : world.asking = [] :=
    List.eq_nil_iff_forall_not_mem.mpr fun id member =>
      told_of_finished sound.core finished (sound.asks id member).born
        (sound.asks id member).untold
  rw [pending, waits, transactions, asking, finished.free]
  rfl

/-- In every run a call that has been received is answered once, or it is in
one place that will answer it; nothing else is answered.  Once the context
has shut down and the desktop has taken its messages, every call has been
answered. -/
theorem calls_answered (reachable : machine.Reachable world)
    (invocation : Nat) :
    world.trace.countP (isAnswer invocation) + pending world invocation =
        (decide (invocation < world.nextInvocation)).toNat ∧
      (Finished world → pending world invocation = 0) := by
  have good := good_of_reachable reachable
  have balance := good.booked.balance invocation
  rw [good.booked.receipts invocation] at balance
  exact ⟨balance, fun finished =>
    pending_of_finished good.settled.sound finished invocation⟩

/-- A session has been opened, and a certificate acquired. -/
theorem calls_answered_acquired :
    ∃ world, machine.run exampleAdapter exampleAcquiring = some world ∧
      world.trace.countP (isAnswer 1) = 1 ∧
      world.trace.countP (isAnswer 1) + pending world 1 = 1 := by
  have run : ∃ world,
      machine.run exampleAdapter exampleAcquiring = some world ∧
        world.nextInvocation = 2 ∧ world.trace.countP (isAnswer 1) = 1 :=
    ⟨_, rfl, rfl, rfl⟩
  rcases run with ⟨world, moved, received, answered⟩
  have balance :=
    (calls_answered (exampleAdapter_reachable.run moved) 1).1
  rw [received] at balance
  exact ⟨world, moved, answered, balance⟩

/-- In every run an answer is the first one to its call, and the request of
the call has left the bus.  Who has not been named as the owner by a lookup
of that call is denied access.  A success is told to the owner that has been
recorded last; a success of an acquisition or a signature, only when the
sender has opened the session that the call names, and this has been on the
bus from the authorization of the call to its answer. -/
theorem answers_truthful (reachable : machine.Reachable world) :
    Each Truthful world.trace :=
  (good_of_reachable reachable).booked.truthful

/-- A certificate has been acquired. -/
theorem answers_truthful_acquired :
    ∃ world results before,
      machine.run exampleAdapter exampleAcquiring = some world ∧
        world.trace =
          .answered 1 (.answer ⟨responseSuccess, results⟩) :: before ∧
        Fits before 1 (.answer ⟨responseSuccess, results⟩) := by
  have run : ∃ world results before,
      machine.run exampleAdapter exampleAcquiring = some world ∧
        world.trace =
          .answered 1 (.answer ⟨responseSuccess, results⟩) :: before :=
    ⟨_, _, _, rfl, rfl⟩
  rcases run with ⟨world, results, before, moved, trace⟩
  exact ⟨world, results, before, moved, trace,
    answers_truthful (exampleAdapter_reachable.run moved) [] _ before trace⟩

/-! ## The context below -/

/-- In every run the context is one that its own machine reaches, and the
adapter keeps a transaction or a call of `GetCapabilities` for exactly the
requests whose client has not been called back. -/
theorem context_driven (reachable : machine.Reachable world) :
    Context.Machine.machine.Reachable world.core ∧
      ∀ id,
        (id ∈ world.transactions ↔
          id < world.core.nextRequest ∧ told world.core.trace id = 0 ∧
            (world.core.requests id).kind ≠ .capabilities) ∧
        (id ∈ world.asking ↔
          id < world.core.nextRequest ∧ told world.core.trace id = 0 ∧
            (world.core.requests id).kind = .capabilities) ∧
        (id ∈ world.transactions →
          (world.core.requests id).session =
            some (world.ledger id).session) := by
  have sound := (good_of_reachable reachable).settled.sound
  refine ⟨sound.core, fun id => ⟨⟨fun member => ?_, ?_⟩,
    ⟨fun member => ?_, ?_⟩, fun member => (sound.live id member).bound⟩⟩
  · have live := sound.live id member
    exact ⟨live.born, live.untold, live.kind⟩
  · rintro ⟨born, untold, kind⟩
    refine (sound.pending id born untold).resolve_right fun member => ?_
    exact kind (sound.asks id member).kind
  · have asks := sound.asks id member
    exact ⟨asks.born, asks.untold, asks.kind⟩
  · rintro ⟨born, untold, kind⟩
    refine (sound.pending id born untold).resolve_left fun member => ?_
    exact (sound.live id member).kind kind

/-- The acquisition has its request. -/
theorem context_driven_acquiring :
    ∃ world,
      machine.run exampleAdapter
          (exampleChecking ++ [.core .post, .resumed]) = some world ∧
        world.transactions = [0] ∧
        Context.Machine.machine.Reachable world.core ∧
        (world.core.requests 0).session = some (world.ledger 0).session := by
  have run : ∃ world,
      machine.run exampleAdapter
          (exampleChecking ++ [.core .post, .resumed]) = some world ∧
        world.transactions = [0] :=
    ⟨_, rfl, rfl⟩
  rcases run with ⟨world, moved, transactions⟩
  have driven := context_driven (exampleAdapter_reachable.run moved)
  refine ⟨world, moved, transactions, driven.1, (driven.2 0).2.2 ?_⟩
  rw [transactions]
  exact List.mem_singleton_self 0

/-! ## Handlers that wait -/

theorem resumes_told {waiting : Waiting} {before : Core}
    (waits : world.waiting = some (waiting.told before)) :
    ∃ last, step world .resumed = some last := by
  rw [step, waits]
  cases waiting <;> exact ⟨_, rfl⟩

/-- The main loop goes on as long as it has posts. -/
theorem posts_step (reachable : machine.Reachable world) {post : Post}
    {rest : List Post} (posts : world.core.posts = post :: rest) :
    ∃ core, Context.Machine.step world.core .post = some core ∧
      rest <+: core.posts ∧
      machine.step world (.core .post) =
        some (afterCore world core .post) := by
  have sound := (good_of_reachable reachable).settled.sound
  have running : world.core.ui.shutdownPosted = false := by
    refine Bool.eq_false_iff.mpr fun shut => ?_
    have past := (basic_of_reachable sound.core).located.past shut
    rw [posts] at past
    cases past.1
  have moves : Context.Machine.step world.core .post =
      some (Context.Machine.coordinatorPost
        { world.core with posts := rest } post) := by
    rw [Context.Machine.step, posts]
    show Context.Machine.coordinates world.core true _ = _
    rw [Context.Machine.coordinates, running]
    rfl
  have silent := silent_step moves rfl fun _ _ =>
    Context.Machine.Action.noConfusion
  refine ⟨_, moves, ?_, ?_⟩
  · have kept := silent.posts
    rwa [taken, posts, List.tail_cons] at kept
  · show step world (.core .post) = _
    rw [step, moves]
    rfl

theorem waiting_afterCore {waiting : Waiting} {post : Post} (core : Core)
    (waits : world.waiting = some waiting)
    (named : waiting.post = some post) :
    (afterCore world core .post).waiting =
      some (if world.core.posts.head? = some post then
        waiting.told world.core else waiting) := by
  rw [afterCore]
  show world.waiting.map _ = _
  rw [waits, Option.map_some, named]
  simp only [Option.isSome_some, Bool.true_and, decide_eq_true_eq]

theorem run_post (moves : machine.step world (.core .post) = some next)
    (steps : Nat) :
    machine.run world (List.replicate (steps + 1) (.core .post)) =
      machine.run next (List.replicate steps (.core .post)) := by
  rw [List.replicate_succ, System.run_cons, moves]
  rfl

/-- The main loop comes to the post. -/
theorem wakes {after : List Post} {waiting : Waiting} {post : Post}
    (before : List Post) (reachable : machine.Reachable world)
    (waits : world.waiting = some waiting)
    (named : waiting.post = some post)
    (posts : world.core.posts = before ++ post :: after) :
    ∃ steps ≤ before.length + 1, ∃ next last,
      machine.run world (List.replicate steps (.core .post)) = some next ∧
        step next .resumed = some last := by
  induction before generalizing world after with
  | nil =>
      rcases posts_step reachable posts with ⟨core, -, -, moves⟩
      have told := waiting_afterCore core waits named
      rw [posts, List.nil_append, List.head?_cons, if_pos rfl] at told
      rcases resumes_told told with ⟨last, resumes⟩
      exact ⟨1, Nat.le_refl _, _, last, run_post moves 0, resumes⟩
  | cons first rest ih =>
      rw [List.cons_append] at posts
      rcases posts_step reachable posts with ⟨core, -, kept, moves⟩
      have told := waiting_afterCore core waits named
      rw [posts, List.head?_cons] at told
      by_cases same : first = post
      · rw [if_pos (congrArg some same)] at told
        rcases resumes_told told with ⟨last, resumes⟩
        exact ⟨1, by simp, _, last, run_post moves 0, resumes⟩
      · rw [if_neg fun here => same (Option.some.inj here)] at told
        rcases kept with ⟨more, split⟩
        rw [List.append_assoc, List.cons_append] at split
        rcases ih (reachable.step moves) told split.symm with
          ⟨steps, bound, next, last, run, resumes⟩
        refine ⟨steps + 1, Nat.succ_le_succ bound, next, last, ?_, resumes⟩
        rw [run_post moves]
        exact run

/-- In every run a handler that waits is woken: after at most as many turns of
the main loop as there are posts, it goes on. -/
theorem waits_woken {waiting : Waiting} (reachable : machine.Reachable world)
    (waits : world.waiting = some waiting) :
    ∃ steps ≤ world.core.posts.length, ∃ next last,
      machine.run world (List.replicate steps (.core .post)) = some next ∧
        step next .resumed = some last := by
  cases named : waiting.post with
  | none =>
      have ready : ∃ last, step world .resumed = some last := by
        rw [step, waits]
        cases waiting with
        | creating _ _ _ _ _ _ made =>
            cases made with
            | none => cases named
            | some made => exact ⟨_, rfl⟩
        | checking _ _ _ _ _ _ _ verdict =>
            cases verdict with
            | none => cases named
            | some verdict => exact ⟨_, rfl⟩
      rcases ready with ⟨last, resumes⟩
      exact ⟨0, Nat.zero_le _, world, last, rfl, resumes⟩
  | some post =>
      have expected := (good_of_reachable reachable).expected waiting waits
      rcases List.append_of_mem (expected.posted post named) with
        ⟨before, after, posts⟩
      rcases wakes before reachable waits named posts with
        ⟨steps, bound, woken⟩
      refine ⟨steps, bound.trans ?_, woken⟩
      rw [posts, List.length_append, List.length_cons]
      omega

/-- An acquisition waits for the check of its principal. -/
theorem waits_woken_checking :
    ∃ world waiting,
      machine.run exampleAdapter exampleChecking = some world ∧
        world.waiting = some waiting ∧ world.core.posts.length = 1 ∧
        ∃ steps ≤ 1, ∃ next last,
          machine.run world (List.replicate steps (.core .post)) =
              some next ∧
            step next .resumed = some last := by
  have run : ∃ world waiting,
      machine.run exampleAdapter exampleChecking = some world ∧
        world.waiting = some waiting ∧ world.core.posts.length = 1 :=
    ⟨_, _, rfl, rfl, rfl⟩
  rcases run with ⟨world, waiting, moved, waits, one⟩
  have woken := waits_woken (exampleAdapter_reachable.run moved) waits
  rw [one] at woken
  exact ⟨world, waiting, moved, waits, one, woken⟩

end PortalCertificate.Adapter.Guarantees
