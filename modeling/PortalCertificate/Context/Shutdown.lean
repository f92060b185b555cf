import PortalCertificate.Context.Grants

/-!
# The end of a context

The last thing that the coordinator hands to the desktop is that it has shut
down.  When the desktop is told of it, every client whose request had been
accepted has been called, and so has the UI and everyone who waits for the
end of a session.  Only requests that came too late are still answered.
-/

namespace PortalCertificate.Context.Shutdown

open PortalCertificate.Context.Accounts
open PortalCertificate.Context.Acquire
open PortalCertificate.Context.Callbacks
open PortalCertificate.Context.Completion
open PortalCertificate.Context.Deliveries
open PortalCertificate.Context.Floors
open PortalCertificate.Context.Grants
open PortalCertificate.Context.Lasting
open PortalCertificate.Context.Machine
open PortalCertificate.Context.Moves
open PortalCertificate.Context.Nudges
open PortalCertificate.Context.Requests
open PortalCertificate.Context.Sessions
open PortalCertificate.Context.Starts
open PortalCertificate.Context.Steps
open PortalCertificate.Library.Trace
open PortalCertificate.Library.Transition
open PortalCertificate.Tokens.Filter

variable {world next : World} {id : Nat}

/-! ## The queue of the desktop -/

/-- What a move may append to the queue. -/
def Handed (posted : Bool) (delivery : Delivery) : Prop :=
  (∃ id, delivery = .completion id) ∨
    posted = false ∧
      ∃ session reason, delivery = .invalidated session reason

/-- Deliveries of these kinds have been appended. -/
def Appends (kinds : Delivery → Prop) (before after : List Delivery) : Prop :=
  ∃ more, after = before ++ more ∧ ∀ delivery ∈ more, kinds delivery

section Appends

variable {kinds : Delivery → Prop} {first second third : List Delivery}

theorem Appends.refl (queue : List Delivery) : Appends kinds queue queue :=
  ⟨[], (List.append_nil _).symm, fun _ member => by cases member⟩

theorem Appends.one {delivery : Delivery} (kind : kinds delivery) :
    Appends kinds first (first ++ [delivery]) :=
  ⟨[delivery], rfl, fun _ member => List.mem_singleton.mp member ▸ kind⟩

theorem Appends.trans (here : Appends kinds first second)
    (there : Appends kinds second third) : Appends kinds first third := by
  rcases here with ⟨early, rfl, fits⟩
  rcases there with ⟨late, rfl, also⟩
  refine ⟨early ++ late, List.append_assoc .., ?_⟩
  intro delivery member
  exact (List.mem_append.mp member).elim (fits delivery) (also delivery)

end Appends

/-- The queue after a move. -/
inductive Queued (world next : World) : Prop where
  | appends (same : next.ui.shutdownPosted = world.ui.shutdownPosted)
      (handed : Appends (Handed world.ui.shutdownPosted)
        world.queue next.queue)
  | takes {delivery : Delivery} (other : delivery ≠ .shutdownDelivered)
      (same : next.ui.shutdownPosted = world.ui.shutdownPosted)
      (queue : world.queue = delivery :: next.queue)
  | ends (trace : next.trace = .shutdownDone :: world.trace)
  | shuts (ready : shutdownReady world = true)
      (last : next = { world with
        ui := { world.ui with shutdownPosted := true }
        live := [], queue := world.queue ++ [.shutdownDelivered] })

theorem appends_nudge (nudge : Nudge world next) :
    Appends (Handed world.ui.shutdownPosted)
      world.queue next.queue := by
  cases nudge with
  | touched touched =>
      rw [touched.rest]
      exact .refl _
  | closes id =>
      cases closed : (world.sessions id).closed with
      | true =>
          rw [close_closed closed]
          exact .refl _
      | false =>
          rcases close_open closed with ⟨told, ending⟩
          rw [ending.last]
          show Appends _ _ told.queue
          rw [ending.touched.rest]
          exact .refl _
  | invalidated id reason running =>
      exact .one (.inr ⟨running, id, reason, rfl⟩)
  | _ => exact .refl _

theorem appends_nudged (nudged : Nudged world next)
    (running : world.ui.shutdownPosted = false) :
    Appends (Handed world.ui.shutdownPosted)
      world.queue next.queue := by
  have all := @Composed.keeps _ _
    (fun later : World => later.ui.shutdownPosted = false ∧
      Appends (Handed false) world.queue later.queue)
    (by
      rintro first second nudge ⟨before, appends⟩
      have more := appends_nudge nudge
      rw [before] at more
      exact ⟨(Nudge.steady nudge).shutdownPosted.trans before,
        appends.trans more⟩)
    _ _ nudged ⟨running, .refl _⟩
  rw [running]
  exact all.2

/-- What a move does to the queue. -/
theorem queued_move (move : Move world next) : Queued world next := by
  have same {after : World}
      (posted : after.ui.shutdownPosted = world.ui.shutdownPosted)
      (queue : after.queue = world.queue) : Queued world after := by
    refine .appends posted ?_
    rw [queue]
    exact .refl _
  have told {after : World} {id : Nat}
      (posted : after.ui.shutdownPosted = world.ui.shutdownPosted)
      (queue : after.queue = world.queue ++ [.completion id]) :
      Queued world after := by
    refine .appends posted ?_
    rw [queue]
    exact .one (.inl ⟨id, rfl⟩)
  cases move with
  | nudge nudge =>
      exact .appends (Nudge.steady nudge).shutdownPosted
        (appends_nudge nudge)
  | dispatched running =>
      refine .appends (steady_dispatchPending running).shutdownPosted ?_
      have all := dispatchPending_keeps running
        (fun later => later.ui.shutdownPosted = false ∧
          Appends (Handed false) world.queue later.queue)
        (fun first second nudge here => by
          have more := appends_nudge nudge
          rw [here.1] at more
          exact ⟨(Nudge.steady nudge).shutdownPosted.trans here.1,
            here.2.trans more⟩)
        (fun _ _ here => here) ⟨running, .refl _⟩
      rw [running]
      exact all.2
  | @regenerated value rest running posts =>
      have nudged :=
        @nudged_generation { world with posts := rest } running value
      have more := appends_nudged nudged running
      exact .appends (Nudged.steady nudged).shutdownPosted more
  | uiTold aside waiting => exact same aside.shutdownPosted rfl
  | refused => exact told rfl rfl
  | answered answerable =>
      rw [xccRequestComplete_open answerable.unanswered]
      exact told rfl rfl
  | @published id enumeration snapshot realTime tokensPresent flying
      enumerating current choosing allowed available reported running =>
      have places := @samePlaces_publish (landed world id enumeration) id
        enumeration (certificateFilterApply snapshot
          (world.requests id).filter realTime) tokensPresent running
      refine same places.shutdownPosted ?_
      rw [publish]
      split <;> rfl
  | concluded reply chosen error ends => exact same ends.shutdownPosted rfl
  | granted answerable =>
      rw [xccRequestComplete]
      dsimp only
      split_ifs
      · exact same rfl rfl
      · exact told rfl rfl
  | registered spec =>
      rw [sessionNewRegister]
      split_ifs <;> exact same rfl rfl
  | rolledBack posts =>
      rw [rollbackAcquisition]
      dsimp only
      split <;> exact told rfl rfl
  | shut ready =>
      rw [xccContextCheckShutdown, if_pos ready]
      exact .shuts ready rfl
  | reads idle queue => exact .takes Delivery.noConfusion rfl queue
  | invalidationTold idle queue =>
      exact .takes Delivery.noConfusion rfl queue
  | shutdownTold idle queue => exact .ends rfl
  | settles delivering =>
      rw [completionSettles]
      dsimp only
      split_ifs
      · rw [World.post]
        split_ifs <;> exact same rfl rfl
      · split <;> exact same rfl rfl
      · exact same rfl rfl
  | calls calling =>
      rw [completionCalls]
      dsimp only
      split_ifs
      · exact same rfl rfl
      · rw [World.post]
        split_ifs <;> exact same rfl rfl
  | _ => exact same rfl rfl

/-- The event is the end of the shutdown. -/
def isShutdown : Event → Bool
  | .shutdownDone => true
  | _ => false

/-- The desktop is told of the shutdown by one move only. -/
theorem silent_move (move : Move world next) :
    Adds (fun event => isShutdown event = false) world.trace next.trace ∨
      ∃ rest, world.queue = .shutdownDelivered :: rest ∧
        next = { world with queue := rest }.emit .shutdownDone := by
  have aside {after : List Event}
      (adds : Adds (fun event => isAside event = true) world.trace after) :
      Adds (fun event => isShutdown event = false) world.trace after :=
    adds.mono fun event aside => by
      cases event <;> first | rfl | cases aside
  cases move with
  | shutdownTold idle queue => exact .inr ⟨_, queue, rfl⟩
  | nudge nudge => exact .inl (aside (aside_nudge nudge))
  | dispatched running =>
      exact .inl (aside (dispatchPending_keeps running
        (fun next => Adds (fun event => isAside event = true) world.trace
          next.trace)
        (fun _ _ nudge adds => adds.trans (aside_nudge nudge))
        (fun _ _ adds => adds.cons rfl) (.refl _)))
  | @regenerated value rest running posts =>
      have set : Adds (fun event => isAside event = true) world.trace
          (.ownerGeneration value :: world.trace) := (Adds.refl _).cons rfl
      exact .inl (aside (set.trans (aside_nudged
        (@nudged_generation { world with posts := rest } running value))))
  | answered =>
      rw [trace_xccRequestComplete]
      exact .inl (.refl _)
  | published =>
      left
      rw [publish]
      split <;> exact (Adds.refl _).cons rfl
  | granted =>
      rw [trace_xccRequestComplete]
      exact .inl ((Adds.refl _).cons rfl)
  | registered spec =>
      left
      rw [sessionNewRegister]
      split_ifs <;> exact .refl _
  | rolledBack posts =>
      left
      rw [rollbackAcquisition]
      dsimp only
      split <;> exact (Adds.refl _).cons rfl
  | shut ready =>
      rw [xccContextCheckShutdown, if_pos ready]
      exact .inl (.refl _)
  | settles delivering =>
      left
      rw [completionSettles]
      dsimp only
      split_ifs
      · rw [trace_post]
        exact .refl _
      · split <;> exact .refl _
      · exact .refl _
  | calls calling =>
      left
      rw [completionCalls]
      dsimp only
      split_ifs
      · exact (Adds.refl _).cons rfl
      · rw [trace_post]
        exact (Adds.refl _).cons rfl
  | _ => exact .inl (by first | exact .refl _ | exact (Adds.refl _).cons rfl)

/-! ## The invariant -/

/-- No end of a session is told after the shutdown. -/
def Last (first second : Delivery) : Prop :=
  first = .shutdownDelivered →
    ∀ session reason, second ≠ .invalidated session reason

/-- The end of the shutdown is queued or told once, and nothing comes after
it. -/
structure Sealed (world : World) : Prop where
  running : world.ui.shutdownPosted = false →
    .shutdownDelivered ∉ world.queue ∧ .shutdownDone ∉ world.trace
  once : world.ui.shutdownPosted = true →
    world.queue.count .shutdownDelivered + world.trace.countP isShutdown = 1
  last : world.queue.Pairwise Last
  silent : .shutdownDone ∈ world.trace →
    ∀ session reason, .invalidated session reason ∉ world.queue

theorem Handed.ne {posted : Bool} {delivery : Delivery}
    (handed : Handed posted delivery) : delivery ≠ .shutdownDelivered := by
  rcases handed with ⟨id, rfl⟩ | ⟨-, session, reason, rfl⟩
  · exact Delivery.noConfusion
  · exact Delivery.noConfusion

/-- The end of the shutdown is queued after the shutdown was posted. -/
theorem Sealed.posted (here : Sealed world)
    (queued : .shutdownDelivered ∈ world.queue) :
    world.ui.shutdownPosted = true := by
  by_contra running
  exact (here.running (Bool.eq_false_iff.mpr running)).1 queued

theorem Sealed.over (here : Sealed world)
    (done : .shutdownDone ∈ world.trace) :
    world.ui.shutdownPosted = true := by
  by_contra running
  exact (here.running (Bool.eq_false_iff.mpr running)).2 done

theorem shutdown_mem {before after : List Event}
    (adds : Adds (fun event => isShutdown event = false) before after)
    (done : .shutdownDone ∈ after) : .shutdownDone ∈ before := by
  rcases adds.mem done with other | old
  · cases other
  · exact old

theorem sealed_told (here : Sealed world) {rest : List Delivery}
    (queue : world.queue = .shutdownDelivered :: rest) :
    Sealed ({ world with queue := rest }.emit .shutdownDone) := by
  have posted := here.posted (by
    rw [queue]
    exact List.mem_cons_self ..)
  have last := here.last
  rw [queue, List.pairwise_cons] at last
  refine ⟨fun running => ?_, fun _ => ?_, last.2,
    fun _ session reason => ?_⟩
  · rw [show world.ui.shutdownPosted = false from running] at posted
    cases posted
  · have once := here.once posted
    rw [queue, List.count_cons_self] at once
    show rest.count _ + (Event.shutdownDone :: world.trace).countP _ = 1
    rw [List.countP_cons_of_pos rfl]
    omega
  · intro member
    exact last.1 _ member rfl session reason rfl

theorem sealed_appends (here : Sealed world)
    (same : next.ui.shutdownPosted = world.ui.shutdownPosted)
    (adds : Adds (fun event => isShutdown event = false) world.trace
      next.trace)
    (appends : Appends (Handed world.ui.shutdownPosted) world.queue
      next.queue) : Sealed next := by
  rcases appends with ⟨more, queue, handed⟩
  have absent : .shutdownDelivered ∉ more := fun member =>
    (handed _ member).ne rfl
  refine ⟨fun running => ?_, fun posted => ?_, ?_, fun done => ?_⟩
  · have before := here.running (same.symm.trans running)
    refine ⟨?_, fun done => before.2 (shutdown_mem adds done)⟩
    rw [queue, List.mem_append, not_or]
    exact ⟨before.1, absent⟩
  · rw [queue, List.count_append, List.count_eq_zero_of_not_mem absent,
      adds.countP fun _ other => other]
    exact here.once (same.symm.trans posted)
  · rw [queue, List.pairwise_append]
    refine ⟨here.last, ?_, ?_⟩
    · refine List.pairwise_of_forall_mem_list fun first member _ _ shut => ?_
      exact absurd (shut ▸ member) absent
    · intro first queued second member shut session reason told
      have posted := here.posted (shut ▸ queued)
      rw [told] at member
      rcases handed _ member with ⟨id, other⟩ | ⟨running, -⟩
      · cases other
      · rw [posted] at running
        cases running
  · intro session reason member
    have before := shutdown_mem adds done
    rw [queue, List.mem_append] at member
    rcases member with old | new
    · exact here.silent before session reason old
    · rcases handed _ new with ⟨id, other⟩ | ⟨running, -⟩
      · cases other
      · rw [here.over before] at running
        cases running

theorem sealed_takes (here : Sealed world) {delivery : Delivery}
    (other : delivery ≠ .shutdownDelivered)
    (same : next.ui.shutdownPosted = world.ui.shutdownPosted)
    (adds : Adds (fun event => isShutdown event = false) world.trace
      next.trace)
    (queue : world.queue = delivery :: next.queue) : Sealed next := by
  have last := here.last
  rw [queue, List.pairwise_cons] at last
  refine ⟨fun running => ?_, fun posted => ?_, last.2, fun done => ?_⟩
  · have before := here.running (same.symm.trans running)
    rw [queue, List.mem_cons, not_or] at before
    exact ⟨before.1.2, fun done => before.2 (shutdown_mem adds done)⟩
  · have once := here.once (same.symm.trans posted)
    rw [queue, List.count_cons_of_ne other] at once
    rw [adds.countP fun _ other => other]
    exact once
  · intro session reason member
    apply here.silent (shutdown_mem adds done) session reason
    rw [queue]
    exact List.mem_cons_of_mem _ member

theorem sealed_shuts (here : Sealed world)
    (ready : shutdownReady world = true) :
    Sealed { world with
      ui := { world.ui with shutdownPosted := true }
      live := [], queue := world.queue ++ [.shutdownDelivered] } := by
  have running : world.ui.shutdownPosted = false := by
    simp only [shutdownReady, Bool.and_eq_true, Bool.not_eq_true'] at ready
    tauto
  have before := here.running running
  refine ⟨Bool.noConfusion, fun _ => ?_, ?_, fun done => ?_⟩
  · show (world.queue ++ [Delivery.shutdownDelivered]).count _ + _ = 1
    rw [List.count_append, List.count_eq_zero_of_not_mem before.1]
    have none : world.trace.countP isShutdown = 0 := by
      rw [List.countP_eq_zero]
      rintro event member shut
      cases event with
      | shutdownDone => exact before.2 member
      | _ => cases shut
    rw [none]
    rfl
  · show (world.queue ++ [Delivery.shutdownDelivered]).Pairwise Last
    rw [List.pairwise_append]
    refine ⟨here.last, List.pairwise_singleton .., ?_⟩
    intro first queued second member shut
    exact absurd (shut ▸ queued) before.1
  · exact absurd done before.2

theorem sealed_move (move : Move world next) (here : Sealed world) :
    Sealed next := by
  rcases silent_move move with adds | ⟨rest, queue, last⟩
  · cases queued_move move with
    | appends same handed => exact sealed_appends here same adds handed
    | takes other same queue => exact sealed_takes here other same adds queue
    | ends trace =>
        have count := adds.countP fun _ other => other
        rw [trace, List.countP_cons_of_pos rfl] at count
        omega
    | shuts ready last =>
        rw [last]
        exact sealed_shuts here ready
  · rw [last]
    exact sealed_told here queue

theorem sealed_of_reachable (reachable : machine.Reachable world) :
    Sealed world := by
  refine invariant_of_moves ?_ (fun _ _ _ here move =>
    sealed_move move here) reachable
  rintro ui generation now ⟨_, _, _, _, rfl⟩
  refine ⟨fun _ => ?_, Bool.noConfusion, List.Pairwise.nil, fun done => ?_⟩
  · exact ⟨List.not_mem_nil, List.not_mem_nil⟩
  · cases done

/-! ## What comes after the end -/

/-- Only requests that came too late are called back after the end. -/
def Parting (late : Nat → Prop) : Event → List Event → Prop
  | .shutdownDone, before | .uiDelivered, before
  | .sessionInvalidated .., before | .validated .., before
  | .concluded .., before | .granted .., before | .rolledBack _, before =>
      .shutdownDone ∉ before
  | .delivering id _ _, before | .done id _, before =>
      .shutdownDone ∈ before → late id
  | _, _ => True

/-- A request that is not accepted any more. -/
def Late (world : World) (id : Nat) : Prop :=
  (world.requests id).detached = true

/-- Once the shutdown is posted, every request that was accepted has been
told. -/
theorem served (located : Located world)
    (posted : world.ui.shutdownPosted = true) (born : id < world.nextRequest)
    (accepted : (world.requests id).detached = false) :
    told world.trace id = 1 := by
  have past := located.past posted
  have answered : (world.requests id).answered = true := by
    by_contra unanswered
    rcases located.waiting id born (Bool.eq_false_iff.mpr unanswered) with
      start | active
    · rw [past.1] at start
      cases start
    · rw [past.2.1] at active
      cases active
  have balance := located.balance id
  rw [answered, Bool.toNat_true] at balance
  by_contra fresh
  have none : told world.trace id = 0 := by omega
  rcases located.undelivered id answered none with active | late
  · rw [past.2.1] at active
    cases active
  · rw [accepted] at late
    cases late

/-- After the end, a request that has not been told came too late. -/
theorem late_of_fresh (located : Located world)
    (posted : world.ui.shutdownPosted = true)
    (answered : (world.requests id).answered = true)
    (fresh : told world.trace id = 0) : Late world id := by
  have born : id < world.nextRequest := by
    by_contra unborn
    rw [(located.unborn id (Nat.le_of_not_lt unborn)).1] at answered
    cases answered
  by_contra accepted
  have told := served located posted born (Bool.eq_false_iff.mpr accepted)
  omega

theorem parting_notes {event : Event} (notes : Notes world next event)
    (basic : Basic world) (here : Sealed world) :
    Parting (Late world) event world.trace := by
  have located := basic.located
  have past (done : .shutdownDone ∈ world.trace) :=
    located.past (here.over done)
  have active {id : Nat} (member : id ∈ world.active)
      (done : .shutdownDone ∈ world.trace) : False := by
    rw [(past done).2.1] at member
    cases member
  cases notes with
  | uiDelivered waiting => exact fun done => waiting (past done).2.2
  | validated posts =>
      intro done
      rw [(past done).1] at posts
      cases posts
  | concluded ends fair last events =>
      intro done
      have running := ends.running
      rw [here.over done] at running
      cases running
  | granted answerable => exact active answerable.active
  | rolledBack posts =>
      intro done
      rw [(past done).1] at posts
      cases posts
  | @delivering id rest idle queue =>
      intro done
      have place := located.answered_of_queue (by
        rw [queue]
        exact List.mem_cons_self ..)
      exact late_of_fresh located (here.over done) place.1 place.2.2.2
  | @done id calling =>
      intro done
      have place := located.answered_of_desk (by
        rw [calling, desk, if_pos rfl])
      exact late_of_fresh located (here.over done) place.1 place.2.2.2
  | @sessionInvalidated id reason rest idle queue =>
      intro done
      apply here.silent done id reason
      rw [queue]
      exact List.mem_cons_self ..
  | @shutdownDone rest idle queue =>
      intro done
      have once := here.once (here.over done)
      have counted : 0 < world.trace.countP isShutdown :=
        List.countP_pos_iff.mpr ⟨_, done, rfl⟩
      rw [queue, List.count_cons_self] at once
      omega
  | _ => trivial

theorem late_move (move : Move world next) (basic : Basic world)
    (late : Late world id) : Late next id := by
  have born : id < world.nextRequest := by
    by_contra unborn
    have fresh := (basic.located.unborn id (Nat.le_of_not_lt unborn)).2
    rw [show (world.requests id).detached = true from late] at fresh
    cases fresh
  exact ((lasting_move move basic.orderly born).detached).trans late

theorem Parting.mono {late later : Nat → Prop} {event : Event}
    {before : List Event} (here : Parting late event before)
    (weaker : ∀ id, late id → later id) : Parting later event before := by
  cases event with
  | delivering id intent error => exact fun done => weaker id (here done)
  | done id result => exact fun done => weaker id (here done)
  | _ => exact here

theorem parting_move (move : Move world next) (basic : Basic world)
    (here : Sealed world)
    (each : Each (Parting (Late world)) world.trace) :
    Each (Parting (Late next)) next.trace := by
  have weaker {event : Event} {before : List Event}
      (here : Parting (Late world) event before) :
      Parting (Late next) event before :=
    here.mono fun _ => late_move move basic
  have kept : Each (Parting (Late next)) world.trace :=
    fun since event before split => weaker (each since event before split)
  cases news_move move with
  | aside adds =>
      refine adds.each kept fun event before aside => ?_
      cases event <;> trivial
  | notes notes trace =>
      rw [trace]
      exact each_cons.mpr ⟨weaker (parting_notes notes basic here), kept⟩

/-- What holds when the desktop has been told of the shutdown. -/
structure Ended (world : World) : Prop where
  served : ∀ id < world.nextRequest,
    (world.requests id).detached = false → told world.trace id = 1
  posts : world.posts = []
  active : world.active = []
  messages : world.ui.pending = []
  queue : ∀ delivery ∈ world.queue,
    ∃ id, delivery = .completion id ∧ Late world id

theorem ended_of_done (located : Located world) (here : Sealed world)
    (done : .shutdownDone ∈ world.trace) : Ended world := by
  have posted := here.over done
  have past := located.past posted
  have counted : 0 < world.trace.countP isShutdown :=
    List.countP_pos_iff.mpr ⟨_, done, rfl⟩
  have once := here.once posted
  refine ⟨fun id born accepted => served located posted born accepted,
    past.1, past.2.1, past.2.2, fun delivery member => ?_⟩
  cases delivery with
  | completion id =>
      have place := located.answered_of_queue member
      exact ⟨id, rfl, late_of_fresh located posted place.1 place.2.2.2⟩
  | invalidated session reason =>
      exact absurd member (here.silent done session reason)
  | shutdownDelivered =>
      have queued := List.count_pos_iff.mpr member
      omega

/-- In every reachable state the desktop has been told of the shutdown at
most once.  After that, no message of the UI, no end of a session and no
accepted request is called back: every accepted request had been called back
before, and what is still in the queue is of requests that came too late. -/
theorem shutdown_last (reachable : machine.Reachable world) :
    Each (Parting (Late world)) world.trace ∧
      (.shutdownDone ∈ world.trace → Ended world) := by
  have both : Sealed world ∧ Each (Parting (Late world)) world.trace := by
    refine @invariant_of_moves _
      (fun world => Sealed world ∧ Each (Parting (Late world)) world.trace)
      ?_ ?_ reachable
    · intro ui generation now initial
      exact ⟨sealed_of_reachable (.initial ⟨ui, generation, now, initial,
        rfl⟩), each_nil⟩
    · intro world next basic here move
      exact ⟨sealed_move move here.1, parting_move move basic here.1 here.2⟩
  exact ⟨both.2,
    ended_of_done (basic_of_reachable reachable).located both.1⟩

/-- One request is running when the context is shut down, and another one
is too late. -/
theorem shutdown_last_refused :
    ∃ world,
      machine.run exampleStart
          [.capabilities, .post, .shutdown, .post, .watchStopped,
            .capabilitiesDone 0, .deliver, .proceed, .proceed, .post,
            .capabilities, .deliver, .deliver] = some world ∧
        (world.requests 0).detached = false ∧
        (world.requests 1).detached = true ∧
        .shutdownDone ∈ world.trace ∧
        Each (Parting (Late world)) world.trace ∧ Ended world := by
  have run : ∃ world event before,
      machine.run exampleStart
          [.capabilities, .post, .shutdown, .post, .watchStopped,
            .capabilitiesDone 0, .deliver, .proceed, .proceed, .post,
            .capabilities, .deliver, .deliver] = some world ∧
        (world.requests 0).detached = false ∧
        (world.requests 1).detached = true ∧
        world.trace = event :: .shutdownDone :: before :=
    ⟨_, _, _, rfl, rfl, rfl, rfl⟩
  rcases run with ⟨world, event, before, moved, accepted, late, trace⟩
  have done : .shutdownDone ∈ world.trace := by
    rw [trace]
    exact List.mem_cons_of_mem _ (List.mem_cons_self ..)
  have last := shutdown_last (exampleStart_reachable.run moved)
  exact ⟨world, moved, accepted, late, done, last.1, last.2 done⟩

end PortalCertificate.Context.Shutdown
