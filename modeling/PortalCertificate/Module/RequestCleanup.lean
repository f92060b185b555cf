import PortalCertificate.Module.RequestLife

/-!
# Clean-up of portal requests

Every request of every run is as the events that reached it say: it has been
completed by the first event that ends its wait, at most once, and the paths
that were closed for it are those that this event and the method reply call
for.
-/

namespace PortalCertificate.Module.RequestCleanup

open PortalCertificate.Library.Transition
open PortalCertificate.Module.PortalClient
open PortalCertificate.Module.PortalSteps
open PortalCertificate.Module.RequestLife
open PortalCertificate.Module.Requests

/-! ## Requests in the trace -/

/-- What arrives for the request. -/
def arrival (id : Nat) : Event → Option RequestEvent
  | .arrived request event => if request = id then some event else none
  | _ => none

/-- The path that is closed for the request. -/
def closing (id : Nat) : Event → Option ObjectPath
  | .closed request _ path => if request = id then some path else none
  | _ => none

/-- The request is completed. -/
def completion (id : Nat) : Event → Bool
  | .completed request => request == id
  | _ => false

/-- The events of a request, newest first. -/
def arrivals (id : Nat) (trace : List Event) : List RequestEvent :=
  trace.filterMap (arrival id)

/-- The paths for which `Close` was sent for a request, newest first. -/
def closes (id : Nat) (trace : List Event) : List ObjectPath :=
  trace.filterMap (closing id)

/-- How often the request has been completed. -/
def completions (id : Nat) (trace : List Event) : Nat :=
  trace.countP (completion id)

theorem mem_arrivals
    {id : Nat} {event : RequestEvent} {trace : List Event} :
    event ∈ arrivals id trace ↔ .arrived id event ∈ trace := by
  simp only [arrivals, List.mem_filterMap]
  constructor
  · rintro ⟨found, member, reads⟩
    cases found with
    | arrived other event' =>
        simp only [arrival] at reads
        split_ifs at reads with same
        cases reads
        exact same ▸ member
    | _ => cases reads
  · intro member
    exact ⟨_, member, by simp [arrival]⟩

section Callback

variable
  {id : Nat} {event : RequestEvent} {before after : PortalRequest}
  {paths : List ObjectPath} {trace : List Event}

theorem filterMap_closed
    {Value : Type} {read : Event → Option Value} {owner : Option BusName}
    (silent : ∀ path, read (.closed id owner path) = none) :
    (paths.reverse.map (Event.closed id owner)).filterMap read = [] := by
  rw [List.filterMap_eq_nil_iff]
  intro found member
  rcases List.mem_map.mp member with ⟨path, -, rfl⟩
  exact silent path

theorem arrivals_callback (other : Nat) :
    arrivals other
        (callbackEvents id event before after paths ++ trace) =
      if other = id then
        event :: arrivals other trace
      else
        arrivals other trace := by
  have silent :
      (if after.completed && !before.completed then
        [Event.completed id] else []).filterMap (arrival other) = [] := by
    split_ifs <;> rfl
  rw [callbackEvents, arrivals, List.filterMap_append,
    List.filterMap_append, List.filterMap_append, silent,
    filterMap_closed fun _ => rfl]
  by_cases same : other = id
  · simp [arrival, same, arrivals]
  · simp [arrival, same, Ne.symm same, arrivals]

theorem closes_callback (other : Nat) :
    closes other (callbackEvents id event before after paths ++ trace) =
      if other = id then
        paths.reverse ++ closes other trace
      else
        closes other trace := by
  have silent :
      (if after.completed && !before.completed then
        [Event.completed id] else []).filterMap (closing other) = [] := by
    split_ifs <;> rfl
  have quiet : [Event.arrived id event].filterMap (closing other) = [] :=
    rfl
  rw [callbackEvents, closes, List.filterMap_append,
    List.filterMap_append, List.filterMap_append, silent, quiet]
  by_cases same : other = id
  · subst same
    have all : closing other ∘ Event.closed other after.owner = some := by
      funext path
      simp [closing]
    rw [List.filterMap_map, all, List.filterMap_some, if_pos rfl]
    simp [closes]
  · rw [filterMap_closed fun _ => by simp [closing, Ne.symm same]]
    simp [same, closes]

theorem completions_callback (other : Nat) :
    completions other
        (callbackEvents id event before after paths ++ trace) =
      (if other = id ∧ after.completed = true ∧ before.completed = false
        then 1 else 0) + completions other trace := by
  have silent :
      (paths.reverse.map (Event.closed id after.owner)).countP
        (completion other) = 0 := by
    simp [List.countP_eq_zero, completion]
  rw [callbackEvents, completions, List.countP_append,
    List.countP_append, List.countP_append, silent]
  by_cases ends : after.completed = true ∧ before.completed = false
  · by_cases same : other = id
    · simp [ends, completion, same, completions]
    · simp [ends, completion, same, Ne.symm same, completions]
  · have kept : (after.completed && !before.completed) = false := by
      simpa using ends
    simp [kept, ends, completion, completions]

end Callback

/-! ## Every run -/

/-- The request is as its events in the trace say. -/
structure Accounted (id : Nat) (request : PortalRequest)
    (trace : List Event) : Prop where
  life : Life request (arrivals id trace) (closes id trace)
  completions :
    completions id trace = if request.completed then 1 else 0

/-- Nothing has happened to the request. -/
structure Unheard (id : Nat) (trace : List Event) : Prop where
  arrivals : arrivals id trace = []
  closes : closes id trace = []
  completions : completions id trace = 0

/-- The requests of a client, as far as their callbacks see them. -/
structure Kept (world : World) : Prop where
  known : ∀ id request, world.requests id = some request →
    Accounted id request world.trace
  unknown : ∀ id, world.requests id = none → Unheard id world.trace
  fresh : ∀ id, world.nextRequest ≤ id → world.requests id = none
  live : ∀ id ∈ world.live, ∃ request,
    world.requests id = some request ∧
    request.queued = false ∧ request.completed = false
  nodup : world.live.Nodup

theorem kept_start : Kept .start where
  known _ _ found := by cases found
  unknown _ _ := ⟨rfl, rfl, rfl⟩
  fresh _ _ := rfl
  live _ member := absurd member List.not_mem_nil
  nodup := .nil

/-- The step leaves the requests and their events alone. -/
structure Aside (first second : World) : Prop where
  requests : second.requests = first.requests
  nextRequest : second.nextRequest = first.nextRequest
  live : second.live = first.live
  arrivals : ∀ id, arrivals id second.trace = arrivals id first.trace
  closes : ∀ id, closes id second.trace = closes id first.trace
  completions :
    ∀ id, completions id second.trace = completions id first.trace

theorem Kept.aside
    {first second : World} (kept : Kept first)
    (aside : Aside first second) : Kept second where
  known id request found := by
    rw [aside.requests] at found
    have before := kept.known id request found
    constructor
    · rw [aside.arrivals, aside.closes]
      exact before.life
    · rw [aside.completions]
      exact before.completions
  unknown id missing := by
    rw [aside.requests] at missing
    have before := kept.unknown id missing
    exact ⟨(aside.arrivals id).trans before.arrivals,
      (aside.closes id).trans before.closes,
      (aside.completions id).trans before.completions⟩
  fresh id beyond := by
    rw [aside.nextRequest] at beyond
    rw [aside.requests]
    exact kept.fresh id beyond
  live := by
    rw [aside.live, aside.requests]
    exact kept.live
  nodup := aside.live ▸ kept.nodup

/-- A callback that keeps the account of its request. -/
theorem Kept.callback
    {world : World} (kept : Kept world) {id : Nat} {request : PortalRequest}
    (found : world.requests id = some request) {event : RequestEvent}
    {handler : PortalRequest → PortalRequest × List ObjectPath}
    (lives : Lives (arrivals id world.trace) (closes id world.trace) event
      (handler request))
    (steady : Steady request (handler request).1) :
    Kept (world.callback id request event handler) where
  known other changed present := by
    by_cases same : other = id
    · subst same
      have now : changed = (handler request).1 := by
        simpa [World.callback] using present.symm
      subst now
      constructor
      · show Life _ (arrivals other _) (closes other _)
        rw [World.callback, arrivals_callback, closes_callback, if_pos rfl,
          if_pos rfl]
        exact lives
      · show completions other _ = _
        rw [World.callback, completions_callback,
          (kept.known other request found).completions]
        have forward := steady.completed
        cases before : request.completed <;>
          cases after : (handler request).1.completed <;>
          simp_all
    · have old : world.requests other = some changed := by
        simpa [World.callback, same] using present
      have before := kept.known other changed old
      constructor
      · show Life _ (arrivals other _) (closes other _)
        rw [World.callback, arrivals_callback, closes_callback,
          if_neg same, if_neg same]
        exact before.life
      · show completions other _ = _
        rw [World.callback, completions_callback, before.completions]
        simp [same]
  unknown other missing := by
    by_cases same : other = id
    · simp [World.callback, same] at missing
    · have before := kept.unknown other
        (by simpa [World.callback, same] using missing)
      constructor
      · show arrivals other _ = []
        rw [World.callback, arrivals_callback, if_neg same]
        exact before.arrivals
      · show closes other _ = []
        rw [World.callback, closes_callback, if_neg same]
        exact before.closes
      · show completions other _ = 0
        rw [World.callback, completions_callback]
        simp [same, before.completions]
  fresh other beyond := by
    have old := kept.fresh other beyond
    have same : other ≠ id := by
      rintro rfl
      rw [old] at found
      cases found
    simpa [World.callback, same] using old
  live other member := by
    change other ∈ if _ then world.live.erase id else world.live at member
    have before : other ∈ world.live := by
      split_ifs at member
      · exact List.mem_of_mem_erase member
      · exact member
    rcases kept.live other before with ⟨old, present, begun, waiting⟩
    by_cases same : other = id
    · subst same
      cases found.symm.trans present
      refine ⟨(handler request).1, by simp [World.callback],
        steady.begun begun, ?_⟩
      cases ends : (handler request).1.completed with
      | false => rfl
      | true =>
          rw [if_pos (by simp [ends, waiting])] at member
          exact absurd member (kept.nodup.not_mem_erase)
    · exact ⟨old, by simpa [World.callback, same] using present, begun,
        waiting⟩
  nodup := by
    show (if _ then world.live.erase id else world.live).Nodup
    split_ifs
    · exact kept.nodup.erase id
    · exact kept.nodup

section Steps

variable {world next : World} (kept : Kept world)

include kept

theorem Kept.dispatch
    {id : Nat} {held : PortalRequest → Bool} {event : RequestEvent}
    {handler : PortalRequest → PortalRequest × List ObjectPath}
    (lives : ∀ request events closes, Life request events closes →
      held request = true → Lives events closes event (handler request))
    (handles : Handles event handler)
    (moves : world.dispatch id held event handler = some next) :
    Kept next := by
  unfold World.dispatch at moves
  split at moves
  · cases moves
  · rename_i request found
    split_ifs at moves with holds
    cases moves
    exact kept.callback found
      (lives _ _ _ (kept.known id request found).life holds)
      (handles.steady request)

/-- Every request in the list is live until its turn. -/
theorem Kept.foldl
    {event : RequestEvent}
    {handler : PortalRequest → PortalRequest × List ObjectPath}
    (lives : ∀ request events, Live request events →
      Lives events [] event (handler request))
    (handles : Handles event handler)
    {ids : List Nat} (nodup : ids.Nodup)
    (members : ∀ id ∈ ids, id ∈ world.live) :
    Kept (ids.foldl
      (fun world id =>
        match world.requests id with
        | none => world
        | some request => world.callback id request event handler)
      world) := by
  induction ids generalizing world with
  | nil => exact kept
  | cons id rest ih =>
      rcases kept.live id (members id (List.mem_cons_self ..)) with
        ⟨request, found, begun, waiting⟩
      rcases (kept.known id request found).life.live_of_waiting begun
        waiting with ⟨live, silent⟩
      rw [List.foldl_cons, found]
      refine ih (kept.callback found ?_ (handles.steady request))
        (List.nodup_cons.mp nodup).2 ?_
      · rw [silent]
        exact lives request _ live
      · intro other member
        have different : other ≠ id := by
          rintro rfl
          exact (List.nodup_cons.mp nodup).1 member
        have before := members other (List.mem_cons_of_mem _ member)
        show other ∈ if _ then world.live.erase id else world.live
        split_ifs
        · exact (List.mem_erase_of_ne different).mpr before
        · exact before

theorem Kept.sweep
    {event : RequestEvent}
    {handler : PortalRequest → PortalRequest × List ObjectPath}
    (lives : ∀ request events, Live request events →
      Lives events [] event (handler request))
    (handles : Handles event handler) :
    Kept (world.sweep event handler) :=
  kept.foldl lives handles kept.nodup fun _ member => member

theorem Kept.queued
    {id : Nat} {request : PortalRequest}
    (found : world.requests id = some request)
    (waiting : request.queued = true) :
    Queued request ∧
      arrivals id world.trace = [] ∧ closes id world.trace = [] := by
  have life := (kept.known id request found).life
  generalize arrivals id world.trace = events at life ⊢
  generalize closes id world.trace = paths at life ⊢
  cases life with
  | queued queued => exact ⟨queued, rfl, rfl⟩
  | live live => exact absurd waiting (by simp [live.queued])
  | settled settled => exact absurd waiting (by simp [settled.queued])

theorem Kept.abandon
    {id : Nat} {request : PortalRequest}
    (found : world.requests id = some request)
    (waiting : request.queued = true) (code : Calls.PortalErrorCode) :
    Kept (world.callback id request (.abandoned code) (abandon code)) := by
  rcases kept.queued found waiting with ⟨queued, arrivals, closes⟩
  refine kept.callback found ?_ (Handles.steady (.abandoned code) request)
  rw [arrivals, closes]
  exact queued.abandon code

theorem Kept.send
    {id : Nat} {request : PortalRequest}
    (found : world.requests id = some request)
    (waiting : request.queued = true) (owner : BusName) :
    Kept
      { world.callback id request (.sent owner) (send owner) with
        live :=
          id :: (world.callback id request (.sent owner) (send owner)).live }
    := by
  rcases kept.queued found waiting with ⟨queued, arrivals, closes⟩
  have sent :
      Kept (world.callback id request (.sent owner)
        (Requests.send owner)) := by
    refine kept.callback found ?_ (Handles.steady (.sent owner) request)
    rw [arrivals, closes]
    exact queued.send owner
  refine { sent with live := ?_, nodup := ?_ }
  · intro other member
    rcases List.mem_cons.mp member with rfl | member
    · refine ⟨(Requests.send owner request).1, by simp [World.callback],
        rfl, queued.completed⟩
    · exact sent.live other member
  · refine List.nodup_cons.mpr ⟨?_, sent.nodup⟩
    intro member
    have old : id ∈ world.live := by
      change id ∈ if _ then world.live.erase id else world.live at member
      split_ifs at member
      · exact List.mem_of_mem_erase member
      · exact member
    rcases kept.live id old with ⟨other, present, begun, -⟩
    cases found.symm.trans present
    exact absurd waiting (by simp [begun])

theorem Kept.requestStart
    {id : Nat} {request : PortalRequest}
    (found : world.requests id = some request)
    (waiting : request.queued = true) :
    Kept (requestStart world id request) := by
  unfold PortalClient.requestStart
  split
  · split_ifs
    · exact kept.abandon found waiting _
    · exact kept.send found waiting _
    · exact kept.abandon found waiting _
    · exact kept.abandon found waiting _
  · exact kept.abandon found waiting _

theorem Kept.queue
    (method : PortalMethod) (parameters : Parameters)
    (path : Option ObjectPath) (generation : Nat) (grant : Option Grant) :
    Kept (world.queue method parameters path generation grant) := by
  have fresh := kept.fresh world.nextRequest le_rfl
  have unheard := kept.unknown world.nextRequest fresh
  constructor
  · intro id request found
    by_cases same : id = world.nextRequest
    · subst same
      have now : request =
          PortalRequest.new method parameters path generation := by
        simpa [World.queue] using found.symm
      subst now
      constructor
      · show Life _ (arrivals _ world.trace) (closes _ world.trace)
        rw [unheard.arrivals, unheard.closes]
        exact .queued ⟨⟨rfl, rfl, rfl, rfl, rfl, rfl⟩, rfl, rfl, rfl, rfl,
          rfl, rfl⟩
      · exact unheard.completions
    · have old : world.requests id = some request := by
        simpa [World.queue, same] using found
      have before := kept.known id request old
      exact ⟨before.life, before.completions⟩
  · intro id missing
    by_cases same : id = world.nextRequest
    · simp [World.queue, same] at missing
    · have before := kept.unknown id
        (by simpa [World.queue, same] using missing)
      exact ⟨before.arrivals, before.closes, before.completions⟩
  · intro id beyond
    have later : world.nextRequest + 1 ≤ id := beyond
    have different : id ≠ world.nextRequest := by omega
    simpa [World.queue, different] using kept.fresh id (by omega)
  · intro id member
    rcases kept.live id member with ⟨request, found, rest⟩
    have different : id ≠ world.nextRequest := by
      rintro rfl
      rw [fresh] at found
      cases found
    exact ⟨request, by simpa [World.queue, different] using found, rest⟩
  · exact kept.nodup

/-- The thread of the client keeps the requests. -/
theorem Kept.clientStep
    {action : Action} (moves : clientStep world action = some next) :
    Kept next := by
  cases action with
  | ownerChanged owner =>
      simp only [PortalClient.clientStep] at moves
      split_ifs at moves
      cases moves
      refine kept.aside ?_
      unfold PortalClient.ownerChanged
      split_ifs <;> exact ⟨rfl, rfl, rfl, fun _ => rfl, fun _ => rfl,
        fun _ => rfl⟩
  | invalidated session =>
      simp only [PortalClient.clientStep] at moves
      split_ifs at moves
      cases moves
      exact kept.aside
        ⟨rfl, rfl, rfl, fun _ => rfl, fun _ => rfl, fun _ => rfl⟩
  | start id =>
      simp only [PortalClient.clientStep] at moves
      split at moves
      · cases moves
      · rename_i request found
        split_ifs at moves with waiting
        cases moves
        exact kept.requestStart found waiting
  | methodReturned id reply =>
      exact kept.dispatch
        (fun _ _ _ life calling => life.methodReturned calling reply)
        (.methodReturned reply) moves
  | response id path response results =>
      exact kept.dispatch
        (fun _ _ _ life heard => life.response heard response results)
        (.response response results) moves
  | timedOut id =>
      exact kept.dispatch (fun _ _ _ life armed => life.timedOut armed)
        .timedOut moves
  | cancelRequests =>
      cases moves
      have cancelled : Kept { world with cancelled := true } :=
        kept.aside
          ⟨rfl, rfl, rfl, fun _ => rfl, fun _ => rfl, fun _ => rfl⟩
      exact cancelled.sweep (fun _ _ live => live.cancelled) .cancelled
  | beginDrain =>
      cases moves
      exact kept.aside
        ⟨rfl, rfl, rfl, fun _ => rfl, fun _ => rfl, fun _ => rfl⟩
  | ownerSweep | enter | advance => cases moves

/-- A thread moves, with events that are not of a request. -/
theorem Kept.goes (thread : Nat) (pc : Pc) : Kept (world.goes thread pc) :=
  kept.aside ⟨rfl, rfl, rfl, fun _ => rfl, fun _ => rfl, fun _ => rfl⟩

theorem Kept.refuse (thread : Nat) (error : Option RequestError) :
    Kept (world.refuse thread error) :=
  kept.aside ⟨rfl, rfl, rfl, fun _ => rfl, fun _ => rfl, fun _ => rfl⟩

theorem Kept.numbered (counter : Int32) :
    Kept { world with counter } :=
  kept.aside ⟨rfl, rfl, rfl, fun _ => rfl, fun _ => rfl, fun _ => rfl⟩

theorem Kept.advance
    {bus : Bus} {thread now : Nat} {reply : Option (Option (List String))}
    (moves : advance bus world thread now reply = some next) :
    Kept next := by
  cases pc : world.threads thread with
  | idle => simp [PortalClient.advance, pc] at moves
  | entering purpose =>
      simp only [PortalClient.advance, pc] at moves
      split_ifs at moves
      cases moves
      refine kept.aside ?_
      unfold World.beginProbe
      split
      · exact ⟨rfl, rfl, rfl, fun _ => rfl, fun _ => rfl, fun _ => rfl⟩
      · split_ifs <;>
          exact ⟨rfl, rfl, rfl, fun _ => rfl, fun _ => rfl, fun _ => rfl⟩
  | probing purpose owner generation =>
      simp only [PortalClient.advance, pc] at moves
      cases moves
      refine kept.aside ?_
      unfold PortalClient.finishProbe
      split_ifs <;>
        exact ⟨rfl, rfl, rfl, fun _ => rfl, fun _ => rfl, fun _ => rfl⟩
  | reading purpose =>
      simp only [PortalClient.advance, pc] at moves
      cases moves
      refine kept.aside ?_
      unfold World.told
      split <;>
        exact ⟨rfl, rfl, rfl, fun _ => rfl, fun _ => rfl, fun _ => rfl⟩
  | copying | snapshotting =>
      simp only [PortalClient.advance, pc] at moves
      cases moves
      exact kept.aside
        ⟨rfl, rfl, rfl, fun _ => rfl, fun _ => rfl, fun _ => rfl⟩
  | creatingSession owner generation =>
      simp only [PortalClient.advance, pc] at moves
      cases moves
      exact (kept.numbered _).goes _ _
  | namingSession owner generation token =>
      simp only [PortalClient.advance, pc] at moves
      cases moves
      unfold World.createSession
      dsimp only
      split
      · exact (kept.numbered _).refuse _ _
      · exact ((kept.numbered _).queue _ _ _ _ _).goes _ _
  | awaitingSession owner generation request =>
      simp only [PortalClient.advance, pc] at moves
      rcases Option.map_eq_some_iff.mp moves with ⟨answer, -, rfl⟩
      unfold World.takeSession
      split
      · exact kept.refuse _ _
      · split
        · exact kept.refuse _ _
        · exact kept.goes _ _
  | acquiring owner generation session =>
      simp only [PortalClient.advance, pc] at moves
      cases moves
      exact ((kept.numbered _).queue _ _ _ _ _).goes _ _
  | awaitingGrant owner generation session request =>
      simp only [PortalClient.advance, pc] at moves
      rcases Option.map_eq_some_iff.mp moves with ⟨answer, -, rfl⟩
      unfold World.takeGrant
      refine kept.aside ?_
      split <;>
        exact ⟨rfl, rfl, rfl, fun _ => rfl, fun _ => rfl, fun _ => rfl⟩
  | granting owner generation session request results =>
      simp only [PortalClient.advance, pc] at moves
      cases moves
      refine kept.aside ?_
      unfold World.finishGrant
      split_ifs
      · exact ⟨rfl, rfl, rfl, fun _ => rfl, fun _ => rfl, fun _ => rfl⟩
      · split <;>
          exact ⟨rfl, rfl, rfl, fun _ => rfl, fun _ => rfl, fun _ => rfl⟩
  | operating operation =>
      simp only [PortalClient.advance, pc] at moves
      cases moves
      unfold World.beginOperation
      dsimp only
      split_ifs
      · exact (kept.numbered _).refuse _ _
      · exact (kept.numbered _).goes _ _
  | requesting operation token path =>
      simp only [PortalClient.advance, pc] at moves
      cases moves
      exact (kept.queue _ _ _ _ _).goes _ _
  | awaitingResult operation request =>
      simp only [PortalClient.advance, pc] at moves
      rcases Option.map_eq_some_iff.mp moves with ⟨answer, -, rfl⟩
      unfold World.takeResult
      split
      · exact kept.refuse _ _
      · exact kept.goes _ _
  | confirming operation request results =>
      simp only [PortalClient.advance, pc] at moves
      cases moves
      refine kept.aside ?_
      unfold World.finishOperation
      split_ifs
      · exact ⟨rfl, rfl, rfl, fun _ => rfl, fun _ => rfl, fun _ => rfl⟩
      · split <;>
          exact ⟨rfl, rfl, rfl, fun _ => rfl, fun _ => rfl, fun _ => rfl⟩

/-- The step lemma. -/
theorem Kept.step
    {bus : Bus} {action : Action}
    (moves : (machine bus).step world action = some next) : Kept next := by
  cases action with
  | ownerSweep =>
      simp only [machine, PortalClient.step] at moves
      split_ifs at moves
      cases moves
      have swept :=
        kept.sweep (fun _ _ live => live.ownerChanged) .ownerChanged
      exact swept.aside
        ⟨rfl, rfl, rfl, fun _ => rfl, fun _ => rfl, fun _ => rfl⟩
  | enter thread entry =>
      simp only [machine, PortalClient.step] at moves
      split_ifs at moves
      cases moves
      exact kept.goes _ _
  | advance thread now reply => exact kept.advance moves
  | ownerChanged | invalidated | start | methodReturned | response
  | timedOut | cancelRequests | beginDrain =>
      simp only [machine, PortalClient.step] at moves
      split_ifs at moves
      exact kept.clientStep moves

end Steps

/-- The run lemma. -/
theorem reachable_kept
    {bus : Bus} {world : World}
    (reachable : (machine bus).Reachable world) : Kept world :=
  reachable.invariant (fun _ start => start ▸ kept_start)
    fun _ _ _ _ kept moves => kept.step moves

/-! ## Predicted paths -/

/-- The connection has a name where a path is about to be predicted. -/
def Ready (bus : Bus) : Pc → Prop
  | .awaitingSession _ _ _ | .acquiring _ _ _ | .awaitingGrant _ _ _ _
  | .granting _ _ _ _ _ | .operating _ => bus.uniqueName.isSome
  | .requesting _ _ path => path.isSome
  | _ => True

/-- Every request has a predicted path. -/
structure Named (bus : Bus) (world : World) : Prop where
  requests : ∀ id request, world.requests id = some request →
    request.requestPath.isSome
  threads : ∀ thread, Ready bus (world.threads thread)
  grants : ∀ thread id grant, .granted thread id grant ∈ world.trace →
    bus.uniqueName.isSome

theorem requestPathFor_isSome (bus : Bus) (token : String) :
    (requestPathFor bus token).isSome = bus.uniqueName.isSome := by
  rw [requestPathFor, Option.isSome_map]

section Named

variable {bus : Bus} {world next : World} (named : Named bus world)

include named

theorem Named.goes {pc : Pc} (thread : Nat) (ready : Ready bus pc) :
    Named bus (world.goes thread pc) where
  requests := named.requests
  threads other := by
    rw [World.goes_threads]
    split_ifs
    · exact ready
    · exact named.threads other
  grants := named.grants

theorem Named.emit
    {event : Event}
    (plain : ∀ thread id grant, event = .granted thread id grant →
      bus.uniqueName.isSome) :
    Named bus (world.emit event) where
  requests := named.requests
  threads := named.threads
  grants thread id grant member := by
    rcases List.mem_cons.mp member with same | old
    · exact plain thread id grant same.symm
    · exact named.grants thread id grant old

theorem Named.refuse (thread : Nat) (error : Option RequestError) :
    Named bus (world.refuse thread error) :=
  (named.emit (fun _ _ _ => Event.noConfusion)).goes thread trivial

theorem Named.queue
    (method : PortalMethod) (parameters : Parameters)
    {path : Option ObjectPath} (predicted : path.isSome) (generation : Nat)
    (grant : Option Grant) :
    Named bus (world.queue method parameters path generation grant) where
  requests id request found := by
    by_cases same : id = world.nextRequest
    · have now : request =
          PortalRequest.new method parameters path generation := by
        simpa [World.queue, same] using found.symm
      rw [now]
      exact predicted
    · refine named.requests id request ?_
      simpa [World.queue, same] using found
  threads := named.threads
  grants thread id grant member := by
    rcases List.mem_cons.mp member with same | old
    · cases same
    · exact named.grants thread id grant old

theorem Named.serves (serves : Serves world next) : Named bus next where
  requests id request found := by
    have related := serves.requests id
    rw [found] at related
    generalize before : world.requests id = old at related
    cases related with
    | @some old _ steady =>
        rw [steady.requestPath]
        exact named.requests id old before
  threads := by
    rw [serves.threads]
    exact named.threads
  grants thread id grant member := by
    rcases serves.trace with ⟨news, trace, quiet⟩
    rw [trace] at member
    rcases List.mem_append.mp member with new | old
    · exact (quiet _ new).elim
    · exact named.grants thread id grant old

theorem Named.requestStart
    {id : Nat} {request : PortalRequest}
    (found : world.requests id = some request) :
    Named bus (requestStart world id request) := by
  have abandoned (code : Calls.PortalErrorCode) :
      Named bus (world.callback id request (.abandoned code)
        (abandon code)) :=
    named.serves (serves_callback found (.abandoned code) trivial)
  unfold PortalClient.requestStart
  split
  · rename_i owner _
    split_ifs
    · exact abandoned _
    · refine ⟨?_, named.threads, ?_⟩
      · intro other changed present
        have related := steady_callback found (.sent owner) other
        have here :
            (world.callback id request (.sent owner)
              (send owner)).requests other = some changed := present
        rw [here] at related
        generalize before : world.requests other = old at related
        cases related with
        | @some old _ steady =>
            rw [steady.requestPath]
            exact named.requests other old before
      · intro thread other grant member
        rcases List.mem_append.mp member with new | old
        · rcases mem_callbackEvents new with same | ⟨path, same⟩ | same
          · cases same
          · cases same
          · cases same
        · exact named.grants thread other grant old
    · exact abandoned _
    · exact abandoned _
  · exact abandoned _

theorem Named.clientStep
    {action : Action} (moves : clientStep world action = some next) :
    Named bus next := by
  cases action with
  | ownerChanged owner =>
      simp only [PortalClient.clientStep] at moves
      split_ifs at moves
      cases moves
      unfold PortalClient.ownerChanged
      split_ifs
      · exact ⟨named.requests, named.threads, named.grants⟩
      · have told : Named bus (world.emit
            (.ownerChanged owner (world.ownerGeneration + 1))) :=
          named.emit fun _ _ _ => Event.noConfusion
        exact ⟨told.requests, told.threads, told.grants⟩
  | invalidated session =>
      simp only [PortalClient.clientStep] at moves
      split_ifs at moves
      cases moves
      exact ⟨named.requests, named.threads, named.grants⟩
  | start id =>
      simp only [PortalClient.clientStep] at moves
      split at moves
      · cases moves
      · rename_i request found
        split_ifs at moves
        cases moves
        exact named.requestStart found
  | methodReturned id reply =>
      exact named.serves (serves_dispatch (.methodReturned reply) trivial
        moves)
  | response id path response results =>
      exact named.serves (serves_dispatch (.response response results)
        trivial moves)
  | timedOut id =>
      exact named.serves (serves_dispatch .timedOut trivial moves)
  | cancelRequests =>
      cases moves
      have cancelled : Named bus { world with cancelled := true } :=
        ⟨named.requests, named.threads, named.grants⟩
      exact cancelled.serves (serves_sweep .cancelled (fun _ => trivial) _)
  | beginDrain =>
      cases moves
      exact ⟨named.requests, named.threads, named.grants⟩
  | ownerSweep | enter | advance => cases moves

theorem Named.advance
    {thread now : Nat} {reply : Option (Option (List String))}
    (moves : advance bus world thread now reply = some next) :
    Named bus next := by
  have here := named.threads thread
  have counted (counter : Int32) : Named bus { world with counter } :=
    ⟨named.requests, named.threads, named.grants⟩
  cases pc : world.threads thread with
  | idle => simp [PortalClient.advance, pc] at moves
  | entering purpose =>
      simp only [PortalClient.advance, pc] at moves
      split_ifs at moves
      cases moves
      unfold World.beginProbe
      split
      · exact named.goes thread trivial
      · split_ifs
        · have locked : Named bus { world with probeLocked := true } :=
            ⟨named.requests, named.threads, named.grants⟩
          exact (locked.emit fun _ _ _ => Event.noConfusion).goes thread
            trivial
        · exact named.goes thread trivial
  | probing purpose owner generation =>
      simp only [PortalClient.advance, pc] at moves
      cases moves
      have probed : Named bus (finishProbe world generation now reply) := by
        unfold PortalClient.finishProbe
        split_ifs <;> exact ⟨named.requests, named.threads, named.grants⟩
      exact (probed.emit fun _ _ _ => Event.noConfusion).goes thread trivial
  | reading purpose =>
      simp only [PortalClient.advance, pc] at moves
      cases moves
      have told : Named bus (world.emit (.available world.available)) :=
        named.emit fun _ _ _ => Event.noConfusion
      unfold World.told
      split
      · exact told.goes thread trivial
      · exact told.goes thread trivial
      · exact (told.emit fun _ _ _ => Event.noConfusion).goes thread trivial
      · exact told.goes thread trivial
      · exact told.refuse thread _
  | copying | snapshotting =>
      simp only [PortalClient.advance, pc] at moves
      cases moves
      exact (named.emit fun _ _ _ => Event.noConfusion).goes thread trivial
  | creatingSession owner generation =>
      simp only [PortalClient.advance, pc] at moves
      cases moves
      exact (counted _).goes thread trivial
  | namingSession owner generation token =>
      simp only [PortalClient.advance, pc] at moves
      cases moves
      unfold World.createSession
      dsimp only
      split
      · exact (counted _).refuse thread _
      · rename_i path predicted
        have connected : bus.uniqueName.isSome := by
          rw [← requestPathFor_isSome, predicted]
          rfl
        exact ((counted _).queue _ _ rfl _ _).goes thread connected
  | awaitingSession owner generation request =>
      simp only [PortalClient.advance, pc] at moves
      rcases Option.map_eq_some_iff.mp moves with ⟨answer, -, rfl⟩
      rw [pc] at here
      unfold World.takeSession
      split
      · exact named.refuse thread _
      · split
        · exact named.refuse thread _
        · exact named.goes thread here
  | acquiring owner generation session =>
      simp only [PortalClient.advance, pc] at moves
      cases moves
      rw [pc] at here
      have predicted := (requestPathFor_isSome bus
        (requestToken bus "pkcs11a" world.counter)).trans here
      exact ((counted _).queue _ _ predicted _ _).goes thread here
  | awaitingGrant owner generation session request =>
      simp only [PortalClient.advance, pc] at moves
      rcases Option.map_eq_some_iff.mp moves with ⟨answer, -, rfl⟩
      rw [pc] at here
      unfold World.takeGrant
      split
      · exact (named.emit fun _ _ _ => Event.noConfusion).refuse thread _
      · exact named.goes thread here
  | granting owner generation session request results =>
      simp only [PortalClient.advance, pc] at moves
      cases moves
      rw [pc] at here
      unfold World.finishGrant
      split_ifs
      · exact (named.emit fun _ _ _ => Event.noConfusion).refuse thread _
      · split
        · exact (named.emit fun _ _ _ => Event.noConfusion).refuse thread _
        · exact (named.emit fun _ _ _ _ => here).goes thread trivial
  | operating operation =>
      simp only [PortalClient.advance, pc] at moves
      cases moves
      rw [pc] at here
      unfold World.beginOperation
      dsimp only
      split_ifs
      · exact (counted _).refuse thread _
      · exact (counted _).goes thread
          ((requestPathFor_isSome bus _).trans here)
  | requesting operation token path =>
      simp only [PortalClient.advance, pc] at moves
      cases moves
      rw [pc] at here
      exact (named.queue _ _ here _ _).goes thread trivial
  | awaitingResult operation request =>
      simp only [PortalClient.advance, pc] at moves
      rcases Option.map_eq_some_iff.mp moves with ⟨answer, -, rfl⟩
      unfold World.takeResult
      split
      · exact named.refuse thread _
      · exact named.goes thread trivial
  | confirming operation request results =>
      simp only [PortalClient.advance, pc] at moves
      cases moves
      unfold World.finishOperation
      split_ifs
      · exact named.refuse thread _
      · split
        · exact named.refuse thread _
        · exact (named.emit fun _ _ _ => Event.noConfusion).goes thread
            trivial

/-- Every step keeps the paths predicted. -/
theorem Named.step
    {action : Action}
    (moves : (machine bus).step world action = some next) :
    Named bus next := by
  cases action with
  | ownerSweep =>
      simp only [machine, PortalClient.step] at moves
      split_ifs at moves
      cases moves
      have swept := named.serves
        (serves_sweep .ownerChanged (fun _ => trivial) world)
      exact ⟨swept.requests, swept.threads, swept.grants⟩
  | enter thread entry =>
      simp only [machine, PortalClient.step] at moves
      split_ifs at moves with admitted
      cases moves
      refine named.goes thread ?_
      cases entry with
      | available | dupMechanisms | acquire => trivial
      | operation asked =>
          rcases List.any_eq_true.mp admitted.2.2 with
            ⟨event, member, grants⟩
          cases event with
          | granted thread id grant =>
              exact named.grants thread id grant member
          | _ => cases grants
  | advance thread now reply => exact named.advance moves
  | ownerChanged | invalidated | start | methodReturned | response
  | timedOut | cancelRequests | beginDrain =>
      simp only [machine, PortalClient.step] at moves
      split_ifs at moves
      exact named.clientStep moves

end Named

/-- Every request has a predicted path in every reachable state. -/
theorem reachable_named
    {bus : Bus} {world : World}
    (reachable : (machine bus).Reachable world) : Named bus world := by
  refine reachable.invariant ?_ fun _ _ _ _ named moves => named.step moves
  rintro world rfl
  constructor
  · intro id request found
    cases found
  · intro thread
    trivial
  · intro thread id grant member
    cases member

/-! ## The clean-up -/

/--
Whatever the order of its events, a request is completed at most once, by
the first event that ends its wait, and cleaned up accordingly.
-/
theorem requests_cleaned_up
    {bus : Bus} {world : World} (reachable : (machine bus).Reachable world)
    {id : Nat} {request : PortalRequest}
    (found : world.requests id = some request) :
    request.requestPath.isSome ∧
      completions id world.trace ≤ 1 ∧
      (closes id world.trace).Nodup ∧
      ((∀ event ∈ arrivals id world.trace, ¬ Completing event) →
        request.completed = false ∧ closes id world.trace = []) ∧
      ∀ later event earlier,
        arrivals id world.trace = later ++ event :: earlier →
        Completing event → (∀ other ∈ earlier, ¬ Completing other) →
        CleanedUp request later event earlier (closes id world.trace) := by
  have account := (reachable_kept reachable).known id request found
  have predicted := (reachable_named reachable).requests id request found
  refine ⟨predicted, ?_, account.life.nodup, account.life.waiting, ?_⟩
  · rw [account.completions]
    split_ifs <;> simp
  · intro later event earlier split completing first
    have member : event ∈ arrivals id world.trace := by simp [split]
    rcases settled_of_completing account.life member completing with
      ⟨later', event', earlier', split', settled⟩
    rcases split_unique (split.symm.trans split') completing
      settled.completing first settled.first with ⟨rfl, rfl, rfl⟩
    exact settled.cleanedUp

/-! ## A run with a late refusal -/

/-- A connection with a name. -/
def sampleBus : Bus where
  uniqueName := some ":1.7"
  pid := 42

/-- A caller waits for `CreateSession`, which has been sent. -/
def sampleSent : List Action :=
  [.ownerChanged (some ":1.1"), .ownerSweep, .enter 0 .acquire,
    .advance 0 0 none, .advance 0 0 (some (some ["rsa-pkcs"])),
    .advance 0 0 none, .advance 0 0 none, .advance 0 0 none,
    .advance 0 0 none, .start 0]

/-- The call is refused, after the client has given up waiting. -/
def sampleLateRefusal : List Action :=
  sampleSent ++
    [.timedOut 0, .methodReturned 0 (.error ⟨true, .other⟩)]

/-- The client after a refusal that has come late. -/
def sampleWorld : World :=
  ((machine sampleBus).run .start sampleLateRefusal).getD .start

theorem reachable_sampleWorld :
    (machine sampleBus).Reachable sampleWorld := by
  have started : (machine sampleBus).Reachable .start := .initial rfl
  have moved : (machine sampleBus).run .start sampleLateRefusal =
      some sampleWorld := rfl
  exact started.run moved

/-- The client cannot know of a refusal that has not arrived yet. -/
theorem late_refusal_closed :
    ¬ ∀ (bus : Bus) (world : World), (machine bus).Reachable world →
      ∀ id error, CallError.refused error = true →
        .methodReturned (.error error) ∈ arrivals id world.trace →
          closes id world.trace = [] := by
  intro silent
  have closed := silent sampleBus sampleWorld reachable_sampleWorld 0
    ⟨true, .other⟩ rfl (List.mem_cons_self ..)
  have nonempty : (closes 0 sampleWorld.trace).length = 1 := rfl
  rw [closed] at nonempty
  cases nonempty

/-- After the timeout, the method reply names a path of its own. -/
def sampleLateReply : List Action :=
  sampleSent ++ [.timedOut 0, .methodReturned 0 (.ok "/portal/request/7")]

/-- The predicted path is closed at the timeout, and the returned one when
the late reply arrives. -/
theorem requests_cleaned_up_lateReply :
    ∃ world,
      (machine sampleBus).run .start sampleLateReply = some world ∧
      completions 0 world.trace = 1 ∧
      closes 0 world.trace =
        [ "/portal/request/7",
          "/org/freedesktop/portal/desktop/request/1_7/pkcs11c42_0" ] := by
  have replied : ∃ world,
      (machine sampleBus).run .start sampleLateReply = some world ∧
      completions 0 world.trace = 1 ∧
      ∃ request, world.requests 0 = some request ∧
        request.requestPath =
          some "/org/freedesktop/portal/desktop/request/1_7/pkcs11c42_0" ∧
        arrivals 0 world.trace =
          [.methodReturned (.ok "/portal/request/7")] ++
            .timedOut :: [.sent ":1.1"] :=
    ⟨_, rfl, rfl, _, rfl, rfl, rfl⟩
  rcases replied with ⟨world, run, once, request, found, path, arrived⟩
  have started : (machine sampleBus).Reachable .start := .initial rfl
  have timedOut : Completing .timedOut := fun _ => rfl
  have sent : ∀ other ∈ [RequestEvent.sent ":1.1"],
      ¬ Completing other := by
    rintro other member completing
    cases List.mem_singleton.mp member
    cases completing .sign
  have clean := (requests_cleaned_up (started.run run) found).2.2.2.2
    _ _ _ arrived timedOut sent
  refine ⟨world, run, once, ?_⟩
  rw [clean.closed ⟨":1.1", by simp⟩ id, path]
  decide

end PortalCertificate.Module.RequestCleanup
