import PortalCertificate.Library.Trace
import PortalCertificate.Module.RequestCleanup

/-!
# Grants are bound to the owner of the bus name

The client numbers the owners of the portal's bus name.  A number stands for
one owner only, and a caller that has taken it down can later tell whether
the owner has changed since, even if the name has come back to the same
connection.

The numbers have no bound here.  The code counts owners in 64 bits, which a
process cannot use up.

The results are stated of events: what was the case when a request was sent,
a grant or a result handed out, or the portal reported as available.
-/

namespace PortalCertificate.Module.OwnerBinding

open PortalCertificate.Library.Trace
open PortalCertificate.Library.Transition
open PortalCertificate.Module.PortalClient
open PortalCertificate.Module.PortalSteps
open PortalCertificate.Module.RequestCleanup
open PortalCertificate.Module.RequestLife
open PortalCertificate.Module.Requests

/-! ## Owners in the trace -/

/-- The owner that an event reports. -/
def ownerEvent : Event → Option (Option BusName)
  | .ownerChanged owner _ => some owner
  | _ => none

/-- The owner stays. -/
def Unchanged (event : Event) : Prop := ownerEvent event = none

/-- The owner after a trace. -/
def currentOwner (trace : List Event) : Option BusName :=
  (trace.findSome? ownerEvent).join

/-- How often the owner has changed. -/
def changes (trace : List Event) : Nat :=
  trace.countP fun event => (ownerEvent event).isSome

variable {trace news : List Event}

theorem currentOwner_append (still : ∀ event ∈ news, Unchanged event) :
    currentOwner (news ++ trace) = currentOwner trace := by
  rw [currentOwner, findSome_append still, currentOwner]

theorem changes_append :
    changes (news ++ trace) = changes news + changes trace :=
  List.countP_append

theorem changes_still (still : ∀ event ∈ news, Unchanged event) :
    changes news = 0 := by
  rw [changes, List.countP_eq_zero]
  intro event member
  rw [still event member]
  exact Bool.noConfusion

theorem still_of_changes
    (same : changes (news ++ trace) = changes trace) :
    ∀ event ∈ news, Unchanged event := by
  intro event member
  rw [changes_append] at same
  have none : changes news = 0 := by omega
  rw [changes, List.countP_eq_zero] at none
  have quiet := none event member
  rwa [Bool.not_eq_true, Option.isSome_eq_false_iff, Option.isNone_iff_eq_none]
    at quiet

/-- When the generation was `generation`, the owner was `owner`. -/
def Held
    (trace : List Event) (owner : Option BusName) (generation : Nat) :
    Prop :=
  ∃ later earlier, trace = later ++ earlier ∧
    changes earlier = generation ∧ currentOwner earlier = owner

theorem held_now : Held trace (currentOwner trace) (changes trace) :=
  ⟨[], trace, rfl, rfl, rfl⟩

theorem Held.append
    {owner : Option BusName} {generation : Nat}
    (held : Held trace owner generation) (news : List Event) :
    Held (news ++ trace) owner generation := by
  rcases held with ⟨later, earlier, rfl, number, name⟩
  exact ⟨news ++ later, earlier, by simp, number, name⟩

/-- A generation has one owner. -/
theorem Held.unique
    {owner other : Option BusName} {generation : Nat}
    (here : Held trace owner generation)
    (there : Held trace other generation) : owner = other := by
  rcases here with ⟨later, earlier, rfl, number, rfl⟩
  rcases there with ⟨later', earlier', same, number', rfl⟩
  rcases List.append_eq_append_iff.mp same with
    ⟨middle, -, rfl⟩ | ⟨middle, -, rfl⟩
  · have still := still_of_changes (number.trans number'.symm)
    exact currentOwner_append still
  · have still := still_of_changes (number'.trans number.symm)
    exact (currentOwner_append still).symm

/-! ## What events promise -/

/-- A grant that was handed out. -/
def Granted (grant : Grant) (trace : List Event) : Prop :=
  ∃ thread id, .granted thread id grant ∈ trace

/-- The request was sent to the name, and its Response was a success. -/
def Served (id : Nat) (name : BusName) (trace : List Event) : Prop :=
  .arrived id (.sent name) ∈ trace ∧
    ∃ results, .arrived id (.response 0 results) ∈ trace

/--
The portal has capabilities, by an answer of its current owner to a question
asked since it became the owner.
-/
def Capable (trace : List Event) : Prop :=
  ∃ name generation mechanisms,
    mechanisms ≠ [] ∧ currentOwner trace = some name ∧
    Since (.probeReturned name generation (some (some mechanisms)))
      Unchanged
      (Since (.probeStarted name generation) Unchanged fun _ => True)
      trace

/-- What is sent, granted or found available is so for the owner of that
moment. -/
def Lawful : Event → List Event → Prop
  -- An operation is sent to the owner that has given the grant.
  | .arrived id (.sent name), before =>
      ∀ method generation grant,
        .queued id method generation (some grant) ∈ before →
          grant.owner = some name ∧ Granted grant before
  -- The owner has not changed since the acquisition took it down.
  | .granted thread id grant, before =>
      Since (.snapshotTaken thread grant.owner grant.ownerGeneration)
        Unchanged (fun _ => True) before ∧
      .queued id .acquireCredential grant.ownerGeneration none ∈ before ∧
      currentOwner before = grant.owner ∧
      ∃ name, grant.owner = some name ∧ Served id name before
  -- The owner has not changed since it gave the grant.
  | .returned id operation _, before =>
      ∃ name thread acquisition,
        .queued id (operationMethod operation.kind)
          operation.grant.ownerGeneration (some operation.grant) ∈ before ∧
        operation.grant.owner = some name ∧
        currentOwner before = some name ∧ Served id name before ∧
        Since (.granted thread acquisition operation.grant) Unchanged
          (fun _ => True) before
  | .available true, before => Capable before
  | _, _ => True

/-! ## What a run keeps -/

/-- A caller has taken down the owner, which has not changed back then. -/
def Taken
    (trace : List Event) (start : Event) (owner : Option BusName)
    (generation : Nat) : Prop :=
  ∃ later earlier, trace = later ++ start :: earlier ∧
    changes earlier = generation ∧ currentOwner earlier = owner ∧
    Unchanged start

theorem Taken.append
    {start : Event} {owner : Option BusName} {generation : Nat}
    (taken : Taken trace start owner generation) (news : List Event) :
    Taken (news ++ trace) start owner generation := by
  rcases taken with ⟨later, earlier, rfl, rest⟩
  exact ⟨news ++ later, earlier, by simp, rest⟩

theorem taken_now
    {start : Event} (unchanged : Unchanged start) :
    Taken (start :: trace) start (currentOwner trace) (changes trace) :=
  ⟨[], trace, rfl, rfl, rfl, unchanged⟩

theorem Taken.held
    {start : Event} {owner : Option BusName} {generation : Nat}
    (taken : Taken trace start owner generation) :
    Held trace owner generation := by
  rcases taken with ⟨later, earlier, rfl, number, name, -⟩
  exact ⟨later ++ [start], earlier, by simp, number, name⟩

/-- The generation is still the same, so the owner has not changed since. -/
theorem Taken.since
    {start : Event} {owner : Option BusName} {generation : Nat}
    (taken : Taken trace start owner generation)
    (same : changes trace = generation) :
    Since start Unchanged (fun _ => True) trace ∧
      currentOwner trace = owner := by
  rcases taken with ⟨later, earlier, rfl, number, name, unchanged⟩
  have split : later ++ start :: earlier =
      (later ++ [start]) ++ earlier := by simp
  have still : ∀ event ∈ later ++ [start], Unchanged event := by
    have same' : changes ((later ++ [start]) ++ earlier) =
        changes earlier := by rw [← split, same, number]
    exact still_of_changes same'
  refine ⟨⟨later, earlier, rfl, ?_, trivial⟩, ?_⟩
  · intro event member
    exact still event (List.mem_append_left _ member)
  · rw [split, currentOwner_append still, name]

/-- What the local variables of a caller stand for. -/
def PcBound (trace : List Event) (thread : Nat) : Pc → Prop
  | .probing _ owner generation =>
      Taken trace (.probeStarted owner generation) (some owner) generation
  | .creatingSession owner generation
  | .namingSession owner generation _
  | .awaitingSession owner generation _
  | .acquiring owner generation _ =>
      Taken trace (.snapshotTaken thread owner generation) owner generation
  | .awaitingGrant owner generation _ request =>
      Taken trace (.snapshotTaken thread owner generation) owner
        generation ∧
      .queued request .acquireCredential generation none ∈ trace
  | .granting owner generation _ request _ =>
      Taken trace (.snapshotTaken thread owner generation) owner
        generation ∧
      .queued request .acquireCredential generation none ∈ trace ∧
      ∃ name, Served request name trace
  | .operating operation | .requesting operation _ _ =>
      Granted operation.grant trace
  | .awaitingResult operation request =>
      Granted operation.grant trace ∧
      .queued request (operationMethod operation.kind)
        operation.grant.ownerGeneration (some operation.grant) ∈ trace
  | .confirming operation request _ =>
      Granted operation.grant trace ∧
      .queued request (operationMethod operation.kind)
        operation.grant.ownerGeneration (some operation.grant) ∈ trace ∧
      ∃ name, Served request name trace
  | .idle | .entering _ | .reading _ | .copying | .snapshotting => True

theorem Granted.append
    {grant : Grant} (granted : Granted grant trace) (news : List Event) :
    Granted grant (news ++ trace) := by
  rcases granted with ⟨thread, id, member⟩
  exact ⟨thread, id, List.mem_append_right _ member⟩

theorem Served.append
    {id : Nat} {name : BusName} (served : Served id name trace)
    (news : List Event) : Served id name (news ++ trace) := by
  rcases served with ⟨sent, results, response⟩
  exact ⟨List.mem_append_right _ sent, results,
    List.mem_append_right _ response⟩

theorem PcBound.append
    {thread : Nat} {pc : Pc} (bound : PcBound trace thread pc)
    (news : List Event) : PcBound (news ++ trace) thread pc := by
  cases pc with
  | idle | entering | reading | copying | snapshotting => trivial
  | probing | creatingSession | namingSession | awaitingSession
  | acquiring =>
      exact Taken.append bound news
  | awaitingGrant =>
      exact ⟨bound.1.append news, List.mem_append_right _ bound.2⟩
  | granting =>
      rcases bound with ⟨taken, queued, name, served⟩
      exact ⟨taken.append news, List.mem_append_right _ queued, name,
        served.append news⟩
  | operating | requesting => exact Granted.append bound news
  | awaitingResult =>
      exact ⟨bound.1.append news, List.mem_append_right _ bound.2⟩
  | confirming =>
      rcases bound with ⟨granted, queued, name, served⟩
      exact ⟨granted.append news, List.mem_append_right _ queued, name,
        served.append news⟩

/-- The requests and grants in a trace. -/
structure Recorded (world : World) (trace : List Event) : Prop where
  queued : ∀ id method generation grant,
    .queued id method generation grant ∈ trace →
    ∃ request, world.requests id = some request ∧
      request.ownerGeneration = generation
  operations : ∀ id method generation grant,
    .queued id method generation (some grant) ∈ trace →
    grant.ownerGeneration = generation ∧ Granted grant trace
  sent : ∀ id name, .arrived id (.sent name) ∈ trace →
    ∃ request, world.requests id = some request ∧
      Held trace (some name) request.ownerGeneration
  granted : ∀ thread id grant, .granted thread id grant ∈ trace →
    Taken trace (.granted thread id grant) grant.owner
      grant.ownerGeneration

/-- The owner and the requests are what the trace says of them. -/
structure Bound (world : World) : Prop where
  owner : currentOwner world.trace = world.owner
  generation : changes world.trace = world.ownerGeneration
  available : world.available = true → Capable world.trace
  threads : ∀ thread, PcBound world.trace thread (world.threads thread)
  recorded : Recorded world world.trace
  lawful : Each Lawful world.trace

/-! ## Steps -/

/-- The event records neither a request nor a grant. -/
def Plain : Event → Prop
  | .arrived _ (.sent _) | .queued _ _ _ _ | .granted _ _ _ => False
  | _ => True

theorem plain_of_ofRequest {event : Event} (own : OfRequest event) :
    Plain event ∧ Unchanged event ∧ ∀ before, Lawful event before := by
  cases event with
  | arrived id event =>
      cases event with
      | sent => exact own.elim
      | _ => exact ⟨trivial, rfl, fun _ => trivial⟩
  | closed | completed => exact ⟨trivial, rfl, fun _ => trivial⟩
  | _ => exact own.elim

theorem Capable.cons
    (capable : Capable trace) {event : Event} (still : Unchanged event) :
    Capable (event :: trace) := by
  rcases capable with ⟨name, generation, mechanisms, some, owner, since⟩
  refine ⟨name, generation, mechanisms, some, ?_, since.cons still⟩
  have all : ∀ other ∈ [event], Unchanged other := by simpa using still
  exact (currentOwner_append all).trans owner

theorem Capable.append
    (capable : Capable trace) (still : ∀ event ∈ news, Unchanged event) :
    Capable (news ++ trace) := by
  rcases capable with ⟨name, generation, mechanisms, some, owner, since⟩
  exact ⟨name, generation, mechanisms, some,
    (currentOwner_append still).trans owner, since.append still⟩

theorem Recorded.append
    {world : World} (recorded : Recorded world trace)
    (plain : ∀ event ∈ news, Plain event) :
    Recorded world (news ++ trace) where
  queued id method generation grant member := by
    rcases List.mem_append.mp member with new | old
    · exact (plain _ new).elim
    · exact recorded.queued id method generation grant old
  operations id method generation grant member := by
    rcases List.mem_append.mp member with new | old
    · exact (plain _ new).elim
    · rcases recorded.operations id method generation grant old with
        ⟨number, granted⟩
      exact ⟨number, granted.append news⟩
  sent id name member := by
    rcases List.mem_append.mp member with new | old
    · exact (plain _ new).elim
    · rcases recorded.sent id name old with ⟨request, found, held⟩
      exact ⟨request, found, held.append news⟩
  granted thread id grant member := by
    rcases List.mem_append.mp member with new | old
    · exact (plain _ new).elim
    · exact (recorded.granted thread id grant old).append news

theorem Recorded.steady
    {world next : World} (recorded : Recorded world trace)
    (steady : ∀ id,
      Option.Rel Steady (world.requests id) (next.requests id)) :
    Recorded next trace where
  queued id method generation grant member := by
    rcases recorded.queued id method generation grant member with
      ⟨request, found, number⟩
    have related := steady id
    rw [found] at related
    generalize after : next.requests id = new at related
    cases related with
    | @some _ new same =>
        exact ⟨new, rfl, same.ownerGeneration.trans number⟩
  operations := recorded.operations
  sent id name member := by
    rcases recorded.sent id name member with ⟨request, found, held⟩
    have related := steady id
    rw [found] at related
    generalize after : next.requests id = new at related
    cases related with
    | @some _ new same =>
        exact ⟨new, rfl, same.ownerGeneration ▸ held⟩
  granted := recorded.granted

/-- A request that has handed out results was served. -/
theorem served_of_answer
    {world : World} (kept : Kept world) {id : Nat} {results : Results}
    {error : Option RequestError}
    (answer : world.answer id = some (some results, error)) :
    ∃ name, Served id name world.trace := by
  rcases Option.bind_eq_some_iff.mp answer with ⟨request, found, finished⟩
  split_ifs at finished with ended
  rcases (kept.known id request found).life.done ended with
    ⟨later, event, earlier, split, settled⟩
  have outcome := settled.outcome
  rw [Option.some.inj finished] at outcome
  rcases response_of_outcome outcome with ⟨given, rfl⟩
  rcases settled.sender (fun _ => RequestEvent.noConfusion) with
    ⟨name, sent⟩
  refine ⟨name, mem_arrivals.mp ?_, given, mem_arrivals.mp ?_⟩
  · simp [split, sent]
  · simp [split]

section Steps

variable {world next : World} (bound : Bound world)

include bound

theorem Bound.goes
    {thread : Nat} {pc : Pc} (here : PcBound world.trace thread pc) :
    Bound (world.goes thread pc) where
  owner := bound.owner
  generation := bound.generation
  available := bound.available
  threads other := by
    rw [World.goes_threads]
    split_ifs with same
    · exact same ▸ here
    · exact bound.threads other
  recorded := ⟨bound.recorded.queued, bound.recorded.operations,
    bound.recorded.sent, bound.recorded.granted⟩
  lawful := bound.lawful

/-- The counter, the probe lock and the like are not bound to anything. -/
theorem Bound.same
    (owner : next.owner = world.owner)
    (generation : next.ownerGeneration = world.ownerGeneration)
    (available : next.available = true → world.available = true)
    (threads : next.threads = world.threads)
    (requests : next.requests = world.requests)
    (trace : next.trace = world.trace) : Bound next where
  owner := by rw [trace, owner, bound.owner]
  generation := by rw [trace, generation, bound.generation]
  available able := by
    rw [trace]
    exact bound.available (available able)
  threads := by
    rw [trace, threads]
    exact bound.threads
  recorded := by
    rw [trace]
    refine bound.recorded.steady fun id => ?_
    rw [requests]
    exact rel_refl _
  lawful := trace ▸ bound.lawful

/-- One event is added, which is not a change of the owner. -/
theorem Bound.add
    (event : Event) (unchanged : Unchanged event)
    (lawful : Lawful event world.trace)
    (owner : next.owner = world.owner)
    (generation : next.ownerGeneration = world.ownerGeneration)
    (available : next.available = true → Capable next.trace)
    (threads : next.threads = world.threads)
    (trace : next.trace = event :: world.trace)
    (recorded : Recorded next (event :: world.trace)) : Bound next := by
  have still : ∀ other ∈ [event], Unchanged other := by
    simpa using unchanged
  have split : next.trace = [event] ++ world.trace := trace
  constructor
  · rw [split, currentOwner_append still, owner, bound.owner]
  · rw [split, changes_append, changes_still still, Nat.zero_add,
      generation, bound.generation]
  · exact available
  · rw [split, threads]
    exact fun thread => (bound.threads thread).append [event]
  · rw [trace]
    exact recorded
  · rw [trace]
    exact each_cons.mpr ⟨lawful, bound.lawful⟩

theorem Bound.recordedPlain
    {event : Event} (plain : Plain event)
    (requests : next.requests = world.requests) :
    Recorded next (event :: world.trace) := by
  have all : ∀ other ∈ [event], Plain other := by simpa using plain
  have recorded := bound.recorded.append all
  refine recorded.steady fun id => ?_
  rw [requests]
  exact rel_refl _

theorem Bound.emit
    (event : Event) (plain : Plain event) (unchanged : Unchanged event)
    (lawful : Lawful event world.trace) : Bound (world.emit event) :=
  bound.add event unchanged lawful rfl rfl
    (fun able => (bound.available able).cons unchanged) rfl rfl
    (bound.recordedPlain plain rfl)

theorem Bound.serves (serves : Serves world next) : Bound next := by
  rcases serves.trace with ⟨news, trace, own⟩
  have plain : ∀ event ∈ news, Plain event :=
    fun event member => (plain_of_ofRequest (own event member)).1
  have still : ∀ event ∈ news, Unchanged event :=
    fun event member => (plain_of_ofRequest (own event member)).2.1
  constructor
  · rw [trace, currentOwner_append still, serves.owner, bound.owner]
  · rw [trace, changes_append, changes_still still, Nat.zero_add,
      serves.ownerGeneration, bound.generation]
  · intro able
    rw [trace]
    exact (bound.available (serves.available ▸ able)).append still
  · rw [trace, serves.threads]
    exact fun thread => (bound.threads thread).append news
  · rw [trace]
    exact (bound.recorded.append plain).steady serves.requests
  · rw [trace]
    refine bound.lawful.append ?_
    exact fun event member => (plain_of_ofRequest (own event member)).2.2

theorem Bound.refuse (thread : Nat) (error : Option RequestError) :
    Bound (world.refuse thread error) := by
  have told := bound.emit (.refused error) trivial rfl trivial
  exact told.goes trivial

theorem Bound.queue
    (fresh : world.requests world.nextRequest = none)
    {method : PortalMethod} {parameters : Parameters}
    {path : Option ObjectPath} {generation : Nat} {grant : Option Grant}
    (granted : ∀ asked, grant = some asked →
      asked.ownerGeneration = generation ∧ Granted asked world.trace) :
    Bound (world.queue method parameters path generation grant) := by
  have kept (id : Nat) (request : PortalRequest)
      (found : world.requests id = some request) :
      (world.queue method parameters path generation grant).requests id =
        some request := by
    have different : id ≠ world.nextRequest := by
      rintro rfl
      rw [fresh] at found
      cases found
    simpa [World.queue, different] using found
  refine bound.add (.queued world.nextRequest method generation grant) rfl
    trivial rfl rfl (fun able => (bound.available able).cons rfl) rfl rfl ?_
  · constructor
    · intro id method' generation' grant' member
      rcases List.mem_cons.mp member with same | old
      · cases same
        exact ⟨.new method parameters path generation,
          by simp [World.queue], rfl⟩
      · rcases bound.recorded.queued _ _ _ _ old with
          ⟨request, found, number⟩
        exact ⟨request, kept id request found, number⟩
    · intro id method' generation' asked member
      rcases List.mem_cons.mp member with same | old
      · cases same
        rcases granted asked rfl with ⟨number, granted⟩
        exact ⟨number, granted.append [_]⟩
      · rcases bound.recorded.operations _ _ _ _ old with
          ⟨number, granted⟩
        exact ⟨number, granted.append [_]⟩
    · intro id name member
      rcases List.mem_cons.mp member with same | old
      · cases same
      · rcases bound.recorded.sent id name old with ⟨request, found, held⟩
        exact ⟨request, kept id request found, held.append [_]⟩
    · intro thread id grant' member
      rcases List.mem_cons.mp member with same | old
      · cases same
      · exact (bound.recorded.granted thread id grant' old).append [_]

theorem Bound.ownerChanged (owner : Option BusName) :
    Bound (ownerChanged world owner) := by
  unfold PortalClient.ownerChanged
  split_ifs with same
  · exact bound.same rfl rfl id rfl rfl rfl
  · constructor
    · rfl
    · show changes (_ :: world.trace) = _
      rw [changes, List.countP_cons_of_pos rfl]
      exact congrArg (· + 1) bound.generation
    · exact Bool.noConfusion
    · intro thread
      exact (bound.threads thread).append [_]
    · exact bound.recordedPlain trivial rfl
    · exact each_cons.mpr ⟨trivial, bound.lawful⟩

/-- A request is sent to the owner of its generation. -/
theorem Bound.send
    {id : Nat} {request : PortalRequest}
    (found : world.requests id = some request)
    (waiting : request.completed = false) {owner : BusName}
    (current : world.owner = some owner)
    (same : world.ownerGeneration = request.ownerGeneration) :
    Bound
      { world.callback id request (.sent owner) (send owner) with
        live :=
          id :: (world.callback id request (.sent owner) (send owner)).live }
    := by
  have trace :
      (world.callback id request (.sent owner) (Requests.send owner)).trace =
        .arrived id (.sent owner) :: world.trace := by
    simp [World.callback, callbackEvents, Requests.send, subscribeResponse,
      waiting]
  have now : Held world.trace (some owner) request.ownerGeneration := by
    rw [← current, ← bound.owner, ← same, ← bound.generation]
    exact held_now
  have plain := bound.recorded.steady
    (steady_callback found (.sent owner))
  refine bound.add (.arrived id (.sent owner)) rfl ?_ rfl rfl ?_ rfl trace ?_
  · intro method generation grant queued
    rcases bound.recorded.queued id method generation (some grant) queued
      with ⟨other, found', number⟩
    cases found.symm.trans found'
    rcases bound.recorded.operations id method generation grant queued with
      ⟨number', granted⟩
    refine ⟨?_, granted⟩
    rcases granted with ⟨thread, acquisition, member⟩
    have held := (bound.recorded.granted _ _ _ member).held
    rw [number', ← number] at held
    exact held.unique now
  · intro able
    have capable : Capable (.arrived id (.sent owner) :: world.trace) :=
      (bound.available able).cons rfl
    rw [← trace] at capable
    exact capable
  · constructor
    · intro other method generation grant member
      rcases List.mem_cons.mp member with impossible | old
      · cases impossible
      · exact plain.queued other method generation grant old
    · intro other method generation grant member
      rcases List.mem_cons.mp member with impossible | old
      · cases impossible
      · rcases plain.operations other method generation grant old with
          ⟨number, granted⟩
        exact ⟨number, granted.append [_]⟩
    · intro other name member
      rcases List.mem_cons.mp member with new | old
      · cases new
        have after : (world.callback id request (.sent owner)
            (Requests.send owner)).requests id =
              some (Requests.send owner request).1 := by
          simp [World.callback]
        exact ⟨_, after, now.append [_]⟩
      · rcases plain.sent other name old with ⟨changed, present, held⟩
        exact ⟨changed, present, held.append [_]⟩
    · intro thread other grant member
      rcases List.mem_cons.mp member with impossible | old
      · cases impossible
      · exact (plain.granted thread other grant old).append [_]

/-- A request may be started, or given up because of the owner. -/
theorem Bound.requestStart
    {id : Nat} {request : PortalRequest}
    (found : world.requests id = some request)
    (waiting : request.completed = false) :
    Bound (requestStart world id request) := by
  have abandoned (code : Calls.PortalErrorCode) :
      Bound (world.callback id request (.abandoned code) (abandon code)) :=
    bound.serves (serves_callback found (.abandoned code) trivial)
  unfold PortalClient.requestStart
  split
  · rename_i owner current
    split_ifs with same
    · exact abandoned _
    · exact bound.send found waiting current same
    · exact abandoned _
    · exact abandoned _
  · exact abandoned _

/-! ### Callers -/

theorem Bound.generation_of_standing
    {generation : Nat} {session : ObjectPath}
    (standing : ¬ world.grantGone generation session = true) :
    changes world.trace = generation := by
  simp only [World.grantGone, Bool.or_eq_true, not_or, bne_iff_ne,
    ne_eq, Decidable.not_not] at standing
  rw [bound.generation, standing.1.2]

theorem Bound.owner_of_served
    {id : Nat} {name : BusName} {method : PortalMethod} {generation : Nat}
    {grant : Option Grant} (served : Served id name world.trace)
    (queued : .queued id method generation grant ∈ world.trace) :
    Held world.trace (some name) generation := by
  rcases bound.recorded.sent id name served.1 with ⟨request, found, held⟩
  rcases bound.recorded.queued _ _ _ _ queued with ⟨other, found', number⟩
  cases found.symm.trans found'
  exact number ▸ held

/-- The owner may be asked for its capabilities. -/
theorem Bound.beginProbe (thread : Nat) (purpose : Purpose) (now : Nat) :
    Bound (world.beginProbe thread purpose now) := by
  unfold World.beginProbe
  split
  · exact bound.goes trivial
  · rename_i owner current
    split_ifs
    · have locked : Bound { world with probeLocked := true } :=
        bound.same rfl rfl id rfl rfl rfl
      have asked := locked.emit
        (.probeStarted owner world.ownerGeneration) trivial rfl trivial
      refine asked.goes ?_
      have taken : Taken
          (.probeStarted owner world.ownerGeneration :: world.trace)
          (.probeStarted owner world.ownerGeneration)
          (currentOwner world.trace) (changes world.trace) := taken_now rfl
      rw [bound.owner, bound.generation, current] at taken
      exact taken
    · exact bound.goes trivial

/-- The answer counts for the owner that was asked. -/
theorem Bound.finishProbe
    {thread : Nat} {purpose : Purpose} {owner : BusName} {generation : Nat}
    (here : PcBound world.trace thread (.probing purpose owner generation))
    (now : Nat) (reply : Option (Option (List String))) :
    Bound ((finishProbe world generation now reply).emit
      (.probeReturned owner generation reply)) := by
  unfold PortalClient.finishProbe
  by_cases same : world.ownerGeneration = generation
  · rw [if_pos same]
    refine bound.add (.probeReturned owner generation reply) rfl trivial rfl
      rfl ?_ rfl rfl (bound.recordedPlain trivial rfl)
    intro able
    cases reply with
    | none => cases able
    | some capabilities =>
        cases capabilities with
        | none => cases able
        | some mechanisms =>
            rcases here.since (bound.generation.trans same) with
              ⟨since, current⟩
            refine ⟨owner, generation, mechanisms, ?_, current,
              since_now since⟩
            rintro rfl
            cases able
  · rw [if_neg same]
    exact bound.add (.probeReturned owner generation reply) rfl trivial rfl
      rfl (fun able => (bound.available able).cons rfl) rfl rfl
      (bound.recordedPlain trivial rfl)

/-- A caller is told whether the portal is available. -/
theorem Bound.told (thread : Nat) (purpose : Purpose) :
    Bound (world.told thread purpose) := by
  have told : Bound (world.emit (.available world.available)) := by
    refine bound.emit _ trivial rfl ?_
    cases able : world.available with
    | false => trivial
    | true => exact bound.available able
  unfold World.told
  split
  · exact told.goes trivial
  · exact told.goes trivial
  · have copied := told.emit (.mechanismsCopied none) trivial rfl trivial
    exact copied.goes trivial
  · exact told.goes trivial
  · exact told.refuse thread _

/-- A grant is handed out for the owner that has made it. -/
theorem Bound.finishGrant
    {thread : Nat} {owner : Option BusName} {generation : Nat}
    {session : ObjectPath} {request : Nat} {results : Results}
    (here : PcBound world.trace thread
      (.granting owner generation session request results)) :
    Bound (world.finishGrant thread owner generation session request
      results) := by
  have closed : Bound (world.emit (.sessionClosed owner session)) :=
    bound.emit _ trivial rfl trivial
  unfold World.finishGrant
  split_ifs with gone
  · exact closed.refuse thread _
  · split
    · exact closed.refuse thread _
    · rename_i certificate _
      rcases here with ⟨taken, queued, name, served⟩
      have same := bound.generation_of_standing gone
      rcases taken.since same with ⟨since, current⟩
      have owned : owner = some name :=
        taken.held.unique (bound.owner_of_served served queued)
      have granted : Bound (world.emit (.granted thread request
          (grantOf owner generation session results certificate))) := by
        refine bound.add (.granted thread request
          (grantOf owner generation session results certificate)) rfl
          ⟨since, queued, current, name, owned, served⟩ rfl rfl
          (fun able => (bound.available able).cons rfl) rfl rfl ?_
        constructor
        · intro id method generation' grant member
          rcases List.mem_cons.mp member with impossible | old
          · cases impossible
          · exact bound.recorded.queued id method generation' grant old
        · intro id method generation' grant member
          rcases List.mem_cons.mp member with impossible | old
          · cases impossible
          · rcases bound.recorded.operations _ _ _ _ old with
              ⟨number, granted⟩
            exact ⟨number, granted.append [_]⟩
        · intro id name' member
          rcases List.mem_cons.mp member with impossible | old
          · cases impossible
          · rcases bound.recorded.sent id name' old with
              ⟨request', found, held⟩
            exact ⟨request', found, held.append [_]⟩
        · intro thread' id grant member
          rcases List.mem_cons.mp member with new | old
          · cases new
            have now : Taken (.granted thread request
                (grantOf owner generation session results certificate) ::
                  world.trace) _ _ _ := taken_now rfl
            rwa [same, current] at now
          · exact (bound.recorded.granted _ _ _ old).append [_]
      exact granted.goes trivial

/-- A result is returned if its grant is still that of the owner. -/
theorem Bound.finishOperation
    {thread : Nat} {operation : Operation} {request : Nat}
    {results : Results}
    (here : PcBound world.trace thread
      (.confirming operation request results)) :
    Bound (world.finishOperation thread operation request results) := by
  unfold World.finishOperation
  split_ifs with gone
  · exact bound.refuse thread _
  · split
    · exact bound.refuse thread _
    · rename_i result _
      rcases here with
        ⟨⟨granter, acquisition, member⟩, queued, name, served⟩
      have same := bound.generation_of_standing gone
      have taken := bound.recorded.granted _ _ _ member
      rcases taken.since same with ⟨since, current⟩
      have owned : operation.grant.owner = some name :=
        taken.held.unique (bound.owner_of_served served queued)
      have returned := bound.emit (.returned request operation result)
        trivial rfl ⟨name, granter, acquisition, queued, owned,
          current.trans owned, served, since⟩
      exact returned.goes trivial

/-- The thread of the client keeps it bound to the owner. -/
theorem Bound.clientStep
    (kept : Kept world) {action : Action}
    (moves : clientStep world action = some next) : Bound next := by
  cases action with
  | ownerChanged owner =>
      simp only [PortalClient.clientStep] at moves
      split_ifs at moves
      cases moves
      exact bound.ownerChanged owner
  | invalidated session =>
      simp only [PortalClient.clientStep] at moves
      split_ifs at moves
      cases moves
      exact bound.same rfl rfl id rfl rfl rfl
  | start id =>
      simp only [PortalClient.clientStep] at moves
      split at moves
      · cases moves
      · rename_i request found
        split_ifs at moves with waiting
        cases moves
        exact bound.requestStart found (kept.queued found waiting).1.completed
  | methodReturned id reply =>
      exact bound.serves (serves_dispatch (.methodReturned reply) trivial
        moves)
  | response id path response results =>
      exact bound.serves (serves_dispatch (.response response results)
        trivial moves)
  | timedOut id =>
      exact bound.serves (serves_dispatch .timedOut trivial moves)
  | cancelRequests =>
      cases moves
      have cancelled : Bound { world with cancelled := true } :=
        bound.same rfl rfl id rfl rfl rfl
      exact cancelled.serves (serves_sweep .cancelled (fun _ => trivial) _)
  | beginDrain =>
      cases moves
      exact bound.same rfl rfl id rfl rfl rfl
  | ownerSweep | enter | advance => cases moves

/-- The calls of the client keep it bound to the owner. -/
theorem Bound.advance
    (kept : Kept world) {bus : Bus} {thread now : Nat}
    {reply : Option (Option (List String))}
    (moves : advance bus world thread now reply = some next) :
    Bound next := by
  have here := bound.threads thread
  have fresh := kept.fresh world.nextRequest le_rfl
  have counted (counter : Int32) : Bound { world with counter } :=
    bound.same rfl rfl id rfl rfl rfl
  have noGrant (generation : Nat) : ∀ asked : Grant, none = some asked →
      asked.ownerGeneration = generation ∧ Granted asked world.trace := by
    intro asked impossible
    cases impossible
  cases pc : world.threads thread with
  | idle => simp [PortalClient.advance, pc] at moves
  | entering purpose =>
      simp only [PortalClient.advance, pc] at moves
      split_ifs at moves
      cases moves
      exact bound.beginProbe thread purpose now
  | probing purpose owner generation =>
      simp only [PortalClient.advance, pc] at moves
      cases moves
      exact (bound.finishProbe (pc ▸ here) now reply).goes trivial
  | reading purpose =>
      simp only [PortalClient.advance, pc] at moves
      cases moves
      exact bound.told thread purpose
  | copying =>
      simp only [PortalClient.advance, pc] at moves
      cases moves
      have copied := bound.emit (.mechanismsCopied world.mechanisms)
        trivial rfl trivial
      exact copied.goes trivial
  | snapshotting =>
      simp only [PortalClient.advance, pc] at moves
      cases moves
      have taken := bound.emit
        (.snapshotTaken thread world.owner world.ownerGeneration)
        trivial rfl trivial
      refine taken.goes ?_
      have now : Taken
          (.snapshotTaken thread world.owner world.ownerGeneration ::
            world.trace)
          (.snapshotTaken thread world.owner world.ownerGeneration)
          (currentOwner world.trace) (changes world.trace) := taken_now rfl
      rw [bound.owner, bound.generation] at now
      exact now
  | creatingSession owner generation =>
      simp only [PortalClient.advance, pc] at moves
      cases moves
      rw [pc] at here
      exact (counted _).goes here
  | namingSession owner generation token =>
      simp only [PortalClient.advance, pc] at moves
      cases moves
      rw [pc] at here
      unfold World.createSession
      dsimp only
      split
      · exact (counted _).refuse thread _
      · have numbered := counted (world.counter + 1)
        refine (numbered.queue fresh (noGrant generation)).goes ?_
        exact here.append [_]
  | awaitingSession owner generation request =>
      simp only [PortalClient.advance, pc] at moves
      rcases Option.map_eq_some_iff.mp moves with ⟨answer, -, rfl⟩
      rw [pc] at here
      unfold World.takeSession
      split
      · exact bound.refuse thread _
      · split
        · exact bound.refuse thread _
        · exact bound.goes here
  | acquiring owner generation session =>
      simp only [PortalClient.advance, pc] at moves
      cases moves
      rw [pc] at here
      have numbered := counted (world.counter + 1)
      refine (numbered.queue fresh (noGrant generation)).goes ?_
      exact ⟨here.append [_], List.mem_cons_self ..⟩
  | awaitingGrant owner generation session request =>
      simp only [PortalClient.advance, pc] at moves
      rcases Option.map_eq_some_iff.mp moves with ⟨answer, answered, rfl⟩
      rw [pc] at here
      unfold World.takeGrant
      split
      · have closed := bound.emit (.sessionClosed owner session)
          trivial rfl trivial
        exact closed.refuse thread _
      · exact bound.goes ⟨here.1, here.2, served_of_answer kept answered⟩
  | granting owner generation session request results =>
      simp only [PortalClient.advance, pc] at moves
      cases moves
      exact bound.finishGrant (pc ▸ here)
  | operating operation =>
      simp only [PortalClient.advance, pc] at moves
      cases moves
      rw [pc] at here
      unfold World.beginOperation
      dsimp only
      split_ifs
      · exact (counted _).refuse thread _
      · exact (counted _).goes here
  | requesting operation token path =>
      simp only [PortalClient.advance, pc] at moves
      cases moves
      rw [pc] at here
      have asked : ∀ grant, some operation.grant = some grant →
          grant.ownerGeneration = operation.grant.ownerGeneration ∧
            Granted grant world.trace := by
        rintro grant same
        cases same
        exact ⟨rfl, here⟩
      refine (bound.queue fresh asked).goes ?_
      exact ⟨here.append [_], List.mem_cons_self ..⟩
  | awaitingResult operation request =>
      simp only [PortalClient.advance, pc] at moves
      rcases Option.map_eq_some_iff.mp moves with ⟨answer, answered, rfl⟩
      rw [pc] at here
      unfold World.takeResult
      split
      · exact bound.refuse thread _
      · exact bound.goes ⟨here.1, here.2, served_of_answer kept answered⟩
  | confirming operation request results =>
      simp only [PortalClient.advance, pc] at moves
      cases moves
      exact bound.finishOperation (pc ▸ here)

/-- The step lemma. -/
theorem Bound.step
    (kept : Kept world) {bus : Bus} {action : Action}
    (moves : (machine bus).step world action = some next) : Bound next := by
  cases action with
  | ownerSweep =>
      simp only [machine, PortalClient.step] at moves
      split_ifs at moves
      cases moves
      have swept := bound.serves
        (serves_sweep .ownerChanged (fun _ => trivial) world)
      exact swept.same rfl rfl id rfl rfl rfl
  | enter thread entry =>
      simp only [machine, PortalClient.step] at moves
      split_ifs at moves with admitted
      cases moves
      refine bound.goes ?_
      cases entry with
      | available | dupMechanisms | acquire => trivial
      | operation asked =>
          rcases List.any_eq_true.mp admitted.2.2 with
            ⟨event, member, grants⟩
          cases event with
          | granted thread id grant =>
              have same := of_decide_eq_true grants
              exact ⟨thread, id, same ▸ member⟩
          | _ => cases grants
  | advance thread now reply => exact bound.advance kept moves
  | ownerChanged | invalidated | start | methodReturned | response
  | timedOut | cancelRequests | beginDrain =>
      simp only [machine, PortalClient.step] at moves
      split_ifs at moves
      exact bound.clientStep kept moves

end Steps

/-- The run lemma. -/
theorem reachable_bound
    {bus : Bus} {world : World}
    (reachable : (machine bus).Reachable world) : Bound world := by
  refine reachable.invariant ?_ fun _ _ _ before bound moves =>
    bound.step (reachable_kept before) moves
  rintro world rfl
  constructor
  · rfl
  · rfl
  · exact Bool.noConfusion
  · intro thread
    trivial
  · constructor <;> exact fun _ _ => by simp [World.start]
  · exact each_nil

/--
In every run, each operation is sent to the owner that has given the grant,
each grant and each result is handed out while that owner is still the
current one, and the portal is reported as available on the word of its
current owner only.
-/
theorem owner_bound
    {bus : Bus} {world : World}
    (reachable : (machine bus).Reachable world) :
    Each Lawful world.trace :=
  (reachable_bound reachable).lawful

/-! ## A run with a signature -/

/-- The results of an acquisition. -/
def sampleResults : Results where
  reason := none
  sessionHandle := some "/session/1"
  certificateDer := some [0x30]
  keyType := none
  keyCurve := none
  keySize := some 2048
  expiresAt := none
  supportedMechanisms := none
  permittedOperations := some ["sign"]
  signature := some [1, 2, 3]
  plaintext := none

/-- A signature with the grant of these results. -/
def sampleOperation : Operation where
  kind := .sign
  grant := grantOf (some ":1.1") 1 "/session/1" sampleResults [0x30]
  mechanism := "rsa-pkcs"
  data := [4, 5, 6]

/-- The path that is predicted for a token. -/
def samplePath (label : String) (counter : Int32) : ObjectPath :=
  (requestPathFor sampleBus (requestToken sampleBus label counter)).getD ""

/-- A grant is acquired and a signature asked for with it. -/
def sampleSigning : List Action :=
  sampleSent ++
    [.response 0 (samplePath "pkcs11c" 0) 0 sampleResults,
      .advance 0 0 none, .advance 0 0 none, .start 1,
      .response 1 (samplePath "pkcs11a" 2) 0 sampleResults,
      .advance 0 0 none, .advance 0 0 none,
      .enter 0 (.operation sampleOperation), .advance 0 0 none,
      .advance 0 0 none, .start 2,
      .response 2 (samplePath "pkcs11o" 3) 0 sampleResults,
      .advance 0 0 none, .advance 0 0 none]

/-- The state after a signature. -/
def sampleSigned : World :=
  ((machine sampleBus).run .start sampleSigning).getD .start

/-- A signature is returned in the example, lawfully. -/
theorem owner_bound_signing :
    .returned 2 sampleOperation [1, 2, 3] ∈ sampleSigned.trace ∧
      Each Lawful sampleSigned.trace := by
  have started : (machine sampleBus).Reachable .start := .initial rfl
  have moved : (machine sampleBus).run .start sampleSigning =
      some sampleSigned := rfl
  exact ⟨List.mem_cons_self .., owner_bound (started.run moved)⟩

end PortalCertificate.Module.OwnerBinding
