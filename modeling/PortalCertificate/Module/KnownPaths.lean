import PortalCertificate.Module.RequestCleanup
import PortalCertificate.Module.Tokens

/-!
# The paths of a client

A request listens at the path that the frontend has for it, and the sessions
that a client knows are those of its own requests, as long as the replies
and signals it gets are genuine.
-/

namespace PortalCertificate.Module.KnownPaths

open PortalCertificate.Library.Transition
open PortalCertificate.Module.Connection
open PortalCertificate.Module.PortalClient
open PortalCertificate.Module.PortalSteps
open PortalCertificate.Module.RequestCleanup
open PortalCertificate.Module.Requests
open PortalCertificate.Module.Tokens

/-! ## Where requests listen -/

/-- What is known of the paths of a request, whatever has happened to it. -/
structure PlacedRequest (bus : Bus) (request : PortalRequest) : Prop where
  predicted : request.requestPath = frontendRequest bus request
  listening : ∀ path, request.subscription = some path →
    path = request.requestPath
  answered : ∀ results session, request.results = some results →
    results.sessionHandle = some session →
    frontendSession bus request = some session

/-- The paths in an event are the ones that the frontend has. -/
def Genuine (bus : Bus) (request : PortalRequest) : RequestEvent → Prop
  | .methodReturned (.ok path) => frontendRequest bus request = some path
  | .response _ results =>
      ∀ session, results.sessionHandle = some session →
        frontendSession bus request = some session
  | _ => True

section PlacedRequest

variable {bus : Bus} {request : PortalRequest}

theorem placed_new
    (method : PortalMethod) {parameters : Parameters}
    {path : Option ObjectPath}
    (predicted :
      path = frontendPath bus "request" parameters.handleToken)
    (generation : Nat) :
    PlacedRequest bus (.new method parameters path generation) := by
  constructor
  · exact predicted
  · intro subscribed none
    cases none
  · intro results session none
    cases none

theorem PlacedRequest.close
    (placed : PlacedRequest bus request) (path : Option ObjectPath) :
    PlacedRequest bus (requestCloseAtPortal request path).1 := by
  unfold requestCloseAtPortal
  split
  · exact placed
  · split_ifs
    · exact placed
    · exact ⟨placed.predicted, placed.listening, placed.answered⟩

theorem PlacedRequest.complete (placed : PlacedRequest bus request) :
    PlacedRequest bus (requestComplete request).1 := by
  unfold requestComplete
  split_ifs
  · exact placed
  · have completed : PlacedRequest bus { request with completed := true } :=
      ⟨placed.predicted, placed.listening, placed.answered⟩
    dsimp only
    split
    · have closed := completed.close
        (request.returnedPath.or request.requestPath)
      exact ⟨closed.predicted, nofun, closed.answered⟩
    · exact ⟨placed.predicted, nofun, placed.answered⟩

/-- A genuine reply never makes a request listen elsewhere. -/
theorem Handles.placed
    {event : RequestEvent}
    {handler : PortalRequest → PortalRequest × List ObjectPath}
    (handles : Handles event handler) (placed : PlacedRequest bus request)
    (genuine : Genuine bus request event) :
    PlacedRequest bus (handler request).1 := by
  cases handles with
  | sent owner =>
      refine ⟨placed.predicted, ?_, placed.answered⟩
      rintro path same
      exact (Option.some.inj same).symm
  | abandoned code =>
      exact PlacedRequest.complete
        ⟨placed.predicted, placed.listening, placed.answered⟩
  | methodReturned reply =>
      cases reply with
      | ok path =>
          have expected : request.requestPath = some path :=
            placed.predicted.trans genuine
          simp only [onMethodReturned]
          split_ifs
          · exact ⟨placed.predicted, placed.listening, placed.answered⟩
          · refine PlacedRequest.close ?_ (some path)
            exact ⟨placed.predicted, placed.listening, placed.answered⟩
          · exact ⟨placed.predicted, placed.listening, placed.answered⟩
      | error error =>
          simp only [onMethodReturned]
          split_ifs
          · exact ⟨placed.predicted, placed.listening, placed.answered⟩
          · exact PlacedRequest.complete
              ⟨placed.predicted, placed.listening, placed.answered⟩
  | response response results =>
      unfold onResponse
      split_ifs
      · exact placed
      · refine PlacedRequest.complete
          ⟨placed.predicted, placed.listening, ?_⟩
        rintro _ session same named
        cases same
        exact genuine session named
  | timedOut | cancelled | ownerChanged =>
      exact PlacedRequest.complete
        ⟨placed.predicted, placed.listening, placed.answered⟩

end PlacedRequest

/-! ## What a client knows of paths -/

/-- The session of one of the client's requests. -/
def OwnSession (bus : Bus) (world : World) (session : ObjectPath) : Prop :=
  ∃ id request, world.requests id = some request ∧
    frontendSession bus request = some session

/-- The paths that a caller keeps. -/
def PlacedPc (bus : Bus) (world : World) : Pc → Prop
  | .requesting _ token path => path = requestPathFor bus token
  | .acquiring _ _ session | .awaitingGrant _ _ session _
  | .granting _ _ session _ _ => OwnSession bus world session
  | _ => True

/--
`noted` says of which sessions the client was told that they are gone, and
`asked` what others know of its requests.
-/
structure Placed
    (bus : Bus) (noted : ObjectPath → Prop)
    (asked : Nat → Parameters → Prop) (world : World) : Prop where
  requests : ∀ id request, world.requests id = some request →
    PlacedRequest bus request
  threads : ∀ thread, PlacedPc bus world (world.threads thread)
  granted : ∀ thread id grant, .granted thread id grant ∈ world.trace →
    OwnSession bus world grant.sessionHandle
  invalidated : ∀ path ∈ world.invalidated, noted path
  asked : ∀ id parameters, asked id parameters →
    ∃ request, world.requests id = some request ∧
      request.parameters = parameters

theorem PlacedPc.mono
    {bus : Bus} {world next : World}
    (grows : ∀ session, OwnSession bus world session →
      OwnSession bus next session) {pc : Pc}
    (placed : PlacedPc bus world pc) : PlacedPc bus next pc := by
  cases pc with
  | acquiring | awaitingGrant | granting => exact grows _ placed
  | requesting => exact placed
  | _ => trivial

theorem OwnSession.steady
    {bus : Bus} {world next : World}
    (requests : ∀ id,
      Option.Rel Steady (world.requests id) (next.requests id))
    {session : ObjectPath} (own : OwnSession bus world session) :
    OwnSession bus next session := by
  rcases own with ⟨id, request, found, session⟩
  have related := requests id
  rw [found] at related
  generalize after : next.requests id = new at related
  cases related with
  | @some _ changed steady =>
      refine ⟨id, changed, after, ?_⟩
      unfold frontendSession
      rw [steady.parameters]
      exact session

theorem OwnSession.queue
    {bus : Bus} {world : World}
    (fresh : world.requests world.nextRequest = none)
    (method : PortalMethod) (parameters : Parameters)
    (path : Option ObjectPath) (generation : Nat) (grant : Option Grant)
    {session : ObjectPath} (own : OwnSession bus world session) :
    OwnSession bus
      (world.queue method parameters path generation grant) session := by
  rcases own with ⟨id, request, found, own⟩
  have different : id ≠ world.nextRequest := by
    rintro rfl
    rw [fresh] at found
    cases found
  exact ⟨id, request, by simpa [World.queue, different] using found, own⟩

section Placed

variable
  {bus : Bus} {noted : ObjectPath → Prop}
  {asked : Nat → Parameters → Prop} {world next : World}
  (placed : Placed bus noted asked world)

include placed

theorem Placed.goes
    (thread : Nat) {pc : Pc} (here : PlacedPc bus world pc) :
    Placed bus noted asked (world.goes thread pc) where
  requests := placed.requests
  threads other := by
    rw [World.goes_threads]
    split_ifs
    · exact here
    · exact placed.threads other
  granted := placed.granted
  invalidated := placed.invalidated
  asked := placed.asked

theorem Placed.emit
    {event : Event}
    (own : ∀ thread id grant, event = .granted thread id grant →
      OwnSession bus world grant.sessionHandle) :
    Placed bus noted asked (world.emit event) where
  requests := placed.requests
  threads := placed.threads
  granted thread id grant member := by
    rcases List.mem_cons.mp member with same | old
    · exact own thread id grant same.symm
    · exact placed.granted thread id grant old
  invalidated := placed.invalidated
  asked := placed.asked

theorem Placed.refuse (thread : Nat) (error : Option RequestError) :
    Placed bus noted asked (world.refuse thread error) :=
  (placed.emit (fun _ _ _ => Event.noConfusion)).goes thread trivial

theorem Placed.queue
    (fresh : world.requests world.nextRequest = none)
    (method : PortalMethod) (parameters : Parameters)
    {path : Option ObjectPath}
    (predicted :
      path = frontendPath bus "request" parameters.handleToken)
    (generation : Nat) (grant : Option Grant) :
    Placed bus noted asked
      (world.queue method parameters path generation grant) := by
  have grows (session : ObjectPath) (own : OwnSession bus world session) :=
    own.queue fresh method parameters path generation grant
  constructor
  · intro id request found
    by_cases same : id = world.nextRequest
    · have new : request =
          PortalRequest.new method parameters path generation := by
        simpa [World.queue, same] using found.symm
      rw [new]
      exact placed_new method predicted generation
    · refine placed.requests id request ?_
      simpa [World.queue, same] using found
  · exact fun thread => (placed.threads thread).mono grows
  · intro thread id granted member
    rcases List.mem_cons.mp member with same | old
    · cases same
    · exact grows _ (placed.granted thread id granted old)
  · exact placed.invalidated
  · intro id known relied
    rcases placed.asked id known relied with ⟨request, found, same⟩
    have different : id ≠ world.nextRequest := by
      rintro rfl
      rw [fresh] at found
      cases found
    exact ⟨request, by simpa [World.queue, different] using found, same⟩

/-- Fields that say nothing about paths do not matter. -/
theorem Placed.same
    (requests : next.requests = world.requests)
    (threads : next.threads = world.threads)
    (granted : ∀ thread id grant, .granted thread id grant ∈ next.trace →
      .granted thread id grant ∈ world.trace)
    (invalidated : next.invalidated = world.invalidated) :
    Placed bus noted asked next := by
  have keeps (session : ObjectPath) :
      OwnSession bus world session → OwnSession bus next session := by
    unfold OwnSession
    rw [requests]
    exact id
  constructor
  · rw [requests]
    exact placed.requests
  · intro thread
    rw [threads]
    exact (placed.threads thread).mono keeps
  · intro thread id grant member
    exact keeps _ (placed.granted thread id grant (granted _ _ _ member))
  · rw [invalidated]
    exact placed.invalidated
  · rw [requests]
    exact placed.asked

theorem Placed.callback
    {id : Nat} {request : PortalRequest}
    (found : world.requests id = some request) {event : RequestEvent}
    {handler : PortalRequest → PortalRequest × List ObjectPath}
    (handles : Handles event handler)
    (genuine : Genuine bus request event) :
    Placed bus noted asked (world.callback id request event handler) := by
  have grows (session : ObjectPath) (own : OwnSession bus world session) :=
    own.steady (steady_callback found handles)
  constructor
  · intro other changed present
    by_cases same : other = id
    · have now : changed = (handler request).1 := by
        simpa [World.callback, same] using present.symm
      rw [now]
      exact Handles.placed handles (placed.requests id request found) genuine
    · refine placed.requests other changed ?_
      simpa [World.callback, same] using present
  · exact fun thread => (placed.threads thread).mono grows
  · intro thread other grant member
    rcases List.mem_append.mp member with new | old
    · rcases mem_callbackEvents new with same | ⟨path, same⟩ | same
      · cases same
      · cases same
      · cases same
    · exact grows _ (placed.granted thread other grant old)
  · exact placed.invalidated
  · intro other parameters relied
    rcases placed.asked other parameters relied with ⟨known, old, same⟩
    have related := steady_callback found handles other
    rw [old] at related
    generalize after : (world.callback id request event handler).requests
      other = new at related
    cases related with
    | @some _ changed steady =>
        exact ⟨changed, rfl, steady.parameters.trans same⟩

theorem Placed.dispatch
    {id : Nat} {holds : PortalRequest → Bool} {event : RequestEvent}
    {handler : PortalRequest → PortalRequest × List ObjectPath}
    (handles : Handles event handler)
    (genuine : ∀ request, world.requests id = some request →
      Genuine bus request event)
    (moves : world.dispatch id holds event handler = some next) :
    Placed bus noted asked next := by
  unfold World.dispatch at moves
  split at moves
  · cases moves
  · rename_i request found
    split_ifs at moves
    cases moves
    exact placed.callback found handles (genuine request found)

omit placed in
theorem Placed.foldl
    {event : RequestEvent}
    {handler : PortalRequest → PortalRequest × List ObjectPath}
    (handles : Handles event handler)
    (genuine : ∀ request, Genuine bus request event) (ids : List Nat)
    {world : World} (placed : Placed bus noted asked world) :
    Placed bus noted asked (ids.foldl
      (fun world id =>
        match world.requests id with
        | none => world
        | some request => world.callback id request event handler)
      world) := by
  induction ids generalizing world with
  | nil => exact placed
  | cons id rest ih =>
      rw [List.foldl_cons]
      apply ih
      split
      · exact placed
      · rename_i request found
        exact placed.callback found handles (genuine request)

theorem Placed.requestStart
    {id : Nat} {request : PortalRequest}
    (found : world.requests id = some request) :
    Placed bus noted asked (requestStart world id request) := by
  have abandoned (code : Calls.PortalErrorCode) :=
    placed.callback found (.abandoned code) trivial
  unfold PortalClient.requestStart
  split
  · rename_i owner _
    split_ifs
    · exact abandoned _
    · have sent := placed.callback found (.sent owner) trivial
      exact sent.same rfl rfl (fun _ _ _ member => member) rfl
    · exact abandoned _
    · exact abandoned _
  · exact abandoned _

/-- What an action brings from outside is what the frontend has. -/
def GenuineAction (bus : Bus) (noted : ObjectPath → Prop) (world : World) :
    Action → Prop
  | .methodReturned id reply =>
      ∀ request, world.requests id = some request →
        Genuine bus request (.methodReturned reply)
  | .response id _ response results =>
      ∀ request, world.requests id = some request →
        Genuine bus request (.response response results)
  | .invalidated session => noted session
  | _ => True

/-- The thread of the client keeps the paths known. -/
theorem Placed.clientStep
    {action : Action} (genuine : GenuineAction bus noted world action)
    (moves : clientStep world action = some next) :
    Placed bus noted asked next := by
  have quiet (thread id : Nat) (grant : Grant)
      (member : .granted thread id grant ∈ world.trace) :
      .granted thread id grant ∈ world.trace := member
  cases action with
  | ownerChanged owner =>
      simp only [PortalClient.clientStep] at moves
      split_ifs at moves
      cases moves
      unfold PortalClient.ownerChanged
      split_ifs
      · exact placed.same rfl rfl quiet rfl
      · refine placed.same rfl rfl ?_ rfl
        intro thread id grant member
        exact (List.mem_cons.mp member).resolve_left Event.noConfusion
  | invalidated session =>
      simp only [PortalClient.clientStep] at moves
      split_ifs at moves
      cases moves
      refine ⟨placed.requests, placed.threads, placed.granted, ?_,
        placed.asked⟩
      exact List.forall_mem_cons.mpr ⟨genuine, placed.invalidated⟩
  | start id =>
      simp only [PortalClient.clientStep] at moves
      split at moves
      · cases moves
      · rename_i request found
        split_ifs at moves
        cases moves
        exact placed.requestStart found
  | methodReturned id reply =>
      exact placed.dispatch (.methodReturned reply) genuine moves
  | response id path response results =>
      exact placed.dispatch (.response response results) genuine moves
  | timedOut id =>
      exact placed.dispatch .timedOut (fun _ _ => trivial) moves
  | cancelRequests =>
      cases moves
      have cancelled :
          Placed bus noted asked { world with cancelled := true } :=
        placed.same rfl rfl quiet rfl
      exact Placed.foldl .cancelled (fun _ => trivial) world.live cancelled
  | beginDrain =>
      cases moves
      exact placed.same rfl rfl quiet rfl
  | ownerSweep | enter | advance => cases moves

/-- The session in the answer of a request is the request's own. -/
theorem Placed.answered
    {id : Nat} {results : Results} {error : Option RequestError}
    (answer : world.answer id = some (some results, error))
    {session : ObjectPath} (given : results.sessionHandle = some session) :
    OwnSession bus world session := by
  rcases Option.bind_eq_some_iff.mp answer with ⟨request, found, done⟩
  split_ifs at done
  have outcome := Option.some.inj done
  have told : request.results = some results := by
    unfold PortalRequest.outcome at outcome
    split at outcome
    · cases outcome
    · split_ifs at outcome
      · cases outcome
      · cases outcome
      · exact congrArg Prod.fst outcome
  exact ⟨id, request, found,
    (placed.requests id request found).answered results session told given⟩

theorem Placed.advance
    (kept : Kept world) {thread now : Nat}
    {reply : Option (Option (List String))}
    (moves : advance bus world thread now reply = some next) :
    Placed bus noted asked next := by
  have here := placed.threads thread
  have fresh := kept.fresh world.nextRequest le_rfl
  have counted (counter : Int32) :
      Placed bus noted asked { world with counter } :=
    placed.same rfl rfl (fun _ _ _ member => member) rfl
  cases pc : world.threads thread with
  | idle => simp [PortalClient.advance, pc] at moves
  | entering purpose =>
      simp only [PortalClient.advance, pc] at moves
      split_ifs at moves
      cases moves
      unfold World.beginProbe
      split
      · exact placed.goes thread trivial
      · split_ifs
        · have locked :
              Placed bus noted asked { world with probeLocked := true } :=
            placed.same rfl rfl (fun _ _ _ member => member) rfl
          exact (locked.emit fun _ _ _ => Event.noConfusion).goes thread
            trivial
        · exact placed.goes thread trivial
  | probing purpose owner generation =>
      simp only [PortalClient.advance, pc] at moves
      cases moves
      have probed :
          Placed bus noted asked (finishProbe world generation now reply) := by
        unfold PortalClient.finishProbe
        split_ifs <;>
          exact placed.same rfl rfl (fun _ _ _ member => member) rfl
      exact (probed.emit fun _ _ _ => Event.noConfusion).goes thread trivial
  | reading purpose =>
      simp only [PortalClient.advance, pc] at moves
      cases moves
      have told :
          Placed bus noted asked
            (world.emit (.available world.available)) :=
        placed.emit fun _ _ _ => Event.noConfusion
      unfold World.told
      split
      · exact told.goes thread trivial
      · exact told.goes thread trivial
      · exact (told.emit fun _ _ _ => Event.noConfusion).goes thread trivial
      · exact told.goes thread trivial
      · exact told.refuse thread _
  | copying | snapshotting =>
      simp only [PortalClient.advance, pc] at moves
      cases moves
      exact (placed.emit fun _ _ _ => Event.noConfusion).goes thread trivial
  | creatingSession owner generation =>
      simp only [PortalClient.advance, pc] at moves
      cases moves
      exact (counted _).goes thread trivial
  | namingSession owner generation token =>
      simp only [PortalClient.advance, pc] at moves
      cases moves
      unfold World.createSession
      dsimp only
      split
      · exact (counted _).refuse thread _
      · rename_i path predicted
        have predicted : some path = frontendPath bus "request" token :=
          predicted.symm.trans (requestPathFor_eq bus token)
        have queued := (counted (world.counter + 1)).queue fresh
          .createSession
          ⟨none, token, some (requestToken bus "pkcs11s" world.counter)⟩
          predicted generation none
        exact queued.goes thread trivial
  | awaitingSession owner generation request =>
      simp only [PortalClient.advance, pc] at moves
      rcases Option.map_eq_some_iff.mp moves with ⟨answer, answered, rfl⟩
      unfold World.takeSession
      split
      · exact placed.refuse thread _
      · split
        · exact placed.refuse thread _
        · rename_i given
          exact placed.goes thread (placed.answered answered given)
  | acquiring owner generation session =>
      simp only [PortalClient.advance, pc] at moves
      cases moves
      rw [pc] at here
      have predicted := requestPathFor_eq bus
        (requestToken bus "pkcs11a" world.counter)
      have queued := (counted (world.counter + 1)).queue fresh
        .acquireCredential
        ⟨some session, requestToken bus "pkcs11a" world.counter, none⟩
        predicted generation none
      exact queued.goes thread (OwnSession.queue fresh _ _ _ _ none here)
  | awaitingGrant owner generation session request =>
      simp only [PortalClient.advance, pc] at moves
      rcases Option.map_eq_some_iff.mp moves with ⟨answer, -, rfl⟩
      rw [pc] at here
      unfold World.takeGrant
      split
      · exact (placed.emit fun _ _ _ => Event.noConfusion).refuse thread _
      · exact placed.goes thread here
  | granting owner generation session request results =>
      simp only [PortalClient.advance, pc] at moves
      cases moves
      rw [pc] at here
      unfold World.finishGrant
      split_ifs
      · exact (placed.emit fun _ _ _ => Event.noConfusion).refuse thread _
      · split
        · exact (placed.emit fun _ _ _ => Event.noConfusion).refuse thread _
        · refine (placed.emit ?_).goes thread trivial
          rintro _ _ grant same
          cases same
          exact here
  | operating operation =>
      simp only [PortalClient.advance, pc] at moves
      cases moves
      unfold World.beginOperation
      dsimp only
      split_ifs
      · exact (counted _).refuse thread _
      · exact (counted _).goes thread rfl
  | requesting operation token path =>
      simp only [PortalClient.advance, pc] at moves
      cases moves
      rw [pc] at here
      have predicted : path = frontendPath bus "request" token :=
        here.trans (requestPathFor_eq bus token)
      exact (placed.queue fresh _ ⟨_, token, _⟩ predicted _ _).goes thread
        trivial
  | awaitingResult operation request =>
      simp only [PortalClient.advance, pc] at moves
      rcases Option.map_eq_some_iff.mp moves with ⟨answer, -, rfl⟩
      unfold World.takeResult
      split
      · exact placed.refuse thread _
      · exact placed.goes thread trivial
  | confirming operation request results =>
      simp only [PortalClient.advance, pc] at moves
      cases moves
      unfold World.finishOperation
      split_ifs
      · exact placed.refuse thread _
      · split
        · exact placed.refuse thread _
        · exact (placed.emit fun _ _ _ => Event.noConfusion).goes thread
            trivial

/-- The step lemma for paths. -/
theorem Placed.step
    (kept : Kept world) {action : Action}
    (genuine : GenuineAction bus noted world action)
    (moves : (machine bus).step world action = some next) :
    Placed bus noted asked next := by
  cases action with
  | ownerSweep =>
      simp only [machine, PortalClient.step] at moves
      split_ifs at moves
      cases moves
      have swept := Placed.foldl .ownerChanged
        (fun _ => trivial) world.live placed
      exact swept.same rfl rfl (fun _ _ _ member => member) rfl
  | enter thread entry =>
      simp only [machine, PortalClient.step] at moves
      split_ifs at moves
      cases moves
      refine placed.goes thread ?_
      cases entry <;> trivial
  | advance thread now reply => exact placed.advance kept moves
  | ownerChanged | invalidated | start | methodReturned | response
  | timedOut | cancelRequests | beginDrain =>
      simp only [machine, PortalClient.step] at moves
      split_ifs at moves
      exact placed.clientStep genuine moves

end Placed

/-- The parameters of a request of the client, as they are now. -/
def Asked (world : World) (id : Nat) (parameters : Parameters) : Prop :=
  ∃ request, world.requests id = some request ∧
    request.parameters = parameters

theorem Placed.renew
    {bus : Bus} {noted wider : ObjectPath → Prop}
    {asked : Nat → Parameters → Prop} {world : World}
    (placed : Placed bus noted asked world)
    (grows : ∀ path, noted path → wider path) :
    Placed bus wider (Asked world) world where
  requests := placed.requests
  threads := placed.threads
  granted := placed.granted
  invalidated path gone := grows path (placed.invalidated path gone)
  asked _ _ known := known

/-! ## Signals -/

/-- What a signal makes a client do is right, whatever it does before. -/
def GenuineSignal
    (bus : Bus) (noted : ObjectPath → Prop)
    (asked : Nat → Parameters → Prop) : Action → Prop
  | .response id _ _ results =>
      ∃ parameters, asked id parameters ∧
        ∀ session, results.sessionHandle = some session →
          parameters.sessionHandleToken.bind (frontendPath bus "session") =
            some session
  | .invalidated session => noted session
  | _ => False

/-- A genuine signal makes a genuine action. -/
theorem GenuineSignal.action
    {bus : Bus} {noted : ObjectPath → Prop}
    {asked : Nat → Parameters → Prop} {world : World} {action : Action}
    (genuine : GenuineSignal bus noted asked action)
    (placed : Placed bus noted asked world) :
    GenuineAction bus noted world action := by
  cases action with
  | response id path response results =>
      rcases genuine with ⟨parameters, relied, own⟩
      rcases placed.asked id parameters relied with ⟨known, found, rfl⟩
      intro request present
      cases found.symm.trans present
      exact own
  | invalidated session => exact genuine
  | _ => exact genuine.elim

/-- A client gets signals and moves no token. -/
theorem run_signals
    {bus : Bus} {noted : ObjectPath → Prop}
    {asked : Nat → Parameters → Prop} {world next : World}
    {actions : List Action}
    (genuine : ∀ action ∈ actions, GenuineSignal bus noted asked action)
    (reachable : (machine bus).Reachable world)
    (placed : Placed bus noted asked world)
    (moves : (machine bus).run world actions = some next) :
    (machine bus).Reachable next ∧ held next = held world ∧
      Placed bus noted asked next := by
  induction actions generalizing world with
  | nil =>
      cases Option.some.inj moves
      exact ⟨reachable, rfl, placed⟩
  | cons action rest ih =>
      rw [System.run_cons, Option.bind_eq_some_iff] at moves
      rcases moves with ⟨middle, stepped, moves⟩
      have first := genuine action (List.mem_cons_self ..)
      have same : held middle = held world := by
        cases action with
        | response | invalidated =>
            simp only [machine, PortalClient.step] at stepped
            split_ifs at stepped
            exact held_clientStep stepped
        | _ => exact first.elim
      have arrived := placed.step (reachable_kept reachable)
        (first.action placed) stepped
      have later : ∀ other ∈ rest, GenuineSignal bus noted asked other :=
        fun other member => genuine other (List.mem_cons_of_mem _ member)
      rcases ih later (reachable.step stepped) arrived moves with
        ⟨reached, still, placed⟩
      exact ⟨reached, still.trans same, placed⟩

end PortalCertificate.Module.KnownPaths
