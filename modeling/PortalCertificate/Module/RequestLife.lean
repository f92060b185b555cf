import PortalCertificate.Module.PortalSteps

/-!
# The life of a portal request

A request is queued, then live, then settled by the first event that ends
its wait.  If that was neither its Response nor a refusal by the other side,
the portal may still show something for it, and the client sends `Close` to
every path it knows.

The events of a request are listed newest first.  What has been closed is a
function of them.
-/

namespace PortalCertificate.Module.RequestLife

open PortalCertificate.Module.PortalClient
open PortalCertificate.Module.PortalSteps
open PortalCertificate.Module.Requests

/-! ## What the events of a request say -/

/-- The outcome of a request by the event that completes it. -/
def outcomeOf (method : PortalMethod) :
    RequestEvent → Option (Option Results × Option RequestError)
  | .sent _ => none
  | .abandoned code => some (none, some (abandonedError method code))
  | .methodReturned (.ok _) => none
  | .methodReturned (.error error) => some (none, some (.call error))
  | .response response results =>
      some
        { PortalRequest.new method default none 0 with
          response
          results := some results }.outcome
  | .timedOut => some (none, some (timeoutError method))
  | .cancelled => some (none, some (abandonedError method .cancelled))
  | .ownerChanged =>
      some (none, some (.portal .invalidated "Frontend owner changed"))

/-- The event ends the wait for a request that is not yet completed. -/
def Completing (event : RequestEvent) : Prop :=
  ∀ method, (outcomeOf method event).isSome

/-- The request was sent, and nothing says that the portal is done with it. -/
def Unanswered : RequestEvent → Prop
  | .methodReturned (.error error) => error.refused = false
  | .timedOut | .cancelled | .ownerChanged => True
  | .sent _ | .abandoned _ | .methodReturned (.ok _) | .response _ _ => False

/-- The Response of the request, or the other side's refusal of the call. -/
def Answered : RequestEvent → Prop
  | .response _ _ => True
  | .methodReturned (.error error) => error.refused = true
  | .methodReturned (.ok _) | .sent _ | .abandoned _ | .timedOut
  | .cancelled | .ownerChanged => False

/-- The path that a method reply names. -/
def returnedPath : RequestEvent → Option ObjectPath
  | .methodReturned (.ok path) => some path
  | _ => none

/-- The paths that the method reply has named. -/
def returnedPaths (events : List RequestEvent) : List ObjectPath :=
  events.filterMap returnedPath

/-- Where a request is first closed: the returned path, or the predicted. -/
def firstClosed
    (predicted : Option ObjectPath) (earlier : List RequestEvent) :
    Option ObjectPath :=
  (returnedPaths earlier).head?.or predicted

/-- All paths that are closed, newest first. -/
def closedPaths
    (predicted : Option ObjectPath) (later earlier : List RequestEvent) :
    List ObjectPath :=
  (returnedPaths later).filter
      (fun path => firstClosed predicted earlier ≠ some path) ++
    (firstClosed predicted earlier).toList

@[simp]
theorem returnedPaths_nil : returnedPaths [] = [] := rfl

@[simp]
theorem returnedPaths_cons (event : RequestEvent) (events : List RequestEvent) :
    returnedPaths (event :: events) =
      (returnedPath event).toList ++ returnedPaths events := by
  cases found : returnedPath event <;> simp [returnedPaths, found]

theorem Unanswered.completing
    {event : RequestEvent} (unanswered : Unanswered event) :
    Completing event := by
  intro method
  cases event with
  | methodReturned reply =>
      cases reply with
      | ok => exact unanswered.elim
      | error => rfl
  | timedOut | cancelled | ownerChanged => rfl
  | sent | abandoned | response => exact unanswered.elim

theorem Answered.not_unanswered
    {event : RequestEvent} (answered : Answered event) :
    ¬ Unanswered event := by
  intro unanswered
  cases event with
  | methodReturned reply =>
      cases reply with
      | ok => exact answered
      | error =>
          have refused := answered.symm.trans unanswered
          cases refused
  | response => exact unanswered
  | sent | abandoned | timedOut | cancelled | ownerChanged => exact answered

/-- The three ways in which a request is completed. -/
theorem Completing.cases
    {event : RequestEvent} (completing : Completing event) :
    Unanswered event ∨ Answered event ∨
      ∃ code, event = .abandoned code := by
  have ends := completing .sign
  cases event with
  | sent => cases ends
  | abandoned code => exact .inr (.inr ⟨code, rfl⟩)
  | response => exact .inr (.inl trivial)
  | timedOut | cancelled | ownerChanged => exact .inl trivial
  | methodReturned reply =>
      cases reply with
      | ok => cases ends
      | error error =>
          cases refused : error.refused with
          | false => exact .inl refused
          | true => exact .inr (.inl refused)

theorem completing_iff {event : RequestEvent} (method : PortalMethod) :
    Completing event ↔ (outcomeOf method event).isSome := by
  constructor
  · intro completing
    exact completing method
  · intro here other
    cases event with
    | methodReturned reply => cases reply <;> exact here
    | sent | abandoned | response | timedOut | cancelled | ownerChanged =>
        exact here

/-! ## The life of a request -/

/-- The events of a request that has been sent and not yet completed. -/
inductive LiveEvents (request : PortalRequest) : List RequestEvent → Prop
  where
  | sent {owner : BusName}
      (calling : request.calling = true)
      (unknown : request.returnedPath = none) :
      LiveEvents request [.sent owner]
  | returned {owner : BusName} {path : ObjectPath}
      (called : request.calling = false)
      (known : request.returnedPath = some path) :
      LiveEvents request [.methodReturned (.ok path), .sent owner]

/-- Nothing of the clean-up has happened to the request. -/
structure Untouched (request : PortalRequest) : Prop where
  completed : request.completed = false
  done : request.done = false
  responded : request.responded = false
  methodFailed : request.methodFailed = false
  closedPath : request.closedPath = none
  error : request.error = none

/-- The request waits for the worker. -/
structure Queued (request : PortalRequest) : Prop
    extends Untouched request where
  queued : request.queued = true
  calling : request.calling = false
  timeoutArmed : request.timeoutArmed = false
  subscription : request.subscription = none
  sent : request.sent = false
  returnedPath : request.returnedPath = none

/-- The request has been sent, and is not completed. -/
structure Live (request : PortalRequest) (events : List RequestEvent) :
    Prop extends Untouched request where
  queued : request.queued = false
  sent : request.sent = true
  events : LiveEvents request events

/-- The request has been completed; nothing has to be closed. -/
structure Quiet (request : PortalRequest) : Prop where
  answered : request.calling = true → request.responded = true

/-- The request has been completed and closed; a reply may still come. -/
structure Closed
    (request : PortalRequest) (later earlier : List RequestEvent) : Prop where
  responded : request.responded = false
  pending : request.calling = true →
    returnedPaths later = [] ∧
      request.closedPath = firstClosed request.requestPath earlier
  single : (returnedPaths later).length ≤ 1

/-- The request has been completed by `event`. -/
structure Settled
    (request : PortalRequest) (later : List RequestEvent)
    (event : RequestEvent) (earlier : List RequestEvent)
    (closes : List ObjectPath) : Prop where
  completed : request.completed = true
  done : request.done = true
  queued : request.queued = false
  timeoutArmed : request.timeoutArmed = false
  subscription : request.subscription = none
  first : ∀ other ∈ earlier, ¬ Completing other
  outcome : outcomeOf request.method event = some request.outcome
  quiet : ¬ Unanswered event → Quiet request ∧ closes = []
  closed : Unanswered event →
    Closed request later earlier ∧
      closes = closedPaths request.requestPath later earlier
  sender : (∀ code, event ≠ .abandoned code) →
    ∃ owner, .sent owner ∈ earlier
  unsent : ∀ code, event = .abandoned code → earlier = []

/-- A request, with its events and the paths that have been closed for it. -/
inductive Life (request : PortalRequest) :
    List RequestEvent → List ObjectPath → Prop where
  | queued (queued : Queued request) : Life request [] []
  | live {events : List RequestEvent} (live : Live request events) :
      Life request events []
  | settled
      {later earlier : List RequestEvent} {event : RequestEvent}
      {closes : List ObjectPath}
      (settled : Settled request later event earlier closes) :
      Life request (later ++ event :: earlier) closes

theorem Settled.now
    {request : PortalRequest} {event : RequestEvent}
    {earlier : List RequestEvent} {closes : List ObjectPath}
    (settled : Settled request [] event earlier closes) :
    Life request (event :: earlier) closes :=
  .settled settled

/-- The request after a callback, with the event and the new closes. -/
def Lives
    (events : List RequestEvent) (closes : List ObjectPath)
    (event : RequestEvent) (result : PortalRequest × List ObjectPath) :
    Prop :=
  Life result.1 (event :: events) (result.2.reverse ++ closes)

/-! ## Completion -/

section Completion

variable {request : PortalRequest}

/-- A request that was sent and has neither been answered nor refused. -/
theorem requestComplete_closes
    (request : PortalRequest) (completed : request.completed = false)
    (sent : request.sent = true)
    (responded : request.responded = false)
    (methodFailed : request.methodFailed = false)
    (closedPath : request.closedPath = none) :
    requestComplete request =
      ({ request with
          completed := true
          closedPath := request.returnedPath.or request.requestPath
          timeoutArmed := false
          subscription := none
          done := true },
        (request.returnedPath.or request.requestPath).toList) := by
  cases target : request.returnedPath.or request.requestPath with
  | none =>
      simp [requestComplete, requestCloseAtPortal, completed, sent,
        responded, methodFailed, closedPath, target]
  | some path =>
      simp [requestComplete, requestCloseAtPortal, completed, sent,
        responded, methodFailed, closedPath, target]

theorem requestComplete_quiet
    (request : PortalRequest) (completed : request.completed = false)
    (ended : (request.sent && !request.responded && !request.methodFailed) =
      false) :
    requestComplete request =
      ({ request with
          completed := true
          timeoutArmed := false
          subscription := none
          done := true }, []) := by
  simp [requestComplete, completed, ended]

theorem LiveEvents.not_completing
    {events : List RequestEvent} (live : LiveEvents request events) :
    ∀ event ∈ events, ¬ Completing event := by
  intro event member completing
  have ends := completing .sign
  cases live with
  | sent =>
      rw [List.mem_singleton] at member
      subst member
      exact Bool.noConfusion ends
  | returned =>
      rcases List.mem_cons.mp member with rfl | member
      · exact Bool.noConfusion ends
      · rw [List.mem_singleton] at member
        subst member
        exact Bool.noConfusion ends

theorem LiveEvents.head?
    {events : List RequestEvent} (live : LiveEvents request events) :
    (returnedPaths events).head? = request.returnedPath := by
  cases live with
  | sent calling unknown => rw [unknown]; rfl
  | returned called known => rw [known]; rfl

theorem LiveEvents.sender
    {events : List RequestEvent} (live : LiveEvents request events) :
    ∃ owner, .sent owner ∈ events := by
  cases live with
  | @sent owner => exact ⟨owner, by simp⟩
  | @returned owner path => exact ⟨owner, by simp⟩

/-- A live request is completed without an answer. -/
theorem Live.unanswered
    {events : List RequestEvent} (live : Live request events)
    (event : RequestEvent) (unanswered : Unanswered event)
    {error : RequestError} {calling timeoutArmed methodFailed : Bool}
    (standing : methodFailed = false)
    (outcome : outcomeOf request.method event = some (none, some error)) :
    Lives events [] event
      (requestComplete
        { request with
          calling
          timeoutArmed
          methodFailed
          error := some error }) := by
  have complete := requestComplete_closes
    { request with
      calling
      timeoutArmed
      methodFailed
      error := some error }
    live.completed live.sent live.responded standing live.closedPath
  have target :
      firstClosed request.requestPath events =
        request.returnedPath.or request.requestPath := by
    rw [firstClosed, live.events.head?]
  rw [complete, Lives, List.append_nil]
  refine Settled.now ⟨rfl, rfl, live.queued, rfl, rfl,
    live.events.not_completing, outcome, ?_, ?_, ?_, ?_⟩
  · intro answered
    exact absurd unanswered answered
  · intro _
    refine ⟨⟨live.responded, fun _ => ⟨rfl, target.symm⟩, by simp⟩,
      ?_⟩
    simp only [closedPaths, target, returnedPaths_nil, List.filter_nil,
      List.nil_append]
    cases request.returnedPath.or request.requestPath <;> rfl
  · intro _
    exact live.events.sender
  · rintro code rfl
    exact unanswered.elim

/-- A live request is completed by its Response or by a refusal. -/
theorem Live.answered
    {events : List RequestEvent} (live : Live request events)
    {changed : PortalRequest} {event : RequestEvent}
    (answered : Answered event)
    (completed : changed.completed = false)
    (queued : changed.queued = false)
    (ended : changed.responded = true ∨
      changed.methodFailed = true ∧ changed.calling = false)
    (outcome : outcomeOf changed.method event = some changed.outcome) :
    Lives events [] event (requestComplete changed) := by
  have quiet :
      (changed.sent && !changed.responded && !changed.methodFailed) =
        false := by
    rcases ended with responded | ⟨failed, -⟩
    · simp [responded]
    · simp [failed]
  rw [requestComplete_quiet changed completed quiet]
  refine Settled.now ⟨rfl, rfl, queued, rfl, rfl,
    live.events.not_completing, outcome, ?_, ?_, ?_, ?_⟩
  · intro _
    refine ⟨⟨?_⟩, rfl⟩
    intro calling
    rcases ended with responded | ⟨-, called⟩
    · exact responded
    · exact absurd calling (by simp [called])
  · intro unanswered
    exact absurd unanswered answered.not_unanswered
  · intro _
    exact live.events.sender
  · rintro code rfl
    exact answered.elim

end Completion

/-! ## Callbacks -/

section Callbacks

variable
  {request : PortalRequest} {events : List RequestEvent}
  {closes : List ObjectPath}

/-- A request that is given up in the queue has lived. -/
theorem Queued.abandon
    (queued : Queued request) (code : Calls.PortalErrorCode) :
    Lives [] [] (.abandoned code) (abandon code request) := by
  have complete := requestComplete_quiet
    { request with
      queued := false
      error := some (abandonedError request.method code) }
    queued.completed (by simp [queued.sent])
  rw [Requests.abandon, complete]
  refine Settled.now ⟨rfl, rfl, rfl, rfl, rfl, by simp, rfl, ?_, ?_,
    fun other => absurd rfl (other code), fun _ _ => rfl⟩
  · intro _
    exact ⟨⟨fun calling => absurd calling (by simp [queued.calling])⟩,
      rfl⟩
  · intro unanswered
    exact unanswered.elim

/-- A request that is sent lives on. -/
theorem Queued.send (queued : Queued request) (owner : BusName) :
    Lives [] [] (.sent owner) (send owner request) :=
  .live
    { completed := queued.completed
      done := queued.done
      responded := queued.responded
      methodFailed := queued.methodFailed
      closedPath := queued.closedPath
      error := queued.error
      queued := rfl
      sent := rfl
      events := .sent rfl queued.returnedPath }

/-- A timeout settles its request, if it is still armed. -/
theorem Life.timedOut
    (life : Life request events closes)
    (armed : request.timeoutArmed = true) :
    Lives events closes .timedOut (onRequestTimeout request) := by
  cases life with
  | queued queued => exact absurd armed (by simp [queued.timeoutArmed])
  | live live =>
      exact live.unanswered .timedOut trivial live.methodFailed rfl
  | settled settled => exact absurd armed (by simp [settled.timeoutArmed])

/-- A change of the owner settles a live request. -/
theorem Live.ownerChanged (live : Live request events) :
    Lives events [] .ownerChanged (onOwnerChanged request) :=
  live.unanswered .ownerChanged trivial live.methodFailed rfl

/-- A cancellation settles a live request. -/
theorem Live.cancelled (live : Live request events) :
    Lives events [] .cancelled (onCancelRequests request) := by
  have fresh :
      request.error.or (some (abandonedError request.method .cancelled)) =
        some (abandonedError request.method .cancelled) := by
    rw [live.error, Option.none_or]
  rw [onCancelRequests, fresh]
  exact live.unanswered .cancelled trivial live.methodFailed rfl

theorem Settled.response
    {later earlier : List RequestEvent} {event : RequestEvent}
    (settled : Settled request later event earlier closes)
    (response : UInt32) (results : Results) :
    Settled request (.response response results :: later) event earlier
      closes :=
  { settled with
    closed := fun unanswered =>
      have closed := settled.closed unanswered
      ⟨⟨closed.1.responded, closed.1.pending, closed.1.single⟩,
        closed.2⟩ }

/-- A Response settles its request, or changes nothing. -/
theorem Life.response
    (life : Life request events closes) {path : ObjectPath}
    (heard : (request.listens path ||
      (request.sent && request.completed)) = true)
    (response : UInt32) (results : Results) :
    Lives events closes (.response response results)
      (onResponse response results request) := by
  cases life with
  | queued queued =>
      simp [PortalRequest.listens, queued.subscription, queued.sent]
        at heard
  | live live =>
      rw [onResponse, if_neg (by simp [live.completed])]
      refine live.answered trivial live.completed live.queued (.inl rfl) ?_
      simp only [outcomeOf, PortalRequest.outcome, PortalRequest.new,
        live.error]
  | settled settled =>
      rw [onResponse, if_pos settled.completed]
      exact .settled (settled.response response results)

/-- A late reply is a later event; it may close one more path. -/
theorem Settled.replied
    {later earlier : List RequestEvent} {event : RequestEvent}
    (settled : Settled request later event earlier closes)
    {path : ObjectPath} {closedPath : Option ObjectPath}
    {closed : List ObjectPath}
    (quiet : ¬ Unanswered event → closed = [])
    (exact : Unanswered event → returnedPaths later = [] ∧
      closed = closedPaths request.requestPath
        (.methodReturned (.ok path) :: later) earlier) :
    Life { request with calling := false, closedPath }
      (.methodReturned (.ok path) :: (later ++ event :: earlier)) closed := by
  rw [← List.cons_append]
  refine .settled ⟨settled.completed, settled.done, settled.queued,
    settled.timeoutArmed, settled.subscription, settled.first,
    settled.outcome, ?_, ?_, settled.sender, settled.unsent⟩
  · intro answered
    refine ⟨⟨?_⟩, quiet answered⟩
    intro calling
    cases calling
  · intro unanswered
    rcases exact unanswered with ⟨silent, exact⟩
    have before := (settled.closed unanswered).1
    refine ⟨⟨before.responded, ?_, by simp [silent, returnedPath]⟩,
      exact⟩
    intro calling
    cases calling

/-- The path of the only reply is closed, unless it has been closed. -/
theorem Settled.returned
    {later earlier : List RequestEvent} {event : RequestEvent}
    (settled : Settled request later event earlier closes)
    (calling : request.calling = true) (path : ObjectPath)
    (unanswered : Unanswered event) :
    Lives (later ++ event :: earlier) closes (.methodReturned (.ok path))
      (requestCloseAtPortal { request with calling := false }
        (some path)) := by
  rcases settled.closed unanswered with ⟨closed, exact⟩
  rcases closed.pending calling with ⟨silent, target⟩
  have answered : ¬ Unanswered event → closes = [] :=
    fun answered => absurd unanswered answered
  rw [requestCloseAtPortal, Lives]
  by_cases same : request.closedPath = some path
  · rw [if_pos same]
    refine settled.replied answered fun _ => ⟨silent, ?_⟩
    simp [exact, closedPaths, silent, returnedPath, ← target, same]
  · rw [if_neg same]
    refine settled.replied (fun answered => absurd unanswered answered)
      fun _ => ⟨silent, ?_⟩
    simp [exact, closedPaths, silent, returnedPath, ← target, same]

theorem Settled.failed
    {later earlier : List RequestEvent} {event : RequestEvent}
    (settled : Settled request later event earlier closes)
    (error : CallError) :
    Settled { request with calling := false }
      (.methodReturned (.error error) :: later) event earlier closes := by
  refine ⟨settled.completed, settled.done, settled.queued,
    settled.timeoutArmed, settled.subscription, settled.first,
    settled.outcome, ?_, ?_, settled.sender, settled.unsent⟩
  · intro answered
    exact ⟨⟨nofun⟩, (settled.quiet answered).2⟩
  · intro unanswered
    rcases settled.closed unanswered with ⟨before, exact⟩
    exact ⟨⟨before.responded, nofun, before.single⟩, exact⟩

theorem Live.returned
    (live : Live request events) (calling : request.calling = true)
    (path : ObjectPath) (subscription : Option (Option ObjectPath)) :
    Life
      { request with
        calling := false
        returnedPath := some path
        subscription }
      (.methodReturned (.ok path) :: events) [] := by
  rcases live with ⟨untouched, queued, sent, events⟩
  cases events with
  | sent =>
      exact .live
        { untouched with
          queued
          sent
          events := .returned rfl rfl }
  | returned called => exact absurd calling (by simp [called])

/-- The first reply to a live request. -/
theorem onMethodReturned_live
    (completed : request.completed = false) (path : ObjectPath) :
    onMethodReturned (.ok path) request =
      ({ request with
          calling := false
          returnedPath := some path
          subscription :=
            if request.requestPath = some path then
              request.subscription
            else
              some (some path) }, []) := by
  by_cases same : request.requestPath = some path
  · simp [onMethodReturned, completed, same]
  · simp [onMethodReturned, subscribeResponse, completed, same]

/-- A refusal settles a live request. -/
theorem Live.failed
    (live : Live request events) (error : CallError) :
    Lives events [] (.methodReturned (.error error))
      (onMethodReturned (.error error) request) := by
  have waiting : ¬ request.completed = true := by simp [live.completed]
  rw [onMethodReturned, if_neg waiting]
  cases refused : error.refused with
  | true =>
      exact live.answered refused live.completed live.queued
        (.inr ⟨rfl, rfl⟩) rfl
  | false =>
      exact live.unanswered (.methodReturned (.error error)) refused rfl rfl

/-- A method return tells, settles or closes its request. -/
theorem Life.methodReturned
    (life : Life request events closes)
    (calling : request.calling = true)
    (reply : Except CallError ObjectPath) :
    Lives events closes (.methodReturned reply)
      (onMethodReturned reply request) := by
  cases life with
  | queued queued => exact absurd calling (by simp [queued.calling])
  | live live =>
      cases reply with
      | ok path =>
          rw [onMethodReturned_live live.completed]
          exact live.returned calling path _
      | error error => exact live.failed error
  | settled settled =>
      rename_i later earlier event
      cases reply with
      | error error =>
          rw [onMethodReturned, if_pos settled.completed]
          exact Life.settled (settled.failed error)
      | ok path =>
          rw [onMethodReturned, if_pos settled.completed]
          by_cases unanswered : Unanswered event
          · have silent := (settled.closed unanswered).1.responded
            have open_ : ¬ request.responded = true := by simp [silent]
            rw [if_neg open_]
            exact settled.returned calling path unanswered
          · rcases settled.quiet unanswered with ⟨quiet, none⟩
            rw [if_pos (quiet.answered calling)]
            exact settled.replied (fun _ => none)
              fun unanswered' => absurd unanswered' unanswered

end Callbacks

/-- A request that was begun and waits is live. -/
theorem Life.live_of_waiting
    {request : PortalRequest} {events : List RequestEvent}
    {closes : List ObjectPath} (life : Life request events closes)
    (begun : request.queued = false)
    (waiting : request.completed = false) :
    Live request events ∧ closes = [] := by
  cases life with
  | queued queued => exact absurd begun (by simp [queued.queued])
  | live live => exact ⟨live, rfl⟩
  | settled settled => exact absurd waiting (by simp [settled.completed])

/-! ## The clean-up -/

/-- The clean-up after the event that completed the request. -/
structure CleanedUp
    (request : PortalRequest) (later : List RequestEvent)
    (event : RequestEvent) (earlier : List RequestEvent)
    (closes : List ObjectPath) : Prop where
  completed : request.completed = true
  outcome : outcomeOf request.method event = some request.outcome
  /-- Sent, and neither a Response nor a refusal. -/
  closed : (∃ owner, .sent owner ∈ earlier) → ¬ Answered event →
    closes = closedPaths request.requestPath later earlier
  answered : Answered event → closes = []

theorem Settled.cleanedUp
    {request : PortalRequest} {later earlier : List RequestEvent}
    {event : RequestEvent} {paths : List ObjectPath}
    (settled : Settled request later event earlier paths) :
    CleanedUp request later event earlier paths where
  completed := settled.completed
  outcome := settled.outcome
  closed := by
    rintro ⟨owner, sent⟩ unanswered
    have completing := (completing_iff request.method).mpr
      (by rw [settled.outcome]; rfl)
    rcases completing.cases with silent | answered | ⟨code, abandoned⟩
    · exact (settled.closed silent).2
    · exact absurd answered unanswered
    · rw [settled.unsent code abandoned] at sent
      cases sent
  answered answered := (settled.quiet answered.not_unanswered).2

/-- A request that was completed by an event is settled. -/
theorem settled_of_completing
    {request : PortalRequest} {events : List RequestEvent}
    {paths : List ObjectPath} (life : Life request events paths)
    {event : RequestEvent} (member : event ∈ events)
    (completing : Completing event) :
    ∃ later first earlier, events = later ++ first :: earlier ∧
      Settled request later first earlier paths := by
  cases life with
  | queued => cases member
  | live live => exact absurd completing (live.events.not_completing _ member)
  | settled settled => exact ⟨_, _, _, rfl, settled⟩

theorem Settled.completing
    {request : PortalRequest} {later earlier : List RequestEvent}
    {event : RequestEvent} {paths : List ObjectPath}
    (settled : Settled request later event earlier paths) :
    Completing event :=
  (completing_iff request.method).mpr (by rw [settled.outcome]; rfl)

/-- There is one first event that completes. -/
theorem split_unique
    {later later' earlier earlier' : List RequestEvent}
    {event event' : RequestEvent}
    (same : later ++ event :: earlier = later' ++ event' :: earlier')
    (completing : Completing event) (completing' : Completing event')
    (first : ∀ other ∈ earlier, ¬ Completing other)
    (first' : ∀ other ∈ earlier', ¬ Completing other) :
    later = later' ∧ event = event' ∧ earlier = earlier' := by
  rcases List.append_eq_append_iff.mp same with
    ⟨middle, rfl, rest⟩ | ⟨middle, rfl, rest⟩
  · cases middle with
    | nil =>
        rcases List.cons.inj rest with ⟨rfl, rfl⟩
        exact ⟨(List.append_nil _).symm, rfl, rfl⟩
    | cons head middle =>
        rcases List.cons.inj rest with ⟨rfl, rfl⟩
        exact absurd completing' (first event' (by simp))
  · cases middle with
    | nil =>
        rcases List.cons.inj rest with ⟨rfl, rfl⟩
        exact ⟨List.append_nil _, rfl, rfl⟩
    | cons head middle =>
        rcases List.cons.inj rest with ⟨rfl, rfl⟩
        exact absurd completing (first' event (by simp))

theorem nodup_closedPaths
    {predicted : Option ObjectPath} {later : List RequestEvent}
    (single : (returnedPaths later).length ≤ 1)
    (earlier : List RequestEvent) :
    (closedPaths predicted later earlier).Nodup := by
  unfold closedPaths
  cases firstClosed predicted earlier with
  | none =>
      cases named : returnedPaths later with
      | nil => simp
      | cons path rest =>
          cases rest with
          | nil => simp
          | cons => simp [named] at single
  | some target =>
      cases named : returnedPaths later with
      | nil => simp
      | cons path rest =>
          cases rest with
          | cons => simp [named] at single
          | nil =>
              by_cases same : target = path
              · simp [same]
              · simp [same, Ne.symm same]

/-- No path is closed twice. -/
theorem Life.nodup
    {request : PortalRequest} {events : List RequestEvent}
    {paths : List ObjectPath} (life : Life request events paths) :
    paths.Nodup := by
  cases life with
  | queued => exact .nil
  | live => exact .nil
  | @settled later earlier event _ settled =>
      by_cases unanswered : Unanswered event
      · rcases settled.closed unanswered with ⟨closed, exact⟩
        rw [exact]
        exact nodup_closedPaths closed.single earlier
      · rw [(settled.quiet unanswered).2]
        exact .nil

/-- A request waits until something completes it. -/
theorem Life.waiting
    {request : PortalRequest} {events : List RequestEvent}
    {paths : List ObjectPath} (life : Life request events paths)
    (waits : ∀ event ∈ events, ¬ Completing event) :
    request.completed = false ∧ paths = [] := by
  cases life with
  | queued queued => exact ⟨queued.completed, rfl⟩
  | live live => exact ⟨live.completed, rfl⟩
  | @settled later earlier event _ settled =>
      exact absurd settled.completing (waits event (by simp))

/-- Only a Response of success has results. -/
theorem response_of_outcome
    {method : PortalMethod} {event : RequestEvent} {results : Results}
    {error : Option RequestError}
    (outcome : outcomeOf method event = some (some results, error)) :
    ∃ results, event = .response 0 results := by
  cases event with
  | sent | timedOut | cancelled | ownerChanged => cases outcome
  | abandoned => cases outcome
  | methodReturned reply => cases reply <;> cases outcome
  | response response given =>
      have outcome := Option.some.inj outcome
      simp only [PortalRequest.outcome, PortalRequest.new] at outcome
      split_ifs at outcome with cancelled failed
      · cases outcome
      · cases outcome
      · exact ⟨given, by rw [not_not.mp failed]⟩

/-- A request that is done has been settled. -/
theorem Life.done
    {request : PortalRequest} {events : List RequestEvent}
    {paths : List ObjectPath} (life : Life request events paths)
    (done : request.done = true) :
    ∃ later event earlier, events = later ++ event :: earlier ∧
      Settled request later event earlier paths := by
  cases life with
  | queued queued => exact absurd done (by simp [queued.done])
  | live live => exact absurd done (by simp [live.done])
  | settled settled => exact ⟨_, _, _, rfl, settled⟩

end PortalCertificate.Module.RequestLife
