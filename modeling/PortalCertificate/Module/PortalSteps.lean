import PortalCertificate.Module.PortalClient

/-!
# What the callbacks of requests leave alone

A callback changes one request, and of that neither what was asked for nor
that it has been completed.  It adds events about the request only.  The
same holds of the loops that complete every live request.
-/

namespace PortalCertificate.Module.PortalSteps

open PortalCertificate.Module.Calls
open PortalCertificate.Module.PortalClient
open PortalCertificate.Module.Requests

/-! ## Requests -/

/-- What a callback keeps of its request. -/
structure Steady (before after : PortalRequest) : Prop where
  method : after.method = before.method
  parameters : after.parameters = before.parameters
  requestPath : after.requestPath = before.requestPath
  ownerGeneration : after.ownerGeneration = before.ownerGeneration
  completed : before.completed = true → after.completed = true
  begun : before.queued = false → after.queued = false

theorem Steady.refl (request : PortalRequest) : Steady request request :=
  ⟨rfl, rfl, rfl, rfl, id, id⟩

theorem Steady.trans
    {first second third : PortalRequest}
    (here : Steady first second) (there : Steady second third) :
    Steady first third where
  method := there.method.trans here.method
  parameters := there.parameters.trans here.parameters
  requestPath := there.requestPath.trans here.requestPath
  ownerGeneration := there.ownerGeneration.trans here.ownerGeneration
  completed := there.completed ∘ here.completed
  begun := there.begun ∘ here.begun

theorem steady_requestCloseAtPortal
    (request : PortalRequest) (path : Option ObjectPath) :
    Steady request (requestCloseAtPortal request path).1 := by
  unfold requestCloseAtPortal
  split
  · exact .refl request
  · split_ifs
    · exact .refl request
    · exact ⟨rfl, rfl, rfl, rfl, id, id⟩

@[simp]
theorem requestComplete_completed (request : PortalRequest) :
    (requestComplete request).1.completed = true := by
  unfold requestComplete
  split_ifs with completed
  · exact completed
  · dsimp only
    split
    · exact (steady_requestCloseAtPortal _ _).completed rfl
    · rfl

theorem steady_requestComplete (request : PortalRequest) :
    Steady request (requestComplete request).1 := by
  have completed := requestComplete_completed request
  unfold requestComplete at completed ⊢
  split_ifs
  · exact .refl request
  · dsimp only
    split
    · have closed := steady_requestCloseAtPortal
        { request with completed := true }
        (request.returnedPath.or request.requestPath)
      exact ⟨closed.method, closed.parameters, closed.requestPath,
        closed.ownerGeneration, fun _ => closed.completed rfl,
        closed.begun⟩
    · exact ⟨rfl, rfl, rfl, rfl, fun _ => rfl, id⟩

theorem Steady.complete
    {request changed : PortalRequest} (same : Steady request changed) :
    Steady request (requestComplete changed).1 :=
  same.trans (steady_requestComplete changed)

theorem Steady.close
    {request changed : PortalRequest} (same : Steady request changed)
    (path : Option ObjectPath) :
    Steady request (requestCloseAtPortal changed path).1 :=
  same.trans (steady_requestCloseAtPortal changed path)

/-- The callbacks of the client's thread, with what they mean. -/
inductive Handles :
    RequestEvent →
      (PortalRequest → PortalRequest × List ObjectPath) → Prop
  where
  | sent (owner : BusName) : Handles (.sent owner) (send owner)
  | abandoned (code : PortalErrorCode) :
      Handles (.abandoned code) (abandon code)
  | methodReturned (reply : Except CallError ObjectPath) :
      Handles (.methodReturned reply) (onMethodReturned reply)
  | response (response : UInt32) (results : Results) :
      Handles (.response response results) (onResponse response results)
  | timedOut : Handles .timedOut onRequestTimeout
  | cancelled : Handles .cancelled onCancelRequests
  | ownerChanged : Handles .ownerChanged onOwnerChanged

theorem Handles.steady
    {event : RequestEvent}
    {handler : PortalRequest → PortalRequest × List ObjectPath}
    (handles : Handles event handler) (request : PortalRequest) :
    Steady request (handler request).1 := by
  cases handles with
  | sent owner => exact ⟨rfl, rfl, rfl, rfl, id, fun _ => rfl⟩
  | abandoned code =>
      exact Steady.complete ⟨rfl, rfl, rfl, rfl, id, fun _ => rfl⟩
  | methodReturned reply =>
      cases reply with
      | ok path =>
          simp only [onMethodReturned]
          split_ifs
          · exact ⟨rfl, rfl, rfl, rfl, id, id⟩
          · refine Steady.close ?_ (some path)
            exact ⟨rfl, rfl, rfl, rfl, id, id⟩
          · exact ⟨rfl, rfl, rfl, rfl, id, id⟩
          · exact ⟨rfl, rfl, rfl, rfl, id, id⟩
      | error error =>
          simp only [onMethodReturned]
          split_ifs
          · exact ⟨rfl, rfl, rfl, rfl, id, id⟩
          · exact Steady.complete ⟨rfl, rfl, rfl, rfl, id, id⟩
  | response response results =>
      unfold onResponse
      split_ifs
      · exact .refl request
      · exact Steady.complete ⟨rfl, rfl, rfl, rfl, id, id⟩
  | timedOut | cancelled | ownerChanged =>
      exact Steady.complete ⟨rfl, rfl, rfl, rfl, id, id⟩

/-! ## Worlds -/

/-- An event of a request, other than that it has been sent. -/
def OfRequest : Event → Prop
  | .arrived _ (.sent _) => False
  | .arrived _ _ | .closed _ _ _ | .completed _ => True
  | _ => False

/-- Only requests have changed, and their events have been added. -/
structure Serves (first second : World) : Prop where
  owner : second.owner = first.owner
  ownerGeneration : second.ownerGeneration = first.ownerGeneration
  available : second.available = first.available
  nextRequest : second.nextRequest = first.nextRequest
  threads : second.threads = first.threads
  requests : ∀ id,
    Option.Rel Steady (first.requests id) (second.requests id)
  trace : ∃ news, second.trace = news ++ first.trace ∧
    ∀ event ∈ news, OfRequest event

theorem rel_refl (request : Option PortalRequest) :
    Option.Rel Steady request request := by
  cases request with
  | none => exact .none
  | some request => exact .some (.refl request)

theorem Serves.refl (world : World) : Serves world world :=
  ⟨rfl, rfl, rfl, rfl, rfl, fun _ => rel_refl _, [], rfl, by simp⟩

theorem Serves.trans
    {first second third : World}
    (here : Serves first second) (there : Serves second third) :
    Serves first third where
  owner := there.owner.trans here.owner
  ownerGeneration := there.ownerGeneration.trans here.ownerGeneration
  available := there.available.trans here.available
  nextRequest := there.nextRequest.trans here.nextRequest
  threads := there.threads.trans here.threads
  requests id := by
    have before := here.requests id
    have after := there.requests id
    generalize first.requests id = one at before
    generalize second.requests id = two at before after
    generalize third.requests id = three at after
    cases before with
    | none => exact after
    | some before =>
        cases after with
        | some after => exact .some (before.trans after)
  trace := by
    rcases here.trace with ⟨news, first, quiet⟩
    rcases there.trace with ⟨later, second, still⟩
    refine ⟨later ++ news, by rw [second, first, List.append_assoc], ?_⟩
    intro event member
    exact (List.mem_append.mp member).elim (still event) (quiet event)

theorem steady_callback
    {world : World} {id : Nat} {request : PortalRequest}
    (found : world.requests id = some request) {event : RequestEvent}
    {handler : PortalRequest → PortalRequest × List ObjectPath}
    (handles : Handles event handler) (other : Nat) :
    Option.Rel Steady (world.requests other)
      ((world.callback id request event handler).requests other) := by
  by_cases same : other = id
  · subst same
    have after :
        (world.callback other request event handler).requests other =
          some (handler request).1 := by
      simp [World.callback]
    rw [found, after]
    exact .some (handles.steady request)
  · have after :
        (world.callback id request event handler).requests other =
          world.requests other := by
      simp [World.callback, same]
    rw [after]
    exact rel_refl _

theorem mem_callbackEvents
    {id : Nat} {event : RequestEvent} {before after : PortalRequest}
    {paths : List ObjectPath} {other : Event}
    (member : other ∈ callbackEvents id event before after paths) :
    other = .completed id ∨
    (∃ path, other = .closed id after.owner path) ∨
      other = .arrived id event := by
  simp only [callbackEvents, List.mem_append, List.mem_singleton,
    List.mem_map] at member
  rcases member with (completed | ⟨path, -, rfl⟩) | arrived
  · split_ifs at completed
    · exact .inl (List.mem_singleton.mp completed)
    · cases completed
  · exact .inr (.inl ⟨path, rfl⟩)
  · exact .inr (.inr arrived)

/-- A callback is about its request only. -/
theorem serves_callback
    {world : World} {id : Nat} {request : PortalRequest}
    (found : world.requests id = some request) {event : RequestEvent}
    {handler : PortalRequest → PortalRequest × List ObjectPath}
    (handles : Handles event handler)
    (quiet : OfRequest (.arrived id event)) :
    Serves world (world.callback id request event handler) where
  owner := rfl
  ownerGeneration := rfl
  available := rfl
  nextRequest := rfl
  threads := rfl
  requests := steady_callback found handles
  trace := by
    refine ⟨_, rfl, ?_⟩
    intro other member
    rcases mem_callbackEvents member with rfl | ⟨path, rfl⟩ | rfl
    · trivial
    · trivial
    · exact quiet

theorem serves_foldl
    {event : RequestEvent}
    {handler : PortalRequest → PortalRequest × List ObjectPath}
    (handles : Handles event handler)
    (quiet : ∀ id, OfRequest (.arrived id event)) (ids : List Nat)
    (world : World) :
    Serves world (ids.foldl
      (fun world id =>
        match world.requests id with
        | none => world
        | some request => world.callback id request event handler)
      world) := by
  induction ids generalizing world with
  | nil => exact .refl world
  | cons id rest ih =>
      rw [List.foldl_cons]
      refine Serves.trans ?_ (ih _)
      split
      · exact .refl world
      · rename_i request found
        exact serves_callback found handles (quiet id)

theorem serves_sweep
    {event : RequestEvent}
    {handler : PortalRequest → PortalRequest × List ObjectPath}
    (handles : Handles event handler)
    (quiet : ∀ id, OfRequest (.arrived id event)) (world : World) :
    Serves world (world.sweep event handler) :=
  serves_foldl handles quiet world.live world

theorem serves_dispatch
    {world next : World} {id : Nat} {held : PortalRequest → Bool}
    {event : RequestEvent}
    {handler : PortalRequest → PortalRequest × List ObjectPath}
    (handles : Handles event handler)
    (quiet : OfRequest (.arrived id event))
    (moves : world.dispatch id held event handler = some next) :
    Serves world next := by
  unfold World.dispatch at moves
  split at moves
  · cases moves
  · rename_i request found
    split_ifs at moves
    cases moves
    exact serves_callback found handles quiet

end PortalCertificate.Module.PortalSteps
