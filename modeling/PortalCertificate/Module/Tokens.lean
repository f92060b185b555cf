import Mathlib
import PortalCertificate.Library.Custody
import PortalCertificate.Module.Connection
import PortalCertificate.Module.RequestCleanup

/-!
# The tokens of a client

A token tells its kind and the value of the counter, so different ones have
different texts, and different paths.

A client keeps a token with the caller that has taken it until it goes into
a request, where it stays.  No step copies a token, and a step that takes
one puts it in one place.
-/

namespace PortalCertificate.Module.Tokens

open PortalCertificate.Library.Custody
open PortalCertificate.Module.Connection
open PortalCertificate.Module.PortalClient
open PortalCertificate.Module.PortalSteps
open PortalCertificate.Module.Requests

/-! ## Texts -/

theorem label_length (kind : TokenKind) : kind.label.toList.length = 7 := by
  cases kind <;> rfl

theorem label_injective {kind other : TokenKind}
    (same : kind.label = other.label) : kind = other := by
  cases kind <;> cases other <;>
    first | rfl | simp [TokenKind.label] at same

/-- The token tells its kind and its number. -/
theorem requestToken_injective
    {bus : Bus} {kind other : TokenKind} {counter count : Int32}
    (same : requestToken bus kind.label counter =
      requestToken bus other.label count) :
    kind = other ∧ counter = count := by
  have letters := congrArg String.toList same
  simp only [requestToken, String.toList_append, List.append_assoc]
    at letters
  rcases List.append_inj letters
    ((label_length kind).trans (label_length other).symm) with
    ⟨labels, rest⟩
  have numbers : toString counter = toString count := by
    apply String.toList_inj.mp
    exact List.append_cancel_left (List.append_cancel_left rest)
  exact ⟨label_injective (String.toList_inj.mp labels),
    Int32.toInt.inj (Int.repr_injective numbers)⟩

theorem handlePath_injective
    {kind : String} {sender : BusName} {token other : String}
    (same : handlePath kind sender token = handlePath kind sender other) :
    token = other := by
  unfold handlePath at same
  exact (String.append_right_inj _).mp same

/-- The path tells its token. -/
theorem frontendPath_injective
    {bus : Bus} {kind token other : String} {path : ObjectPath}
    (here : frontendPath bus kind token = some path)
    (there : frontendPath bus kind other = some path) : token = other := by
  rcases Option.map_eq_some_iff.mp here with ⟨sender, name, rfl⟩
  rcases Option.map_eq_some_iff.mp there with ⟨sender', name', same⟩
  rw [name, Option.some.injEq] at name'
  subst name'
  exact handlePath_injective same.symm

/-- The client predicts what the frontend makes of the token. -/
theorem requestPathFor_eq (bus : Bus) (token : String) :
    requestPathFor bus token = frontendPath bus "request" token := by
  have base : "/org/freedesktop/portal/desktop/" ++ "request" ++ "/" =
      "/org/freedesktop/portal/desktop/request/" := by decide
  unfold requestPathFor frontendPath handlePath
  rw [base]

/-! ## Where tokens are -/

/-- Where a client keeps a token. -/
inductive Slot where
  | thread (thread : Nat)
  | handle (request : Nat)
  | session (request : Nat)
  deriving DecidableEq

/-- The token that a caller has taken for a request to come. -/
def pending : Pc → Option String
  | .namingSession _ _ token | .requesting _ token _ => some token
  | _ => none

/-- The token that a thread or a request holds. -/
def held (world : World) : Holding Slot String
  | .thread thread => pending (world.threads thread)
  | .handle id =>
      (world.requests id).map fun request => request.parameters.handleToken
  | .session id =>
      (world.requests id).bind fun request =>
        request.parameters.sessionHandleToken

/-- The text of the token that a step takes. -/
def taken (bus : Bus) (world : World) (action : Action) : Option String :=
  (takes world action).map fun kind =>
    requestToken bus kind.label world.counter

section Held

variable {bus : Bus} {world next : World}

theorem held_goes (world : World) (thread : Nat) (pc : Pc) :
    held (world.goes thread pc) =
      Function.update (held world) (.thread thread) (pending pc) := by
  funext slot
  cases slot with
  | thread other =>
      simp only [held, World.goes_threads, Function.update_apply,
        Slot.thread.injEq]
      split_ifs <;> rfl
  | handle | session => rfl

theorem held_queue
    (world : World) (method : PortalMethod) (parameters : Parameters)
    (path : Option ObjectPath) (generation : Nat) (grant : Option Grant) :
    held (world.queue method parameters path generation grant) =
      Function.update
        (Function.update (held world) (.handle world.nextRequest)
          (some parameters.handleToken))
        (.session world.nextRequest) parameters.sessionHandleToken := by
  funext slot
  cases slot with
  | thread => rfl
  | handle id | session id =>
      by_cases same : id = world.nextRequest
      · subst same
        simp [held, World.queue, PortalRequest.new]
      · simp [held, World.queue, same]

/-- Callbacks leave the tokens of requests where they are. -/
theorem held_of_steady
    (threads : next.threads = world.threads)
    (requests : ∀ id,
      Option.Rel Steady (world.requests id) (next.requests id)) :
    held next = held world := by
  funext slot
  cases slot with
  | thread thread => simp only [held, threads]
  | handle id | session id =>
      have related := requests id
      simp only [held]
      generalize world.requests id = before at related
      generalize next.requests id = after at related
      cases related with
      | none => rfl
      | some steady => simp [steady.parameters]

/-- A caller that keeps no token moves on. -/
theorem shift_goes
    (shift : Shift (held world) (held next)) (thread : Nat) {pc : Pc}
    (empty : pending pc = none) :
    Shift (held world) (held (next.goes thread pc)) := by
  rw [held_goes, empty]
  exact .drop _ shift

/-- A token that a caller has kept goes into its request. -/
theorem shift_queue
    {thread : Nat} {token : String}
    (kept : pending (world.threads thread) = some token)
    (method : PortalMethod) (session path : Option ObjectPath)
    (generation : Nat) (grant : Option Grant) {pc : Pc}
    (empty : pending pc = none) :
    Shift (held world)
      (held ((world.queue method ⟨session, token, none⟩ path generation
        grant).goes thread pc)) := by
  have here : held world (.thread thread) = some token := kept
  have same : Shift (held world) (held world) := .refl
  have moved := Shift.drop (.session world.nextRequest)
    (same.move (.thread thread) (.handle world.nextRequest))
  rw [held_goes, held_queue, empty]
  convert moved.drop (.thread thread) using 1
  funext slot
  cases slot with
  | thread other =>
      by_cases same : other = thread <;> simp [same]
  | handle | session => simp [Function.update_apply, here]

/-- The token of a session is put into the request as well. -/
theorem carries_queue
    {thread : Nat} {token sessionToken : String}
    (kept : pending (world.threads thread) = some token)
    (method : PortalMethod) (session path : Option ObjectPath)
    (generation : Nat) (grant : Option Grant) {pc : Pc}
    (empty : pending pc = none) :
    Carries (some sessionToken) (held world)
      (held ((world.queue method ⟨session, token, some sessionToken⟩ path
        generation grant).goes thread pc)) := by
  have here : held world (.thread thread) = some token := kept
  have same : Shift (held world) (held world) := .refl
  have moved := same.move (.thread thread) (.handle world.nextRequest)
  rw [held_goes, held_queue, empty]
  convert Carries.put (.session world.nextRequest)
    (moved.drop (.thread thread)) rfl using 1
  funext slot
  cases slot with
  | thread other =>
      by_cases same : other = thread <;> simp [same]
  | handle | session => simp [Function.update_apply, here]

/-- A new token is put into its request at once. -/
theorem carries_queue_new
    (thread : Nat) (token : String) (method : PortalMethod)
    (session path : Option ObjectPath) (generation : Nat)
    (grant : Option Grant) {pc : Pc} (empty : pending pc = none) :
    Carries (some token) (held world)
      (held ((world.queue method ⟨session, token, none⟩ path generation
        grant).goes thread pc)) := by
  have same : Shift (held world) (held world) := .refl
  have dropped :=
    (same.drop (.thread thread)).drop (.session world.nextRequest)
  rw [held_goes, held_queue, empty]
  convert Carries.put (.handle world.nextRequest) dropped rfl using 1
  funext slot
  cases slot <;> simp [Function.update_apply]

/-- A new token is kept for a request to come. -/
theorem carries_goes
    {thread : Nat} {token : String} {pc : Pc}
    (kept : pending pc = some token) :
    Carries (some token) (held world) (held (world.goes thread pc)) := by
  rw [held_goes, kept]
  exact .put _ .refl rfl

/-- The step of a caller moves tokens, and puts the one that it takes. -/
theorem carries_advance
    {thread now : Nat} {reply : Option (Option (List String))}
    (moves : advance bus world thread now reply = some next) :
    Carries (taken bus world (.advance thread now reply)) (held world)
      (held next) := by
  -- Most steps leave the requests and the other callers alone.
  have idle (between : World) (same : held between = held world) {pc : Pc}
      (empty : pending pc = none) :
      Carries (taken bus world (.advance thread now reply)) (held world)
        (held (between.goes thread pc)) := by
    have here : Shift (held world) (held between) := by
      rw [same]
      exact .refl
    exact .shift (shift_goes here thread empty)
  cases pc : world.threads thread with
  | idle => simp [PortalClient.advance, pc] at moves
  | entering purpose =>
      simp only [PortalClient.advance, pc] at moves
      split_ifs at moves
      cases moves
      unfold World.beginProbe
      split
      · exact idle world rfl rfl
      · split_ifs
        · exact idle _ rfl rfl
        · exact idle world rfl rfl
  | probing purpose owner generation =>
      simp only [PortalClient.advance, pc] at moves
      cases moves
      refine idle _ ?_ rfl
      unfold finishProbe
      split_ifs <;> rfl
  | reading purpose =>
      simp only [PortalClient.advance, pc] at moves
      cases moves
      unfold World.told
      split <;> exact idle _ rfl rfl
  | copying | snapshotting =>
      simp only [PortalClient.advance, pc] at moves
      cases moves
      exact idle _ rfl rfl
  | creatingSession owner generation =>
      simp only [PortalClient.advance, pc] at moves
      cases moves
      simp only [taken, takes, pc, Option.map_some]
      exact carries_goes rfl
  | namingSession owner generation token =>
      simp only [PortalClient.advance, pc] at moves
      cases moves
      unfold World.createSession
      dsimp only
      split
      · exact idle _ rfl rfl
      · simp only [taken, takes, pc, Option.map_some]
        have kept : pending ({ world with
            counter := world.counter + 1 }.threads thread) = some token := by
          rw [pc]
          rfl
        exact carries_queue kept _ _ _ _ _ rfl
  | awaitingSession owner generation request =>
      simp only [PortalClient.advance, pc] at moves
      rcases Option.map_eq_some_iff.mp moves with ⟨answer, -, rfl⟩
      unfold World.takeSession
      split
      · exact idle _ rfl rfl
      · split <;> exact idle _ rfl rfl
  | acquiring owner generation session =>
      simp only [PortalClient.advance, pc] at moves
      cases moves
      simp only [taken, takes, pc, Option.map_some]
      unfold World.acquire
      exact carries_queue_new thread _ _ _ _ _ none rfl
  | awaitingGrant owner generation session request =>
      simp only [PortalClient.advance, pc] at moves
      rcases Option.map_eq_some_iff.mp moves with ⟨answer, -, rfl⟩
      unfold World.takeGrant
      split <;> exact idle _ rfl rfl
  | granting owner generation session request results =>
      simp only [PortalClient.advance, pc] at moves
      cases moves
      unfold World.finishGrant
      split_ifs
      · exact idle _ rfl rfl
      · split <;> exact idle _ rfl rfl
  | operating operation =>
      simp only [PortalClient.advance, pc] at moves
      cases moves
      unfold World.beginOperation
      dsimp only
      split_ifs
      · exact idle _ rfl rfl
      · simp only [taken, takes, pc, Option.map_some]
        exact carries_goes rfl
  | requesting operation token path =>
      simp only [PortalClient.advance, pc] at moves
      cases moves
      have kept : pending (world.threads thread) = some token := by
        rw [pc]
        rfl
      exact .shift (shift_queue kept _ _ _ _ _ rfl)
  | awaitingResult operation request =>
      simp only [PortalClient.advance, pc] at moves
      rcases Option.map_eq_some_iff.mp moves with ⟨answer, -, rfl⟩
      unfold World.takeResult
      split <;> exact idle _ rfl rfl
  | confirming operation request results =>
      simp only [PortalClient.advance, pc] at moves
      cases moves
      unfold World.finishOperation
      split_ifs
      · exact idle _ rfl rfl
      · split <;> exact idle _ rfl rfl

theorem steady_requestStart
    {id : Nat} {request : PortalRequest}
    (found : world.requests id = some request) (other : Nat) :
    Option.Rel Steady (world.requests other)
      ((requestStart world id request).requests other) := by
  have abandoned (code : Calls.PortalErrorCode) :=
    steady_callback found (.abandoned code) other
  unfold requestStart
  split
  · rename_i owner _
    split_ifs
    · exact abandoned _
    · exact steady_callback found (.sent owner) other
    · exact abandoned _
    · exact abandoned _
  · exact abandoned _

theorem held_requestStart
    {id : Nat} {request : PortalRequest}
    (found : world.requests id = some request) :
    held (requestStart world id request) = held world := by
  refine held_of_steady ?_ (steady_requestStart found)
  unfold requestStart
  split
  · split_ifs <;> rfl
  · rfl

theorem held_serves (serves : Serves world next) :
    held next = held world :=
  held_of_steady serves.threads serves.requests

theorem held_clientStep
    {action : Action} (moves : clientStep world action = some next) :
    held next = held world := by
  cases action with
  | ownerChanged owner =>
      simp only [clientStep] at moves
      split_ifs at moves
      cases moves
      unfold ownerChanged
      split_ifs <;> rfl
  | invalidated session =>
      simp only [clientStep] at moves
      split_ifs at moves
      cases moves
      rfl
  | start id =>
      simp only [clientStep] at moves
      split at moves
      · cases moves
      · rename_i request found
        split_ifs at moves
        cases moves
        exact held_requestStart found
  | methodReturned id reply =>
      exact held_serves
        (serves_dispatch (.methodReturned reply) trivial moves)
  | response id path response results =>
      exact held_serves
        (serves_dispatch (.response response results) trivial moves)
  | timedOut id =>
      exact held_serves (serves_dispatch .timedOut trivial moves)
  | cancelRequests =>
      cases moves
      have swept := held_serves (serves_sweep .cancelled (fun _ => trivial)
        { world with cancelled := true })
      exact swept
  | beginDrain =>
      cases moves
      rfl
  | ownerSweep | enter | advance => cases moves

/-- The step lemma for tokens. -/
theorem carries_step
    {action : Action}
    (moves : (machine bus).step world action = some next) :
    Carries (taken bus world action) (held world) (held next) := by
  have still (same : held next = held world) :
      Carries (taken bus world action) (held world) (held next) := by
    rw [same]
    exact .shift .refl
  cases action with
  | ownerSweep =>
      simp only [machine, PortalClient.step] at moves
      split_ifs at moves
      cases moves
      have swept := held_serves
        (serves_sweep .ownerChanged (fun _ => trivial) world)
      exact still swept
  | enter thread entry =>
      simp only [machine, PortalClient.step] at moves
      split_ifs at moves
      cases moves
      refine .shift (shift_goes .refl thread ?_)
      cases entry <;> rfl
  | advance thread now reply => exact carries_advance moves
  | ownerChanged | invalidated | start | methodReturned | response
  | timedOut | cancelRequests | beginDrain =>
      simp only [machine, PortalClient.step] at moves
      split_ifs at moves
      exact still (held_clientStep moves)

end Held

end PortalCertificate.Module.Tokens
