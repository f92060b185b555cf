import PortalCertificate.Context.Fencing

/-!
# What a client is told

A client is called back once, with the error that the delivery of its answer
has fixed.  A result that reports an error carries nothing else, and the
presence flags of a result say what is in it.
-/

namespace PortalCertificate.Context.Answers

open PortalCertificate.Context.Accounts
open PortalCertificate.Context.Acquire
open PortalCertificate.Context.Atomicity (exampleVeto)
open PortalCertificate.Context.Callbacks
open PortalCertificate.Context.Completion
open PortalCertificate.Context.Deliveries
open PortalCertificate.Context.Fencing
open PortalCertificate.Context.Floors
open PortalCertificate.Context.Grants
open PortalCertificate.Context.Lasting
open PortalCertificate.Context.Machine
open PortalCertificate.Context.Moves
open PortalCertificate.Context.Nudges
open PortalCertificate.Context.Requests
open PortalCertificate.Context.Sessions
open PortalCertificate.Context.Starts
open PortalCertificate.Context.Steps
open PortalCertificate.Context.Turns
open PortalCertificate.Core.Coordinator (XccErrorCode)
open PortalCertificate.Library.Trace
open PortalCertificate.Library.Transition
open PortalCertificate.Tokens.Discovery

variable {world next : World} {id : Nat}

/-! ## Results -/

/-- The flags of a result are right, and an error comes alone. -/
structure Formed (kind : XccResultKind) (result : XccResult) : Prop where
  candidate : result.candidatePresent = result.candidate.isSome
  signature : result.signaturePresent = result.signature.isSome
  mechanisms : result.mechanismsPresent =
    (result.error = .ok && kind = .capabilities)
  bare : result.error ≠ .ok →
    result.candidate = none ∧ result.signature = none

/-- The result of a request, when there is one. -/
structure Sober (request : XccRequest) : Prop where
  fresh : request.answered = false → request.result.signature = none
  formed : request.answered = true → Formed request.kind request.result

theorem formed_cancelled {kind : XccResultKind} (result : XccResult)
    (reason : XccCancelReason) :
    Formed kind (cancelledResult result reason) where
  candidate := rfl
  signature := rfl
  mechanisms := by
    show false = (decide (reason.code = .ok) && _)
    rw [decide_eq_false reason.code_ne_ok]
    rfl
  bare _ := ⟨rfl, rfl⟩

theorem Formed.read {request : XccRequest}
    (formed : Formed request.kind request.result) :
    Formed request.kind (readResult request) := by
  rw [readResult]
  cases request.cancelIntent with
  | none => exact formed
  | some reason => exact formed_cancelled _ reason

theorem formed_answer {request : XccRequest} (error : XccErrorCode)
    (fresh : request.result.signature = none) :
    Formed request.kind (answerResult request error) := by
  by_cases ok : error = .ok
  · subst ok
    refine ⟨?_, ?_, ?_, fun bad => absurd rfl bad⟩
    · simp [answerResult]
    · cases signed : request.signature with
      | none => simp [answerResult, signed, fresh]
      | some value => simp [answerResult, signed]
    · simp [answerResult]
  · refine ⟨?_, ?_, ?_, fun _ => ⟨?_, ?_⟩⟩ <;>
      simp [answerResult, ok, fresh]

theorem Sober.continues {before after : XccRequest} (sober : Sober before)
    (continues : Continues before after) : Sober after where
  fresh unanswered := by
    rw [continues.result]
    exact sober.fresh (continues.answered.symm.trans unanswered)
  formed answered := by
    rw [continues.result,
      show after.kind = before.kind from congrArg Asked.kind continues.asked]
    exact sober.formed (continues.answered.symm.trans answered)

theorem Sober.plain {before after : XccRequest} (sober : Sober before)
    (answered : after.answered = before.answered)
    (kind : after.kind = before.kind)
    (result : after.result = before.result) : Sober after := by
  refine ⟨fun unanswered => ?_, fun told => ?_⟩
  · rw [result]
    exact sober.fresh (answered.symm.trans unanswered)
  · rw [result, kind]
    exact sober.formed (answered.symm.trans told)

theorem sober_complete (other : Nat) (error : XccErrorCode)
    (sober : ∀ id, Sober (world.requests id)) :
    Sober ((xccRequestComplete world other error).requests id) := by
  by_cases same : id = other
  · subst same
    cases answered : (world.requests id).answered with
    | true =>
        rw [xccRequestComplete, answered]
        exact sober id
    | false =>
        rw [xccRequestComplete_open answered]
        show Sober ((world.setRequest id _).requests id)
        rw [World.setRequest_self]
        exact ⟨Bool.noConfusion,
          fun _ => formed_answer _ ((sober id).fresh answered)⟩
  · rw [complete_other error same]
    exact sober id

theorem sober_write {other : Nat} {request : XccRequest}
    (sober : ∀ id, Sober (world.requests id))
    (requests : next.requests = Function.update world.requests other request)
    (written : Sober request) : Sober (next.requests id) := by
  rw [requests]
  by_cases same : id = other
  · rw [same, Function.update_self]
    exact written
  · rw [Function.update_of_ne same]
    exact sober id

theorem sober_landed (other enumeration : Nat)
    (sober : ∀ id, Sober (world.requests id)) :
    Sober ((landed world other enumeration).requests id) :=
  sober_write sober (by rfl) (by exact (sober other).plain rfl rfl rfl)

theorem sober_move (move : Move world next) (located : Located world)
    (sober : ∀ id, Sober (world.requests id)) :
    Sober (next.requests id) := by
  have same (requests : next.requests = world.requests) :
      Sober (next.requests id) := by
    rw [requests]
    exact sober id
  cases move with
  | nudge nudge => exact (sober id).continues ((Nudge.steady nudge).requests id)
  | dispatched running =>
      exact (sober id).continues
        ((steady_dispatchPending running).requests id)
  | @regenerated value rest running posts =>
      exact (sober id).continues ((Nudged.steady (@nudged_generation
        { world with posts := rest } running value)).requests id)
  | scheduled =>
      exact sober_write sober (by rfl) ⟨fun _ => rfl, Bool.noConfusion⟩
  | @refused asked principal error bad =>
      refine sober_write sober (by rfl) ⟨Bool.noConfusion, fun _ => ?_⟩
      refine ⟨rfl, rfl, ?_, fun _ => ⟨rfl, rfl⟩⟩
      show false = (decide (error = .ok) && _)
      rw [decide_eq_false bad]
      rfl
  | @begun other =>
      exact sober_write sober (by rfl)
        (by exact (sober other).plain rfl rfl rfl)
  | @handed other =>
      exact sober_write sober (by rfl)
        (by exact (sober other).plain rfl rfl rfl)
  | answered => exact sober_complete _ _ sober
  | landed => exact sober_landed _ _ sober
  | @restarted other enumeration =>
      have landed (id : Nat) := @sober_landed world id other enumeration sober
      exact sober_write landed (by rfl)
        (by exact (landed other).plain rfl rfl rfl)
  | @published other enumeration =>
      have landed (id : Nat) := @sober_landed world id other enumeration sober
      rw [publish]
      split
      · exact landed id
      · exact sober_write landed (by rfl)
          (by exact (landed other).plain rfl rfl rfl)
  | @concluded ui other chooser reply chosen error ends fair =>
      refine sober_write sober (by rfl) ?_
      rw [conclude]
      split_ifs <;> exact (sober other).plain rfl rfl rfl
  | @granted other session candidate answerable =>
      apply sober_complete
      intro id
      refine sober_write sober (by rfl) ⟨?_, fun told => ?_⟩
      · exact fun unanswered => (sober other).fresh unanswered
      · have unanswered := answerable.unanswered
        rw [show (world.requests other).answered = true from told]
          at unanswered
        cases unanswered
  | registered spec => exact same (requests_sessionNewRegister world spec)
  | rolledBack posts =>
      exact sober_write sober (requests_rollbackAcquisition _ _)
        (by exact (sober _).plain rfl rfl rfl)
  | @reads other rest idle queue =>
      refine sober_write sober (by rfl) ⟨?_, fun told => ?_⟩
      · intro unanswered
        have place := located.answered_of_queue (by
          rw [queue]
          exact List.mem_cons_self ..)
        rw [show (world.requests other).answered = false from unanswered]
          at place
        cases place.1
      · exact ((sober other).formed told).read
  | shut => exact same (requests_checkShutdown world)
  | settles => exact same (requests_completionSettles world _)
  | calls => exact same (requests_completionCalls world _)
  | _ => exact same rfl

/-! ## Deliveries -/

/-- An event that is no delivery of the request. -/
def Apart (id : Nat) (event : Event) : Prop :=
  ∀ intent error, event ≠ .delivering id intent error

/-- The last delivery of the request has fixed this error, which is that of
the intent that it has found. -/
def Fixed (id : Nat) (error : XccErrorCode) (trace : List Event) : Prop :=
  ∃ intent, Since (.delivering id intent error) (Apart id) (fun _ => True)
    trace ∧ ∀ reason, intent = some reason → error = reason.code

theorem Fixed.adds {error : XccErrorCode} {trace later : List Event}
    (fixed : Fixed id error trace)
    (adds : Adds (fun event => isSettling event = false) trace later) :
    Fixed id error later := by
  rcases adds with ⟨news, rfl, quiet⟩
  rcases fixed with ⟨intent, since, right⟩
  refine ⟨intent, since.append ?_, right⟩
  rintro event member intent error rfl
  cases quiet _ member

theorem Fixed.cons {error : XccErrorCode} {trace : List Event} {event : Event}
    (fixed : Fixed id error trace) (apart : Apart id event) :
    Fixed id error (event :: trace) := by
  rcases fixed with ⟨intent, since, right⟩
  exact ⟨intent, since.cons apart, right⟩

/-- The desktop goes on with the error that it has read. -/
def Desked (world : World) : Prop :=
  ∀ id, desk world.desktop id = 1 →
    Fixed id (world.requests id).result.error world.trace

theorem fixed_reads (world : World) (id : Nat) :
    Fixed id (readResult (world.requests id)).error
      (.delivering id (world.requests id).cancelIntent
        (readResult (world.requests id)).error :: world.trace) := by
  refine ⟨_, since_now trivial, fun reason intent => ?_⟩
  rw [readResult, intent]
  rfl

theorem desked_settles (desked : Desked world)
    (delivering : world.desktop = .delivering id) :
    Desked (completionSettles world id) := by
  intro other here
  have there : desk world.desktop other = 1 := by
    rw [delivering]
    by_contra apart
    have others : ¬id = other := fun same => apart (if_pos same)
    rcases completionSettles_desktop world id with idle | calling
    · rw [idle] at here
      cases here
    · rw [calling, desk, if_neg others] at here
      cases here
  rw [requests_completionSettles, trace_completionSettles]
  exact desked other there

theorem desked_move (move : Move world next) (located : Located world)
    (desked : Desked world) : Desked next := by
  intro id here
  rcases quiet_move move with quiet | ⟨request, made⟩ | settled
  · rw [quiet.desktop] at here
    have answered := (located.answered_of_desk here).1
    rw [((quiet.requests id).kept answered).2]
    exact (desked id here).adds quiet.trace
  · rw [made.desktop] at here
    have answered := (located.answered_of_desk here).1
    have born : id ≠ world.nextRequest := by
      rintro rfl
      rw [(located.unborn _ (Nat.le_refl _)).1] at answered
      cases answered
    rw [made.requests, Function.update_of_ne born, made.trace]
    exact desked id here
  · cases settled with
    | registered spec =>
        rw [desktop_sessionNewRegister] at here
        rw [requests_sessionNewRegister, sessionNewRegister]
        split_ifs <;> exact desked id here
    | @granted other session candidate answerable =>
        rw [desktop_xccRequestComplete] at here
        have apart : id ≠ other := by
          rintro rfl
          have answered := (located.answered_of_desk here).1
          rw [answerable.unanswered] at answered
          cases answered
        rw [complete_other .ok apart, trace_xccRequestComplete]
        have same : (grantRequest world other session candidate).requests id =
            world.requests id := Function.update_of_ne apart ..
        rw [same]
        exact (desked id here).cons fun _ _ => Event.noConfusion
    | @rolledBack other rest posts =>
        rw [desktop_rollbackAcquisition] at here
        have fixed := desked id here
        have error : ((rollbackAcquisition { world with posts := rest }
            other).requests id).result.error =
              (world.requests id).result.error := by
          rw [requests_rollbackAcquisition]
          by_cases same : id = other
          · rw [same, Function.update_self]
          · rw [Function.update_of_ne same]
        rw [error, rollbackAcquisition]
        dsimp only
        split <;> exact fixed.cons fun _ _ => Event.noConfusion
    | @reads other rest idle queue =>
        have same : other = id := by
          by_contra apart
          rw [show (completionReads { world with queue := rest } other).desktop
            = .delivering other from rfl, desk, if_neg apart] at here
          cases here
        subst same
        have read : (completionReads { world with queue := rest }
            other).requests other =
              { world.requests other with
                result := readResult (world.requests other) } :=
          World.setRequest_self ..
        rw [read]
        exact fixed_reads world other
    | settles delivering => exact desked_settles desked delivering id here
    | @calls other calling =>
        rw [desktop_completionCalls] at here
        cases here

/-! ## Callbacks -/

/-- A client is called back once, after its delivery, with what that has
fixed. -/
def Answered (world : World) : Event → List Event → Prop
  | .done id result, before =>
      id < world.nextRequest ∧ told before id = 0 ∧
        Fixed id result.error before ∧
          Formed (world.requests id).kind result
  | _, _ => True

theorem answered_later (move : Move world next) (basic : Basic world)
    {event : Event} {before : List Event}
    (here : Answered world event before) : Answered next event before := by
  cases event with
  | done id result =>
      rcases here with ⟨born, fresh, fixed, formed⟩
      refine ⟨Nat.lt_of_lt_of_le born (nextRequest_move move), fresh, fixed,
        ?_⟩
      rw [show (next.requests id).kind = (world.requests id).kind from
        congrArg Asked.kind (lasting_move move basic.orderly born).asked]
      exact formed
  | _ => trivial

theorem answered_notes {event : Event} (notes : Notes world next event)
    (located : Located world) (desked : Desked world)
    (sober : ∀ id, Sober (world.requests id)) :
    Answered world event world.trace := by
  cases notes with
  | @done id calling =>
      have here : desk world.desktop id = 1 := by
        rw [calling, desk, if_pos rfl]
      have place := located.answered_of_desk here
      refine ⟨?_, place.2.2.2, desked id here, (sober id).formed place.1⟩
      by_contra unborn
      have fresh := (located.unborn id (Nat.le_of_not_lt unborn)).1
      rw [place.1] at fresh
      cases fresh
  | _ => trivial

/-- The completions that are on their way, and those that have been told, fit
their requests. -/
structure Answering (world : World) : Prop where
  sober : ∀ id, Sober (world.requests id)
  desked : Desked world
  each : Each (Answered world) world.trace

theorem answering_move (move : Move world next) (basic : Basic world)
    (answering : Answering world) : Answering next where
  sober _ := sober_move move basic.located answering.sober
  desked := desked_move move basic.located answering.desked
  each := by
    have kept : Each (Answered next) world.trace :=
      fun since event before split => answered_later move basic
        (answering.each since event before split)
    cases news_move move with
    | aside adds =>
        refine adds.each kept fun event before aside => ?_
        cases event <;> trivial
    | notes notes trace =>
        rw [trace]
        exact each_cons.mpr
          ⟨answered_later move basic (answered_notes notes basic.located
            answering.desked answering.sober), kept⟩

/-- In every run each client is called back at most once, with the error that
the last delivery of its answer has fixed: that of the intent it has found,
if there was one.  The flags of the result are right, and an error comes
without a candidate, a signature or mechanisms. -/
theorem callbacks_answered (reachable : machine.Reachable world) :
    Each (Answered world) world.trace := by
  have answering : Answering world := by
    refine invariant_of_moves ?_ (fun _ _ basic answering move =>
      answering_move move basic answering) reachable
    intro ui generation now _
    refine ⟨fun id => ⟨fun _ => rfl, Bool.noConfusion⟩, fun id here => ?_,
      each_nil⟩
    cases here
  exact answering.each

/-- The delivery of a grant finds an intent. -/
theorem callbacks_answered_vetoed :
    ∃ world result before,
      machine.run exampleStart (exampleVeto ++ [.proceed]) = some world ∧
        world.trace = .done 0 result :: before ∧
        result.error = .cancelled ∧
        Answered world (.done 0 result) before := by
  have run : ∃ world result before,
      machine.run exampleStart (exampleVeto ++ [.proceed]) = some world ∧
        world.trace = .done 0 result :: before ∧
        result.error = .cancelled :=
    ⟨_, _, _, rfl, rfl, rfl⟩
  rcases run with ⟨world, result, before, moved, trace, error⟩
  exact ⟨world, result, before, moved, trace, error,
    callbacks_answered (exampleStart_reachable.run moved) [] _ before trace⟩

end PortalCertificate.Context.Answers
