import PortalCertificate.Context.Steps
import PortalCertificate.Library.Trace

/-!
# What lasts

A request that has been made keeps what it asks for.  That it has been
answered, cancelled or decided upon is never taken back.
-/

namespace PortalCertificate.Context.Lasting

open PortalCertificate.Context.Acquire
open PortalCertificate.Context.Callbacks
open PortalCertificate.Context.Completion
open PortalCertificate.Context.Floors
open PortalCertificate.Context.Machine
open PortalCertificate.Context.Moves
open PortalCertificate.Context.Nudges
open PortalCertificate.Context.Requests
open PortalCertificate.Context.Sessions
open PortalCertificate.Context.Starts
open PortalCertificate.Core.Coordinator (XccErrorCode Reply)
open PortalCertificate.Core.UiFrames
open PortalCertificate.Library.Trace
open PortalCertificate.Library.Transition
open PortalCertificate.Tokens.Discovery

variable {world next : World} {id : Nat}

/-! ## Answers -/

theorem answered_write {other : Nat} {request : XccRequest}
    (requests : next.requests =
      Function.update world.requests other request)
    (kept : (world.requests other).answered = true →
      request.answered = true)
    (told : (world.requests id).answered = true) :
    (next.requests id).answered = true := by
  rw [requests]
  by_cases same : id = other
  · rw [same, Function.update_self]
    exact kept (same ▸ told)
  · rw [Function.update_of_ne same]
    exact told

theorem answered_complete (done : Nat) (error : XccErrorCode)
    (told : (world.requests id).answered = true) :
    ((xccRequestComplete world done error).requests id).answered =
      true := by
  rw [xccRequestComplete]
  dsimp only
  split_ifs
  · exact told
  · exact @answered_write world _ id done _ (by rfl) (fun _ => rfl) told

/-- An answer is not taken back. -/
theorem answered_move (move : Move world next)
    (born : id < world.nextRequest)
    (told : (world.requests id).answered = true) :
    (next.requests id).answered = true := by
  have keeps {request : XccRequest} {other : Nat}
      (requests : next.requests =
        Function.update world.requests other request)
      (same : request.answered = (world.requests other).answered) :
      (next.requests id).answered = true :=
    answered_write requests same.trans told
  cases move with
  | nudge nudge =>
      exact ((Nudge.steady nudge).requests id).answered.trans told
  | dispatched running =>
      exact ((steady_dispatchPending running).requests id).answered.trans told
  | @regenerated value rest running posts =>
      exact ((Nudged.steady (@nudged_generation
        { world with posts := rest } running value)).requests
          id).answered.trans told
  | scheduled =>
      show (Function.update world.requests world.nextRequest _ id).answered =
        true
      rw [Function.update_of_ne born.ne]
      exact told
  | refused =>
      show (Function.update world.requests world.nextRequest _ id).answered =
        true
      rw [Function.update_of_ne born.ne]
      exact told
  | begun => exact keeps (by rfl) (by rfl)
  | handed => exact keeps (by rfl) (by rfl)
  | answered => exact answered_complete _ _ told
  | landed => exact keeps (by rfl) (by rfl)
  | @restarted other enumeration flying enumerating =>
      have lands : ((landed world other enumeration).requests id).answered =
          true := answered_write (by rfl) (by exact fun same => same) told
      exact answered_write (by rfl) (by exact fun same => same) lands
  | @published other enumeration snapshot realTime tokensPresent =>
      have lands : ((landed world other enumeration).requests id).answered =
          true := answered_write (by rfl) (by exact fun same => same) told
      rw [publish]
      split
      · exact lands
      · exact answered_write (by rfl) (by exact fun same => same) lands
  | @concluded ui other chooser reply chosen error ends fair =>
      refine keeps (by rfl) ?_
      rw [conclude]
      split_ifs <;> rfl
  | @granted other session candidate =>
      have grants : ((grantRequest world other session candidate).requests
          id).answered = true :=
        answered_write (by rfl) (by exact fun same => same) told
      exact answered_complete other .ok grants
  | registered spec =>
      rw [sessionNewRegister]
      split_ifs <;> exact told
  | rolledBack =>
      rw [rollbackAcquisition]
      dsimp only
      split <;> exact @answered_write world _ _ _ _ (by rfl)
        (by exact fun same => same) told
  | shut ready =>
      rw [xccContextCheckShutdown, if_pos ready]
      exact told
  | reads => exact keeps (by rfl) (by rfl)
  | settles delivering =>
      rw [completionSettles]
      dsimp only
      split_ifs
      · rw [World.post]
        split_ifs <;> exact told
      · split <;> exact told
      · exact told
  | calls calling =>
      rw [completionCalls]
      dsimp only
      split_ifs
      · exact told
      · rw [World.post]
        split_ifs <;> exact told
  | _ => exact told

/-! ## Cancellations -/

theorem cancelled_publish (done enumeration : Nat)
    (candidates : List CertificateCandidate) (tokensPresent : Bool) :
    (publish world done enumeration candidates tokensPresent).ui.cancelled =
      world.ui.cancelled := by
  rw [publish]
  split
  · rename_i chooser _
    show (Core.Chooser.chooserUpdate world.ui chooser candidates
      tokensPresent).cancelled = _
    by_cases showing : (world.ui.choosers chooser).finished = true
    · rw [Core.Chooser.chooserUpdate, if_pos showing]
    · exact congrArg Surroundings.cancelled
        (surroundings_update world.ui chooser candidates tokensPresent
          (Bool.eq_false_iff.mpr showing))
  · rcases surroundings_show world.ui (some (cancellable done)) candidates
      tokensPresent with ⟨chooser, -, -, -, same⟩
    exact congrArg Surroundings.cancelled same

/-- A cancellation is not taken back. -/
theorem cancelled_move (move : Move world next) {cancellable : Nat}
    (held : world.ui.cancelled cancellable = true) :
    next.ui.cancelled cancellable = true := by
  cases move with
  | nudge nudge => exact (Nudge.steady nudge).cancelled _ held
  | dispatched running =>
      exact (steady_dispatchPending running).cancelled _ held
  | @regenerated value rest running posts =>
      exact (Nudged.steady (@nudged_generation
        { world with posts := rest } running value)).cancelled _ held
  | uiTold aside waiting => exact aside.cancelled _ held
  | published =>
      rw [cancelled_publish]
      exact held
  | concluded reply chosen error ends fair =>
      show _ = true
      rw [← ends.cancelled] at held
      exact held
  | answered => rwa [ui_xccRequestComplete]
  | granted =>
      rw [ui_xccRequestComplete]
      exact held
  | registered spec => rwa [ui_sessionNewRegister]
  | rolledBack =>
      rw [ui_rollbackAcquisition]
      exact held
  | shut ready =>
      rw [xccContextCheckShutdown, if_pos ready]
      exact held
  | settles => rwa [ui_completionSettles]
  | calls => rwa [ui_completionCalls]
  | _ => exact held

/-! ## Requests -/

/-- What a request keeps. -/
structure Lasts (before after : XccRequest) : Prop where
  asked : after.toAsked = before.toAsked
  detached : after.detached = before.detached
  answered : before.answered = true → after.answered = true
  intent : before.cancelIntent.isSome = true →
    after.cancelIntent.isSome = true
  code : before.cancelledCode ≠ .ok → after.cancelledCode ≠ .ok
  completed : before.chooserCompleted = true →
    after.chooserCompleted = true
  chosen : before.chooserCompleted = true →
    after.pendingChosen = before.pendingChosen

/-- What a request keeps, it keeps in every move. -/
theorem lasting_move (move : Move world next)
    (orderly : Orderly (floor world)) (born : id < world.nextRequest) :
    Lasts (world.requests id) (next.requests id) := by
  have answered := answered_move move born
  cases course_of_move move orderly id with
  | same same =>
      exact
        { asked := congrArg Word.asked same
          detached := congrArg Word.detached same
          answered
          intent := fun wanted =>
            (congrArg (·.intent.isSome) same).trans wanted
          code := fun bad ok => bad ((congrArg Word.code same).symm.trans ok)
          completed := (congrArg Word.completed same).trans
          chosen := fun _ => congrArg Word.chosen same }
  | continues continues =>
      exact
        { asked := continues.asked
          detached := continues.detached
          answered
          intent := continues.intent
          code := continues.code
          completed := continues.completed.trans
          chosen := fun _ => continues.chosen }
  | made fresh => exact absurd fresh born.ne
  | concluded first event last =>
      have before (past : (world.requests id).chooserCompleted = true) :
          False := by
        rw [first] at past
        cases past
      exact
        { asked := congrArg Word.asked last
          detached := congrArg Word.detached last
          answered
          intent := fun wanted =>
            (congrArg (·.intent.isSome) last).trans wanted
          code := fun bad ok => bad ((congrArg Word.code last).symm.trans ok)
          completed := fun done => (before done).elim
          chosen := fun done => (before done).elim }

theorem nextRequest_move (move : Move world next) :
    world.nextRequest ≤ next.nextRequest := by
  cases move with
  | nudge nudge => exact (Nudge.steady nudge).nextRequest.ge
  | dispatched running => exact (steady_dispatchPending running).nextRequest.ge
  | @regenerated value rest running posts =>
      exact (Nudged.steady (@nudged_generation
        { world with posts := rest } running value)).nextRequest.ge
  | scheduled => exact Nat.le_succ _
  | refused => exact Nat.le_succ _
  | published =>
      rw [publish]
      split <;> exact Nat.le_refl _
  | answered =>
      rw [xccRequestComplete]
      dsimp only
      split_ifs <;> exact Nat.le_refl _
  | granted =>
      rw [xccRequestComplete]
      dsimp only
      split_ifs <;> exact Nat.le_refl _
  | registered spec =>
      rw [sessionNewRegister]
      split_ifs <;> exact Nat.le_refl _
  | rolledBack =>
      rw [rollbackAcquisition]
      dsimp only
      split <;> exact Nat.le_refl _
  | shut ready =>
      rw [xccContextCheckShutdown, if_pos ready]
      exact Nat.le_refl _
  | settles delivering =>
      rw [completionSettles]
      dsimp only
      split_ifs
      · rw [World.post]
        split_ifs <;> exact Nat.le_refl _
      · split <;> exact Nat.le_refl _
      · exact Nat.le_refl _
  | calls calling =>
      rw [completionCalls]
      dsimp only
      split_ifs
      · exact Nat.le_refl _
      · rw [World.post]
        split_ifs <;> exact Nat.le_refl _
  | _ => exact Nat.le_refl _

/-! ## The trace -/

/-- Events of loops and of enumerations that start. -/
def isAside : Event → Bool
  | .enumerationStarted .. | .dispatched _ | .emptied _ | .ownerGeneration _ =>
      true
  | _ => false

/-- An event that a move notes by itself. -/
inductive Notes (world next : World) : Event → Prop where
  | uiDelivered (waiting : world.ui.pending ≠ []) :
      Notes world next .uiDelivered
  | validated {id : Nat} {rest : List Post}
      (posts : world.posts = .start id :: rest) :
      Notes world next (.validated id world.generation)
  | signing {id session : Nat}
      (granted : (world.sessions session).rest.granted = true)
      (free : (world.sessions session).rest.grantPending = false) :
      Notes world next (.signing id session)
  | enumerated (id enumeration : Nat) (outcome : Enumerated) :
      Notes world next (.enumerated id enumeration outcome)
  | published (id enumeration : Nat)
      (candidates : List CertificateCandidate) :
      Notes world next (.published id enumeration candidates)
  | concluded {ui : Core.Coordinator.World} {id chooser : Nat}
      {reply : Option Reply} {chosen : Option CertificateCandidate}
      (ends : Ends world ui id chooser)
      (fair : ∀ candidate ∈ chosen, ∃ given,
        reply = some given ∧ ∃ row ∈ (world.ui.choosers chooser).choices,
          given.kind = .choose (world.ui.choosers chooser).revision row.id ∧
            row.candidate = candidate)
      (last : ∃ error,
        next.requests id = conclude (world.requests id) chosen error)
      (events : next.events = world.events) :
      Notes world next
        (.concluded id reply
          (Core.Chooser.chooserView (world.ui.choosers chooser)) chosen
          (world.requests id).enumerating world.events)
  | granted {id session : Nat} {candidate : CertificateCandidate}
      (answerable : Answerable world id)
      (completed : (world.requests id).chooserCompleted = true)
      (bound : (world.requests id).session = some session)
      (opened : (world.sessions session).closed = false)
      (wanted : Wanted world id) (consented : Consented world id candidate) :
      Notes world next (.granted id session candidate)
  | rolledBack {id : Nat} {rest : List Post}
      (posts : world.posts = .rollbackAcquisition id :: rest) :
      Notes world next (.rolledBack id)
  | delivering {id : Nat} {rest : List Delivery}
      (idle : world.desktop = .idle)
      (queue : world.queue = .completion id :: rest) :
      Notes world next
        (.delivering id (world.requests id).cancelIntent
          (readResult (world.requests id)).error)
  | done {id : Nat} (calling : world.desktop = .calling id) :
      Notes world next (.done id (world.requests id).result)
  | sessionInvalidated {id : Nat} {reason : InvalidationReason}
      {rest : List Delivery} (idle : world.desktop = .idle)
      (queue : world.queue = .invalidated id reason :: rest) :
      Notes world next (.sessionInvalidated id reason)
  | shutdownDone {rest : List Delivery} (idle : world.desktop = .idle)
      (queue : world.queue = .shutdownDelivered :: rest) :
      Notes world next .shutdownDone

/-- What has been added to the trace by a move. -/
inductive News (world next : World) : Prop where
  | aside (adds : Adds (fun event => isAside event = true) world.trace
      next.trace)
  | notes {event : Event} (notes : Notes world next event)
      (trace : next.trace = event :: world.trace)

theorem aside_nudge (nudge : Nudge world next) :
    Adds (fun event => isAside event = true) world.trace next.trace := by
  cases nudge with
  | touched touched =>
      rw [touched.rest]
      exact .refl _
  | closes id =>
      cases closed : (world.sessions id).closed with
      | true =>
          rw [close_closed closed]
          exact .refl _
      | false =>
          rcases close_open closed with ⟨told, ending⟩
          rw [ending.last]
          show Adds _ _ told.trace
          rw [ending.touched.rest]
          exact .refl _
  | emptied choosing running => exact (Adds.refl _).cons rfl
  | refreshed choosing landed => exact (Adds.refl _).cons rfl
  | _ => exact .refl _

theorem aside_nudged (nudged : Nudged world next) :
    Adds (fun event => isAside event = true) world.trace next.trace :=
  @Composed.relates _ _
    (fun (first second : World) =>
      Adds (fun event => isAside event = true) first.trace second.trace)
    (fun world => .refl world.trace) (fun _ _ _ => Adds.trans)
    (fun _ _ => aside_nudge) _ _ nudged

/-- What a move adds to the trace is what it notes by itself. -/
theorem news_move (move : Move world next) : News world next := by
  have silent {after : World} (same : after.trace = world.trace) :
      News world after := by
    refine .aside ?_
    rw [same]
    exact .refl _
  cases move with
  | nudge nudge => exact .aside (aside_nudge nudge)
  | dispatched running =>
      exact .aside (dispatchPending_keeps running
        (fun next => Adds (fun event => isAside event = true) world.trace
          next.trace)
        (fun _ _ nudge adds => adds.trans (aside_nudge nudge))
        (fun _ _ adds => adds.cons rfl) (.refl _))
  | @regenerated value rest running posts =>
      have set : Adds (fun event => isAside event = true) world.trace
          (.ownerGeneration value :: world.trace) := (Adds.refl _).cons rfl
      exact .aside (set.trans (aside_nudged
        (@nudged_generation { world with posts := rest } running value)))
  | begun => exact .aside ((Adds.refl _).cons rfl)
  | restarted => exact .aside ((Adds.refl _).cons rfl)
  | uiTold aside waiting => exact .notes (.uiDelivered waiting) rfl
  | validated posts => exact .notes (.validated posts) rfl
  | signed granted free => exact .notes (.signing granted free) rfl
  | reported id enumeration outcome =>
      exact .notes (.enumerated id enumeration outcome) rfl
  | published tokensPresent flying enumerating current choosing allowed
      available reported running =>
      rw [publish]
      split <;> exact .notes (.published _ _ _) rfl
  | concluded reply chosen error ends fair =>
      exact .notes (.concluded ends fair
        ⟨error, World.setRequest_self _ _ _⟩ rfl) rfl
  | granted answerable completed bound opened wanted consented =>
      refine .notes (.granted answerable completed bound opened wanted
        consented) ?_
      rw [trace_xccRequestComplete]
      rfl
  | rolledBack posts =>
      refine .notes (.rolledBack posts) ?_
      rw [rollbackAcquisition]
      dsimp only
      split <;> rfl
  | reads idle queue => exact .notes (.delivering idle queue) rfl
  | invalidationTold idle queue =>
      exact .notes (.sessionInvalidated idle queue) rfl
  | shutdownTold idle queue => exact .notes (.shutdownDone idle queue) rfl
  | calls calling =>
      refine .notes (.done calling) ?_
      rw [completionCalls]
      dsimp only
      split_ifs
      · rfl
      · rw [trace_post]
        rfl
  | answered =>
      apply silent
      rw [trace_xccRequestComplete]
  | registered spec running current =>
      rw [sessionNewRegister]
      split_ifs <;> exact silent rfl
  | shut ready =>
      rw [xccContextCheckShutdown, if_pos ready]
      exact silent rfl
  | settles delivering =>
      rw [completionSettles]
      dsimp only
      split_ifs
      · exact silent (trace_post world _)
      · split <;> exact silent rfl
      · exact silent rfl
  | _ => exact silent rfl

end PortalCertificate.Context.Lasting
