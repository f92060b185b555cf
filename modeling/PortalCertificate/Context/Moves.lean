import PortalCertificate.Context.Machine
import PortalCertificate.Core.UiFrames

/-!
# The moves of a context

Every callback of the coordinator is made of moves.  A nudge is what a loop
over requests or sessions does to one of them: it may cancel a request, ask
for another enumeration or end a session, but it answers nothing.  The other
moves start, advance or answer one request, or hand something over.
-/

namespace PortalCertificate.Context.Moves

open PortalCertificate.Context.Acquire
open PortalCertificate.Context.Completion
open PortalCertificate.Context.Machine
open PortalCertificate.Context.Requests
open PortalCertificate.Context.Sessions
open PortalCertificate.Core.Coordinator (XccErrorCode Reply Chooser)
open PortalCertificate.Core.Principals (XccPrincipal XccSessionSpec)
open PortalCertificate.Core.UiFrames
open PortalCertificate.Library.Transition
open PortalCertificate.Tokens.Discovery
open PortalCertificate.Tokens.Filter
open PortalCertificate.Tokens.Watcher

/-! ## What is kept -/

/-- A request that has been cancelled at most. -/
structure Alike (before after : XccRequest) : Prop where
  asked : after.toAsked = before.toAsked
  answered : after.answered = before.answered
  detached : after.detached = before.detached
  result : after.result = before.result
  candidate : after.candidate = before.candidate
  chooser : after.chooser = before.chooser
  enumerating : after.enumerating = before.enumerating
  completed : after.chooserCompleted = before.chooserCompleted
  chosen : after.pendingChosen = before.pendingChosen
  working : after.working = before.working
  principal : before.session.isSome = true →
    after.principal = before.principal
  intent : before.cancelIntent.isSome = true →
    after.cancelIntent.isSome = true
  code : before.cancelledCode ≠ .ok → after.cancelledCode ≠ .ok
  again : before.enumerateAgain = true → after.enumerateAgain = true

theorem Alike.refl (request : XccRequest) : Alike request request where
  asked := rfl
  answered := rfl
  detached := rfl
  result := rfl
  candidate := rfl
  chooser := rfl
  enumerating := rfl
  completed := rfl
  chosen := rfl
  working := rfl
  principal _ := rfl
  intent := id
  code := id
  again := id

theorem Alike.trans {first second third : XccRequest}
    (here : Alike first second) (there : Alike second third) :
    Alike first third where
  asked := there.asked.trans here.asked
  answered := there.answered.trans here.answered
  detached := there.detached.trans here.detached
  result := there.result.trans here.result
  candidate := there.candidate.trans here.candidate
  chooser := there.chooser.trans here.chooser
  enumerating := there.enumerating.trans here.enumerating
  completed := there.completed.trans here.completed
  chosen := there.chosen.trans here.chosen
  working := there.working.trans here.working
  principal bound :=
    (there.principal (by
      rw [show second.session = first.session from
        congrArg Asked.session here.asked]
      exact bound)).trans (here.principal bound)
  intent wanted := there.intent (here.intent wanted)
  code bad := there.code (here.code bad)
  again asked := there.again (here.again asked)

/-- A session that has ended at most; its grant is as before. -/
structure Kept (before after : Session) : Prop where
  ownerGeneration : after.ownerGeneration = before.ownerGeneration
  closed : before.closed = true → after.closed = true
  grant : after.rest.toGrant = before.rest.toGrant
  purpose : after.rest.purpose = before.rest.purpose
  genericPurpose : after.rest.genericPurpose = before.rest.genericPurpose
  lifetime : after.rest.lifetime = before.rest.lifetime
  expirySource : after.rest.expirySource = true →
    before.rest.expirySource = true

theorem Kept.refl (session : Session) : Kept session session :=
  ⟨rfl, id, rfl, rfl, rfl, rfl, id⟩

theorem Kept.trans {first second third : Session}
    (here : Kept first second) (there : Kept second third) :
    Kept first third where
  ownerGeneration := there.ownerGeneration.trans here.ownerGeneration
  closed ended := there.closed (here.closed ended)
  grant := there.grant.trans here.grant
  purpose := there.purpose.trans here.purpose
  genericPurpose := there.genericPurpose.trans here.genericPurpose
  lifetime := there.lifetime.trans here.lifetime
  expirySource armed := here.expirySource (there.expirySource armed)

/-- The UI without a change of a list. -/
structure UiAside (before after : Core.Coordinator.World) : Prop where
  choosers : ∀ chooser,
    SameChooser (before.choosers chooser) (after.choosers chooser)
  nextChooser : after.nextChooser = before.nextChooser
  cancelled : ∀ cancellable, before.cancelled cancellable = true →
    after.cancelled cancellable = true
  stopping : before.stopping = true → after.stopping = true
  shutdownPosted : after.shutdownPosted = before.shutdownPosted
  available : after.chooserAvailable = before.chooserAvailable
  pending : before.shutdownPosted = true → before.pending = [] →
    after.pending = []

theorem UiAside.refl (ui : Core.Coordinator.World) : UiAside ui ui :=
  ⟨fun _ => .refl _, rfl, fun _ => id, id, rfl, rfl, fun _ => id⟩

theorem UiAside.trans {first second third : Core.Coordinator.World}
    (here : UiAside first second) (there : UiAside second third) :
    UiAside first third where
  choosers chooser :=
    ⟨(there.choosers chooser).choices.trans (here.choosers chooser).choices,
      (there.choosers chooser).finished.trans
        (here.choosers chooser).finished,
      (there.choosers chooser).cancellable.trans
        (here.choosers chooser).cancellable⟩
  nextChooser := there.nextChooser.trans here.nextChooser
  cancelled id held := there.cancelled id (here.cancelled id held)
  stopping held := there.stopping (here.stopping held)
  shutdownPosted := there.shutdownPosted.trans here.shutdownPosted
  available := there.available.trans here.available
  pending posted empty :=
    there.pending (here.shutdownPosted.trans posted)
      (here.pending posted empty)

/-! ## Nudges -/

variable {world : World}

/-- Requests have been cancelled at most. -/
structure Touched (world next : World) : Prop where
  requests : ∀ id, Alike (world.requests id) (next.requests id)
  aside : UiAside world.ui next.ui
  rest : next = { world with requests := next.requests, ui := next.ui }

theorem Touched.refl (world : World) : Touched world world :=
  ⟨fun _ => .refl _, .refl _, rfl⟩

theorem Touched.trans {first second third : World}
    (here : Touched first second) (there : Touched second third) :
    Touched first third where
  requests id := (here.requests id).trans (there.requests id)
  aside := here.aside.trans there.aside
  rest := by
    have last := there.rest
    rw [here.rest] at last
    exact last

theorem Touched.write {id : Nat} {request : XccRequest}
    (alike : Alike (world.requests id) request) :
    Touched world (world.setRequest id request) where
  requests other := by
    show Alike (world.requests other)
      (Function.update world.requests id request other)
    by_cases same : other = id
    · rw [same, Function.update_self]
      exact alike
    · rw [Function.update_of_ne same]
      exact .refl _
  aside := .refl _
  rest := rfl

theorem Touched.ofAside {ui : Core.Coordinator.World}
    (aside : UiAside world.ui ui) : Touched world { world with ui } :=
  ⟨fun _ => .refl _, aside, rfl⟩

/-- One of the changes that calls and their checks are made of. -/
inductive Nudge (world : World) : World → Prop where
  | touched {next : World} (touched : Touched world next) : Nudge world next
  | kept {id : Nat} {session : Session}
      (kept : Kept (world.sessions id) session)
      (closed : session.closed = (world.sessions id).closed) :
      Nudge world (world.setSession id session)
  | closes (id : Nat) : Nudge world (xccSessionCloseInternal world id)
  | emptied {id chooser : Nat}
      (choosing : (world.requests id).chooser = some chooser)
      (running : world.ui.shutdownPosted = false) :
      Nudge world (emptyChooser world id chooser)
  /-- A chooser that is open asks for a new list. -/
  | refreshed {id chooser : Nat}
      (choosing : (world.requests id).chooser = some chooser)
      (landed : (world.requests id).enumerating = false) :
      Nudge world (startEnumeration world id)
  | invalidated (id : Nat) (reason : InvalidationReason)
      (running : world.ui.shutdownPosted = false) :
      Nudge world (world.dispatch (.invalidated id reason))

/-- Some changes, one after the other. -/
abbrev Nudged := Composed (fun world next => Nudge world next)

/-! ## Moves -/

/-- A post that carries no request. -/
def Post.plain : Post → Bool
  | .start _ | .rollbackAcquisition _ | .completionAck _ => false
  | _ => true

/-- Nothing has been done for a request yet. -/
structure Untouched (request : XccRequest) : Prop where
  enumerating : request.enumerating = false
  chooser : request.chooser = none
  completed : request.chooserCompleted = false
  working : request.working = false

/-- A request that can be answered. -/
structure Answerable (world : World) (id : Nat) : Prop where
  unanswered : (world.requests id).answered = false
  active : id ∈ world.active
  landed : (world.requests id).enumerating = false
  chooser : (world.requests id).chooser = none

/-- The record of a request that is scheduled too late. -/
def lateRequest
    (asked : Asked) (principal : XccPrincipal) (error : XccErrorCode) :
    XccRequest :=
  { xccRequestNew asked principal with
    detached := true, answered := true
    result := { XccResult.zero with error } }

/-- The state of an acquisition whose chooser has just ended. -/
structure Ends
    (world : World) (ui : Core.Coordinator.World) (id chooser : Nat) :
    Prop where
  choosing : (world.requests id).chooser = some chooser
  ended : (ui.choosers chooser).finished = true
  others : ∀ other, other ≠ chooser →
    ui.choosers other = world.ui.choosers other
  nextChooser : ui.nextChooser = world.ui.nextChooser
  cancelled : ui.cancelled = world.ui.cancelled
  stopping : ui.stopping = world.ui.stopping
  shutdownPosted : ui.shutdownPosted = world.ui.shutdownPosted
  available : ui.chooserAvailable = world.ui.chooserAvailable
  running : world.ui.shutdownPosted = false

/-- Nothing has been said against a request, as far as it is known. -/
structure Wanted (world : World) (id : Nat) : Prop where
  intent : (world.requests id).cancelIntent = none
  code : (world.requests id).cancelledCode = .ok
  cancelled : world.isCancelled id = false
  settled : world.events = []

/-- The chooser of a request has ended with a candidate. -/
def Concluded
    (id : Nat) (chosen : CertificateCandidate) (refreshing : Bool)
    (trace : List Event) : Prop :=
  ∃ reply view queued,
    .concluded id reply view (some chosen) refreshing queued ∈ trace

/-- A list of candidates has been reported after the choice. -/
structure Confirmed
    (world : World) (id : Nat) (chosen candidate : CertificateCandidate) :
    Prop where
  same : certificateCandidateSame chosen candidate = true
  reported : ∃ later enumeration snapshot earlier realTime,
    world.trace =
      later ++ .enumerated id enumeration (.ok snapshot) :: earlier ∧
    (∃ refreshing, Concluded id chosen refreshing earlier) ∧
    candidate ∈ certificateFilterApply snapshot (world.requests id).filter
      realTime

/-- The candidate is the one that has been chosen. -/
structure Consented
    (world : World) (id : Nat) (candidate : CertificateCandidate) : Prop where
  chosen : ∃ chosen, (world.requests id).pendingChosen = some chosen ∧
    (candidate = chosen ∧ Concluded id chosen false world.trace ∨
      Confirmed world id chosen candidate)

/-- One of the changes that the steps of the context are made of. -/
inductive Move (world : World) : World → Prop where
  | nudge {next : World} (nudge : Nudge world next) : Move world next
  /-- What is not a matter of the coordinator. -/
  | outside (now : Int) (held : Nat) (more : List WatchEvent)
      (watchStopped shutdownStarted : Bool) :
      Move world
        { world with
          now, held, watchStopped, shutdownStarted
          events := world.events ++ more }
  | dispatched (running : world.ui.shutdownPosted = false) :
      Move world (dispatchPending world)
  | uiTold {ui : Core.Coordinator.World} (aside : UiAside world.ui ui)
      (waiting : world.ui.pending ≠ []) :
      Move world ({ world with ui }.emit .uiDelivered)
  | scheduled (asked : Asked) (principal : XccPrincipal)
      (bound : asked.kind ≠ .capabilities → asked.session.isSome = true)
      (running : world.ui.shutdownPosted = false) :
      Move world
        { world.setRequest world.nextRequest
            (xccRequestNew asked principal) with
          nextRequest := world.nextRequest + 1
          posts := world.posts ++ [.start world.nextRequest] }
  | refused (asked : Asked) (principal : XccPrincipal)
      {error : XccErrorCode} (bad : error ≠ .ok)
      (bound : asked.kind ≠ .capabilities → asked.session.isSome = true)
      (past : world.ui.shutdownPosted = true) :
      Move world
        { world.setRequest world.nextRequest
            (lateRequest asked principal error) with
          nextRequest := world.nextRequest + 1
          queue := world.queue ++ [.completion world.nextRequest] }
  | mailed (post : Post) (plain : Post.plain post = true)
      (running : world.ui.shutdownPosted = false) :
      Move world { world with posts := world.posts ++ [post] }
  | opened {post : Post} {rest : List Post}
      (plain : Post.plain post = true)
      (posts : world.posts = post :: rest) :
      Move world { world with posts := rest }
  | validated {id : Nat} {rest : List Post}
      (posts : world.posts = .start id :: rest) :
      Move world
        ({ world with posts := rest, active := world.active ++ [id] }.emit
          (.validated id world.generation))
  /-- The first enumeration of an acquisition. -/
  | begun {id session : Nat}
      (unanswered : (world.requests id).answered = false)
      (active : id ∈ world.active)
      (untouched : Untouched (world.requests id))
      (kind : (world.requests id).kind = .acquire)
      (bound : (world.requests id).session = some session)
      (opened : (world.sessions session).closed = false)
      (free : (world.sessions session).rest.granted = false)
      (alone : ∀ other ∈ world.active, other ≠ id →
        (world.requests other).session = some session →
        (world.requests other).kind = .acquire →
          (world.requests other).answered = true) :
      Move world (startEnumeration world id)
  | handed {id : Nat}
      (unanswered : (world.requests id).answered = false)
      (active : id ∈ world.active)
      (kind : (world.requests id).kind ≠ .acquire)
      (opened : ∀ session, (world.requests id).session = some session →
        (world.sessions session).closed = false) :
      Move world (handOver world id)
  | signed {id session : Nat}
      (granted : (world.sessions session).rest.granted = true)
      (free : (world.sessions session).rest.grantPending = false) :
      Move world (world.emit (.signing id session))
  | answered {id : Nat} {error : XccErrorCode}
      (answerable : Answerable world id)
      (good : error = .ok → (world.requests id).kind ≠ .acquire ∧
        (world.requests id).working = true) :
      Move world (xccRequestComplete world id error)
  | reported (id enumeration : Nat) (outcome : Enumerated) :
      Move world (world.emit (.enumerated id enumeration outcome))
  | landed {id enumeration : Nat}
      (flying : (id, enumeration) ∈ world.enumerations)
      (enumerating : (world.requests id).enumerating = true) :
      Move world (landed world id enumeration)
  /-- A list that is not current is not used. -/
  | restarted {id enumeration : Nat}
      (flying : (id, enumeration) ∈ world.enumerations)
      (enumerating : (world.requests id).enumerating = true) :
      Move world (startEnumeration (landed world id enumeration) id)
  | published {id enumeration : Nat} {snapshot : List CertificateCandidate}
      {realTime : Int} (tokensPresent : Bool)
      (flying : (id, enumeration) ∈ world.enumerations)
      (enumerating : (world.requests id).enumerating = true)
      (current : (world.requests id).enumerateAgain = false)
      (choosing : (world.requests id).chooserCompleted = false)
      (allowed : (world.requests id).interactionForbidden = false)
      (available : world.ui.chooserAvailable = true)
      (reported : .enumerated id enumeration (.ok snapshot) ∈ world.trace)
      (running : world.ui.shutdownPosted = false) :
      Move world
        (publish (landed world id enumeration) id enumeration
          (certificateFilterApply snapshot (world.requests id).filter
            realTime) tokensPresent)
  | concluded {ui : Core.Coordinator.World} {id chooser : Nat}
      (reply : Option Reply) (chosen : Option CertificateCandidate)
      (error : XccErrorCode) (ends : Ends world ui id chooser)
      (fair : ∀ candidate ∈ chosen, ∃ given,
        reply = some given ∧ ∃ row ∈ (world.ui.choosers chooser).choices,
          given.kind = .choose (world.ui.choosers chooser).revision row.id ∧
            row.candidate = candidate) :
      Move world
        (({ world with ui }.emit
            (.concluded id reply
              (Core.Chooser.chooserView (world.ui.choosers chooser)) chosen
              (world.requests id).enumerating world.events)).setRequest id
          (conclude (world.requests id) chosen error))
  | granted {id session : Nat} {candidate : CertificateCandidate}
      (answerable : Answerable world id)
      (completed : (world.requests id).chooserCompleted = true)
      (bound : (world.requests id).session = some session)
      (opened : (world.sessions session).closed = false)
      (wanted : Wanted world id) (consented : Consented world id candidate) :
      Move world
        (xccRequestComplete (grantRequest world id session candidate) id .ok)
  | registered (spec : XccSessionSpec)
      (running : world.ui.stopping = false)
      (current : spec.ownerGeneration = world.generation) :
      Move world (sessionNewRegister world spec)
  | regenerated {value : Nat} {rest : List Post}
      (running : world.ui.shutdownPosted = false)
      (posts : world.posts = .generation value :: rest) :
      Move world (generation { world with posts := rest } value)
  | rolledBack {id : Nat} {rest : List Post}
      (posts : world.posts = .rollbackAcquisition id :: rest) :
      Move world (rollbackAcquisition { world with posts := rest } id)
  | acknowledged {id : Nat} {rest : List Post}
      (posts : world.posts = .completionAck id :: rest) :
      Move world (completionAck { world with posts := rest } id)
  | shut (ready : shutdownReady world = true) :
      Move world (xccContextCheckShutdown world)
  | reads {id : Nat} {rest : List Delivery} (idle : world.desktop = .idle)
      (queue : world.queue = .completion id :: rest) :
      Move world (completionReads { world with queue := rest } id)
  | invalidationTold {id : Nat} {reason : InvalidationReason}
      {rest : List Delivery} (idle : world.desktop = .idle)
      (queue : world.queue = .invalidated id reason :: rest) :
      Move world
        ({ world with queue := rest }.emit (.sessionInvalidated id reason))
  | shutdownTold {rest : List Delivery} (idle : world.desktop = .idle)
      (queue : world.queue = .shutdownDelivered :: rest) :
      Move world ({ world with queue := rest }.emit .shutdownDone)
  | settles {id : Nat} (delivering : world.desktop = .delivering id) :
      Move world (completionSettles world id)
  | calls {id : Nat} (calling : world.desktop = .calling id) :
      Move world (completionCalls world id)

/-- Some moves, one after the other. -/
abbrev Moved := Composed (fun world next => Move world next)

theorem Nudged.moved {next : World} (nudged : Nudged world next) :
    Moved world next :=
  Relation.ReflTransGen.mono (fun _ _ nudge => Move.nudge nudge) _ _ nudged

theorem Moved.one {next : World} (move : Move world next) :
    Moved world next :=
  .single move

theorem Nudged.one {next : World} (nudge : Nudge world next) :
    Nudged world next :=
  .single nudge

end PortalCertificate.Context.Moves
