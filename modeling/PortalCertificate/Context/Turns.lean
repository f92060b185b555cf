import PortalCertificate.Context.Grants

/-!
# One acquisition at a time

While an acquisition goes on, its session has no grant and no other
acquisition that goes on.
-/

namespace PortalCertificate.Context.Turns

open PortalCertificate.Broker.Operations (Grant)
open PortalCertificate.Context.Accounts
open PortalCertificate.Context.Acquire
open PortalCertificate.Context.Callbacks
open PortalCertificate.Context.Completion
open PortalCertificate.Context.Floors
open PortalCertificate.Context.Grants
open PortalCertificate.Context.Lasting
open PortalCertificate.Context.Machine
open PortalCertificate.Context.Moves
open PortalCertificate.Context.Nudges
open PortalCertificate.Context.Requests
open PortalCertificate.Context.Sessions
open PortalCertificate.Context.Starts
open PortalCertificate.Core.Coordinator (XccErrorCode)
open PortalCertificate.Tokens.Discovery

variable {world next : World} {id session : Nat}

/-! ## What has been started -/

/-- An enumeration has been started for a request. -/
def Started (request : XccRequest) : Prop :=
  request.enumerating = true ∨ request.chooser.isSome = true ∨
    request.chooserCompleted = true

theorem Started.before {before after : XccRequest} (started : Started after)
    (enumerating : after.enumerating = true →
      before.enumerating = true ∨ before.chooser.isSome = true)
    (chooser : after.chooser.isSome = true →
      before.enumerating = true ∨ before.chooser.isSome = true)
    (completed : after.chooserCompleted = true →
      before.chooser.isSome = true ∨ before.chooserCompleted = true) :
    Started before := by
  rcases started with running | choosing | past
  · exact (enumerating running).imp_right .inl
  · exact (chooser choosing).imp_right .inl
  · exact .inr (completed past)

/-- The first enumeration may be started. -/
structure Begins (world : World) (id : Nat) : Prop where
  active : id ∈ world.active
  kind : (world.requests id).kind = .acquire
  free : ∀ session, (world.requests id).session = some session →
    (world.sessions session).rest.granted = false
  alone : ∀ other ∈ world.active, other ≠ id →
    (world.requests other).session = (world.requests id).session →
    (world.requests other).kind = .acquire →
      (world.requests other).answered = true

theorem started_write {other : Nat} {request : XccRequest}
    (requests : next.requests =
      Function.update world.requests other request)
    (before : Started request → Started (world.requests other))
    (started : Started (next.requests id)) :
    Started (world.requests id) := by
  rw [requests] at started
  by_cases same : id = other
  · rw [same] at started ⊢
    rw [Function.update_self] at started
    exact before started
  · rwa [Function.update_of_ne same] at started

theorem started_complete (other : Nat) (error : XccErrorCode)
    (started :
      Started ((xccRequestComplete world other error).requests id)) :
    Started (world.requests id) := by
  rw [xccRequestComplete] at started
  dsimp only at started
  split_ifs at started
  · exact started
  · exact @started_write world _ id other _ (by rfl)
      (by exact fun here => here) started

@[simp]
theorem sessions_complete (world : World) (id : Nat)
    (error : XccErrorCode) :
    (xccRequestComplete world id error).sessions = world.sessions := by
  rw [xccRequestComplete]
  dsimp only
  split_ifs <;> rfl

theorem answered_completes (world : World) (id : Nat)
    (error : XccErrorCode) :
    ((xccRequestComplete world id error).requests id).answered = true := by
  rw [xccRequestComplete]
  dsimp only
  split_ifs with told
  · exact told
  · exact congrArg XccRequest.answered (World.setRequest_self world id _)

theorem started_landed (other enumeration : Nat)
    (started : Started ((landed world other enumeration).requests id)) :
    Started (world.requests id) := by
  refine @started_write world _ id other _ (by rfl) ?_ started
  intro here
  refine here.before ?_ .inr .inr
  exact fun past => Bool.noConfusion past

theorem publish_other {other : Nat} (enumeration : Nat)
    (candidates : List CertificateCandidate) (tokensPresent : Bool)
    (apart : id ≠ other) :
    (publish world other enumeration candidates tokensPresent).requests id =
      world.requests id := by
  rw [publish]
  split
  · rfl
  · exact Function.update_of_ne apart ..

theorem started_move (move : Move world next)
    (started : Started (next.requests id)) :
    Started (world.requests id) ∨ Begins world id := by
  have keeps {after : World} {other : Nat} {request : XccRequest}
      (requests : after.requests =
        Function.update world.requests other request)
      (before : Started request → Started (world.requests other))
      (started : Started (after.requests id)) :
      Started (world.requests id) ∨ Begins world id :=
    .inl (started_write requests before started)
  have goesOn {after : XccRequest}
      (continues : Continues (world.requests id) after)
      (started : Started after) :
      Started (world.requests id) ∨ Begins world id := by
    refine .inl (started.before continues.enumerated ?_ ?_)
    · rw [continues.chooser]
      exact .inr
    · rw [continues.completed]
      exact .inr
  cases move with
  | nudge nudge =>
      exact goesOn ((Nudge.steady nudge).requests id) started
  | dispatched running =>
      exact goesOn ((steady_dispatchPending running).requests id) started
  | @regenerated value rest running posts =>
      exact goesOn ((Nudged.steady (@nudged_generation
        { world with posts := rest } running value)).requests id) started
  | @begun other session unanswered active untouched kind bound opened free
      alone =>
      by_cases same : id = other
      · subst same
        refine .inr ⟨active, kind, ?_, ?_⟩
        · intro shared here
          rw [bound] at here
          cases here
          exact free
        · intro other member apart shares
          exact alone other member apart (shares.trans bound)
      · refine .inl ?_
        have kept : (startEnumeration world other).requests id =
            world.requests id := Function.update_of_ne same ..
        rwa [kept] at started
  | scheduled =>
      refine keeps (by rfl) (fun new => ?_) started
      rcases new with new | new | new <;> cases new
  | refused =>
      refine keeps (by rfl) (fun new => ?_) started
      rcases new with new | new | new <;> cases new
  | handed => exact keeps (by rfl) (by exact fun here => here) started
  | answered => exact .inl (started_complete _ _ started)
  | landed => exact .inl (started_landed _ _ started)
  | @restarted other enumeration flying enumerating =>
      by_cases same : id = other
      · exact .inl (.inl (same ▸ enumerating))
      · have kept : (startEnumeration (landed world other enumeration)
            other).requests id = (landed world other enumeration).requests
              id := Function.update_of_ne same ..
        rw [kept] at started
        exact .inl (started_landed other enumeration started)
  | @published other enumeration snapshot realTime tokensPresent flying
      enumerating =>
      by_cases same : id = other
      · exact .inl (.inl (same ▸ enumerating))
      · rw [publish_other _ _ _ same] at started
        exact .inl (started_landed other enumeration started)
  | @concluded ui other chooser reply chosen error ends =>
      refine keeps (by rfl) (fun _ => .inr (.inl ?_)) started
      rw [ends.choosing]
      rfl
  | @granted other session candidate =>
      exact keeps (by rfl) (by exact fun here => here)
        (started_complete other .ok started)
  | registered spec =>
      rw [sessionNewRegister] at started
      split_ifs at started <;> exact .inl started
  | rolledBack posts =>
      rw [rollbackAcquisition] at started
      dsimp only at started
      split at started <;>
        exact keeps (by rfl) (by exact fun here => here) started
  | reads => exact keeps (by rfl) (by exact fun here => here) started
  | shut ready =>
      rw [xccContextCheckShutdown, if_pos ready] at started
      exact .inl started
  | settles delivering =>
      rw [completionSettles] at started
      dsimp only at started
      split_ifs at started
      · rw [World.post] at started
        split_ifs at started <;> exact .inl started
      · split at started <;> exact .inl started
      · exact .inl started
  | calls calling =>
      rw [completionCalls] at started
      dsimp only at started
      split_ifs at started
      · exact .inl started
      · rw [World.post] at started
        split_ifs at started <;> exact .inl started
  | _ => exact .inl started

/-! ## The invariant -/

/-- A started request that can still be granted something. -/
def Going (request : XccRequest) : Prop :=
  Started request ∧ request.answered = false

/-- A session has at most one started acquisition that can still be granted
something, and none once it is granted. -/
structure OneByOne (world : World) : Prop where
  started : ∀ id, Started (world.requests id) →
    id < world.nextRequest ∧ (world.requests id).kind = .acquire
  free : ∀ id session, Going (world.requests id) →
    (world.requests id).session = some session →
    (world.sessions session).rest.granted = false
  alone : ∀ id other session, Going (world.requests id) →
    Going (world.requests other) →
    (world.requests id).session = some session →
    (world.requests other).session = some session → id = other

/-- What has not been answered was not answered before. -/
theorem going_before (move : Move world next) (turns : OneByOne world)
    (orderly : Orderly (floor world)) (located : Located world)
    (going : Going (next.requests id)) :
    (world.requests id).answered = false ∧ id < world.nextRequest ∧
      (Started (world.requests id) ∨ Begins world id) := by
  have before := started_move move going.1
  have born : id < world.nextRequest := by
    rcases before with started | begins
    · exact (turns.started id started).1
    · exact located.born begins.active
  refine ⟨?_, born, before⟩
  rw [Bool.eq_false_iff]
  intro told
  have later := (lasting_move move orderly born).answered told
  rw [going.2] at later
  cases later

theorem session_write {other : Nat} {written : Session}
    {sessions : Nat → Session}
    (writes : sessions = Function.update world.sessions other written)
    (before : written.rest.granted = true →
      (world.sessions other).rest.granted = true)
    (granted : (sessions session).rest.granted = true) :
    (world.sessions session).rest.granted = true := by
  rw [writes] at granted
  by_cases same : session = other
  · rw [same] at granted ⊢
    rw [Function.update_self] at granted
    exact before granted
  · rwa [Function.update_of_ne same] at granted

/-- A grant comes with a grant move only. -/
theorem granted_before (move : Move world next)
    (granted : (next.sessions session).rest.granted = true) :
    (world.sessions session).rest.granted = true ∨
      ∃ id, Going (world.requests id) ∧
        (world.requests id).session = some session ∧
        (next.requests id).answered = true := by
  rcases quiet_move move with quiet | ⟨request, made⟩ | settled
  · have same := congrArg Grant.granted (quiet.sessions session).grant
    exact .inl (same.symm.trans granted)
  · rw [made.sessions] at granted
    exact .inl granted
  · cases settled with
    | registered spec =>
        rw [sessionNewRegister] at granted
        split_ifs at granted
        · exact .inl granted
        · refine .inl (session_write rfl (fun new => ?_) granted)
          cases new
    | @granted id shared candidate answerable completed bound opened wanted =>
        by_cases same : session = shared
        · refine .inr ⟨id,
            ⟨.inr (.inr completed), answerable.unanswered⟩,
            same ▸ bound, ?_⟩
          exact answered_completes _ id .ok
        · refine .inl ?_
          have kept : (xccRequestComplete
              (grantRequest world id shared candidate) id .ok).sessions
                session = world.sessions session := by
            rw [sessions_complete]
            exact Function.update_of_ne same ..
          rwa [kept] at granted
    | rolledBack posts =>
        rw [rollbackAcquisition] at granted
        dsimp only at granted
        split at granted
        · refine .inl (session_write rfl (fun back => ?_) granted)
          cases back
        · exact .inl granted
    | reads idle queue => exact .inl granted
    | settles delivering =>
        rw [completionSettles] at granted
        dsimp only at granted
        split_ifs at granted
        · rw [World.post] at granted
          split_ifs at granted <;> exact .inl granted
        · split at granted
          · exact .inl (@session_write world session _ _ _ (by rfl)
              (by exact fun here => here) granted)
          · exact .inl granted
        · exact .inl granted
    | calls calling =>
        rw [completionCalls] at granted
        dsimp only at granted
        split_ifs at granted
        · exact .inl granted
        · rw [World.post] at granted
          split_ifs at granted <;> exact .inl granted

/-- A request that has been started, or is about to be. -/
structure Coming (world : World) (id : Nat) : Prop where
  unanswered : (world.requests id).answered = false
  started : Started (world.requests id) ∨ Begins world id

theorem Coming.active (coming : Coming world id)
    (orderly : Orderly (floor world)) : id ∈ world.active := by
  rcases coming.started with started | begins
  · rcases started with running | choosing | past
    · exact (orderly.enumerating id running).active
    · rcases Option.isSome_iff_exists.mp choosing with ⟨chooser, choosing⟩
      exact (orderly.choosing id chooser choosing).1.active
    · exact (orderly.completed id past).resolve_left
        (Bool.eq_false_iff.mp coming.unanswered)
  · exact begins.active

theorem Coming.kind (coming : Coming world id) (turns : OneByOne world) :
    (world.requests id).kind = .acquire := by
  rcases coming.started with started | begins
  · exact (turns.started id started).2
  · exact begins.kind

/-- The acquisition that comes is the only one of its session. -/
theorem Coming.alone {other : Nat} (here : Coming world id)
    (there : Coming world other) (turns : OneByOne world)
    (orderly : Orderly (floor world))
    (bound : (world.requests id).session = some session)
    (shares : (world.requests other).session = some session) :
    id = other := by
  have first {id other : Nat} (begins : Begins world id)
      (there : Coming world other)
      (shares : (world.requests other).session =
        (world.requests id).session) : id = other := by
    by_contra apart
    have told := begins.alone other (there.active orderly) (Ne.symm apart)
      shares (there.kind turns)
    rw [there.unanswered] at told
    cases told
  rcases here.started with started | begins
  · rcases there.started with later | begins
    · exact turns.alone id other session ⟨started, here.unanswered⟩
        ⟨later, there.unanswered⟩ bound shares
    · exact (first begins here (bound.trans shares.symm)).symm
  · exact first begins there (shares.trans bound.symm)

/-- Every move keeps the acquisitions of a session one by one. -/
theorem turns_move (move : Move world next) (basic : Basic world)
    (turns : OneByOne world) : OneByOne next := by
  have asked {id : Nat} (born : id < world.nextRequest) :
      (next.requests id).toAsked = (world.requests id).toAsked :=
    (lasting_move move basic.orderly born).asked
  have coming {id : Nat} (going : Going (next.requests id)) :
      Coming world id ∧ id < world.nextRequest :=
    have before := going_before move turns basic.orderly basic.located going
    ⟨⟨before.1, before.2.2⟩, before.2.1⟩
  have shares {id session : Nat} (born : id < world.nextRequest)
      (bound : (next.requests id).session = some session) :
      (world.requests id).session = some session :=
    (congrArg Asked.session (asked born)).symm.trans bound
  refine { started := ?_, free := ?_, alone := ?_ }
  · intro id started
    have here : id < world.nextRequest ∧
        (world.requests id).kind = .acquire := by
      rcases started_move move started with before | begins
      · exact turns.started id before
      · exact ⟨basic.located.born begins.active, begins.kind⟩
    exact ⟨here.1.trans_le (nextRequest_move move),
      (congrArg Asked.kind (asked here.1)).trans here.2⟩
  · intro id session going bound
    rcases coming going with ⟨here, born⟩
    have before := shares born bound
    rw [Bool.eq_false_iff]
    intro granted
    rcases granted_before move granted with
      old | ⟨other, there, other', told⟩
    · rcases here.started with started | begins
      · rw [turns.free id session ⟨started, here.unanswered⟩ before] at old
        cases old
      · rw [begins.free session before] at old
        cases old
    · have same := here.alone ⟨there.2, .inl there.1⟩ turns basic.orderly
        before other'
      rw [← same, going.2] at told
      cases told
  · intro id other session here there bound shared
    rcases coming here with ⟨first, born⟩
    rcases coming there with ⟨second, born'⟩
    exact first.alone second turns basic.orderly (shares born bound)
      (shares born' shared)

end PortalCertificate.Context.Turns
