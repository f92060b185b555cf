import PortalCertificate.Context.Lasting

/-!
# What happens to grants

Grants come with one move and go with another, and the desktop gives them
free with a third.  The other moves leave the grants of the sessions and the
candidates of the requests as they are.
-/

namespace PortalCertificate.Context.Grants

open PortalCertificate.Broker.Operations (Grant)
open PortalCertificate.Context.Accounts
open PortalCertificate.Context.Acquire
open PortalCertificate.Context.Callbacks
open PortalCertificate.Context.Completion
open PortalCertificate.Context.Lasting
open PortalCertificate.Context.Machine
open PortalCertificate.Context.Moves
open PortalCertificate.Context.Nudges
open PortalCertificate.Context.Requests
open PortalCertificate.Context.Sessions
open PortalCertificate.Context.Starts
open PortalCertificate.Core.Coordinator (XccErrorCode Reply)
open PortalCertificate.Core.Principals (XccPrincipal XccSessionSpec)
open PortalCertificate.Core.UiFrames
open PortalCertificate.Library.Trace
open PortalCertificate.Library.Transition
open PortalCertificate.Tokens.Discovery

/-! ## Sessions and their grants -/

/-- No grant field is set. -/
structure Vacant (session : Session) : Prop where
  grant : session.rest.toGrant = SessionState.zero.toGrant
  purpose : session.rest.purpose = .clientAuth
  genericPurpose : session.rest.genericPurpose = false
  lifetime : session.rest.lifetime = 0
  expirySource : session.rest.expirySource = false

/-- The grant fields are those of the grant that a request has been made. -/
structure Given
    (request : XccRequest) (candidate : CertificateCandidate)
    (session : Session) : Prop where
  granted : session.rest.granted = true
  holds : session.rest.candidate = some candidate
  purpose : session.rest.purpose = request.purpose
  genericPurpose : session.rest.genericPurpose = request.genericPurpose
  maySign : session.rest.maySign = (request.maySign && candidate.canSign)
  mayDecrypt : session.rest.mayDecrypt = false
  lifetime : session.rest.lifetime = request.lifetime
  expiresAt : ∃ start : Int,
    session.rest.expiresAt = start + request.lifetime.toNat

theorem Vacant.kept {before after : Session} (vacant : Vacant before)
    (kept : Kept before after) : Vacant after where
  grant := kept.grant.trans vacant.grant
  purpose := kept.purpose.trans vacant.purpose
  genericPurpose := kept.genericPurpose.trans vacant.genericPurpose
  lifetime := kept.lifetime.trans vacant.lifetime
  expirySource := by
    rw [Bool.eq_false_iff]
    intro armed
    have before := kept.expirySource armed
    rw [vacant.expirySource] at before
    cases before

theorem Vacant.granted {session : Session} (vacant : Vacant session) :
    session.rest.granted = false :=
  congrArg Grant.granted vacant.grant

theorem vacant_rolledBack (session : Session) :
    Vacant (rolledBack session) :=
  ⟨rfl, rfl, rfl, rfl, rfl⟩

theorem Given.kept {request later : XccRequest}
    {candidate : CertificateCandidate} {before after : Session}
    (given : Given request candidate before)
    (asked : later.toAsked = request.toAsked) (kept : Kept before after) :
    Given later candidate after where
  granted := (congrArg Grant.granted kept.grant).trans given.granted
  holds := (congrArg Grant.candidate kept.grant).trans given.holds
  purpose := (kept.purpose.trans given.purpose).trans
    (congrArg Asked.purpose asked).symm
  genericPurpose := (kept.genericPurpose.trans given.genericPurpose).trans
    (congrArg Asked.genericPurpose asked).symm
  maySign := by
    rw [show later.maySign = request.maySign from
      congrArg Asked.maySign asked]
    exact (congrArg Grant.maySign kept.grant).trans given.maySign
  mayDecrypt := (congrArg Grant.mayDecrypt kept.grant).trans given.mayDecrypt
  lifetime := (kept.lifetime.trans given.lifetime).trans
    (congrArg Asked.lifetime asked).symm
  expiresAt := by
    rcases given.expiresAt with ⟨start, expires⟩
    refine ⟨start, ?_⟩
    rw [show later.lifetime = request.lifetime from
      congrArg Asked.lifetime asked]
    exact (congrArg Grant.expiresAt kept.grant).trans expires

/-! ## Who holds a grant -/

/-- An event that leaves the grant of a request alone. -/
def Undisturbed (id session : Nat) (event : Event) : Prop :=
  event ≠ .rolledBack id ∧
    ∀ other candidate, event ≠ .granted other session candidate

/-- The grant of the session is that of the request. -/
def Held (id session : Nat) (candidate : CertificateCandidate) :
    List Event → Prop :=
  Since (.granted id session candidate) (Undisturbed id session)
    fun _ => True

/-- The delivery of the answer to the request has read this error. -/
def Reported
    (id session : Nat) (candidate : CertificateCandidate)
    (error : XccErrorCode) : List Event → Prop :=
  fun trace => ∃ since intent before,
    trace = since ++ .delivering id intent error :: before ∧
      (∀ event ∈ since, Undisturbed id session event) ∧
      Held id session candidate before

/-- Events that grants depend on. -/
def isSettling : Event → Bool
  | .granted .. | .rolledBack _ | .delivering .. => true
  | _ => false

variable {world next : World} {id session : Nat}
  {candidate : CertificateCandidate} {error : XccErrorCode}
  {trace later : List Event}

theorem undisturbed_of_aside {event : Event}
    (aside : isSettling event = false) : Undisturbed id session event := by
  constructor
  · rintro rfl
    cases aside
  · rintro other candidate rfl
    cases aside

theorem Reported.held (reported : Reported id session candidate error trace) :
    Held id session candidate trace := by
  rcases reported with ⟨since, intent, before, rfl, quiet, held⟩
  refine Since.append (held.cons ?_) quiet
  constructor
  · exact Event.noConfusion
  · exact fun _ _ => Event.noConfusion

/-- A session has the grant of one request. -/
theorem Held.unique {other : Nat} {others : CertificateCandidate}
    (here : Held id session candidate trace)
    (there : Held other session others trace) :
    id = other ∧ candidate = others := by
  induction trace with
  | nil => exact absurd (Since.start_mem here) List.not_mem_nil
  | cons event trace ih =>
      rcases Since.uncons here with ⟨rfl, -⟩ | ⟨quiet, here⟩
      · rcases Since.uncons there with ⟨same, -⟩ | ⟨quiet, -⟩
        · cases same
          exact ⟨rfl, rfl⟩
        · exact absurd rfl (quiet.2 id candidate)
      · rcases Since.uncons there with ⟨rfl, -⟩ | ⟨-, there⟩
        · exact absurd rfl (quiet.2 other others)
        · exact ih here there

theorem Held.adds (held : Held id session candidate trace)
    (adds : Adds (fun event => isSettling event = false) trace later) :
    Held id session candidate later := by
  rcases adds with ⟨news, rfl, quiet⟩
  exact Since.append held fun event member =>
    undisturbed_of_aside (quiet event member)

theorem Held.of_adds (held : Held id session candidate later)
    (adds : Adds (fun event => isSettling event = false) trace later) :
    Held id session candidate trace :=
  adds.since held Bool.noConfusion

theorem Reported.append {news : List Event}
    (reported : Reported id session candidate error trace)
    (quiet : ∀ event ∈ news, Undisturbed id session event) :
    Reported id session candidate error (news ++ trace) := by
  rcases reported with ⟨since, intent, before, rfl, still, held⟩
  refine ⟨news ++ since, intent, before, (List.append_assoc ..).symm, ?_,
    held⟩
  intro event member
  exact (List.mem_append.mp member).elim (quiet event) (still event)

theorem Reported.cons {event : Event}
    (reported : Reported id session candidate error trace)
    (quiet : Undisturbed id session event) :
    Reported id session candidate error (event :: trace) := by
  have single : ∀ other ∈ [event], Undisturbed id session other := by
    simpa using quiet
  exact reported.append single

theorem Reported.adds (reported : Reported id session candidate error trace)
    (adds : Adds (fun event => isSettling event = false) trace later) :
    Reported id session candidate error later := by
  rcases adds with ⟨news, rfl, quiet⟩
  exact reported.append fun event member =>
    undisturbed_of_aside (quiet event member)

/-! ## Moves that leave the grants alone -/

/-- A request that may have been answered, but not with a grant. -/
structure Tied (before after : XccRequest) : Prop where
  asked : after.toAsked = before.toAsked
  candidate : after.candidate = before.candidate
  kept : before.answered = true →
    after.answered = true ∧ after.result.error = before.result.error
  refused : before.answered = false → after.answered = true →
    before.kind = .acquire → after.result.error ≠ .ok

theorem Tied.refl (request : XccRequest) : Tied request request where
  asked := rfl
  candidate := rfl
  kept told := ⟨told, rfl⟩
  refused unanswered told := by
    rw [unanswered] at told
    cases told

theorem Continues.tied {before after : XccRequest}
    (continues : Continues before after) : Tied before after where
  asked := continues.asked
  candidate := continues.candidate
  kept told :=
    ⟨continues.answered.trans told,
      congrArg XccResult.error continues.result⟩
  refused unanswered told := by
    rw [continues.answered, unanswered] at told
    cases told

theorem Tied.trans {before after last : XccRequest}
    (here : Tied before after) (there : Tied after last) :
    Tied before last where
  asked := there.asked.trans here.asked
  candidate := there.candidate.trans here.candidate
  kept told :=
    have early := here.kept told
    have late := there.kept early.1
    ⟨late.1, late.2.trans early.2⟩
  refused unanswered told kind := by
    cases between : after.answered with
    | true =>
        rw [(there.kept between).2]
        exact here.refused unanswered between kind
    | false =>
        exact there.refused between told
          ((congrArg Asked.kind here.asked).trans kind)

/-- A request of which the answer is not written. -/
theorem Tied.plain {before after : XccRequest}
    (asked : after.toAsked = before.toAsked)
    (candidate : after.candidate = before.candidate)
    (answered : after.answered = before.answered)
    (result : after.result = before.result) : Tied before after where
  asked := asked
  candidate := candidate
  kept told := ⟨answered.trans told, congrArg XccResult.error result⟩
  refused unanswered told := by
    rw [answered, unanswered] at told
    cases told

/-- No grant is touched, and no request is made. -/
structure Quiet (world next : World) : Prop where
  sessions : ∀ id, Kept (world.sessions id) (next.sessions id)
  nextSession : next.nextSession = world.nextSession
  nextRequest : next.nextRequest = world.nextRequest
  requests : ∀ id, Tied (world.requests id) (next.requests id)
  desktop : next.desktop = world.desktop
  rolling : ∀ id, .rollbackAcquisition id ∈ next.posts →
    .rollbackAcquisition id ∈ world.posts
  told : ∀ id, told next.trace id = told world.trace id
  trace : Adds (fun event => isSettling event = false) world.trace next.trace

theorem Quiet.refl (world : World) : Quiet world world where
  sessions _ := .refl _
  nextSession := rfl
  nextRequest := rfl
  requests _ := .refl _
  desktop := rfl
  rolling _ := fun member => member
  told _ := rfl
  trace := .refl _

theorem Quiet.emit {event : Event} (aside : isSettling event = false)
    (others : ∀ id, isDone id event = false) :
    Quiet world (world.emit event) :=
  { Quiet.refl world with
    told := fun id => told_cons_other (others id)
    trace := (Adds.refl _).cons aside }

theorem Quiet.setRequest {request : XccRequest}
    (tied : Tied (world.requests id) request) :
    Quiet world (world.setRequest id request) :=
  { Quiet.refl world with
    requests := fun other => by
      show Tied _ (Function.update world.requests id request other)
      by_cases same : other = id
      · rw [same, Function.update_self]
        exact tied
      · rw [Function.update_of_ne same]
        exact .refl _ }

theorem Quiet.trans {last : World}
    (here : Quiet world next) (there : Quiet next last) :
    Quiet world last where
  sessions id := (here.sessions id).trans (there.sessions id)
  nextSession := there.nextSession.trans here.nextSession
  nextRequest := there.nextRequest.trans here.nextRequest
  requests id := (here.requests id).trans (there.requests id)
  desktop := there.desktop.trans here.desktop
  rolling id member := here.rolling id (there.rolling id member)
  told id := (there.told id).trans (here.told id)
  trace := here.trace.trans there.trace

theorem Quiet.steady (steady : Steady world next)
    (trace : Adds (fun event => isAside event = true) world.trace
      next.trace) : Quiet world next where
  sessions := steady.sessions
  nextSession := steady.nextSession
  nextRequest := steady.nextRequest
  requests id := Continues.tied (steady.requests id)
  desktop := steady.desktop
  rolling id member := steady.posts ▸ member
  told id := trace.countP fun event aside => by
    cases event <;> first | rfl | cases aside
  trace := trace.mono fun event aside => by
    cases event <;> first | rfl | cases aside

theorem quiet_nudge (nudge : Nudge world next) : Quiet world next :=
  .steady (Nudge.steady nudge) (aside_nudge nudge)

theorem quiet_complete (id : Nat) (error : XccErrorCode)
    (good : error = .ok → (world.requests id).kind ≠ .acquire) :
    Quiet world (xccRequestComplete world id error) := by
  rw [xccRequestComplete]
  dsimp only
  split_ifs with told
  · exact .refl _
  · have wrote : Quiet world (world.setRequest id
        { world.requests id with
          answered := true
          result := answerResult (world.requests id)
            (answerError world id error) }) := by
      refine .setRequest ⟨rfl, rfl, fun here => absurd here told, ?_⟩
      intro _ _ kind
      exact answerError_bad fun ok => good ok kind
    exact { wrote with }

theorem quiet_start (id : Nat) : Quiet world (startEnumeration world id) :=
  { @Quiet.setRequest world id
      { world.requests id with
        enumerating := true, enumerateAgain := false }
      (.plain rfl rfl rfl rfl) with
    told := fun _ => told_cons_other rfl
    trace := (Adds.refl _).cons rfl }

theorem quiet_landed (id enumeration : Nat) :
    Quiet world (landed world id enumeration) :=
  { @Quiet.setRequest world id
      { world.requests id with enumerating := false }
      (.plain rfl rfl rfl rfl) with }

theorem quiet_publish (id enumeration : Nat)
    (candidates : List CertificateCandidate) (tokensPresent : Bool) :
    Quiet world (publish world id enumeration candidates tokensPresent) := by
  rw [publish]
  split
  · exact { @Quiet.emit world (.published id enumeration candidates) rfl
      fun _ => rfl with }
  · exact
      { @Quiet.setRequest world id
          { world.requests id with chooser := some world.ui.nextChooser }
          (.plain rfl rfl rfl rfl) with
        told := fun _ => told_cons_other rfl
        trace := (Adds.refl _).cons rfl }

/-! ## The other moves -/

/-- A request that has just been made. -/
structure Blank (request : XccRequest) : Prop where
  candidate : request.candidate = none
  refused : request.answered = true → request.result.error ≠ .ok

/-- A request is made. -/
structure Made (world next : World) (request : XccRequest) : Prop where
  blank : Blank request
  requests : next.requests =
    Function.update world.requests world.nextRequest request
  nextRequest : next.nextRequest = world.nextRequest + 1
  sessions : next.sessions = world.sessions
  nextSession : next.nextSession = world.nextSession
  desktop : next.desktop = world.desktop
  rolling : ∀ id, .rollbackAcquisition id ∈ next.posts →
    .rollbackAcquisition id ∈ world.posts
  trace : next.trace = world.trace

/-- The moves that grants depend on. -/
inductive Settled (world : World) : World → Prop where
  | registered (spec : XccSessionSpec) :
      Settled world (sessionNewRegister world spec)
  | granted {id session : Nat} {candidate : CertificateCandidate}
      (answerable : Answerable world id)
      (completed : (world.requests id).chooserCompleted = true)
      (bound : (world.requests id).session = some session)
      (opened : (world.sessions session).closed = false)
      (wanted : Wanted world id) :
      Settled world
        (xccRequestComplete (grantRequest world id session candidate) id .ok)
  | rolledBack {id : Nat} {rest : List Post}
      (posts : world.posts = .rollbackAcquisition id :: rest) :
      Settled world (rollbackAcquisition { world with posts := rest } id)
  | reads {id : Nat} {rest : List Delivery} (idle : world.desktop = .idle)
      (queue : world.queue = .completion id :: rest) :
      Settled world (completionReads { world with queue := rest } id)
  | settles {id : Nat} (delivering : world.desktop = .delivering id) :
      Settled world (completionSettles world id)
  | calls {id : Nat} (calling : world.desktop = .calling id) :
      Settled world (completionCalls world id)

/-- A move touches no grant, makes a request, or is one of those that grants
depend on. -/
theorem quiet_move (move : Move world next) :
    Quiet world next ∨ (∃ request, Made world next request) ∨
      Settled world next := by
  cases move with
  | registered spec => exact .inr (.inr (.registered spec))
  | granted answerable completed bound opened wanted =>
      exact .inr (.inr (.granted answerable completed bound opened wanted))
  | rolledBack posts => exact .inr (.inr (.rolledBack posts))
  | reads idle queue => exact .inr (.inr (.reads idle queue))
  | settles delivering => exact .inr (.inr (.settles delivering))
  | calls calling => exact .inr (.inr (.calls calling))
  | scheduled asked principal bound running =>
      refine .inr (.inl
        ⟨_, ⟨rfl, fun told => Bool.noConfusion told⟩, rfl, rfl,
        rfl, rfl, rfl, fun id member => ?_, rfl⟩)
      rcases List.mem_append.mp member with old | new
      · exact old
      · cases List.mem_singleton.mp new
  | refused asked principal bad bound past =>
      exact .inr (.inl ⟨_, ⟨rfl, fun _ => bad⟩, rfl, rfl, rfl, rfl, rfl,
        fun _ member => member, rfl⟩)
  | nudge nudge => exact .inl (quiet_nudge nudge)
  | dispatched running =>
      exact .inl (dispatchPending_keeps running (Quiet world)
        (fun _ _ nudge quiet => quiet.trans (quiet_nudge nudge))
        (fun _ _ quiet => quiet.trans (.emit rfl fun _ => rfl))
        { Quiet.refl world with })
  | @regenerated value rest running posts =>
      have set : Quiet world
          ({ world with posts := rest, generation := value }.emit
            (.ownerGeneration value)) :=
        { @Quiet.emit world (.ownerGeneration value) rfl fun _ => rfl with
          rolling := fun id member => by
            rw [posts]
            exact List.mem_cons_of_mem _ member }
      have nudged :=
        @nudged_generation { world with posts := rest } running value
      exact .inl (set.trans
        (.steady (Nudged.steady nudged) (aside_nudged nudged)))
  | mailed post plain running =>
      refine .inl { Quiet.refl world with rolling := fun id member => ?_ }
      rcases List.mem_append.mp member with old | new
      · exact old
      · rw [← List.mem_singleton.mp new] at plain
        cases plain
  | opened plain posts =>
      refine .inl { Quiet.refl world with rolling := fun id member => ?_ }
      rw [posts]
      exact List.mem_cons_of_mem _ member
  | @validated id rest posts =>
      refine .inl
        { @Quiet.emit world (.validated id world.generation) rfl
            fun _ => rfl with
          rolling := fun id member => ?_ }
      rw [posts]
      exact List.mem_cons_of_mem _ member
  | acknowledged posts =>
      refine .inl { Quiet.refl world with rolling := fun id member => ?_ }
      rw [posts]
      exact List.mem_cons_of_mem _ member
  | @begun id => exact .inl (quiet_start id)
  | handed => exact .inl (.setRequest (.plain rfl rfl rfl rfl))
  | answered answerable good =>
      exact .inl (quiet_complete _ _ fun ok => (good ok).1)
  | landed => exact .inl (quiet_landed _ _)
  | restarted => exact .inl ((quiet_landed _ _).trans (quiet_start _))
  | published => exact .inl ((quiet_landed _ _).trans (quiet_publish ..))
  | @concluded ui id chooser reply chosen error ends fair =>
      have wrote := @Quiet.setRequest world id
        (conclude (world.requests id) chosen error) (by
          rw [conclude]
          split_ifs <;> exact .plain rfl rfl rfl rfl)
      exact .inl { wrote with
        told := fun _ => told_cons_other rfl
        trace := (Adds.refl _).cons rfl }
  | @uiTold ui aside waiting =>
      exact .inl { @Quiet.emit world .uiDelivered rfl fun _ => rfl with }
  | signed granted free => exact .inl (.emit rfl fun _ => rfl)
  | reported => exact .inl (.emit rfl fun _ => rfl)
  | invalidationTold idle queue =>
      exact .inl { @Quiet.emit world (.sessionInvalidated _ _) rfl
        fun _ => rfl with }
  | shutdownTold idle queue =>
      exact .inl { @Quiet.emit world .shutdownDone rfl fun _ => rfl with }
  | shut ready =>
      rw [xccContextCheckShutdown, if_pos ready]
      exact .inl { Quiet.refl world with }
  | outside => exact .inl { Quiet.refl world with }

end PortalCertificate.Context.Grants
