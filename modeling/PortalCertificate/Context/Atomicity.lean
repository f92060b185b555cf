import PortalCertificate.Context.Turns
import PortalCertificate.Context.Steps

/-!
# Grants and their deliveries

A client that is told of a success has a grant, and a client that is told of
an error has none: a grant that has been vetoed is taken back before its
client is called.  A grant is not used before its delivery has begun, and
after that it does not change.
-/

namespace PortalCertificate.Context.Atomicity

open PortalCertificate.Broker.Operations (Grant)
open PortalCertificate.Context.Accounts
open PortalCertificate.Context.Acquire
open PortalCertificate.Context.Callbacks
open PortalCertificate.Context.Completion
open PortalCertificate.Context.Deliveries
open PortalCertificate.Context.Floors
open PortalCertificate.Context.Grants
open PortalCertificate.Context.Lasting
open PortalCertificate.Context.Machine
open PortalCertificate.Context.Moves
open PortalCertificate.Context.Nudges
open PortalCertificate.Context.Requests
open PortalCertificate.Context.Sessions
open PortalCertificate.Context.Starts
open PortalCertificate.Context.Steps
open PortalCertificate.Context.Turns
open PortalCertificate.Core.Coordinator (XccErrorCode)
open PortalCertificate.Core.Principals
  (XccSessionSpec sizeofXccSessionSpec xccAbiVersion)
open PortalCertificate.Core.RowIdentities (exampleCandidate)
open PortalCertificate.Core.Specs
  (XccAcquireSpec XccSignSpec sizeofXccBytes sizeofXccSignSpec)
open PortalCertificate.Library.Trace
open PortalCertificate.Library.Transition
open PortalCertificate.Tokens.Discovery

variable {world next : World} {id session : Nat}
  {candidate : CertificateCandidate}

/-! ## The invariant -/

/-- A request that holds the grant of its session. -/
structure Holding
    (world : World) (id session : Nat) (candidate : CertificateCandidate) :
    Prop where
  born : id < world.nextRequest
  kind : (world.requests id).kind = .acquire
  answered : (world.requests id).answered = true
  bound : (world.requests id).session = some session
  held : Held id session candidate world.trace
  given : Given (world.requests id) candidate (world.sessions session)

/-- A session is granted just while one request holds its grant, with the
candidate that was chosen. -/
structure Granting (world : World) : Prop where
  vacant : ∀ session, (world.sessions session).rest.granted = false →
    Vacant (world.sessions session)
  holding : ∀ id candidate,
    (world.requests id).candidate = some candidate →
    ∃ session, Holding world id session candidate
  holder : ∀ session, (world.sessions session).rest.granted = true →
    ∃ id candidate, (world.requests id).session = some session ∧
      (world.requests id).candidate = some candidate
  back : ∀ id session candidate, Held id session candidate world.trace →
    (world.requests id).candidate = some candidate
  taken : ∀ id session candidate,
    .granted id session candidate ∈ world.trace →
    id < world.nextRequest ∧ (world.requests id).session = some session ∧
      ((world.requests id).candidate = some candidate ∨
        .rolledBack id ∈ world.trace)
  success : ∀ id, (world.requests id).kind = .acquire →
    (world.requests id).answered = true →
    (world.requests id).result.error = .ok →
    (world.requests id).candidate.isSome = true
  owed : ∀ id, (world.requests id).candidate.isSome = true →
    (world.requests id).result.error ≠ .ok →
    told world.trace id = 0 ∧ world.desktop ≠ .calling id
  rolling : ∀ id, .rollbackAcquisition id ∈ world.posts →
    (world.requests id).candidate.isSome = true ∧
      (world.requests id).result.error ≠ .ok
  desk : ∀ id session candidate, world.desktop = .delivering id →
    (world.requests id).session = some session →
    (world.requests id).candidate = some candidate →
    Reported id session candidate (world.requests id).result.error
      world.trace
  free : ∀ session, (world.sessions session).rest.granted = true →
    (world.sessions session).rest.grantPending = false →
    ∃ id candidate, Reported id session candidate .ok world.trace
  absent : ∀ session, world.nextSession ≤ session →
    (world.sessions session).closed = true ∧
      (world.sessions session).rest.granted = false

/-- A grant that is on record is held by its request. -/
theorem Granting.holds (granting : Granting world)
    (held : Held id session candidate world.trace) :
    Holding world id session candidate := by
  have here := granting.back id session candidate held
  have bound := (granting.taken id session candidate
    (Since.start_mem held)).2.1
  rcases granting.holding id candidate here with ⟨shared, holding⟩
  rw [holding.bound] at bound
  cases bound
  exact holding

/-! ## Moves that leave the grants alone -/

theorem Holding.quiet (holding : Holding world id session candidate)
    (quiet : Quiet world next) : Holding next id session candidate := by
  have tied := quiet.requests id
  exact
    { born := quiet.nextRequest ▸ holding.born
      kind := (congrArg Asked.kind tied.asked).trans holding.kind
      answered := (tied.kept holding.answered).1
      bound := (congrArg Asked.session tied.asked).trans holding.bound
      held := holding.held.adds quiet.trace
      given := holding.given.kept tied.asked (quiet.sessions session) }

theorem granting_quiet (granting : Granting world)
    (quiet : Quiet world next) : Granting next := by
  have candidates (id : Nat) := (quiet.requests id).candidate
  have granted (session : Nat) :
      (next.sessions session).rest.granted =
        (world.sessions session).rest.granted :=
    congrArg Grant.granted (quiet.sessions session).grant
  have pending (session : Nat) :
      (next.sessions session).rest.grantPending =
        (world.sessions session).rest.grantPending :=
    congrArg Grant.grantPending (quiet.sessions session).grant
  have asked (id : Nat) := (quiet.requests id).asked
  have errors {id : Nat} (some : (world.requests id).candidate.isSome =
      true) : (next.requests id).result.error =
        (world.requests id).result.error := by
    rcases Option.isSome_iff_exists.mp some with ⟨candidate, here⟩
    rcases granting.holding id candidate here with ⟨session, holding⟩
    exact ((quiet.requests id).kept holding.answered).2
  refine
    { vacant := ?_, holding := ?_, holder := ?_, back := ?_, taken := ?_
      success := ?_, owed := ?_, rolling := ?_, desk := ?_, free := ?_
      absent := ?_ }
  · intro session none
    rw [granted] at none
    exact (granting.vacant session none).kept (quiet.sessions session)
  · intro id candidate here
    rw [candidates] at here
    rcases granting.holding id candidate here with ⟨session, holding⟩
    exact ⟨session, holding.quiet quiet⟩
  · intro session some
    rw [granted] at some
    rcases granting.holder session some with ⟨id, candidate, bound, here⟩
    exact ⟨id, candidate,
      (congrArg Asked.session (asked id)).trans bound,
      (candidates id).trans here⟩
  · intro id session candidate held
    exact (candidates id).trans
      (granting.back id session candidate (held.of_adds quiet.trace))
  · intro id session candidate member
    have old := (quiet.trace.mem member).resolve_left Bool.noConfusion
    have before := granting.taken id session candidate old
    rw [quiet.nextRequest, candidates]
    exact ⟨before.1,
      (congrArg Asked.session (asked id)).trans before.2.1,
      before.2.2.imp_right quiet.trace.subset⟩
  · intro id kind answered ok
    rw [show (next.requests id).kind = (world.requests id).kind from
      congrArg Asked.kind (asked id)] at kind
    rw [candidates]
    cases before : (world.requests id).answered with
    | true =>
        have kept := ((quiet.requests id).kept before).2
        exact granting.success id kind before (kept.symm.trans ok)
    | false =>
        exact absurd ok
          ((quiet.requests id).refused before answered kind)
  · intro id some bad
    rw [candidates] at some
    rw [errors some] at bad
    rw [quiet.told, quiet.desktop]
    exact granting.owed id some bad
  · intro id member
    have before := granting.rolling id (quiet.rolling id member)
    rw [candidates, errors before.1]
    exact before
  · intro id session candidate delivering bound here
    rw [quiet.desktop] at delivering
    rw [candidates] at here
    rw [errors (by rw [here]; rfl)]
    have before := (congrArg Asked.session (asked id)).symm.trans bound
    exact (granting.desk id session candidate delivering before here).adds
      quiet.trace
  · intro session some free
    rw [granted] at some
    rw [pending] at free
    rcases granting.free session some free with ⟨id, candidate, reported⟩
    exact ⟨id, candidate, reported.adds quiet.trace⟩
  · intro session past
    rw [quiet.nextSession] at past
    have before := granting.absent session past
    rw [granted]
    exact ⟨(quiet.sessions session).closed before.1, before.2⟩

/-! ## Requests are made -/

theorem granting_made {request : XccRequest} (granting : Granting world)
    (made : Made world next request) : Granting next := by
  have other {id : Nat} (born : id < world.nextRequest) :
      next.requests id = world.requests id := by
    rw [made.requests]
    exact Function.update_of_ne born.ne ..
  have old {id : Nat} (some : (next.requests id).candidate.isSome = true) :
      next.requests id = world.requests id := by
    rw [made.requests] at some ⊢
    by_cases new : id = world.nextRequest
    · rw [new, Function.update_self, made.blank.candidate] at some
      cases some
    · rw [Function.update_of_ne new]
  have born {id : Nat} (some : (world.requests id).candidate.isSome = true) :
      id < world.nextRequest := by
    rcases Option.isSome_iff_exists.mp some with ⟨candidate, here⟩
    rcases granting.holding id candidate here with ⟨session, holding⟩
    exact holding.born
  have holds {id session : Nat} {candidate : CertificateCandidate}
      (holding : Holding world id session candidate) :
      Holding next id session candidate :=
    { born := by
        rw [made.nextRequest]
        exact holding.born.trans (Nat.lt_succ_self _)
      kind := (other holding.born).symm ▸ holding.kind
      answered := (other holding.born).symm ▸ holding.answered
      bound := (other holding.born).symm ▸ holding.bound
      held := made.trace.symm ▸ holding.held
      given := by
        rw [made.sessions, other holding.born]
        exact holding.given }
  refine
    { vacant := ?_, holding := ?_, holder := ?_, back := ?_, taken := ?_
      success := ?_, owed := ?_, rolling := ?_, desk := ?_, free := ?_
      absent := ?_ }
  · rw [made.sessions]
    exact granting.vacant
  · intro id candidate here
    rw [old (by rw [here]; rfl)] at here
    rcases granting.holding id candidate here with ⟨session, holding⟩
    exact ⟨session, holds holding⟩
  · rw [made.sessions]
    intro session some
    rcases granting.holder session some with ⟨id, candidate, bound, here⟩
    refine ⟨id, candidate, ?_⟩
    rw [other (born (by rw [here]; rfl))]
    exact ⟨bound, here⟩
  · rw [made.trace]
    intro id session candidate held
    have before := granting.back id session candidate held
    rw [other (born (by rw [before]; rfl))]
    exact before
  · rw [made.trace, made.nextRequest]
    intro id session candidate member
    have before := granting.taken id session candidate member
    rw [other before.1]
    exact ⟨before.1.trans (Nat.lt_succ_self _), before.2⟩
  · rw [made.requests]
    intro id kind answered ok
    by_cases new : id = world.nextRequest
    · rw [new, Function.update_self] at answered ok
      exact absurd ok (made.blank.refused answered)
    · rw [Function.update_of_ne new] at kind answered ok ⊢
      exact granting.success id kind answered ok
  · intro id some bad
    rw [made.trace, made.desktop]
    have same := old some
    rw [same] at some bad
    exact granting.owed id some bad
  · intro id member
    have before := granting.rolling id (made.rolling id member)
    rw [other (born before.1)]
    exact before
  · intro id session candidate delivering bound here
    rw [made.desktop] at delivering
    have same := old (by rw [here]; rfl)
    rw [same] at bound here ⊢
    rw [made.trace]
    exact granting.desk id session candidate delivering bound here
  · rw [made.sessions, made.trace]
    exact granting.free
  · rw [made.sessions, made.nextSession]
    exact granting.absent

/-! ## A session is registered -/

theorem granting_registered (granting : Granting world)
    (spec : XccSessionSpec) : Granting (sessionNewRegister world spec) := by
  rw [sessionNewRegister]
  split_ifs
  · exact granting
  · have apart {session : Nat}
        (some : (world.sessions session).rest.granted = true) :
        session ≠ world.nextSession := by
      rintro rfl
      rw [(granting.absent _ (Nat.le_refl _)).2] at some
      cases some
    have old {session : Nat} (ne : session ≠ world.nextSession)
        (written : Session) :
        Function.update world.sessions world.nextSession written session =
          world.sessions session := Function.update_of_ne ne ..
    refine { granting with
      vacant := ?_, holding := ?_, holder := ?_, free := ?_, absent := ?_ }
    · intro session none
      dsimp only [World.setSession] at none ⊢
      by_cases new : session = world.nextSession
      · rw [new, Function.update_self]
        exact ⟨rfl, rfl, rfl, rfl, rfl⟩
      · rw [old new] at none ⊢
        exact granting.vacant session none
    · intro id candidate here
      rcases granting.holding id candidate here with ⟨session, holding⟩
      refine ⟨session, { holding with given := ?_ }⟩
      dsimp only [World.setSession]
      rw [old (apart holding.given.granted)]
      exact holding.given
    · intro session some
      dsimp only [World.setSession] at some
      by_cases new : session = world.nextSession
      · rw [new, Function.update_self] at some
        cases some
      · rw [old new] at some
        exact granting.holder session some
    · intro session some free
      dsimp only [World.setSession] at some free
      by_cases new : session = world.nextSession
      · rw [new, Function.update_self] at some
        cases some
      · rw [old new] at some free
        exact granting.free session some free
    · intro session past
      dsimp only [World.setSession] at past ⊢
      rw [old (Nat.lt_of_succ_le past).ne']
      exact granting.absent session (Nat.le_of_succ_le past)

/-! ## A grant is made -/

/-- The grant of a request, with its answer. -/
structure Grants
    (world next : World) (id session : Nat)
    (candidate : CertificateCandidate) : Prop where
  requests : ∃ request,
    next.requests = Function.update world.requests id request ∧
      request.toAsked = (world.requests id).toAsked ∧
      request.candidate = some candidate ∧ request.answered = true ∧
      request.result.error = .ok
  sessions : ∃ written,
    next.sessions = Function.update world.sessions session written ∧
      Given (world.requests id) candidate written ∧
      written.rest.grantPending = true ∧
      written.closed = (world.sessions session).closed
  trace : next.trace = .granted id session candidate :: world.trace
  nextRequest : next.nextRequest = world.nextRequest
  nextSession : next.nextSession = world.nextSession
  posts : next.posts = world.posts
  desktop : next.desktop = world.desktop

theorem grants_granted
    (unanswered : (world.requests id).answered = false)
    (wanted : Wanted world id) :
    Grants world
      (xccRequestComplete (grantRequest world id session candidate) id .ok)
      id session candidate := by
  have waits : ((grantRequest world id session candidate).requests
      id).answered = false := by
    rw [grantRequest_self]
    exact unanswered
  have error : answerError (grantRequest world id session candidate) id .ok =
      .ok := by
    rw [answerError, grantRequest_self]
    dsimp only
    rw [if_neg (fun bad => bad wanted.code)]
    exact if_neg (Bool.eq_false_iff.mp wanted.cancelled)
  rw [xccRequestComplete_open waits, error]
  exact
    { requests := by
        refine ⟨_, Function.update_idem .., ?_⟩
        rw [grantRequest_self]
        exact ⟨rfl, rfl, rfl, rfl⟩
      sessions := ⟨_, rfl, ⟨rfl, rfl, rfl, rfl, rfl, rfl, rfl, _, rfl⟩,
        rfl, rfl⟩
      trace := rfl
      nextRequest := rfl
      nextSession := rfl
      posts := rfl
      desktop := rfl }

theorem granting_grants (granting : Granting world)
    (grants : Grants world next id session candidate)
    (unanswered : (world.requests id).answered = false)
    (born : id < world.nextRequest)
    (kind : (world.requests id).kind = .acquire)
    (bound : (world.requests id).session = some session)
    (opened : (world.sessions session).closed = false)
    (fresh : (world.sessions session).rest.granted = false)
    (located : Located world) : Granting next := by
  rcases grants.requests with
    ⟨request, requests, asked, holds, answered, ok⟩
  rcases grants.sessions with ⟨written, sessions, given, pending, closed⟩
  have here : next.requests id = request := by
    rw [requests, Function.update_self]
  have there : next.sessions session = written := by
    rw [sessions, Function.update_self]
  have others {other : Nat} (ne : other ≠ id) :
      next.requests other = world.requests other := by
    rw [requests, Function.update_of_ne ne]
  have elsewhere {other : Nat} (ne : other ≠ session) :
      next.sessions other = world.sessions other := by
    rw [sessions, Function.update_of_ne ne]
  -- neither a candidate nor another grant is overwritten
  have apart {other shared : Nat} {held : CertificateCandidate}
      (holding : Holding world other shared held) :
      other ≠ id ∧ shared ≠ session := by
    constructor
    · rintro rfl
      have told := holding.answered
      rw [unanswered] at told
      cases told
    · rintro rfl
      have some := holding.given.granted
      rw [fresh] at some
      cases some
  have other_of {other : Nat} {held : CertificateCandidate}
      (some : (world.requests other).candidate = some held) :
      other ≠ id := by
    rcases granting.holding other held some with ⟨_, holding⟩
    exact (apart holding).1
  have quiet {other shared : Nat} (ne : shared ≠ session) :
      Undisturbed other shared (.granted id session candidate) := by
    refine ⟨Event.noConfusion, ?_⟩
    rintro _ _ ⟨⟩
    exact ne rfl
  refine
    { vacant := ?_, holding := ?_, holder := ?_, back := ?_, taken := ?_
      success := ?_, owed := ?_, rolling := ?_, desk := ?_, free := ?_
      absent := ?_ }
  · intro shared none
    by_cases same : shared = session
    · rw [same, there, given.granted] at none
      cases none
    · rw [elsewhere same] at none ⊢
      exact granting.vacant shared none
  · intro other held some
    by_cases same : other = id
    · subst same
      rw [here, holds] at some
      cases some
      refine ⟨session, ?_⟩
      exact
        { born := grants.nextRequest ▸ born
          kind := by
            rw [here]
            exact (congrArg Asked.kind asked).trans kind
          answered := by rw [here, answered]
          bound := by
            rw [here]
            exact (congrArg Asked.session asked).trans bound
          held := by
            rw [grants.trace]
            exact since_now trivial
          given := by
            rw [here, there]
            exact given.kept asked (.refl _) }
    · rw [others same] at some
      rcases granting.holding other held some with ⟨shared, holding⟩
      have ne := (apart holding).2
      refine ⟨shared, ?_⟩
      exact
        { born := grants.nextRequest ▸ holding.born
          kind := (others same).symm ▸ holding.kind
          answered := (others same).symm ▸ holding.answered
          bound := (others same).symm ▸ holding.bound
          held := by
            rw [grants.trace]
            exact Since.cons holding.held (quiet ne)
          given := by
            rw [others same, elsewhere ne]
            exact holding.given }
  · intro shared some
    by_cases same : shared = session
    · refine ⟨id, candidate, ?_, by rw [here, holds]⟩
      rw [here, same]
      exact (congrArg Asked.session asked).trans bound
    · rw [elsewhere same] at some
      rcases granting.holder shared some with ⟨other, held, shares, with_⟩
      refine ⟨other, held, ?_⟩
      rw [others (other_of with_)]
      exact ⟨shares, with_⟩
  · rw [grants.trace]
    intro other shared held since
    rcases Since.uncons since with ⟨same, -⟩ | ⟨-, since⟩
    · cases same
      rw [here, holds]
    · have before := granting.back other shared held since
      rw [others (other_of before)]
      exact before
  · rw [grants.trace, grants.nextRequest]
    intro other shared held member
    rcases List.mem_cons.mp member with same | old
    · cases same
      rw [here, holds]
      exact ⟨born, (congrArg Asked.session asked).trans bound, .inl rfl⟩
    · have before := granting.taken other shared held old
      refine ⟨before.1, ?_, ?_⟩
      · by_cases same : other = id
        · rw [same] at before ⊢
          rw [here]
          exact (congrArg Asked.session asked).trans before.2.1
        · rw [others same]
          exact before.2.1
      · rcases before.2.2 with some | rolled
        · rw [others (other_of some)]
          exact .inl some
        · exact .inr (List.mem_cons_of_mem _ rolled)
  · intro other kinds told good
    by_cases same : other = id
    · rw [same, here, holds]
      rfl
    · rw [others same] at kinds told good ⊢
      exact granting.success other kinds told good
  · rw [grants.trace, grants.desktop]
    intro other some bad
    by_cases same : other = id
    · rw [same, here] at bad
      exact absurd ok bad
    · rw [others same] at some bad
      rw [told_cons_other rfl]
      exact granting.owed other some bad
  · rw [grants.posts]
    intro other member
    have before := granting.rolling other member
    rcases Option.isSome_iff_exists.mp before.1 with ⟨held, some⟩
    rw [others (other_of some)]
    exact before
  · rw [grants.desktop, grants.trace]
    intro other shared held delivering shares some
    have told := (located.answered_of_desk (by
      rw [delivering, desk, if_pos rfl] : Accounts.desk world.desktop
        other = 1)).1
    have same : other ≠ id := by
      rintro rfl
      rw [unanswered] at told
      cases told
    rw [others same] at shares some ⊢
    rcases granting.holding other held some with ⟨bound', holding⟩
    have ne := (apart holding).2
    rw [holding.bound] at shares
    cases shares
    exact (granting.desk other shared held delivering holding.bound
      some).cons (quiet ne)
  · intro shared some free
    by_cases same : shared = session
    · rw [same, there, pending] at free
      cases free
    · rw [elsewhere same] at some free
      rcases granting.free shared some free with ⟨other, held, reported⟩
      refine ⟨other, held, ?_⟩
      rw [grants.trace]
      exact reported.cons (quiet same)
  · rw [grants.nextSession]
    intro shared past
    have before := granting.absent shared past
    have same : shared ≠ session := by
      rintro rfl
      rw [opened] at before
      cases before.1
    rw [elsewhere same]
    exact before

/-! ## A grant is taken back -/

/-- The rollback of the grant of a request. -/
structure TakesBack (world next : World) (id session : Nat) : Prop where
  requests : next.requests = Function.update world.requests id
    { world.requests id with candidate := none }
  sessions : next.sessions = Function.update world.sessions session
    (rolledBack (world.sessions session))
  trace : next.trace = .rolledBack id :: world.trace
  nextRequest : next.nextRequest = world.nextRequest
  nextSession : next.nextSession = world.nextSession
  posts : world.posts = .rollbackAcquisition id :: next.posts
  desktop : next.desktop = world.desktop

theorem takesBack_rolledBack {rest : List Post}
    (bound : (world.requests id).session = some session)
    (posts : world.posts = .rollbackAcquisition id :: rest) :
    TakesBack world (rollbackAcquisition { world with posts := rest } id) id
      session := by
  rw [rollbackAcquisition, bound]
  exact ⟨rfl, rfl, rfl, rfl, rfl, posts, rfl⟩

theorem granting_takesBack (granting : Granting world)
    (back : TakesBack world next id session)
    (holding : Holding world id session candidate)
    (bad : (world.requests id).result.error ≠ .ok)
    (located : Located world) : Granting next := by
  have count : world.posts.count (.rollbackAcquisition id) =
      next.posts.count (.rollbackAcquisition id) + 1 := by
    rw [back.posts, List.count_cons_self]
  -- the rollback is the only place of the answer
  have balance := located.balance id
  rw [holding.answered, count] at balance
  have others {other : Nat} (ne : other ≠ id) :
      next.requests other = world.requests other := by
    rw [back.requests, Function.update_of_ne ne]
  have elsewhere {shared : Nat} (ne : shared ≠ session) :
      next.sessions shared = world.sessions shared := by
    rw [back.sessions, Function.update_of_ne ne]
  have cleared : (next.requests id).candidate = none := by
    rw [back.requests, Function.update_self]
  have closed (shared : Nat) :
      (next.sessions shared).closed = (world.sessions shared).closed := by
    rw [back.sessions]
    by_cases same : shared = session
    · rw [same, Function.update_self]
      rfl
    · rw [Function.update_of_ne same]
  have other_of {other : Nat} (some : (next.requests other).candidate.isSome =
      true) : other ≠ id := by
    rintro rfl
    rw [cleared] at some
    cases some
  -- what another request holds is another grant
  have apart {other shared : Nat} {held : CertificateCandidate}
      (here : Holding world other shared held) (ne : other ≠ id) :
      shared ≠ session := by
    rintro rfl
    exact ne (Held.unique here.held holding.held).1
  have quiet {other shared : Nat} (ne : other ≠ id) :
      Undisturbed other shared (.rolledBack id) := by
    refine ⟨?_, fun _ _ => Event.noConfusion⟩
    rintro ⟨⟩
    exact ne rfl
  refine
    { vacant := ?_, holding := ?_, holder := ?_, back := ?_, taken := ?_
      success := ?_, owed := ?_, rolling := ?_, desk := ?_, free := ?_
      absent := ?_ }
  · intro shared none
    by_cases same : shared = session
    · rw [same, back.sessions, Function.update_self]
      exact vacant_rolledBack _
    · rw [elsewhere same] at none ⊢
      exact granting.vacant shared none
  · intro other held some
    have ne := other_of (by rw [some]; rfl)
    rw [others ne] at some
    rcases granting.holding other held some with ⟨shared, here⟩
    refine ⟨shared, ?_⟩
    exact
      { born := back.nextRequest ▸ here.born
        kind := (others ne).symm ▸ here.kind
        answered := (others ne).symm ▸ here.answered
        bound := (others ne).symm ▸ here.bound
        held := by
          rw [back.trace]
          exact Since.cons here.held (quiet ne)
        given := by
          rw [others ne, elsewhere (apart here ne)]
          exact here.given }
  · intro shared some
    have same : shared ≠ session := by
      rintro rfl
      rw [back.sessions, Function.update_self] at some
      cases some
    rw [elsewhere same] at some
    rcases granting.holder shared some with ⟨other, held, shares, with_⟩
    have ne : other ≠ id := by
      rintro rfl
      rw [holding.bound] at shares
      cases shares
      exact same rfl
    refine ⟨other, held, ?_⟩
    rw [others ne]
    exact ⟨shares, with_⟩
  · rw [back.trace]
    intro other shared held since
    rcases Since.uncons since with ⟨same, -⟩ | ⟨still, since⟩
    · cases same
    · have ne : other ≠ id := by
        rintro rfl
        exact still.1 rfl
      rw [others ne]
      exact granting.back other shared held since
  · rw [back.trace, back.nextRequest]
    intro other shared held member
    rcases List.mem_cons.mp member with same | old
    · cases same
    · have before := granting.taken other shared held old
      refine ⟨before.1, ?_⟩
      by_cases same : other = id
      · rw [same] at before ⊢
        refine ⟨?_, .inr (List.mem_cons_self ..)⟩
        rw [back.requests, Function.update_self]
        exact before.2.1
      · rw [others same]
        exact before.2.imp_right (Or.imp_right (List.mem_cons_of_mem _))
  · intro other kinds told good
    by_cases same : other = id
    · rw [same, back.requests, Function.update_self] at good
      exact absurd good bad
    · rw [others same] at kinds told good ⊢
      exact granting.success other kinds told good
  · rw [back.trace, back.desktop]
    intro other some wrong
    have ne := other_of some
    rw [others ne] at some wrong
    rw [told_cons_other rfl]
    exact granting.owed other some wrong
  · intro other member
    have ne : other ≠ id := by
      rintro rfl
      have := List.count_pos_iff.mpr member
      rw [Bool.toNat_true] at balance
      omega
    rw [others ne]
    refine granting.rolling other ?_
    rw [back.posts]
    exact List.mem_cons_of_mem _ member
  · rw [back.desktop, back.trace]
    intro other shared held delivering shares some
    have ne := other_of (by rw [some]; rfl)
    rw [others ne] at shares some ⊢
    exact (granting.desk other shared held delivering shares some).cons
      (quiet ne)
  · intro shared some free
    have same : shared ≠ session := by
      rintro rfl
      rw [back.sessions, Function.update_self] at some
      cases some
    rw [elsewhere same] at some free
    rcases granting.free shared some free with ⟨other, held, reported⟩
    refine ⟨other, held, ?_⟩
    rw [back.trace]
    refine reported.cons (quiet ?_)
    rintro rfl
    have bound := (granting.holds reported.held).bound
    rw [holding.bound] at bound
    cases bound
    exact same rfl
  · rw [back.nextSession]
    intro shared past
    have before := granting.absent shared past
    refine ⟨(closed shared).trans before.1, ?_⟩
    by_cases same : shared = session
    · rw [same, back.sessions, Function.update_self]
      rfl
    · rw [elsewhere same]
      exact before.2

/-! ## Deliveries -/

/-- A delivery has begun. -/
structure Reads (world next : World) (id : Nat) : Prop where
  requests : next.requests = Function.update world.requests id
    { world.requests id with result := readResult (world.requests id) }
  sessions : next.sessions = world.sessions
  trace : next.trace =
    .delivering id (world.requests id).cancelIntent
      (readResult (world.requests id)).error :: world.trace
  nextRequest : next.nextRequest = world.nextRequest
  nextSession : next.nextSession = world.nextSession
  posts : next.posts = world.posts
  desktop : next.desktop = .delivering id

theorem granting_reads (granting : Granting world) (located : Located world)
    (reads : Reads world next id) (queued : .completion id ∈ world.queue) :
    Granting next := by
  have place := located.answered_of_queue queued
  have elsewhere {other : Nat} (ne : other ≠ id) :
      next.requests other = world.requests other := by
    rw [reads.requests, Function.update_of_ne ne]
  have kept (other : Nat) :
      (next.requests other).toAsked = (world.requests other).toAsked ∧
        (next.requests other).candidate =
          (world.requests other).candidate ∧
        (next.requests other).answered =
          (world.requests other).answered := by
    by_cases same : other = id
    · rw [same, reads.requests, Function.update_self]
      exact ⟨rfl, rfl, rfl⟩
    · rw [elsewhere same]
      exact ⟨rfl, rfl, rfl⟩
  have asked (other : Nat) := (kept other).1
  have candidates (other : Nat) := (kept other).2.1
  have answered (other : Nat) := (kept other).2.2
  have result : (next.requests id).result =
      readResult (world.requests id) := by
    rw [reads.requests, Function.update_self]
  have quiet {other shared : Nat} {intent : Option XccCancelReason}
      {error : XccErrorCode} :
      Undisturbed other shared (.delivering id intent error) :=
    ⟨Event.noConfusion, fun _ _ => Event.noConfusion⟩
  have holds {other shared : Nat} {held : CertificateCandidate}
      (holding : Holding world other shared held) :
      Holding next other shared held :=
    { born := reads.nextRequest ▸ holding.born
      kind := (congrArg Asked.kind (asked other)).trans holding.kind
      answered := (answered other).trans holding.answered
      bound := (congrArg Asked.session (asked other)).trans holding.bound
      held := by
        rw [reads.trace]
        exact Since.cons holding.held quiet
      given := by
        rw [reads.sessions]
        exact holding.given.kept (asked other) (.refl _) }
  refine
    { vacant := ?_, holding := ?_, holder := ?_, back := ?_, taken := ?_
      success := ?_, owed := ?_, rolling := ?_, desk := ?_, free := ?_
      absent := ?_ }
  · rw [reads.sessions]
    exact granting.vacant
  · intro other held some
    rw [candidates] at some
    rcases granting.holding other held some with ⟨shared, holding⟩
    exact ⟨shared, holds holding⟩
  · rw [reads.sessions]
    intro shared some
    rcases granting.holder shared some with ⟨other, held, bound, here⟩
    exact ⟨other, held, (congrArg Asked.session (asked other)).trans bound,
      (candidates other).trans here⟩
  · rw [reads.trace]
    intro other shared held since
    rcases Since.uncons since with ⟨same, -⟩ | ⟨-, since⟩
    · cases same
    · exact (candidates other).trans (granting.back other shared held since)
  · rw [reads.trace, reads.nextRequest]
    intro other shared held member
    rcases List.mem_cons.mp member with same | old
    · cases same
    · have before := granting.taken other shared held old
      rw [candidates]
      exact ⟨before.1,
        (congrArg Asked.session (asked other)).trans before.2.1,
        before.2.2.imp_right (List.mem_cons_of_mem _)⟩
  · intro other kind told ok
    have before := granting.success other
      ((congrArg Asked.kind (asked other)).symm.trans kind)
      ((answered other).symm.trans told)
    rw [candidates]
    apply before
    by_cases same : other = id
    · rw [same, result] at ok
      rw [same]
      exact (readResult_ok ok).2
    · rw [elsewhere same] at ok
      exact ok
  · rw [reads.trace, reads.desktop]
    intro other some bad
    refine ⟨(told_cons_other rfl).trans ?_, Desktop.noConfusion⟩
    by_cases same : other = id
    · rw [same]
      exact place.2.2.2
    · rw [elsewhere same] at some bad
      exact (granting.owed other some bad).1
  · rw [reads.posts]
    intro other member
    have same : other ≠ id := by
      rintro rfl
      exact absurd (List.count_pos_iff.mpr member)
        (Nat.not_lt.mpr place.2.2.1.le)
    rw [elsewhere same]
    exact granting.rolling other member
  · rw [reads.desktop, reads.trace]
    rintro other shared held ⟨⟩ bound some
    rcases granting.holding id held ((candidates id).symm.trans some) with
      ⟨shared', holding⟩
    have same := (holds holding).bound.symm.trans bound
    cases same
    rw [result]
    exact ⟨[], (world.requests id).cancelIntent, world.trace, rfl,
      by simp, holding.held⟩
  · rw [reads.sessions, reads.trace]
    intro shared some free
    rcases granting.free shared some free with ⟨other, held, reported⟩
    exact ⟨other, held, reported.cons quiet⟩
  · rw [reads.sessions, reads.nextSession]
    exact granting.absent

/-- The desktop posts the rollback. -/
theorem granting_vetoed (granting : Granting world)
    (some : (world.requests id).candidate.isSome = true)
    (bad : (world.requests id).result.error ≠ .ok) :
    Granting
      { world with
        posts := world.posts ++ [.rollbackAcquisition id]
        desktop := .idle } :=
  { granting with
    holding := fun other held some => by
      rcases granting.holding other held some with ⟨shared, holding⟩
      exact ⟨shared, { holding with }⟩
    owed := fun other some bad =>
      ⟨(granting.owed other some bad).1, Desktop.noConfusion⟩
    rolling := fun other member => by
      rcases List.mem_append.mp member with old | new
      · exact granting.rolling other old
      · cases List.mem_singleton.mp new
        exact ⟨some, bad⟩
    desk := fun _ _ _ delivering => Desktop.noConfusion delivering }

/-- The desktop turns to a callback that owes no rollback. -/
theorem granting_turns (granting : Granting world)
    (clear : (world.requests id).candidate.isSome = true →
      (world.requests id).result.error = .ok) :
    Granting { world with desktop := .calling id } :=
  { granting with
    holding := fun other held some => by
      rcases granting.holding other held some with ⟨shared, holding⟩
      exact ⟨shared, { holding with }⟩
    owed := fun other some bad => by
      refine ⟨(granting.owed other some bad).1, ?_⟩
      rintro ⟨⟩
      exact bad (clear some)
    desk := fun _ _ _ delivering => Desktop.noConfusion delivering }

/-- The session of a grant without the mark of its delivery. -/
def delivered (session : Session) : Session :=
  { session with rest := { session.rest with grantPending := false } }

theorem granting_freed (granting : Granting world)
    (reported : Reported id session candidate .ok world.trace) :
    Granting (world.setSession session
      (delivered (world.sessions session))) := by
  have kept {Value : Type} (field : Session → Value)
      (same : ∀ session, field (delivered session) = field session)
      (shared : Nat) :
      field (Function.update world.sessions session
        (delivered (world.sessions session)) shared) =
          field (world.sessions shared) := by
    by_cases here : shared = session
    · rw [here, Function.update_self, same]
    · rw [Function.update_of_ne here]
  have granted := kept (fun session => session.rest.granted) fun _ => rfl
  refine { granting with
    vacant := ?_, holding := ?_, holder := ?_, free := ?_, absent := ?_ }
  · intro shared none
    have before := granting.vacant shared ((granted shared).symm.trans none)
    have apart : shared ≠ session := by
      rintro rfl
      have some := (granting.holds reported.held).given.granted
      rw [before.granted] at some
      cases some
    show Vacant (Function.update world.sessions session _ shared)
    rw [Function.update_of_ne apart]
    exact before
  · intro other held some
    rcases granting.holding other held some with ⟨shared, holding⟩
    refine ⟨shared, { holding with given := ?_ }⟩
    show Given _ _ (Function.update world.sessions session _ shared)
    by_cases same : shared = session
    · rw [same] at holding ⊢
      rw [Function.update_self]
      exact { holding.given with }
    · rw [Function.update_of_ne same]
      exact holding.given
  · intro shared some
    exact granting.holder shared ((granted shared).symm.trans some)
  · intro shared some free
    by_cases same : shared = session
    · exact ⟨id, candidate, same ▸ reported⟩
    · refine granting.free shared ((granted shared).symm.trans some) ?_
      rw [← free]
      exact congrArg (fun session : Session => session.rest.grantPending)
        (Function.update_of_ne same ..).symm
  · intro shared past
    have before := granting.absent shared past
    exact ⟨(kept (fun session => session.closed) (fun _ => rfl)
      shared).trans before.1, (granted shared).trans before.2⟩

theorem granting_settles (granting : Granting world) (located : Located world)
    (delivering : world.desktop = .delivering id) :
    Granting (completionSettles world id) := by
  have here : Accounts.desk world.desktop id = 1 := by
    rw [delivering, desk, if_pos rfl]
  have unheld (none : (world.requests id).candidate = none) :
      Granting { world with desktop := .calling id } :=
    granting_turns granting fun some => by
      rw [none] at some
      cases some
  rw [completionSettles]
  cases holds : (world.requests id).candidate with
  | none =>
      rw [Option.isSome_none, Bool.and_false]
      exact unheld holds
  | some candidate =>
      rcases granting.holding id candidate holds with ⟨session, holding⟩
      dsimp only
      rw [holding.kind, holding.bound, if_pos (by rfl)]
      split_ifs with bad
      · have accepted : (world.requests id).detached = false := by
          rw [Bool.eq_false_iff]
          intro late
          rw [(located.late id late).2.1] at holds
          cases holds
        have running := (located_accepted located here accepted).2
        rw [World.post, if_neg (Bool.eq_false_iff.mp running)]
        exact granting_vetoed granting (by rw [holds]; rfl) bad
      · have ok := not_not.mp bad
        have reported := granting.desk id session candidate delivering
          holding.bound holds
        rw [ok] at reported
        exact granting_freed (granting_turns granting fun _ => ok) reported

theorem granting_calls (granting : Granting world)
    (calling : world.desktop = .calling id) :
    Granting (completionCalls world id) := by
  have silent {other shared : Nat} {result : XccResult} :
      Undisturbed other shared (.done id result) :=
    ⟨Event.noConfusion, fun _ _ => Event.noConfusion⟩
  have told (posts : List Post)
      (rolling : ∀ id, .rollbackAcquisition id ∈ posts →
        .rollbackAcquisition id ∈ world.posts) :
      Granting
        { world.emit (.done id (world.requests id).result) with
          desktop := .idle, posts } :=
    { granting with
      holding := fun other held some => by
        rcases granting.holding other held some with ⟨shared, holding⟩
        exact ⟨shared, { holding with
          held := Since.cons holding.held silent }⟩
      back := fun other shared held since => by
        rcases Since.uncons since with ⟨same, -⟩ | ⟨-, since⟩
        · cases same
        · exact granting.back other shared held since
      taken := fun other shared held member => by
        rcases List.mem_cons.mp member with same | old
        · cases same
        · have before := granting.taken other shared held old
          exact ⟨before.1, before.2.1,
            before.2.2.imp_right (List.mem_cons_of_mem _)⟩
      owed := fun other some bad => by
        have before := granting.owed other some bad
        have apart : id ≠ other := by
          rintro rfl
          exact before.2 calling
        exact ⟨(told_cons_other (by simp [isDone, apart])).trans before.1,
          Desktop.noConfusion⟩
      rolling := fun other member =>
        granting.rolling other (rolling other member)
      desk := fun _ _ _ delivering => Desktop.noConfusion delivering
      free := fun shared some free => by
        rcases granting.free shared some free with ⟨other, held, reported⟩
        exact ⟨other, held, reported.cons silent⟩ }
  rw [completionCalls]
  dsimp only
  split_ifs
  · exact told world.posts fun _ member => member
  · rw [World.post]
    split_ifs
    · exact told world.posts fun _ member => member
    · refine told (world.posts ++ [.completionAck id]) fun other member => ?_
      exact mem_concat_ne Post.noConfusion member

theorem granting_move (move : Move world next) (basic : Basic world)
    (turns : OneByOne world) (granting : Granting world) :
    Granting next := by
  rcases quiet_move move with quiet | ⟨request, made⟩ | settled
  · exact granting_quiet granting quiet
  · exact granting_made granting made
  · cases settled with
    | registered spec => exact granting_registered granting spec
    | @granted id session candidate answerable completed bound opened
        wanted =>
        have started := turns.started id (.inr (.inr completed))
        have going : Going (world.requests id) :=
          ⟨.inr (.inr completed), answerable.unanswered⟩
        exact granting_grants granting
          (grants_granted answerable.unanswered wanted)
          answerable.unanswered started.1 started.2 bound opened
          (turns.free id session going bound) basic.located
    | @rolledBack id rest posts =>
        have rolls := granting.rolling id (by
          rw [posts]
          exact List.mem_cons_self ..)
        rcases Option.isSome_iff_exists.mp rolls.1 with ⟨candidate, holds⟩
        rcases granting.holding id candidate holds with ⟨session, holding⟩
        exact granting_takesBack granting
          (takesBack_rolledBack holding.bound posts) holding rolls.2
          basic.located
    | @reads id rest idle queue =>
        refine granting_reads granting basic.located
          ⟨rfl, rfl, rfl, rfl, rfl, rfl, rfl⟩ ?_
        rw [queue]
        exact List.mem_cons_self ..
    | settles delivering =>
        exact granting_settles granting basic.located delivering
    | calls calling => exact granting_calls granting calling

/-! ## Reachable contexts -/

theorem turns_of_reachable (reachable : machine.Reachable world) :
    OneByOne world := by
  refine invariant_of_moves ?_ (fun _ _ basic turns move =>
    turns_move move basic turns) reachable
  intro ui generation now _
  refine ⟨fun id started => ?_, fun id _ going => ?_,
    fun id _ _ going => ?_⟩
  · rcases started with past | past | past <;> cases past
  · rcases going.1 with past | past | past <;> cases past
  · rcases going.1 with past | past | past <;> cases past

theorem granting_of_reachable (reachable : machine.Reachable world) :
    Granting world := by
  have both : OneByOne world ∧ Granting world := by
    refine @invariant_of_moves _
      (fun world => OneByOne world ∧ Granting world) ?_ ?_ reachable
    · intro ui generation now initial
      refine ⟨turns_of_reachable (.initial ⟨ui, generation, now, initial,
        rfl⟩), ?_⟩
      refine
        { vacant := fun _ _ => ⟨rfl, rfl, rfl, rfl, rfl⟩
          holding := ?_, holder := ?_, back := ?_, taken := ?_
          success := ?_, owed := ?_, rolling := ?_, desk := ?_
          free := ?_, absent := fun _ _ => ⟨rfl, rfl⟩ }
      · intro id candidate some
        cases some
      · intro session some
        cases some
      · intro id session candidate held
        cases Since.start_mem held
      · intro id session candidate member
        cases member
      · intro id kind
        cases kind
      · intro id some
        cases some
      · intro id member
        cases member
      · intro id session candidate delivering
        cases delivering
      · intro session some
        cases some
    · intro world next basic both move
      exact ⟨turns_move move basic both.1,
        granting_move move basic both.1 both.2⟩
  exact both.2

/-! ## Callbacks -/

/-- The client of an acquisition is told of a success exactly when its
session has the grant.  When it is told of an error, a grant that had been
made for it has been taken back, and what its session holds is another grant
or nothing. -/
theorem callback_holds (reachable : machine.Reachable world)
    (calling : world.desktop = .calling id)
    (kind : (world.requests id).kind = .acquire)
    (bound : (world.requests id).session = some session) :
    ((world.requests id).result.error = .ok ↔
        ∃ candidate, Holding world id session candidate) ∧
      ((world.requests id).result.error ≠ .ok →
        (∀ candidate, .granted id session candidate ∈ world.trace →
          .rolledBack id ∈ world.trace) ∧
        (Vacant (world.sessions session) ∨
          ∃ other candidate, other ≠ id ∧
            Holding world other session candidate)) := by
  have granting := granting_of_reachable reachable
  have located := (basic_of_reachable reachable).located
  have answered := (located.answered_of_desk (by
    rw [calling, Accounts.desk, if_pos rfl])).1
  have clear (bad : (world.requests id).result.error ≠ .ok) :
      (world.requests id).candidate = none := by
    rw [← Option.not_isSome_iff_eq_none]
    exact fun some => (granting.owed id some bad).2 calling
  refine ⟨⟨fun ok => ?_, ?_⟩, fun bad =>
    ⟨fun candidate member => ?_, ?_⟩⟩
  · rcases Option.isSome_iff_exists.mp
      (granting.success id kind answered ok) with ⟨candidate, some⟩
    rcases granting.holding id candidate some with ⟨shared, holding⟩
    rw [holding.bound] at bound
    cases bound
    exact ⟨candidate, holding⟩
  · rintro ⟨candidate, holding⟩
    by_contra bad
    have some := granting.back id session candidate holding.held
    rw [clear bad] at some
    cases some
  · refine (granting.taken id session candidate member).2.2.resolve_left ?_
    rw [clear bad]
    exact (Option.some_ne_none candidate).symm
  · cases granted : (world.sessions session).rest.granted with
    | false => exact .inl (granting.vacant session granted)
    | true =>
        rcases granting.holder session granted with
          ⟨other, candidate, shares, some⟩
        rcases granting.holding other candidate some with ⟨shared, holding⟩
        rw [holding.bound] at shares
        cases shares
        refine .inr ⟨other, candidate, ?_, holding⟩
        rintro rfl
        rw [clear bad] at some
        cases some

/-! ## Uses of a grant -/

/-- A signature uses a grant of which a success is being delivered, or has
been. -/
def SignsDelivered : Event → List Event → Prop
  | .signing _ session, before =>
      ∃ id candidate, Reported id session candidate .ok before
  | _, _ => True

/-- In every reachable state, all signatures so far used grants that have been
delivered, or are being. -/
theorem signs_delivered (reachable : machine.Reachable world) :
    Each SignsDelivered world.trace := by
  have both : Granting world ∧ OneByOne world ∧
      Each SignsDelivered world.trace := by
    refine @invariant_of_moves _
      (fun world => Granting world ∧ OneByOne world ∧
        Each SignsDelivered world.trace) ?_ ?_ reachable
    · intro ui generation now initial
      have start : machine.Reachable (.start ui generation now) :=
        .initial ⟨ui, generation, now, initial, rfl⟩
      exact ⟨granting_of_reachable start, turns_of_reachable start,
        each_nil⟩
    · rintro world next basic ⟨granting, turns, each⟩ move
      refine ⟨granting_move move basic turns granting,
        turns_move move basic turns, ?_⟩
      cases news_move move with
      | aside adds =>
          refine adds.each each fun event before aside => ?_
          cases event <;> trivial
      | notes notes trace =>
          rw [trace]
          refine each_cons.mpr ⟨?_, each⟩
          cases notes with
          | signing granted free => exact granting.free _ granted free
          | _ => trivial
  exact both.2.2

/-! ## Delivered grants -/

/-- What a session was granted is as before. -/
structure SameGrant (before after : Session) : Prop where
  granted : after.rest.granted = before.rest.granted
  candidate : after.rest.candidate = before.rest.candidate
  maySign : after.rest.maySign = before.rest.maySign
  mayDecrypt : after.rest.mayDecrypt = before.rest.mayDecrypt
  decryptCount : after.rest.decryptCount = before.rest.decryptCount
  expiresAt : after.rest.expiresAt = before.rest.expiresAt
  purpose : after.rest.purpose = before.rest.purpose
  genericPurpose : after.rest.genericPurpose = before.rest.genericPurpose
  lifetime : after.rest.lifetime = before.rest.lifetime

theorem SameGrant.refl (session : Session) : SameGrant session session :=
  ⟨rfl, rfl, rfl, rfl, rfl, rfl, rfl, rfl, rfl⟩

theorem SameGrant.trans {first second third : Session}
    (here : SameGrant first second) (there : SameGrant second third) :
    SameGrant first third where
  granted := there.granted.trans here.granted
  candidate := there.candidate.trans here.candidate
  maySign := there.maySign.trans here.maySign
  mayDecrypt := there.mayDecrypt.trans here.mayDecrypt
  decryptCount := there.decryptCount.trans here.decryptCount
  expiresAt := there.expiresAt.trans here.expiresAt
  purpose := there.purpose.trans here.purpose
  genericPurpose := there.genericPurpose.trans here.genericPurpose
  lifetime := there.lifetime.trans here.lifetime

theorem SameGrant.of_kept {before after : Session}
    (kept : Kept before after) : SameGrant before after where
  granted := congrArg Grant.granted kept.grant
  candidate := congrArg Grant.candidate kept.grant
  maySign := congrArg Grant.maySign kept.grant
  mayDecrypt := congrArg Grant.mayDecrypt kept.grant
  decryptCount := congrArg Grant.decryptCount kept.grant
  expiresAt := congrArg Grant.expiresAt kept.grant
  purpose := kept.purpose
  genericPurpose := kept.genericPurpose
  lifetime := kept.lifetime

/-- The client has been told of the success. -/
structure Delivered
    (world : World) (id session : Nat) (candidate : CertificateCandidate) :
    Prop where
  holding : Holding world id session candidate
  ok : (world.requests id).result.error = .ok
  told : told world.trace id = 1

theorem SameGrant.of_write {other : Nat} {written : Session}
    {sessions : Nat → Session}
    (writes : sessions = Function.update world.sessions other written)
    (same : other = session →
      SameGrant (world.sessions session) written) :
    SameGrant (world.sessions session) (sessions session) := by
  rw [writes]
  by_cases here : session = other
  · rw [here, Function.update_self]
    exact here ▸ same here.symm
  · rw [Function.update_of_ne here]
    exact .refl _

/-- What one move leaves of a grant that has been delivered. -/
structure Leaves
    (world next : World) (id session : Nat) : Prop where
  candidate : (next.requests id).candidate = (world.requests id).candidate
  error : (next.requests id).result.error = (world.requests id).result.error
  grant : SameGrant (world.sessions session) (next.sessions session)

theorem leaves_of_write {other : Nat} {request : XccRequest}
    (requests : next.requests = Function.update world.requests other request)
    (apart : other ≠ id)
    (grant : SameGrant (world.sessions session) (next.sessions session)) :
    Leaves world next id session := by
  have same : next.requests id = world.requests id := by
    rw [requests, Function.update_of_ne (Ne.symm apart)]
  exact ⟨by rw [same], by rw [same], grant⟩

theorem leaves_move (move : Move world next) (basic : Basic world)
    (turns : OneByOne world) (granting : Granting world)
    (delivered : Delivered world id session candidate) :
    Leaves world next id session := by
  have holding := delivered.holding
  have same {after : World} (requests : after.requests = world.requests)
      (grant : SameGrant (world.sessions session)
        (after.sessions session)) : Leaves world after id session :=
    ⟨by rw [requests], by rw [requests], grant⟩
  rcases quiet_move move with quiet | ⟨request, made⟩ | settled
  · exact ⟨(quiet.requests id).candidate,
      ((quiet.requests id).kept holding.answered).2,
      .of_kept (quiet.sessions session)⟩
  · refine leaves_of_write made.requests holding.born.ne' ?_
    rw [made.sessions]
    exact .refl _
  · cases settled with
    | registered spec =>
        rw [sessionNewRegister]
        split_ifs
        · exact same rfl (.refl _)
        · refine same rfl (.of_write rfl ?_)
          rintro rfl
          have some := holding.given.granted
          rw [(granting.absent _ (Nat.le_refl _)).2] at some
          cases some
    | @granted other shared held answerable completed bound opened wanted =>
        have grants := @grants_granted world other shared held
          answerable.unanswered wanted
        rcases grants.requests with ⟨request, requests, -⟩
        rcases grants.sessions with ⟨written, sessions, -⟩
        refine leaves_of_write requests ?_ (.of_write sessions ?_)
        · rintro rfl
          have told := holding.answered
          rw [answerable.unanswered] at told
          cases told
        · rintro rfl
          have some := holding.given.granted
          rw [turns.free other shared
            ⟨.inr (.inr completed), answerable.unanswered⟩ bound] at some
          cases some
    | @rolledBack other rest posts =>
        have rolls := granting.rolling other (by
          rw [posts]
          exact List.mem_cons_self ..)
        rcases Option.isSome_iff_exists.mp rolls.1 with ⟨held, holds⟩
        rcases granting.holding other held holds with ⟨shared, there⟩
        have back := takesBack_rolledBack there.bound posts
        have apart : other ≠ id := by
          rintro rfl
          exact rolls.2 delivered.ok
        refine leaves_of_write back.requests apart (.of_write back.sessions ?_)
        rintro rfl
        exact absurd (Held.unique there.held holding.held).1 apart
    | @reads other rest idle queue =>
        refine leaves_of_write (by rfl) (?_ : other ≠ id) (by exact .refl _)
        rintro rfl
        have place := basic.located.answered_of_queue (by
          rw [queue]
          exact List.mem_cons_self ..)
        have told := delivered.told
        rw [place.2.2.2] at told
        cases told
    | @settles other delivering =>
        rw [completionSettles]
        dsimp only
        split_ifs
        · rw [World.post]
          split_ifs <;> exact same rfl (.refl _)
        · split
          · exact same rfl (.of_write rfl fun here => by
              rw [← here]
              exact ⟨rfl, rfl, rfl, rfl, rfl, rfl, rfl, rfl, rfl⟩)
          · exact same rfl (.refl _)
        · exact same rfl (.refl _)
    | calls calling =>
        rw [completionCalls]
        dsimp only
        split_ifs
        · exact same rfl (.refl _)
        · rw [World.post]
          split_ifs <;> exact same rfl (.refl _)

/-- A delivered grant stays. -/
theorem delivered_move (move : Move world next) (basic : Basic world)
    (turns : OneByOne world) (granting : Granting world)
    (delivered : Delivered world id session candidate) :
    Delivered next id session candidate ∧
      SameGrant (world.sessions session) (next.sessions session) := by
  have holding := delivered.holding
  have leaves := leaves_move move basic turns granting delivered
  have some := leaves.candidate.trans
    (granting.back id session candidate holding.held)
  have later := granting_move move basic turns granting
  have asked := (lasting_move move basic.orderly holding.born).asked
  rcases later.holding id candidate some with ⟨shared, there⟩
  have bound := (congrArg Asked.session asked).trans holding.bound
  rw [there.bound] at bound
  cases bound
  refine ⟨⟨there, leaves.error.trans delivered.ok, ?_⟩, leaves.grant⟩
  have grown : Accounts.told world.trace id ≤ Accounts.told next.trace id :=
    (trace_move move).sublist.countP_le
  have balance := (basic_move move basic).located.balance id
  rw [there.answered, Bool.toNat_true] at balance
  rw [delivered.told] at grown
  omega

/-- After its delivery a grant does not change in any run. -/
theorem delivered_run {actions : List Action}
    (reachable : machine.Reachable world)
    (delivered : Delivered world id session candidate)
    (run : machine.run world actions = some next) :
    Delivered next id session candidate ∧
      SameGrant (world.sessions session) (next.sessions session) := by
  have basic := basic_of_reachable reachable
  have all := @Composed.keeps _ _
    (fun later => Basic later ∧ OneByOne later ∧ Granting later ∧
      Delivered later id session candidate ∧
        SameGrant (world.sessions session) (later.sessions session))
    (by
      rintro first second move ⟨basic, turns, granting, delivered, same⟩
      have step := delivered_move move basic turns granting delivered
      exact ⟨basic_move move basic, turns_move move basic turns,
        granting_move move basic turns granting, step.1,
        same.trans step.2⟩)
    _ _ (moved_run basic run)
    ⟨basic, turns_of_reachable reachable, granting_of_reachable reachable,
      delivered, .refl _⟩
  exact ⟨all.2.2.2.1, all.2.2.2.2⟩

/-! ## Examples of runs -/

section Example

/-- An acquisition that lets its session sign. -/
def exampleSigner : XccAcquireSpec :=
  { exampleSpec with
    signPresent := true, sign := true
    lifetimePresent := true, lifetimeSeconds := 60 }

/-- A signature of a SHA-256 digest. -/
def exampleSigning : XccSignSpec where
  structSize := sizeofXccSignSpec
  abiVersion := xccAbiVersion
  principal := exampleSpec.principal
  parentWindow := none
  operationId := none
  mechanism := some "RSA_PKCS1_V1_5"
  data := ⟨sizeofXccBytes, xccAbiVersion, some (List.replicate 32 0), 32⟩
  hashPresent := true
  mgfPresent := false
  saltLengthPresent := false
  encodingPresent := false
  hash := some "SHA256"
  mgf := none
  saltLength := 0
  signatureEncoding := none

/-- A grant that may sign, and its answer in the queue. -/
def exampleGranting : List Action :=
  [.sessionNew
      ⟨⟨sizeofXccSessionSpec, xccAbiVersion, 1, some "app", 0, false⟩⟩,
    .post, .acquire 0 (some exampleSigner), .post,
    .enumerated 0 0 (.ok [exampleCandidate [1]]) true 0,
    .ui (.send ⟨1, .choose 1 1⟩), .ui (.receive 0)]

/-- A cancellation between the grant and its delivery. -/
def exampleVeto : List Action :=
  exampleGranting ++
    [.cancel 0 .user, .deliver, .proceed, .post, .post, .deliver, .proceed]

/-- The acquisition was granted and then cancelled; at its callback the grant
has been taken back. -/
theorem callback_holds_vetoed :
    ∃ world, machine.run exampleStart exampleVeto = some world ∧
      world.desktop = .calling 0 ∧
      .granted 0 0 (exampleCandidate [1]) ∈ world.trace ∧
      (world.requests 0).result.error = .cancelled ∧
      .rolledBack 0 ∈ world.trace := by
  have run : ∃ world, machine.run exampleStart exampleVeto = some world ∧
      world.desktop = .calling 0 ∧ (world.requests 0).kind = .acquire ∧
      (world.requests 0).session = some 0 ∧
      (world.requests 0).result.error = .cancelled ∧
      ∃ since before, world.trace =
        since ++ .granted 0 0 (exampleCandidate [1]) :: before :=
    ⟨_, rfl, rfl, rfl, rfl, rfl, [_, _, _], _, rfl⟩
  rcases run with ⟨world, moved, calling, kind, bound, error, since, before,
    split⟩
  have granted : .granted 0 0 (exampleCandidate [1]) ∈ world.trace := by
    rw [split]
    exact List.mem_append_right _ (List.mem_cons_self ..)
  have told := (callback_holds (exampleStart_reachable.run moved) calling
    kind bound).2
  rw [error] at told
  exact ⟨world, moved, calling, granted, error,
    (told XccErrorCode.noConfusion).1 _ granted⟩

/-- A signature while the success is being delivered. -/
theorem signs_delivered_early :
    ∃ world,
      machine.run exampleStart
          (exampleGranting ++
            [.sign 0 (some exampleSigning) true, .deliver, .proceed,
              .post]) = some world ∧
        ∃ before, world.trace = .signing 1 0 :: before ∧
          ∃ id candidate, Reported id 0 candidate .ok before := by
  have moved : machine.run exampleStart
      (exampleGranting ++
        [.sign 0 (some exampleSigning) true, .deliver, .proceed, .post]) =
      some _ := rfl
  have reachable := exampleStart_reachable.run moved
  exact ⟨_, moved, _, rfl,
    signs_delivered reachable [] (.signing 1 0) _ rfl⟩

/-- The session of a delivered grant is closed. -/
theorem delivered_run_closed :
    ∃ world next,
      machine.run exampleStart
          (exampleGranting ++ [.deliver, .proceed, .proceed]) = some world ∧
        machine.run world [.post, .sessionClose 0, .post] = some next ∧
        (next.sessions 0).closed = true ∧
        Delivered world 0 0 (exampleCandidate [1]) ∧
        SameGrant (world.sessions 0) (next.sessions 0) := by
  have run : ∃ world next,
      machine.run exampleStart
          (exampleGranting ++ [.deliver, .proceed, .proceed]) = some world ∧
        machine.run world [.post, .sessionClose 0, .post] = some next ∧
        (next.sessions 0).closed = true ∧
        (world.requests 0).candidate = some (exampleCandidate [1]) ∧
        (world.requests 0).session = some 0 ∧
        (world.requests 0).result.error = .ok ∧
        told world.trace 0 = 1 :=
    ⟨_, _, rfl, rfl, rfl, rfl, rfl, rfl, rfl⟩
  rcases run with ⟨world, next, moved, later, closed, some, bound, ok, told⟩
  have reachable := exampleStart_reachable.run moved
  rcases (granting_of_reachable reachable).holding 0 _ some with
    ⟨session, holding⟩
  have delivered : Delivered world 0 0 (exampleCandidate [1]) := by
    rw [holding.bound] at bound
    cases bound
    exact ⟨holding, ok, told⟩
  exact ⟨world, next, moved, later, closed, delivered,
    (delivered_run reachable delivered later).2⟩

end Example

end PortalCertificate.Context.Atomicity
