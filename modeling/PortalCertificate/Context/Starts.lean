import PortalCertificate.Context.Floors

/-!
# Requests are started

What every move of a context keeps, and how a client's request is scheduled
and started.
-/

namespace PortalCertificate.Context.Starts

open PortalCertificate.Broker.Operations
  (OperationError Operation Grant certificateBrokerPerform grantRefusal
    onOperationDone)
open PortalCertificate.Context.Accounts
open PortalCertificate.Context.Acquire
open PortalCertificate.Context.Completion
open PortalCertificate.Context.Deliveries
open PortalCertificate.Context.Floors
open PortalCertificate.Context.Machine
open PortalCertificate.Context.Moves
open PortalCertificate.Context.Nudges
open PortalCertificate.Context.Requests
open PortalCertificate.Context.Sessions
open PortalCertificate.Core.Coordinator (XccErrorCode Reply)
open PortalCertificate.Core.Principals (XccPrincipal principalCheck)
open PortalCertificate.Core.UiFrames
open PortalCertificate.Library.Transition
open PortalCertificate.Tokens.Discovery
open PortalCertificate.Tokens.Filter
open PortalCertificate.Tokens.Watcher

/-! ## What always holds -/

/-- What the other invariants rest on. -/
structure Basic (world : World) : Prop where
  located : Located world
  orderly : Orderly (floor world)
  live : world.ui.shutdownPosted = false → ∀ id,
    (world.sessions id).closed = false → id ∈ world.live
  chosen : ∀ id chosen, (world.requests id).pendingChosen = some chosen →
    ∃ refreshing, Concluded id chosen refreshing world.trace

variable {world next : World} {id : Nat}

theorem lived_steady (steady : Steady world next)
    (lived : ∀ id, (world.sessions id).closed = false → id ∈ world.live)
    (id : Nat) (showing : (next.sessions id).closed = false) :
    id ∈ next.live := by
  have before : (world.sessions id).closed = false := by
    rw [Bool.eq_false_iff]
    intro closed
    rw [(steady.sessions id).closed closed] at showing
    cases showing
  rcases steady.listed id (lived id before) with member | closed
  · exact member
  · rw [closed] at showing
    cases showing

theorem lived_setSession {session : Session}
    (lived : ∀ id, (world.sessions id).closed = false → id ∈ world.live)
    (closed : session.closed = (world.sessions id).closed) :
    ∀ other, ((world.setSession id session).sessions other).closed = false →
      other ∈ world.live := by
  intro other showing
  apply lived other
  change (Function.update world.sessions id session other).closed = _
    at showing
  by_cases same : other = id
  · rw [same, Function.update_self] at showing
    rw [same, ← closed]
    exact showing
  · rwa [Function.update_of_ne same] at showing

theorem lived_move (move : Move world next)
    (lived : world.ui.shutdownPosted = false → ∀ id,
      (world.sessions id).closed = false → id ∈ world.live)
    (running : next.ui.shutdownPosted = false) :
    ∀ id, (next.sessions id).closed = false → id ∈ next.live := by
  cases move with
  | nudge nudge =>
      have steady := Nudge.steady nudge
      have before := steady.shutdownPosted.symm.trans running
      exact lived_steady steady (lived before)
  | dispatched before =>
      exact lived_steady (steady_dispatchPending before) (lived before)
  | @regenerated value rest before posts =>
      have steady := Nudged.steady
        (@nudged_generation { world with posts := rest } before value)
      exact lived_steady steady (lived before)
  | uiTold aside waiting =>
      exact lived (aside.shutdownPosted.symm.trans running)
  | published tokensPresent flying enumerating current choosing allowed
      available
      reported before =>
      have kept := lived before
      rw [publish]
      split <;> exact kept
  | concluded reply chosen error ends fair => exact lived ends.running
  | granted answerable completed bound opened wanted =>
      rw [ui_xccRequestComplete] at running
      rw [xccRequestComplete]
      dsimp only
      split_ifs
      · exact lived_setSession (lived running) rfl
      · exact lived_setSession (lived running) rfl
  | registered spec before current =>
      rw [ui_sessionNewRegister] at running
      have kept := lived running
      rw [sessionNewRegister]
      split_ifs with refused
      · exact kept
      · intro other showing
        change (Function.update world.sessions world.nextSession _
          other).closed = _ at showing
        by_cases same : other = world.nextSession
        · exact List.mem_append_right _ (List.mem_singleton.mpr same)
        · rw [Function.update_of_ne same] at showing
          exact List.mem_append_left _ (kept other showing)
  | rolledBack posts =>
      rw [ui_rollbackAcquisition] at running
      rw [rollbackAcquisition]
      dsimp only
      split
      · exact lived_setSession (lived running) rfl
      · exact lived running
  | shut ready =>
      rw [xccContextCheckShutdown, if_pos ready] at running
      cases running
  | settles delivering =>
      rw [ui_completionSettles] at running
      rw [completionSettles]
      dsimp only
      split_ifs
      · rw [World.post]
        split_ifs <;> exact lived running
      · split
        · exact lived_setSession (lived running) rfl
        · exact lived running
      · exact lived running
  | calls calling =>
      rw [ui_completionCalls] at running
      rw [completionCalls]
      dsimp only
      split_ifs
      · exact lived running
      · rw [World.post]
        split_ifs <;> exact lived running
  | answered answerable good =>
      rw [ui_xccRequestComplete] at running
      rw [xccRequestComplete]
      dsimp only
      split_ifs <;> exact lived running
  | _ => exact lived running

/-! ## What is remembered of a choice -/

@[simp]
theorem trace_xccRequestComplete (world : World) (id : Nat)
    (error : XccErrorCode) :
    (xccRequestComplete world id error).trace = world.trace := by
  rw [xccRequestComplete]
  dsimp only
  split_ifs <;> rfl

@[simp]
theorem trace_post (world : World) (post : Post) :
    (world.post post).trace = world.trace := by
  rw [World.post]
  split_ifs <;> rfl

/-- The trace grows. -/
theorem trace_move (move : Move world next) : world.trace <:+ next.trace := by
  cases move with
  | nudge nudge => exact (Nudge.steady nudge).trace
  | dispatched running => exact (steady_dispatchPending running).trace
  | @regenerated value rest running posts =>
      exact (List.suffix_cons _ _).trans (Nudged.steady
        (@nudged_generation { world with posts := rest } running value)).trace
  | answered answerable good =>
      rw [trace_xccRequestComplete]
  | granted answerable completed bound opened wanted consented =>
      rw [trace_xccRequestComplete]
      exact List.suffix_cons _ _
  | published tokensPresent flying enumerating current choosing allowed
      available reported running =>
      rw [publish]
      split <;> exact List.suffix_cons _ _
  | registered spec running current =>
      rw [sessionNewRegister]
      split_ifs <;> exact List.suffix_refl _
  | @rolledBack id rest posts =>
      rw [rollbackAcquisition]
      dsimp only
      split <;> exact List.suffix_cons _ _
  | shut ready =>
      rw [xccContextCheckShutdown, if_pos ready]
      exact List.suffix_refl _
  | settles delivering =>
      rw [completionSettles]
      dsimp only
      split_ifs
      · exact (trace_post world _).symm ▸ List.suffix_refl _
      · split <;> exact List.suffix_refl _
      · exact List.suffix_refl _
  | calls calling =>
      rw [completionCalls]
      dsimp only
      split_ifs
      · exact List.suffix_cons _ _
      · rw [trace_post]
        exact List.suffix_cons _ _
  | uiTold | signed | begun | validated | reported | restarted | concluded
  | reads | invalidationTold | shutdownTold =>
      exact List.suffix_cons _ _
  | _ => exact List.suffix_refl _

theorem Concluded.later {chosen : CertificateCandidate} {refreshing : Bool}
    {trace later : List Event}
    (concluded : Concluded id chosen refreshing trace)
    (suffix : trace <:+ later) : Concluded id chosen refreshing later := by
  rcases concluded with ⟨reply, view, queued, member⟩
  exact ⟨reply, view, queued, suffix.subset member⟩

/-- What is said of a request before it is answered. -/
structure Word where
  asked : Asked
  detached : Bool
  intent : Option XccCancelReason
  code : XccErrorCode
  completed : Bool
  chosen : Option CertificateCandidate

/-- The fields of a request that its answer depends on. -/
def word (request : XccRequest) : Word where
  asked := request.toAsked
  detached := request.detached
  intent := request.cancelIntent
  code := request.cancelledCode
  completed := request.chooserCompleted
  chosen := request.pendingChosen

/-- What a move says of a request. -/
inductive Course (world next : World) (id : Nat) : Prop where
  | same (same : word (next.requests id) = word (world.requests id))
  | continues
      (continues : Continues (world.requests id) (next.requests id))
  | made (fresh : id = world.nextRequest)
      (intent : (next.requests id).cancelIntent = none)
      (completed : (next.requests id).chooserCompleted = false)
      (chosen : (next.requests id).pendingChosen = none)
  | concluded {reply : Option Reply}
      {view : Core.Coordinator.XccChooserView}
      {chosen : Option CertificateCandidate} {refreshing : Bool}
      {queued : List WatchEvent}
      (first : (world.requests id).chooserCompleted = false)
      (event : .concluded id reply view chosen refreshing queued ∈
        next.trace)
      (last : word (next.requests id) =
        { word (world.requests id) with completed := true, chosen })

theorem word_write {other : Nat}
    (writes : ∃ request,
      next.requests = Function.update world.requests other request ∧
      word request = word (world.requests other)) (id : Nat) :
    word (next.requests id) = word (world.requests id) := by
  rcases writes with ⟨request, requests, same⟩
  rw [requests]
  exact world.setRequest_field word same id

theorem course_new
    (writes : ∃ request,
      next.requests =
        Function.update world.requests world.nextRequest request ∧
      request.cancelIntent = none ∧ request.chooserCompleted = false ∧
      request.pendingChosen = none) :
    Course world next id := by
  rcases writes with ⟨request, requests, intent, completed, chosen⟩
  by_cases here : id = world.nextRequest
  · have written : next.requests id = request := by
      rw [requests, here, Function.update_self]
    refine .made here ?_ ?_ ?_
    · rw [written]
      exact intent
    · rw [written]
      exact completed
    · rw [written]
      exact chosen
  · refine .same ?_
    rw [requests, Function.update_of_ne here]

theorem word_complete (world : World) (done : Nat) (error : XccErrorCode)
    (id : Nat) :
    word ((xccRequestComplete world done error).requests id) =
      word (world.requests id) := by
  rw [xccRequestComplete]
  dsimp only
  split_ifs
  · rfl
  · exact @word_write world _ _ ⟨_, by rfl, by rfl⟩ id

theorem word_publish (world : World) (shown enumeration : Nat)
    (candidates : List CertificateCandidate) (tokensPresent : Bool)
    (id : Nat) :
    word ((publish world shown enumeration candidates
        tokensPresent).requests id) = word (world.requests id) := by
  rw [publish]
  split
  · rfl
  · exact @word_write world _ _ ⟨_, by rfl, by rfl⟩ id

/-- What any move says of any request. -/
theorem course_of_move (move : Move world next)
    (orderly : Orderly (floor world)) (id : Nat) :
    Course world next id := by
  cases move with
  | nudge nudge => exact .continues ((Nudge.steady nudge).requests id)
  | dispatched running =>
      exact .continues ((steady_dispatchPending running).requests id)
  | @regenerated value rest running posts =>
      exact .continues ((Nudged.steady
        (@nudged_generation { world with posts := rest } running
          value)).requests id)
  | scheduled asked principal bound running =>
      exact course_new ⟨_, by rfl, rfl, rfl, rfl⟩
  | refused asked principal bad bound past =>
      exact course_new ⟨_, by rfl, rfl, rfl, rfl⟩
  | begun => exact .same (word_write ⟨_, by rfl, by rfl⟩ id)
  | handed => exact .same (word_write ⟨_, by rfl, by rfl⟩ id)
  | answered => exact .same (word_complete _ _ _ _)
  | landed => exact .same (word_write ⟨_, by rfl, by rfl⟩ id)
  | @restarted other enumeration flying enumerating =>
      have lands : word ((landed world other enumeration).requests id) =
          word (world.requests id) := word_write ⟨_, by rfl, by rfl⟩ id
      refine .same (Eq.trans ?_ lands)
      exact word_write ⟨_, by rfl, by rfl⟩ id
  | @published other enumeration snapshot realTime tokensPresent flying
      enumerating current choosing allowed available reported running =>
      exact .same ((word_publish _ other enumeration _ tokensPresent id).trans
        (word_write ⟨_, by rfl, by rfl⟩ id))
  | @concluded ui other chooser reply chosen error ends fair =>
      have first := (orderly.choosing _ _ ends.choosing).2.1
      by_cases here : id = other
      · subst here
        refine .concluded first (List.mem_cons_self ..) ?_
        show word (Function.update world.requests id _ id) = _
        rw [Function.update_self, conclude, if_neg]
        · rfl
        · rw [show (world.requests id).chooserCompleted = false from first]
          exact Bool.false_ne_true
      · refine .same ?_
        show word (Function.update world.requests other _ id) = _
        rw [Function.update_of_ne here]
  | @granted other session candidate answerable completed bound opened
      wanted consented =>
      exact .same ((word_complete _ other .ok id).trans
        (@word_write world _ _ ⟨_, by rfl, by rfl⟩ id))
  | registered spec running current =>
      rw [sessionNewRegister]
      split_ifs <;> exact .same rfl
  | @rolledBack other rest posts =>
      refine .same ?_
      rw [rollbackAcquisition]
      dsimp only
      split
      · exact @word_write world _ _ ⟨_, by rfl, by rfl⟩ id
      · exact @word_write world _ _ ⟨_, by rfl, by rfl⟩ id
  | shut ready =>
      rw [xccContextCheckShutdown, if_pos ready]
      exact .same rfl
  | reads idle queue => exact .same (word_write ⟨_, by rfl, by rfl⟩ id)
  | settles delivering =>
      refine .same ?_
      rw [completionSettles]
      dsimp only
      split_ifs
      · rw [World.post]
        split_ifs <;> rfl
      · split <;> rfl
      · rfl
  | calls calling =>
      refine .same ?_
      rw [completionCalls]
      dsimp only
      split_ifs
      · rfl
      · rw [World.post]
        split_ifs <;> rfl
  | _ => exact .same rfl

/-- A choice is that of the chooser. -/
theorem pendingChosen_move (move : Move world next)
    (orderly : Orderly (floor world)) {chosen : CertificateCandidate}
    (here : (next.requests id).pendingChosen = some chosen) :
    (world.requests id).pendingChosen = some chosen ∨
      ∃ refreshing, Concluded id chosen refreshing next.trace := by
  cases course_of_move move orderly id with
  | same same =>
      exact .inl ((congrArg Word.chosen same).symm.trans here)
  | continues continues => exact .inl (continues.chosen.symm.trans here)
  | made fresh intent completed chosen =>
      rw [chosen] at here
      cases here
  | concluded first event last =>
      cases (congrArg Word.chosen last).symm.trans here
      exact .inr ⟨_, _, _, _, event⟩

/-- Every move keeps what the other invariants rest on. -/
theorem basic_move (move : Move world next) (basic : Basic world) :
    Basic next where
  located := located_move move basic.located
  orderly := orderly_move move basic.located basic.orderly
  live := lived_move move basic.live
  chosen id chosen here := by
    rcases pendingChosen_move move basic.orderly here with before | now
    · rcases basic.chosen id chosen before with ⟨refreshing, concluded⟩
      exact ⟨refreshing, Concluded.later concluded (trace_move move)⟩
    · exact now

/-- Several moves keep what the other invariants rest on. -/
theorem basic_moved (moved : Moved world next) (basic : Basic world) :
    Basic next :=
  moved.keeps (fun _ _ move => basic_move move) basic

/-! ## Clients -/

theorem moved_post {post : Post} (plain : Post.plain post = true) :
    Moved world (world.post post) := by
  rw [World.post]
  split_ifs with past
  · exact .refl
  · exact Moved.one (.mailed post plain (Bool.eq_false_iff.mpr past))

theorem answerError_bad {error : XccErrorCode} (bad : error ≠ .ok) :
    answerError world id error ≠ .ok := by
  rw [answerError]
  split_ifs with code
  · exact code
  · exact XccErrorCode.noConfusion
  · exact bad

/-- A new request has no result to be kept. -/
theorem lateRequest_eq (asked : Asked) (principal : XccPrincipal)
    {error : XccErrorCode} (bad : error ≠ .ok) :
    { xccRequestNew asked principal with
      detached := true, answered := true
      result := answerResult
        { xccRequestNew asked principal with detached := true } error } =
      lateRequest asked principal error := by
  simp [lateRequest, answerResult, xccRequestNew, XccResult.zero, bad]

theorem setRequest_idem (first second : XccRequest) (id : Nat) :
    (world.setRequest id first).setRequest id second =
      world.setRequest id second := by
  rw [World.setRequest, World.setRequest]
  dsimp only
  rw [Function.update_idem]
  rfl

theorem schedule_running (asked : Asked) (principal : XccPrincipal)
    (running : world.ui.shutdownPosted = false) :
    schedule world asked principal =
      { world.setRequest world.nextRequest (xccRequestNew asked principal)
        with
        nextRequest := world.nextRequest + 1
        posts := world.posts ++ [.start world.nextRequest] } := by
  rw [schedule, xccRequestSchedule]
  show (if world.ui.shutdownPosted = true then _
    else if world.ui.shutdownPosted = true then _ else _) = _
  rw [running]
  rfl

theorem schedule_late (asked : Asked) (principal : XccPrincipal)
    (past : world.ui.shutdownPosted = true) :
    ∃ error, error ≠ .ok ∧ schedule world asked principal =
      { world.setRequest world.nextRequest
          (lateRequest asked principal error) with
        nextRequest := world.nextRequest + 1
        queue := world.queue ++ [.completion world.nextRequest] } := by
  let made : World :=
    { world.setRequest world.nextRequest (xccRequestNew asked principal) with
      nextRequest := world.nextRequest + 1 }
  have fresh : made.requests world.nextRequest =
      xccRequestNew asked principal := world.setRequest_self _ _
  let late : World := made.setRequest world.nextRequest
    { xccRequestNew asked principal with detached := true }
  have here : late.requests world.nextRequest =
      { xccRequestNew asked principal with detached := true } :=
    made.setRequest_self _ _
  have bad : answerError late world.nextRequest .backendGone ≠ .ok :=
    answerError_bad XccErrorCode.noConfusion
  have start : schedule world asked principal =
      xccRequestComplete (made.setRequest world.nextRequest
        { made.requests world.nextRequest with detached := true })
          world.nextRequest .backendGone := by
    rw [schedule, xccRequestSchedule]
    exact if_pos past
  refine ⟨_, bad, ?_⟩
  have written (request : XccRequest) :
      made.setRequest world.nextRequest request =
        { world.setRequest world.nextRequest request with
          nextRequest := world.nextRequest + 1 } := by
    show { world with
      requests := Function.update (Function.update _ _ _) _ _
      nextRequest := _ } = _
    rw [Function.update_idem]
    rfl
  have unanswered : (late.requests world.nextRequest).answered = false :=
    congrArg XccRequest.answered here
  rw [← lateRequest_eq asked principal bad, start, fresh,
    xccRequestComplete_open unanswered, here, setRequest_idem, written]
  rfl

theorem moved_schedule (asked : Asked) (principal : XccPrincipal)
    (bound : asked.kind ≠ .capabilities → asked.session.isSome = true) :
    Moved world (schedule world asked principal) := by
  cases past : world.ui.shutdownPosted with
  | false =>
      rw [schedule_running asked principal past]
      exact Moved.one (.scheduled asked principal bound past)
  | true =>
      rcases schedule_late asked principal past with ⟨error, bad, late⟩
      rw [late]
      exact Moved.one (.refused asked principal bad bound past)

/-! ## Validation -/

/-- A check records an identity only. -/
theorem principalCheck_kept (generation : Nat) (session : Session)
    (principal : XccPrincipal) :
    Kept session (principalCheck generation session principal).2 ∧
      (principalCheck generation session principal).2.closed =
        session.closed := by
  rw [principalCheck]
  split_ifs
  · exact ⟨.refl session, rfl⟩
  · exact ⟨.refl session, rfl⟩
  · exact ⟨.refl session, rfl⟩
  · exact ⟨.refl session, rfl⟩
  · exact ⟨⟨rfl, id, rfl, rfl, rfl, rfl, id⟩, rfl⟩
  · exact ⟨.refl session, rfl⟩

theorem principalCheck_ok {generation : Nat} {session : Session}
    {principal : XccPrincipal}
    (ok : (principalCheck generation session principal).1 = .ok) :
    session.closed = false ∧ session.ownerGeneration = generation := by
  rw [principalCheck] at ok
  by_cases formed : (!principal.wellFormed) = true
  · rw [if_pos formed] at ok
    cases ok
  · rw [if_neg formed] at ok
    by_cases refused : (session.closed ||
        session.ownerGeneration ≠ generation ||
        principal.ownerGeneration ≠ session.ownerGeneration ||
        some session.appId ≠ principal.appId) = true
    · rw [if_pos refused] at ok
      cases ok
    · simp only [Bool.or_eq_true, decide_eq_true_eq, not_or, not_not,
        Bool.not_eq_true, ne_eq] at refused
      exact ⟨refused.1.1.1, refused.1.1.2⟩

theorem nudged_checkPrincipal (session : Nat) (principal : XccPrincipal) :
    Nudged world (checkPrincipal world session principal).2 := by
  have kept := principalCheck_kept world.generation (world.sessions session)
    principal
  exact Nudged.one (.kept kept.1 kept.2)

theorem nudged_validatePrincipal (id : Nat) :
    Nudged world (validatePrincipal world id).2 := by
  rw [validatePrincipal]
  cases bound : (world.requests id).session with
  | none =>
      exact nudged_touched (.write { Alike.refl (world.requests id) with
        principal := fun isSome => by
          rw [bound] at isSome
          cases isSome })
  | some session =>
      dsimp only
      split_ifs
      · exact .refl
      · exact nudged_checkPrincipal session _

theorem nudged_validateError (id : Nat) :
    Nudged world (validateError world id).2 := by
  rw [validateError]
  split_ifs
  · exact .refl
  · exact .refl
  · exact .refl
  · exact .refl
  · exact .refl
  · exact nudged_validatePrincipal id

/-- What a request has passed when it is started. -/
structure Validated (world : World) (id : Nat) : Prop where
  stopping : world.ui.stopping = false
  intent : (world.requests id).cancelIntent = none
  code : (world.requests id).cancelledCode = .ok
  cancelled : world.isCancelled id = false
  opened : ∀ session, (world.requests id).session = some session →
    (world.sessions session).closed = false ∧
      (world.sessions session).ownerGeneration = world.generation

theorem validated_of_ok (ok : (validateError world id).1 = .ok) :
    Validated world id := by
  rw [validateError] at ok
  split_ifs at ok with stopping intent code cancelled validation
  · exact absurd ok code
  · exact absurd ok validation
  · refine ⟨Bool.eq_false_iff.mpr stopping, ?_, not_not.mp code,
      Bool.eq_false_iff.mpr cancelled, ?_⟩
    · rw [← Option.not_isSome_iff_eq_none]
      exact intent
    · intro session bound
      rw [validatePrincipal, bound] at ok
      dsimp only at ok
      split_ifs at ok
      exact principalCheck_ok ok

theorem validatePrincipal_closed (session : Nat) :
    ((validatePrincipal world id).2.sessions session).closed =
      (world.sessions session).closed := by
  rw [validatePrincipal]
  split
  · split_ifs
    · rfl
    · rename_i bound _ _
      have kept := (principalCheck_kept world.generation
        (world.sessions bound) (world.requests id).principal).2
      show (Function.update world.sessions bound _ session).closed = _
      by_cases same : session = bound
      · rw [same, Function.update_self]
        exact kept
      · rw [Function.update_of_ne same]
  · rfl

theorem validateError_closed (session : Nat) :
    ((validateError world id).2.sessions session).closed =
      (world.sessions session).closed := by
  rw [validateError]
  split_ifs
  · rfl
  · rfl
  · rfl
  · rfl
  · rfl
  · exact validatePrincipal_closed session

/-! ## Starts -/

/-- A request that waits for its start. -/
theorem untouched_of_idle (basic : Basic world)
    (unanswered : (world.requests id).answered = false)
    (inactive : id ∉ world.active) : Untouched (world.requests id) where
  enumerating := by
    rw [Bool.eq_false_iff]
    exact fun running =>
      inactive (basic.orderly.enumerating id running).active
  chooser := by
    rw [← Option.not_isSome_iff_eq_none, Option.isSome_iff_exists]
    rintro ⟨chooser, chooses⟩
    exact inactive (basic.orderly.choosing id chooser chooses).1.active
  completed := by
    rw [Bool.eq_false_iff]
    intro done
    rcases basic.orderly.completed id done with answered | active
    · exact absurd (unanswered.symm.trans answered) Bool.false_ne_true
    · exact inactive active
  working := by
    rw [Bool.eq_false_iff]
    intro working
    rcases (basic.orderly.works id working).2 with answered | active
    · exact absurd (unanswered.symm.trans answered) Bool.false_ne_true
    · exact inactive active

theorem Continues.untouched {before after : XccRequest}
    (continues : Continues before after) (untouched : Untouched before) :
    Untouched after where
  enumerating := by
    rw [Bool.eq_false_iff]
    intro running
    rcases continues.enumerated running with running | chooses
    · exact absurd (untouched.enumerating.symm.trans running)
        Bool.false_ne_true
    · rw [untouched.chooser] at chooses
      cases chooses
  chooser := continues.chooser.trans untouched.chooser
  completed := continues.completed.trans untouched.completed
  working := continues.working.trans untouched.working

theorem Untouched.answerable {request : XccRequest}
    (untouched : Untouched request) (same : world.requests id = request)
    (unanswered : request.answered = false) (active : id ∈ world.active) :
    Answerable world id where
  unanswered := by rwa [same]
  active := active
  landed := by
    rw [same]
    exact untouched.enumerating
  chooser := by
    rw [same]
    exact untouched.chooser

/-- A request that has just been taken up. -/
structure Taken (world next : World) (id : Nat) : Prop where
  moved : Moved world next
  asked : (next.requests id).toAsked = (world.requests id).toAsked
  unanswered : (next.requests id).answered = false
  active : id ∈ next.active
  untouched : Untouched (next.requests id)

theorem Taken.answerable (taken : Taken world next id) :
    Answerable next id :=
  Untouched.answerable taken.untouched rfl taken.unanswered taken.active

theorem taken_validate {rest : List Post} (basic : Basic world)
    (posts : world.posts = .start id :: rest) :
    Taken world (xccRequestValidate { world with posts := rest } id).2 id ∧
      ((xccRequestValidate { world with posts := rest } id).1 = .ok →
        ∀ session, (world.requests id).session = some session →
          ((xccRequestValidate { world with posts := rest } id).2.sessions
            session).closed = false) := by
  have here := basic.located.started id (posts ▸ List.mem_cons_self ..)
  have idle := untouched_of_idle basic here.2.2 here.2.1
  have validated := Moved.one (Move.validated posts)
  rw [xccRequestValidate]
  have nudged := @nudged_validateError
    ({ world with posts := rest, active := world.active ++ [id] }.emit
      (.validated id world.generation)) id
  have steady := Nudged.steady nudged
  refine ⟨⟨validated.trans (Nudged.moved nudged),
    (steady.requests id).asked,
    (steady.requests id).answered.trans here.2.2, ?_,
    Continues.untouched (steady.requests id) idle⟩, ?_⟩
  · rw [steady.active]
    exact List.mem_append_right _ (List.mem_singleton_self _)
  · intro ok session bound
    rw [validateError_closed]
    exact ((validated_of_ok ok).opened session bound).1

/-- The coordinator starts with the answers to a request that it takes up. -/
theorem moved_refused {error : XccErrorCode} (taken : Taken world next id)
    (bad : error ≠ .ok) : Moved world (xccRequestComplete next id error) :=
  taken.moved.trans
    (Moved.one (.answered taken.answerable fun ok => absurd ok bad))

theorem onOperationDone_bad (error : OperationError) :
    onOperationDone error ≠ .ok := by
  cases error with
  | io error =>
      rcases error with ⟨code, message⟩
      cases code <;> exact XccErrorCode.noConfusion
  | pkcs11 code message => cases code <;> exact XccErrorCode.noConfusion

/-- A grant that is used is one that has been delivered. -/
theorem grantRefusal_ok {session : Core.Principals.XccSession Grant}
    {now : Int} {decrypt : Bool} {candidate : CertificateCandidate}
    (ok : grantRefusal session now decrypt = .ok candidate) :
    session.rest.granted = true ∧ session.rest.grantPending = false := by
  rw [grantRefusal] at ok
  by_cases pending : session.rest.grantPending = true
  · rw [if_pos pending] at ok
    cases ok
  · rw [if_neg pending] at ok
    refine ⟨?_, Bool.eq_false_iff.mpr pending⟩
    cases granted : session.rest.granted with
    | true => rfl
    | false =>
        have none : session.rest.candidate.filter (fun _ => false) = none := by
          cases session.rest.candidate <;> rfl
        rw [granted, none] at ok
        cases ok

theorem brokerPerform_granted {request : XccRequest} {session : Nat}
    {started : Operation × Core.Principals.XccSession Grant}
    (ok : brokerPerform world request session = .ok started) :
    (world.sessions session).rest.granted = true ∧
      (world.sessions session).rest.grantPending = false := by
  rw [brokerPerform, certificateBrokerPerform] at ok
  simp only [bind, Except.bind] at ok
  split at ok
  · cases ok
  · rename_i candidate allowed
    exact grantRefusal_ok allowed

section Starts

variable {rest : List Post} (basic : Basic world)
  (posts : world.posts = .start id :: rest)

include basic posts

theorem moved_acquireStart (kind : (world.requests id).kind = .acquire) :
    Moved world (xccAcquireStart { world with posts := rest } id) := by
  rcases taken_validate basic posts with ⟨taken, opened⟩
  rw [xccAcquireStart]
  generalize xccRequestValidate { world with posts := rest } id = verdict
    at taken opened
  rcases verdict with ⟨error, next⟩
  dsimp only at taken opened ⊢
  have same : (next.requests id).kind = (world.requests id).kind :=
    congrArg Asked.kind taken.asked
  split_ifs with bad granted pending
  · exact moved_refused taken bad
  · exact moved_refused taken XccErrorCode.noConfusion
  · exact moved_refused taken XccErrorCode.noConfusion
  · have bound : (world.requests id).session.isSome = true := by
      apply basic.orderly.bound id
      rw [show ((floor world).requests id).kind = _ from kind]
      exact XccResultKind.noConfusion
    rcases Option.isSome_iff_exists.mp bound with ⟨session, bound⟩
    have here : (next.requests id).session = some session :=
      (congrArg Asked.session taken.asked).trans bound
    refine taken.moved.trans (Moved.one (.begun taken.unanswered taken.active
      taken.untouched (same.trans kind) here
      (opened (not_not.mp bad) session bound) ?_ ?_))
    · rw [alreadyGranted, here] at granted
      exact Bool.eq_false_iff.mpr granted
    · intro other active apart shares acquires
      rw [Bool.not_eq_true, acquisitionPending, List.any_eq_false] at pending
      have free := pending other active
      rw [here, shares, acquires] at free
      simpa [apart] using free

theorem moved_signStart (kind : (world.requests id).kind = .sign) :
    Moved world (xccSignStart { world with posts := rest } id) := by
  rcases taken_validate basic posts with ⟨taken, opened⟩
  rw [xccSignStart]
  generalize xccRequestValidate { world with posts := rest } id = verdict
    at taken opened
  rcases verdict with ⟨error, next⟩
  dsimp only at taken opened ⊢
  split_ifs with bad
  · exact moved_refused taken bad
  · have same : (next.requests id).kind = (world.requests id).kind :=
      congrArg Asked.kind taken.asked
    have bound : (world.requests id).session.isSome = true := by
      apply basic.orderly.bound id
      rw [show ((floor world).requests id).kind = _ from kind]
      exact XccResultKind.noConfusion
    rcases Option.isSome_iff_exists.mp bound with ⟨session, bound⟩
    have here : (next.requests id).session = some session :=
      (congrArg Asked.session taken.asked).trans bound
    rw [here]
    dsimp only
    cases started : brokerPerform next (next.requests id) session with
    | error error => exact moved_refused taken (onOperationDone_bad error)
    | ok started =>
        have granted := brokerPerform_granted started
        have handed : Moved next (handOver next id) := by
          refine Moved.one (.handed taken.unanswered taken.active ?_ ?_)
          · rw [same, kind]
            exact XccResultKind.noConfusion
          · intro other bound'
            cases here.symm.trans bound'
            exact opened (not_not.mp bad) session bound
        exact (taken.moved.trans handed).trans
          (Moved.one (.signed granted.1 granted.2))

theorem moved_capabilitiesStart
    (kind : (world.requests id).kind = .capabilities) :
    Moved world (capabilitiesStart { world with posts := rest } id) := by
  rcases taken_validate basic posts with ⟨taken, opened⟩
  rw [capabilitiesStart]
  generalize xccRequestValidate { world with posts := rest } id = verdict
    at taken opened
  rcases verdict with ⟨error, next⟩
  dsimp only at taken opened ⊢
  split_ifs with bad
  · exact moved_refused taken bad
  · refine taken.moved.trans
      (Moved.one (.handed taken.unanswered taken.active ?_ ?_))
    · rw [show (next.requests id).kind = _ from
        congrArg Asked.kind taken.asked, kind]
      exact XccResultKind.noConfusion
    · intro session bound
      exact opened (not_not.mp bad) session
        ((congrArg Asked.session taken.asked).symm.trans bound)

/-- `start` is made of moves. -/
theorem moved_start :
    Moved world (start { world with posts := rest } id) := by
  rw [start]
  cases kind : (world.requests id).kind with
  | acquire => exact moved_acquireStart basic posts kind
  | sign => exact moved_signStart basic posts kind
  | capabilities => exact moved_capabilitiesStart basic posts kind

end Starts

end PortalCertificate.Context.Starts
