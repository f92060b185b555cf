import PortalCertificate.Context.Atomicity

/-!
# Sessions that have ended

A session that is not of the current owner has ended, and nothing succeeds
for a session that has ended: its requests are not granted anything, and no
delivery of them reads a success.  A request that was running, that had been
answered or that comes later is told of an error.

The callbacks of the coordinator are atomic steps, so a session ends before
or after a callback and never during one.
-/

namespace PortalCertificate.Context.Fencing

open PortalCertificate.Context.Accounts
open PortalCertificate.Context.Acquire
open PortalCertificate.Context.Atomicity (exampleGranting)
open PortalCertificate.Context.Callbacks
open PortalCertificate.Context.Completion
open PortalCertificate.Context.Deliveries
open PortalCertificate.Context.Floors
open PortalCertificate.Context.Grants
open PortalCertificate.Context.Lasting
open PortalCertificate.Context.Machine
open PortalCertificate.Context.Moves
open PortalCertificate.Context.Nudges
open PortalCertificate.Context.Requests
open PortalCertificate.Context.Sessions
open PortalCertificate.Context.Starts
open PortalCertificate.Context.Steps
open PortalCertificate.Context.Turns
open PortalCertificate.Core.Coordinator (XccErrorCode)
open PortalCertificate.Core.Principals (XccSessionSpec)
open PortalCertificate.Library.Trace
open PortalCertificate.Library.Transition
open PortalCertificate.Tokens.Discovery

variable {world next : World} {id session : Nat}

/-! ## Requests without a future -/

/-- Nothing has been handed over and no answer has been given. -/
structure Idle (request : XccRequest) : Prop where
  unanswered : request.answered = false
  resting : request.working = false

/-- A request that can be told of an error only, or has been told. -/
inductive Spent (world : World) (id : Nat) : Prop where
  | idle (idle : Idle (world.requests id))
  | unwanted (intent : (world.requests id).cancelIntent.isSome = true)
      (away : desk world.desktop id = 0)
  | refused (answered : (world.requests id).answered = true)
      (bad : (world.requests id).result.error ≠ .ok)
  | past (told : told world.trace id = 1)

/-- The coordinator has the request for a session that has ended. -/
def Shut (world : World) (id : Nat) : Prop :=
  id ∈ world.active → ∃ session,
    (world.requests id).session = some session ∧
      (world.sessions session).closed = true

theorem Idle.continues {before after : XccRequest} (idle : Idle before)
    (continues : Continues before after) : Idle after :=
  ⟨continues.answered.trans idle.unanswered,
    continues.working.trans idle.resting⟩

theorem Spent.steady (spent : Spent world id) (steady : Steady world next)
    (same : told next.trace id = told world.trace id) : Spent next id := by
  have continues := steady.requests id
  cases spent with
  | idle idle => exact .idle (idle.continues continues)
  | unwanted intent away =>
      exact .unwanted (continues.intent intent) (steady.desktop ▸ away)
  | refused answered bad =>
      exact .refused (continues.answered.trans answered)
        (continues.result ▸ bad)
  | past told => exact .past (same.trans told)

theorem complete_other {other : Nat} (error : XccErrorCode)
    (apart : id ≠ other) :
    (xccRequestComplete world other error).requests id =
      world.requests id := by
  rw [xccRequestComplete]
  dsimp only
  split_ifs
  · rfl
  · exact Function.update_of_ne apart ..

@[simp]
theorem requests_sessionNewRegister (world : World) (spec : XccSessionSpec) :
    (sessionNewRegister world spec).requests = world.requests := by
  rw [sessionNewRegister]
  split_ifs <;> rfl

@[simp]
theorem requests_checkShutdown (world : World) :
    (xccContextCheckShutdown world).requests = world.requests := by
  rw [xccContextCheckShutdown]
  split_ifs <;> rfl

@[simp]
theorem requests_post (world : World) (post : Post) :
    (world.post post).requests = world.requests := by
  rw [World.post]
  split_ifs <;> rfl

@[simp]
theorem requests_completionSettles (world : World) (id : Nat) :
    (completionSettles world id).requests = world.requests := by
  rw [completionSettles]
  dsimp only
  split_ifs
  · exact requests_post world _
  · split <;> rfl
  · rfl

@[simp]
theorem requests_completionCalls (world : World) (id : Nat) :
    (completionCalls world id).requests = world.requests := by
  rw [completionCalls]
  dsimp only
  split_ifs
  · rfl
  · rw [requests_post]
    rfl

theorem requests_rollbackAcquisition (world : World) (id : Nat) :
    (rollbackAcquisition world id).requests =
      Function.update world.requests id
        { world.requests id with candidate := none } := by
  rw [rollbackAcquisition]
  dsimp only
  split <;> rfl

/-- An answer without the grant and without the work is an error. -/
theorem spent_complete {error : XccErrorCode}
    (unanswered : (world.requests id).answered = false)
    (bad : error ≠ .ok) : Spent (xccRequestComplete world id error) id := by
  refine .refused (answered_completes world id error) ?_
  rw [xccRequestComplete_open unanswered]
  show ((world.setRequest id _).requests id).result.error ≠ .ok
  rw [World.setRequest_self]
  exact answerError_bad bad

/-! ## What one move leaves of them -/

section Idle

variable (idle : Idle (world.requests id))

include idle

theorem idle_write {other : Nat} {request : XccRequest}
    (requests : next.requests = Function.update world.requests other request)
    (written : id = other → Idle request) : Idle (next.requests id) := by
  rw [requests]
  by_cases same : id = other
  · rw [same, Function.update_self]
    exact written same
  · rw [Function.update_of_ne same]
    exact idle

theorem idle_landed (other enumeration : Nat) :
    Idle ((landed world other enumeration).requests id) := by
  refine idle_write idle (by rfl) ?_
  rintro rfl
  exact ⟨idle.unanswered, idle.resting⟩

theorem idle_publish (other enumeration : Nat)
    (candidates : List CertificateCandidate) (tokensPresent : Bool) :
    Idle ((publish world other enumeration candidates
      tokensPresent).requests id) := by
  rw [publish]
  split
  · exact idle
  · refine idle_write idle (by rfl) ?_
    rintro rfl
    exact ⟨idle.unanswered, idle.resting⟩

theorem spent_idle (move : Move world next) (shut : Shut world id) :
    Spent next id := by
  have goesOn {after : XccRequest}
      (continues : Continues (world.requests id) after)
      (last : next.requests id = after) : Spent next id := by
    refine .idle ?_
    rw [last]
    exact idle.continues continues
  have same (requests : next.requests = world.requests) :
      Spent next id := by
    refine .idle ?_
    rwa [requests]
  have write {other : Nat} {request : XccRequest}
      (requests :
        next.requests = Function.update world.requests other request)
      (written : id = other → Idle request) : Spent next id :=
    .idle (idle_write idle requests written)
  cases move with
  | nudge nudge => exact goesOn ((Nudge.steady nudge).requests id) rfl
  | dispatched running =>
      exact goesOn ((steady_dispatchPending running).requests id) rfl
  | @regenerated value rest running posts =>
      exact goesOn ((Nudged.steady (@nudged_generation
        { world with posts := rest } running value)).requests id) rfl
  | scheduled => exact write (by rfl) fun _ => ⟨rfl, rfl⟩
  | @refused asked principal error bad =>
      by_cases here : id = world.nextRequest
      · have made : (world.setRequest world.nextRequest
            (lateRequest asked principal error)).requests id =
              lateRequest asked principal error := by
          rw [here, World.setRequest_self]
        refine .refused (congrArg XccRequest.answered made) ?_
        show ((world.setRequest world.nextRequest
          (lateRequest asked principal error)).requests id).result.error ≠ _
        rw [made]
        exact bad
      · exact write (by rfl) fun there => absurd there here
  | begun =>
      refine write (by rfl) ?_
      rintro rfl
      exact ⟨idle.unanswered, idle.resting⟩
  | handed unanswered active kind opened =>
      refine write (by rfl) ?_
      rintro rfl
      rcases shut active with ⟨session, bound, closed⟩
      rw [opened session bound] at closed
      cases closed
  | @answered other error answerable good =>
      by_cases here : id = other
      · subst here
        refine spent_complete idle.unanswered ?_
        intro ok
        have working := (good ok).2
        rw [idle.resting] at working
        cases working
      · refine .idle ?_
        rwa [complete_other error here]
  | landed => exact .idle (idle_landed idle _ _)
  | @restarted other enumeration =>
      have landed := idle_landed idle other enumeration
      refine .idle (idle_write landed (by rfl) ?_)
      rintro rfl
      exact ⟨landed.unanswered, landed.resting⟩
  | published => exact .idle (idle_publish (idle_landed idle _ _) ..)
  | concluded =>
      refine write (by rfl) ?_
      rintro rfl
      rw [conclude]
      split_ifs <;> exact ⟨idle.unanswered, idle.resting⟩
  | @granted other session candidate answerable completed bound opened =>
      by_cases here : id = other
      · subst here
        rcases shut answerable.active with ⟨shared, there, closed⟩
        rw [bound] at there
        cases there
        rw [opened] at closed
        cases closed
      · refine .idle ?_
        rw [complete_other .ok here]
        exact idle_write idle (by rfl) fun there => absurd there here
  | registered spec => exact same (requests_sessionNewRegister world spec)
  | @rolledBack other rest posts =>
      refine write (requests_rollbackAcquisition _ other) ?_
      rintro rfl
      exact ⟨idle.unanswered, idle.resting⟩
  | reads =>
      refine write (by rfl) ?_
      rintro rfl
      exact ⟨idle.unanswered, idle.resting⟩
  | shut => exact same (requests_checkShutdown world)
  | settles => exact same (requests_completionSettles world _)
  | calls => exact same (requests_completionCalls world _)
  | _ => exact same rfl

end Idle

/-- An answer that is an error stays one. -/
theorem refused_move (move : Move world next) (located : Located world)
    (answered : (world.requests id).answered = true)
    (bad : (world.requests id).result.error ≠ .ok) :
    (next.requests id).result.error ≠ .ok := by
  have born : id < world.nextRequest := by
    by_contra unborn
    have fresh := (located.unborn id (Nat.le_of_not_lt unborn)).1
    rw [answered] at fresh
    cases fresh
  have same (requests : next.requests = world.requests) :
      (next.requests id).result.error ≠ .ok := by
    rwa [requests]
  have write {other : Nat} {request : XccRequest}
      (requests :
        next.requests = Function.update world.requests other request)
      (written : id = other → request.result.error ≠ .ok) :
      (next.requests id).result.error ≠ .ok := by
    rw [requests]
    by_cases here : id = other
    · rw [here, Function.update_self]
      exact written here
    · rwa [Function.update_of_ne here]
  rcases quiet_move move with quiet | ⟨request, made⟩ | settled
  · rw [((quiet.requests id).kept answered).2]
    exact bad
  · exact write made.requests fun here => absurd here born.ne
  · cases settled with
    | registered spec => exact same (requests_sessionNewRegister world spec)
    | @granted other session candidate answerable =>
        have apart : id ≠ other := by
          rintro rfl
          rw [answerable.unanswered] at answered
          cases answered
        rw [complete_other .ok apart]
        show (Function.update world.requests other _ id).result.error ≠ _
        rwa [Function.update_of_ne apart]
    | rolledBack posts =>
        exact write (requests_rollbackAcquisition _ _)
          fun here => here ▸ bad
    | reads idle queue =>
        exact write (by rfl) fun here => readResult_bad (here ▸ bad)
    | settles delivering =>
        exact same (requests_completionSettles world _)
    | calls calling => exact same (requests_completionCalls world _)

theorem trace_completionCalls (world : World) (id : Nat) :
    (completionCalls world id).trace =
      .done id (world.requests id).result :: world.trace := by
  rw [completionCalls]
  dsimp only
  split_ifs
  · rfl
  · rw [trace_post]
    rfl

theorem trace_completionSettles (world : World) (id : Nat) :
    (completionSettles world id).trace = world.trace := by
  rw [completionSettles]
  dsimp only
  split_ifs
  · exact trace_post world _
  · split <;> rfl
  · rfl

theorem desktop_post (world : World) (post : Post) :
    (world.post post).desktop = world.desktop := by
  rw [World.post]
  split_ifs <;> rfl

theorem desktop_completionCalls (world : World) (id : Nat) :
    (completionCalls world id).desktop = .idle := by
  rw [completionCalls]
  dsimp only
  split_ifs
  · rfl
  · rw [desktop_post]

@[simp]
theorem desktop_xccRequestComplete (world : World) (id : Nat)
    (error : XccErrorCode) :
    (xccRequestComplete world id error).desktop = world.desktop := by
  rw [xccRequestComplete]
  dsimp only
  split_ifs <;> rfl

theorem desktop_sessionNewRegister (world : World) (spec : XccSessionSpec) :
    (sessionNewRegister world spec).desktop = world.desktop := by
  rw [sessionNewRegister]
  split_ifs <;> rfl

theorem desktop_rollbackAcquisition (world : World) (id : Nat) :
    (rollbackAcquisition world id).desktop = world.desktop := by
  rw [rollbackAcquisition]
  split <;> rfl

/-- Once a delivery is settled, the desktop is idle or about to call back. -/
theorem completionSettles_desktop (world : World) (id : Nat) :
    (completionSettles world id).desktop = .idle ∨
      (completionSettles world id).desktop = .calling id := by
  rw [completionSettles]
  dsimp only
  split_ifs
  · exact .inl rfl
  · right
    split <;> rfl
  · exact .inr rfl

/-- A grant is taken back, or the client is called next. -/
theorem completionSettles_cases (world : World) (id : Nat) :
    (completionSettles world id).desktop = .calling id ∨
      (world.requests id).result.error ≠ .ok := by
  rw [completionSettles]
  dsimp only
  split_ifs with granted bad
  · exact .inr bad
  · left
    split <;> rfl
  · exact .inl rfl

/-- The desktop comes to a request by reading its completion. -/
theorem desk_move (move : Move world next)
    (away : desk world.desktop id = 0) :
    desk next.desktop id = 0 ∨ ∃ rest,
      world.queue = .completion id :: rest ∧
        next = completionReads { world with queue := rest } id := by
  rcases quiet_move move with quiet | ⟨request, made⟩ | settled
  · exact .inl (quiet.desktop ▸ away)
  · exact .inl (made.desktop ▸ away)
  · cases settled with
    | registered spec =>
        rw [desktop_sessionNewRegister]
        exact .inl away
    | @granted other session candidate =>
        rw [desktop_xccRequestComplete]
        exact .inl away
    | rolledBack posts =>
        rw [desktop_rollbackAcquisition]
        exact .inl away
    | @reads other rest idle queue =>
        by_cases here : other = id
        · subst here
          exact .inr ⟨rest, queue, rfl⟩
        · exact .inl (if_neg here)
    | @settles other delivering =>
        left
        rw [delivering] at away
        have apart : other ≠ id := by
          rintro rfl
          rw [desk, if_pos rfl] at away
          cases away
        rcases completionSettles_desktop world other with idle | calling
        · rw [idle]
          rfl
        · rw [calling]
          exact if_neg apart
    | @calls other calling =>
        left
        rw [desktop_completionCalls]
        rfl

/-- A request that the desktop is at is called back, or taken back. -/
theorem desk_spent (move : Move world next) (located : Located world)
    (here : desk world.desktop id = 1) :
    Spent next id ∨ desk next.desktop id = 1 := by
  have answered := located.answered_of_desk here
  have stays {desktop : Desktop} (same : desktop = world.desktop) :
      desk desktop id = 1 := by
    rwa [same]
  rcases quiet_move move with quiet | ⟨request, made⟩ | settled
  · exact .inr (stays quiet.desktop)
  · exact .inr (stays made.desktop)
  · cases settled with
    | registered spec => exact .inr (stays (desktop_sessionNewRegister ..))
    | granted => exact .inr (stays (desktop_xccRequestComplete ..))
    | rolledBack posts =>
        exact .inr (stays (desktop_rollbackAcquisition _ _))
    | reads idle queue =>
        rw [idle] at here
        cases here
    | @settles other delivering =>
        have same : other = id := by
          by_contra apart
          rw [delivering, desk, if_neg apart] at here
          cases here
        subst same
        rcases completionSettles_cases world other with calling | bad
        · right
          rw [calling]
          exact if_pos rfl
        · left
          exact .refused (by
            rw [requests_completionSettles]
            exact answered.1) (by
            rw [requests_completionSettles]
            exact bad)
    | @calls other calling =>
        have same : other = id := by
          by_contra apart
          rw [calling, desk, if_neg apart] at here
          cases here
        subst same
        left
        refine .past ?_
        rw [trace_completionCalls, told_done, if_pos rfl, answered.2.2.2]

/-- What has not been made is idle. -/
theorem idle_unborn (located : Located world) (orderly : Orderly (floor world))
    (unborn : world.nextRequest ≤ id) : Idle (world.requests id) where
  unanswered := (located.unborn id unborn).1
  resting := by
    rw [Bool.eq_false_iff]
    intro working
    rcases (orderly.works id working).2 with answered | active
    · have fresh := (located.unborn id unborn).1
      rw [show (world.requests id).answered = true from answered] at fresh
      cases fresh
    · exact absurd (located.born active) (Nat.not_lt.mpr unborn)

/-- Every move keeps a spent request of a session that has ended spent. -/
theorem spent_move (move : Move world next) (basic : Basic world)
    (shut : Shut world id) (spent : Spent world id) : Spent next id := by
  have located := basic.located
  cases spent with
  | idle idle => exact spent_idle idle move shut
  | refused answered bad =>
      refine .refused ?_ (refused_move move located answered bad)
      refine answered_move move ?_ answered
      by_contra unborn
      have fresh := (located.unborn id (Nat.le_of_not_lt unborn)).1
      rw [answered] at fresh
      cases fresh
  | unwanted intent away =>
      rcases Nat.lt_or_ge id world.nextRequest with born | unborn
      · have kept := (lasting_move move basic.orderly born).intent intent
        rcases desk_move move away with away | ⟨rest, queue, last⟩
        · exact .unwanted kept away
        · have answered := (located.answered_of_queue (by
            rw [queue]
            exact List.mem_cons_self ..)).1
          have doomed : (readResult (world.requests id)).error ≠ .ok := by
            intro ok
            rw [(readResult_ok ok).1] at intent
            cases intent
          have read : next.requests id =
              { world.requests id with
                result := readResult (world.requests id) } := by
            rw [last]
            exact World.setRequest_self ..
          refine .refused ?_ ?_
          · rw [read]
            exact answered
          · rw [read]
            exact doomed
      · exact spent_idle (idle_unborn located basic.orderly unborn) move shut
  | past told =>
      refine .past ?_
      have grown : Accounts.told world.trace id ≤
          Accounts.told next.trace id := (trace_move move).sublist.countP_le
      have balance := (basic_move move basic).located.balance id
      have bound := ((next.requests id).answered).toNat_le
      omega

/-! ## Sessions that end -/

/-- A request of a session that has ended is spent, unless the desktop is
at it. -/
def Ended (world : World) : Prop :=
  ∀ id session, (world.requests id).session = some session →
    (world.sessions session).closed = true →
      Spent world id ∨ desk world.desktop id = 1

/-- What the loops of the coordinator need to know of all requests. -/
structure Footing (world : World) : Prop where
  located : Located world
  works : ∀ id, (world.requests id).working = true →
    (world.requests id).answered = true ∨ id ∈ world.active

theorem footing_of_basic (basic : Basic world) : Footing world :=
  ⟨basic.located, fun id working => (basic.orderly.works id working).2⟩

theorem Footing.steady (footing : Footing world) (steady : Steady world next)
    (same : SamePlaces world next) : Footing next where
  located := footing.located.same same
  works id working := by
    have continues := steady.requests id
    rw [continues.working] at working
    rw [continues.answered, steady.active]
    exact footing.works id working

theorem spent_closes (footing : Footing world)
    (opened : (world.sessions session).closed = false)
    (bound : (world.requests id).session = some session) :
    Spent (xccSessionCloseInternal world session) id ∨
      desk (xccSessionCloseInternal world session).desktop id = 1 := by
  have steady := @steady_close world session
  have located := footing.located
  have continues := steady.requests id
  have wanted (active : id ∈ world.active)
      (away : desk world.desktop id = 0) :
      Spent (xccSessionCloseInternal world session) id := by
    rcases close_open opened with ⟨told, ending⟩
    refine .unwanted ?_ (steady.desktop ▸ away)
    rw [ending.last]
    exact ending.wanted id active bound
  have balance := located.balance id
  have bounded := (world.requests id).answered.toNat_le
  have desks : desk world.desktop id = 0 ∨ desk world.desktop id = 1 := by
    omega
  rcases desks with away | here
  · left
    cases answered : (world.requests id).answered with
    | false =>
        cases working : (world.requests id).working with
        | false =>
            exact .idle (Idle.continues ⟨answered, working⟩ continues)
        | true =>
            rcases footing.works id working with told | active
            · rw [answered] at told
              cases told
            · exact wanted active away
    | true =>
        by_cases fresh : told world.trace id = 0
        · rcases located.undelivered id answered fresh with active | late
          · exact wanted active away
          · have told := located.late id late
            exact .refused (continues.answered.trans told.1)
              (continues.result ▸ told.2.2)
        · refine .past ?_
          rw [(samePlaces_close session).told id]
          omega
  · right
    exact steady.desktop ▸ here

theorem sessions_close_other {other : Nat} (apart : session ≠ other) :
    (xccSessionCloseInternal world other).sessions session =
      world.sessions session := by
  cases closed : (world.sessions other).closed with
  | true => rw [close_closed closed]
  | false =>
      rcases close_open closed with ⟨told, ending⟩
      rw [ending.last]
      show Function.update told.sessions other _ session = _
      rw [Function.update_of_ne apart, ending.touched.rest]
      exact Function.update_of_ne apart ..

/-- Only its own end closes a session. -/
theorem closed_nudge (nudge : Nudge world next)
    (opened : (world.sessions session).closed = false)
    (closed : (next.sessions session).closed = true) :
    next = xccSessionCloseInternal world session := by
  cases nudge with
  | closes other =>
      by_cases same : session = other
      · rw [same]
      · rw [sessions_close_other same, opened] at closed
        cases closed
  | touched touched =>
      rw [touched.rest] at closed
      rw [show (world.sessions session).closed = true from closed] at opened
      cases opened
  | @kept other written kept same =>
      have fields : ((world.setSession other written).sessions
          session).closed = (world.sessions session).closed := by
        show (Function.update world.sessions other written session).closed = _
        by_cases here : session = other
        · rw [here, Function.update_self, same]
        · rw [Function.update_of_ne here]
      rw [fields, opened] at closed
      cases closed
  | _ =>
      rw [show (world.sessions session).closed = true from closed] at opened
      cases opened

theorem ended_nudge (nudge : Nudge world next) (footing : Footing world)
    (ended : Ended world) : Ended next := by
  have steady := Nudge.steady nudge
  have same := Nudge.samePlaces nudge
  intro id session bound closed
  have before : (world.requests id).session = some session :=
    (congrArg Asked.session (steady.requests id).asked).symm.trans bound
  cases past : (world.sessions session).closed with
  | true =>
      rcases ended id session before past with spent | here
      · exact .inl (spent.steady steady (same.told id))
      · exact .inr (steady.desktop ▸ here)
  | false =>
      rw [closed_nudge nudge past closed]
      exact spent_closes footing past before

theorem ended_nudged (nudged : Nudged world next) (footing : Footing world)
    (ended : Ended world) : Ended next :=
  (@Composed.keeps _ _ (fun world => Footing world ∧ Ended world)
    (fun _ _ nudge here =>
      ⟨here.1.steady (Nudge.steady nudge) (Nudge.samePlaces nudge),
        ended_nudge nudge here.1 here.2⟩) _ _ nudged ⟨footing, ended⟩).2

theorem ended_dispatchPending (running : world.ui.shutdownPosted = false)
    (footing : Footing world) (ended : Ended world) :
    Ended (dispatchPending world) := by
  have kept := dispatchPending_keeps running
    (fun world => Footing world ∧ Ended world)
    (fun _ _ nudge here =>
      ⟨here.1.steady (Nudge.steady nudge) (Nudge.samePlaces nudge),
        ended_nudge nudge here.1 here.2⟩)
    (fun world event here =>
      ⟨here.1.steady (.emit _) (.emit fun _ => rfl),
        fun id session bound closed =>
          (here.2 id session bound closed).imp_left
            (fun spent => spent.steady (.emit _) (told_cons_other rfl))⟩)
    ⟨footing.steady { Steady.refl world with } { SamePlaces.refl world with },
      fun id session bound closed =>
        (ended id session bound closed).imp_left
          (fun spent => spent.steady { Steady.refl world with } rfl)⟩
  exact kept.2

/-! ## The owner -/

/-- A session that has not ended is one of the current owner. -/
def Current (world : World) : Prop :=
  ∀ session, (world.sessions session).closed = false →
    (world.sessions session).ownerGeneration = world.generation

theorem Current.steady (current : Current world)
    (steady : Steady world next) : Current next := by
  intro session opened
  have before : (world.sessions session).closed = false := by
    rw [Bool.eq_false_iff]
    intro closed
    rw [(steady.sessions session).closed closed] at opened
    cases opened
  rw [(steady.sessions session).ownerGeneration, steady.generation]
  exact current session before

theorem closed_close (world : World) (session : Nat) :
    ((xccSessionCloseInternal world session).sessions session).closed =
      true := by
  cases closed : (world.sessions session).closed with
  | true => rwa [close_closed closed]
  | false =>
      rcases close_open closed with ⟨told, ending⟩
      rw [ending.last]
      show (Function.update told.sessions session _ session).closed = true
      rw [Function.update_self, ending.touched.rest]
      exact congrArg (fun session : Session => session.closed)
        (World.setSession_self world session
          { world.sessions session with closed := true })

/-- A new generation ends the sessions of the others. -/
theorem current_generation (value : Nat)
    (running : world.ui.shutdownPosted = false)
    (live : ∀ id, (world.sessions id).closed = false → id ∈ world.live) :
    Current (generation world value) := by
  let set := { world with generation := value }.emit (.ownerGeneration value)
  have fenced : Touched set (eachRequest set fence) :=
    touched_eachRequest fun _ => touched_fence
  have steady := Nudged.steady (@nudged_generation world running value)
  intro session opened
  have before : (world.sessions session).closed = false := by
    rw [Bool.eq_false_iff]
    intro closed
    rw [(steady.sessions session).closed closed] at opened
    cases opened
  have listed : session ∈ (eachRequest set fence).live := by
    rw [fenced.rest]
    exact live session before
  have settled := @settled_foldl (eachRequest set fence) Nat
    (fun world session =>
      if (world.sessions session).ownerGeneration ≠ world.generation then
        xccSessionCloseInternal world session
      else world)
    (fun world session => (world.sessions session).closed = true ∨
      (world.sessions session).ownerGeneration = world.generation)
    (fun world session _ => by
      split_ifs
      · exact nudged_close session
      · exact .refl)
    (fun before after session nudged settled => by
      have steady := Nudged.steady nudged
      rw [(steady.sessions session).ownerGeneration, steady.generation]
      exact settled.imp_left (steady.sessions session).closed)
    (fun world session _ => by
      split_ifs with foreign
      · exact .inl (closed_close world session)
      · exact .inr (not_not.mp foreign))
    _ (fenced.aside.shutdownPosted.trans running) session listed
  rcases settled with closed | current
  · change ((generation world value).sessions session).closed = true
      at closed
    rw [opened] at closed
    cases closed
  · exact current

/-! ## All moves -/

/-- No session ends or is opened again, and one that is new is of the
current owner. -/
structure Stands (world next : World) : Prop where
  closed : ∀ session, (next.sessions session).closed = true →
    (world.sessions session).closed = true
  ends : ∀ session < world.nextSession,
    (world.sessions session).closed = true →
      (next.sessions session).closed = true
  current : ∀ session, (next.sessions session).closed = false →
    (next.sessions session).ownerGeneration = next.generation ∨
      (world.sessions session).closed = false ∧
        (next.sessions session).ownerGeneration =
            (world.sessions session).ownerGeneration ∧
          next.generation = world.generation
  owner : ∀ session < world.nextSession,
    (next.sessions session).ownerGeneration =
      (world.sessions session).ownerGeneration
  known : world.nextSession ≤ next.nextSession

theorem Stands.same (sessions : next.sessions = world.sessions)
    (generation : next.generation = world.generation)
    (known : next.nextSession = world.nextSession) :
    Stands world next where
  closed session closed := by rwa [sessions] at closed
  ends session _ closed := by rwa [sessions]
  current session opened := by
    rw [sessions] at opened ⊢
    exact .inr ⟨opened, rfl, generation⟩
  owner session _ := by rw [sessions]
  known := known.ge

theorem Stands.write {written : Session}
    (sessions :
      next.sessions = Function.update world.sessions session written)
    (generation : next.generation = world.generation)
    (known : next.nextSession = world.nextSession)
    (closed : written.closed = (world.sessions session).closed)
    (owner :
      written.ownerGeneration = (world.sessions session).ownerGeneration) :
    Stands world next := by
  have fields (other : Nat) :
      (next.sessions other).closed = (world.sessions other).closed ∧
        (next.sessions other).ownerGeneration =
          (world.sessions other).ownerGeneration := by
    rw [sessions]
    by_cases here : other = session
    · rw [here, Function.update_self]
      exact ⟨closed, owner⟩
    · rw [Function.update_of_ne here]
      exact ⟨rfl, rfl⟩
  exact
    { closed := fun other closed => (fields other).1.symm.trans closed
      ends := fun other _ closed => (fields other).1.trans closed
      current := fun other opened => .inr
        ⟨(fields other).1.symm.trans opened, (fields other).2, generation⟩
      owner := fun other _ => (fields other).2
      known := known.ge }

theorem Stands.opens {written : Session}
    (sessions : next.sessions =
      Function.update world.sessions world.nextSession written)
    (generation : next.generation = world.generation)
    (known : next.nextSession = world.nextSession + 1)
    (opened : written.closed = false)
    (current : written.ownerGeneration = next.generation) :
    Stands world next where
  closed session closed := by
    rw [sessions] at closed
    by_cases new : session = world.nextSession
    · rw [new, Function.update_self, opened] at closed
      cases closed
    · rwa [Function.update_of_ne new] at closed
  ends session old closed := by
    rwa [sessions, Function.update_of_ne old.ne]
  current session opened := by
    rw [sessions] at opened ⊢
    by_cases new : session = world.nextSession
    · rw [new, Function.update_self]
      exact .inl current
    · rw [Function.update_of_ne new] at opened ⊢
      exact .inr ⟨opened, rfl, generation⟩
  owner session old := by rw [sessions, Function.update_of_ne old.ne]
  known := known ▸ Nat.le_succ _

/-- The moves that grants depend on end no session. -/
theorem stands_settled (settled : Settled world next) :
    Stands world next := by
  cases settled with
  | registered spec =>
      rw [sessionNewRegister]
      split_ifs with refused
      · exact .same rfl rfl rfl
      · refine .opens rfl rfl rfl rfl ?_
        by_contra foreign
        exact refused (Bool.or_eq_true_iff.mpr
          (.inr (decide_eq_true foreign)))
  | @granted id session candidate =>
      rw [xccRequestComplete]
      dsimp only
      split_ifs
      · exact .write rfl rfl rfl rfl rfl
      · exact .write rfl rfl rfl rfl rfl
  | rolledBack posts =>
      rw [rollbackAcquisition]
      dsimp only
      split
      · exact .write rfl rfl rfl rfl rfl
      · exact .same rfl rfl rfl
  | reads idle queue => exact .same rfl rfl rfl
  | settles delivering =>
      rw [completionSettles]
      dsimp only
      split_ifs
      · rw [World.post]
        split_ifs <;> exact .same rfl rfl rfl
      · split
        · exact .write rfl rfl rfl rfl rfl
        · exact .same rfl rfl rfl
      · exact .same rfl rfl rfl
  | calls calling =>
      rw [completionCalls]
      dsimp only
      split_ifs
      · exact .same rfl rfl rfl
      · rw [World.post]
        split_ifs <;> exact .same rfl rfl rfl

/-- Nothing is left to succeed for a session that is not current. -/
structure Fenced (world : World) : Prop where
  ended : Ended world
  current : Current world

/-- A move that lets the sessions stand keeps the fence. -/
theorem Fenced.stands (fenced : Fenced world) (move : Move world next)
    (basic : Basic world) (stands : Stands world next) : Fenced next where
  ended := by
    intro id session bound closed
    have before := stands.closed session closed
    rcases Nat.lt_or_ge id world.nextRequest with born | unborn
    · have asked := (lasting_move move basic.orderly born).asked
      have bound := (congrArg Asked.session asked).symm.trans bound
      rcases fenced.ended id session bound before with spent | here
      · exact .inl (spent_move move basic
          (fun _ => ⟨session, bound, before⟩) spent)
      · exact desk_spent move basic.located here
    · have idle := idle_unborn basic.located basic.orderly unborn
      refine .inl (spent_idle idle move fun active => ?_)
      exact absurd (basic.located.born active) (Nat.not_lt.mpr unborn)
  current session opened := by
    rcases stands.current session opened with current | ⟨before, same, rest⟩
    · exact current
    · rw [same, rest]
      exact fenced.current session before

theorem fenced_nudged (nudged : Nudged world next) (footing : Footing world)
    (fenced : Fenced world) : Fenced next :=
  ⟨ended_nudged nudged footing fenced.ended,
    fenced.current.steady (Nudged.steady nudged)⟩

theorem fenced_regenerated {value : Nat} {rest : List Post}
    (running : world.ui.shutdownPosted = false)
    (posts : world.posts = .generation value :: rest)
    (basic : Basic world) (ended : Ended world) :
    Fenced (generation { world with posts := rest } value) := by
  have located := (basic_move (.opened rfl posts) basic).located
  let set := { world with posts := rest, generation := value }.emit
    (.ownerGeneration value)
  have footing : Footing set :=
    { located := located.same { SamePlaces.refl _ with
        told := fun _ => told_cons_other rfl }
      works := (footing_of_basic basic).works }
  have before : Ended set := fun id session bound closed =>
    (ended id session bound closed).imp_left fun spent => by
      cases spent with
      | idle idle => exact .idle idle
      | unwanted intent away => exact .unwanted intent away
      | refused answered bad => exact .refused answered bad
      | past told => exact .past ((told_cons_other rfl).trans told)
  exact
    { ended := ended_nudged
        (@nudged_generation { world with posts := rest } running value)
        footing before
      current := current_generation value running (basic.live running) }

theorem fenced_move (move : Move world next) (basic : Basic world)
    (fenced : Fenced world) : Fenced next := by
  have footing := footing_of_basic basic
  have stands := fenced.stands move basic
  cases move with
  | nudge nudge => exact fenced_nudged (Nudged.one nudge) footing fenced
  | dispatched running =>
      exact ⟨ended_dispatchPending running footing fenced.ended,
        fenced.current.steady (steady_dispatchPending running)⟩
  | regenerated running posts =>
      exact fenced_regenerated running posts basic fenced.ended
  | registered spec => exact stands (stands_settled (.registered spec))
  | granted answerable completed bound opened wanted =>
      exact stands (stands_settled
        (.granted answerable completed bound opened wanted))
  | rolledBack posts => exact stands (stands_settled (.rolledBack posts))
  | reads idle queue => exact stands (stands_settled (.reads idle queue))
  | settles delivering => exact stands (stands_settled (.settles delivering))
  | calls calling => exact stands (stands_settled (.calls calling))
  | answered =>
      apply stands
      rw [xccRequestComplete]
      dsimp only
      split_ifs <;> exact .same rfl rfl rfl
  | published =>
      apply stands
      rw [publish]
      split <;> exact .same rfl rfl rfl
  | shut ready =>
      apply stands
      rw [xccContextCheckShutdown, if_pos ready]
      exact .same rfl rfl rfl
  | _ => exact stands (.same rfl rfl rfl)

/-- Nothing is left to succeed for a session that is not current, in every
reachable state. -/
theorem fenced_of_reachable (reachable : machine.Reachable world) :
    Fenced world := by
  refine invariant_of_moves ?_ (fun _ _ basic fenced move =>
    fenced_move move basic fenced) reachable
  intro ui generation now _
  refine ⟨fun id session bound => ?_, fun session opened => ?_⟩
  · cases bound
  · cases opened

/-! ## Runs -/

/-- What is still said of a session that has ended, after a time when the
desktop was at this. -/
def Refusing (world : World) (session : Nat) (desktop : Desktop) :
    Event → Prop
  | .delivering id _ error =>
      (world.requests id).session = some session → error ≠ .ok
  | .done id result =>
      (world.requests id).session = some session → desk desktop id = 0 →
        result.error ≠ .ok
  | .granted _ other _ => other ≠ session
  | _ => True

/-- An event is of a request that has been made. -/
def Known (world : World) : Event → Prop
  | .delivering id _ _ | .done id _ => id < world.nextRequest
  | _ => True

/-- A session has ended, and its requests are spent from then on. -/
structure Closing (first world : World) (session : Nat) : Prop where
  known : session < world.nextSession
  closed : (world.sessions session).closed = true
  spent : ∀ id, (world.requests id).session = some session →
    desk first.desktop id = 0 → Spent world id
  adds : Adds
    (fun event => Known world event ∧
      Refusing world session first.desktop event)
    first.trace world.trace

/-- A session that has ended is not opened again. -/
theorem ends_move (move : Move world next)
    (known : session < world.nextSession)
    (closed : (world.sessions session).closed = true) :
    session < next.nextSession ∧ (next.sessions session).closed = true := by
  rcases quiet_move move with quiet | ⟨request, made⟩ | settled
  · exact ⟨quiet.nextSession ▸ known,
      (quiet.sessions session).closed closed⟩
  · exact ⟨made.nextSession ▸ known, made.sessions ▸ closed⟩
  · have stands := stands_settled settled
    exact ⟨Nat.lt_of_lt_of_le known stands.known,
      stands.ends session known closed⟩

/-- What has been said of requests stays said of them. -/
theorem refusing_later (move : Move world next) (basic : Basic world)
    {desktop : Desktop} {event : Event}
    (here : Known world event ∧ Refusing world session desktop event) :
    Known next event ∧ Refusing next session desktop event := by
  have later {id : Nat} (born : id < world.nextRequest) :
      id < next.nextRequest ∧
        ((next.requests id).session = some session →
          (world.requests id).session = some session) := by
    refine ⟨Nat.lt_of_lt_of_le born (nextRequest_move move),
      fun bound => ?_⟩
    exact (congrArg Asked.session
      (lasting_move move basic.orderly born).asked).symm.trans bound
  cases event with
  | delivering id intent error =>
      have kept := later here.1
      exact ⟨kept.1, fun bound => here.2 (kept.2 bound)⟩
  | done id result =>
      have kept := later here.1
      exact ⟨kept.1, fun bound => here.2 (kept.2 bound)⟩
  | granted id other candidate => exact ⟨trivial, here.2⟩
  | _ => exact ⟨trivial, trivial⟩

theorem refusing_notes {event : Event} {first : World}
    (notes : Notes world next event) (basic : Basic world)
    (fenced : Fenced world) (closing : Closing first world session) :
    Known world event ∧ Refusing world session first.desktop event := by
  have located := basic.located
  have born {id : Nat} (answered : (world.requests id).answered = true) :
      id < world.nextRequest := by
    by_contra unborn
    rw [(located.unborn id (Nat.le_of_not_lt unborn)).1] at answered
    cases answered
  cases notes with
  | @granted id other candidate answerable completed bound opened =>
      refine ⟨trivial, ?_⟩
      rintro rfl
      rw [closing.closed] at opened
      cases opened
  | @delivering id rest idle queue =>
      have place := located.answered_of_queue (by
        rw [queue]
        exact List.mem_cons_self ..)
      refine ⟨born place.1, fun bound ok => ?_⟩
      have read := readResult_ok ok
      rcases fenced.ended id session bound closing.closed with spent | here
      · cases spent with
        | idle idle =>
            rw [idle.unanswered] at place
            cases place.1
        | unwanted intent away =>
            rw [read.1] at intent
            cases intent
        | refused answered bad => exact bad read.2
        | past told =>
            rw [place.2.2.2] at told
            cases told
      · rw [place.2.1] at here
        cases here
  | @done id calling =>
      have here : desk world.desktop id = 1 := by
        rw [calling, desk, if_pos rfl]
      have place := located.answered_of_desk here
      refine ⟨born place.1, fun bound away => ?_⟩
      cases closing.spent id bound away with
      | idle idle =>
          rw [idle.unanswered] at place
          cases place.1
      | unwanted intent away =>
          rw [here] at away
          cases away
      | refused answered bad => exact bad
      | past told =>
          rw [place.2.2.2] at told
          cases told
  | _ => exact ⟨trivial, trivial⟩

theorem closing_move {first : World} (move : Move world next)
    (basic : Basic world) (fenced : Fenced world)
    (closing : Closing first world session) : Closing first next session := by
  have ends := ends_move move closing.known closing.closed
  refine ⟨ends.1, ends.2, fun id bound away => ?_, ?_⟩
  · rcases Nat.lt_or_ge id world.nextRequest with born | unborn
    · have asked := (lasting_move move basic.orderly born).asked
      have bound := (congrArg Asked.session asked).symm.trans bound
      exact spent_move move basic
        (fun _ => ⟨session, bound, closing.closed⟩)
        (closing.spent id bound away)
    · have idle := idle_unborn basic.located basic.orderly unborn
      refine spent_idle idle move fun active => ?_
      exact absurd (basic.located.born active) (Nat.not_lt.mpr unborn)
  · have kept := closing.adds.mono fun event => refusing_later move basic
    cases news_move move with
    | aside adds =>
        refine kept.trans (adds.mono fun event aside => ?_)
        cases event <;> first | exact ⟨trivial, trivial⟩ | cases aside
    | notes notes trace =>
        rw [trace]
        exact kept.cons (refusing_later move basic
          (refusing_notes notes basic fenced closing))

/-- A session that has ended, or that is not of the current owner, has
nothing more to expect in any run: it stays closed, it is granted nothing,
and its requests are told of errors. -/
theorem fenced_run {actions : List Action}
    (reachable : machine.Reachable world)
    (known : session < world.nextSession)
    (foreign : (world.sessions session).closed = true ∨
      (world.sessions session).ownerGeneration ≠ world.generation)
    (run : machine.run world actions = some next) :
    (next.sessions session).closed = true ∧
      Adds (Refusing next session world.desktop) world.trace next.trace := by
  have basic := basic_of_reachable reachable
  have fenced := fenced_of_reachable reachable
  have closed : (world.sessions session).closed = true := by
    rcases foreign with closed | foreign
    · exact closed
    · by_contra opened
      exact foreign (fenced.current session (Bool.eq_false_iff.mpr opened))
  have spent (id : Nat) (bound : (world.requests id).session = some session)
      (away : desk world.desktop id = 0) : Spent world id := by
    rcases fenced.ended id session bound closed with spent | here
    · exact spent
    · rw [away] at here
      cases here
  have all := @Composed.keeps _ _
    (fun later => Basic later ∧ Fenced later ∧ Closing world later session)
    (by
      rintro first second move ⟨basic, fenced, closing⟩
      exact ⟨basic_move move basic, fenced_move move basic fenced,
        closing_move move basic fenced closing⟩)
    _ _ (moved_run basic run)
    ⟨basic, fenced, known, closed, spent, .refl _⟩
  exact ⟨all.2.2.closed, all.2.2.adds.mono fun _ here => here.2⟩

/-- A new owner between a grant and its delivery. -/
theorem fenced_run_undelivered :
    ∃ world next before,
      machine.run exampleStart
          (exampleGranting ++ [.setOwnerGeneration 2, .post]) = some world ∧
        machine.run world
            [.deliver, .proceed, .post, .deliver, .proceed, .proceed] =
          some next ∧
        (world.sessions 0).rest.granted = true ∧
        next.trace = .done 0 (next.requests 0).result :: before ∧
        (next.sessions 0).closed = true ∧
        Adds (Refusing next 0 world.desktop) world.trace next.trace := by
  have run : ∃ world next before,
      machine.run exampleStart
          (exampleGranting ++ [.setOwnerGeneration 2, .post]) = some world ∧
        machine.run world
            [.deliver, .proceed, .post, .deliver, .proceed, .proceed] =
          some next ∧
        (world.sessions 0).rest.granted = true ∧
        next.trace = .done 0 (next.requests 0).result :: before ∧
        (world.sessions 0).closed = true ∧ 0 < world.nextSession :=
    ⟨_, _, _, rfl, rfl, rfl, rfl, rfl, by decide⟩
  rcases run with ⟨world, next, before, moved, later, granted, told, closed,
    known⟩
  exact ⟨world, next, before, moved, later, granted, told,
    fenced_run (exampleStart_reachable.run moved) known (.inl closed) later⟩

end PortalCertificate.Context.Fencing
