import PortalCertificate.Context.Nudges

/-!
# Where a request is

A request that has been answered is in one place: its completion is in the
queue of the desktop, the desktop is at it, its grant is being rolled back,
or its client has been called.  One that has not been answered waits for its
start, or the coordinator has taken it up.
-/

namespace PortalCertificate.Context.Accounts

open PortalCertificate.Context.Acquire
open PortalCertificate.Context.Completion
open PortalCertificate.Context.Machine
open PortalCertificate.Context.Moves
open PortalCertificate.Context.Nudges
open PortalCertificate.Context.Requests
open PortalCertificate.Context.Sessions
open PortalCertificate.Library.Transition

/-! ## Places -/

/-- The desktop is in the middle of this completion. -/
def desk (desktop : Desktop) (id : Nat) : Nat :=
  match desktop with
  | .idle => 0
  | .delivering other | .calling other => if other = id then 1 else 0

/-- A callback to the client of this request. -/
def isDone (id : Nat) : Event → Bool
  | .done other _ => other = id
  | _ => false

/-- How often the client of a request has been called. -/
def told (trace : List Event) (id : Nat) : Nat :=
  trace.countP (isDone id)

theorem told_cons_other {trace : List Event} {event : Event} {id : Nat}
    (other : isDone id event = false) :
    told (event :: trace) id = told trace id := by
  rw [told, List.countP_cons, other]
  rfl

/-- Where each request is: its start, its completion or the error of its
delivery is in just one place, and an active request has not been detached. -/
structure Located (world : World) : Prop where
  balance : ∀ id,
    world.queue.count (.completion id) + desk world.desktop id +
        world.posts.count (.rollbackAcquisition id) + told world.trace id =
      (world.requests id).answered.toNat
  started : ∀ id, .start id ∈ world.posts →
    id < world.nextRequest ∧ id ∉ world.active ∧
      (world.requests id).answered = false
  startedOnce : ∀ id, world.posts.count (.start id) ≤ 1
  nodup : world.active.Nodup
  taken : ∀ id ∈ world.active,
    id < world.nextRequest ∧ (world.requests id).detached = false
  rolling : ∀ id, .rollbackAcquisition id ∈ world.posts →
    id ∈ world.active
  acknowledged : ∀ id, .completionAck id ∈ world.posts →
    id ∈ world.active ∧ told world.trace id = 1
  acknowledgedOnce : ∀ id, world.posts.count (.completionAck id) ≤ 1
  waiting : ∀ id < world.nextRequest, (world.requests id).answered = false →
    .start id ∈ world.posts ∨ id ∈ world.active
  undelivered : ∀ id, (world.requests id).answered = true →
    told world.trace id = 0 →
      id ∈ world.active ∨ (world.requests id).detached = true
  late : ∀ id, (world.requests id).detached = true →
    (world.requests id).answered = true ∧
      (world.requests id).candidate = none ∧
      (world.requests id).result.error ≠ .ok
  unborn : ∀ id, world.nextRequest ≤ id →
    (world.requests id).answered = false ∧
      (world.requests id).detached = false
  past : world.ui.shutdownPosted = true →
    world.posts = [] ∧ world.active = [] ∧ world.ui.pending = []

/-! ## What leaves every request in its place -/

/-- No request has come to another place. -/
structure SamePlaces (before after : World) : Prop where
  completions : ∀ id,
    after.queue.count (.completion id) = before.queue.count (.completion id)
  desktop : after.desktop = before.desktop
  posts : after.posts = before.posts
  told : ∀ id, told after.trace id = told before.trace id
  active : after.active = before.active
  nextRequest : after.nextRequest = before.nextRequest
  answered : ∀ id,
    (after.requests id).answered = (before.requests id).answered
  detached : ∀ id,
    (after.requests id).detached = (before.requests id).detached
  late : ∀ id, (before.requests id).detached = true →
    (after.requests id).candidate = (before.requests id).candidate ∧
      ((before.requests id).result.error ≠ .ok →
        (after.requests id).result.error ≠ .ok)
  shutdownPosted : after.ui.shutdownPosted = before.ui.shutdownPosted
  pending : before.ui.shutdownPosted = true → before.ui.pending = [] →
    after.ui.pending = []

variable {world next : World}

theorem Located.same (located : Located world)
    (same : SamePlaces world next) : Located next where
  balance id := by
    rw [same.completions, same.desktop, same.posts, same.told, same.answered]
    exact located.balance id
  started id := by
    rw [same.posts, same.nextRequest, same.active, same.answered]
    exact located.started id
  startedOnce := by
    rw [same.posts]
    exact located.startedOnce
  nodup := by
    rw [same.active]
    exact located.nodup
  taken id := by
    rw [same.active, same.nextRequest, same.detached]
    exact located.taken id
  rolling id := by
    rw [same.posts, same.active]
    exact located.rolling id
  acknowledged id := by
    rw [same.posts, same.active, same.told]
    exact located.acknowledged id
  acknowledgedOnce := by
    rw [same.posts]
    exact located.acknowledgedOnce
  waiting id := by
    rw [same.nextRequest, same.answered, same.posts, same.active]
    exact located.waiting id
  undelivered id := by
    rw [same.answered, same.told, same.active, same.detached]
    exact located.undelivered id
  late id := by
    rw [same.detached, same.answered]
    intro late
    have before := located.late id late
    have kept := same.late id late
    exact ⟨before.1, kept.1.trans before.2.1, kept.2 before.2.2⟩
  unborn id := by
    rw [same.nextRequest, same.answered, same.detached]
    exact located.unborn id
  past posted := by
    rw [same.shutdownPosted] at posted
    rw [same.posts, same.active]
    have past := located.past posted
    exact ⟨past.1, past.2.1, same.pending posted past.2.2⟩

theorem SamePlaces.refl (world : World) : SamePlaces world world :=
  ⟨fun _ => rfl, rfl, rfl, fun _ => rfl, rfl, rfl, fun _ => rfl,
    fun _ => rfl, fun _ _ => ⟨rfl, id⟩, rfl, fun _ => id⟩

theorem SamePlaces.trans {last : World}
    (here : SamePlaces world next) (there : SamePlaces next last) :
    SamePlaces world last where
  completions id := (there.completions id).trans (here.completions id)
  desktop := there.desktop.trans here.desktop
  posts := there.posts.trans here.posts
  told id := (there.told id).trans (here.told id)
  active := there.active.trans here.active
  nextRequest := there.nextRequest.trans here.nextRequest
  answered id := (there.answered id).trans (here.answered id)
  detached id := (there.detached id).trans (here.detached id)
  late id late :=
    have next := there.late id ((here.detached id).trans late)
    have first := here.late id late
    ⟨next.1.trans first.1, fun bad => next.2 (first.2 bad)⟩
  shutdownPosted := there.shutdownPosted.trans here.shutdownPosted
  pending posted empty :=
    there.pending (here.shutdownPosted.trans posted)
      (here.pending posted empty)

theorem SamePlaces.emit {event : Event}
    (other : ∀ id, isDone id event = false) :
    SamePlaces world (world.emit event) :=
  { SamePlaces.refl world with
    told := fun id => told_cons_other (other id) }

/-- A request is written that stays where it is. -/
theorem SamePlaces.setRequest {id : Nat} {request : XccRequest}
    (answered : request.answered = (world.requests id).answered)
    (detached : request.detached = (world.requests id).detached)
    (late : (world.requests id).detached = true →
      request.candidate = (world.requests id).candidate ∧
        ((world.requests id).result.error ≠ .ok →
          request.result.error ≠ .ok)) :
    SamePlaces world (world.setRequest id request) := by
  exact { SamePlaces.refl world with
    answered := world.setRequest_field XccRequest.answered answered
    detached := world.setRequest_field XccRequest.detached detached
    late := by
      intro other detached
      show (Function.update world.requests id request other).candidate = _ ∧
        (_ → (Function.update world.requests id request
          other).result.error ≠ _)
      by_cases equal : other = id
      · rw [equal, Function.update_self]
        exact late (equal ▸ detached)
      · rw [Function.update_of_ne equal]
        exact ⟨rfl, fun bad => bad⟩ }

theorem samePlaces_startEnumeration (id : Nat) :
    SamePlaces world (startEnumeration world id) := by
  have wrote : SamePlaces world (world.setRequest id
      { world.requests id with
        enumerating := true, enumerateAgain := false }) :=
    .setRequest rfl rfl fun _ => ⟨rfl, fun bad => bad⟩
  exact { wrote with told := fun id => told_cons_other rfl }

theorem samePlaces_landed (id enumeration : Nat) :
    SamePlaces world (landed world id enumeration) := by
  have wrote : SamePlaces world (world.setRequest id
      { world.requests id with enumerating := false }) :=
    .setRequest rfl rfl fun _ => ⟨rfl, fun bad => bad⟩
  exact { wrote with }

theorem Touched.samePlaces (touched : Touched world next) :
    SamePlaces world next := by
  have steady := Touched.steady touched
  have rest := touched.rest
  exact
    { completions := fun id => by rw [rest]
      desktop := steady.desktop
      posts := steady.posts
      told := fun id => by rw [rest]
      active := steady.active
      nextRequest := steady.nextRequest
      answered := fun id => (touched.requests id).answered
      detached := fun id => (touched.requests id).detached
      late := fun id _ =>
        ⟨(touched.requests id).candidate,
          fun bad => (touched.requests id).result ▸ bad⟩
      shutdownPosted := touched.aside.shutdownPosted
      pending := touched.aside.pending }

theorem samePlaces_setSession (id : Nat) (session : Session) :
    SamePlaces world (world.setSession id session) :=
  { SamePlaces.refl world with }

theorem samePlaces_close (id : Nat) :
    SamePlaces world (xccSessionCloseInternal world id) := by
  cases closed : (world.sessions id).closed with
  | true =>
      rw [close_closed closed]
      exact .refl world
  | false =>
      rcases close_open closed with ⟨told, ending⟩
      have same := ((samePlaces_setSession id _).trans
        (Touched.samePlaces ending.touched)).trans
          (samePlaces_setSession id
            { told.sessions id with
              rest := { (told.sessions id).rest with
                expirySource := false } })
      rw [ending.last]
      exact { same with }

theorem Nudge.samePlaces (nudge : Nudge world next) :
    SamePlaces world next := by
  have steady := Nudge.steady nudge
  cases nudge with
  | touched touched => exact Touched.samePlaces touched
  | kept kept closed => exact samePlaces_setSession _ _
  | closes id => exact samePlaces_close id
  | emptied choosing running =>
      exact { SamePlaces.refl world with
        told := fun id => told_cons_other rfl
        shutdownPosted := steady.shutdownPosted
        pending := fun posted => by
          rw [running] at posted
          cases posted }
  | refreshed choosing landed => exact samePlaces_startEnumeration _
  | invalidated id reason running =>
      exact { SamePlaces.refl world with
        completions := fun other => by
          show (world.queue ++ [_]).count _ = _
          rw [List.count_append]
          rfl }

theorem Nudged.samePlaces (nudged : Nudged world next) :
    SamePlaces world next :=
  Composed.relates SamePlaces.refl (fun _ _ _ => SamePlaces.trans)
    (fun _ _ => Nudge.samePlaces) nudged

theorem samePlaces_dispatchPending
    (running : world.ui.shutdownPosted = false) :
    SamePlaces world (dispatchPending world) :=
  dispatchPending_keeps running (SamePlaces world)
    (fun _ _ nudge same => same.trans (Nudge.samePlaces nudge))
    (fun _ _ same => same.trans (.emit fun _ => rfl))
    { SamePlaces.refl world with }

/-! ## Requests on their way -/

section Places

variable {id : Nat} (located : Located world)

include located

/-- A request without an answer has no completion anywhere. -/
theorem Located.balance_open
    (unanswered : (world.requests id).answered = false) :
    world.queue.count (.completion id) = 0 ∧ desk world.desktop id = 0 ∧
      world.posts.count (.rollbackAcquisition id) = 0 ∧
      told world.trace id = 0 := by
  have balance := located.balance id
  rw [unanswered] at balance
  simp only [Bool.toNat_false] at balance
  omega

/-- There are no active requests once the UI has been shut down. -/
theorem Located.running (active : id ∈ world.active) :
    world.ui.shutdownPosted = false := by
  rw [Bool.eq_false_iff]
  intro posted
  rw [(located.past posted).2.1] at active
  cases active

/-- An active request has been made. -/
theorem Located.born (active : id ∈ world.active) : id < world.nextRequest :=
  (located.taken id active).1

/-- A completion that has not been delivered, of an accepted request. -/
theorem Located.activeOf
    (answered : (world.requests id).answered = true)
    (fresh : told world.trace id = 0)
    (accepted : (world.requests id).detached = false) :
    id ∈ world.active := by
  rcases located.undelivered id answered fresh with active | late
  · exact active
  · rw [accepted] at late
    cases late

/-- A completion in the queue is the only one, and its request is answered. -/
theorem Located.answered_of_queue
    (member : .completion id ∈ world.queue) :
    (world.requests id).answered = true ∧ desk world.desktop id = 0 ∧
      world.posts.count (.rollbackAcquisition id) = 0 ∧
      told world.trace id = 0 := by
  have balance := located.balance id
  have here := List.count_pos_iff.mpr member
  cases answered : (world.requests id).answered with
  | false =>
      rw [answered] at balance
      simp only [Bool.toNat_false] at balance
      omega
  | true =>
      rw [answered] at balance
      simp only [Bool.toNat_true] at balance
      refine ⟨rfl, ?_, ?_, ?_⟩ <;> omega

/-- A completion at the desktop is the only one, and its request is answered. -/
theorem Located.answered_of_desk (here : desk world.desktop id = 1) :
    (world.requests id).answered = true ∧
      world.queue.count (.completion id) = 0 ∧
      world.posts.count (.rollbackAcquisition id) = 0 ∧
      told world.trace id = 0 := by
  have balance := located.balance id
  cases answered : (world.requests id).answered with
  | false =>
      rw [answered] at balance
      simp only [Bool.toNat_false] at balance
      omega
  | true =>
      rw [answered] at balance
      simp only [Bool.toNat_true] at balance
      refine ⟨rfl, ?_, ?_, ?_⟩ <;> omega

end Places

/-! ## Lists of posts -/

theorem plain_ne {post : Post} (plain : Post.plain post = true) (id : Nat) :
    post ≠ .start id ∧ post ≠ .rollbackAcquisition id ∧
      post ≠ .completionAck id := by
  refine ⟨?_, ?_, ?_⟩ <;> rintro rfl <;> cases plain

theorem count_concat_ne {Entry : Type} [DecidableEq Entry]
    {entries : List Entry} {last other : Entry} (ne : last ≠ other) :
    (entries ++ [last]).count other = entries.count other := by
  rw [List.count_append, List.count_singleton,
    if_neg (by simpa using ne), Nat.add_zero]

theorem mem_concat_ne {Entry : Type} {entries : List Entry}
    {last other : Entry} (ne : last ≠ other)
    (member : other ∈ entries ++ [last]) : other ∈ entries := by
  rcases List.mem_append.mp member with member | same
  · exact member
  · exact absurd (List.mem_singleton.mp same).symm ne

/-! ## Requests that come to another place -/

section Arrivals

variable {id : Nat} (located : Located world)

include located

/-- A request that is scheduled is found at its start. -/
theorem Located.scheduled (asked : Asked)
    (principal : Core.Principals.XccPrincipal)
    (running : world.ui.shutdownPosted = false) :
    Located
      { world.setRequest world.nextRequest (xccRequestNew asked principal)
        with
        nextRequest := world.nextRequest + 1
        posts := world.posts ++ [.start world.nextRequest] } where
  balance id := by
    have balance := located.balance id
    by_cases here : id = world.nextRequest
    · rw [here, (located.unborn _ (Nat.le_refl _)).1] at balance
      simpa [World.setRequest, here, xccRequestNew] using balance
    · simpa [World.setRequest, Function.update_of_ne here] using balance
  started other member := by
    rcases List.mem_append.mp member with member | member
    · rcases located.started other member with ⟨born, elsewhere, fresh⟩
      refine ⟨Nat.lt_succ_of_lt born, elsewhere, ?_⟩
      simpa [World.setRequest, Function.update_of_ne (Nat.ne_of_lt born)]
        using fresh
    · cases List.mem_singleton.mp member
      refine ⟨Nat.lt_succ_self _, ?_, ?_⟩
      · exact fun active => Nat.lt_irrefl _ (located.born active)
      · simp [World.setRequest, xccRequestNew]
  startedOnce other := by
    have once := located.startedOnce other
    by_cases here : world.nextRequest = other
    · have none : world.posts.count (.start other) = 0 := by
        apply List.count_eq_zero.mpr
        intro member
        exact Nat.lt_irrefl _ (here ▸ (located.started other member).1)
      simp [none, here]
    · simpa [List.count_cons, here] using once
  nodup := located.nodup
  taken other active := by
    have born := located.born active
    refine ⟨Nat.lt_succ_of_lt born, ?_⟩
    simpa [World.setRequest, Function.update_of_ne (Nat.ne_of_lt born)]
      using (located.taken other active).2
  rolling other member := by
    apply located.rolling other
    simpa using member
  acknowledged other member := by
    apply located.acknowledged other
    simpa using member
  acknowledgedOnce other := by
    have once := located.acknowledgedOnce other
    simpa [List.count_append] using once
  waiting other born fresh := by
    rcases Nat.lt_succ_iff_lt_or_eq.mp born with earlier | rfl
    · have same : (world.requests other).answered = false := by
        simpa [World.setRequest, Function.update_of_ne (Nat.ne_of_lt earlier)]
          using fresh
      rcases located.waiting other earlier same with posted | active
      · exact .inl (List.mem_append_left _ posted)
      · exact .inr active
    · exact .inl (List.mem_append_right _ (List.mem_singleton_self _))
  undelivered other answered fresh := by
    by_cases here : other = world.nextRequest
    · rw [here] at answered
      simp [World.setRequest, xccRequestNew] at answered
    · simp only [World.setRequest, Function.update_of_ne here] at answered ⊢
      exact located.undelivered other answered fresh
  late other detached := by
    by_cases here : other = world.nextRequest
    · rw [here] at detached
      simp [World.setRequest, xccRequestNew] at detached
    · simp only [World.setRequest, Function.update_of_ne here] at detached ⊢
      exact located.late other detached
  unborn other later := by
    have after : other ≠ world.nextRequest := by
      rintro rfl
      exact Nat.not_succ_le_self _ later
    simp only [World.setRequest, Function.update_of_ne after]
    exact located.unborn other (Nat.le_of_succ_le later)
  past posted := absurd (running.symm.trans posted) Bool.false_ne_true

/-- A request that comes after the shutdown is found answered at once. -/
theorem Located.refused (asked : Asked)
    (principal : Core.Principals.XccPrincipal)
    {error : Core.Coordinator.XccErrorCode} (bad : error ≠ .ok)
    (past : world.ui.shutdownPosted = true) :
    Located
      { world.setRequest world.nextRequest
          (lateRequest asked principal error) with
        nextRequest := world.nextRequest + 1
        queue := world.queue ++ [.completion world.nextRequest] } where
  balance id := by
    have balance := located.balance id
    by_cases here : id = world.nextRequest
    · rw [here, (located.unborn _ (Nat.le_refl _)).1] at balance
      simp only [Bool.toNat_false] at balance
      simp [World.setRequest, here, lateRequest]
      omega
    · have other : ¬world.nextRequest = id := fun same => here same.symm
      simpa [World.setRequest, Function.update_of_ne here, other,
        List.count_cons] using balance
  started other member := by
    have posted : Post.start other ∈ world.posts := member
    rw [(located.past past).1] at posted
    cases posted
  startedOnce := located.startedOnce
  nodup := located.nodup
  taken other active := by
    have member : other ∈ world.active := active
    rw [(located.past past).2.1] at member
    cases member
  rolling := located.rolling
  acknowledged := located.acknowledged
  acknowledgedOnce := located.acknowledgedOnce
  waiting other born fresh := by
    rcases Nat.lt_succ_iff_lt_or_eq.mp born with earlier | rfl
    · have same : (world.requests other).answered = false := by
        simpa [World.setRequest, Function.update_of_ne (Nat.ne_of_lt earlier)]
          using fresh
      exact located.waiting other earlier same
    · simp [World.setRequest, lateRequest] at fresh
  undelivered other answered fresh := by
    by_cases here : other = world.nextRequest
    · right
      simp [World.setRequest, here, lateRequest]
    · simp only [World.setRequest, Function.update_of_ne here] at answered ⊢
      exact located.undelivered other answered fresh
  late other detached := by
    by_cases here : other = world.nextRequest
    · simp [World.setRequest, here, lateRequest, xccRequestNew, bad]
    · simp only [World.setRequest, Function.update_of_ne here] at detached ⊢
      exact located.late other detached
  unborn other later := by
    have after : other ≠ world.nextRequest := by
      rintro rfl
      exact Nat.not_succ_le_self _ later
    simp only [World.setRequest, Function.update_of_ne after]
    exact located.unborn other (Nat.le_of_succ_le later)
  past posted := located.past posted

theorem Located.mailed {post : Post} (plain : Post.plain post = true)
    (running : world.ui.shutdownPosted = false) :
    Located { world with posts := world.posts ++ [post] } where
  balance id := by
    show _ + _ + (world.posts ++ [post]).count _ + _ = _
    rw [count_concat_ne (plain_ne plain id).2.1]
    exact located.balance id
  started other member :=
    located.started other (mem_concat_ne (plain_ne plain other).1 member)
  startedOnce other := by
    show (world.posts ++ [post]).count _ ≤ 1
    rw [count_concat_ne (plain_ne plain other).1]
    exact located.startedOnce other
  nodup := located.nodup
  taken := located.taken
  rolling other member :=
    located.rolling other (mem_concat_ne (plain_ne plain other).2.1 member)
  acknowledged other member :=
    located.acknowledged other
      (mem_concat_ne (plain_ne plain other).2.2 member)
  acknowledgedOnce other := by
    show (world.posts ++ [post]).count _ ≤ 1
    rw [count_concat_ne (plain_ne plain other).2.2]
    exact located.acknowledgedOnce other
  waiting other born fresh := by
    rcases located.waiting other born fresh with posted | active
    · exact .inl (List.mem_append_left _ posted)
    · exact .inr active
  undelivered := located.undelivered
  late := located.late
  unborn := located.unborn
  past posted := absurd (running.symm.trans posted) Bool.false_ne_true

/-- A post that is taken carried no request. -/
theorem Located.opened {post : Post} {rest : List Post}
    (plain : Post.plain post = true) (posts : world.posts = post :: rest) :
    Located { world with posts := rest } where
  balance id := by
    have balance := located.balance id
    rw [posts, List.count_cons_of_ne (plain_ne plain id).2.1] at balance
    exact balance
  started other member := by
    apply located.started other
    rw [posts]
    exact List.mem_cons_of_mem _ member
  startedOnce other := by
    have once := located.startedOnce other
    rw [posts] at once
    exact (List.count_le_count_cons ..).trans once
  nodup := located.nodup
  taken := located.taken
  rolling other member := by
    apply located.rolling other
    rw [posts]
    exact List.mem_cons_of_mem _ member
  acknowledged other member := by
    apply located.acknowledged other
    rw [posts]
    exact List.mem_cons_of_mem _ member
  acknowledgedOnce other := by
    have once := located.acknowledgedOnce other
    rw [posts] at once
    exact (List.count_le_count_cons ..).trans once
  waiting other born fresh := by
    rcases located.waiting other born fresh with posted | active
    · rw [posts] at posted
      rcases List.mem_cons.mp posted with same | posted
      · rw [← same] at plain
        cases plain
      · exact .inl posted
    · exact .inr active
  undelivered := located.undelivered
  late := located.late
  unborn := located.unborn
  past posted := by
    have past := located.past posted
    rw [posts] at past
    cases past.1

/-- A request that is started becomes an active one. -/
theorem Located.validated {rest : List Post}
    (posts : world.posts = .start id :: rest) :
    Located
      ({ world with posts := rest, active := world.active ++ [id] }.emit
        (.validated id world.generation)) := by
  have here := located.started id (posts ▸ List.mem_cons_self ..)
  have elsewhere : .start id ∉ rest := by
    have once := located.startedOnce id
    rw [posts, List.count_cons_self] at once
    intro member
    have more := List.count_pos_iff.mpr member
    omega
  have noted (other : Nat) :
      told (.validated id world.generation :: world.trace) other =
        told world.trace other := told_cons_other rfl
  refine
    { balance := ?_, started := ?_, startedOnce := ?_, nodup := ?_
      taken := ?_, rolling := ?_, acknowledged := ?_, acknowledgedOnce := ?_
      waiting := ?_, undelivered := ?_, late := located.late
      unborn := located.unborn, past := ?_ }
  · intro other
    have balance := located.balance other
    rw [posts, List.count_cons_of_ne Post.noConfusion] at balance
    show _ + _ + _ + told (_ :: world.trace) other = _
    rw [noted]
    exact balance
  · intro other member
    have before := located.started other
      (posts ▸ List.mem_cons_of_mem _ member)
    refine ⟨before.1, ?_, before.2.2⟩
    intro active
    rcases List.mem_append.mp active with active | same
    · exact before.2.1 active
    · cases List.mem_singleton.mp same
      exact elsewhere member
  · intro other
    have once := located.startedOnce other
    rw [posts] at once
    exact (List.count_le_count_cons ..).trans once
  · apply located.nodup.append (List.nodup_singleton id)
    simpa using here.2.1
  · intro other active
    rcases List.mem_append.mp active with active | same
    · exact located.taken other active
    · cases List.mem_singleton.mp same
      refine ⟨here.1, ?_⟩
      rw [Bool.eq_false_iff]
      intro detached
      have answered := (located.late id detached).1
      rw [here.2.2] at answered
      cases answered
  · intro other member
    exact List.mem_append_left _ (located.rolling other
      (posts ▸ List.mem_cons_of_mem _ member))
  · intro other member
    have before := located.acknowledged other
      (posts ▸ List.mem_cons_of_mem _ member)
    exact ⟨List.mem_append_left _ before.1, (noted other).trans before.2⟩
  · intro other
    have once := located.acknowledgedOnce other
    rw [posts] at once
    exact (List.count_le_count_cons ..).trans once
  · intro other born fresh
    rcases located.waiting other born fresh with posted | active
    · rw [posts] at posted
      rcases List.mem_cons.mp posted with same | posted
      · cases same
        exact .inr (List.mem_append_right _ (List.mem_singleton_self _))
      · exact .inl posted
    · exact .inr (List.mem_append_left _ active)
  · intro other answered fresh
    rcases located.undelivered other answered ((noted other).symm.trans fresh)
      with active | late
    · exact .inl (List.mem_append_left _ active)
    · exact .inr late
  · intro posted
    have past := located.past posted
    rw [posts] at past
    cases past.1

/-- A request that the coordinator has taken up is answered. -/
theorem Located.answers {request : XccRequest}
    (unanswered : (world.requests id).answered = false)
    (active : id ∈ world.active) (answered : request.answered = true)
    (detached : request.detached = (world.requests id).detached) :
    Located ((world.setRequest id request).dispatch (.completion id)) := by
  have empty := located.balance_open unanswered
  have accepted : request.detached = false :=
    detached.trans (located.taken id active).2
  refine
    { balance := ?_, started := ?_, startedOnce := located.startedOnce
      nodup := located.nodup, taken := ?_, rolling := located.rolling
      acknowledged := located.acknowledged
      acknowledgedOnce := located.acknowledgedOnce
      waiting := ?_, undelivered := ?_, late := ?_, unborn := ?_
      past := located.past }
  · intro other
    show (world.queue ++ [Delivery.completion id]).count
          (Delivery.completion other) +
        desk world.desktop other +
        world.posts.count (.rollbackAcquisition other) +
        told world.trace other =
      (Function.update world.requests id request other).answered.toNat
    by_cases here : other = id
    · rw [here, Function.update_self, answered, List.count_append,
        List.count_singleton_self, empty.1, empty.2.1, empty.2.2.1,
        empty.2.2.2]
      rfl
    · have other : Delivery.completion id ≠ .completion other := by
        rintro ⟨rfl⟩
        exact here rfl
      rw [Function.update_of_ne here, count_concat_ne other]
      exact located.balance _
  · intro other member
    have before := located.started other member
    have here : other ≠ id := by
      rintro rfl
      exact before.2.1 active
    refine ⟨before.1, before.2.1, ?_⟩
    show (Function.update world.requests id request other).answered = _
    rw [Function.update_of_ne here]
    exact before.2.2
  · intro other member
    have before := located.taken other member
    refine ⟨before.1, ?_⟩
    show (Function.update world.requests id request other).detached = _
    by_cases here : other = id
    · rw [here, Function.update_self]
      exact accepted
    · rw [Function.update_of_ne here]
      exact before.2
  · intro other born fresh
    have unchanged : (world.requests other).answered = false := by
      change (Function.update world.requests id request other).answered = _
        at fresh
      by_cases here : other = id
      · rw [here]
        exact unanswered
      · rwa [Function.update_of_ne here] at fresh
    exact located.waiting other born unchanged
  · intro other done fresh
    by_cases here : other = id
    · exact .inl (here ▸ active)
    · change (Function.update world.requests id request other).answered = _
        at done
      show _ ∨ (Function.update world.requests id request other).detached = _
      rw [Function.update_of_ne here] at done ⊢
      exact located.undelivered other done fresh
  · intro other late
    change (Function.update world.requests id request other).detached = _
      at late
    show (Function.update world.requests id request other).answered = _ ∧
      (Function.update world.requests id request other).candidate = _ ∧
      (Function.update world.requests id request other).result.error ≠ _
    by_cases here : other = id
    · rw [here, Function.update_self, accepted] at late
      cases late
    · rw [Function.update_of_ne here] at late ⊢
      exact located.late other late
  · intro other later
    have here : other ≠ id := by
      rintro rfl
      exact Nat.not_lt_of_le later (located.born active)
    show (Function.update world.requests id request other).answered = _ ∧
      (Function.update world.requests id request other).detached = _
    rw [Function.update_of_ne here]
    exact located.unborn other later

end Arrivals

end PortalCertificate.Context.Accounts
