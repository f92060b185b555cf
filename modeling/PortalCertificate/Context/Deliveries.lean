import PortalCertificate.Context.Accounts

/-!
# Deliveries keep every request in one place

The moves of the desktop and of the acknowledgements hand a request from one
place to the next, and the other moves leave it where it is.
-/

namespace PortalCertificate.Context.Deliveries

open PortalCertificate.Context.Accounts
open PortalCertificate.Context.Acquire
open PortalCertificate.Context.Completion
open PortalCertificate.Context.Machine
open PortalCertificate.Context.Moves
open PortalCertificate.Context.Nudges
open PortalCertificate.Context.Requests
open PortalCertificate.Context.Sessions
open PortalCertificate.Core.Coordinator (XccErrorCode)
open PortalCertificate.Core.UiFrames
open PortalCertificate.Library.Transition
open PortalCertificate.Tokens.Discovery

variable {world next : World} {id : Nat}

/-! ## Moves that leave every request in its place -/

theorem samePlaces_conclude (request : XccRequest)
    (chosen : Option CertificateCandidate) (error : XccErrorCode) :
    (conclude request chosen error).answered = request.answered ∧
      (conclude request chosen error).detached = request.detached ∧
      (conclude request chosen error).candidate = request.candidate ∧
      (conclude request chosen error).result = request.result := by
  rw [conclude]
  split_ifs <;> exact ⟨rfl, rfl, rfl, rfl⟩

theorem samePlaces_publish (enumeration : Nat)
    (candidates : List CertificateCandidate) (tokensPresent : Bool)
    (running : world.ui.shutdownPosted = false) :
    SamePlaces world
      (publish world id enumeration candidates tokensPresent) := by
  have past {value : Bool} (posted : world.ui.shutdownPosted = true) :
      value = true := by
    rw [running] at posted
    cases posted
  rw [publish]
  cases choosing : (world.requests id).chooser with
  | none =>
      rcases surroundings_show world.ui (some (cancellable id)) candidates
        tokensPresent with ⟨chooser, -, -, -, same⟩
      have wrote : SamePlaces world (world.setRequest id
          { world.requests id with chooser := some world.ui.nextChooser }) :=
        .setRequest rfl rfl fun _ => ⟨rfl, fun bad => bad⟩
      exact { wrote with
        told := fun id => told_cons_other rfl
        shutdownPosted := congrArg Surroundings.shutdownPosted same
        pending := fun posted => by
          rw [running] at posted
          cases posted }
  | some chooser =>
      refine { SamePlaces.refl world with
        told := fun id => told_cons_other rfl
        shutdownPosted := ?_
        pending := fun posted => by
          rw [running] at posted
          cases posted }
      show (Core.Chooser.chooserUpdate world.ui chooser candidates
        tokensPresent).shutdownPosted = _
      by_cases showing : (world.ui.choosers chooser).finished = true
      · rw [Core.Chooser.chooserUpdate, if_pos showing]
      · exact congrArg Surroundings.shutdownPosted
          (surroundings_update world.ui chooser candidates tokensPresent
            (Bool.eq_false_iff.mpr showing))

theorem samePlaces_grantRequest {session : Nat}
    {candidate : CertificateCandidate}
    (accepted : (world.requests id).detached = false) :
    SamePlaces world (grantRequest world id session candidate) := by
  have wrote : SamePlaces world (world.setRequest id
      { world.requests id with
        candidate := some candidate
        result := { (world.requests id).result with
          maySign := (world.requests id).maySign } }) :=
    .setRequest rfl rfl fun late => by
      rw [accepted] at late
      cases late
  exact { wrote with told := fun id => told_cons_other rfl }

theorem samePlaces_outside {now : Int} {held : Nat}
    {events : List Tokens.Watcher.WatchEvent}
    {watchStopped shutdownStarted : Bool} :
    SamePlaces world
      { world with now, held, events, watchStopped, shutdownStarted } :=
  { SamePlaces.refl world with }

theorem samePlaces_regenerated (value : Nat) :
    SamePlaces world
      ({ world with generation := value }.emit (.ownerGeneration value)) :=
  { SamePlaces.refl world with told := fun _ => told_cons_other rfl }

theorem samePlaces_registered (spec : Core.Principals.XccSessionSpec) :
    SamePlaces world (sessionNewRegister world spec) := by
  rw [sessionNewRegister]
  split_ifs
  · exact .refl world
  · exact { SamePlaces.refl world with }

/-! ## Answers -/

section Answers

variable (located : Located world)

include located

theorem located_completes {error : XccErrorCode}
    (unanswered : (world.requests id).answered = false)
    (active : id ∈ world.active) :
    Located (xccRequestComplete world id error) := by
  rw [xccRequestComplete, unanswered]
  exact located.answers unanswered active rfl rfl

theorem located_grants {session : Nat} {candidate : CertificateCandidate}
    (unanswered : (world.requests id).answered = false)
    (active : id ∈ world.active) :
    Located (xccRequestComplete (grantRequest world id session candidate)
      id .ok) := by
  have same := @samePlaces_grantRequest world id session candidate
    (located.taken id active).2
  apply located_completes (located.same same)
  · rw [same.answered]
    exact unanswered
  · rw [same.active]
    exact active

/-! ## The desktop -/

end Answers

/-- In how many places an answer is. -/
def places (world : World) (id : Nat) : Nat :=
  world.queue.count (.completion id) + desk world.desktop id +
    world.posts.count (.rollbackAcquisition id) + told world.trace id

/-- An answer that goes from a place to the next. -/
structure Handed (before after : World) : Prop where
  places : ∀ id, places after id = places before id
  starts : ∀ id,
    after.posts.count (.start id) = before.posts.count (.start id)
  rolling : ∀ id, .rollbackAcquisition id ∈ after.posts →
    .rollbackAcquisition id ∈ before.posts ∨ id ∈ before.active
  acknowledged : ∀ id, .completionAck id ∈ after.posts →
    id ∈ before.active ∧ told after.trace id = 1
  acknowledgedOnce : ∀ id, after.posts.count (.completionAck id) ≤ 1
  told : ∀ id, told before.trace id ≤ told after.trace id
  active : after.active = before.active
  nextRequest : after.nextRequest = before.nextRequest
  answered : ∀ id,
    (after.requests id).answered = (before.requests id).answered
  detached : ∀ id,
    (after.requests id).detached = (before.requests id).detached
  late : ∀ id, (before.requests id).detached = true →
    (after.requests id).candidate = (before.requests id).candidate ∧
      ((before.requests id).result.error ≠ .ok →
        (after.requests id).result.error ≠ .ok)
  past : after.ui.shutdownPosted = true →
    before.ui.shutdownPosted = true ∧ after.posts = [] ∧
      after.ui.pending = before.ui.pending

theorem located_handed (located : Located world)
    (handed : Handed world next) : Located next where
  balance id := by
    have balance := located.balance id
    rw [handed.answered]
    exact (handed.places id).trans balance
  started id member := by
    have before : .start id ∈ world.posts := by
      rw [← List.count_pos_iff] at member ⊢
      rwa [← handed.starts]
    rw [handed.nextRequest, handed.active, handed.answered]
    exact located.started id before
  startedOnce id := by
    rw [handed.starts]
    exact located.startedOnce id
  nodup := by
    rw [handed.active]
    exact located.nodup
  taken id := by
    rw [handed.active, handed.nextRequest, handed.detached]
    exact located.taken id
  rolling id member := by
    rw [handed.active]
    rcases handed.rolling id member with before | active
    · exact located.rolling id before
    · exact active
  acknowledged id member := by
    rw [handed.active]
    exact handed.acknowledged id member
  acknowledgedOnce := handed.acknowledgedOnce
  waiting id born fresh := by
    rw [handed.nextRequest] at born
    rw [handed.answered] at fresh
    rw [handed.active]
    rcases located.waiting id born fresh with posted | active
    · left
      rw [← List.count_pos_iff] at posted ⊢
      rwa [handed.starts]
    · exact .inr active
  undelivered id answered fresh := by
    rw [handed.answered] at answered
    rw [handed.active, handed.detached]
    exact located.undelivered id answered
      (Nat.le_zero.mp (fresh ▸ handed.told id))
  late id late := by
    rw [handed.detached] at late
    rw [handed.answered]
    have before := located.late id late
    have kept := handed.late id late
    exact ⟨before.1, kept.1.trans before.2.1, kept.2 before.2.2⟩
  unborn id later := by
    rw [handed.nextRequest] at later
    rw [handed.answered, handed.detached]
    exact located.unborn id later
  past posted := by
    rcases handed.past posted with ⟨before, posts, pending⟩
    have past := located.past before
    rw [handed.active, pending]
    exact ⟨posts, past.2.1, past.2.2⟩

/-! ## Moves of the desktop -/

theorem cancelledResult_error_ne (result : XccResult)
    (reason : XccCancelReason) :
    (cancelledResult result reason).error ≠ .ok :=
  reason.code_ne_ok

theorem readResult_bad {request : XccRequest}
    (bad : request.result.error ≠ .ok) :
    (readResult request).error ≠ .ok := by
  rw [readResult]
  cases request.cancelIntent with
  | none => exact bad
  | some reason => exact cancelledResult_error_ne _ reason

/-- A delivery of a success has found no intent. -/
theorem readResult_ok {request : XccRequest}
    (ok : (readResult request).error = .ok) :
    request.cancelIntent = none ∧ request.result.error = .ok := by
  rw [readResult] at ok
  cases intent : request.cancelIntent with
  | none =>
      rw [intent] at ok
      exact ⟨rfl, ok⟩
  | some reason =>
      rw [intent] at ok
      exact absurd ok (cancelledResult_error_ne _ reason)

section Desktop

variable (located : Located world)

include located

theorem located_reads {rest : List Delivery}
    (idle : world.desktop = .idle)
    (queue : world.queue = .completion id :: rest) :
    Located (completionReads { world with queue := rest } id) := by
  have wrote : SamePlaces world (world.setRequest id
      { world.requests id with
        result := readResult (world.requests id) }) :=
    .setRequest rfl rfl fun _ => ⟨rfl, readResult_bad⟩
  apply located_handed located
  refine
    { places := ?_, starts := fun _ => rfl, rolling := fun _ => .inl
      acknowledged := ?_, acknowledgedOnce := located.acknowledgedOnce
      told := ?_, active := rfl, nextRequest := rfl
      answered := wrote.answered, detached := wrote.detached
      late := wrote.late, past := ?_ }
  · intro other
    show rest.count (.completion other) + desk (.delivering id) other +
        world.posts.count _ + told (_ :: world.trace) other =
      world.queue.count (.completion other) + desk world.desktop other +
        world.posts.count (.rollbackAcquisition other) +
        told world.trace other
    rw [told_cons_other rfl, queue, idle, List.count_cons, desk, desk]
    by_cases here : id = other
    · simp [here]
    · simp [here]
  · intro other member
    have before := located.acknowledged other member
    exact ⟨before.1, (told_cons_other rfl).trans before.2⟩
  · intro other
    exact (told_cons_other rfl).ge
  · intro posted
    have past := located.past posted
    exact ⟨posted, past.1, rfl⟩

/-- A completion that the desktop is at. -/
theorem located_accepted
    (here : desk world.desktop id = 1)
    (accepted : (world.requests id).detached = false) :
    id ∈ world.active ∧ world.ui.shutdownPosted = false := by
  have at' := located.answered_of_desk here
  have active := located.activeOf at'.1 at'.2.2.2 accepted
  exact ⟨active, located.running active⟩

/-- The desktop turns to the callback. -/
theorem located_goes_on (delivering : world.desktop = .delivering id)
    {sessions : Nat → Session} :
    Located { world with sessions, desktop := .calling id } := by
  have same : SamePlaces { world with desktop := .delivering id }
      { world with sessions, desktop := .delivering id } :=
    { SamePlaces.refl _ with }
  have here : { world with desktop := .delivering id } = world := by
    rw [← delivering]
  rw [here] at same
  exact { located.same same with balance := (located.same same).balance }

theorem located_settles (delivering : world.desktop = .delivering id) :
    Located (completionSettles world id) := by
  have here : desk world.desktop id = 1 := by
    rw [delivering, desk, if_pos rfl]
  rw [completionSettles]
  dsimp only
  split_ifs with committed bad
  · have accepted : (world.requests id).detached = false := by
      rw [Bool.eq_false_iff]
      intro late
      rw [(located.late id late).2.1] at committed
      simp at committed
    rcases located_accepted located here accepted with ⟨active, running⟩
    rw [World.post, if_neg (by rw [running]; exact Bool.false_ne_true)]
    apply located_handed located
    refine
      { places := ?_, starts := ?_, rolling := ?_, acknowledged := ?_
        acknowledgedOnce := ?_, told := fun _ => Nat.le_refl _, active := rfl
        nextRequest := rfl, answered := fun _ => rfl
        detached := fun _ => rfl, late := fun _ _ => ⟨rfl, fun bad => bad⟩
        past := ?_ }
    · intro other
      show world.queue.count (.completion other) + desk .idle other +
          (world.posts ++ [_]).count (Post.rollbackAcquisition other) +
          told world.trace other =
        world.queue.count (.completion other) + desk world.desktop other +
          world.posts.count (.rollbackAcquisition other) +
          told world.trace other
      rw [List.count_append, List.count_singleton, delivering, desk, desk]
      by_cases same : id = other
      · simp [same]
        omega
      · simp [same]
    · exact fun other => count_concat_ne Post.noConfusion
    · intro other member
      rcases List.mem_append.mp member with before | same
      · exact .inl before
      · cases List.mem_singleton.mp same
        exact .inr active
    · intro other member
      exact located.acknowledged other
        (mem_concat_ne Post.noConfusion member)
    · intro other
      show (world.posts ++ [_]).count _ ≤ 1
      rw [count_concat_ne Post.noConfusion]
      exact located.acknowledgedOnce other
    · intro posted
      exact absurd (running.symm.trans posted) Bool.false_ne_true
  · cases (world.requests id).session with
    | none => exact located_goes_on located delivering
    | some session => exact located_goes_on located delivering
  · exact located_goes_on located delivering

omit located in
theorem told_done (result : XccResult) (other : Nat) :
    told (.done id result :: world.trace) other =
      told world.trace other + if id = other then 1 else 0 := by
  rw [told, List.countP_cons, told]
  simp [isDone]

theorem located_calls (calling : world.desktop = .calling id) :
    Located (completionCalls world id) := by
  have here : desk world.desktop id = 1 := by
    rw [calling, desk, if_pos rfl]
  have fresh := (located.answered_of_desk here).2.2.2
  have unacknowledged : .completionAck id ∉ world.posts := by
    intro member
    have told := (located.acknowledged id member).2
    omega
  have moved (other : Nat) :
      world.queue.count (.completion other) + desk .idle other +
          world.posts.count (.rollbackAcquisition other) +
          told (.done id (world.requests id).result :: world.trace) other =
        world.queue.count (.completion other) + desk world.desktop other +
          world.posts.count (.rollbackAcquisition other) +
          told world.trace other := by
    rw [told_done, calling, desk, desk]
    split_ifs <;> omega
  have grows (other : Nat) : told world.trace other ≤
      told (.done id (world.requests id).result :: world.trace) other := by
    rw [told_done]
    exact Nat.le_add_right ..
  have kept (other : Nat) (member : .completionAck other ∈ world.posts) :
      other ∈ world.active ∧
        told (.done id (world.requests id).result :: world.trace) other =
          1 := by
    have before := located.acknowledged other member
    refine ⟨before.1, ?_⟩
    rw [told_done, if_neg]
    · exact before.2
    · rintro rfl
      exact unacknowledged member
  rw [completionCalls]
  dsimp only
  split_ifs with late
  · apply located_handed located
    exact
      { places := moved, starts := fun _ => rfl, rolling := fun _ => .inl
        acknowledged := kept
        acknowledgedOnce := located.acknowledgedOnce
        told := grows, active := rfl, nextRequest := rfl
        answered := fun _ => rfl, detached := fun _ => rfl
        late := fun _ _ => ⟨rfl, fun bad => bad⟩
        past := fun posted => ⟨posted, (located.past posted).1, rfl⟩ }
  · rcases located_accepted located here (Bool.eq_false_iff.mpr late) with
      ⟨active, running⟩
    rw [World.post, if_neg (by
      show ¬world.ui.shutdownPosted = true
      rw [running]
      exact Bool.false_ne_true)]
    apply located_handed located
    refine
      { places := ?_, starts := ?_, rolling := ?_, acknowledged := ?_
        acknowledgedOnce := ?_, told := grows, active := rfl
        nextRequest := rfl, answered := fun _ => rfl
        detached := fun _ => rfl, late := fun _ _ => ⟨rfl, fun bad => bad⟩
        past := ?_ }
    · intro other
      rw [← show _ = places world other from moved other]
      show _ + _ + (world.posts ++ [_]).count _ + _ = _
      rw [count_concat_ne Post.noConfusion]
      rfl
    · exact fun other => count_concat_ne Post.noConfusion
    · exact fun other member => .inl (mem_concat_ne Post.noConfusion member)
    · intro other member
      rcases List.mem_append.mp member with before | same
      · exact kept other before
      · cases List.mem_singleton.mp same
        refine ⟨active, ?_⟩
        show told (.done id (world.requests id).result :: world.trace) id = 1
        rw [told_done, fresh, if_pos rfl]
    · intro other
      show (world.posts ++ [_]).count _ ≤ 1
      rw [List.count_append, List.count_singleton]
      by_cases same : id = other
      · rw [← same, List.count_eq_zero.mpr unacknowledged]
        simp
      · have once := located.acknowledgedOnce other
        simpa [same] using once
    · intro posted
      exact absurd (running.symm.trans posted) Bool.false_ne_true

theorem located_rolledBack {rest : List Post}
    (posts : world.posts = .rollbackAcquisition id :: rest) :
    Located (rollbackAcquisition { world with posts := rest } id) := by
  have active := located.rolling id (posts ▸ List.mem_cons_self ..)
  have running := located.running active
  have wrote : SamePlaces world (world.setRequest id
      { world.requests id with candidate := none }) :=
    .setRequest rfl rfl fun late => by
      rw [(located.taken id active).2] at late
      cases late
  have handed (sessions : Nat → Session) :
      Handed world
        ((({ world with posts := rest, sessions }.setRequest id
          { world.requests id with candidate := none }).emit
            (.rolledBack id)).dispatch (.completion id)) :=
    { places := by
        intro other
        show (world.queue ++ [_]).count (Delivery.completion other) +
            desk world.desktop other +
            rest.count (Post.rollbackAcquisition other) +
            told (_ :: world.trace) other =
          world.queue.count (.completion other) +
            desk world.desktop other +
            world.posts.count (.rollbackAcquisition other) +
            told world.trace other
        rw [told_cons_other rfl, posts, List.count_append,
          List.count_singleton, List.count_cons]
        by_cases here : id = other
        · simp [here]
          omega
        · simp [here]
      starts := fun other => by
        rw [posts, List.count_cons_of_ne Post.noConfusion]
        rfl
      rolling := fun other member =>
        .inl (posts ▸ List.mem_cons_of_mem _ member)
      acknowledged := fun other member => by
        have before := located.acknowledged other
          (posts ▸ List.mem_cons_of_mem _ member)
        exact ⟨before.1, (told_cons_other rfl).trans before.2⟩
      acknowledgedOnce := fun other => by
        have once := located.acknowledgedOnce other
        rw [posts] at once
        exact (List.count_le_count_cons ..).trans once
      told := fun other => (told_cons_other rfl).ge
      active := rfl, nextRequest := rfl, answered := wrote.answered
      detached := wrote.detached, late := wrote.late
      past := fun posted =>
        absurd (running.symm.trans posted) Bool.false_ne_true }
  rw [rollbackAcquisition]
  cases bound : (world.requests id).session with
  | none =>
      exact located_handed located (handed world.sessions)
  | some session =>
      exact located_handed located (handed _)

/-- An acknowledged request has been told of, and is nowhere else. -/
theorem located_acknowledged {rest : List Post}
    (posts : world.posts = .completionAck id :: rest) :
    Located (completionAck { world with posts := rest } id) := by
  have here := located.acknowledged id (posts ▸ List.mem_cons_self ..)
  have member {post : Post} (after : post ∈ rest) : post ∈ world.posts :=
    posts ▸ List.mem_cons_of_mem _ after
  have unrolled : .rollbackAcquisition id ∉ world.posts := by
    intro rolling
    have count := List.count_pos_iff.mpr rolling
    have balance := located.balance id
    have most := Bool.toNat_le (world.requests id).answered
    omega
  have answered : (world.requests id).answered = true := by
    have balance := located.balance id
    cases value : (world.requests id).answered with
    | true => rfl
    | false =>
        rw [value, Bool.toNat_false] at balance
        omega
  have erased {other : Nat} (different : other ≠ id) :
      other ∈ world.active.erase id ↔ other ∈ world.active :=
    List.mem_erase_of_ne different
  have remains {other : Nat} (active : other ∈ world.active)
      (different : other ≠ id) : other ∈ world.active.erase id :=
    (erased different).mpr active
  refine
    { balance := ?_, started := ?_, startedOnce := ?_
      nodup := located.nodup.erase id, taken := ?_, rolling := ?_
      acknowledged := ?_, acknowledgedOnce := ?_, waiting := ?_
      undelivered := ?_, late := located.late, unborn := located.unborn
      past := ?_ }
  · intro other
    have balance := located.balance other
    rw [posts, List.count_cons_of_ne Post.noConfusion] at balance
    exact balance
  · intro other after
    have before := located.started other (member after)
    refine ⟨before.1, ?_, before.2.2⟩
    exact fun active => before.2.1 (List.mem_of_mem_erase active)
  · intro other
    have once := located.startedOnce other
    rw [posts] at once
    exact (List.count_le_count_cons ..).trans once
  · exact fun other active =>
      located.taken other (List.mem_of_mem_erase active)
  · intro other after
    refine remains (located.rolling other (member after)) ?_
    rintro rfl
    exact unrolled (member after)
  · intro other after
    have before := located.acknowledged other (member after)
    refine ⟨remains before.1 ?_, before.2⟩
    rintro rfl
    have once := located.acknowledgedOnce other
    rw [posts, List.count_cons_self] at once
    have more : 0 < rest.count _ := List.count_pos_iff.mpr after
    omega
  · intro other
    have once := located.acknowledgedOnce other
    rw [posts] at once
    exact (List.count_le_count_cons ..).trans once
  · intro other born fresh
    rcases located.waiting other born fresh with posted | active
    · rw [posts] at posted
      rcases List.mem_cons.mp posted with same | posted
      · cases same
      · exact .inl posted
    · refine .inr (remains active ?_)
      rintro rfl
      exact Bool.false_ne_true (fresh.symm.trans answered)
  · intro other done fresh
    rcases located.undelivered other done fresh with active | late
    · refine .inl (remains active ?_)
      rintro rfl
      exact Nat.one_ne_zero (here.2.symm.trans fresh)
    · exact .inr late
  · intro posted
    have past := located.past posted
    rw [posts] at past
    cases past.1

/-! ## The end of the context -/

theorem located_shut (ready : shutdownReady world = true) :
    Located (xccContextCheckShutdown world) := by
  rw [xccContextCheckShutdown, if_pos ready]
  simp only [shutdownReady, Bool.and_eq_true, List.isEmpty_iff] at ready
  have same : SamePlaces world
      ({ world with live := [] }.dispatch .shutdownDelivered) :=
    { SamePlaces.refl world with
      completions := fun id => by
        show (world.queue ++ [_]).count _ = _
        rw [count_concat_ne Delivery.noConfusion] }
  exact { located.same same with
    past := fun _ => ⟨by tauto, by tauto, by tauto⟩ }

/-- A message that is no completion is taken. -/
theorem located_told {delivery : Delivery} {rest : List Delivery}
    {event : Event} (queue : world.queue = delivery :: rest)
    (plain : ∀ id, delivery ≠ .completion id)
    (silent : ∀ id, isDone id event = false) :
    Located ({ world with queue := rest }.emit event) := by
  apply located.same
  exact { SamePlaces.refl world with
    completions := fun id => by
      rw [queue, List.count_cons_of_ne (plain id)]
      rfl
    told := fun id => told_cons_other (silent id) }

end Desktop

/-! ## Every move -/

theorem samePlaces_move_aside {ui : Core.Coordinator.World}
    (aside : UiAside world.ui ui) :
    SamePlaces world ({ world with ui }.emit .uiDelivered) :=
  { SamePlaces.refl world with
    told := fun _ => told_cons_other rfl
    shutdownPosted := aside.shutdownPosted
    pending := aside.pending }

/-- Every move keeps the account of the requests. -/
theorem located_move (move : Move world next) (located : Located world) :
    Located next := by
  cases move with
  | nudge nudge => exact located.same (Nudge.samePlaces nudge)
  | outside now held more watchStopped shutdownStarted =>
      exact located.same samePlaces_outside
  | dispatched running =>
      exact located.same (samePlaces_dispatchPending running)
  | uiTold aside waiting => exact located.same (samePlaces_move_aside aside)
  | scheduled asked principal bound running =>
      exact located.scheduled asked principal running
  | refused asked principal bad bound past =>
      exact located.refused asked principal bad past
  | mailed post plain running => exact located.mailed plain running
  | opened plain posts => exact located.opened plain posts
  | validated posts => exact located.validated posts
  | begun => exact located.same (samePlaces_startEnumeration _)
  | @handed id unanswered active kind opened =>
      exact located.same (.setRequest rfl rfl fun _ =>
        ⟨rfl, fun bad => bad⟩)
  | signed granted free => exact located.same (.emit fun _ => rfl)
  | answered answerable good =>
      exact located_completes located answerable.unanswered answerable.active
  | reported id enumeration outcome =>
      exact located.same (.emit fun _ => rfl)
  | landed flying enumerating => exact located.same (samePlaces_landed _ _)
  | restarted flying enumerating =>
      exact located.same
        ((samePlaces_landed _ _).trans (samePlaces_startEnumeration _))
  | published tokensPresent flying enumerating current choosing allowed
      available
      reported running =>
      exact located.same
        ((samePlaces_landed _ _).trans
          (samePlaces_publish _ _ _ running))
  | @concluded ui id chooser reply chosen error ends fair =>
      have kept := samePlaces_conclude (world.requests id) chosen error
      have wrote : SamePlaces world (world.setRequest id
          (conclude (world.requests id) chosen error)) :=
        .setRequest kept.1 kept.2.1 fun _ =>
          ⟨kept.2.2.1, fun bad => kept.2.2.2 ▸ bad⟩
      exact located.same { wrote with
        told := fun _ => told_cons_other rfl
        shutdownPosted := ends.shutdownPosted
        pending := fun posted => by
          rw [ends.running] at posted
          cases posted }
  | granted answerable completed bound opened wanted =>
      exact located_grants located answerable.unanswered answerable.active
  | registered spec running current =>
      exact located.same (samePlaces_registered spec)
  | @regenerated value rest running posts =>
      have taken := located.opened rfl posts
      exact (taken.same (samePlaces_regenerated _)).same
        (Nudged.samePlaces
          (@nudged_generation { world with posts := rest } running value))
  | rolledBack posts => exact located_rolledBack located posts
  | acknowledged posts => exact located_acknowledged located posts
  | shut ready => exact located_shut located ready
  | reads idle queue => exact located_reads located idle queue
  | invalidationTold idle queue =>
      exact located_told located queue (fun _ => Delivery.noConfusion)
        fun _ => rfl
  | shutdownTold idle queue =>
      exact located_told located queue (fun _ => Delivery.noConfusion)
        fun _ => rfl
  | settles delivering => exact located_settles located delivering
  | calls calling => exact located_calls located calling

end PortalCertificate.Context.Deliveries
