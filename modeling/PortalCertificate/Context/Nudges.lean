import PortalCertificate.Context.Moves

/-!
# What nudges keep

Nudges keep the answers, the posts and the list of requests, and what they
change of a request goes one way.  The loops of the coordinator are composed
of nudges.
-/

namespace PortalCertificate.Context.Nudges

open PortalCertificate.Context.Acquire
open PortalCertificate.Context.Completion
open PortalCertificate.Context.Machine
open PortalCertificate.Context.Moves
open PortalCertificate.Context.Requests
open PortalCertificate.Context.Sessions
open PortalCertificate.Core.Coordinator (XccErrorCode)
open PortalCertificate.Core.UiFrames
open PortalCertificate.Library.Transition
open PortalCertificate.Tokens.Discovery
open PortalCertificate.Tokens.Watcher

/-! ## Requests and sessions -/

/-- A request that has been nudged. -/
structure Continues (before after : XccRequest) : Prop where
  asked : after.toAsked = before.toAsked
  answered : after.answered = before.answered
  detached : after.detached = before.detached
  result : after.result = before.result
  candidate : after.candidate = before.candidate
  chooser : after.chooser = before.chooser
  completed : after.chooserCompleted = before.chooserCompleted
  chosen : after.pendingChosen = before.pendingChosen
  working : after.working = before.working
  principal : before.session.isSome = true →
    after.principal = before.principal
  enumerates : before.enumerating = true → after.enumerating = true
  enumerated : after.enumerating = true →
    before.enumerating = true ∨ before.chooser.isSome = true
  intent : before.cancelIntent.isSome = true →
    after.cancelIntent.isSome = true
  code : before.cancelledCode ≠ .ok → after.cancelledCode ≠ .ok
  again : before.enumerating = true → before.enumerateAgain = true →
    after.enumerateAgain = true

variable {first second third : XccRequest}

theorem Continues.refl (request : XccRequest) :
    Continues request request where
  asked := rfl
  answered := rfl
  detached := rfl
  result := rfl
  candidate := rfl
  chooser := rfl
  completed := rfl
  chosen := rfl
  working := rfl
  principal _ := rfl
  enumerates := id
  enumerated := .inl
  intent := id
  code := id
  again _ := id

theorem Continues.trans
    (here : Continues first second) (there : Continues second third) :
    Continues first third where
  asked := there.asked.trans here.asked
  answered := there.answered.trans here.answered
  detached := there.detached.trans here.detached
  result := there.result.trans here.result
  candidate := there.candidate.trans here.candidate
  chooser := there.chooser.trans here.chooser
  completed := there.completed.trans here.completed
  chosen := there.chosen.trans here.chosen
  working := there.working.trans here.working
  principal bound :=
    (there.principal (by
      rw [show second.session = first.session from
        congrArg Asked.session here.asked]
      exact bound)).trans (here.principal bound)
  enumerates running := there.enumerates (here.enumerates running)
  enumerated running := by
    rcases there.enumerated running with running | choosing
    · exact here.enumerated running
    · rw [here.chooser] at choosing
      exact .inr choosing
  intent wanted := there.intent (here.intent wanted)
  code bad := there.code (here.code bad)
  again running asked :=
    there.again (here.enumerates running) (here.again running asked)

theorem Alike.continues (alike : Alike first second) :
    Continues first second where
  asked := alike.asked
  answered := alike.answered
  detached := alike.detached
  result := alike.result
  candidate := alike.candidate
  chooser := alike.chooser
  completed := alike.completed
  chosen := alike.chosen
  working := alike.working
  principal := alike.principal
  enumerates running := alike.enumerating.trans running
  enumerated running := .inl (alike.enumerating.symm.trans running)
  intent := alike.intent
  code := alike.code
  again _ := alike.again

/-! ## The context -/

/-- What no nudge touches, and what a request and a session keep. -/
structure Steady (before after : World) : Prop where
  requests : ∀ id, Continues (before.requests id) (after.requests id)
  sessions : ∀ id, Kept (before.sessions id) (after.sessions id)
  active : after.active = before.active
  posts : after.posts = before.posts
  desktop : after.desktop = before.desktop
  nextRequest : after.nextRequest = before.nextRequest
  nextSession : after.nextSession = before.nextSession
  generation : after.generation = before.generation
  now : after.now = before.now
  shutdownPosted : after.ui.shutdownPosted = before.ui.shutdownPosted
  stopping : before.ui.stopping = true → after.ui.stopping = true
  available : after.ui.chooserAvailable = before.ui.chooserAvailable
  cancelled : ∀ cancellable, before.ui.cancelled cancellable = true →
    after.ui.cancelled cancellable = true
  live : after.live ⊆ before.live
  listed : ∀ id, id ∈ before.live →
    id ∈ after.live ∨ (after.sessions id).closed = true
  flying : ∀ flight ∈ before.enumerations, flight ∈ after.enumerations
  trace : before.trace <:+ after.trace

variable {world next last : World}

theorem Steady.refl (world : World) : Steady world world where
  requests _ := .refl _
  sessions _ := .refl _
  active := rfl
  posts := rfl
  desktop := rfl
  nextRequest := rfl
  nextSession := rfl
  generation := rfl
  now := rfl
  shutdownPosted := rfl
  stopping := id
  available := rfl
  cancelled _ := id
  live _ := id
  listed _ := .inl
  flying _ := id
  trace := List.suffix_refl _

theorem Steady.trans
    (here : Steady world next) (there : Steady next last) :
    Steady world last where
  requests id := (here.requests id).trans (there.requests id)
  sessions id := (here.sessions id).trans (there.sessions id)
  active := there.active.trans here.active
  posts := there.posts.trans here.posts
  desktop := there.desktop.trans here.desktop
  nextRequest := there.nextRequest.trans here.nextRequest
  nextSession := there.nextSession.trans here.nextSession
  generation := there.generation.trans here.generation
  now := there.now.trans here.now
  shutdownPosted := there.shutdownPosted.trans here.shutdownPosted
  stopping held := there.stopping (here.stopping held)
  available := there.available.trans here.available
  cancelled id held := there.cancelled id (here.cancelled id held)
  live _ member := here.live (there.live member)
  listed id member := by
    rcases here.listed id member with member | closed
    · exact there.listed id member
    · exact .inr ((there.sessions id).closed closed)
  flying flight member := there.flying flight (here.flying flight member)
  trace := here.trace.trans there.trace

theorem Steady.emit (event : Event) : Steady world (world.emit event) :=
  { Steady.refl world with trace := List.suffix_cons _ _ }

theorem Steady.setRequest {id : Nat} {request : XccRequest}
    (continues : Continues (world.requests id) request) :
    Steady world (world.setRequest id request) :=
  { Steady.refl world with
    requests := by
      intro other
      show Continues (world.requests other)
        (Function.update world.requests id request other)
      by_cases same : other = id
      · rw [same, Function.update_self]
        exact continues
      · rw [Function.update_of_ne same]
        exact .refl _ }

theorem Steady.setSession {id : Nat} {session : Session}
    (kept : Kept (world.sessions id) session) :
    Steady world (world.setSession id session) :=
  { Steady.refl world with
    sessions := by
      intro other
      show Kept (world.sessions other)
        (Function.update world.sessions id session other)
      by_cases same : other = id
      · rw [same, Function.update_self]
        exact kept
      · rw [Function.update_of_ne same]
        exact .refl _
    listed := fun _ => .inl }

/-! ## The UI -/

theorem UiAside.of_surroundings {before after : Core.Coordinator.World}
    (same : surroundings after = surroundings before)
    (pending : before.shutdownPosted = true → before.pending = [] →
      after.pending = []) :
    UiAside before after where
  choosers chooser := by
    have choosers : after.choosers = before.choosers :=
      congrArg Surroundings.choosers same
    rw [choosers]
    exact .refl _
  nextChooser := congrArg Surroundings.nextChooser same
  cancelled id held := by
    have cancelled : after.cancelled = before.cancelled :=
      congrArg Surroundings.cancelled same
    rw [cancelled]
    exact held
  stopping held :=
    (congrArg Surroundings.stopping same).trans held
  shutdownPosted := congrArg Surroundings.shutdownPosted same
  available := congrArg Surroundings.chooserAvailable same
  pending := pending

/-- A chooser whose rows stay. -/
theorem UiAside.of_rechosen {before after : Core.Coordinator.World}
    {id : Nat} {chooser : Core.Coordinator.Chooser}
    (rows : SameChooser (before.choosers id) chooser)
    (same : surroundings after = rechosen before id chooser)
    (pending : before.shutdownPosted = true → before.pending = [] →
      after.pending = []) :
    UiAside before after where
  choosers other := by
    have choosers : after.choosers =
        Function.update before.choosers id chooser :=
      congrArg Surroundings.choosers same
    rw [choosers]
    exact sameChooser_update before id rows other
  nextChooser := congrArg Surroundings.nextChooser same
  cancelled id held := by
    have cancelled : after.cancelled = before.cancelled :=
      congrArg Surroundings.cancelled same
    rw [cancelled]
    exact held
  stopping held :=
    (congrArg Surroundings.stopping same).trans held
  shutdownPosted := congrArg Surroundings.shutdownPosted same
  available := congrArg Surroundings.chooserAvailable same
  pending := pending

theorem UiAside.cancel (ui : Core.Coordinator.World) (cancellable : Nat) :
    UiAside ui (Core.Ui.cancel ui cancellable) where
  choosers chooser := sameChooser_cancel ui cancellable chooser
  nextChooser := by
    rw [Core.Ui.cancel]
    split_ifs <;> rfl
  cancelled id held := by
    rw [cancelled_cancel]
    by_cases same : id = cancellable
    · rw [same, Function.update_self]
    · rw [Function.update_of_ne same]
      exact held
  stopping held := by
    rw [Core.Ui.cancel]
    split_ifs <;> exact held
  shutdownPosted := by
    rw [Core.Ui.cancel]
    split_ifs <;> rfl
  available := by
    rw [Core.Ui.cancel]
    split_ifs <;> rfl
  pending _ empty := by
    rw [Core.Ui.cancel]
    split_ifs <;> exact empty

theorem Steady.aside {ui : Core.Coordinator.World}
    (aside : UiAside world.ui ui) : Steady world { world with ui } :=
  { Steady.refl world with
    shutdownPosted := aside.shutdownPosted
    stopping := aside.stopping
    available := aside.available
    cancelled := aside.cancelled }

/-! ## Nudges are steady -/

theorem steady_emptyChooser (id chooser : Nat) :
    Steady world (emptyChooser world id chooser) := by
  have same : Steady world
      { world with
        ui := Core.Chooser.chooserUpdate world.ui chooser [] false } := by
    by_cases showing : (world.ui.choosers chooser).finished = true
    · rw [Core.Chooser.chooserUpdate, if_pos showing]
      exact .refl world
    · have told := surroundings_update world.ui chooser [] false
        (Bool.eq_false_iff.mpr showing)
      exact { Steady.refl world with
        shutdownPosted := congrArg Surroundings.shutdownPosted told
        stopping := (congrArg Surroundings.stopping told).trans
        available := congrArg Surroundings.chooserAvailable told
        cancelled := fun id held =>
          (congrFun (congrArg Surroundings.cancelled told) id).trans held }
  exact same.trans (.emit _)

theorem steady_startEnumeration {id : Nat}
    (landed : (world.requests id).enumerating = false)
    (choosing : (world.requests id).chooser.isSome = true) :
    Steady world (startEnumeration world id) := by
  have continues : Continues (world.requests id)
      { world.requests id with
        enumerating := true, enumerateAgain := false } :=
    { Continues.refl (world.requests id) with
      enumerates := fun _ => rfl
      enumerated := fun _ => .inr choosing
      again := fun running _ => by
        rw [landed] at running
        cases running }
  exact { Steady.setRequest continues with
    flying := fun flight member => List.mem_append_left _ member
    trace := List.suffix_cons _ _ }

theorem Touched.steady (touched : Touched world next) :
    Steady world next := by
  have rest := touched.rest
  refine
    { requests := fun id => Alike.continues (touched.requests id)
      sessions := ?_, active := ?_, posts := ?_, desktop := ?_
      nextRequest := ?_, nextSession := ?_, generation := ?_, now := ?_
      shutdownPosted := touched.aside.shutdownPosted
      stopping := touched.aside.stopping
      available := touched.aside.available
      cancelled := touched.aside.cancelled
      live := ?_, listed := ?_, flying := ?_, trace := ?_ }
  all_goals rw [rest]
  · exact fun id => .refl _
  · exact List.Subset.refl _
  · exact fun id => .inl
  · exact fun flight member => member

/-! ## Cancellations -/

theorem touched_intend (id : Nat) (reason : XccCancelReason) :
    Touched world (intend world id reason) := by
  rw [intend]
  split_ifs
  · exact .refl _
  · exact .write { Alike.refl (world.requests id) with
      intent := fun _ => rfl }

theorem touched_overrule (id : Nat) (reason : XccCancelReason) :
    Touched world (overrule world id reason) :=
  .write { Alike.refl (world.requests id) with intent := fun _ => rfl }

theorem touched_code (id : Nat) {code : XccErrorCode} (bad : code ≠ .ok) :
    Touched world
      (world.setRequest id
        { world.requests id with cancelledCode := code }) :=
  .write { Alike.refl (world.requests id) with code := fun _ => bad }

theorem touched_cancelRequest (id : Nat) :
    Touched world (world.cancelRequest id) :=
  .ofAside (UiAside.cancel world.ui (cancellable id))

theorem touched_firstCode (id : Nat) {code : XccErrorCode}
    (bad : code ≠ .ok) : Touched world (firstCode world id code) := by
  rw [firstCode]
  split_ifs
  · exact touched_code id bad
  · exact .refl _

theorem touched_cancelOpen (id : Nat) :
    Touched world (cancelOpen world id) := by
  rw [cancelOpen]
  split_ifs
  · exact .refl _
  · exact touched_cancelRequest id

theorem touched_cancel (id : Nat) (reason : XccCancelReason) :
    Touched world (cancel world id reason) :=
  (touched_firstCode id reason.code_ne_ok).trans (touched_cancelOpen id)

theorem intended (id : Nat) (reason : XccCancelReason) :
    ((intend world id reason).requests id).cancelIntent.isSome = true := by
  rw [intend]
  split_ifs with before
  · exact before
  · rw [World.setRequest_self]
    rfl

/-! ## Loops over requests -/

section Loops

variable {body : World → Nat → World}
  (touched : ∀ world id, Touched world (body world id))

include touched

theorem touched_foldl (ids : List Nat) :
    Touched world (ids.foldl body world) := by
  induction ids generalizing world with
  | nil => exact .refl world
  | cons id rest ih => exact (touched world id).trans ih

theorem touched_eachRequest : Touched world (eachRequest world body) :=
  touched_foldl touched world.active

theorem touched_eachOfSession (session : Nat) :
    Touched world (eachOfSession world session body) := by
  apply touched_eachRequest
  intro world id
  split_ifs
  · exact touched world id
  · exact .refl world

/-- What every turn of a loop does for its own request stays done. -/
theorem settled_eachRequest (settled : XccRequest → Prop)
    (kept : ∀ before after, Alike before after →
      settled before → settled after)
    (settles : ∀ world id, settled ((body world id).requests id))
    {id : Nat} (active : id ∈ world.active) :
    settled ((eachRequest world body).requests id) :=
  foldl_settles (fun _ => True) (fun world id => settled (world.requests id))
    (fun _ _ _ => trivial)
    (fun world id other _ =>
      kept _ _ ((touched world id).requests other))
    (fun world id _ => settles world id) world.active trivial active

/-- A loop gives every request of a session an intent. -/
theorem intended_eachOfSession (session : Nat)
    (intends : ∀ world id,
      ((body world id).requests id).cancelIntent.isSome = true)
    {id : Nat} (active : id ∈ world.active)
    (bound : (world.requests id).session = some session) :
    ((eachOfSession world session body).requests id).cancelIntent.isSome =
      true := by
  have each (world : World) (id : Nat) : Touched world
      (if (world.requests id).session = some session then body world id
        else world) := by
    split_ifs
    · exact touched world id
    · exact .refl world
  have settled := settled_eachRequest each
    (fun request => request.session = some session →
      request.cancelIntent.isSome = true)
    (fun before after alike done here => alike.intent (done
      ((congrArg Asked.session alike.asked).symm.trans here)))
    (by
      intro world id
      split_ifs with here
      · exact fun _ => intends world id
      · exact fun same => absurd same here)
    active
  have told : Touched world (eachOfSession world session body) :=
    touched_eachRequest each
  exact settled
    ((congrArg Asked.session (told.requests id).asked).trans bound)

end Loops

/-! ## The end of a session -/

/-- What the end of a session does to its requests. -/
def endRequest (world : World) (request : Nat) : World :=
  cancelOpen
    (firstCode (intend world request .sessionClosed) request
      .noSuchSession) request

theorem touched_endRequest (request : Nat) :
    Touched world (endRequest world request) :=
  ((touched_intend request _).trans
    (touched_firstCode request XccErrorCode.noConfusion)).trans
      (touched_cancelOpen request)

theorem intended_endRequest (request : Nat) :
    ((endRequest world request).requests request).cancelIntent.isSome =
      true :=
  (((touched_firstCode request XccErrorCode.noConfusion).trans
    (touched_cancelOpen request)).requests request).intent
      (intended request _)

/-- A session ends, and what it has been asked for is not wanted. -/
structure Ending (world told next : World) (id : Nat) : Prop where
  touched : Touched
    (world.setSession id { world.sessions id with closed := true }) told
  wanted : ∀ request ∈ world.active,
    (world.requests request).session = some id →
      (told.requests request).cancelIntent.isSome = true
  last : next =
    { told.setSession id
        { told.sessions id with
          rest := { (told.sessions id).rest with expirySource := false } }
      with live := told.live.erase id }

theorem close_closed {id : Nat}
    (closed : (world.sessions id).closed = true) :
    xccSessionCloseInternal world id = world :=
  if_pos closed

/-- Closing an open session ends it, and its requests are cancelled. -/
theorem close_open {id : Nat}
    (showing : (world.sessions id).closed = false) :
    ∃ told, Ending world told (xccSessionCloseInternal world id) id :=
  ⟨eachOfSession
      (world.setSession id { world.sessions id with closed := true }) id
      endRequest,
    touched_eachOfSession (fun _ => touched_endRequest) id,
    fun _ active bound =>
      intended_eachOfSession (fun _ => touched_endRequest) id
        (fun _ => intended_endRequest) active bound,
    if_neg (Bool.eq_false_iff.mp showing)⟩

theorem Ending.steady {told : World} {id : Nat}
    (ending : Ending world told next id) : Steady world next := by
  have ends : Steady world
      (world.setSession id { world.sessions id with closed := true }) :=
    .setSession { Kept.refl (world.sessions id) with
      closed := fun _ => rfl }
  have silent : Steady told (told.setSession id
      { told.sessions id with
        rest := { (told.sessions id).rest with expirySource := false } }) :=
    .setSession { Kept.refl (told.sessions id) with
      expirySource := fun armed => by cases armed }
  have steady := (ends.trans (Touched.steady ending.touched)).trans silent
  have closed : ((told.setSession id
      { told.sessions id with
        rest := { (told.sessions id).rest with
          expirySource := false } }).sessions id).closed = true := by
    apply (silent.sessions id).closed
    apply ((Touched.steady ending.touched).sessions id).closed
    rw [World.setSession_self]
  rw [ending.last]
  exact { steady with
    live := fun _ member =>
      steady.live (List.mem_of_mem_erase member)
    listed := by
      intro other member
      rcases eq_or_ne other id with same | apart
      · exact .inr (same ▸ closed)
      · rcases steady.listed other member with listed | closed
        · exact .inl ((List.mem_erase_of_ne apart).mpr listed)
        · exact .inr closed }

theorem steady_close (id : Nat) :
    Steady world (xccSessionCloseInternal world id) := by
  cases closed : (world.sessions id).closed with
  | true =>
      rw [close_closed closed]
      exact .refl world
  | false =>
      rcases close_open closed with ⟨told, ending⟩
      exact ending.steady

/-! ## Nudges are steady -/

theorem Nudge.steady (nudge : Nudge world next) : Steady world next := by
  cases nudge with
  | touched touched => exact Touched.steady touched
  | kept kept closed => exact .setSession kept
  | closes id => exact steady_close id
  | emptied choosing running => exact steady_emptyChooser _ _
  | refreshed choosing landed =>
      exact steady_startEnumeration landed (by rw [choosing]; rfl)
  | invalidated id reason running => exact { Steady.refl world with }

theorem Nudged.steady (nudged : Nudged world next) : Steady world next :=
  Composed.relates Steady.refl (fun _ _ _ => Steady.trans)
    (fun _ _ => Nudge.steady) nudged

theorem nudged_touched (touched : Touched world next) :
    Nudged world next :=
  Nudged.one (.touched touched)

theorem Nudged.running (nudged : Nudged world next)
    (running : world.ui.shutdownPosted = false) :
    next.ui.shutdownPosted = false :=
  (Nudged.steady nudged).shutdownPosted.trans running

/-- A loop that nudges while the coordinator runs. -/
theorem nudged_foldl {Index : Type} {body : World → Index → World}
    (nudged : ∀ world index, world.ui.shutdownPosted = false →
      Nudged world (body world index))
    (indices : List Index) (running : world.ui.shutdownPosted = false) :
    Nudged world (indices.foldl body world) :=
  Composed.foldl (fun world => world.ui.shutdownPosted = false)
    (fun _ _ nudge => (Nudge.steady nudge).shutdownPosted.trans) nudged
    indices running

/-- What every turn of a loop does for its own index stays done. -/
theorem settled_foldl {Index : Type} {body : World → Index → World}
    {settled : World → Index → Prop}
    (nudged : ∀ world index, world.ui.shutdownPosted = false →
      Nudged world (body world index))
    (kept : ∀ world next index, Nudged world next →
      settled world index → settled next index)
    (settles : ∀ world index, world.ui.shutdownPosted = false →
      settled (body world index) index)
    (indices : List Index) (running : world.ui.shutdownPosted = false)
    {index : Index} (member : index ∈ indices) :
    settled (indices.foldl body world) index :=
  foldl_settles (fun world => world.ui.shutdownPosted = false) settled
    (fun world index running =>
      Nudged.running (nudged world index running) running)
    (fun world index other running =>
      kept _ _ other (nudged world index running))
    settles indices running member

theorem touched_fence (id : Nat) : Touched world (fence world id) := by
  rw [fence]
  dsimp only
  split_ifs
  · exact touched_overrule id _
  · exact ((touched_overrule id _).trans
      (touched_code id XccErrorCode.noConfusion)).trans
        (touched_cancelRequest id)
  · exact .refl world

theorem touched_abandon (id : Nat) : Touched world (abandon world id) := by
  rw [abandon]
  dsimp only
  split_ifs
  · exact touched_overrule id _
  · exact ((touched_overrule id _).trans
      (touched_code id XccErrorCode.noConfusion)).trans
        (touched_cancelRequest id)

/-! ## Sessions -/

/-- Closing a session is made of nudges. -/
theorem nudged_close (id : Nat) :
    Nudged world (xccSessionCloseInternal world id) :=
  Nudged.one (.closes id)

theorem nudged_invalidate (running : world.ui.shutdownPosted = false)
    (id : Nat) (reason : InvalidationReason) :
    Nudged world (xccSessionInvalidateInternal world id reason) := by
  rw [xccSessionInvalidateInternal]
  split_ifs
  · exact .refl
  · have marked : Nudged world (world.setSession id
        { world.sessions id with
          rest := { (world.sessions id).rest with invalidating := true } }) :=
      Nudged.one (.kept { Kept.refl (world.sessions id) with } rfl)
    have each (world : World) (request : Nat) :=
      (@touched_intend world request (InvalidationReason.cancel reason)).trans
        (touched_firstCode request
          (InvalidationReason.cancel reason).code_ne_ok)
    have told := @touched_eachOfSession (world.setSession id
        { world.sessions id with
          rest := { (world.sessions id).rest with invalidating := true } })
      _ each id
    have posted := told.aside.shutdownPosted.trans running
    exact ((marked.trans (nudged_touched told)).trans
      (Nudged.one (.invalidated id reason posted))).trans (nudged_close id)

theorem nudged_lifetimeExpired (running : world.ui.shutdownPosted = false)
    (id : Nat) : Nudged world (onLifetimeExpired world id) := by
  have silent : Nudged world (world.setSession id
      { world.sessions id with
        rest := { (world.sessions id).rest with expirySource := false } }) :=
    Nudged.one (.kept { Kept.refl (world.sessions id) with
      expirySource := fun armed => by cases armed } rfl)
  have there : (world.setSession id
      { world.sessions id with
        rest := { (world.sessions id).rest with
          expirySource := false } }).ui.shutdownPosted = false := running
  exact silent.trans (nudged_invalidate there id _)

theorem nudged_sessionCall (running : world.ui.shutdownPosted = false)
    (id : Nat) (reason : Option InvalidationReason) :
    Nudged world (sessionCall world id reason) := by
  cases reason with
  | none => exact nudged_close id
  | some reason => exact nudged_invalidate running id reason

/-! ## Presence events -/

theorem touched_readTokens (running : world.ui.shutdownPosted = false)
    (chooser : Nat) : Touched world (readTokens world chooser) := by
  rcases surroundings_reading world.ui chooser true with ⟨last, rows, same⟩
  refine .ofAside (UiAside.of_rechosen rows same ?_)
  intro posted
  rw [running] at posted
  cases posted

theorem touched_askAgain (id : Nat) : Touched world (askAgain world id) :=
  .write { Alike.refl (world.requests id) with again := fun _ => rfl }

theorem touched_completedEvent (event : WatchEvent) (id : Nat) :
    Touched world (completedEvent world event id) := by
  rw [completedEvent]
  split
  · exact .refl world
  · split_ifs
    · exact (touched_code id XccErrorCode.noConfusion).trans
        (touched_cancelRequest id)
    · exact touched_askAgain id

theorem requests_tellChooser (world : World) (event : WatchEvent)
    (id : Nat) : (tellChooser world event id).requests = world.requests := by
  rw [tellChooser]
  split
  · split_ifs <;> rfl
  · rfl

section Running

variable (running : world.ui.shutdownPosted = false)

include running

theorem nudged_tellChooser (event : WatchEvent) (id : Nat) :
    Nudged world (tellChooser world event id) := by
  rw [tellChooser]
  cases choosing : (world.requests id).chooser with
  | none => exact .refl
  | some chooser =>
      dsimp only
      split_ifs
      · exact nudged_touched (touched_readTokens running chooser)
      · exact Nudged.one (.emptied choosing running)

theorem nudged_openEvent (event : WatchEvent) (id : Nat) :
    Nudged world (openEvent world event id) := by
  have told := nudged_tellChooser running event id
  have same := requests_tellChooser world event id
  rw [openEvent]
  dsimp only
  split_ifs with idle flying
  · exact .refl
  · exact told.trans (nudged_touched (touched_askAgain id))
  · rw [Bool.eq_false_iff.mpr flying] at idle
    cases choosing : (world.requests id).chooser with
    | none =>
        rw [choosing] at idle
        exact absurd rfl idle
    | some chooser =>
        refine told.trans (Nudged.one (@Nudge.refreshed _ _ chooser ?_ ?_))
        · rw [same]
          exact choosing
        · rw [same]
          exact Bool.eq_false_iff.mpr flying

theorem nudged_acquireEvent (event : WatchEvent) (id : Nat) :
    Nudged world (acquireEvent event world id) := by
  rw [acquireEvent]
  split_ifs
  · exact .refl
  · exact nudged_touched (touched_completedEvent event id)
  · exact nudged_openEvent running event id

theorem nudged_eachAcquisition (event : WatchEvent) :
    Nudged world (eachRequest world (acquireEvent event)) :=
  nudged_foldl (fun _ id running => nudged_acquireEvent running event id)
    world.active running

theorem nudged_eachSession {body : World → Nat → World}
    (nudged : ∀ world id, world.ui.shutdownPosted = false →
      Nudged world (body world id)) :
    Nudged world (eachSession world body) :=
  nudged_foldl nudged world.live running

/-- What a token event does is made of nudges. -/
theorem nudged_tokenEvent (event : WatchEvent) :
    Nudged (world.emit (.dispatched event)) (tokenEvent world event) := by
  have told := @nudged_eachAcquisition (world.emit (.dispatched event))
    running event
  rw [tokenEvent]
  split_ifs
  · exact told
  · refine told.trans
      (nudged_eachSession (Nudged.running told running) ?_)
    intro world session running
    split_ifs
    · exact nudged_invalidate running session _
    · exact .refl

/-- What nudges and the notes of events keep holds after a dispatch. -/
theorem dispatchPending_keeps (holds : World → Prop)
    (nudge : ∀ first second, Nudge first second → holds first →
      holds second)
    (noted : ∀ world event, holds world →
      holds (world.emit (.dispatched event)))
    (here : holds { world with events := [] }) :
    holds (dispatchPending world) := by
  have loop (events : List WatchEvent) (first : World)
      (running : first.ui.shutdownPosted = false) (here : holds first) :
      holds (events.foldl tokenEvent first) := by
    induction events generalizing first with
    | nil => exact here
    | cons event rest ih =>
        have told := @nudged_tokenEvent first running event
        exact ih _ (Nudged.running told running)
          (told.keeps nudge (noted first event here))
  exact loop world.events { world with events := [] } running here

/-- Showing the next prompt touches nothing that is steady. -/
theorem steady_dispatchPending : Steady world (dispatchPending world) :=
  dispatchPending_keeps running (Steady world)
    (fun _ _ nudge steady => steady.trans (Nudge.steady nudge))
    (fun _ _ steady => steady.trans (.emit _)) { Steady.refl world with }

/-! ## The loops of the context -/

/-- What `generation` does after it has set the generation. -/
theorem nudged_generation (value : Nat) :
    Nudged
      ({ world with generation := value }.emit (.ownerGeneration value))
      (generation world value) := by
  have fenced := @touched_eachRequest
    ({ world with generation := value }.emit (.ownerGeneration value)) _
    (fun _ => touched_fence)
  refine (nudged_touched fenced).trans (nudged_eachSession
    (fenced.aside.shutdownPosted.trans running) ?_)
  intro world session _
  split_ifs
  · exact nudged_close session
  · exact .refl

/-- The start of the shutdown is made of nudges. -/
theorem nudged_shutdownStart : Nudged world (shutdownStart world) := by
  have stopped : Touched world
      { world with ui := { world.ui with stopping := true } } :=
    .ofAside { UiAside.refl world.ui with stopping := fun _ => rfl }
  have abandoned := @touched_eachRequest
    { world with ui := { world.ui with stopping := true } } _
    (fun _ => touched_abandon)
  refine (nudged_touched (stopped.trans abandoned)).trans
    (nudged_eachSession (abandoned.aside.shutdownPosted.trans running) ?_)
  exact fun world session running => nudged_invalidate running session _

end Running

end PortalCertificate.Context.Nudges
