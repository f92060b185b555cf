import PortalCertificate.Context.Fencing

/-!
# Steps that call nobody back

Only the desktop calls the clients back, in the last part of a delivery.  No
other step of a context adds a callback to the trace, whatever it goes
through.
-/

namespace PortalCertificate.Context.Silence

open PortalCertificate.Context.Accounts
open PortalCertificate.Context.Acquire
open PortalCertificate.Context.Completion
open PortalCertificate.Context.Fencing
open PortalCertificate.Context.Machine
open PortalCertificate.Context.Requests
open PortalCertificate.Context.Sessions
open PortalCertificate.Context.Starts
open PortalCertificate.Core.Coordinator (XccErrorCode)
open PortalCertificate.Core.Principals (XccPrincipal)
open PortalCertificate.Broker.Operations (OperationError)
open PortalCertificate.Library.Der (Octets)
open PortalCertificate.Tokens.Discovery
open PortalCertificate.Tokens.Watcher

variable {world next : World} {id : Nat}

/-- Nobody is called back, no request is made, and the posts keep their
places. -/
structure Silent (world next : World) : Prop where
  told : ∀ id, told next.trace id = told world.trace id
  made : next.nextRequest = world.nextRequest
  posts : world.posts <+: next.posts

theorem Silent.same (trace : next.trace = world.trace)
    (made : next.nextRequest = world.nextRequest)
    (posts : next.posts = world.posts) : Silent world next :=
  ⟨fun _ => by rw [trace], made, by rw [posts]⟩

theorem Silent.trans {last : World} (here : Silent world next)
    (there : Silent next last) : Silent world last :=
  ⟨fun id => (there.told id).trans (here.told id),
    there.made.trans here.made, here.posts.trans there.posts⟩

/-- Something is written before. -/
theorem Silent.from {first : World} (there : Silent world next)
    (trace : world.trace = first.trace)
    (made : world.nextRequest = first.nextRequest)
    (posts : world.posts = first.posts) : Silent first next :=
  Silent.trans (.same trace made posts) there

theorem Silent.places (same : SamePlaces world next) : Silent world next :=
  ⟨same.told, same.nextRequest, by rw [same.posts]⟩

theorem silent_cons {event : Event}
    (other : ∀ id, isDone id event = false)
    (trace : next.trace = event :: world.trace)
    (made : next.nextRequest = world.nextRequest)
    (posts : next.posts = world.posts) : Silent world next :=
  ⟨fun id => by
    rw [trace]
    exact told_cons_other (other id), made, by rw [posts]⟩

theorem silent_foldl {Index : Type} {body : World → Index → World}
    (each : ∀ world index, Silent world (body world index))
    (indices : List Index) : Silent world (indices.foldl body world) := by
  induction indices generalizing world with
  | nil => exact .same rfl rfl rfl
  | cons index rest ih => exact (each world index).trans ih

theorem silent_eachRequest {body : World → Nat → World}
    (each : ∀ world id, Silent world (body world id)) :
    Silent world (eachRequest world body) :=
  silent_foldl each _

theorem silent_eachSession {body : World → Nat → World}
    (each : ∀ world session, Silent world (body world session)) :
    Silent world (eachSession world body) :=
  silent_foldl each _

/-! ## Requests and sessions -/

theorem silent_complete (id : Nat) (error : XccErrorCode) :
    Silent world (xccRequestComplete world id error) := by
  rw [xccRequestComplete]
  dsimp only
  split_ifs <;> exact .same rfl rfl rfl

theorem silent_post (post : Post) : Silent world (world.post post) := by
  rw [World.post]
  split_ifs
  · exact .same rfl rfl rfl
  · exact ⟨fun _ => rfl, rfl, List.prefix_append ..⟩

theorem silent_check : Silent world (xccContextCheckShutdown world) := by
  rw [xccContextCheckShutdown]
  split_ifs <;> exact .same rfl rfl rfl

theorem silent_intend (reason : XccCancelReason) :
    Silent world (intend world id reason) := by
  rw [intend]
  split_ifs <;> exact .same rfl rfl rfl

theorem silent_firstCode (code : XccErrorCode) :
    Silent world (firstCode world id code) := by
  rw [firstCode]
  split_ifs <;> exact .same rfl rfl rfl

theorem silent_cancelOpen : Silent world (cancelOpen world id) := by
  rw [cancelOpen]
  split_ifs <;> exact .same rfl rfl rfl

theorem silent_invalidate (reason : InvalidationReason) :
    Silent world (xccSessionInvalidateInternal world id reason) := by
  have tells (first : World) : Silent first (eachOfSession first id
      fun world request =>
        firstCode
          (intend world request (InvalidationReason.cancel reason)) request
          (InvalidationReason.cancel reason).code) := by
    refine silent_eachRequest fun world request => ?_
    split_ifs
    · exact (silent_intend _).trans (silent_firstCode _)
    · exact .same rfl rfl rfl
  rw [xccSessionInvalidateInternal]
  dsimp only
  split_ifs
  · exact .same rfl rfl rfl
  · refine Silent.trans ?_ (.places (samePlaces_close id))
    exact ⟨fun other => (tells (world.setSession id _)).told other,
      (tells (world.setSession id _)).made,
      (tells (world.setSession id _)).posts⟩

theorem silent_fence : Silent world (fence world id) := by
  rw [fence]
  dsimp only
  split_ifs <;> exact .same rfl rfl rfl

theorem silent_generation (value : Nat) :
    Silent world (generation world value) := by
  have set : Silent world
      ({ world with generation := value }.emit (.ownerGeneration value)) :=
    silent_cons (fun _ => rfl) rfl rfl rfl
  refine (set.trans (silent_eachRequest fun _ _ => silent_fence)).trans
    (silent_eachSession fun world session => ?_)
  split_ifs
  · exact .places (samePlaces_close session)
  · exact .same rfl rfl rfl

theorem silent_shutdownStart : Silent world (shutdownStart world) := by
  have abandons (world : World) (id : Nat) :
      Silent world (abandon world id) := by
    rw [abandon]
    dsimp only
    split_ifs <;> exact .same rfl rfl rfl
  exact ((silent_eachRequest abandons).trans
    (silent_eachSession fun _ _ => silent_invalidate _)).from rfl rfl rfl

theorem silent_sessionCall (reason : Option InvalidationReason) :
    Silent world (sessionCall world id reason) := by
  cases reason with
  | none => exact .places (samePlaces_close id)
  | some reason => exact silent_invalidate reason

/-! ## Presence events -/

theorem silent_acquireEvent (event : WatchEvent) :
    Silent world (acquireEvent event world id) := by
  have tells : Silent world (tellChooser world event id) := by
    rw [tellChooser]
    split
    · split_ifs
      · exact .same rfl rfl rfl
      · exact silent_cons (fun _ => rfl) (by rfl) (by rfl) (by rfl)
    · exact .same rfl rfl rfl
  rw [acquireEvent]
  split_ifs
  · exact .same rfl rfl rfl
  · rw [completedEvent]
    split
    · exact .same rfl rfl rfl
    · split_ifs <;> exact .same rfl rfl rfl
  · rw [openEvent]
    dsimp only
    split_ifs
    · exact .same rfl rfl rfl
    · exact tells.trans (.same rfl rfl rfl)
    · exact tells.trans (.places (samePlaces_startEnumeration id))

theorem silent_tokenEvent (event : WatchEvent) :
    Silent world (tokenEvent world event) := by
  have emitted : Silent world (world.emit (.dispatched event)) :=
    silent_cons (fun _ => rfl) rfl rfl rfl
  have told := emitted.trans
    (silent_eachRequest fun world id => @silent_acquireEvent world id event)
  rw [tokenEvent]
  split_ifs
  · exact told
  · refine told.trans (silent_eachSession fun world session => ?_)
    split_ifs
    · exact silent_invalidate _
    · exact .same rfl rfl rfl

theorem silent_dispatchPending : Silent world (dispatchPending world) :=
  (silent_foldl (fun _ event => silent_tokenEvent event) _).from rfl rfl rfl

/-! ## Starts -/

theorem silent_validate :
    Silent world (xccRequestValidate world id).2 := by
  have validates (world : World) :
      Silent world (validateError world id).2 := by
    rw [validateError]
    split_ifs <;> try exact .same rfl rfl rfl
    rw [validatePrincipal]
    dsimp only
    split
    · split_ifs <;> exact .same rfl rfl rfl
    · exact .same rfl rfl rfl
  have begun : Silent world
      ({ world with active := world.active ++ [id] }.emit
        (.validated id world.generation)) :=
    silent_cons (fun _ => rfl) rfl rfl rfl
  exact begun.trans (validates _)

theorem silent_start : Silent world (start world id) := by
  have validated := @silent_validate world id
  rw [start]
  split
  · rw [xccAcquireStart]
    dsimp only
    split_ifs
    · exact validated.trans (silent_complete ..)
    · exact validated.trans (silent_complete ..)
    · exact validated.trans (silent_complete ..)
    · exact validated.trans (.places (samePlaces_startEnumeration id))
  · rw [xccSignStart]
    dsimp only
    split_ifs
    · exact validated.trans (silent_complete ..)
    · split
      · exact validated
      · split
        · exact validated.trans (silent_complete ..)
        · exact validated.trans (silent_cons (fun _ => rfl) rfl rfl rfl)
  · rw [capabilitiesStart]
    dsimp only
    split_ifs
    · exact validated.trans (silent_complete ..)
    · exact validated.trans (.same rfl rfl rfl)

theorem silent_cancelled (reason : XccCancelReason) :
    Silent world (xccRequestCancel world id reason) := by
  rw [xccRequestCancel]
  split_ifs
  · exact .same rfl rfl rfl
  · exact (silent_intend _).trans (silent_post _)

theorem silent_runPost (post : Post) : Silent world (runPost world post) := by
  cases post with
  | start id => exact silent_start
  | cancel id reason => exact (silent_firstCode _).trans silent_cancelOpen
  | rollbackAcquisition id =>
      show Silent world (rollbackAcquisition world id)
      rw [rollbackAcquisition]
      split
      · exact silent_cons (fun _ => rfl) (by rfl) (by rfl) (by rfl)
      · exact silent_cons (fun _ => rfl) (by rfl) (by rfl) (by rfl)
  | completionAck id => exact .same rfl rfl rfl
  | generation value => exact silent_generation value
  | shutdownStart => exact silent_shutdownStart
  | sessionNewRegister spec =>
      show Silent world (sessionNewRegister world spec)
      rw [sessionNewRegister]
      split_ifs <;> exact .same rfl rfl rfl
  | principalCheck session principal => exact .same rfl rfl rfl
  | sessionCall session reason => exact silent_sessionCall reason

/-! ## Choosers and enumerations -/

theorem silent_finishAcquire (candidate : CertificateCandidate) :
    Silent world (finishAcquire world id candidate) := by
  have granted (session : Nat) :
      Silent world (grantRequest world id session candidate) :=
    silent_cons (fun _ => rfl) (by rfl) (by rfl) (by rfl)
  rw [finishAcquire]
  cases (world.requests id).session with
  | none =>
      dsimp only
      split_ifs <;> exact silent_complete ..
  | some session =>
      dsimp only
      split_ifs
      · exact silent_complete ..
      · exact silent_complete ..
      · exact silent_complete ..
      · exact (granted session).trans (silent_complete ..)

theorem silent_settleChooser (chosen : Option CertificateCandidate)
    (error : XccErrorCode) :
    Silent world (settleChooser world id chosen error) := by
  cases chosen with
  | none =>
      dsimp only [settleChooser]
      split_ifs <;> first | exact .same rfl rfl rfl | exact silent_complete ..
  | some candidate =>
      dsimp only [settleChooser]
      split_ifs
      · exact .same rfl rfl rfl
      · exact silent_complete ..
      · exact silent_complete ..
      · exact silent_complete ..
      · exact silent_finishAcquire candidate

theorem silent_chooserDone (chosen : Option CertificateCandidate)
    (error : XccErrorCode) :
    Silent world (onChooserDone world id chosen error) :=
  (Silent.trans silent_dispatchPending (silent_settleChooser ..)).from
    rfl rfl rfl

theorem silent_enumeratedCompleted (outcome : Enumerated) (realTime : Int) :
    Silent world (enumeratedCompleted world id outcome realTime) := by
  rw [enumeratedCompleted]
  dsimp only
  split
  · exact silent_chooserDone ..
  · split
    · exact silent_chooserDone ..
    · split
      · exact silent_complete ..
      · split
        · exact .places (samePlaces_startEnumeration id)
        · split
          · exact silent_chooserDone ..
          · exact silent_complete ..

theorem silent_enumeratedFailed (error : EnumerateError) :
    Silent world (enumeratedFailed world id error) := by
  rw [enumeratedFailed]
  dsimp only
  split_ifs
  · exact .same rfl rfl rfl
  · exact .same rfl rfl rfl
  · exact silent_complete ..
  · exact silent_complete ..
  · exact silent_complete ..

theorem silent_publish (enumeration : Nat)
    (candidates : List CertificateCandidate) (tokensPresent : Bool) :
    Silent world
      (publish world id enumeration candidates tokensPresent) := by
  rw [publish]
  split <;> exact silent_cons (fun _ => rfl) (by rfl) (by rfl) (by rfl)

theorem silent_settleEnumerated (enumeration : Nat) (outcome : Enumerated)
    (tokensPresent : Bool) (realTime : Int) :
    Silent world (settleEnumerated world id enumeration outcome
      tokensPresent realTime) := by
  rw [settleEnumerated.eq_def]
  dsimp only
  split
  · exact silent_complete ..
  · split
    · exact silent_enumeratedCompleted ..
    · split
      · exact silent_enumeratedFailed _
      · split_ifs
        · exact silent_complete ..
        · exact silent_complete ..
        · exact .places (samePlaces_startEnumeration id)
        · exact silent_publish ..

theorem silent_enumerated (enumeration : Nat) (outcome : Enumerated)
    (tokensPresent : Bool) (realTime : Int) :
    Silent world
      (onEnumerated world id enumeration outcome tokensPresent realTime) := by
  have emitted : Silent world
      (world.emit (.enumerated id enumeration (propagated world id outcome)))
      := silent_cons (fun _ => rfl) rfl rfl rfl
  exact ((emitted.trans silent_dispatchPending).trans
    (.places (samePlaces_landed id enumeration))).trans
      (silent_settleEnumerated ..)

theorem silent_operationDone (outcome : Except OperationError Octets) :
    Silent world (operationDone world id outcome) := by
  cases outcome with
  | error error => exact silent_complete ..
  | ok value => exact (silent_complete ..).from rfl rfl rfl

theorem silent_ui {action : Core.Ui.Action}
    (moves : uiStep world action = some next) : Silent world next := by
  rw [uiStep] at moves
  split_ifs at moves
  rw [Option.map_eq_some_iff] at moves
  rcases moves with ⟨ui, -, rfl⟩
  have after : Silent world (afterUi world action ui) := by
    rw [afterUi]
    dsimp only
    split
    · exact .same rfl rfl rfl
    · split
      · exact .same rfl rfl rfl
      · rename_i chosen error _
        have emitted (event : Event)
            (other : ∀ id, isDone id event = false) :
            Silent world ({ world with ui }.emit event) :=
          silent_cons other rfl rfl rfl
        exact (emitted _ fun _ => rfl).trans (silent_chooserDone ..)
  refine after.trans ?_
  rw [uiDelivered.eq_def]
  split
  · exact silent_cons (fun _ => rfl) rfl rfl rfl
  · exact .same rfl rfl rfl

/-! ## All steps -/

/-- A client asks for something. -/
def asks : Action → Bool
  | .acquire .. | .sign .. | .capabilities => true
  | _ => false

/-- Scheduling makes one request, and tells nobody. -/
theorem schedule_asks (asked : Asked) (principal : XccPrincipal) :
    (∀ id, told (schedule world asked principal).trace id =
      told world.trace id) ∧
    (schedule world asked principal).nextRequest =
      world.nextRequest + 1 := by
  let made : World :=
    { world.setRequest world.nextRequest (xccRequestNew asked principal) with
      nextRequest := world.nextRequest + 1 }
  have scheduled : Silent made (xccRequestSchedule made world.nextRequest) := by
    rw [xccRequestSchedule]
    split_ifs
    · exact (silent_complete ..).from rfl rfl rfl
    · exact silent_post _
  exact ⟨scheduled.told, scheduled.made⟩

/-- The main loop takes the post that it runs. -/
def taken (world : World) : Action → World
  | .post => { world with posts := world.posts.tail }
  | _ => world

@[simp]
theorem trace_taken (world : World) (action : Action) :
    (taken world action).trace = world.trace := by
  cases action <;> rfl

@[simp]
theorem nextRequest_taken (world : World) (action : Action) :
    (taken world action).nextRequest = world.nextRequest := by
  cases action <;> rfl

/-- A step that is not the last part of a delivery calls nobody back. -/
theorem silent_step {action : Action}
    (moves : step world action = some next) (others : asks action = false)
    (apart : ∀ id, world.desktop = .calling id → action ≠ .proceed) :
    Silent (taken world action) next := by
  cases action with
  | acquire | sign | capabilities => cases others
  | cancel request reason =>
      rw [step] at moves
      split_ifs at moves
      cases moves
      exact silent_cancelled reason
  | sessionNew spec =>
      rw [step] at moves
      split_ifs at moves
      cases moves
      exact silent_post _
  | checkPrincipal session principal =>
      rw [step] at moves
      split_ifs at moves
      cases moves
      exact silent_post _
  | sessionClose session =>
      rw [step] at moves
      split_ifs at moves
      cases moves
      exact silent_post _
  | sessionInvalidate session reason =>
      rw [step] at moves
      split_ifs at moves
      cases moves
      exact silent_post _
  | setOwnerGeneration value =>
      cases moves
      exact silent_post _
  | shutdown =>
      cases moves
      rw [xccContextShutdownAsync]
      split_ifs
      · exact .same rfl rfl rfl
      · exact (silent_post _).from rfl rfl rfl
  | tick now =>
      rw [step] at moves
      split_ifs at moves
      cases moves
      exact .same rfl rfl rfl
  | hold held =>
      cases moves
      exact .same rfl rfl rfl
  | watchEmit event =>
      cases moves
      exact .same rfl rfl rfl
  | post =>
      rw [step] at moves
      split at moves
      · cases moves
      · rename_i post rest posts
        rcases Steps.coordinates_some moves with ⟨-, -, rfl⟩
        rw [taken, posts, List.tail_cons]
        exact (silent_runPost post).trans silent_check
  | dispatchEvents =>
      rcases Steps.coordinates_some moves with ⟨-, -, rfl⟩
      exact silent_dispatchPending
  | enumerated request enumeration outcome tokensPresent realTime =>
      rcases Steps.coordinates_some moves with ⟨-, -, rfl⟩
      exact silent_enumerated ..
  | operationDone request outcome =>
      rcases Steps.coordinates_some moves with ⟨-, -, rfl⟩
      exact silent_operationDone outcome
  | capabilitiesDone request =>
      rcases Steps.coordinates_some moves with ⟨-, -, rfl⟩
      exact silent_complete ..
  | lifetimeExpired session =>
      rcases Steps.coordinates_some moves with ⟨-, -, rfl⟩
      exact (silent_invalidate _).from rfl rfl rfl
  | watchStopped =>
      rcases Steps.coordinates_some moves with ⟨-, -, rfl⟩
      exact silent_check.from rfl rfl rfl
  | shutdownPoll =>
      rcases Steps.coordinates_some moves with ⟨-, -, rfl⟩
      exact silent_check
  | ui action => exact silent_ui moves
  | deliver =>
      rw [step] at moves
      split at moves
      · rename_i delivery rest idle queue
        cases moves
        cases delivery with
        | completion id => exact silent_cons (fun _ => rfl) rfl rfl rfl
        | invalidated session reason =>
          exact silent_cons (fun _ => rfl) rfl rfl rfl
        | shutdownDelivered => exact silent_cons (fun _ => rfl) rfl rfl rfl
      · cases moves
  | proceed =>
      rw [step, proceed] at moves
      split at moves
      · cases moves
      · cases moves
        rw [completionSettles]
        dsimp only
        split_ifs
        · exact (silent_post _).trans (.same rfl rfl rfl)
        · split <;> exact .same rfl rfl rfl
        · exact .same rfl rfl rfl
      · rename_i id calling
        exact absurd rfl (apart id calling)

end PortalCertificate.Context.Silence
