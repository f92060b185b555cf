import Mathlib.Data.List.Perm.Basic
import PortalCertificate.Broker.Machine
import PortalCertificate.Library.Trace

/-!
# Where every operation is

An operation that has been accepted is in one place until it is answered,
and it is answered once.  While the coordinator has an operation in hand, it
is in no place.
-/

namespace PortalCertificate.Broker.Places

open PortalCertificate.Broker.Device hiding Event State
open PortalCertificate.Broker.Login
open PortalCertificate.Broker.Machine
open PortalCertificate.Broker.Operations
open PortalCertificate.Core.Coordinator (CertificatePinOutcome)
open PortalCertificate.Core.Principals (XccSession)
open PortalCertificate.Glib
open PortalCertificate.Library.Der (Octets)
open PortalCertificate.Library.Transition
open PortalCertificate.Pkcs11

variable {world next : World} {hand later : List Nat} {id interaction : Nat}
  {handle : CkUlong} {failure : Failure}

/-! ## Places and answers -/

/-- How often an operation is in a place. -/
def load (world : World) (id : Nat) : Nat :=
  world.opens.count id + (world.opened.map Prod.fst).count id +
    world.signs.count id + (world.signing.toList.map Prod.fst).count id +
    (world.signed.map Prod.fst).count id + world.waiters.count id

/-- The event is an answer to the operation. -/
def isAnswer (id : Nat) : Event → Bool
  | .answered other _ => other = id
  | _ => false

/-- How often the operation has been answered. -/
def answers (id : Nat) (trace : List Event) : Nat :=
  trace.countP (isAnswer id)

/-- An operation without an answer is in hand or in one place. -/
structure Accounted (hand : List Nat) (world : World) : Prop where
  placed : ∀ id, hand.count id + load world id =
    if id < world.nextOperation ∧ (world.operations id).answered = false
    then 1 else 0
  answers : ∀ id, answers id world.trace =
    if id < world.nextOperation ∧ (world.operations id).answered = true
    then 1 else 0

/-- Operations have been moved, and none has been answered. -/
structure Moved (hand : List Nat) (world : World) (later : List Nat)
    (next : World) : Prop where
  placed : ∀ id, later.count id + load next id =
    hand.count id + load world id
  known : next.nextOperation = world.nextOperation
  answered : ∀ id,
    (next.operations id).answered = (world.operations id).answered
  answers : ∀ id, answers id next.trace = answers id world.trace

theorem Moved.refl (hand : List Nat) (world : World) :
    Moved hand world hand world :=
  ⟨fun _ => rfl, rfl, fun _ => rfl, fun _ => rfl⟩

theorem Moved.trans {third : World} {last : List Nat}
    (first : Moved hand world later next)
    (second : Moved later next last third) : Moved hand world last third where
  placed id := (second.placed id).trans (first.placed id)
  known := second.known.trans first.known
  answered id := (second.answered id).trans (first.answered id)
  answers id := (second.answers id).trans (first.answers id)

/-- The account stays right when operations move. -/
theorem Accounted.moved (accounted : Accounted hand world)
    (moved : Moved hand world later next) : Accounted later next where
  placed id := by
    rw [moved.placed, accounted.placed, moved.known, moved.answered]
  answers id := by
    rw [moved.answers, accounted.answers, moved.known, moved.answered]

/-- What is in hand has not been answered. -/
theorem Accounted.unanswered (accounted : Accounted hand world)
    (member : id ∈ hand) :
    id < world.nextOperation ∧ (world.operations id).answered = false := by
  by_contra answered
  have placed := accounted.placed id
  rw [if_neg answered] at placed
  have here := List.count_pos_iff.mpr member
  omega

/-- No operation waits twice. -/
theorem Accounted.waiters_nodup (accounted : Accounted hand world) :
    world.waiters.Nodup := by
  rw [List.nodup_iff_count_le_one]
  intro id
  have placed := accounted.placed id
  rw [load] at placed
  split_ifs at placed <;> omega

/-- What is in hand is in no place. -/
theorem Accounted.not_waiting (accounted : Accounted hand world)
    (member : id ∈ hand) : id ∉ world.waiters := by
  intro waits
  have placed := accounted.placed id
  have here := List.count_pos_iff.mpr member
  have there := List.count_pos_iff.mpr waits
  rw [load] at placed
  split_ifs at placed <;> omega

/-! ## Counting -/

theorem count_erase {list : List Nat} (member : id ∈ list) (other : Nat) :
    (list.erase id).count other + (if id == other then 1 else 0) =
      list.count other := by
  have perm := (List.perm_cons_erase member).count_eq other
  rw [perm, List.count_cons]

theorem count_eraseIdx {α : Type} {list : List (Nat × α)} {index : Nat}
    {value : α} (entry : list[index]? = some (id, value)) (other : Nat) :
    ((list.eraseIdx index).map Prod.fst).count other +
        (if id == other then 1 else 0) =
      (list.map Prod.fst).count other := by
  obtain ⟨bound, here⟩ := List.getElem?_eq_some_iff.mp entry
  have perm := (List.getElem_cons_eraseIdx_perm bound).map Prod.fst
  rw [← perm.count_eq other, here, List.map_cons, List.count_cons]

theorem count_snoc (list : List Nat) (id other : Nat) :
    (list ++ [id]).count other =
      list.count other + if id == other then 1 else 0 := by
  rw [List.count_append, List.count_cons, List.count_nil, Nat.zero_add]

/-! ## What moves no operation -/

theorem moved_emit {event : Event}
    (silent : ∀ id, isAnswer id event = false) :
    Moved hand world hand (world.emit event) where
  placed _ := rfl
  known := rfl
  answered _ := rfl
  answers id := List.countP_cons_of_neg (by rw [silent]; exact nofun)

theorem moved_setOperation {operation : PendingOperation}
    (same : operation.answered = (world.operations id).answered) :
    Moved hand world hand (world.setOperation id operation) where
  placed _ := rfl
  known := rfl
  answered other := by
    show (Function.update world.operations id operation other).answered = _
    by_cases this : other = id
    · rw [this, Function.update_self, same]
    · rw [Function.update_of_ne this]
  answers _ := rfl

theorem moved_setInteraction {login : LoginInteraction} :
    Moved hand world hand (world.setInteraction interaction login) :=
  ⟨fun _ => rfl, rfl, fun _ => rfl, fun _ => rfl⟩

theorem answers_append {news trace : List Event}
    (silent : ∀ event ∈ news, isAnswer id event = false) :
    answers id (news ++ trace) = answers id trace := by
  have none : news.countP (isAnswer id) = 0 := by
    rw [List.countP_eq_zero]
    intro event member
    rw [silent event member]
    exact nofun
  rw [answers, List.countP_append, none, Nat.zero_add, answers]

theorem moved_useDevice {state : Device.State} :
    Moved hand world hand (world.useDevice state) where
  placed _ := rfl
  known := rfl
  answered _ := rfl
  answers id := answers_append fun event member => by
    rcases List.mem_map.mp member with ⟨noted, -, rfl⟩
    rfl

theorem moved_cancelOperation :
    Moved hand world hand (cancelOperation world id) := by
  unfold cancelOperation
  dsimp only
  split
  · exact .refl ..
  · exact .trans (moved_setOperation (by rfl)) (moved_emit fun _ => rfl)

theorem moved_cancelUnanswered :
    Moved hand world hand (cancelUnanswered world id) := by
  unfold cancelUnanswered
  split
  · exact .refl ..
  · exact moved_cancelOperation

theorem moved_releaseDeviceAsync :
    Moved hand world hand (releaseDeviceAsync world) := by
  unfold releaseDeviceAsync
  split
  · exact .refl ..
  · exact ⟨fun _ => rfl, rfl, fun _ => rfl, fun _ => rfl⟩

theorem moved_foldl {Index : Type} {body : World → Index → World}
    (moves : ∀ world index, Moved hand world hand (body world index))
    (indices : List Index) :
    Moved hand world hand (indices.foldl body world) := by
  induction indices generalizing world with
  | nil => exact .refl ..
  | cons index rest ih => exact (moves world index).trans ih

theorem moved_sessionClose :
    Moved hand world hand (sessionClose world) := by
  unfold sessionClose
  split
  · exact .refl ..
  · have closed : Moved hand world hand
        ({ world with
          session := { world.session with closed := true } }.emit
          .sessionClosed) :=
      ⟨fun _ => rfl, rfl, fun _ => rfl, fun _ => rfl⟩
    exact (closed.trans
      (moved_foldl (fun _ _ => moved_cancelUnanswered) _)).trans
      moved_releaseDeviceAsync

theorem moved_detachWaiterCancel :
    Moved hand world hand (detachWaiterCancel world id) :=
  moved_setOperation rfl

theorem moved_cancelInteraction :
    Moved hand world hand (cancelInteraction world interaction) :=
  moved_setInteraction.trans (moved_emit fun _ => rfl)

/-! ## From the hand into a place -/

theorem moved_openOperation :
    Moved (id :: hand) world hand (openOperation world id) := by
  have noted : Moved (id :: hand) world (id :: hand)
      (world.setOperation id
        { world.operations id with
          openLoginGeneration := world.loginGeneration }) :=
    moved_setOperation rfl
  refine noted.trans ⟨?_, rfl, fun _ => rfl, fun _ => rfl⟩
  intro other
  simp only [openOperation, load, World.waiters, count_snoc, List.count_cons]
  dsimp only [World.setOperation]
  omega

theorem moved_runOperation :
    Moved (id :: hand) world hand (runOperation world id) := by
  refine ⟨?_, rfl, fun _ => rfl, fun _ => rfl⟩
  intro other
  simp only [runOperation, load, World.waiters, count_snoc, List.count_cons]
  omega

/-- An operation in hand is answered. -/
theorem Accounted.answer (accounted : Accounted (id :: hand) world)
    (result : Except Failure Octets) :
    Accounted hand
      ((world.setOperation id
        { world.operations id with answered := true }).emit
        (.answered id result)) := by
  have ⟨known, unanswered⟩ := accounted.unanswered (List.mem_cons_self ..)
  have told (other : Nat) :
      (Function.update world.operations id
        { world.operations id with answered := true } other).answered =
      if other = id then true else (world.operations other).answered := by
    by_cases this : other = id
    · rw [this, Function.update_self, if_pos rfl]
    · rw [Function.update_of_ne this, if_neg this]
  constructor
  · intro other
    have placed := accounted.placed other
    show hand.count other + load world other =
      if other < world.nextOperation ∧
        (Function.update world.operations id _ other).answered = false
      then 1 else 0
    rw [told]
    by_cases this : other = id
    · subst this
      rw [if_pos ⟨known, unanswered⟩, List.count_cons_self] at placed
      rw [if_pos rfl, if_neg (by simp)]
      omega
    · rw [List.count_cons_of_ne (Ne.symm this)] at placed
      rw [if_neg this, placed]
  · intro other
    have answers := accounted.answers other
    show (Event.answered id result :: world.trace).countP (isAnswer other) =
      if other < world.nextOperation ∧
        (Function.update world.operations id _ other).answered = true
      then 1 else 0
    rw [told]
    by_cases this : other = id
    · subst this
      rw [if_neg (by simp [unanswered])] at answers
      rw [if_pos rfl, if_pos ⟨known, rfl⟩,
        List.countP_cons_of_pos (by simp [isAnswer])]
      exact congrArg (· + 1) answers
    · rw [List.countP_cons_of_neg (by simp [isAnswer, Ne.symm this]),
        if_neg this]
      exact answers

/-- An operation without an answer gets one when it fails. -/
theorem operationFail_of_unanswered
    (unanswered : (world.operations id).answered = false) :
    operationFail world id failure =
      (world.setOperation id
        { world.operations id with answered := true }).emit
        (.answered id (.error failure)) :=
  if_neg (by rw [unanswered]; exact nofun)

theorem accounted_operationFail (accounted : Accounted (id :: hand) world) :
    Accounted hand (operationFail world id failure) := by
  have unanswered := (accounted.unanswered (List.mem_cons_self ..)).2
  rw [operationFail_of_unanswered unanswered]
  exact accounted.answer _

theorem accounted_operationSucceed {value : Octets}
    (accounted : Accounted (id :: hand) world) :
    Accounted hand (operationSucceed world id value) := by
  have unanswered := (accounted.unanswered (List.mem_cons_self ..)).2
  rw [operationSucceed, if_neg (by rw [unanswered]; exact nofun)]
  exact accounted.answer _

theorem accounted_applyLoginOutcome {outcome : CertificatePinOutcome}
    (accounted : Accounted (id :: hand) world) :
    Accounted hand (applyLoginOutcome world id outcome) := by
  unfold applyLoginOutcome
  split
  · exact accounted_operationFail accounted
  · split
    · exact accounted.moved moved_runOperation
    · exact accounted_operationFail (accounted.moved moved_sessionClose)
    · exact accounted_operationFail accounted

theorem accounted_failTask (accounted : Accounted (id :: hand) world) :
    Accounted hand (failTask world id failure) := by
  unfold failTask
  split
  · exact accounted_operationFail (accounted.moved moved_sessionClose)
  · exact accounted_operationFail accounted

/-! ## The login -/

/-- An operation in hand that has waited for a login is placed or answered. -/
theorem accounted_finishWaiter (accounted : Accounted (id :: hand) world) :
    Accounted hand (finishWaiter interaction world id) := by
  have detached : Accounted (id :: hand) (detachWaiterCancel world id) :=
    accounted.moved moved_detachWaiterCancel
  unfold finishWaiter
  dsimp only
  split
  · refine (detached.moved ?_).moved moved_openOperation
    exact .trans (moved_setOperation (by rfl)) (moved_emit fun _ => rfl)
  · exact accounted_applyLoginOutcome
      (detached.moved (moved_emit fun _ => rfl))

theorem accounted_finishWaiters (waiters : List Nat)
    (accounted : Accounted (waiters ++ hand) world) :
    Accounted hand (waiters.foldl (finishWaiter interaction) world) := by
  induction waiters generalizing world with
  | nil => exact accounted
  | cons id rest ih => exact ih (accounted_finishWaiter accounted)

/-- The operations that have waited are in hand. -/
theorem accounted_settle (interaction : Nat)
    (accounted : Accounted hand world) :
    Accounted (world.waiters ++ hand)
      ({ world with
        loginInProgress := false
        loginGeneration := world.loginGeneration + 1
        loginWaiters := none
        loginCancellable := none }.emit (.settled interaction)) := by
  refine accounted.moved ⟨?_, rfl, fun _ => rfl, fun _ => rfl⟩
  intro other
  simp only [load, World.waiters, World.emit, List.count_append,
    Option.getD_none, List.count_nil]
  omega

theorem accounted_finishLogin (accounted : Accounted hand world) :
    Accounted hand (finishLogin world interaction) :=
  accounted_finishWaiters _ (accounted_settle interaction accounted)

theorem accounted_onPinDone {outcome : CertificatePinOutcome}
    (accounted : Accounted hand world) :
    Accounted hand (onPinDone world interaction outcome) := by
  have ended {login : LoginInteraction} {kept : CertificatePinOutcome} :
      Accounted hand ((world.setInteraction interaction login).emit
        (.ended interaction kept)) :=
    accounted.moved (moved_setInteraction.trans (moved_emit fun _ => rfl))
  unfold onPinDone
  dsimp only
  split
  · exact ended.moved ⟨fun _ => rfl, rfl, fun _ => rfl, fun _ => rfl⟩
  · exact accounted_finishLogin ended

theorem moved_addWaiter :
    Moved (id :: hand) world hand (world.addWaiter id) := by
  refine ⟨?_, rfl, fun _ => rfl, fun _ => rfl⟩
  intro other
  simp only [load, World.addWaiter, World.waiters, Option.getD_some,
    count_snoc, List.count_cons]
  omega

theorem moved_removeWaiter (member : id ∈ world.waiters) :
    Moved hand world (id :: hand) (world.removeWaiter id) := by
  refine ⟨?_, rfl, fun _ => rfl, fun _ => rfl⟩
  intro other
  have counted := count_erase member other
  simp only [load, World.removeWaiter, World.waiters, Option.getD_some,
    List.count_cons] at counted ⊢
  omega

theorem accounted_joinLogin (accounted : Accounted (id :: hand) world) :
    Accounted hand (joinLogin world id interaction) :=
  ((accounted.moved (moved_setOperation (by rfl))).moved
    moved_addWaiter).moved (moved_emit fun _ => rfl)

/-- An operation in hand that needs a login is placed or answered. -/
theorem accounted_askLogin (accounted : Accounted (id :: hand) world) :
    Accounted hand (askLogin world id) := by
  have noted : Accounted (id :: hand)
      (world.setOperation id
        { world.operations id with loginCancelId := true }) :=
    accounted.moved (moved_setOperation rfl)
  exact (noted.moved moved_addWaiter).moved
    ⟨fun _ => rfl, rfl, fun _ => rfl, fun _ => rfl⟩

theorem accounted_beginLogin {display : Bool}
    (accounted : Accounted (id :: hand) world) :
    Accounted hand (beginLogin world id display) := by
  unfold beginLogin
  split
  · exact accounted_askLogin accounted
  · exact accounted_onPinDone (accounted_askLogin accounted)

theorem accounted_waiterCancelledIdle (accounted : Accounted hand world) :
    Accounted hand (waiterCancelledIdle world id) := by
  have idled : Accounted hand (world.setOperation id
      { world.operations id with loginCancelIdle := false }) :=
    accounted.moved (moved_setOperation rfl)
  unfold waiterCancelledIdle
  dsimp only
  split
  · rename_i member
    have taken := idled.moved (moved_removeWaiter member)
    have left : Accounted (id :: hand) (detachWaiterCancel _ id) :=
      taken.moved moved_detachWaiterCancel
    split
    · exact (accounted_operationFail left).moved moved_cancelInteraction
    · exact accounted_operationFail left
  · exact idled

/-! ## Results of tasks -/

theorem accounted_onOpened {opened : Except Failure Bool} {display : Bool}
    (accounted : Accounted (id :: hand) world) :
    Accounted hand (onOpened world id opened display) := by
  unfold onOpened
  dsimp only
  split
  · exact accounted_failTask accounted
  · split
    · exact accounted_operationFail accounted
    · split_ifs
      · split
        · exact accounted_joinLogin accounted
        · exact accounted_operationFail accounted
      · exact accounted.moved moved_openOperation
      · exact accounted_beginLogin accounted
      · exact accounted.moved moved_runOperation

theorem accounted_onSigned {signed : Signed}
    (accounted : Accounted (id :: hand) world) :
    Accounted hand (onSigned world id signed) := by
  unfold onSigned
  dsimp only
  split
  · split_ifs
    · exact accounted_operationFail accounted
    · exact (accounted.moved (moved_setOperation (by rfl))).moved
        moved_openOperation
  · split_ifs
    · exact accounted_applyLoginOutcome accounted
    · exact accounted_failTask accounted
  · split_ifs
    · split
      · exact accounted_operationFail accounted
      · exact accounted_operationSucceed accounted
    · exact accounted_operationSucceed accounted

/-! ## Workers -/

theorem moved_ensureSessionLocked {answers : OpenAnswers} :
    Moved hand world hand (ensureSessionLocked world answers).1 := by
  unfold ensureSessionLocked
  split
  · exact .refl ..
  · exact moved_useDevice

theorem opens_ensureSessionLocked {answers : OpenAnswers} :
    (ensureSessionLocked world answers).1.opens = world.opens := by
  unfold ensureSessionLocked
  split <;> rfl

theorem moved_openThread {answers : OpenAnswers} :
    Moved hand world hand (openThread world id answers).1 := by
  unfold openThread
  split
  · exact .refl ..
  · have opened : Moved hand world hand
        (ensureSessionLocked world answers).1 := moved_ensureSessionLocked
    split
    all_goals
      rename_i result
      rw [result] at opened
      exact opened

theorem opens_openThread {answers : OpenAnswers} :
    (openThread world id answers).1.opens = world.opens := by
  unfold openThread
  split
  · rfl
  · have opened : (ensureSessionLocked world answers).1.opens =
        world.opens := opens_ensureSessionLocked
    split
    all_goals
      rename_i result
      rw [result] at opened
      exact opened

theorem moved_returnOpen {opened : Except Failure Bool}
    (member : id ∈ world.opens) :
    Moved hand world hand (returnOpen world id opened) := by
  refine ⟨?_, rfl, fun _ => rfl, fun _ => rfl⟩
  intro other
  have counted := count_erase member other
  simp only [returnOpen, load, World.waiters, List.map_append,
    List.map_cons, List.map_nil, count_snoc]
  omega

theorem moved_returnSign {stage : Stage} {signed : Signed}
    (here : world.signing = some (id, stage)) :
    Moved hand world hand (returnSign world id signed) := by
  refine ⟨?_, rfl, fun _ => rfl, fun _ => rfl⟩
  intro other
  simp only [returnSign, load, World.waiters, here, List.map_append,
    List.map_cons, List.map_nil, count_snoc, Option.toList_none,
    Option.toList_some, List.count_cons, List.count_nil]
  omega

/-- The worker with the lock goes on. -/
theorem moved_stage {stage later : Stage} {locked : Bool}
    (here : world.signing = some (id, stage)) :
    Moved hand world hand
      { world with
        signing := some (id, later), deviceLocked := locked } := by
  refine ⟨?_, rfl, fun _ => rfl, fun _ => rfl⟩
  intro other
  simp only [load, World.waiters, here, Option.toList_some, List.map_cons,
    List.map_nil]

theorem moved_submit {stage : Stage} {result : Except CkUlong Octets}
    (here : world.signing = some (id, stage)) :
    Moved hand world hand (submit world id result) :=
  .trans (moved_emit fun _ => rfl) (moved_returnSign here)

theorem moved_takeSign (member : id ∈ world.signs) :
    Moved hand world (id :: hand)
      { world with signs := world.signs.erase id } := by
  refine ⟨?_, rfl, fun _ => rfl, fun _ => rfl⟩
  intro other
  have counted := count_erase member other
  simp only [load, World.waiters, List.count_cons]
  omega

theorem moved_signThread {info : Except CkUlong CkUlong}
    {found : Option (List CkUlong)}
    (member : id ∈ world.signs)
    (free : (operationStillAuthorised world id).toBool = true →
      world.signing = none) :
    Moved hand world hand (signThread world id info found) := by
  unfold signThread
  dsimp only
  split
  · refine (moved_takeSign member).trans
      ⟨?_, rfl, fun _ => rfl, fun _ => rfl⟩
    intro other
    simp only [load, World.waiters, List.map_append, List.map_cons,
      List.map_nil, count_snoc, List.count_cons]
    omega
  · rename_i authorised
    rw [authorised] at free
    have locked : Moved hand world hand
        { world with
          signs := world.signs.erase id
          signing := some (id, .checked)
          deviceLocked := true } := by
      refine (moved_takeSign member).trans
        ⟨?_, rfl, fun _ => rfl, fun _ => rfl⟩
      intro other
      simp only [load, World.waiters, free rfl, Option.toList_none,
        Option.toList_some, List.map_cons, List.map_nil, List.count_cons,
        List.count_nil]
      omega
    split
    · exact locked
    · split
      · exact (locked.trans moved_useDevice).trans (moved_returnSign rfl)
      · exact locked.trans moved_useDevice

theorem moved_devicePerform {stage : Stage} {answers : SignAnswers}
    (here : world.signing = some (id, stage)) :
    Moved hand world hand (devicePerform world id answers) := by
  have entered : Moved hand world hand
      (world.emit (.entered id world.now)) := moved_emit fun _ => rfl
  have used : Moved hand world hand
      ((world.emit (.entered id world.now)).emit
        (.device (.used world.device.session world.device.privateKey))) :=
    entered.trans (moved_emit fun _ => rfl)
  have initialised : Moved hand world hand
      (((world.emit (.entered id world.now)).emit
        (.device (.used world.device.session world.device.privateKey))).emit
          (.initialised id world.device.session)) :=
    used.trans (moved_emit fun _ => rfl)
  unfold devicePerform
  dsimp only
  split
  · exact entered.trans (moved_returnSign here)
  · split
    · exact used.trans (moved_returnSign here)
    · split
      · exact initialised.trans (moved_stage here)
      · exact initialised.trans (moved_submit here)

theorem moved_signPerform {stage : Stage} {answers : SignAnswers}
    (here : world.signing = some (id, stage)) :
    Moved hand world hand (signPerform world id answers) := by
  unfold signPerform
  split
  · exact moved_returnSign here
  · split_ifs
    · exact moved_returnSign here
    · exact moved_devicePerform here

theorem moved_signResume {stage : Stage} {outcome : CertificatePinOutcome}
    {result : Except CkUlong Octets}
    (here : world.signing = some (id, stage)) :
    Moved hand world hand (signResume world id handle outcome result) := by
  have kept : Moved hand world hand
      (world.setOperation id
        { world.operations id with contextOutcome := outcome }) :=
    moved_setOperation rfl
  unfold signResume
  dsimp only
  split
  · exact (kept.trans moved_useDevice).trans (moved_returnSign here)
  · exact kept.trans (moved_submit here)

theorem moved_doContextLogin {rv : CkUlong} :
    Moved hand world hand (doContextLogin world id handle rv).1 := by
  unfold doContextLogin
  split
  · exact .refl ..
  · split_ifs
    · exact .refl ..
    · exact .refl ..
    · exact moved_emit fun _ => rfl

theorem signing_doContextLogin {rv : CkUlong} :
    (doContextLogin world id handle rv).1.signing = world.signing := by
  unfold doContextLogin
  split
  · rfl
  · split_ifs <;> rfl

theorem moved_setAttempt {attempt : Attempt} :
    Moved hand world hand (world.setAttempt interaction attempt) :=
  moved_setInteraction

theorem moved_doLogin {answers : OpenAnswers} :
    Moved hand world hand (doLogin world interaction answers) := by
  unfold doLogin
  split
  · exact moved_setAttempt
  · have opened : Moved hand world hand
        (ensureSessionLocked world answers).1 := moved_ensureSessionLocked
    split
    all_goals
      rename_i result
      rw [result] at opened
    · exact opened.trans moved_setAttempt
    · rename_i used
      have holding : Moved hand used hand
          { used.setAttempt interaction .holding with
            deviceLocked := true } :=
        ⟨fun _ => rfl, rfl, fun _ => rfl, fun _ => rfl⟩
      exact opened.trans holding

theorem moved_performLogin {rv : CkUlong} {found : Option (List CkUlong)} :
    Moved hand world hand (performLogin world interaction rv found).1 := by
  unfold performLogin
  split
  · exact .refl ..
  · dsimp only
    split
    · exact moved_useDevice.trans moved_setInteraction
    · exact (moved_useDevice.trans moved_setInteraction).trans
        (moved_emit fun _ => rfl)

theorem moved_endLogin {rv : CkUlong} {found : Option (List CkUlong)} :
    Moved hand world hand (endLogin world interaction rv found) := by
  have unlocked : Moved hand world hand
      { world with deviceLocked := false } :=
    ⟨fun _ => rfl, rfl, fun _ => rfl, fun _ => rfl⟩
  unfold endLogin
  dsimp only
  split
  · exact unlocked.trans moved_setAttempt
  · split_ifs
    · exact unlocked.trans moved_setAttempt
    · exact (unlocked.trans moved_performLogin).trans moved_setAttempt

theorem moved_releaseThread {login : Option Nat} :
    Moved hand world hand (releaseThread world login) := by
  have closed : Moved hand world hand
      { world.useDevice (certificateDeviceClose ⟨world.device, []⟩) with
        releases := world.releases.erase login
        released := world.released ++ [login] } :=
    moved_useDevice.trans ⟨fun _ => rfl, rfl, fun _ => rfl, fun _ => rfl⟩
  cases login with
  | none => exact closed
  | some interaction => exact closed.trans (moved_emit fun _ => rfl)

theorem accounted_onDeviceReleased {login : Option Nat}
    (accounted : Accounted hand world) :
    Accounted hand (onDeviceReleased world login) := by
  have taken : Accounted hand
      { world with released := world.released.erase login } :=
    accounted.moved ⟨fun _ => rfl, rfl, fun _ => rfl, fun _ => rfl⟩
  cases login with
  | none => exact taken
  | some interaction => exact accounted_finishLogin taken

/-! ## Runs -/

/-- A new operation is in hand. -/
theorem Accounted.accept (accounted : Accounted hand world)
    (operation : Operation) (session : XccSession Grant) (decrypt : Bool) :
    Accounted (world.nextOperation :: hand)
      (({ world with
        session := session
        nextOperation := world.nextOperation + 1 }.setOperation
        world.nextOperation (.new operation)).emit
        (.accepted world.nextOperation decrypt)) := by
  have told (other : Nat) :
      (Function.update world.operations world.nextOperation
        (PendingOperation.new operation) other).answered =
      if other = world.nextOperation then false
      else (world.operations other).answered := by
    by_cases this : other = world.nextOperation
    · rw [this, Function.update_self, if_pos rfl]
      rfl
    · rw [Function.update_of_ne this, if_neg this]
  constructor
  · intro other
    have placed := accounted.placed other
    show (world.nextOperation :: hand).count other + load world other =
      if other < world.nextOperation + 1 ∧
        (Function.update world.operations _ _ other).answered = false
      then 1 else 0
    rw [told]
    by_cases this : other = world.nextOperation
    · subst this
      rw [if_neg (fun known => Nat.lt_irrefl _ known.1)] at placed
      rw [if_pos rfl, if_pos ⟨Nat.lt_succ_self _, rfl⟩,
        List.count_cons_self]
      omega
    · have known : other < world.nextOperation + 1 ↔
          other < world.nextOperation := by omega
      rw [if_neg this, List.count_cons_of_ne (Ne.symm this), placed]
      simp only [known]
  · intro other
    have counted := accounted.answers other
    show Places.answers other world.trace =
      if other < world.nextOperation + 1 ∧
        (Function.update world.operations _ _ other).answered = true
      then 1 else 0
    rw [told]
    by_cases this : other = world.nextOperation
    · subst this
      rw [if_neg (fun known => Nat.lt_irrefl _ known.1)] at counted
      rw [if_pos rfl, if_neg (fun told => Bool.noConfusion told.2)]
      exact counted
    · have known : other < world.nextOperation + 1 ↔
          other < world.nextOperation := by omega
      rw [if_neg this, counted]
      simp only [known]

theorem accounted_brokerPerform {decrypt : Bool}
    {operationId mechanismName : Option String}
    {parameters : Option Vardict} {data : Octets}
    (accounted : Accounted hand world) :
    Accounted hand (brokerPerform world decrypt operationId mechanismName
      parameters data) := by
  unfold brokerPerform
  split
  · exact accounted.moved (moved_emit fun _ => rfl)
  · exact (accounted.accept ..).moved moved_openOperation

/-- A result that is delivered puts its operation in hand. -/
theorem moved_takeOpened {index : Nat} {opened : Except Failure Bool}
    (entry : world.opened[index]? = some (id, opened)) :
    Moved hand world (id :: hand)
      { world with opened := world.opened.eraseIdx index } := by
  refine ⟨?_, rfl, fun _ => rfl, fun _ => rfl⟩
  intro other
  have counted := count_eraseIdx entry other
  simp only [load, World.waiters, List.count_cons]
  omega

theorem moved_takeSigned {index : Nat} {signed : Signed}
    (entry : world.signed[index]? = some (id, signed)) :
    Moved hand world (id :: hand)
      { world with signed := world.signed.eraseIdx index } := by
  refine ⟨?_, rfl, fun _ => rfl, fun _ => rfl⟩
  intro other
  have counted := count_eraseIdx entry other
  simp only [load, World.waiters, List.count_cons]
  omega

theorem accounted_step {action : Action} (accounted : Accounted [] world)
    (moves : step world action = some next) : Accounted [] next := by
  cases action with
  | perform =>
      cases moves
      exact accounted_brokerPerform accounted
  | tick =>
      cases moves
      exact accounted.moved ⟨fun _ => rfl, rfl, fun _ => rfl, fun _ => rfl⟩
  | cancel =>
      rw [step] at moves
      split_ifs at moves
      cases moves
      exact accounted.moved moved_cancelOperation
  | close =>
      cases moves
      exact accounted.moved moved_sessionClose
  | openThread =>
      rw [step] at moves
      split_ifs at moves with ready
      cases moves
      exact (accounted.moved moved_openThread).moved
        (moved_returnOpen (by rw [opens_openThread]; exact ready.1))
  | opened =>
      rcases Option.map_eq_some_iff.mp moves with
        ⟨⟨id, opened⟩, entry, rfl⟩
      exact accounted_onOpened (accounted.moved (moved_takeOpened entry))
  | signThread =>
      rw [step] at moves
      split_ifs at moves with ready
      cases moves
      refine accounted.moved (moved_signThread ready.1 ?_)
      intro authorised
      have free := ready.2
      simp only [refusedAtOnce, authorised, Bool.not_true, Bool.false_or,
        Bool.and_eq_true, Option.isNone_iff_eq_none] at free
      exact free.2
  | signPerform =>
      rw [step] at moves
      split at moves
      · rename_i here
        cases moves
        exact accounted.moved (moved_signPerform here)
      · cases moves
  | promptContext =>
      rw [step] at moves
      split at moves
      · rename_i here
        cases moves
        exact (accounted.moved (moved_emit fun _ => rfl)).moved
          (moved_stage here)
      · cases moves
  | contextPrompt =>
      rw [step, contextPrompt] at moves
      split at moves
      · rename_i here
        rcases Option.map_eq_some_iff.mp moves with ⟨later, -, rfl⟩
        exact accounted.moved (moved_stage here)
      · cases moves
  | contextLogin =>
      rw [step, contextLogin] at moves
      split at moves
      · rename_i here
        split_ifs at moves
        cases moves
        exact (accounted.moved moved_doContextLogin).moved
          (moved_stage (signing_doContextLogin.trans here))
      · cases moves
  | contextDone =>
      rw [step, contextDone] at moves
      split at moves
      · rename_i here
        split_ifs at moves
        cases moves
        exact accounted.moved (moved_stage here)
      · cases moves
  | signResume =>
      rw [step] at moves
      split at moves
      · rename_i here
        split_ifs at moves
        cases moves
        exact accounted.moved (moved_signResume here)
      · cases moves
  | signed =>
      rcases Option.map_eq_some_iff.mp moves with
        ⟨⟨id, signed⟩, entry, rfl⟩
      exact accounted_onSigned (accounted.moved (moved_takeSigned entry))
  | prompt =>
      rcases Option.map_eq_some_iff.mp moves with ⟨later, -, rfl⟩
      exact accounted.moved moved_setInteraction
  | login =>
      rw [step] at moves
      split_ifs at moves
      cases moves
      exact accounted.moved moved_doLogin
  | endLogin =>
      rw [step] at moves
      split_ifs at moves
      cases moves
      exact accounted.moved moved_endLogin
  | pinDone =>
      rw [step] at moves
      split_ifs at moves
      cases moves
      exact accounted_onPinDone accounted
  | release =>
      rw [step] at moves
      split_ifs at moves
      cases moves
      exact accounted.moved moved_releaseThread
  | released =>
      rw [step] at moves
      split_ifs at moves
      cases moves
      exact accounted_onDeviceReleased accounted
  | waiterCancelled =>
      rw [step] at moves
      split_ifs at moves
      cases moves
      exact accounted_waiterCancelledIdle accounted

/-- In every reachable state, each operation is in one place or answered. -/
theorem accounted_of_reachable (reachable : machine.Reachable world) :
    Accounted [] world := by
  refine reachable.invariant ?_ fun _ _ _ _ => accounted_step
  rintro _ ⟨session, now, -, rfl⟩
  refine ⟨fun _ => ?_, fun _ => ?_⟩
  · rw [if_neg (fun known => Nat.not_lt_zero _ known.1)]
    rfl
  · rw [if_neg (fun known => Nat.not_lt_zero _ known.1)]
    rfl

end PortalCertificate.Broker.Places
