import PortalCertificate.Broker.Sharing

/-!
# How often an operation asks for a PIN

An operation asks for a PIN in two ways: it asks for the login of its
session, or waits for one that goes on, and when it has been initialised the
token may ask for a PIN of its own.  What an operation may still ask for
depends on where it is.  With what it has asked for, this never exceeds an
allowance that grows only when a login is found to be gone.
-/

namespace PortalCertificate.Broker.Prompts

open PortalCertificate.Broker.Device hiding Event State
open PortalCertificate.Broker.Ledger
open PortalCertificate.Broker.Login
open PortalCertificate.Broker.Machine
open PortalCertificate.Broker.Operations
open PortalCertificate.Broker.Places
open PortalCertificate.Broker.Sharing
open PortalCertificate.Core.Coordinator (CertificatePinOutcome)
open PortalCertificate.Core.Principals (XccSession)
open PortalCertificate.Glib
open PortalCertificate.Library.Der (Octets)
open PortalCertificate.Library.Trace
open PortalCertificate.Library.Transition
open PortalCertificate.Pkcs11

/-! ## What a history tells -/

/-- The operation asks for the login, or waits for one that is not being
cancelled. -/
def isLogin (id : Nat) : Event → Bool
  | .asked _ other => other == id
  | .joined _ other retries => other == id && !retries
  | _ => false

/-- A PIN is asked for on behalf of the operation alone. -/
def isContext (id : Nat) : Event → Bool
  | .contextAsked other => other == id
  | _ => false

/-- A decryption is accepted. -/
def isAttempt : Event → Bool
  | .accepted _ decrypt => decrypt
  | _ => false

/-- How many logins the operation has asked for or shared. -/
def logins (id : Nat) (trace : List Event) : Nat :=
  trace.countP (isLogin id)

/-- How often a PIN has been asked for on behalf of the operation alone. -/
def contexts (id : Nat) (trace : List Event) : Nat :=
  trace.countP (isContext id)

/-- The PIN interactions of an operation. -/
def pinInteractions (id : Nat) (trace : List Event) : Nat :=
  logins id trace + contexts id trace

/-- How many decryptions have been accepted. -/
def attempts (trace : List Event) : Nat :=
  trace.countP isAttempt

/-! ## What an operation may still ask for -/

/-- The worker with the lock works for the operation, at one of these
stages. -/
def atStage (stages : Stage → Bool) (world : World) (id : Nat) : Nat :=
  world.signing.toList.countP fun entry =>
    entry.1 == id && stages entry.2

/-- The worker has the lock of the device, and has refreshed its login. -/
def isChecked : Stage → Bool
  | .checked => true
  | _ => false

/-- The worker waits for `prompt_context_pin`. -/
def isAsking : Stage → Bool
  | .asking _ => true
  | _ => false

/-- The operation is to be opened once more. -/
def isRetries : Signed → Bool
  | .retries => true
  | _ => false

/-- A worker has found the login gone, which is yet to be delivered. -/
def retrying (world : World) (id : Nat) : Nat :=
  world.signed.countP fun entry => entry.1 == id && isRetries entry.2

/-- The operation is where it may come to ask for a login. -/
def opening (world : World) (id : Nat) : Nat :=
  world.opens.count id + (world.opened.map Prod.fst).count id +
    if (world.operations id).retryLogin then world.waiters.count id else 0

/-- The operation is where it may come to ask for a PIN of its own. -/
def ahead (world : World) (id : Nat) : Nat :=
  world.opens.count id + (world.opened.map Prod.fst).count id +
    world.waiters.count id + world.signs.count id +
    atStage isChecked world id + atStage isAsking world id +
    retrying world id

/-- How often a login has been found gone. -/
def losses (world : World) (id : Nat) : Nat :=
  (world.operations id).retriedOpen.toNat + retrying world id

/-- Whether the operation has been accepted, as a number. -/
def accepted (world : World) (id : Nat) : Nat :=
  if id < world.nextOperation then 1 else 0

/-- How many logins an operation may have asked for. -/
def allowance (world : World) (id : Nat) : Nat :=
  if id < world.nextOperation then
    1 + (world.operations id).retriedOpen.toNat
  else 0

/-! ## Stretches of a run -/

/-- What an operation that the coordinator or a worker has in hand may still
ask for, and what it may still lose. -/
structure Hand where
  openings : Nat
  prompts : Nat
  losses : Nat
  askings : Nat

variable {world next : World} {hand later : Hand} {id other interaction : Nat}
  {handle : CkUlong} {failure : Failure} {trace : List Event}

/-- Nothing is in hand. -/
def Hand.empty : Hand := ⟨0, 0, 0, 0⟩

/-- It counts for the operation that the statement is about. -/
def mine (id other : Nat) : Nat := if other == id then 1 else 0

/-- An operation in hand that is to be opened. -/
def Hand.opener (hand : Hand) (id other : Nat) : Hand :=
  { hand with
    openings := hand.openings + mine id other
    prompts := hand.prompts + mine id other }

/-- An operation in hand that is to run. -/
def Hand.runner (hand : Hand) (id other : Nat) : Hand :=
  { hand with prompts := hand.prompts + mine id other }

/-- Operations in hand that have waited for a login. -/
def Hand.waiting
    (hand : Hand) (world : World) (id : Nat) (waiters : List Nat) : Hand :=
  { hand with
    openings := hand.openings +
      if (world.operations id).retryLogin then waiters.count id else 0
    prompts := hand.prompts + waiters.count id }

/-- Nothing is asked for that was not in stock. -/
structure Spends (id : Nat) (hand : Hand) (world : World) (later : Hand)
    (next : World) : Prop where
  logins : logins id next.trace + opening next id + later.openings +
      allowance world id ≤
    logins id world.trace + opening world id + hand.openings +
      allowance next id
  contexts : contexts id next.trace + ahead next id + later.prompts +
      accepted world id ≤
    contexts id world.trace + ahead world id + hand.prompts +
      accepted next id
  losses : losses next id + later.losses ≤ losses world id + hand.losses
  asking : Prompts.contexts id next.trace + atStage isAsking next id +
      later.askings ≤
    Prompts.contexts id world.trace + atStage isAsking world id +
      hand.askings
  attempts : next.session.rest.decryptCount + attempts world.trace =
    world.session.rest.decryptCount + attempts next.trace

theorem Spends.trans {third : World} {last : Hand}
    (first : Spends id hand world later next)
    (second : Spends id later next last third) :
    Spends id hand world last third where
  logins := by
    have := first.logins
    have := second.logins
    omega
  contexts := by
    have := first.contexts
    have := second.contexts
    omega
  losses := second.losses.trans first.losses
  asking := second.asking.trans first.asking
  attempts := by
    have := first.attempts
    have := second.attempts
    omega

/-- Less is in hand. -/
theorem spends_of_le (openings : later.openings ≤ hand.openings)
    (prompts : later.prompts ≤ hand.prompts)
    (losses : later.losses ≤ hand.losses)
    (askings : later.askings ≤ hand.askings) :
    Spends id hand world later world where
  logins := by omega
  contexts := by omega
  losses := Nat.add_le_add_left losses _
  asking := Nat.add_le_add_left askings _
  attempts := rfl

theorem Spends.refl (id : Nat) (hand : Hand) (world : World) :
    Spends id hand world hand world :=
  spends_of_le le_rfl le_rfl le_rfl le_rfl

/-- An operation in hand need not run. -/
theorem spends_runner :
    Spends id (hand.runner id other) world hand world :=
  spends_of_le le_rfl (Nat.le_add_right ..) le_rfl le_rfl

/-- An operation that is to be opened may run at once. -/
theorem spends_opener :
    Spends id (hand.opener id other) world (hand.runner id other) world :=
  spends_of_le (Nat.le_add_right ..) le_rfl le_rfl le_rfl

/-! ## What moves no operation -/

/-- Where all operations are. -/
def places (world : World) :=
  (world.opens, world.opened, world.signs, world.signing, world.signed,
    world.waiters, world.nextOperation)

/-- Nobody asks for a PIN, and nothing is accepted. -/
def Quiet : Event → Prop
  | .asked _ _ | .joined _ _ _ | .contextAsked _ | .accepted _ _ => False
  | _ => True

/-- Operations have stayed where they are. -/
structure Still (world next : World) : Prop where
  places : places next = places world
  retryLogin : ∀ id, (next.operations id).retryLogin =
    (world.operations id).retryLogin
  retriedOpen : ∀ id, (next.operations id).retriedOpen =
    (world.operations id).retriedOpen
  rest : next.session.rest = world.session.rest
  trace : Adds Quiet world.trace next.trace

namespace Still

theorem refl (world : World) : Still world world :=
  ⟨rfl, fun _ => rfl, fun _ => rfl, rfl, .refl _⟩

theorem trans {third : World} (first : Still world next)
    (second : Still next third) : Still world third where
  places := second.places.trans first.places
  retryLogin id := (second.retryLogin id).trans (first.retryLogin id)
  retriedOpen id := (second.retriedOpen id).trans (first.retriedOpen id)
  rest := second.rest.trans first.rest
  trace := first.trace.trans second.trace

theorem opens (still : Still world next) : next.opens = world.opens :=
  congrArg (·.1) still.places

theorem opened (still : Still world next) : next.opened = world.opened :=
  congrArg (·.2.1) still.places

theorem signs (still : Still world next) : next.signs = world.signs :=
  congrArg (·.2.2.1) still.places

theorem signing (still : Still world next) : next.signing = world.signing :=
  congrArg (·.2.2.2.1) still.places

theorem signed (still : Still world next) : next.signed = world.signed :=
  congrArg (·.2.2.2.2.1) still.places

theorem waiters (still : Still world next) : next.waiters = world.waiters :=
  congrArg (·.2.2.2.2.2.1) still.places

theorem known (still : Still world next) :
    next.nextOperation = world.nextOperation :=
  congrArg (·.2.2.2.2.2.2) still.places

end Still

/-- Quiet events do not count. -/
theorem countP_of_adds {kind : Event → Bool} {later : List Event}
    (silent : ∀ event, Quiet event → kind event = false)
    (adds : Adds Quiet trace later) :
    later.countP kind = trace.countP kind := by
  rcases adds with ⟨news, rfl, fits⟩
  have none : news.countP kind = 0 := by
    rw [List.countP_eq_zero]
    intro event member
    rw [silent event (fits event member)]
    exact nofun
  rw [List.countP_append, none, Nat.zero_add]

theorem isLogin_of_quiet {event : Event} (quiet : Quiet event) :
    isLogin id event = false := by
  cases event
  all_goals first | rfl | cases quiet

theorem isContext_of_quiet {event : Event} (quiet : Quiet event) :
    isContext id event = false := by
  cases event
  all_goals first | rfl | cases quiet

theorem isAttempt_of_quiet {event : Event} (quiet : Quiet event) :
    isAttempt event = false := by
  cases event
  all_goals first | rfl | cases quiet

theorem logins_of_adds {later : List Event} (adds : Adds Quiet trace later) :
    logins id later = logins id trace :=
  countP_of_adds (fun _ => isLogin_of_quiet) adds

theorem contexts_of_adds {later : List Event}
    (adds : Adds Quiet trace later) :
    contexts id later = contexts id trace :=
  countP_of_adds (fun _ => isContext_of_quiet) adds

theorem attempts_of_adds {later : List Event}
    (adds : Adds Quiet trace later) : attempts later = attempts trace :=
  countP_of_adds (fun _ => isAttempt_of_quiet) adds

theorem Still.atStage {stages : Stage → Bool} (still : Still world next) :
    atStage stages next id = atStage stages world id := by
  rw [Prompts.atStage, still.signing, Prompts.atStage]

theorem Still.retrying (still : Still world next) :
    retrying next id = retrying world id := by
  rw [Prompts.retrying, still.signed, Prompts.retrying]

theorem Still.opening (still : Still world next) :
    opening next id = opening world id := by
  rw [Prompts.opening, still.opens, still.opened, still.retryLogin,
    still.waiters, Prompts.opening]

theorem Still.ahead (still : Still world next) :
    ahead next id = ahead world id := by
  rw [Prompts.ahead, still.opens, still.opened, still.waiters, still.signs,
    still.atStage, still.atStage, still.retrying, Prompts.ahead]

theorem Still.losses (still : Still world next) :
    losses next id = losses world id := by
  rw [Prompts.losses, still.retriedOpen, still.retrying, Prompts.losses]

theorem Still.accepted (still : Still world next) :
    accepted next id = accepted world id := by
  rw [Prompts.accepted, still.known, Prompts.accepted]

theorem Still.allowance (still : Still world next) :
    allowance next id = allowance world id := by
  rw [Prompts.allowance, still.known, still.retriedOpen, Prompts.allowance]

theorem Still.spends (still : Still world next) :
    Spends id hand world hand next where
  logins := by
    rw [logins_of_adds still.trace, still.opening, still.allowance]
  contexts := by
    rw [contexts_of_adds still.trace, still.ahead, still.accepted]
  losses := by rw [still.losses]
  asking := by rw [contexts_of_adds still.trace, still.atStage]
  attempts := by rw [attempts_of_adds still.trace, still.rest]

theorem still_emit {event : Event} (quiet : Quiet event) :
    Still world (world.emit event) :=
  ⟨rfl, fun _ => rfl, fun _ => rfl, rfl, (Adds.refl _).cons quiet⟩

/-- The parts of a world that say nothing of operations are changed. -/
theorem still_update (same : places next = places world)
    (operations : next.operations = world.operations)
    (rest : next.session.rest = world.session.rest)
    (trace : next.trace = world.trace) : Still world next where
  places := same
  retryLogin _ := by rw [operations]
  retriedOpen _ := by rw [operations]
  rest := rest
  trace := by rw [trace]; exact .refl _

theorem retriedOpen_setOperation {operation : PendingOperation}
    (same : operation.retriedOpen = (world.operations id).retriedOpen)
    (other : Nat) :
    ((world.setOperation id operation).operations other).retriedOpen =
      (world.operations other).retriedOpen := by
  show (Function.update world.operations id operation other).retriedOpen = _
  by_cases this : other = id
  · rw [this, Function.update_self, same]
  · rw [Function.update_of_ne this]

theorem still_setOperation {operation : PendingOperation}
    (login : operation.retryLogin = (world.operations id).retryLogin)
    (opened : operation.retriedOpen = (world.operations id).retriedOpen) :
    Still world (world.setOperation id operation) where
  places := rfl
  retryLogin := retryLogin_setOperation login
  retriedOpen := retriedOpen_setOperation opened
  rest := rfl
  trace := .refl _

theorem still_setInteraction {login : LoginInteraction} :
    Still world (world.setInteraction interaction login) :=
  still_update rfl rfl rfl rfl

theorem still_useDevice {state : Device.State} :
    Still world (world.useDevice state) where
  places := rfl
  retryLogin _ := rfl
  retriedOpen _ := rfl
  rest := rfl
  trace := by
    refine ⟨state.trace.map .device, rfl, ?_⟩
    intro event member
    rcases List.mem_map.mp member with ⟨noted, -, rfl⟩
    trivial

theorem still_operationFail :
    Still world (operationFail world id failure) := by
  unfold operationFail
  dsimp only
  split
  · exact .refl _
  · exact (still_setOperation (by rfl) (by rfl)).trans (still_emit trivial)

theorem still_operationSucceed {value : Octets} :
    Still world (operationSucceed world id value) := by
  unfold operationSucceed
  dsimp only
  split
  · exact .refl _
  · exact (still_setOperation (by rfl) (by rfl)).trans (still_emit trivial)

theorem still_cancelOperation :
    Still world (cancelOperation world id) := by
  unfold cancelOperation
  dsimp only
  split
  · exact .refl _
  · exact (still_setOperation (by rfl) (by rfl)).trans (still_emit trivial)

theorem still_cancelUnanswered :
    Still world (cancelUnanswered world id) := by
  unfold cancelUnanswered
  split
  · exact .refl _
  · exact still_cancelOperation

theorem still_foldl {Index : Type} {body : World → Index → World}
    (leaves : ∀ world index, Still world (body world index))
    (indices : List Index) : Still world (indices.foldl body world) := by
  induction indices generalizing world with
  | nil => exact .refl _
  | cons index rest ih => exact (leaves world index).trans ih

theorem still_releaseDeviceAsyncFull {login : Option Nat} :
    Still world (releaseDeviceAsyncFull world login) :=
  still_update rfl rfl rfl rfl

theorem still_releaseDeviceAsync :
    Still world (releaseDeviceAsync world) := by
  unfold releaseDeviceAsync
  split
  · exact .refl _
  · exact still_releaseDeviceAsyncFull

theorem still_sessionClose : Still world (sessionClose world) := by
  unfold sessionClose
  split
  · exact .refl _
  · have closed : Still world
        { world with session := { world.session with closed := true } } :=
      still_update rfl rfl rfl rfl
    exact ((closed.trans (still_emit (by trivial))).trans
      (still_foldl (fun _ _ => still_cancelUnanswered) _)).trans
      still_releaseDeviceAsync

theorem still_failTask : Still world (failTask world id failure) := by
  unfold failTask
  split
  · exact still_sessionClose.trans still_operationFail
  · exact still_operationFail

theorem still_detachWaiterCancel :
    Still world (detachWaiterCancel world id) :=
  still_setOperation rfl rfl

theorem still_cancelInteraction :
    Still world (cancelInteraction world interaction) :=
  still_setInteraction.trans (still_emit trivial)

theorem still_ensureSessionLocked {answers : OpenAnswers} :
    Still world (ensureSessionLocked world answers).1 := by
  unfold ensureSessionLocked
  split
  · exact .refl _
  · exact still_useDevice

theorem still_openThread {answers : OpenAnswers} :
    Still world (openThread world id answers).1 := by
  unfold openThread
  split
  · exact .refl _
  · have opened : Still world (ensureSessionLocked world answers).1 :=
      still_ensureSessionLocked
    split
    all_goals
      rename_i result
      rw [result] at opened
      exact opened

theorem still_doContextLogin {rv : CkUlong} :
    Still world (doContextLogin world id handle rv).1 := by
  unfold doContextLogin
  split
  · exact .refl _
  · split_ifs
    · exact .refl _
    · exact .refl _
    · exact still_emit trivial

theorem still_doLogin {answers : OpenAnswers} :
    Still world (doLogin world interaction answers) := by
  unfold doLogin
  split
  · exact still_setInteraction
  · have opened : Still world (ensureSessionLocked world answers).1 :=
      still_ensureSessionLocked
    split
    all_goals
      rename_i result
      rw [result] at opened
    · exact opened.trans still_setInteraction
    · exact opened.trans (still_update rfl rfl rfl rfl)

theorem still_performLogin {rv : CkUlong} {found : Option (List CkUlong)} :
    Still world (performLogin world interaction rv found).1 := by
  unfold performLogin
  split
  · exact .refl _
  · dsimp only
    split
    · exact still_useDevice.trans still_setInteraction
    · exact (still_useDevice.trans still_setInteraction).trans
        (still_emit trivial)

theorem still_endLogin {rv : CkUlong} {found : Option (List CkUlong)} :
    Still world (endLogin world interaction rv found) := by
  have unlocked : Still world { world with deviceLocked := false } :=
    still_update rfl rfl rfl rfl
  unfold endLogin
  dsimp only
  split
  · exact unlocked.trans still_setInteraction
  · split_ifs
    · exact unlocked.trans still_setInteraction
    · exact (unlocked.trans still_performLogin).trans still_setInteraction

theorem still_releaseThread {login : Option Nat} :
    Still world (releaseThread world login) := by
  have closed : Still world
      { world.useDevice (certificateDeviceClose ⟨world.device, []⟩) with
        releases := world.releases.erase login
        released := world.released ++ [login] } :=
    still_useDevice.trans (still_update rfl rfl rfl rfl)
  cases login with
  | none => exact closed
  | some => exact closed.trans (still_emit trivial)

/-! ## From the hand into a place -/

/-- Operations have moved, and only they. -/
theorem spends_of_moved
    (opening : opening next id + later.openings ≤
      opening world id + hand.openings)
    (ahead : ahead next id + later.prompts ≤ ahead world id + hand.prompts)
    (losses : losses next id + later.losses ≤ losses world id + hand.losses)
    (asking : atStage isAsking next id + later.askings ≤
      atStage isAsking world id + hand.askings)
    (known : next.nextOperation = world.nextOperation)
    (retried : (next.operations id).retriedOpen =
      (world.operations id).retriedOpen)
    (rest : next.session.rest = world.session.rest)
    (trace : next.trace = world.trace) :
    Spends id hand world later next where
  logins := by
    rw [trace, allowance, allowance, known, retried]
    omega
  contexts := by
    rw [trace, accepted, accepted, known]
    omega
  losses := losses
  asking := by
    rw [trace]
    omega
  attempts := by rw [trace, rest]

theorem spends_queueOpen :
    Spends id (hand.opener id other) world hand
      { world with opens := world.opens ++ [other] } := by
  refine spends_of_moved ?_ ?_ le_rfl le_rfl rfl rfl rfl rfl
  all_goals
    simp only [opening, ahead, atStage, retrying, World.waiters, Hand.opener,
      mine, count_snoc]
    omega

theorem spends_openOperation :
    Spends id (hand.opener id other) world hand
      (openOperation world other) := by
  have noted : Still world
      (world.setOperation other
        { world.operations other with
          openLoginGeneration := world.loginGeneration }) :=
    still_setOperation rfl rfl
  exact noted.spends.trans spends_queueOpen

theorem spends_runOperation :
    Spends id (hand.runner id other) world hand
      (runOperation world other) := by
  refine spends_of_moved le_rfl ?_ le_rfl le_rfl rfl rfl rfl rfl
  simp only [runOperation, ahead, atStage, retrying, World.waiters,
    Hand.runner, mine, count_snoc]
  omega

theorem spends_applyLoginOutcome {outcome : CertificatePinOutcome} :
    Spends id (hand.runner id other) world hand
      (applyLoginOutcome world other outcome) := by
  unfold applyLoginOutcome
  split
  · exact spends_runner.trans still_operationFail.spends
  · split
    · exact spends_runOperation
    · exact spends_runner.trans
        (still_sessionClose.trans still_operationFail).spends
    · exact spends_runner.trans still_operationFail.spends

/-- An outcome that is not a success lets nothing run. -/
theorem still_applyLoginOutcome {outcome : CertificatePinOutcome}
    (failed : outcome ≠ .ok) :
    Still world (applyLoginOutcome world id outcome) := by
  unfold applyLoginOutcome
  split
  · exact still_operationFail
  · split
    · exact absurd rfl failed
    · exact still_sessionClose.trans still_operationFail
    · exact still_operationFail

/-! ## The login -/

theorem Still.waiting {waiters : List Nat} (still : Still world next) :
    hand.waiting next id waiters = hand.waiting world id waiters := by
  rw [Hand.waiting, still.retryLogin, Hand.waiting]

/-- An operation that came too late is to be opened. -/
theorem spends_late
    (late : (world.operations other).retryLogin = true) :
    Spends id (hand.waiting world id [other]) world (hand.opener id other)
      (world.setOperation other
        { world.operations other with retryLogin := false }) := by
  have told : ((world.setOperation other
        { world.operations other with retryLogin := false }).operations
      id).retriedOpen = (world.operations id).retriedOpen :=
    retriedOpen_setOperation (by rfl) id
  refine spends_of_moved ?_ ?_ ?_ le_rfl rfl told rfl rfl
  · by_cases same : other = id
    · subst same
      simp only [opening, World.setOperation, Function.update_self,
        World.waiters, Hand.waiting, Hand.opener, mine, late, if_true,
        Bool.false_eq_true, if_false, List.count_singleton]
      omega
    · have apart : (other == id) = false := by simpa using same
      simp only [opening, World.setOperation,
        Function.update_of_ne (Ne.symm same), World.waiters, Hand.waiting,
        Hand.opener, mine, List.count_singleton, apart, Bool.false_eq_true,
        if_false, Nat.add_zero]
      omega
  · simp only [ahead, atStage, retrying, World.waiters, World.setOperation,
      Hand.waiting, Hand.opener, mine, List.count_singleton]
    omega
  · rw [losses, told]
    exact le_rfl

theorem spends_finishWaiter :
    Spends id (hand.waiting world id [other]) world hand
      (finishWaiter interaction world other) := by
  have detached : Still world (detachWaiterCancel world other) :=
    still_detachWaiterCancel
  unfold finishWaiter
  dsimp only
  split
  · rename_i late
    refine detached.spends.trans ?_
    rw [← detached.waiting]
    refine (spends_late late).trans (Spends.trans ?_ spends_openOperation)
    exact (still_emit (by trivial)).spends
  · have runs : Spends id (hand.waiting world id [other]) world
        (hand.runner id other) world := by
      refine spends_of_le (Nat.le_add_right ..) ?_ le_rfl le_rfl
      rw [Hand.runner, Hand.waiting, mine, List.count_singleton]
    exact (runs.trans (detached.trans (still_emit (by trivial))).spends).trans
      spends_applyLoginOutcome

/-- Finishing makes no operation wait again. -/
theorem retryLogin_finishWaiter
    (retries : ((finishWaiter interaction world other).operations
      id).retryLogin = true) :
    (world.operations id).retryLogin = true := by
  have detached : Still world (detachWaiterCancel world other) :=
    still_detachWaiterCancel
  unfold finishWaiter at retries
  dsimp only at retries
  split at retries
  · rename_i late
    rw [detached.retryLogin] at late
    rw [tended_openOperation.apart.retries] at retries
    by_cases same : id = other
    · rw [same]
      exact late
    · rw [← detached.retryLogin]
      have kept := congrArg PendingOperation.retryLogin
        (Function.update_of_ne same
          { (detachWaiterCancel world other).operations other with
            retryLogin := false }
          (detachWaiterCancel world other).operations)
      exact kept.symm.trans retries
  · rw [tended_applyLoginOutcome.apart.retries] at retries
    exact (detached.retryLogin id).symm.trans retries

theorem spends_finishWaiters (waiters : List Nat) :
    Spends id (hand.waiting world id waiters) world hand
      (waiters.foldl (finishWaiter interaction) world) := by
  induction waiters generalizing world with
  | nil => exact spends_of_le (Nat.le_add_right ..) le_rfl le_rfl le_rfl
  | cons other rest ih =>
      have parted : Spends id (hand.waiting world id (other :: rest)) world
          ((hand.waiting world id rest).waiting world id [other]) world := by
        refine spends_of_le ?_ ?_ le_rfl le_rfl
        all_goals
          simp only [Hand.waiting, List.count_cons, List.count_nil]
          split_ifs <;> omega
      have finished := @spends_finishWaiter world
        (hand.waiting world id rest) id other interaction
      refine (parted.trans finished).trans (Spends.trans ?_ ih)
      refine spends_of_le ?_ le_rfl le_rfl le_rfl
      simp only [Hand.waiting]
      split
      · rename_i retries
        rw [if_pos (retryLogin_finishWaiter retries)]
      · exact Nat.add_le_add_left (Nat.zero_le _) _

/-- The operations that have waited are in hand. -/
theorem spends_settle (interaction : Nat) :
    let settled := { world with
      loginInProgress := false
      loginGeneration := world.loginGeneration + 1
      loginWaiters := none
      loginCancellable := none }.emit (.settled interaction)
    Spends id hand world (hand.waiting settled id world.waiters)
      settled := by
  intro settled
  let taken : World :=
    { world with
      loginInProgress := false
      loginGeneration := world.loginGeneration + 1
      loginWaiters := none
      loginCancellable := none }
  have moved : Spends id hand world (hand.waiting taken id world.waiters)
      taken := by
    refine spends_of_moved ?_ ?_ le_rfl le_rfl rfl rfl rfl rfl
    · simp only [taken, opening, World.waiters, Option.getD_none,
        List.count_nil, Hand.waiting, ite_self]
      omega
    · simp only [taken, ahead, atStage, retrying, World.waiters,
        Option.getD_none, List.count_nil, Hand.waiting]
      omega
  exact moved.trans (still_emit (by trivial)).spends

theorem spends_finishLogin :
    Spends id hand world hand (finishLogin world interaction) :=
  Spends.trans (spends_settle interaction) (spends_finishWaiters _)

theorem spends_onPinDone {outcome : CertificatePinOutcome} :
    Spends id hand world hand (onPinDone world interaction outcome) := by
  have ended {login : LoginInteraction} {kept : CertificatePinOutcome} :
      Still world ((world.setInteraction interaction login).emit
        (.ended interaction kept)) :=
    still_setInteraction.trans (still_emit trivial)
  unfold onPinDone
  dsimp only
  split
  · exact (ended.trans still_releaseDeviceAsyncFull).spends
  · exact ended.spends.trans spends_finishLogin

theorem spends_onDeviceReleased {login : Option Nat} :
    Spends id hand world hand (onDeviceReleased world login) := by
  have taken : Still world
      { world with released := world.released.erase login } :=
    still_update rfl rfl rfl rfl
  cases login with
  | none => exact taken.spends
  | some => exact taken.spends.trans spends_finishLogin

/-! ## Waiting for a login -/

/-- An event that only counts as a login. -/
theorem spends_login {event : Event} {cost : Nat}
    (cost_eq : (if isLogin id event then 1 else 0) = cost)
    (context : isContext id event = false)
    (attempt : isAttempt event = false) :
    Spends id { hand with openings := hand.openings + cost } world hand
      (world.emit event) where
  logins := by
    show (event :: world.trace).countP _ + opening world id + _ +
      allowance world id ≤ _
    rw [List.countP_cons, cost_eq]
    show logins id world.trace + cost + opening world id + hand.openings +
        allowance world id ≤
      logins id world.trace + opening world id + (hand.openings + cost) +
        allowance world id
    omega
  contexts := by
    show (event :: world.trace).countP _ + _ + _ + _ ≤ _
    rw [List.countP_cons, context]
    exact le_rfl
  losses := le_rfl
  asking := by
    show (event :: world.trace).countP _ + _ + _ ≤ _
    rw [List.countP_cons, context]
    exact le_rfl
  attempts := by
    show _ = _ + (event :: world.trace).countP _
    rw [List.countP_cons, attempt]
    rfl

theorem spends_addWaiter :
    Spends id (hand.waiting world id [other]) world hand
      (world.addWaiter other) := by
  refine spends_of_moved ?_ ?_ le_rfl le_rfl rfl rfl rfl rfl
  · simp only [opening, World.addWaiter, World.waiters, Option.getD_some,
      count_snoc, Hand.waiting, List.count_singleton]
    split_ifs <;> omega
  · simp only [ahead, atStage, retrying, World.addWaiter, World.waiters,
      Option.getD_some, count_snoc, Hand.waiting, List.count_singleton]
    omega

theorem spends_askLogin
    (fresh : (world.operations other).retryLogin = false) :
    Spends id (hand.opener id other) world hand (askLogin world other) := by
  let asker : Hand := { hand with openings := hand.openings + mine id other }
  have waits : Spends id (hand.opener id other) world
      (asker.waiting world id [other]) world := by
    refine spends_of_le ?_ ?_ le_rfl le_rfl
    · simp only [asker, Hand.waiting, Hand.opener, List.count_singleton]
      by_cases same : other = id
      · rw [if_neg (by rw [← same, fresh]; exact nofun)]
        exact le_rfl
      · have apart : (other == id) = false := by simpa using same
        simp [apart]
    · simp only [asker, Hand.waiting, Hand.opener, mine,
        List.count_singleton]
      exact le_rfl
  let waiting : World :=
    world.setOperation other
      { world.operations other with loginCancelId := true }
  let begun : World :=
    { waiting.addWaiter other with
      loginInProgress := true
      loginCancellable := some world.nextInteraction
      nextInteraction := world.nextInteraction + 1 }.setInteraction
      world.nextInteraction (.new .start)
  have noted : Still world waiting := still_setOperation rfl rfl
  have prompted : Still (waiting.addWaiter other) begun :=
    still_update rfl rfl rfl rfl
  have asked : Spends id asker begun hand
      (begun.emit (.asked world.nextInteraction other)) :=
    spends_login rfl rfl rfl
  rw [← noted.waiting] at waits
  exact ((waits.trans noted.spends).trans spends_addWaiter).trans
    (prompted.spends.trans asked)

/-- Whether an operation that does not wait is to wait for the end of a
login. -/
theorem spends_retryLogin {retries attached : Bool}
    (absent : other ∉ world.waiters) :
    Spends id hand world hand
      (world.setOperation other
        { world.operations other with
          retryLogin := retries, loginCancelId := attached }) := by
  have told : ((world.setOperation other
        { world.operations other with
          retryLogin := retries, loginCancelId := attached }).operations
      id).retriedOpen = (world.operations id).retriedOpen :=
    retriedOpen_setOperation (by rfl) id
  refine spends_of_moved ?_ le_rfl ?_ le_rfl rfl told rfl rfl
  · refine Nat.add_le_add_right (Nat.add_le_add_left ?_ _) _
    by_cases same : id = other
    · rw [same]
      show (if _ then world.waiters.count other else 0) ≤ _
      rw [List.count_eq_zero_of_not_mem absent, ite_self]
      exact Nat.zero_le _
    · show (if (Function.update world.operations other _ id).retryLogin
          then world.waiters.count id else 0) ≤ _
      rw [Function.update_of_ne same]
  · rw [losses, told]
    exact le_rfl

theorem spends_joinLogin (absent : other ∉ world.waiters) :
    Spends id (hand.opener id other) world hand
      (joinLogin world other interaction) := by
  let retries := pinLoginIsCancelling (world.interactions interaction)
  let joined : World :=
    world.setOperation other
      { world.operations other with
        retryLogin := retries, loginCancelId := true }
  let cost : Nat := if other == id && !retries then 1 else 0
  let asker : Hand := { hand with openings := hand.openings + cost }
  have waits : Spends id (hand.opener id other) joined
      (asker.waiting joined id [other]) joined := by
    refine spends_of_le ?_ ?_ le_rfl le_rfl
    · simp only [asker, cost, Hand.waiting, Hand.opener, mine,
        List.count_singleton]
      by_cases same : other = id
      · subst same
        have flag : (joined.operations other).retryLogin = retries := by
          show (Function.update world.operations other _ other).retryLogin = _
          rw [Function.update_self]
        rw [flag]
        cases retries <;> simp
      · have apart : (other == id) = false := by simpa using same
        simp [apart]
    · simp only [asker, Hand.waiting, Hand.opener, mine,
        List.count_singleton]
      exact le_rfl
  exact (((spends_retryLogin absent).trans waits).trans
    spends_addWaiter).trans (spends_login rfl rfl rfl)

theorem spends_beginLogin {display : Bool}
    (fresh : (world.operations other).retryLogin = false) :
    Spends id (hand.opener id other) world hand
      (beginLogin world other display) := by
  unfold beginLogin
  split
  · exact spends_askLogin fresh
  · exact (spends_askLogin fresh).trans spends_onPinDone

theorem spends_onOpened {opened : Except Failure Bool} {display : Bool}
    (fresh : (world.operations other).retryLogin = false)
    (absent : other ∉ world.waiters) :
    Spends id (hand.opener id other) world hand
      (onOpened world other opened display) := by
  have drops : Spends id (hand.opener id other) world hand world :=
    spends_opener.trans spends_runner
  unfold onOpened
  dsimp only
  split
  · exact drops.trans still_failTask.spends
  · split
    · exact drops.trans still_operationFail.spends
    · split_ifs
      · split
        · exact spends_joinLogin absent
        · exact drops.trans still_operationFail.spends
      · exact spends_openOperation
      · exact spends_beginLogin fresh
      · exact spends_opener.trans spends_runOperation

theorem spends_removeWaiter :
    Spends id hand world hand (world.removeWaiter other) := by
  have fewer := (List.erase_sublist (a := other) (l := world.waiters)).count_le
    id
  refine spends_of_moved ?_ ?_ le_rfl le_rfl rfl rfl rfl rfl
  · refine Nat.add_le_add_right (Nat.add_le_add_left ?_ _) _
    show (if (world.operations id).retryLogin
        then (world.waiters.erase other).count id else 0) ≤ _
    split
    · exact fewer
    · exact le_rfl
  · simp only [ahead, atStage, retrying, World.removeWaiter, World.waiters,
      Option.getD_some] at fewer ⊢
    omega

theorem spends_waiterCancelledIdle :
    Spends id hand world hand (waiterCancelledIdle world other) := by
  have idled : Still world (world.setOperation other
      { world.operations other with loginCancelIdle := false }) :=
    still_setOperation rfl rfl
  unfold waiterCancelledIdle
  dsimp only
  split
  · have left : Spends id hand world hand (detachWaiterCancel
        ((world.setOperation other
          { world.operations other with
            loginCancelIdle := false }).removeWaiter other) other) :=
      (idled.spends.trans spends_removeWaiter).trans
        still_detachWaiterCancel.spends
    split
    · exact left.trans
        (still_operationFail.trans still_cancelInteraction).spends
    · exact left.trans still_operationFail.spends
  · exact idled.spends

/-! ## Workers -/

theorem spends_returnOpen {opened : Except Failure Bool}
    (member : other ∈ world.opens) :
    Spends id hand world hand (returnOpen world other opened) := by
  have counted := count_erase member id
  refine spends_of_moved ?_ ?_ le_rfl le_rfl rfl rfl rfl rfl
  · show (world.opens.erase other).count id +
        ((world.opened ++ [(other, opened)]).map Prod.fst).count id +
        (if (world.operations id).retryLogin then world.waiters.count id
          else 0) + _ ≤ _
    rw [opening, List.map_append, List.map_singleton, count_snoc]
    dsimp only
    omega
  · simp only [returnOpen, ahead, atStage, retrying, World.waiters,
      List.map_append, List.map_cons, List.map_nil, count_snoc]
    omega

/-- The worker with the lock gives it up. -/
theorem spends_returnSign {stage : Stage} {signed : Signed}
    (here : world.signing = some (other, stage))
    (checked : isRetries signed = true → isChecked stage = true) :
    Spends id
      { hand with
        losses := hand.losses + if isRetries signed then mine id other else 0 }
      world hand (returnSign world other signed) := by
  have moved : retrying (returnSign world other signed) id =
      retrying world id + if isRetries signed then mine id other else 0 := by
    show (world.signed ++ [(other, signed)]).countP _ = _
    rw [List.countP_append, List.countP_singleton, mine]
    cases isRetries signed <;> simp [retrying]
  have left (stages : Stage → Bool) :
      atStage stages (returnSign world other signed) id = 0 := rfl
  have was : (if isRetries signed then mine id other else 0) ≤
      atStage isChecked world id := by
    rw [atStage, here, Option.toList_some, List.countP_singleton, mine]
    by_cases retries : isRetries signed = true
    · simp [retries, checked retries]
    · rw [if_neg retries]
      exact Nat.zero_le _
  refine spends_of_moved le_rfl ?_ ?_ ?_ rfl rfl rfl rfl
  · rw [ahead, moved, left, left, ahead]
    dsimp only [returnSign, World.waiters]
    omega
  · rw [losses, moved, losses]
    dsimp only [returnSign]
    omega
  · rw [left]
    dsimp only
    omega

/-- A worker that gives the lock up has done, or has failed. -/
theorem spends_finishSign {stage : Stage} {signed : Signed}
    (here : world.signing = some (other, stage))
    (settled : isRetries signed = false) :
    Spends id hand world hand (returnSign world other signed) := by
  have returned := @spends_returnSign world hand id other stage signed here
    (by rw [settled]; exact nofun)
  rw [settled] at returned
  exact returned

/-- The worker with the lock goes on, and does not come to ask. -/
theorem spends_stage {earlier stage : Stage} {locked : Bool}
    (here : world.signing = some (other, earlier))
    (checked : isChecked stage = false)
    (asking : isAsking stage = isAsking earlier) :
    Spends id hand world hand
      { world with
        signing := some (other, stage), deviceLocked := locked } := by
  have asks : atStage isAsking
      { world with
        signing := some (other, stage), deviceLocked := locked } id =
      atStage isAsking world id := by
    rw [atStage, atStage, here]
    simp [asking]
  have checks : atStage isChecked
      { world with
        signing := some (other, stage), deviceLocked := locked } id = 0 := by
    rw [atStage]
    simp [checked]
  refine spends_of_moved le_rfl ?_ le_rfl (by rw [asks]) rfl rfl rfl rfl
  rw [ahead, asks, checks, ahead, retrying, retrying]
  dsimp only [World.waiters]
  omega

theorem spends_submit {stage : Stage} {result : Except CkUlong Octets}
    (here : world.signing = some (other, stage)) :
    Spends id hand world hand (submit world other result) := by
  have submitted : Still world
      (world.emit (.submitted other world.device.session world.now)) :=
    still_emit trivial
  refine submitted.spends.trans (spends_finishSign here ?_)
  cases result <;> rfl

theorem spends_signThread {info : Except CkUlong CkUlong}
    {found : Option (List CkUlong)}
    (member : other ∈ world.signs)
    (free : (operationStillAuthorised world other).toBool = true →
      world.signing = none) :
    Spends id hand world hand (signThread world other info found) := by
  have counted := count_erase member id
  unfold signThread
  dsimp only
  split
  · refine spends_of_moved le_rfl ?_ ?_ le_rfl rfl rfl rfl rfl
    · simp only [ahead, atStage, retrying, World.waiters, List.countP_append,
        List.countP_singleton, isRetries, Bool.and_false, Bool.false_eq_true,
        if_false]
      omega
    · simp only [losses, retrying, List.countP_append, List.countP_singleton,
        isRetries, Bool.and_false, Bool.false_eq_true, if_false]
      omega
  · rename_i authorised
    rw [authorised] at free
    have locked : Spends id hand world hand
        { world with
          signs := world.signs.erase other
          signing := some (other, .checked)
          deviceLocked := true } := by
      refine spends_of_moved le_rfl ?_ le_rfl ?_ rfl rfl rfl rfl
      · simp only [ahead, atStage, retrying, World.waiters, free rfl,
          Option.toList_none, Option.toList_some, List.countP_nil,
          List.countP_singleton, isChecked, isAsking, Bool.and_true,
          Bool.and_false, Bool.false_eq_true, if_false]
        omega
      · simp [atStage, isAsking]
    split
    · exact locked
    · split
      · exact (locked.trans still_useDevice.spends).trans
          (spends_finishSign rfl (by rfl))
      · exact locked.trans still_useDevice.spends

/-- The device has been closed, or needs a login that it does not have. -/
def loginGone (world : World) : Bool :=
  world.device.module.isNone || needsLogin world

/-- The worker with the lock is about to use the device. -/
def performs : Action → Bool
  | .signPerform _ => true
  | _ => false

/-- The token says that the key always needs authentication. -/
def marks : Action → Bool
  | .signPerform answers => answers.alwaysAuthenticate
  | _ => false

/-- A worker is about to find the login of the operation gone. -/
def lost (id : Nat) (world : World) (action : Action) : Nat :=
  if performs action && loginGone world then atStage isChecked world id
  else 0

/-- The token is about to ask for a PIN of the operation's own. -/
def marked (id : Nat) (world : World) (action : Action) : Nat :=
  if marks action then atStage isChecked world id else 0

theorem atStage_checked (here : world.signing = some (other, .checked)) :
    atStage isChecked world id = mine id other := by
  rw [atStage, here, Option.toList_some, List.countP_singleton, mine]
  simp [isChecked]

/-- An operation that is initialised asks for a PIN of its own. -/
theorem spends_asking {locked : Bool}
    (here : world.signing = some (other, .checked)) :
    Spends id { hand with askings := hand.askings + mine id other } world hand
      { world with
        signing := some (other, .asking handle)
        deviceLocked := locked } := by
  refine spends_of_moved le_rfl ?_ le_rfl ?_ rfl rfl rfl rfl
  · simp only [ahead, atStage, retrying, World.waiters, here,
      Option.toList_some, List.countP_singleton, isChecked, isAsking,
      Bool.and_true, Bool.and_false, Bool.false_eq_true, if_false]
    omega
  · simp only [atStage, here, Option.toList_some, List.countP_singleton,
      isAsking, Bool.and_true, Bool.and_false, Bool.false_eq_true, if_false,
      mine]
    omega

theorem spends_devicePerform {answers : SignAnswers} {cost : Nat}
    (here : world.signing = some (other, .checked))
    (enough : answers.alwaysAuthenticate = true → mine id other ≤ cost) :
    Spends id { hand with askings := hand.askings + cost } world hand
      (devicePerform world other answers) := by
  have drops : Spends id { hand with askings := hand.askings + cost } world
      hand world :=
    spends_of_le le_rfl le_rfl le_rfl (Nat.le_add_right ..)
  have entered : Still world (world.emit (.entered other world.now)) :=
    still_emit trivial
  have used : Still world
      ((world.emit (.entered other world.now)).emit
        (.device (.used world.device.session world.device.privateKey))) :=
    entered.trans (still_emit trivial)
  have initialised : Still world
      (((world.emit (.entered other world.now)).emit
        (.device (.used world.device.session world.device.privateKey))).emit
          (.initialised other world.device.session)) :=
    used.trans (still_emit trivial)
  unfold devicePerform
  dsimp only
  split
  · exact (drops.trans entered.spends).trans
      (spends_finishSign here (by rfl))
  · split
    · exact (drops.trans used.spends).trans
        (spends_finishSign here (by rfl))
    · split
      · rename_i always
        refine initialised.spends.trans
          (Spends.trans ?_ (spends_asking here))
        exact spends_of_le le_rfl le_rfl le_rfl
          (Nat.add_le_add_left (enough always) _)
      · exact (drops.trans initialised.spends).trans (spends_submit here)

theorem spends_signPerform {answers : SignAnswers}
    (here : world.signing = some (other, .checked)) :
    Spends id
      { hand with
        losses := hand.losses + lost id world (.signPerform answers)
        askings := hand.askings + marked id world (.signPerform answers) }
      world hand (signPerform world other answers) := by
  have drops : Spends id
      { hand with
        losses := hand.losses + lost id world (.signPerform answers)
        askings := hand.askings + marked id world (.signPerform answers) }
      world hand world :=
    spends_of_le le_rfl le_rfl (Nat.le_add_right ..) (Nat.le_add_right ..)
  unfold signPerform
  split
  · exact drops.trans (spends_finishSign here (by rfl))
  · split
    · rename_i gone
      refine Spends.trans ?_ (spends_returnSign here (by exact fun _ => rfl))
      refine spends_of_le le_rfl le_rfl (Nat.add_le_add_left ?_ _)
        (Nat.le_add_right ..)
      rw [lost, performs, Bool.true_and, loginGone, if_pos gone,
        atStage_checked here]
      exact le_rfl
    · have enough (always : answers.alwaysAuthenticate = true) :
          mine id other ≤ marked id world (.signPerform answers) := by
        rw [marked, marks, if_pos always, atStage_checked here]
      refine Spends.trans ?_ (spends_devicePerform here enough)
      exact spends_of_le le_rfl le_rfl (Nat.le_add_right ..) le_rfl

theorem spends_signResume {stage : Stage} {outcome : CertificatePinOutcome}
    {result : Except CkUlong Octets}
    (here : world.signing = some (other, stage)) :
    Spends id hand world hand
      (signResume world other handle outcome result) := by
  have kept : Still world
      (world.setOperation other
        { world.operations other with contextOutcome := outcome }) :=
    still_setOperation rfl rfl
  unfold signResume
  dsimp only
  split
  · exact (kept.trans still_useDevice).spends.trans
      (spends_finishSign here (by rfl))
  · exact kept.spends.trans (spends_submit here)

/-- A PIN is asked for on behalf of the operation with the lock. -/
theorem spends_promptContextPin {display : Bool}
    (here : world.signing = some (other, .asking handle)) :
    Spends id hand world hand
      (promptContextPin world other handle display) := by
  have stages (stages : Stage → Bool)
      (apart : ∀ conversation,
        stages (.prompting handle conversation) = false)
      (told : stages (.told handle .noDisplay) = false) :
      atStage stages (promptContextPin world other handle display) id = 0 := by
    show (some _).toList.countP _ = 0
    cases display
    all_goals simp [apart, told]
  have asks : atStage isAsking world id = mine id other := by
    rw [atStage, here, Option.toList_some, List.countP_singleton, mine]
    simp [isAsking]
  have counted : Prompts.contexts id
      (promptContextPin world other handle display).trace =
      Prompts.contexts id world.trace + mine id other := by
    show (Event.contextAsked other :: world.trace).countP (isContext id) = _
    rw [List.countP_cons]
    rfl
  constructor
  case logins => exact le_rfl
  case contexts =>
      rw [counted, ahead, stages _ (fun _ => rfl) rfl,
        stages _ (fun _ => rfl) rfl, ahead, asks]
      have same : retrying
          (promptContextPin world other handle display) id =
          retrying world id := rfl
      rw [same]
      show _ + (world.opens.count id + (world.opened.map Prod.fst).count id +
        world.waiters.count id + world.signs.count id + 0 + 0 +
          retrying world id) + _ + _ ≤ _ + _ + _ + accepted world id
      omega
  case losses => exact le_rfl
  case asking =>
      rw [counted, stages _ (fun _ => rfl) rfl, asks]
      omega
  case attempts => rfl

/-! ## Results of tasks -/

/-- What is in hand with the result of a worker. -/
def Hand.result
    (hand : Hand) (id other : Nat) (signed : Signed) : Hand :=
  let cost := if isRetries signed then mine id other else 0
  { hand with
    prompts := hand.prompts + cost, losses := hand.losses + cost }

/-- An operation whose login is gone may ask for another, once. -/
theorem spends_retriedOpen
    (known : other < world.nextOperation)
    (first : (world.operations other).retriedOpen = false) :
    Spends id (hand.result id other .retries) world (hand.opener id other)
      (world.setOperation other
        { world.operations other with retriedOpen := true }) := by
  have waits : ∀ id, ((world.setOperation other
        { world.operations other with retriedOpen := true }).operations
      id).retryLogin = (world.operations id).retryLogin :=
    retryLogin_setOperation (by rfl)
  have opens : opening (world.setOperation other
      { world.operations other with retriedOpen := true }) id =
      opening world id := by
    rw [opening, waits, opening]
    rfl
  have retried : ((world.setOperation other
        { world.operations other with retriedOpen := true }).operations
      id).retriedOpen.toNat =
      (world.operations id).retriedOpen.toNat + mine id other := by
    show (Function.update world.operations other _ id).retriedOpen.toNat = _
    by_cases same : id = other
    · rw [same, Function.update_self, first, mine, if_pos (by simp)]
      rfl
    · rw [Function.update_of_ne same, mine,
        if_neg (by simpa using Ne.symm same), Nat.add_zero]
  have grows : allowance (world.setOperation other
      { world.operations other with retriedOpen := true }) id =
      allowance world id + mine id other := by
    rw [allowance, retried, allowance]
    show (if id < world.nextOperation then _ else 0) = _
    by_cases same : other = id
    · rw [← same, if_pos known, if_pos known]
      omega
    · have none : mine id other = 0 := if_neg (by simpa using same)
      rw [none, Nat.add_zero, Nat.add_zero]
  constructor
  case logins =>
      rw [opens, grows]
      show logins id world.trace + opening world id +
        (hand.openings + mine id other) + allowance world id ≤
          logins id world.trace + opening world id + hand.openings + _
      omega
  case contexts => exact le_rfl
  case losses =>
      rw [losses, retried, losses]
      show _ + retrying world id + hand.losses ≤
        _ + (hand.losses + mine id other)
      omega
  case asking => exact le_rfl
  case attempts => rfl

theorem spends_result {signed : Signed} :
    Spends id (hand.result id other signed) world hand world :=
  spends_of_le le_rfl (Nat.le_add_right ..) (Nat.le_add_right ..) le_rfl

theorem spends_onSigned {signed : Signed}
    (known : other < world.nextOperation) :
    Spends id (hand.result id other signed) world hand
      (onSigned world other signed) := by
  unfold onSigned
  dsimp only
  split
  · rename_i retries
    split_ifs at retries
    subst retries
    split_ifs with again
    · exact spends_result.trans still_operationFail.spends
    · rw [Bool.not_eq_true] at again
      exact (spends_retriedOpen known again).trans spends_openOperation
  · refine spends_result.trans (Still.spends ?_)
    split_ifs with failed
    · exact still_applyLoginOutcome failed
    · exact still_failTask
  · refine spends_result.trans (Still.spends ?_)
    split_ifs
    · split
      · exact still_operationFail
      · exact still_operationSucceed
    · exact still_operationSucceed

theorem countP_eraseIdx {α : Type} {list : List α} {index : Nat} {value : α}
    (kind : α → Bool) (entry : list[index]? = some value) :
    (list.eraseIdx index).countP kind + (if kind value then 1 else 0) =
      list.countP kind := by
  obtain ⟨bound, here⟩ := List.getElem?_eq_some_iff.mp entry
  have perm := List.getElem_cons_eraseIdx_perm bound
  rw [← perm.countP_eq kind, here, List.countP_cons]

/-- A result that is delivered puts its operation in hand. -/
theorem spends_takeOpened {index : Nat} {opened : Except Failure Bool}
    (entry : world.opened[index]? = some (other, opened)) :
    Spends id hand world (hand.opener id other)
      { world with opened := world.opened.eraseIdx index } := by
  have counted := count_eraseIdx entry id
  refine spends_of_moved ?_ ?_ le_rfl le_rfl rfl rfl rfl rfl
  all_goals
    simp only [opening, ahead, atStage, retrying, World.waiters, Hand.opener,
      mine]
    omega

theorem spends_takeSigned {index : Nat} {signed : Signed}
    (entry : world.signed[index]? = some (other, signed)) :
    Spends id hand world (hand.result id other signed)
      { world with signed := world.signed.eraseIdx index } := by
  have counted := countP_eraseIdx
    (fun entry => entry.1 == id && isRetries entry.2) entry
  have cost : (if other == id && isRetries signed then 1 else 0) =
      if isRetries signed then mine id other else 0 := by
    rw [mine]
    cases isRetries signed <;> simp
  rw [cost] at counted
  refine spends_of_moved le_rfl ?_ ?_ le_rfl rfl rfl rfl rfl
  · simp only [ahead, atStage, retrying, World.waiters, Hand.result]
      at counted ⊢
    omega
  · simp only [losses, retrying, Hand.result] at counted ⊢
    omega

/-! ## Accepting -/

/-- A new operation is in hand. -/
theorem spends_accept (operation : Operation) (session : XccSession Grant)
    (decrypt : Bool)
    (charged : session.rest.decryptCount =
      world.session.rest.decryptCount + decrypt.toNat) :
    Spends id hand world (hand.opener id world.nextOperation)
      (({ world with
        session := session
        nextOperation := world.nextOperation + 1 }.setOperation
        world.nextOperation (.new operation)).emit
        (.accepted world.nextOperation decrypt)) := by
  let next : World :=
    ({ world with
      session := session
      nextOperation := world.nextOperation + 1 }.setOperation
      world.nextOperation (.new operation)).emit
      (.accepted world.nextOperation decrypt)
  have here : id ≠ world.nextOperation →
      next.operations id = world.operations id :=
    fun apart => Function.update_of_ne apart ..
  have new : next.operations world.nextOperation = .new operation :=
    Function.update_self ..
  have opens : opening next id ≤ opening world id := by
    refine Nat.add_le_add_left ?_ _
    by_cases same : id = world.nextOperation
    · rw [same, new]
      exact Nat.zero_le _
    · rw [here same]
      exact le_rfl
  have limit : allowance world id + mine id world.nextOperation ≤
      allowance next id := by
    show _ ≤ if id < world.nextOperation + 1 then _ else 0
    rw [allowance, mine]
    by_cases same : world.nextOperation = id
    · rw [← same, if_neg (Nat.lt_irrefl _), if_pos (by simp),
        if_pos (Nat.lt_succ_self _)]
      omega
    · have apart : (world.nextOperation == id) = false := by simpa using same
      have known : id < world.nextOperation + 1 ↔
          id < world.nextOperation := by omega
      rw [here (Ne.symm same), apart]
      simp [known]
  have counts : accepted world id + mine id world.nextOperation ≤
      accepted next id := by
    show _ ≤ if id < world.nextOperation + 1 then 1 else 0
    rw [accepted, mine]
    by_cases same : world.nextOperation = id
    · rw [← same]
      simp
    · have apart : (world.nextOperation == id) = false := by simpa using same
      have known : id < world.nextOperation + 1 ↔
          id < world.nextOperation := by omega
      rw [apart]
      simp [known]
  have lose : losses next id ≤ losses world id := by
    refine Nat.add_le_add_right ?_ _
    by_cases same : id = world.nextOperation
    · rw [same, new]
      exact Nat.zero_le _
    · rw [here same]
  constructor
  case logins =>
      show logins id world.trace + opening next id +
        (hand.openings + mine id world.nextOperation) + allowance world id ≤
          logins id world.trace + _ + hand.openings + allowance next id
      omega
  case contexts =>
      show Prompts.contexts id world.trace + ahead world id +
        (hand.prompts + mine id world.nextOperation) + accepted world id ≤
          _ + _ + hand.prompts + accepted next id
      omega
  case losses => exact Nat.add_le_add_right lose _
  case asking => exact le_rfl
  case attempts =>
      show session.rest.decryptCount + attempts world.trace =
        _ + (Event.accepted _ decrypt :: world.trace).countP isAttempt
      rw [charged, List.countP_cons, attempts]
      cases decrypt
      all_goals simp [isAttempt]
      omega

theorem spends_brokerPerform {decrypt : Bool}
    {operationId mechanismName : Option String}
    {parameters : Option Vardict} {data : Octets} :
    Spends id hand world hand (brokerPerform world decrypt operationId
      mechanismName parameters data) := by
  unfold brokerPerform
  split
  · exact (still_emit (by trivial)).spends
  · rename_i operation charged started
    refine (spends_accept operation charged decrypt ?_).trans
      spends_openOperation
    rw [certificateBrokerPerform_charged started]
    cases decrypt <;> rfl

/-! ## Runs -/

theorem spends_step {action : Action}
    (accounted : Accounted [] world) (shared : Shared [] none world)
    (moves : step world action = some next) :
    Spends id ⟨0, 0, lost id world action, marked id world action⟩ world
      .empty next := by
  have less :
      Spends id ⟨0, 0, lost id world action, marked id world action⟩ world
        .empty world :=
    spends_of_le le_rfl le_rfl (Nat.zero_le _) (Nat.zero_le _)
  have quiet {next : World} (spends : Spends id .empty world .empty next) :
      Spends id ⟨0, 0, lost id world action, marked id world action⟩ world
        .empty next := less.trans spends
  cases action with
  | perform =>
      cases moves
      exact quiet spends_brokerPerform
  | tick seconds =>
      cases moves
      have ticked : Still world { world with now := world.now + seconds } :=
        still_update rfl rfl rfl rfl
      exact quiet ticked.spends
  | cancel =>
      rw [step] at moves
      split_ifs at moves
      cases moves
      exact quiet still_cancelOperation.spends
  | close =>
      cases moves
      exact quiet still_sessionClose.spends
  | openThread id answers =>
      rw [step] at moves
      split_ifs at moves with ready
      cases moves
      refine quiet (still_openThread.spends.trans (spends_returnOpen ?_))
      rw [still_openThread.opens]
      exact ready.1
  | opened index =>
      rcases Option.map_eq_some_iff.mp moves with
        ⟨⟨id, opened⟩, entry, rfl⟩
      have hand := accounted.moved (moved_takeOpened entry)
      have taken : Shared [] none
          { world with opened := world.opened.eraseIdx index } :=
        shared.apart (apart_update rfl rfl rfl rfl rfl)
      have member : id ∈ [id] := List.mem_singleton_self id
      exact quiet ((spends_takeOpened entry).trans
        (spends_onOpened (settled_of_hand hand taken member)
          (hand.not_waiting member)))
  | signThread =>
      rw [step] at moves
      split_ifs at moves with ready
      cases moves
      refine quiet (spends_signThread ready.1 ?_)
      intro authorised
      have free := ready.2
      simp only [refusedAtOnce, authorised, Bool.not_true, Bool.false_or,
        Bool.and_eq_true, Option.isNone_iff_eq_none] at free
      exact free.2
  | signPerform answers =>
      rw [step] at moves
      split at moves
      · rename_i here
        cases moves
        have spends := @spends_signPerform world .empty id _ answers here
        simpa only [Hand.empty, Nat.zero_add] using spends
      · cases moves
  | promptContext =>
      rw [step] at moves
      split at moves
      · rename_i here
        cases moves
        exact quiet (spends_promptContextPin here)
      · cases moves
  | contextPrompt =>
      rw [step, contextPrompt] at moves
      split at moves
      · rename_i here
        rcases Option.map_eq_some_iff.mp moves with ⟨later, -, rfl⟩
        exact quiet (spends_stage here rfl rfl)
      · cases moves
  | contextLogin =>
      rw [step, contextLogin] at moves
      split at moves
      · rename_i here
        split_ifs at moves
        cases moves
        exact quiet (still_doContextLogin.spends.trans
          (spends_stage (signing_doContextLogin.trans here) rfl rfl))
      · cases moves
  | contextDone =>
      rw [step, contextDone] at moves
      split at moves
      · rename_i here
        split_ifs at moves
        cases moves
        exact quiet (spends_stage here rfl rfl)
      · cases moves
  | signResume =>
      rw [step] at moves
      split at moves
      · rename_i here
        split_ifs at moves
        cases moves
        exact quiet (spends_signResume here)
      · cases moves
  | signed =>
      rcases Option.map_eq_some_iff.mp moves with
        ⟨⟨id, signed⟩, entry, rfl⟩
      have hand := accounted.moved (moved_takeSigned entry)
      have known := (hand.unanswered (List.mem_singleton_self id)).1
      exact quiet ((spends_takeSigned entry).trans (spends_onSigned known))
  | prompt =>
      rcases Option.map_eq_some_iff.mp moves with ⟨later, -, rfl⟩
      exact quiet still_setInteraction.spends
  | login =>
      rw [step] at moves
      split_ifs at moves
      cases moves
      exact quiet still_doLogin.spends
  | endLogin =>
      rw [step] at moves
      split_ifs at moves
      cases moves
      exact quiet still_endLogin.spends
  | pinDone =>
      rw [step] at moves
      split_ifs at moves
      cases moves
      exact quiet spends_onPinDone
  | release =>
      rw [step] at moves
      split_ifs at moves
      cases moves
      exact quiet still_releaseThread.spends
  | released =>
      rw [step] at moves
      split_ifs at moves
      cases moves
      exact quiet spends_onDeviceReleased
  | waiterCancelled =>
      rw [step] at moves
      split_ifs at moves
      cases moves
      exact quiet spends_waiterCancelledIdle

/-- What has been asked for, and may still be asked for, is allowed. -/
structure Within (id : Nat) (world : World) : Prop where
  logins : logins id world.trace + opening world id ≤ allowance world id
  contexts : contexts id world.trace + ahead world id ≤ accepted world id
  attempts : world.session.rest.decryptCount = attempts world.trace

theorem Within.step {action : Action} (within : Within id world)
    (spends : Spends id ⟨0, 0, lost id world action, marked id world action⟩
      world .empty next) : Within id next where
  logins := by
    have := within.logins
    have := spends.logins
    dsimp only [Hand.empty] at this
    omega
  contexts := by
    have := within.contexts
    have := spends.contexts
    dsimp only [Hand.empty] at this
    omega
  attempts := by
    have := within.attempts
    have := spends.attempts
    omega

theorem spends_of_reachable {action : Action}
    (reachable : machine.Reachable world)
    (moves : Machine.step world action = some next) :
    Spends id ⟨0, 0, lost id world action, marked id world action⟩ world
      .empty next :=
  spends_step (accounted_of_reachable reachable)
    (shared_of_reachable reachable) moves

theorem within_of_reachable (reachable : machine.Reachable world) :
    Within id world := by
  refine reachable.invariant ?_ fun _ _ _ before within moves =>
    within.step (spends_of_reachable before moves)
  rintro _ ⟨session, now, none, rfl⟩
  exact ⟨Nat.zero_le _, Nat.zero_le _, none⟩

theorem allowance_le (world : World) (id : Nat) : allowance world id ≤ 2 := by
  rw [allowance]
  have := Bool.toNat_le (world.operations id).retriedOpen
  split_ifs <;> omega

theorem accepted_le (world : World) (id : Nat) : accepted world id ≤ 1 := by
  rw [accepted]
  split_ifs <;> omega

/-- An operation asks for or shares at most two logins, and a PIN is asked
for on its behalf alone at most once. -/
theorem prompts_le (reachable : machine.Reachable world) :
    logins id world.trace ≤ 2 ∧ contexts id world.trace ≤ 1 := by
  have within : Within id world := within_of_reachable reachable
  have := within.logins
  have := within.contexts
  have := allowance_le world id
  have := accepted_le world id
  omega

/-- The budget of a grant is charged for every decryption that is accepted,
and for nothing else. -/
theorem charged_of_reachable (reachable : machine.Reachable world) :
    world.session.rest.decryptCount = attempts world.trace := by
  have within : Within 0 world := within_of_reachable reachable
  exact within.attempts

/-! ## Conditions on a run -/

/-- No worker finds the login of the operation gone. -/
def LoginStays (id : Nat) (world : World) (action : Action) : Prop :=
  performs action = true → world.signing = some (id, .checked) →
    loginGone world = false

/-- The token does not ask for a PIN of the operation's own. -/
def Unmarked (id : Nat) (world : World) (action : Action) : Prop :=
  marks action = true → world.signing ≠ some (id, .checked)

/-- No worker finds the login gone, and the token asks for a PIN of the
operation's own only if the operation has waited for no login. -/
def Settled (id : Nat) (world : World) (action : Action) : Prop :=
  LoginStays id world action ∧
    (logins id world.trace = 0 ∨ Unmarked id world action)

instance (id : Nat) (world : World) (action : Action) :
    Decidable (Settled id world action) :=
  inferInstanceAs
    (Decidable ((performs action = true →
      world.signing = some (id, .checked) → loginGone world = false) ∧
      (logins id world.trace = 0 ∨
        (marks action = true → world.signing ≠ some (id, .checked)))))

theorem atStage_checked_of_ne (other : world.signing ≠ some (id, .checked)) :
    atStage isChecked world id = 0 := by
  rw [atStage, List.countP_eq_zero]
  rintro ⟨holder, stage⟩ here
  rw [Option.mem_toList] at here
  cases stage with
  | checked =>
      intro mine
      have same : holder = id := by simpa [isChecked] using mine
      exact other (same ▸ here)
  | _ => simp [isChecked]

theorem lost_of_stays {action : Action}
    (stays : LoginStays id world action) : lost id world action = 0 := by
  rw [lost]
  split
  · rename_i gone
    rw [Bool.and_eq_true] at gone
    refine atStage_checked_of_ne fun here => ?_
    rw [stays gone.1 here] at gone
    cases gone.2
  · rfl

theorem marked_of_unmarked {action : Action}
    (unmarked : Unmarked id world action) : marked id world action = 0 := by
  rw [marked]
  split
  · rename_i marks
    exact atStage_checked_of_ne (unmarked marks)
  · rfl

/-- Where the login stays, no operation finds it gone. -/
theorem losses_of_stays
    (reachable : machine.ReachableBy (LoginStays id) world) :
    losses world id = 0 := by
  induction reachable with
  | initial start =>
      rcases start with ⟨session, now, -, rfl⟩
      rfl
  | @step world next action before stays moves none =>
      have spends : Spends id _ world _ next :=
        spends_of_reachable before.reachable moves
      have := spends.losses
      rw [lost_of_stays stays] at this
      dsimp only [Hand.empty] at this
      omega

theorem allowance_le_accepted (none : losses world id = 0) :
    allowance world id ≤ accepted world id := by
  rw [losses] at none
  rw [allowance, accepted]
  split_ifs <;> omega

/-- Where the login stays, an operation asks for or shares one at most. -/
theorem logins_le_one
    (reachable : machine.ReachableBy (LoginStays id) world) :
    logins id world.trace ≤ 1 := by
  have within : Within id world := within_of_reachable reachable.reachable
  have := within.logins
  have := allowance_le_accepted (losses_of_stays reachable)
  have := accepted_le world id
  omega

/-- Where the token does not ask for it, no operation has a PIN of its
own. -/
theorem contexts_eq_zero
    (reachable : machine.ReachableBy (Unmarked id) world) :
    contexts id world.trace = 0 := by
  have asks : contexts id world.trace + atStage isAsking world id = 0 := by
    induction reachable with
    | initial start =>
        rcases start with ⟨session, now, -, rfl⟩
        rfl
    | @step world next action before unmarked moves none =>
        have spends : Spends id _ world _ next :=
          spends_of_reachable before.reachable moves
        have := spends.asking
        rw [marked_of_unmarked unmarked] at this
        dsimp only [Hand.empty] at this
        omega
  omega

theorem marked_le (action : Action) : marked id world action ≤
    atStage isChecked world id := by
  rw [marked]
  split
  · exact le_rfl
  · exact Nat.zero_le _

theorem accepted_le_allowance (world : World) (id : Nat) :
    accepted world id ≤ allowance world id := by
  rw [allowance, accepted]
  split_ifs <;> omega

theorem opening_le_ahead (world : World) (id : Nat) :
    opening world id + atStage isChecked world id +
      atStage isAsking world id ≤ ahead world id := by
  rw [opening, ahead]
  split_ifs <;> omega

/-- What an operation has asked for, and may be about to ask for. -/
def total (id : Nat) (world : World) : Nat :=
  logins id world.trace + opening world id +
    (contexts id world.trace + atStage isAsking world id)

theorem total_step {action : Action} (within : Within id world)
    (bounded : total id world ≤ accepted world id)
    (kept : allowance next id ≤ accepted next id)
    (settled : logins id world.trace = 0 ∨ Unmarked id world action)
    (spends : Spends id ⟨0, 0, lost id world action, marked id world action⟩
      world .empty next) : total id next ≤ accepted next id := by
  have logins := spends.logins
  have asking := spends.asking
  have limit := accepted_le_allowance world id
  have once := accepted_le world id
  dsimp only [Hand.empty] at logins asking
  rw [total] at bounded ⊢
  rcases settled with fresh | unmarked
  · -- What is about to be asked for comes from where no login is asked for.
    have checked : marked id world action ≤ atStage isChecked world id :=
      marked_le action
    have contexts := within.contexts
    have places := opening_le_ahead world id
    omega
  · rw [marked_of_unmarked unmarked] at asking
    omega

/-- An operation whose login stays, and which does not need a PIN of its own
after it, has one PIN interaction at most. -/
theorem pinInteractions_le_one
    (reachable : machine.ReachableBy (Settled id) world) :
    pinInteractions id world.trace ≤ 1 := by
  have stays {world : World}
      (reachable : machine.ReachableBy (Settled id) world) :
      losses world id = 0 :=
    losses_of_stays (reachable.imp fun _ _ settled => settled.1)
  have bounded : total id world ≤ accepted world id := by
    induction reachable with
    | initial start =>
        rcases start with ⟨session, now, -, rfl⟩
        exact Nat.zero_le _
    | step before settled moves ih =>
        refine total_step (within_of_reachable before.reachable) ih
          (allowance_le_accepted (stays (before.step settled moves)))
          settled.2 (spends_of_reachable before.reachable moves)
  have := accepted_le world id
  rw [total] at bounded
  rw [pinInteractions]
  omega

end PortalCertificate.Broker.Prompts
