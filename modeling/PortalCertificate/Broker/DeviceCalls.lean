import PortalCertificate.Broker.DeviceBinding
import PortalCertificate.Library.Transition
import PortalCertificate.Tokens.SizedCalls

/-!
# The calls of an operation

`certificate_device_perform` with the calls that it makes on the token.  An
operation that was initialised stays active in the session of the token
after a query of a length and after a buffer that is too small, and any
other result ends it.  A device that is closed has no session.

A refused authentication closes the device.  The other ways out rely on the
token to end the operation.
-/

namespace PortalCertificate.Broker.DeviceCalls

open PortalCertificate.Broker.Device
open PortalCertificate.Broker.DeviceBinding (exampleCandidate exampleOpen)
open PortalCertificate.Library.Der (Octets)
open PortalCertificate.Library.SizedBuffer
open PortalCertificate.Library.Transition
open PortalCertificate.Pkcs11
open PortalCertificate.Tokens.Discovery
open PortalCertificate.Tokens.SizedCalls

def ckrOperationActive : CkUlong := 0x90
def ckrBufferTooSmall : CkUlong := 0x150

/-! ## Performing an operation -/

/-- What is answered to the calls of an operation. -/
structure CallAnswers where
  /-- `CKA_ALWAYS_AUTHENTICATE` of the key. -/
  alwaysAuthenticate : Bool
  /-- What the token returns for `C_SignInit` or `C_DecryptInit` in a session
  without an operation. -/
  init : CkUlong
  /-- The callback, if there is one, and its answer. -/
  authenticate : Option (Except DeviceError Unit)
  /-- The two calls of `C_Sign` or `C_Decrypt`. -/
  calls : SizedAnswers UInt8

/-- A device after an operation, with the result of the operation. -/
structure Performed where
  state : State
  /-- An operation is active in the session of the device. -/
  active : Bool
  /-- Bytes that are `NULL` come without an error. -/
  result : Except DeviceError (Option Octets)
  reads : List Nat

/-- An operation is not initialised in a session that has one. -/
def initAnswer (active : Bool) (answers : CallAnswers) : CkUlong :=
  if active then ckrOperationActive else answers.init

/-- The context login, which only a key that always needs it gets. -/
def authenticated (answers : CallAnswers) : Except DeviceError Unit :=
  if answers.alwaysAuthenticate then
    answers.authenticate.getD (.error (.literal .failed
      "Key requires authentication for this operation"))
  else
    .ok ()

/-- The two calls: the operation that stays active, the bytes or a return
code, and the octets of the buffer that are read. -/
def performTwice (calls : SizedAnswers UInt8) :
    Bool × Except CkUlong (Option Octets) × List Nat :=
  if calls.sizingRv ≠ 0 then
    (calls.sizingRv == ckrBufferTooSmall, .error calls.sizingRv, [])
  else if calls.valueRv ≠ 0 then
    (calls.valueRv == ckrBufferTooSmall, .error calls.valueRv, [])
  else if calls.sizing = 0 then
    -- No octets are no buffer, and the second call is a query again.
    (true, .ok (if calls.value = 0 then some [] else none), [])
  else
    let read := calls.buffer.readAll calls.value.toNat
    (false, .ok (some read.1), read.2)

/-- `certificate_device_perform`. -/
def certificateDevicePerformCalls
    (state : State) (active : Bool) (decrypt : Bool)
    (answers : CallAnswers) : Performed :=
  if state.device.module.isNone then
    ⟨state, active, .error tokenRemoved, []⟩
  else if state.device.privateKey == ckInvalidHandle then
    ⟨state, active, .error (.literal .noPrivateKey
      "No private key is available on this token"), []⟩
  else
    let used :=
      state.emit (.used state.device.session state.device.privateKey)
    let init := initAnswer active answers
    if init != ckrOk then
      ⟨used, active, .error (.call init
        (if decrypt then "C_DecryptInit" else "C_SignInit")), []⟩
    else
      match authenticated answers with
      -- Closing the session discards the initialised operation.
      | .error error =>
          ⟨certificateDeviceClose used, false, .error error, []⟩
      | .ok () =>
          let (stays, result, reads) := performTwice answers.calls
          ⟨used, stays, result.mapError fun rv =>
            .call rv (if decrypt then "C_Decrypt" else "C_Sign"), reads⟩

/-- The answers in which the two calls are one result. -/
def CallAnswers.summary (answers : CallAnswers) (active : Bool) :
    PerformAnswers where
  alwaysAuthenticate := answers.alwaysAuthenticate
  init := initAnswer active answers
  authenticate := answers.authenticate
  result := (performTwice answers.calls).2.1.map fun bytes =>
    bytes.getD []

/-- The calls are those of the device, up to bytes that are `NULL`. -/
theorem certificateDevicePerform_summary
    (state : State) (active : Bool) (decrypt : Bool)
    (answers : CallAnswers) :
    certificateDevicePerform state decrypt (answers.summary active) =
      ((certificateDevicePerformCalls state active decrypt answers).state,
        (certificateDevicePerformCalls state active decrypt
          answers).result.map fun bytes => bytes.getD []) := by
  rw [certificateDevicePerform, certificateDevicePerformCalls]
  by_cases removed : state.device.module.isNone = true
  · rw [if_pos removed, if_pos removed]
    rfl
  rw [if_neg removed, if_neg removed]
  by_cases keyless : (state.device.privateKey == ckInvalidHandle) = true
  · rw [if_pos keyless, if_pos keyless]
    rfl
  rw [if_neg keyless, if_neg keyless]
  by_cases refused : (initAnswer active answers != ckrOk) = true
  · have same : ((answers.summary active).init != ckrOk) = true := refused
    dsimp only
    rw [if_pos same, if_pos refused]
    rfl
  have same : ¬((answers.summary active).init != ckrOk) = true := refused
  dsimp only
  rw [if_neg same, if_neg refused]
  have shared : (if (answers.summary active).alwaysAuthenticate = true then
      (answers.summary active).authenticate.getD (.error (.literal .failed
        "Key requires authentication for this operation"))
      else Except.ok ()) = authenticated answers := rfl
  rw [shared]
  cases authenticated answers with
  | error error => rfl
  | ok _ =>
      dsimp only [CallAnswers.summary]
      cases (performTwice answers.calls).2.1 with
      | error rv => rfl
      | ok bytes => rfl

/-! ## Operations that end -/

/-- The device has no session, or none with an operation. -/
def Performed.Settled (performed : Performed) : Prop :=
  performed.state.device.module = none ∨ performed.active = false

/-- The authentication of the operation is needed and not given. -/
def RefusesContext (answers : CallAnswers) : Prop :=
  answers.alwaysAuthenticate = true ∧
    answers.authenticate ≠ some (.ok ())

/-- Neither call finds a buffer too small, and a length of zero is not
followed by a success. -/
def CallsEnd (calls : SizedAnswers UInt8) : Prop :=
  calls.sizingRv ≠ ckrBufferTooSmall ∧
    (calls.sizingRv = 0 →
      calls.valueRv ≠ ckrBufferTooSmall ∧
        (calls.sizing = 0 → calls.valueRv ≠ 0))

/-- The calls are not reached: no operation is initialised, or it is
refused. -/
def Stops (state : State) (answers : CallAnswers) : Prop :=
  state.device.module = none ∨
    state.device.privateKey = ckInvalidHandle ∨ answers.init ≠ ckrOk ∨
    RefusesContext answers

/-- The calls are not reached, or they end the operation. -/
def Ends (state : State) (answers : CallAnswers) : Prop :=
  Stops state answers ∨ CallsEnd answers.calls

theorem performTwice_ends_iff {calls : SizedAnswers UInt8} :
    (performTwice calls).1 = false ↔ CallsEnd calls := by
  rw [performTwice, CallsEnd]
  by_cases sized : calls.sizingRv = 0
  · have large : calls.sizingRv ≠ ckrBufferTooSmall := by
      rw [sized]
      decide
    rw [if_neg (not_not.mpr sized)]
    by_cases valued : calls.valueRv = 0
    · have large' : calls.valueRv ≠ ckrBufferTooSmall := by
        rw [valued]
        decide
      rw [if_neg (not_not.mpr valued)]
      by_cases empty : calls.sizing = 0
      · simp [sized, valued, empty]
      · simp only [if_neg empty, true_iff]
        exact ⟨large, fun _ => ⟨large', fun none => absurd none empty⟩⟩
    · rw [if_pos valued, beq_eq_false_iff_ne]
      constructor
      · intro large'
        exact ⟨large, fun _ => ⟨large', fun _ => valued⟩⟩
      · exact fun ends => (ends.2 sized).1
  · rw [if_pos sized, beq_eq_false_iff_ne]
    constructor
    · intro large
      exact ⟨large, fun succeeds => absurd succeeds sized⟩
    · exact And.left

theorem authenticated_error_iff {answers : CallAnswers} :
    (∃ error, authenticated answers = .error error) ↔
      RefusesContext answers := by
  rw [authenticated, RefusesContext]
  cases answers.alwaysAuthenticate with
  | false =>
      constructor
      · rintro ⟨error, same⟩
        cases same
      · rintro ⟨always, -⟩
        cases always
  | true =>
      rw [if_pos rfl, and_iff_right rfl]
      cases answers.authenticate with
      | none => simp
      | some result =>
          cases result with
          | error error => simp
          | ok _ => simp

/-- In a session without an operation the calls decide, if they are
reached. -/
theorem perform_cases
    (state : State) (decrypt : Bool) (answers : CallAnswers) :
    let performed :=
      certificateDevicePerformCalls state false decrypt answers
    (Stops state answers ∧ performed.active = false ∧
        performed.reads = []) ∨
      (¬Stops state answers ∧ performed.state.device.module ≠ none ∧
        performed.active = (performTwice answers.calls).1 ∧
        performed.reads = (performTwice answers.calls).2.2) := by
  rw [certificateDevicePerformCalls]
  cases present : state.device.module with
  | none =>
      have removed : (none : Option Nat).isNone = true := rfl
      rw [if_pos removed]
      exact .inl ⟨.inl present, rfl, rfl⟩
  | some module =>
  have there : ¬(some module : Option Nat).isNone = true := nofun
  rw [if_neg there]
  by_cases keyless : state.device.privateKey = ckInvalidHandle
  · rw [if_pos (by simpa using keyless)]
    exact .inl ⟨.inr (.inl keyless), rfl, rfl⟩
  rw [if_neg (by simpa using keyless)]
  by_cases started : answers.init = ckrOk
  · have init : ¬(initAnswer false answers != ckrOk) = true := by
      simpa [initAnswer] using started
    dsimp only
    rw [if_neg init]
    cases context : authenticated answers with
    | error error =>
        have refuses := authenticated_error_iff.mp ⟨error, context⟩
        exact .inl ⟨.inr (.inr (.inr refuses)), rfl, rfl⟩
    | ok _ =>
        right
        refine ⟨?_, ?_, rfl, rfl⟩
        · rintro (removed | without | failed | refuses)
          · rw [present] at removed
            cases removed
          · exact keyless without
          · exact failed started
          · rcases authenticated_error_iff.mpr refuses with ⟨error, same⟩
            rw [context] at same
            cases same
        · show state.device.module ≠ none
          rw [present]
          exact nofun
  · have init : (initAnswer false answers != ckrOk) = true := by
      simpa [initAnswer] using started
    dsimp only
    rw [if_pos init]
    exact .inl ⟨.inr (.inr (.inl started)), rfl, rfl⟩

theorem idle_of_ends
    {state : State} {answers : CallAnswers} (ends : Ends state answers)
    (decrypt : Bool) :
    (certificateDevicePerformCalls state false decrypt
      answers).active = false := by
  rcases perform_cases state decrypt answers with
    ⟨-, idle, -⟩ | ⟨reached, -, active, -⟩
  · exact idle
  · rw [active, performTwice_ends_iff]
    exact ends.resolve_left reached

theorem settled_iff
    (state : State) (decrypt : Bool) (answers : CallAnswers) :
    (certificateDevicePerformCalls state false decrypt answers).Settled ↔
      Ends state answers := by
  constructor
  · intro settled
    rcases perform_cases state decrypt answers with
      ⟨stops, -⟩ | ⟨-, present, active, -⟩
    · exact .inl stops
    · right
      rw [← performTwice_ends_iff, ← active]
      exact settled.resolve_left present
  · intro ends
    exact .inr (idle_of_ends ends decrypt)

/-! ## Runs of a device -/

/-- A device, and whether its session has an operation. -/
structure Session where
  state : State
  active : Bool

/-- A function of `device.h`, with every answer of the token. -/
inductive Action where
  | deviceOpen (candidate : CertificateCandidate) (answers : OpenAnswers)
  | deviceRefreshLogin (info : Except CkUlong CkUlong)
      (found : Option (List CkUlong))
  | deviceLogin (candidate : CertificateCandidate) (rv : CkUlong)
      (found : Option (List CkUlong))
  | devicePerform (decrypt : Bool) (answers : CallAnswers)
  | deviceClose

/-- The device is opened for what it is bound to already. -/
def opensAgain
    (state : State) (candidate : CertificateCandidate) : Bool :=
  state.device.module.isSome && deviceIsBoundTo state.device candidate

/-- A new session has no operation. -/
def step (session : Session) : Action → Session
  | .deviceOpen candidate answers =>
      ⟨(certificateDeviceOpen session.state candidate answers).1,
        opensAgain session.state candidate && session.active⟩
  | .deviceRefreshLogin info found =>
      ⟨(certificateDeviceRefreshLogin session.state info found).1,
        session.active⟩
  | .deviceLogin candidate rv found =>
      ⟨(certificateDeviceLogin session.state candidate rv found).1,
        session.active⟩
  | .devicePerform decrypt answers =>
      let performed := certificateDevicePerformCalls session.state
        session.active decrypt answers
      ⟨performed.state, performed.active⟩
  | .deviceClose => ⟨certificateDeviceClose session.state, false⟩

/-- The device with the session it uses, from a closed device on. -/
def machine : System Session Action where
  initial session := session = ⟨⟨.closed, []⟩, false⟩
  step session action := some (step session action)

/-- The condition for every operation of a run. -/
def EndsOperations (session : Session) : Action → Prop
  | .devicePerform _ answers => Ends session.state answers
  | _ => True

/-- No operation is pending between two calls whose terminations succeed. -/
theorem idle_of_reachable
    {session : Session}
    (reachable : machine.ReachableBy EndsOperations session) :
    session.active = false := by
  apply System.ReachableBy.invariant _ _ reachable
  · rintro _ rfl
    rfl
  · intro session action next _ idle ends moves
    cases moves
    cases action with
    | deviceOpen candidate answers =>
        show (_ && session.active) = false
        rw [idle, Bool.and_false]
    | deviceRefreshLogin info found => exact idle
    | deviceLogin candidate rv found => exact idle
    | devicePerform decrypt answers =>
        show (certificateDevicePerformCalls session.state session.active
          decrypt answers).active = false
        rw [idle]
        exact idle_of_ends ends decrypt
    | deviceClose => rfl

/-- An operation leaves none behind just if it ends; and in a run of which
every operation ends none is refused because of an earlier one. -/
theorem no_operation_pending
    (state : State) (decrypt : Bool) (answers : CallAnswers) :
    ((certificateDevicePerformCalls state false decrypt answers).Settled ↔
        Ends state answers) ∧
      ∀ session, machine.ReachableBy EndsOperations session →
        initAnswer session.active answers = answers.init := by
  constructor
  · exact settled_iff state decrypt answers
  · intro session reachable
    rw [idle_of_reachable reachable]
    rfl

/-- A signature of seventy octets, in a buffer for seventy-two. -/
def exampleSignature : CallAnswers where
  alwaysAuthenticate := false
  init := ckrOk
  authenticate := none
  calls :=
    { sizingRv := 0, sizing := 72, valueRv := 0
      value := 70, item := fun _ => 0x30 }

/-- After one signature the session is ready for the next one. -/
theorem no_operation_pending_again :
    ∃ session,
      machine.run ⟨⟨.closed, []⟩, false⟩
        [.deviceOpen (exampleCandidate [1]) (exampleOpen 5),
          .devicePerform false exampleSignature] = some session ∧
      initAnswer session.active exampleSignature = ckrOk ∧
      (certificateDevicePerformCalls session.state session.active false
          exampleSignature).result =
        .ok (some (List.replicate 70 0x30)) := by
  have start : machine.ReachableBy EndsOperations
      ⟨⟨.closed, []⟩, false⟩ := .initial rfl
  have opened := start.act
    (.deviceOpen (exampleCandidate [1]) (exampleOpen 5)) trivial rfl
  have ends (state : State) : Ends state exampleSignature :=
    .inr ⟨by decide, fun _ => ⟨by decide, nofun⟩⟩
  have signed := opened.act (.devicePerform false exampleSignature)
    (ends _) rfl
  have ready :=
    (no_operation_pending (.mk .closed []) false exampleSignature).2 _ signed
  exact ⟨_, rfl, ready, rfl⟩

/-! ## A buffer that is too small -/

/-- A device with a session and a key. -/
def exampleDevice : State where
  device :=
    { module := some 0, session := 1, privateKey := 2, loggedIn := true
      candidate := none }
  trace := []

/-- The signature has grown between the two calls. -/
def grownSignature : CallAnswers where
  alwaysAuthenticate := false
  init := ckrOk
  authenticate := none
  calls :=
    { sizingRv := 0, sizing := 70, valueRv := ckrBufferTooSmall
      value := 71, item := fun _ => 0 }

/-- The operation is still active, and the next one is refused. -/
theorem grownSignature_pending :
    ¬(certificateDevicePerformCalls exampleDevice false false
        grownSignature).Settled ∧
      initAnswer (certificateDevicePerformCalls exampleDevice false false
        grownSignature).active grownSignature ≠ grownSignature.init := by
  constructor
  · rintro (removed | idle)
    · cases removed
    · cases idle
  · decide

/-! ## What is read of the buffer -/

theorem performTwice_inBounds_iff
    {calls : SizedAnswers UInt8} (succeed : calls.Succeed) :
    calls.buffer.InBounds (performTwice calls).2.2 ↔
      calls.sizing = 0 ∨ calls.value.toNat ≤ calls.sizing.toNat := by
  rw [performTwice, if_neg (not_not.mpr succeed.sizing),
    if_neg (not_not.mpr succeed.value)]
  by_cases empty : calls.sizing = 0
  · rw [if_pos empty]
    exact iff_of_true calls.buffer.inBounds_nil (.inl empty)
  · rw [if_neg empty, or_iff_right empty]
    exact Memory.inBounds_readAll_iff

/-- In a session with an operation the calls are not reached. -/
theorem reads_of_active
    (state : State) (decrypt : Bool) (answers : CallAnswers) :
    (certificateDevicePerformCalls state true decrypt answers).reads =
      [] := by
  have refused : (initAnswer true answers != ckrOk) = true := rfl
  rw [certificateDevicePerformCalls]
  split
  · rfl
  · split
    · rfl
    · dsimp only
      rw [if_pos refused]

theorem perform_inBounds_iff
    (state : State) (active decrypt : Bool) {answers : CallAnswers}
    (succeed : answers.calls.Succeed) :
    answers.calls.buffer.InBounds
        (certificateDevicePerformCalls state active decrypt
          answers).reads ↔
      active = true ∨ Stops state answers ∨
        answers.calls.sizing = 0 ∨
        answers.calls.value.toNat ≤ answers.calls.sizing.toNat := by
  cases active with
  | true =>
      rw [reads_of_active]
      exact iff_of_true (Memory.inBounds_nil _) (.inl rfl)
  | false =>
      rcases perform_cases state decrypt answers with
        ⟨stops, -, none⟩ | ⟨reached, -, -, reads⟩
      · rw [none]
        exact iff_of_true (Memory.inBounds_nil _) (.inr (.inl stops))
      · rw [reads, performTwice_inBounds_iff succeed,
          or_iff_right Bool.false_ne_true, or_iff_right reached]

/-- Whatever sizes are told, an attribute is read within its buffer.  A list
and the result of an operation are so just if the second size is not the
larger one, or if it is not used up. -/
theorem sized_reads
    (octets : SizedAnswers UInt8) (list : SizedAnswers CkUlong)
    (mechanism : CkUlong) (state : State) (active decrypt : Bool)
    (answers : CallAnswers) :
    octets.buffer.InBounds (certificatePkcs11GetAttribute octets).2 ∧
      (list.Succeed →
        (list.buffer.InBounds
            (certificatePkcs11HasMechanism list mechanism).2 ↔
          list.sizing = 0 ∨ list.value.toNat ≤ list.sizing.toNat ∨
            ∃ index < list.sizing.toNat, list.item index = mechanism)) ∧
      (list.Succeed →
        (list.buffer.InBounds (slotsWithToken list).2 ↔
          list.sizing = 0 ∨ list.value.toNat ≤ list.sizing.toNat)) ∧
      (answers.calls.Succeed →
        (answers.calls.buffer.InBounds
            (certificateDevicePerformCalls state active decrypt
              answers).reads ↔
          active = true ∨ Stops state answers ∨
            answers.calls.sizing = 0 ∨
            answers.calls.value.toNat ≤ answers.calls.sizing.toNat)) := by
  refine ⟨getAttribute_inBounds octets, ?_, ?_, ?_⟩
  · intro succeed
    exact hasMechanism_inBounds_iff succeed mechanism
  · intro succeed
    exact slotsWithToken_inBounds_iff succeed
  · intro succeed
    exact perform_inBounds_iff state active decrypt succeed

/-- Two entries are told of first, and one is told of then. -/
def shrunkList : SizedAnswers CkUlong where
  sizingRv := 0
  sizing := 2
  valueRv := 0
  value := 1
  item := fun _ => 0

/-- Both calls succeed with sizes that do not grow, so every read is within
its buffer. -/
theorem sized_reads_shrunk :
    shrunkList.buffer.InBounds (slotsWithToken shrunkList).2 ∧
      shrunkList.buffer.InBounds
        (certificatePkcs11HasMechanism shrunkList ckmEcdsa).2 ∧
      exampleSignature.calls.buffer.InBounds
        (certificateDevicePerformCalls exampleDevice false false
          exampleSignature).reads := by
  have reads := sized_reads exampleSignature.calls shrunkList ckmEcdsa
    exampleDevice false false exampleSignature
  refine ⟨?_, ?_, ?_⟩
  · exact (reads.2.2.1 ⟨rfl, rfl⟩).mpr (.inr (by decide))
  · exact (reads.2.1 ⟨rfl, rfl⟩).mpr (.inr (.inl (by decide)))
  · exact (reads.2.2.2 ⟨rfl, rfl⟩).mpr
      (.inr (.inr (.inr (by decide))))

/-- One entry is told of first, and two are told of then. -/
def grownList : SizedAnswers CkUlong where
  sizingRv := 0
  sizing := 1
  valueRv := 0
  value := 2
  item := fun _ => 0

/-- Seventy octets are told of first, and more are told of then. -/
def grownResult : CallAnswers where
  alwaysAuthenticate := false
  init := ckrOk
  authenticate := none
  calls :=
    { sizingRv := 0, sizing := 70, valueRv := 0
      value := 71, item := fun _ => 0 }

/-- The second slot, the second mechanism and the last octet of the result
lie beyond their buffers. -/
theorem grown_outside :
    ¬grownList.buffer.InBounds (slotsWithToken grownList).2 ∧
      ¬grownList.buffer.InBounds
        (certificatePkcs11HasMechanism grownList ckmEcdsa).2 ∧
      ¬grownResult.calls.buffer.InBounds
        (certificateDevicePerformCalls exampleDevice false false
          grownResult).reads := by
  refine ⟨?_, ?_, ?_⟩
  · intro inBounds
    have below := inBounds 1 (by decide)
    exact absurd below (by decide)
  · intro inBounds
    have below := inBounds 1 (by decide)
    exact absurd below (by decide)
  · intro inBounds
    have below := inBounds 70 (by decide)
    exact absurd below (by decide)

end PortalCertificate.Broker.DeviceCalls
