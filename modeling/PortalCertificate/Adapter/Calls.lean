import PortalCertificate.Adapter.Tables

/-!
# Calls and their answers

A call that the bus has dispatched is answered, or it is in one place: its
handler has it in hand or waits, or it has become a transaction or a call of
`GetCapabilities` in flight.  Every answer is related to what was on the bus
before it.
-/

namespace PortalCertificate.Adapter.Calls

open PortalCertificate.Adapter.Machine
open PortalCertificate.Adapter.Responses
open PortalCertificate.Adapter.Tables
open PortalCertificate.Glib
open PortalCertificate.Library.Trace

variable {world next : World} {hand : Option Nat}
  {invocation session id : Nat} {sender path appId : String}

/-! ## Counting -/

/-- The event is an answer to the call. -/
def isAnswer (invocation : Nat) : Event → Bool
  | .answered other _ => other = invocation
  | _ => false

/-- The event is the arrival of the call. -/
def isReceipt (invocation : Nat) : Event → Bool
  | .received other _ => other = invocation
  | _ => false

/-- The request of the call has appeared on the bus. -/
def isExport (invocation : Nat) : Event → Bool
  | .requestExported other => other = invocation
  | _ => false

/-- The request of the call has left the bus. -/
def isUnexport (invocation : Nat) : Event → Bool
  | .requestUnexported other => other = invocation
  | _ => false

/-- Whether the adapter waits in the handler of this call. -/
def waits (world : World) (invocation : Nat) : Bool :=
  world.waiting.any fun waiting => waiting.invocation = invocation

/-- How often a call has become something that will be answered. -/
def pending (world : World) (invocation : Nat) : Nat :=
  world.transactions.countP
      (fun id => (world.ledger id).invocation = invocation) +
    world.asking.countP (fun id => world.asked id = invocation) +
    (waits world invocation).toNat

/-- How many requests of transactions of this call are on the bus. -/
def onBus (world : World) (invocation : Nat) : Nat :=
  world.transactions.countP fun id =>
    (world.ledger id).invocation = invocation &&
      (world.ledger id).request.exported

/-! ## What is known of a call -/

/-- The last lookup of an authorization has named the sender. -/
def Authorized (trace : List Event) (invocation : Nat) (sender : String) :
    Prop :=
  ∃ since before, trace =
    since ++ .authorized invocation sender ::
      .lookedUp (some sender) :: before

/-- The sender has opened a session for the application at this path. -/
def Opened (trace : List Event) (sender path appId : String) : Prop :=
  ∃ earlier handle,
    .received earlier
      ⟨sender, .createSession handle path appId⟩ ∈ trace ∧
      .answered earlier (.answer ⟨responseSuccess, emptyResults⟩) ∈ trace

/-- The session has been exported at this path, and is still on the bus. -/
def Exported (session : Nat) (path : String) : List Event → Prop :=
  Since (.sessionExported session path) (· ≠ .sessionUnexported session)
    fun _ => True

/-- A call has been authorized while the session was on the bus, which is
still there. -/
def Served (trace : List Event) (invocation : Nat) (sender path : String)
    (session : Nat) : Prop :=
  Since (.authorized invocation sender) (· ≠ .sessionUnexported session)
    (Exported session path) trace

/-- A call for a session, from the one who has opened it. -/
structure Placed
    (trace : List Event) (invocation : Nat)
    (object : CertificateImplSession) : Prop where
  received : ∃ method : Method,
    .received invocation ⟨object.owner, method⟩ ∈ trace ∧
      method.names = some (object.id, object.appId)
  authorized : Authorized trace invocation object.owner
  opened : Opened trace object.owner object.id object.appId

/-- A call is served as long as the session is on the bus. -/
def Serving (world : World) (invocation session : Nat) : Prop :=
  (world.objects session).exported = true →
    Served world.trace invocation (world.objects session).owner
      (world.objects session).id session

/-- What is known of a call whose handler waits. -/
def Awaited (world : World) : Waiting → Prop
  | .creating invocation sender path appId _ _ _ =>
      Authorized world.trace invocation sender ∧ ∃ handle,
        .received invocation ⟨sender, .createSession handle path appId⟩ ∈
          world.trace
  | .checking invocation _ session _ _ _ _ _ =>
      Placed world.trace invocation (world.objects session) ∧
        Serving world invocation session

/-- A stranger is told that only.  A success goes to the owner that has been
recorded, for a session that the same has opened and that has been on the bus
since the call was authorized. -/
structure Allowed
    (trace : List Event) (invocation : Nat) (call : Call) (reply : Reply) :
    Prop where
  authorized : reply = .accessDenied ∨
    Authorized trace invocation call.sender
  success : ∀ results, reply = .answer ⟨responseSuccess, results⟩ →
    recordedOwner trace = some call.sender ∧
      ∀ path appId, call.method.names = some (path, appId) →
        Opened trace call.sender path appId ∧
          ∃ session, Served trace invocation call.sender path session

/-- An answer is the first one, to a call whose request is off the bus. -/
structure Fits (trace : List Event) (invocation : Nat) (reply : Reply) :
    Prop where
  first : trace.countP (isAnswer invocation) = 0
  hidden : trace.countP (isExport invocation) =
    trace.countP (isUnexport invocation)
  allowed : ∃ call, .received invocation call ∈ trace ∧
    Allowed trace invocation call reply

/-- The reply to a call fits what has happened before it. -/
def Truthful : Event → List Event → Prop
  | .answered invocation reply, before => Fits before invocation reply
  | _, _ => True

/-- What the trace says of the calls and the sessions that are known. -/
structure Informed (world : World) : Prop where
  placed : ∀ id ∈ world.transactions,
    Placed world.trace (world.ledger id).invocation
      (world.objects (world.ledger id).session)
  serving : ∀ id ∈ world.transactions,
    Serving world (world.ledger id).invocation (world.ledger id).session
  exported : ∀ session, (world.objects session).exported = true →
    Exported session (world.objects session).id world.trace
  opened : ∀ entry ∈ world.sessions,
    Opened world.trace (world.objects entry.2).owner
      (world.objects entry.2).id (world.objects entry.2).appId
  asks : ∀ id ∈ world.asking, ∃ sender,
    .received (world.asked id) ⟨sender, .getCapabilities⟩ ∈
      world.trace ∧
      Authorized world.trace (world.asked id) sender
  awaited : ∀ waiting, world.waiting = some waiting → Awaited world waiting

/-- Every call is accounted for; `hand` is the one that is being handled. -/
structure Booked (hand : Option Nat) (world : World) : Prop
    extends Informed world where
  balance : ∀ invocation,
    world.trace.countP (isAnswer invocation) + pending world invocation +
        (decide (hand = some invocation)).toNat =
      world.trace.countP (isReceipt invocation)
  receipts : ∀ invocation,
    world.trace.countP (isReceipt invocation) =
      (decide (invocation < world.nextInvocation)).toNat
  exports : ∀ invocation,
    world.trace.countP (isExport invocation) =
      world.trace.countP (isUnexport invocation) + onBus world invocation
  truthful : Each Truthful world.trace

/-! ## Later traces -/

section Later

variable {kinds : Event → Prop} {earlier after : List Event}
  (adds : Adds kinds earlier after)

include adds

theorem Authorized.later (authorized : Authorized earlier invocation sender) :
    Authorized after invocation sender := by
  rcases adds with ⟨news, rfl, -⟩
  rcases authorized with ⟨since, before, rfl⟩
  exact ⟨news ++ since, before, (List.append_assoc ..).symm⟩

theorem Opened.later (opened : Opened earlier sender path appId) :
    Opened after sender path appId := by
  rcases opened with ⟨earlier, handle, received, answered⟩
  exact ⟨earlier, handle, adds.subset received, adds.subset answered⟩

theorem Placed.later {object : CertificateImplSession}
    (placed : Placed earlier invocation object) :
    Placed after invocation object where
  received := by
    rcases placed.received with ⟨method, received, names⟩
    exact ⟨method, adds.subset received, names⟩
  authorized := placed.authorized.later adds
  opened := placed.opened.later adds

end Later

theorem Placed.same {trace : List Event}
    {object other : CertificateImplSession}
    (placed : Placed trace invocation object)
    (same : SameObject object other) : Placed trace invocation other := by
  rcases same with ⟨id, appId, owner⟩
  rcases placed with ⟨received, authorized, opened⟩
  refine ⟨?_, ?_, ?_⟩
  · rw [owner, id, appId]
    exact received
  · rw [owner]
    exact authorized
  · rw [owner, id, appId]
    exact opened

theorem Serving.later (serving : Serving world invocation session)
    (same : SameObject (world.objects session) (next.objects session))
    (stays : Stays world next session) :
    Serving next invocation session := by
  intro exported
  rcases stays exported with ⟨before, adds⟩
  rw [same.1, same.2.2]
  exact (serving before).adds adds

theorem Awaited.later {kinds : Event → Prop} {waiting : Waiting}
    (awaited : Awaited world waiting)
    (adds : Adds kinds world.trace next.trace)
    (objects : ∀ session,
      SameObject (world.objects session) (next.objects session))
    (stays : ∀ session, Stays world next session) :
    Awaited next waiting := by
  cases waiting with
  | creating invocation sender path appId spec exports made =>
      rcases awaited with ⟨authorized, handle, received⟩
      exact ⟨authorized.later adds, handle, adds.subset received⟩
  | checking invocation sender session arguments options principal exports
      verdict =>
      exact ⟨(awaited.1.later adds).same (objects session),
        awaited.2.later (objects session) (stays session)⟩

/-! ## What leaves the accounts as they are -/

/-- Everything that the accounts depend on, apart from the trace. -/
structure SameCalls (world next : World) : Prop where
  transactions : next.transactions = world.transactions
  asking : next.asking = world.asking
  asked : next.asked = world.asked
  waiting : next.waiting = world.waiting
  nextInvocation : next.nextInvocation = world.nextInvocation
  invocation : ∀ id,
    (next.ledger id).invocation = (world.ledger id).invocation
  session : ∀ id, (next.ledger id).session = (world.ledger id).session
  objects : ∀ session,
    SameObject (world.objects session) (next.objects session)
  sessions : next.sessions ⊆ world.sessions
  stays : ∀ session, Stays world next session

theorem SameCalls.pending (same : SameCalls world next) (invocation : Nat) :
    pending next invocation = pending world invocation := by
  simp only [Calls.pending, waits, same.transactions, same.asking,
    same.asked, same.waiting, same.invocation]

theorem Informed.later {kinds : Event → Prop} (informed : Informed world)
    (same : SameCalls world next)
    (adds : Adds kinds world.trace next.trace) : Informed next where
  placed id member := by
    rw [same.transactions] at member
    rw [same.invocation, same.session]
    exact ((informed.placed id member).later adds).same (same.objects _)
  serving id member := by
    rw [same.transactions] at member
    rw [same.invocation, same.session]
    exact (informed.serving id member).later (same.objects _) (same.stays _)
  exported session exported := by
    rcases same.stays session exported with ⟨before, adds⟩
    rw [(same.objects session).1]
    exact (informed.exported session before).adds adds
  opened entry member := by
    have object := same.objects entry.2
    rw [object.1, object.2.1, object.2.2]
    exact (informed.opened entry (same.sessions member)).later adds
  asks id member := by
    rw [same.asking] at member
    rw [same.asked]
    rcases informed.asks id member with ⟨sender, received, authorized⟩
    exact ⟨sender, adds.subset received, authorized.later adds⟩
  awaited waiting here := by
    rw [same.waiting] at here
    exact (informed.awaited waiting here).later adds same.objects same.stays

/-- Events that no account counts. -/
def Uncounted (event : Event) : Prop :=
  ∀ invocation, isAnswer invocation event = false ∧
    isReceipt invocation event = false

/-- The accounts after events that they do not count, when the requests on
the bus are accounted for. -/
theorem Booked.same (booked : Booked hand world)
    (same : SameCalls world next)
    (adds : Adds Uncounted world.trace next.trace)
    (exports : ∀ invocation,
      next.trace.countP (isExport invocation) =
        next.trace.countP (isUnexport invocation) +
          onBus next invocation) : Booked hand next where
  toInformed := booked.toInformed.later same adds
  balance invocation := by
    rw [adds.countP fun _ plain => (plain invocation).1,
      adds.countP fun _ plain => (plain invocation).2, same.pending]
    exact booked.balance invocation
  receipts invocation := by
    rw [adds.countP fun _ plain => (plain invocation).2, same.nextInvocation]
    exact booked.receipts invocation
  exports := exports
  truthful := by
    refine adds.each booked.truthful fun event before plain => ?_
    cases event with
    | answered invocation reply =>
        have counted := (plain invocation).1
        rw [isAnswer, decide_eq_false_iff_not] at counted
        exact absurd rfl counted
    | _ => trivial

theorem sameCalls_of_aside (aside : Aside world next) :
    SameCalls world next where
  transactions := aside.transactions
  asking := aside.asking
  asked := aside.asked
  waiting := aside.waiting
  nextInvocation := aside.nextInvocation
  invocation := aside.invocation
  session := aside.session
  objects := aside.objects
  sessions := aside.sessions
  stays := aside.stays

theorem Booked.aside (booked : Booked hand world)
    (aside : Aside world next) : Booked hand next := by
  have plain (event : Event) (quiet : quiet event = true) :
      Uncounted event := by
    intro invocation
    cases event <;> first | exact ⟨rfl, rfl⟩ | cases quiet
  refine booked.same (sameCalls_of_aside aside) (aside.trace.mono plain)
    fun invocation => ?_
  have shown : onBus next invocation = onBus world invocation := by
    simp only [onBus, aside.transactions, aside.invocation, aside.request]
  rw [shown, aside.trace.countP fun event quiet => ?_,
    aside.trace.countP fun event quiet => ?_]
  · exact booked.exports invocation
  · cases event <;> first | rfl | cases quiet
  · cases event <;> first | rfl | cases quiet

theorem sameCalls_refl (world : World) : SameCalls world world :=
  sameCalls_of_aside (.refl world)

theorem sameCalls_emit {event : Event}
    (other : ∀ session, event ≠ .sessionUnexported session) :
    SameCalls world (world.emit event) :=
  { sameCalls_refl world with
    stays := fun session exported =>
      ⟨exported, (Adds.refl _).cons (other session)⟩ }

/-! ## A call comes to its place -/

/-- What the handler of a call has in hand. -/
structure InHand (world : World) (invocation : Nat) : Prop where
  fresh : world.trace.countP (isAnswer invocation) = 0
  elsewhere : pending world invocation = 0
  counted : world.trace.countP (isReceipt invocation) = 1

theorem Booked.inHand (booked : Booked (some invocation) world) :
    InHand world invocation := by
  have balance := booked.balance invocation
  have receipts := booked.receipts invocation
  have bounded := (decide (invocation < world.nextInvocation)).toNat_le
  rw [decide_eq_true rfl, Bool.toNat_true] at balance
  refine ⟨?_, ?_, ?_⟩ <;> omega

theorem onBus_le (world : World) (invocation : Nat) :
    onBus world invocation ≤ pending world invocation := by
  have fewer : onBus world invocation ≤ world.transactions.countP
      fun id => (world.ledger id).invocation = invocation :=
    List.countP_mono_left fun id _ both => (Bool.and_eq_true_iff.mp both).1
  rw [pending]
  omega

/-- The handler answers the call. -/
theorem Booked.answers (booked : Booked (some invocation) world)
    {reply : Reply} {call : Call}
    (received : .received invocation call ∈ world.trace)
    (allowed : Allowed world.trace invocation call reply) :
    Booked none (world.answer invocation reply) := by
  have here := booked.inHand
  have adds : Adds (fun _ => True) world.trace
      (world.answer invocation reply).trace := (Adds.refl _).cons trivial
  have counts (other : Nat) :
      (world.answer invocation reply).trace.countP (isAnswer other) =
        world.trace.countP (isAnswer other) +
          (decide (invocation = other)).toNat := by
    show (Event.answered invocation reply :: world.trace).countP _ = _
    rw [List.countP_cons]
    congr 1
    by_cases same : invocation = other <;> simp [isAnswer, same]
  exact
    { toInformed := booked.toInformed.later
        (sameCalls_emit fun _ => Event.noConfusion) adds
      balance := fun other => by
        have balance := booked.balance other
        rw [counts other]
        show _ + pending world other + 0 = world.trace.countP _
        rw [← balance]
        by_cases same : invocation = other
        · simp [same]
          omega
        · simp [same]
      receipts := booked.receipts
      exports := booked.exports
      truthful := by
        refine each_cons.mpr
          ⟨⟨here.fresh, ?_, call, received, allowed⟩, booked.truthful⟩
        have shown := onBus_le world invocation
        rw [here.elsewhere, Nat.le_zero] at shown
        rw [booked.exports invocation, shown, Nat.add_zero] }

theorem Booked.receives (booked : Booked none world) (call : Call) :
    Booked (some world.nextInvocation)
      ({ world with nextInvocation := world.nextInvocation + 1 }.emit
        (.received world.nextInvocation call)) := by
  let event := Event.received world.nextInvocation call
  have adds : Adds (fun _ => True) world.trace (event :: world.trace) :=
    (Adds.refl _).cons trivial
  have counts (other : Nat) :
      (event :: world.trace).countP (isReceipt other) =
        world.trace.countP (isReceipt other) +
          (decide (world.nextInvocation = other)).toNat := by
    rw [List.countP_cons]
    congr 1
    by_cases same : world.nextInvocation = other <;>
      simp [event, isReceipt, same]
  have same : SameCalls world (world.emit event) :=
    sameCalls_emit fun _ => Event.noConfusion
  have informed := booked.toInformed.later same adds
  exact
    { informed with
      awaited := fun waiting there => by
        have awaited := informed.awaited waiting there
        cases waiting <;> exact awaited
      balance := fun other => by
        have balance := booked.balance other
        show world.trace.countP _ + pending world other + _ =
          (event :: world.trace).countP _
        rw [counts other, ← balance]
        simp only [Option.some.injEq, reduceCtorEq, decide_false,
          Bool.toNat_false, Nat.add_zero]
      receipts := fun other => by
        have receipts := booked.receipts other
        show (event :: world.trace).countP _ =
          (decide (other < world.nextInvocation + 1)).toNat
        rw [counts other, receipts]
        rcases Nat.lt_trichotomy other world.nextInvocation with
          less | same | more
        · simp [less, less.ne', Nat.lt_succ_of_lt less]
        · simp [same]
        · simp [Nat.not_lt.mpr more.le, more.ne,
            Nat.not_lt.mpr (Nat.succ_le_of_lt more)]
      exports := booked.exports
      truthful := each_cons.mpr ⟨trivial, booked.truthful⟩ }

/-- The handler of the call waits. -/
theorem Booked.waits (booked : Booked (some invocation) world)
    (idle : world.waiting = none) {waiting : Waiting}
    (named : waiting.invocation = invocation)
    (awaited : Awaited world waiting) (core : Core) :
    Booked none { world with core, waiting := some waiting } :=
  { booked with
    balance := fun other => by
      have balance := booked.balance other
      rw [pending, Calls.waits, idle] at balance
      rw [pending, Calls.waits, ← balance]
      simp only [Option.any_none, Option.any_some, named, reduceCtorEq,
        Option.some.injEq, decide_false, Bool.toNat_false, Nat.add_zero]
      omega
    awaited := fun other there => by
      cases Option.some.inj there
      cases waiting with
      | creating => exact awaited
      | checking => exact awaited }

/-- The handler of the call goes on. -/
theorem Booked.resumes {waiting : Waiting} (booked : Booked none world)
    (here : world.waiting = some waiting) :
    Booked (some waiting.invocation) { world with waiting := none } :=
  { booked with
    balance := fun other => by
      have balance := booked.balance other
      rw [pending, Calls.waits, here] at balance
      rw [pending, Calls.waits, ← balance]
      simp only [Option.any_none, Option.any_some, reduceCtorEq,
        Option.some.injEq, decide_false, Bool.toNat_false, Nat.add_zero]
      omega
    awaited := fun _ there => absurd there.symm (Option.some_ne_none _) }

/-- The call becomes a call of `GetCapabilities` in flight. -/
theorem Booked.asking (booked : Booked (some invocation) world)
    (fresh : id ∉ world.asking)
    (received : .received invocation ⟨sender, .getCapabilities⟩ ∈
      world.trace)
    (authorized : Authorized world.trace invocation sender) (core : Core) :
    Booked none
      { world with
        core
        asking := id :: world.asking
        asked := Function.update world.asked id invocation } := by
  have others (other : Nat) (member : other ∈ world.asking) :
      Function.update world.asked id invocation other = world.asked other :=
    Function.update_of_ne (by
      rintro rfl
      exact fresh member) ..
  have self : Function.update world.asked id invocation id = invocation :=
    Function.update_self ..
  refine { booked with asks := ?_, balance := fun other => ?_ }
  rotate_left
  · have balance := booked.balance other
    have counts : world.asking.countP
        (fun id' => Function.update world.asked id invocation id' = other) =
          world.asking.countP fun id => world.asked id = other := by
      refine List.countP_congr fun id member => ?_
      rw [others id member]
    rw [pending] at balance
    rw [pending, ← balance]
    show _ + (_ + (id :: world.asking).countP (fun id' =>
      Function.update world.asked id invocation id' = other) +
        (Calls.waits world other).toNat) + 0 = _
    rw [List.countP_cons, counts, self]
    by_cases same : invocation = other
    · simp only [same, decide_true, if_true, Bool.toNat_true]
      omega
    · simp only [same, Option.some.injEq, decide_false, Bool.toNat_false,
        Bool.false_eq_true, if_false]
      omega
  · intro other member
    rcases List.mem_cons.mp member with rfl | member
    · refine ⟨sender, ?_⟩
      show .received (Function.update world.asked other invocation other) _ ∈
        world.trace ∧ Authorized world.trace
          (Function.update world.asked other invocation other) sender
      rw [self]
      exact ⟨received, authorized⟩
    · rcases booked.asks other member with ⟨sender, before⟩
      refine ⟨sender, ?_⟩
      show .received (Function.update world.asked id invocation other) _ ∈
        world.trace ∧ Authorized world.trace
          (Function.update world.asked id invocation other) sender
      rw [others other member]
      exact before

/-- The call becomes a transaction, whose request is on the bus. -/
theorem Booked.registers (booked : Booked (some invocation) world)
    (fresh : id ∉ world.transactions) {transaction : Transaction}
    (named : transaction.invocation = invocation)
    (exported : transaction.request.exported = true)
    (placed : Placed world.trace invocation
      (world.objects transaction.session))
    (serving : Serving world invocation transaction.session) (core : Core) :
    Booked none
      { (world.emit (.requestExported invocation)).setTransaction id
          transaction with
        transactions := world.transactions ++ [id]
        core } := by
  let event := Event.requestExported invocation
  let ledger := Function.update world.ledger id transaction
  have adds : Adds (fun _ => True) world.trace (event :: world.trace) :=
    (Adds.refl _).cons trivial
  have others (other : Nat) (member : other ∈ world.transactions) :
      ledger other = world.ledger other :=
    Function.update_of_ne (by
      rintro rfl
      exact fresh member) ..
  have self : ledger id = transaction := Function.update_self ..
  have counts (counted : Transaction → Bool) :
      (world.transactions ++ [id]).countP (fun id => counted (ledger id)) =
        world.transactions.countP (fun id => counted (world.ledger id)) +
          (counted transaction).toNat := by
    rw [List.countP_append, List.countP_singleton, self]
    congr 1
    · refine List.countP_congr fun id member => ?_
      rw [others id member]
    · cases counted transaction <;> rfl
  have same : SameCalls world (world.emit event) :=
    sameCalls_emit fun _ => Event.noConfusion
  have informed := booked.toInformed.later same adds
  refine
    { informed with
      placed := fun other member => ?_
      serving := fun other member => ?_
      awaited := fun waiting there => by
        have awaited := informed.awaited waiting there
        cases waiting <;> exact awaited
      balance := fun other => ?_
      receipts := booked.receipts
      exports := fun other => ?_
      truthful := each_cons.mpr ⟨trivial, booked.truthful⟩ }
  · show Placed (event :: world.trace) (ledger other).invocation
      (world.objects (ledger other).session)
    rcases List.mem_append.mp member with member | member
    · rw [others other member]
      exact informed.placed other member
    · rw [List.mem_singleton.mp member, self, named]
      exact placed.later adds
  · show Serving (world.emit event) (ledger other).invocation
      (ledger other).session
    rcases List.mem_append.mp member with member | member
    · rw [others other member]
      exact informed.serving other member
    · rw [List.mem_singleton.mp member, self, named]
      exact serving.later ⟨rfl, rfl, rfl⟩ (same.stays _)
  · have balance := booked.balance other
    rw [pending] at balance
    show world.trace.countP _ + ((world.transactions ++ [id]).countP
      (fun id => (ledger id).invocation = other) +
        world.asking.countP (fun id => world.asked id = other) +
          (Calls.waits world other).toNat) + 0 = world.trace.countP _
    rw [← balance, counts fun transaction => transaction.invocation = other,
      named]
    simp only [Option.some.injEq]
    omega
  · have exports := booked.exports other
    show (event :: world.trace).countP _ =
      (event :: world.trace).countP _ + (world.transactions ++ [id]).countP
        fun id => (ledger id).invocation = other &&
          (ledger id).request.exported
    rw [counts fun transaction => transaction.invocation = other &&
      transaction.request.exported, named, exported, List.countP_cons,
      List.countP_cons, exports, onBus]
    by_cases same : invocation = other <;>
      simp [event, isExport, isUnexport, same, Nat.add_assoc]

/-! ## A call leaves its place -/

/-- The entry is removed, whatever its place. -/
theorem removeFast_perm {entries : List Nat} {entry : Nat}
    (member : entry ∈ entries) :
    (removeFast entries entry).Perm (entries.erase entry) := by
  rcases List.eq_append_cons_of_mem member with ⟨before, after, rfl, fresh⟩
  have place (after : List Nat) :
      (before ++ entry :: after).idxOf entry = before.length := by
    rw [List.idxOf_append_of_notMem fresh, List.idxOf_cons_self,
      Nat.add_zero]
  rw [List.erase_append_right _ fresh, List.erase_cons_head]
  rcases List.eq_nil_or_concat after with rfl | ⟨rest, last, rfl⟩
  · have taken : removeFast (before ++ [entry]) entry = before := by
      simp [removeFast, place]
    rw [taken, List.append_nil]
  · rw [List.concat_eq_append]
    have final : (before ++ entry :: (rest ++ [last])).getLast? =
        some last := by
      rw [← List.cons_append, ← List.append_assoc, List.getLast?_concat]
    have taken : removeFast (before ++ entry :: (rest ++ [last])) entry =
        before ++ last :: rest := by
      have moved : (before ++ entry :: (rest ++ [last])).set before.length
          last = (before ++ last :: rest) ++ [last] := by simp
      rw [removeFast, final]
      dsimp only
      rw [if_pos (by simp), place, moved, List.dropLast_concat]
    rw [taken]
    exact (List.perm_append_singleton last rest).symm.append_left before

theorem countP_removeFast {entries : List Nat} {entry : Nat}
    (member : entry ∈ entries) (counted : Nat → Bool) :
    entries.countP counted =
      (removeFast entries entry).countP counted + (counted entry).toNat := by
  rw [(removeFast_perm member).countP_eq,
    (List.perm_cons_erase member).countP_eq, List.countP_cons]
  cases counted entry <;> rfl

theorem mem_of_removeFast {entries : List Nat} {entry other : Nat}
    (member : entry ∈ entries) (here : other ∈ removeFast entries entry) :
    other ∈ entries :=
  List.mem_of_mem_erase ((removeFast_perm member).subset here)

/-- The request of a transaction goes off the bus. -/
theorem Booked.unexports (booked : Booked hand world)
    (member : id ∈ world.transactions) (once : world.transactions.Nodup) :
    Booked hand (certificateImplRequestUnexport world id) := by
  rw [certificateImplRequestUnexport]
  split_ifs with exported
  · let transaction := world.ledger id
    let event := Event.requestUnexported transaction.invocation
    let hidden : Transaction :=
      { transaction with
        request := { transaction.request with exported := false } }
    have field {Value : Type} (field : Transaction → Value)
        (same : field hidden = field transaction) (other : Nat) :
        field (Function.update world.ledger id hidden other) =
          field (world.ledger other) := by
      by_cases here : other = id
      · rw [here, Function.update_self, same]
      · rw [Function.update_of_ne here]
    have adds : Adds Uncounted world.trace (event :: world.trace) :=
      (Adds.refl _).cons fun _ => ⟨rfl, rfl⟩
    have emitted : SameCalls world (world.emit event) :=
      sameCalls_emit fun _ => Event.noConfusion
    refine booked.same
      { emitted with
        invocation := field Transaction.invocation rfl
        session := field Transaction.session rfl } adds fun other => ?_
    have exports := booked.exports other
    -- Only the request that goes off the bus is counted otherwise.
    let after := (world.setTransaction id hidden).emit event
    have counts : onBus world other = onBus after other +
        (decide (transaction.invocation = other)).toNat := by
      show _ = (world.transactions.countP fun id' =>
        (Function.update world.ledger id hidden id').invocation = other &&
          (Function.update world.ledger id hidden id').request.exported) + _
      have apart := (List.nodup_cons.mp
        ((List.perm_cons_erase member).nodup_iff.mp once)).1
      rw [onBus, (List.perm_cons_erase member).countP_eq,
        (List.perm_cons_erase member).countP_eq, List.countP_cons,
        List.countP_cons, Function.update_self, exported]
      simp only [hidden, Bool.and_false, Bool.false_eq_true, if_false,
        Bool.and_true, Nat.add_zero]
      congr 1
      · refine List.countP_congr fun there later => ?_
        have different : there ≠ id := fun same => apart (same ▸ later)
        rw [Function.update_of_ne different]
      · by_cases same : (world.ledger id).invocation = other <;>
          simp [transaction, same]
    show (event :: world.trace).countP _ =
      (event :: world.trace).countP _ + onBus after other
    rw [List.countP_cons, List.countP_cons, exports, counts]
    simp only [event, isExport, isUnexport, Bool.false_eq_true, if_false]
    by_cases same : transaction.invocation = other
    · simp only [same, decide_true, if_true, Bool.toNat_true]
      omega
    · simp only [same, decide_false, Bool.false_eq_true, if_false,
        Bool.toNat_false]
      omega
  · exact booked

/-- A transaction that is off the bus is taken in hand. -/
theorem Booked.takes (booked : Booked none world)
    (member : id ∈ world.transactions)
    (hidden : (world.ledger id).request.exported = false) :
    Booked (some (world.ledger id).invocation)
      { world with transactions := removeFast world.transactions id } :=
  { booked with
    balance := fun other => by
      have balance := booked.balance other
      rw [pending, countP_removeFast member] at balance
      show _ + ((removeFast world.transactions id).countP
        (fun id => (world.ledger id).invocation = other) +
          world.asking.countP (fun id => world.asked id = other) +
            (Calls.waits world other).toNat) + _ = _
      rw [← balance]
      simp only [Option.some.injEq, reduceCtorEq, decide_false,
        Bool.toNat_false]
      omega
    exports := fun other => by
      have exports := booked.exports other
      rw [onBus, countP_removeFast member, hidden, Bool.and_false] at exports
      exact exports
    placed := fun other here =>
      booked.placed other (mem_of_removeFast member here)
    serving := fun other here =>
      booked.serving other (mem_of_removeFast member here) }

theorem requestUnexport_hidden (world : World) (id : Nat) :
    ((certificateImplRequestUnexport world id).ledger id).request.exported =
      false := by
  rw [certificateImplRequestUnexport]
  split_ifs with exported
  · show (Function.update world.ledger id _ id).request.exported = false
    rw [Function.update_self]
  · exact Bool.eq_false_iff.mpr exported

/-- What a request that goes off the bus leaves as it is. -/
structure Unexports (world next : World) : Prop where
  core : next.core = world.core
  transactions : next.transactions = world.transactions
  asking : next.asking = world.asking
  invocation : ∀ id,
    (next.ledger id).invocation = (world.ledger id).invocation
  adds : Adds (fun event => ∃ invocation, event =
    Event.requestUnexported invocation) world.trace next.trace
  objects : next.objects = world.objects
  session : ∀ id, (next.ledger id).session = (world.ledger id).session
  waiting : next.waiting = world.waiting
  owner : next.frontendOwner = world.frontendOwner

theorem requestUnexport_keeps (world : World) (id : Nat) :
    Unexports world (certificateImplRequestUnexport world id) := by
  rw [certificateImplRequestUnexport]
  split_ifs
  · have field {Value : Type} (field : Transaction → Value)
        {hidden : Transaction}
        (same : field hidden = field (world.ledger id)) (other : Nat) :
        field (Function.update world.ledger id hidden other) =
          field (world.ledger other) := by
      by_cases here : other = id
      · rw [here, Function.update_self, same]
      · rw [Function.update_of_ne here]
    exact
      { core := rfl
        transactions := rfl
        asking := rfl
        invocation := field Transaction.invocation rfl
        adds := (Adds.refl _).cons ⟨_, rfl⟩
        objects := rfl
        session := field Transaction.session rfl
        waiting := rfl
        owner := rfl }
  · exact
      { core := rfl
        transactions := rfl
        asking := rfl
        invocation := fun _ => rfl
        adds := .refl _
        objects := rfl
        session := fun _ => rfl
        waiting := rfl
        owner := rfl }

theorem recordedOwner_adds {kinds : Event → Prop} {earlier after : List Event}
    (adds : Adds kinds earlier after)
    (silent : ∀ event, kinds event → ownerOf event = none) :
    recordedOwner after = recordedOwner earlier := by
  rcases adds with ⟨news, rfl, fits⟩
  rw [recordedOwner, findSome_append fun event member =>
    silent event (fits event member)]
  rfl

/-- A transaction is answered and freed; a success goes to the owner. -/
theorem Booked.responds (booked : Booked none world)
    (member : id ∈ world.transactions) (once : world.transactions.Nodup)
    {answer : Answer}
    (success : answer.response = responseSuccess →
      recordedOwner world.trace =
          some (world.objects (world.ledger id).session).owner ∧
        (world.objects (world.ledger id).session).exported = true) :
    Booked none (transactionRespond world id answer) := by
  let shown := certificateImplRequestUnexport world id
  have keeps := requestUnexport_keeps world id
  have placed := (booked.placed id member).later keeps.adds
  have serving := booked.serving id member
  have there : id ∈ shown.transactions := keeps.transactions ▸ member
  have taken := (booked.unexports member once).takes there
    (requestUnexport_hidden world id)
  have named : (shown.ledger id).invocation = (world.ledger id).invocation :=
    keeps.invocation id
  rw [named] at taken
  have same : shown.transactions = world.transactions := keeps.transactions
  rw [transactionRespond, ← same]
  rcases placed.received with ⟨method, received, names⟩
  refine taken.answers received
    ⟨.inr placed.authorized, fun results same => ?_⟩
  have good : answer.response = responseSuccess :=
    congrArg Answer.response (Reply.answer.inj same)
  rcases success good with ⟨owner, exported⟩
  refine ⟨?_, fun path appId named => ?_⟩
  · show recordedOwner shown.trace = _
    rw [recordedOwner_adds keeps.adds fun event kind => by
      rcases kind with ⟨invocation, rfl⟩
      rfl]
    exact owner
  · rw [names] at named
    cases named
    refine ⟨placed.opened, _, (serving exported).adds ?_⟩
    refine keeps.adds.mono fun event kind => ?_
    rcases kind with ⟨invocation, rfl⟩
    exact Event.noConfusion

/-- A call of `GetCapabilities` is answered. -/
theorem Booked.reports (booked : Booked none world)
    (member : id ∈ world.asking)
    (core : Core) (results : Vardict) :
    Booked none
      { { world with core }.answer (world.asked id) (.capabilities results)
        with asking := world.asking.erase id } := by
  have taken : Booked (some (world.asked id))
      { world with core, asking := world.asking.erase id } :=
    { booked with
      balance := fun other => by
        have balance := booked.balance other
        rw [pending, (List.perm_cons_erase member).countP_eq,
          List.countP_cons] at balance
        show _ + (_ + (world.asking.erase id).countP
          (fun id => world.asked id = other) +
            (Calls.waits world other).toNat) + _ = _
        rw [← balance]
        simp only [Option.some.injEq, reduceCtorEq, decide_false,
          Bool.toNat_false, decide_eq_true_eq]
        by_cases same : world.asked id = other
        · simp only [same, decide_true, if_true, Bool.toNat_true]
          omega
        · simp only [same, decide_false, if_false, Bool.toNat_false]
          omega
      asks := fun other there =>
        booked.asks other (List.mem_of_mem_erase there) }
  rcases booked.asks id member with ⟨sender, received, authorized⟩
  exact taken.answers received
    ⟨.inr authorized, fun _ => Reply.noConfusion⟩

/-- The wait of a handler has ended. -/
theorem Booked.tells {waiting : Waiting} (booked : Booked none world)
    (here : world.waiting = some waiting) (core before : Core) :
    Booked none
      { world with core, waiting := some (waiting.told before) } :=
  { booked with
    balance := fun other => by
      have balance := booked.balance other
      rw [pending, Calls.waits, here] at balance
      rw [← balance, pending, Calls.waits]
      cases waiting <;> rfl
    awaited := fun other there => by
      cases Option.some.inj there
      have awaited := booked.awaited waiting here
      cases waiting <;> exact awaited }

/-- The request of `CreateSession` is on the bus for a moment. -/
theorem Booked.shows (booked : Booked hand world) (invocation : Nat) :
    Booked hand ((world.emit (.requestExported invocation)).emit
      (.requestUnexported invocation)) := by
  let shown := Event.requestExported invocation
  let hidden := Event.requestUnexported invocation
  have adds : Adds Uncounted world.trace (hidden :: shown :: world.trace) :=
    ((Adds.refl _).cons fun _ => ⟨rfl, rfl⟩).cons fun _ => ⟨rfl, rfl⟩
  have stays (session : Nat) :
      Stays world ((world.emit shown).emit hidden) session :=
    fun exported => ⟨exported, ((Adds.refl _).cons Event.noConfusion).cons
      Event.noConfusion⟩
  refine booked.same { sameCalls_refl world with stays } adds
    fun other => ?_
  have exports := booked.exports other
  show (hidden :: shown :: world.trace).countP _ =
    (hidden :: shown :: world.trace).countP _ + onBus world other
  simp only [List.countP_cons, exports]
  by_cases same : invocation = other <;>
    simp [shown, hidden, isExport, isUnexport, same, Nat.add_right_comm]

/-- The session that a call has made is entered; nothing refers to it
yet. -/
theorem Booked.opens (booked : Booked (some invocation) world)
    {handle : String}
    (received : .received invocation
      ⟨sender, .createSession handle path appId⟩ ∈ world.trace)
    (authorized : Authorized world.trace invocation sender)
    (owner : recordedOwner world.trace = some sender)
    (entries : ∀ entry ∈ world.sessions, entry.2 ≠ session)
    (unused : ∀ id ∈ world.transactions,
      (world.ledger id).session ≠ session)
    (idle : world.waiting = none) :
    Booked none
      ({ (world.setObject session ⟨path, appId, sender, true, false⟩).emit
          (.sessionExported session path) with
        sessions := (path, session) :: world.sessions }.answer invocation
          (.answer ⟨responseSuccess, emptyResults⟩)) := by
  let object : CertificateImplSession := ⟨path, appId, sender, true, false⟩
  let objects := Function.update world.objects session object
  let event := Event.sessionExported session path
  have adds : Adds Uncounted world.trace (event :: world.trace) :=
    (Adds.refl _).cons fun _ => ⟨rfl, rfl⟩
  have others (other : Nat) (apart : other ≠ session) :
      objects other = world.objects other := Function.update_of_ne apart ..
  let answered := (world.emit event).answer invocation
    (.answer ⟨responseSuccess, emptyResults⟩)
  have told : Booked none answered := by
    have same : SameCalls world (world.emit event) :=
      sameCalls_emit fun _ => Event.noConfusion
    have shown : Booked (some invocation) (world.emit event) :=
      booked.same same adds booked.exports
    refine shown.answers (adds.subset received)
      ⟨.inr (authorized.later adds), fun _ _ =>
        ⟨owner, fun _ _ named => ?_⟩⟩
    cases named
  refine
    { told with
      placed := fun id member => ?_
      serving := fun id member => ?_
      exported := fun other exported => ?_
      opened := fun entry member => ?_
      awaited := fun waiting there => ?_ }
  · show Placed answered.trace (world.ledger id).invocation
      (objects (world.ledger id).session)
    rw [others _ (unused id member)]
    exact told.placed id member
  · have same := others _ (unused id member)
    show (objects (world.ledger id).session).exported = true →
      Served answered.trace (world.ledger id).invocation
        (objects (world.ledger id).session).owner
        (objects (world.ledger id).session).id (world.ledger id).session
    rw [same]
    exact told.serving id member
  · change (objects other).exported = true at exported
    show Exported other (objects other).id answered.trace
    by_cases same : other = session
    · have self : objects session = object := Function.update_self ..
      rw [same, self]
      exact (since_now trivial).cons Event.noConfusion
    · rw [others other same] at exported ⊢
      exact told.exported other exported
  · show Opened answered.trace (objects entry.2).owner (objects entry.2).id
      (objects entry.2).appId
    rcases List.mem_cons.mp member with rfl | member
    · have self : objects session = object := Function.update_self ..
      rw [self]
      exact ⟨invocation, handle, List.mem_cons_of_mem _
        (List.mem_cons_of_mem _ received), List.mem_cons_self ..⟩
    · rw [others _ (entries entry member)]
      exact told.opened entry member
  · change world.waiting = some waiting at there
    rw [idle] at there
    cases there

end PortalCertificate.Adapter.Calls
