import PortalCertificate.Adapter.Machine
import PortalCertificate.Context.Clients

/-!
# The tables of the adapter

The adapter drives the context through its client calls only, so its context
is one that the context's own machine reaches.  Its table has the sessions
of the present owner, and its transactions are the requests whose client has
not been called.  A transaction that has not been cancelled belongs to a
session of the table, or to one that has ended.
-/

namespace PortalCertificate.Adapter.Tables

open PortalCertificate.Adapter.Machine
open PortalCertificate.Adapter.Responses
open PortalCertificate.Context.Accounts
open PortalCertificate.Context.Clients
open PortalCertificate.Context.Completion (completionCalls)
open PortalCertificate.Context.Fencing
open PortalCertificate.Context.Machine (xccRequestCancel)
open PortalCertificate.Context.Requests hiding World Event sessionAbsent
open PortalCertificate.Context.Silence
open PortalCertificate.Context.Steps
open PortalCertificate.Library.Trace
open PortalCertificate.Library.Transition

/-- A context under the adapter. -/
abbrev Core := Context.Requests.World

variable {world : World} {core : Core} {owner : Option String}
  {generation : Nat} {session id : Nat}

/-! ## Entries -/

/-- A session of the table belongs to the owner and to its generation. -/
structure Registered
    (core : Core) (owner : Option String) (generation : Nat)
    (object : CertificateImplSession) (path : String) (session : Nat) :
    Prop where
  id : object.id = path
  owner : owner = some object.owner
  known : session < core.nextSession
  generation : (core.sessions session).ownerGeneration = generation

/-- A transaction has a request of its session, whose client has not been
called. -/
structure Live (core : Core) (transaction : Transaction) (id : Nat) :
    Prop where
  born : id < core.nextRequest
  untold : told core.trace id = 0
  kind : (core.requests id).kind ≠ .capabilities
  bound : (core.requests id).session = some transaction.session
  known : transaction.session < core.nextSession

/-- A call of `GetCapabilities` that has not been answered. -/
structure Asks (core : Core) (id : Nat) : Prop where
  born : id < core.nextRequest
  untold : told core.trace id = 0
  kind : (core.requests id).kind = .capabilities

/-- The session is in the table, under its own path. -/
def Listed (world : World) (session : Nat) : Prop :=
  ((world.objects session).id, session) ∈ world.sessions

/-- A request that can be told of an error only. -/
structure Lost (core : Core) (session id : Nat) : Prop where
  closed : (core.sessions session).closed = true
  spent : Spent core id

/-- The table, the objects on the bus, the live transactions and the calls
that wait agree with the context, for one owner of the frontend's name. -/
structure Sound
    (owner : Option String) (generation : Nat) (world : World) : Prop where
  core : Context.Machine.machine.Reachable world.core
  table : ∀ path session, (path, session) ∈ world.sessions →
    Registered world.core owner generation (world.objects session) path
      session
  keys : (world.sessions.map Prod.fst).Nodup
  shown : ∀ session, (world.objects session).exported = true →
    ((world.objects session).id, session) ∈ world.sessions
  live : ∀ id ∈ world.transactions, Live world.core (world.ledger id) id
  once : world.transactions.Nodup
  asks : ∀ id ∈ world.asking, Asks world.core id
  asksOnce : world.asking.Nodup
  pending : ∀ id < world.core.nextRequest, told world.core.trace id = 0 →
    id ∈ world.transactions ∨ id ∈ world.asking
  wanted : world.drained = false → ∀ id ∈ world.transactions,
    (world.ledger id).cancelledCode = none →
      ((world.objects (world.ledger id).session).id,
          (world.ledger id).session) ∈ world.sessions ∨
        Lost world.core (world.ledger id).session id

/-- The sessions of the table are on the bus. -/
def Shown (world : World) : Prop :=
  ∀ entry ∈ world.sessions, (world.objects entry.2).exported = true

/-! ## Steps of the context -/

theorem Registered.onward {next : Core} {object : CertificateImplSession}
    {path : String}
    (registered : Registered core owner generation object path session)
    (onward : Onward core next) :
    Registered next owner generation object path session :=
  { registered with
    known := registered.known.trans_le onward.sessions
    generation :=
      (onward.owner session registered.known).trans registered.generation }

theorem Live.onward {next : Core} {transaction : Transaction}
    (live : Live core transaction id) (onward : Onward core next)
    (untold : told next.trace id = told core.trace id) :
    Live next transaction id := by
  have asked := onward.asked id live.born
  exact
    { born := live.born.trans_le onward.requests
      untold := untold.trans live.untold
      kind := (congrArg Asked.kind asked).trans_ne live.kind
      bound := (congrArg Asked.session asked).trans live.bound
      known := live.known.trans_le onward.sessions }

theorem Asks.onward {next : Core} (asks : Asks core id)
    (onward : Onward core next)
    (untold : told next.trace id = told core.trace id) : Asks next id where
  born := asks.born.trans_le onward.requests
  untold := untold.trans asks.untold
  kind := (congrArg Asked.kind (onward.asked id asks.born)).trans asks.kind

theorem Lost.onward {next : Core} {transaction : Transaction}
    (lost : Lost core transaction.session id)
    (live : Live core transaction id) (onward : Onward core next) :
    Lost next transaction.session id where
  closed := onward.closed _ live.known lost.closed
  spent := onward.spent id live.born _ live.known live.bound lost.closed
    lost.spent

/-- The context goes on, and nobody is called back. -/
theorem Sound.drive {next : Core} {action : Context.Machine.Action}
    (sound : Sound owner generation world)
    (moves : Context.Machine.step world.core action = some next)
    (others : Context.Silence.asks action = false)
    (apart : ∀ id, world.core.desktop = .calling id → action ≠ .proceed) :
    Sound owner generation { world with core := next } := by
  have onward := onward_step sound.core moves
  have silent := silent_step moves others apart
  have same (id : Nat) : told next.trace id = told world.core.trace id := by
    rw [silent.told, trace_taken]
  have made : next.nextRequest = world.core.nextRequest := by
    rw [silent.made, nextRequest_taken]
  exact
    { sound with
      core := sound.core.step moves
      table := fun path session member =>
        (sound.table path session member).onward onward
      live := fun id member =>
        (sound.live id member).onward onward (same id)
      asks := fun id member =>
        (sound.asks id member).onward onward (same id)
      pending := fun id born untold =>
        sound.pending id (made ▸ born) ((same id).symm.trans untold)
      wanted := fun runs id member uncancelled =>
        (sound.wanted runs id member uncancelled).imp_right fun lost =>
          lost.onward (sound.live id member) onward }

/-! ## Operations on the tables -/

/-- A transaction is written that may have been cancelled. -/
theorem Sound.setTransaction {transaction : Transaction}
    (sound : Sound owner generation world)
    (same : transaction.session = (world.ledger id).session)
    (cancelled : transaction.cancelledCode = none →
      (world.ledger id).cancelledCode = none) :
    Sound owner generation (world.setTransaction id transaction) := by
  have sessions (other : Nat) :
      ((world.setTransaction id transaction).ledger other).session =
        (world.ledger other).session := by
    show (Function.update world.ledger id transaction other).session = _
    by_cases here : other = id
    · rw [here, Function.update_self, same]
    · rw [Function.update_of_ne here]
  have codes (other : Nat) :
      ((world.setTransaction id transaction).ledger other).cancelledCode =
          none →
        (world.ledger other).cancelledCode = none := by
    show (Function.update world.ledger id transaction other).cancelledCode =
      none → _
    by_cases here : other = id
    · rw [here, Function.update_self]
      exact cancelled
    · rw [Function.update_of_ne here]
      exact fun uncancelled => uncancelled
  exact
    { sound with
      live := fun other member =>
        { sound.live other member with
          bound := by
            rw [sessions]
            exact (sound.live other member).bound
          known := by
            rw [sessions]
            exact (sound.live other member).known }
      wanted := fun runs other member uncancelled => by
        rw [sessions]
        exact sound.wanted runs other member (codes other uncancelled) }

/-- The fields of a session that identify it. -/
def SameObject (before after : CertificateImplSession) : Prop :=
  after.id = before.id ∧ after.appId = before.appId ∧
    after.owner = before.owner

theorem Sound.setObject {object : CertificateImplSession}
    (sound : Sound owner generation world)
    (same : SameObject (world.objects session) object)
    (shown : object.exported = true →
      (world.objects session).exported = true) :
    Sound owner generation (world.setObject session object) := by
  have fields (other : Nat) :
      SameObject (world.objects other)
        ((world.setObject session object).objects other) := by
    show SameObject _ (Function.update world.objects session object other)
    by_cases here : other = session
    · rw [here, Function.update_self]
      exact same
    · rw [Function.update_of_ne here]
      exact ⟨rfl, rfl, rfl⟩
  exact
    { sound with
      table := fun path other member =>
        { sound.table path other member with
          id := (fields other).1.trans (sound.table path other member).id
          owner := by
            rw [(fields other).2.2]
            exact (sound.table path other member).owner }
      shown := fun other exported => by
        rw [(fields other).1]
        refine sound.shown other ?_
        change (Function.update world.objects session object other).exported
          = true at exported
        by_cases here : other = session
        · rw [here, Function.update_self] at exported
          rw [here]
          exact shown exported
        · rwa [Function.update_of_ne here] at exported
      wanted := fun runs other member uncancelled => by
        rw [(fields _).1]
        exact sound.wanted runs other member uncancelled }

theorem mem_removeSession {path : String} {entry : String × Nat} :
    entry ∈ (world.removeSession path).sessions ↔
      entry ∈ world.sessions ∧ entry.1 ≠ path := by
  simp [World.removeSession]

/-- A session leaves the table: it is off the bus, and its transactions have
been cancelled, or are lost. -/
theorem Sound.remove (sound : Sound owner generation world)
    (hidden : (world.objects session).exported = false)
    (cancelled : ∀ id ∈ world.transactions,
      (world.ledger id).session = session →
        (world.ledger id).cancelledCode = none →
          Lost world.core session id)
    {path : String} (named : ∀ other, (path, other) ∈ world.sessions →
      other = session) :
    Sound owner generation (world.removeSession path) :=
  { sound with
    table := fun path session member =>
      sound.table path session (mem_removeSession.mp member).1
    keys := by
      refine sound.keys.sublist ?_
      exact (List.filter_sublist ..).map Prod.fst
    shown := fun other exported => by
      have listed := sound.shown other exported
      refine mem_removeSession.mpr ⟨listed, fun same => ?_⟩
      have here : other = session := named other (same ▸ listed)
      rw [here] at exported
      change (world.objects session).exported = true at exported
      rw [hidden] at exported
      cases exported
    wanted := fun runs id member uncancelled => by
      rcases sound.wanted runs id member uncancelled with listed | lost
      · by_cases same : (world.objects (world.ledger id).session).id = path
        · have here : (world.ledger id).session = session :=
            named _ (same ▸ listed)
          right
          show Lost world.core (world.ledger id).session id
          rw [here]
          exact cancelled id member here uncancelled
        · exact .inl (mem_removeSession.mpr ⟨listed, same⟩)
      · exact .inr lost }

/-- The paths of the table are different. -/
theorem Sound.unique (sound : Sound owner generation world)
    {path : String} {other : Nat} (here : (path, session) ∈ world.sessions)
    (there : (path, other) ∈ world.sessions) : other = session :=
  (Prod.mk.inj (List.inj_on_of_nodup_map sound.keys there here rfl)).2

/-! ## Requests of the context -/

theorem Sound.fresh (sound : Sound owner generation world) :
    world.core.nextRequest ∉ world.transactions ∧
      world.core.nextRequest ∉ world.asking :=
  ⟨fun member => (sound.live _ member).born.ne rfl,
    fun member => (sound.asks _ member).born.ne rfl⟩

section Requested

variable {kind : XccResultKind} {bound : Option Nat}

theorem requested_untold (reachable : Context.Machine.machine.Reachable core)
    {next : Core} (requested : Requested core next kind bound) :
    told next.trace core.nextRequest = 0 := by
  have located := (basic_of_reachable reachable).located
  rw [requested.told]
  have unborn := (located.unborn core.nextRequest (Nat.le_refl _)).1
  exact (located.balance_open unborn).2.2.2

/-- Apart from the new request, the tables are still right. -/
theorem Sound.requested {next : Core}
    (sound : Sound owner generation world)
    (requested : Requested world.core next kind bound) :
    Onward world.core next ∧ Context.Machine.machine.Reachable next ∧
      ∀ id < next.nextRequest, told next.trace id = 0 →
        id = world.core.nextRequest ∨
          id ∈ world.transactions ∨ id ∈ world.asking := by
  rcases requested.moves with ⟨action, moves⟩
  refine ⟨onward_step sound.core moves, sound.core.step moves, ?_⟩
  intro id born untold
  rw [requested.told] at untold
  rcases Nat.lt_succ_iff_lt_or_eq.mp (requested.made ▸ born) with
    before | here
  · exact .inr (sound.pending id before untold)
  · exact .inl here

/-- A transaction gets a new request for a session of the table. -/
theorem Sound.registers {next : Core} {transaction : Transaction}
    (sound : Sound owner generation world)
    (requested : Requested world.core next kind (some transaction.session))
    (plain : kind ≠ .capabilities)
    (listed : Listed world transaction.session) :
    Sound owner generation
      { world.setTransaction world.core.nextRequest transaction with
        transactions := world.transactions ++ [world.core.nextRequest]
        core := next } := by
  let id := world.core.nextRequest
  let ledger := Function.update world.ledger id transaction
  rcases sound.requested requested with ⟨onward, reachable, pending⟩
  have others (other : Nat) (member : other ∈ world.transactions) :
      ledger other = world.ledger other :=
    Function.update_of_ne (by
      rintro rfl
      exact sound.fresh.1 member) ..
  have self : ledger id = transaction := Function.update_self ..
  have known : transaction.session < world.core.nextSession :=
    (sound.table _ _ listed).known
  refine
    { sound with
      core := reachable
      table := fun path session member =>
        (sound.table path session member).onward onward
      live := fun other member => ?_
      once := ?_
      asks := fun other member =>
        (sound.asks other member).onward onward (requested.told other)
      pending := fun other born untold => ?_
      wanted := fun runs other member uncancelled => ?_ }
  · show Live next (ledger other) other
    rcases List.mem_append.mp member with member | member
    · rw [others other member]
      exact (sound.live other member).onward onward (requested.told other)
    · rw [List.mem_singleton.mp member, self]
      exact
        { born := by
            rw [requested.made]
            exact Nat.lt_succ_self _
          untold := requested_untold sound.core requested
          kind := by
            rw [requested.kind]
            exact plain
          bound := requested.session
          known := known.trans_le onward.sessions }
  · refine List.nodup_append.mpr ⟨sound.once, List.nodup_singleton _, ?_⟩
    rintro other member last here rfl
    rw [List.mem_singleton.mp here] at member
    exact sound.fresh.1 member
  · rcases pending other born untold with rfl | member | member
    · exact .inl (List.mem_append_right _ (List.mem_singleton_self _))
    · exact .inl (List.mem_append_left _ member)
    · exact .inr member
  · change (ledger other).cancelledCode = none at uncancelled
    show ((world.objects (ledger other).session).id, (ledger other).session)
      ∈ world.sessions ∨ Lost next (ledger other).session other
    rcases List.mem_append.mp member with member | member
    · rw [others other member] at uncancelled ⊢
      refine (sound.wanted runs other member uncancelled).imp_right ?_
      exact fun lost => lost.onward (sound.live other member) onward
    · rw [List.mem_singleton.mp member, self]
      exact .inl listed

/-- A call of `GetCapabilities` gets a new request. -/
theorem Sound.inquires {next : Core} {asked : Nat → Nat}
    (sound : Sound owner generation world)
    (requested : Requested world.core next .capabilities none) :
    Sound owner generation
      { world with
        asking := world.core.nextRequest :: world.asking
        asked
        core := next } := by
  rcases sound.requested requested with ⟨onward, reachable, pending⟩
  refine
    { sound with
      core := reachable
      table := fun path session member =>
        (sound.table path session member).onward onward
      live := fun other member =>
        (sound.live other member).onward onward (requested.told other)
      asks := fun other member => ?_
      asksOnce := List.nodup_cons.mpr ⟨sound.fresh.2, sound.asksOnce⟩
      pending := fun other born untold => ?_
      wanted := fun runs other member uncancelled =>
        (sound.wanted runs other member uncancelled).imp_right fun lost =>
          lost.onward (sound.live other member) onward }
  · rcases List.mem_cons.mp member with rfl | member
    · exact
        { born := by
            rw [requested.made]
            exact Nat.lt_succ_self _
          untold := requested_untold sound.core requested
          kind := requested.kind }
    · exact (sound.asks other member).onward onward (requested.told other)
  · rcases pending other born untold with rfl | member | member
    · exact .inr (List.mem_cons_self ..)
    · exact .inl member
    · exact .inr (List.mem_cons_of_mem _ member)

end Requested

/-- A client is called back, and its request leaves the tables. -/
theorem Sound.tells {transactions asking : List Nat}
    (sound : Sound owner generation world)
    (calling : world.core.desktop = .calling id)
    (once : transactions.Nodup) (asksOnce : asking.Nodup)
    (left : ∀ other, other ∈ transactions ↔
      other ∈ world.transactions ∧ other ≠ id)
    (asksLeft : ∀ other, other ∈ asking ↔
      other ∈ world.asking ∧ other ≠ id) :
    Sound owner generation
      { world with
        core := completionCalls world.core id, transactions, asking } := by
  have moves : Context.Machine.step world.core .proceed =
      some (completionCalls world.core id) := by
    rw [Context.Machine.step, Context.Machine.proceed, calling]
  have onward := onward_step sound.core moves
  have same (other : Nat) (apart : other ≠ id) :
      told (completionCalls world.core id).trace other =
        told world.core.trace other := by
    rw [told_completionCalls, decide_eq_false (Ne.symm apart)]
    rfl
  have made : (completionCalls world.core id).nextRequest =
      world.core.nextRequest := by
    rw [completionCalls]
    dsimp only
    split_ifs
    · rfl
    · exact (silent_post _).made
  have reachable : Context.Machine.machine.Reachable
      (completionCalls world.core id) :=
    @System.Reachable.step _ _ _ _ _ .proceed sound.core moves
  refine
    { sound with
      core := reachable
      table := fun path session member =>
        (sound.table path session member).onward onward
      live := fun other member => ?_
      once
      asks := fun other member => ?_
      asksOnce
      pending := fun other born untold => ?_
      wanted := fun runs other member uncancelled => ?_ }
  · rcases (left other).mp member with ⟨there, apart⟩
    exact (sound.live other there).onward onward (same other apart)
  · rcases (asksLeft other).mp member with ⟨there, apart⟩
    exact (sound.asks other there).onward onward (same other apart)
  · have apart : other ≠ id := by
      rintro rfl
      change told (completionCalls world.core other).trace other = 0 at untold
      rw [told_completionCalls, decide_eq_true rfl] at untold
      cases untold
    refine (sound.pending other (made ▸ born)
      ((same other apart).symm.trans untold)).imp ?_ ?_
    · exact fun member => (left other).mpr ⟨member, apart⟩
    · exact fun member => (asksLeft other).mpr ⟨member, apart⟩
  · rcases (left other).mp member with ⟨there, -⟩
    exact (sound.wanted runs other there uncancelled).imp_right fun lost =>
      lost.onward (sound.live other there) onward

/-- A success is told for a session of the table. -/
theorem Sound.success (sound : Sound owner generation world)
    (calling : world.core.desktop = .calling id)
    (member : id ∈ world.transactions) (running : world.drained = false)
    (uncancelled : (world.ledger id).cancelledCode = none)
    (good : (world.core.requests id).result.error = .ok) :
    owner = some (world.objects (world.ledger id).session).owner ∧
      Listed world (world.ledger id).session := by
  rcases sound.wanted running id member uncancelled with listed | lost
  · exact ⟨(sound.table _ _ listed).owner, listed⟩
  · exact absurd good (error_of_spent sound.core calling lost.spent)

/-! ## What leaves the calls as they are -/

/-- An event that is no part of a call. -/
def quiet : Machine.Event → Bool
  | .lookedUp _ | .ownerChanged _ | .sessionUnexported _
  | .sessionInvalidated .. | .sessionClosed _ => true
  | _ => false

/-- A session that is on the bus has been there throughout. -/
def Stays (world next : World) (session : Nat) : Prop :=
  (next.objects session).exported = true →
    (world.objects session).exported = true ∧
      Adds (fun event => event ≠ .sessionUnexported session) world.trace
        next.trace

/-- The transactions have been cancelled at most, and sessions have left the
table at most. -/
structure Aside (world next : World) : Prop where
  transactions : next.transactions = world.transactions
  asking : next.asking = world.asking
  asked : next.asked = world.asked
  waiting : next.waiting = world.waiting
  drained : next.drained = world.drained
  nextInvocation : next.nextInvocation = world.nextInvocation
  invocation : ∀ id,
    (next.ledger id).invocation = (world.ledger id).invocation
  session : ∀ id, (next.ledger id).session = (world.ledger id).session
  request : ∀ id, (next.ledger id).request = (world.ledger id).request
  cancelled : ∀ id, (next.ledger id).cancelledCode = none →
    (world.ledger id).cancelledCode = none
  objects : ∀ session,
    SameObject (world.objects session) (next.objects session)
  sessions : next.sessions ⊆ world.sessions
  desktop : next.core.desktop = world.core.desktop
  nextSession : next.core.nextSession = world.core.nextSession
  trace : Adds (fun event => quiet event = true) world.trace next.trace
  stays : ∀ session, Stays world next session

theorem Aside.refl (world : World) : Aside world world where
  transactions := rfl
  asking := rfl
  asked := rfl
  waiting := rfl
  drained := rfl
  nextInvocation := rfl
  invocation _ := rfl
  session _ := rfl
  request _ := rfl
  cancelled _ uncancelled := uncancelled
  objects _ := ⟨rfl, rfl, rfl⟩
  sessions := List.Subset.refl _
  desktop := rfl
  nextSession := rfl
  trace := .refl _
  stays _ exported := ⟨exported, .refl _⟩

theorem Aside.trans {next last : World} (here : Aside world next)
    (there : Aside next last) : Aside world last where
  transactions := there.transactions.trans here.transactions
  asking := there.asking.trans here.asking
  asked := there.asked.trans here.asked
  waiting := there.waiting.trans here.waiting
  drained := there.drained.trans here.drained
  nextInvocation := there.nextInvocation.trans here.nextInvocation
  invocation id := (there.invocation id).trans (here.invocation id)
  session id := (there.session id).trans (here.session id)
  request id := (there.request id).trans (here.request id)
  cancelled id uncancelled :=
    here.cancelled id (there.cancelled id uncancelled)
  objects session :=
    ⟨(there.objects session).1.trans (here.objects session).1,
      (there.objects session).2.1.trans (here.objects session).2.1,
      (there.objects session).2.2.trans (here.objects session).2.2⟩
  sessions := List.Subset.trans there.sessions here.sessions
  desktop := there.desktop.trans here.desktop
  nextSession := there.nextSession.trans here.nextSession
  trace := here.trace.trans there.trace
  stays session exported := by
    rcases there.stays session exported with ⟨meanwhile, after⟩
    rcases here.stays session meanwhile with ⟨first, before⟩
    exact ⟨first, before.trans after⟩

/-- Something else is seen on the bus. -/
theorem Aside.emit {next : World} {event : Machine.Event}
    (aside : Aside world next) (plain : quiet event = true)
    (other : ∀ session, event ≠ .sessionUnexported session) :
    Aside world (next.emit event) :=
  { aside with
    trace := aside.trace.cons plain
    stays := fun session exported => by
      have stays := aside.stays session exported
      exact ⟨stays.1, stays.2.cons (other session)⟩ }

/-! ## Cancelled transactions -/

theorem desktop_cancel (core : Core) (id : Nat) (reason : XccCancelReason) :
    (xccRequestCancel core id reason).desktop = core.desktop := by
  rw [xccRequestCancel]
  split_ifs
  · rfl
  · rw [desktop_post, Context.Sessions.intend]
    split_ifs <;> rfl

theorem nextSession_post (core : Core) (post : Post) :
    (core.post post).nextSession = core.nextSession := by
  rw [Context.Requests.World.post]
  split_ifs <;> rfl

theorem nextSession_cancel (core : Core) (id : Nat)
    (reason : XccCancelReason) :
    (xccRequestCancel core id reason).nextSession = core.nextSession := by
  rw [xccRequestCancel]
  split_ifs
  · rfl
  · rw [nextSession_post, Context.Sessions.intend]
    split_ifs <;> rfl

theorem aside_cancelTransaction (code : String) (id : Nat) :
    Aside world (cancelTransaction code world id) := by
  have field {Value : Type} (field : Transaction → Value)
      (same : field { world.ledger id with cancelledCode := some code } =
        field (world.ledger id)) (other : Nat) :
      field ((cancelTransaction code world id).ledger other) =
        field (world.ledger other) := by
    show field (Function.update world.ledger id _ other) = _
    by_cases here : other = id
    · rw [here, Function.update_self, same]
    · rw [Function.update_of_ne here]
  exact
    { Aside.refl world with
      invocation := field Transaction.invocation rfl
      session := field Transaction.session rfl
      request := field Transaction.request rfl
      cancelled := fun other uncancelled => by
        change (Function.update world.ledger id _ other).cancelledCode = none
          at uncancelled
        by_cases here : other = id
        · rw [here, Function.update_self] at uncancelled
          cases uncancelled
        · rwa [Function.update_of_ne here] at uncancelled
      desktop := desktop_cancel world.core id _
      nextSession := nextSession_cancel world.core id _ }

theorem cancelTransaction_self (code : String) (id : Nat) :
    ((cancelTransaction code world id).ledger id).cancelledCode =
      some code := by
  show (Function.update world.ledger id _ id).cancelledCode = _
  rw [Function.update_self]

theorem Sound.cancelCore (sound : Sound owner generation world)
    (member : id ∈ world.transactions) (reason : XccCancelReason) :
    Sound owner generation
      { world with core := xccRequestCancel world.core id reason } := by
  have moves : Context.Machine.step world.core (.cancel id reason) =
      some (xccRequestCancel world.core id reason) :=
    if_pos (sound.live id member).born
  exact sound.drive moves rfl fun _ _ =>
    Context.Machine.Action.noConfusion

/-- The tables survive the cancellation of one live transaction. -/
theorem Sound.cancel (sound : Sound owner generation world)
    (code : String) (member : id ∈ world.transactions) :
    Sound owner generation (cancelTransaction code world id) := by
  have marked : Sound owner generation (world.setTransaction id
      { world.ledger id with cancelledCode := some code }) :=
    sound.setTransaction rfl fun fresh => absurd fresh (Option.some_ne_none _)
  exact marked.cancelCore member _

/-- What `cancel_transactions` does. -/
structure Cancels (world next : World) (owner : Option String)
    (generation : Nat) (session : Option Nat) : Prop where
  sound : Sound owner generation next
  aside : Aside world next
  sessions : next.sessions = world.sessions
  objects : next.objects = world.objects
  cancelled : ∀ id ∈ world.transactions,
    (∀ named, session = some named → (world.ledger id).session = named) →
      (next.ledger id).cancelledCode ≠ none

/-- Those that are cancelled leave the table of transactions, and the others
stay. -/
theorem Sound.cancels (sound : Sound owner generation world)
    (session : Option Nat) (code : String) :
    Cancels world (cancelTransactions world session code) owner generation
      session := by
  let holds (later : World) : Prop :=
    Sound owner generation later ∧ Aside world later ∧
      later.sessions = world.sessions ∧ later.objects = world.objects
  let doomed := world.transactions.filter fun id =>
    session.all fun session => (world.ledger id).session = session
  have cancels (indices : List Nat) (within : indices ⊆ world.transactions)
      (later : World) (here : holds later) :
      holds (indices.foldl (cancelTransaction code) later) ∧
        ∀ id, (later.ledger id).cancelledCode ≠ none ∨ id ∈ indices →
          ((indices.foldl (cancelTransaction code) later).ledger
            id).cancelledCode ≠ none := by
    induction indices generalizing later with
    | nil =>
        refine ⟨here, fun id cancelled => ?_⟩
        rcases cancelled with cancelled | member
        · exact cancelled
        · cases member
    | cons index rest ih =>
        rcases here with ⟨sound, aside, sessions, objects⟩
        have member : index ∈ later.transactions := by
          rw [aside.transactions]
          exact within (List.mem_cons_self ..)
        have step := @aside_cancelTransaction later code index
        have next := ih (List.Subset.trans (List.subset_cons_self ..) within)
          (cancelTransaction code later index)
          ⟨sound.cancel code member, aside.trans step, sessions,
            objects⟩
        refine ⟨next.1, fun id cancelled => next.2 id ?_⟩
        by_cases here : id = index
        · left
          rw [here, cancelTransaction_self]
          exact Option.some_ne_none _
        · refine cancelled.imp (fun cancelled back => ?_) fun member => ?_
          · exact cancelled (step.cancelled id back)
          · exact (List.mem_cons.mp member).resolve_left here
  have all := cancels doomed List.filter_sublist.subset world
    ⟨sound, .refl world, rfl, rfl⟩
  rcases all with ⟨⟨sound, aside, sessions, objects⟩, cancelled⟩
  refine ⟨sound, aside, sessions, objects, fun id member named => ?_⟩
  refine cancelled id (.inr (List.mem_filter.mpr ⟨member, ?_⟩))
  cases session with
  | none => rfl
  | some session => exact decide_eq_true (named session rfl)

/-! ## Sessions that are closed -/

theorem aside_sessionClose (session : Nat) :
    Aside world (certificateImplSessionClose world session) := by
  rw [certificateImplSessionClose]
  split_ifs
  · exact .refl world
  · exact
      { Aside.refl world with
        desktop := desktop_post ..
        nextSession := nextSession_post .. }

/-- The tables survive the close of a session. -/
theorem Sound.closes (sound : Sound owner generation world)
    (known : session < world.core.nextSession) :
    Sound owner generation (certificateImplSessionClose world session) := by
  rw [certificateImplSessionClose]
  split_ifs
  · exact sound
  · have moves : Context.Machine.step world.core (.sessionClose session) =
        some (world.core.post (.sessionCall session none)) := if_pos known
    exact sound.drive moves rfl fun _ _ =>
      Context.Machine.Action.noConfusion

theorem SameObject.hidden (object : CertificateImplSession) :
    SameObject object { object with exported := false } := ⟨rfl, rfl, rfl⟩

theorem aside_sessionUnexport (session : Nat) :
    Aside world (certificateImplSessionUnexport world session) := by
  rw [certificateImplSessionUnexport]
  split_ifs
  · exact
      { Aside.refl world with
        objects := fun other => by
          show SameObject _ (Function.update world.objects session _ other)
          by_cases here : other = session
          · rw [here, Function.update_self]
            exact .hidden _
          · rw [Function.update_of_ne here]
            exact ⟨rfl, rfl, rfl⟩
        trace := (Adds.refl _).cons rfl
        stays := fun other exported => by
          change (Function.update world.objects session _ other).exported =
            true at exported
          by_cases here : other = session
          · rw [here, Function.update_self] at exported
            cases exported
          · rw [Function.update_of_ne here] at exported
            refine ⟨exported, (Adds.refl _).cons fun same => ?_⟩
            exact here (Event.sessionUnexported.inj same).symm }
  · exact .refl world

/-- The tables survive a session that goes off the bus. -/
theorem Sound.unexports (sound : Sound owner generation world)
    (session : Nat) :
    Sound owner generation
      (certificateImplSessionUnexport world session) := by
  rw [certificateImplSessionUnexport]
  split_ifs
  · exact
      { sound.setObject (.hidden (world.objects session)) Bool.noConfusion
        with }
  · exact sound

theorem sessionUnexport_hidden (world : World) (session : Nat) :
    ((certificateImplSessionUnexport world session).objects
      session).exported = false := by
  rw [certificateImplSessionUnexport]
  split_ifs with exported
  · show (Function.update world.objects session _ session).exported = _
    rw [Function.update_self]
  · exact Bool.eq_false_iff.mpr exported

theorem sessionUnexport_exported {other : Nat}
    (exported : ((certificateImplSessionUnexport world session).objects
      other).exported = true) :
    other ≠ session ∧ (world.objects other).exported = true := by
  have apart : other ≠ session := by
    rintro rfl
    rw [sessionUnexport_hidden] at exported
    cases exported
  refine ⟨apart, ?_⟩
  rw [certificateImplSessionUnexport] at exported
  split_ifs at exported
  · change (Function.update world.objects session _ other).exported = true
      at exported
    rwa [Function.update_of_ne apart] at exported
  · exact exported

@[simp]
theorem sessions_sessionClose (world : World) (session : Nat) :
    (certificateImplSessionClose world session).sessions =
      world.sessions := by
  rw [certificateImplSessionClose]
  split_ifs <;> rfl

@[simp]
theorem objects_sessionClose (world : World) (session : Nat) :
    (certificateImplSessionClose world session).objects = world.objects := by
  rw [certificateImplSessionClose]
  split_ifs <;> rfl

@[simp]
theorem sessions_sessionUnexport (world : World) (session : Nat) :
    (certificateImplSessionUnexport world session).sessions =
      world.sessions := by
  rw [certificateImplSessionUnexport]
  split_ifs <;> rfl

theorem aside_removeSession (path : String) :
    Aside world (world.removeSession path) :=
  { Aside.refl world with sessions := List.filter_sublist.subset }

/-! ## A new owner -/

theorem sessions_cancelTransactions (world : World) (session : Option Nat)
    (code : String) :
    (cancelTransactions world session code).sessions = world.sessions := by
  rw [cancelTransactions]
  exact List.foldlRecOn (motive := fun later : World =>
    later.sessions = world.sessions) _ _ rfl fun _ here _ _ => here

theorem aside_cancelTransactions (session : Option Nat) (code : String) :
    Aside world (cancelTransactions world session code) := by
  rw [cancelTransactions]
  exact List.foldlRecOn _ _ (.refl world) fun _ here id _ =>
    here.trans (aside_cancelTransaction code id)

/-- A session is closed, with its transactions. -/
def retired (world : World) (session : Nat) (code : String) : World :=
  certificateImplSessionUnexport
    (certificateImplSessionClose
      (cancelTransactions world (some session) code) session) session

theorem aside_retired (session : Nat) (code : String) :
    Aside world (retired world session code) :=
  ((aside_cancelTransactions _ _).trans (aside_sessionClose session)).trans
    (aside_sessionUnexport session)

@[simp]
theorem sessions_retired (world : World) (session : Nat) (code : String) :
    (retired world session code).sessions = world.sessions := by
  rw [retired, sessions_sessionUnexport, sessions_sessionClose,
    sessions_cancelTransactions]

/-- A session leaves the bus and the table with its transactions. -/
theorem Sound.leave (sound : Sound owner generation world)
    (listed : Listed world session) (code : String) :
    Sound owner generation ((retired world session code).removeSession
      (world.objects session).id) := by
  have cancels := sound.cancels (some session) code
  let cancelled := cancelTransactions world (some session) code
  let closed := certificateImplSessionClose cancelled session
  have known : session < cancelled.core.nextSession := by
    have member : ((world.objects session).id, session) ∈
        cancelled.sessions := by
      rw [cancels.sessions]
      exact listed
    exact (cancels.sound.table _ session member).known
  have aside := (@aside_sessionClose cancelled session).trans
    (@aside_sessionUnexport closed session)
  refine ((cancels.sound.closes known).unexports session).remove
    (by exact sessionUnexport_hidden closed session) ?_ ?_
  · intro id member bound uncancelled
    rw [aside.transactions, cancels.aside.transactions] at member
    rw [aside.session, cancels.aside.session] at bound
    refine absurd (aside.cancelled id uncancelled) ?_
    refine cancels.cancelled id member fun named same => ?_
    rw [bound]
    exact Option.some.inj same
  · intro other member
    have there := aside.sessions member
    rw [cancels.sessions] at there
    exact sound.unique listed there

theorem aside_invalidateForeignSession (session : Nat) :
    Aside world (invalidateForeignSession world session) :=
  (aside_retired session _).trans (aside_removeSession _)

theorem mem_invalidateForeignSession {entry : String × Nat} :
    entry ∈ (invalidateForeignSession world session).sessions ↔
      entry ∈ world.sessions ∧ entry.1 ≠ (world.objects session).id := by
  show entry ∈ ((retired world session "owner_gone").removeSession
    _).sessions ↔ _
  rw [mem_removeSession, sessions_retired]

/-- What is left of a table when some of its sessions have left it. -/
structure Leaves (world next : World) (owner : Option String)
    (generation : Nat) (sessions : List Nat) : Prop where
  sound : Sound owner generation next
  aside : Aside world next
  gone : ∀ entry ∈ next.sessions, entry.2 ∉ sessions

theorem Sound.invalidatesAll (sessions : List Nat)
    (sound : Sound owner generation world)
    (listed : ∀ session ∈ sessions, Listed world session)
    (apart : sessions.Nodup) :
    Leaves world (sessions.foldl invalidateForeignSession world) owner
      generation sessions := by
  induction sessions generalizing world with
  | nil => exact ⟨sound, .refl world, fun _ _ => List.not_mem_nil⟩
  | cons session rest ih =>
      rcases List.nodup_cons.mp apart with ⟨fresh, apart⟩
      have here := listed session (List.mem_cons_self ..)
      have step := @aside_invalidateForeignSession world session
      have remain (other : Nat) (member : other ∈ rest) :
          Listed (invalidateForeignSession world session) other := by
        have there := listed other (List.mem_cons_of_mem _ member)
        rw [Listed, (step.objects other).1]
        refine mem_invalidateForeignSession.mpr ⟨there, fun same => ?_⟩
        change (world.objects other).id = (world.objects session).id at same
        rw [Listed, same] at there
        exact fresh (sound.unique here there ▸ member)
      have left := ih (sound.leave here "owner_gone") remain apart
      refine ⟨left.sound, step.trans left.aside, ?_⟩
      intro entry member
      have before := mem_invalidateForeignSession.mp
        (left.aside.sessions member)
      intro back
      rcases List.mem_cons.mp back with rfl | later
      · exact before.2 (sound.table entry.1 entry.2 before.1).id.symm
      · exact left.gone entry member later

/-- The sessions of another owner leave the table. -/
theorem Sound.invalidates (sound : Sound owner generation world)
    {next : Option String} (changed : owner ≠ next) :
    Leaves world (invalidateForeignSessions world next) owner generation
        (world.sessions.map Prod.snd) := by
  have all : (world.sessions.filter fun entry =>
      next ≠ some (world.objects entry.2).owner) = world.sessions := by
    refine List.filter_eq_self.mpr fun entry member => ?_
    have owned := (sound.table entry.1 entry.2 member).owner
    exact decide_eq_true fun same => changed (owned.trans same.symm)
  rw [invalidateForeignSessions, all]
  refine sound.invalidatesAll _ ?_ ?_
  · intro session member
    rcases List.mem_map.mp member with ⟨⟨path, other⟩, here, rfl⟩
    have named := (sound.table path other here).id
    rwa [Listed, named]
  · refine List.Nodup.of_map (fun session => (world.objects session).id) ?_
    rw [List.map_map]
    refine (List.map_congr_left fun entry member => ?_).symm ▸ sound.keys
    exact (sound.table entry.1 entry.2 member).id

/-! ## The frontend -/

/-- The owner that an event reports. -/
def ownerOf : Machine.Event → Option (Option String)
  | .ownerChanged owner => some owner
  | _ => none

/-- The owner that was recorded last. -/
def recordedOwner (trace : List Machine.Event) : Option String :=
  (trace.findSome? ownerOf).getD none

theorem recordedOwner_cons {event : Machine.Event}
    (other : ownerOf event = none) (trace : List Machine.Event) :
    recordedOwner (event :: trace) = recordedOwner trace := by
  rw [recordedOwner, List.findSome?_cons, other]
  rfl

/-- The frontend is the same. -/
structure SameFrontend (world next : World) : Prop where
  owner : next.frontendOwner = world.frontendOwner
  generation : next.ownerGeneration = world.ownerGeneration
  recorded : recordedOwner next.trace = recordedOwner world.trace

theorem SameFrontend.refl (world : World) : SameFrontend world world :=
  ⟨rfl, rfl, rfl⟩

theorem SameFrontend.trans {next last : World}
    (here : SameFrontend world next) (there : SameFrontend next last) :
    SameFrontend world last where
  owner := there.owner.trans here.owner
  generation := there.generation.trans here.generation
  recorded := there.recorded.trans here.recorded

theorem sameFrontend_cancelTransactions (session : Option Nat)
    (code : String) :
    SameFrontend world (cancelTransactions world session code) := by
  rw [cancelTransactions]
  refine List.foldlRecOn _ _ (.refl world) fun later here id _ => ?_
  exact here.trans ⟨rfl, rfl, rfl⟩

theorem sameFrontend_sessionClose (session : Nat) :
    SameFrontend world (certificateImplSessionClose world session) := by
  rw [certificateImplSessionClose]
  split_ifs
  · exact .refl world
  · exact ⟨rfl, rfl, rfl⟩

theorem sameFrontend_sessionUnexport (session : Nat) :
    SameFrontend world (certificateImplSessionUnexport world session) := by
  rw [certificateImplSessionUnexport]
  split_ifs
  · exact ⟨rfl, rfl, recordedOwner_cons rfl _⟩
  · exact .refl world

/-- The tables are those of the present owner. -/
structure Settled (world : World) : Prop where
  sound : Sound world.frontendOwner world.ownerGeneration world
  shown : Shown world
  recorded : recordedOwner world.trace = world.frontendOwner

/-- The tables stay settled while the frontend is the same. -/
theorem Settled.same {next : World} (settled : Settled world)
    (same : SameFrontend world next)
    (sound : Sound world.frontendOwner world.ownerGeneration next)
    (shown : Shown next) : Settled next where
  sound := by
    rw [same.owner, same.generation]
    exact sound
  shown := shown
  recorded := (same.recorded.trans settled.recorded).trans same.owner.symm

/-- The owner may be another one afterwards. -/
structure Resolves (world next : World) : Prop where
  settled : Settled next
  aside : Aside world next

theorem Resolves.trans {next last : World} (here : Resolves world next)
    (there : Resolves next last) : Resolves world last :=
  ⟨there.settled, here.aside.trans there.aside⟩

/-- An empty table is that of any owner. -/
theorem Sound.rebase (sound : Sound owner generation world)
    (empty : world.sessions = []) (other : Option String) (value : Nat) :
    Sound other value world :=
  { sound with
    table := fun path session member => by
      rw [empty] at member
      cases member }

theorem frontendOwner_setFrontendOwner (world : World)
    (owner : Option String) :
    (setFrontendOwner world owner).frontendOwner = owner := by
  rw [setFrontendOwner]
  split_ifs with same
  · exact same
  · rfl

theorem setFrontendOwner_same (same : world.frontendOwner = owner) :
    setFrontendOwner world owner = world := if_pos same

theorem Settled.renames (settled : Settled world)
    (owner : Option String) :
    Resolves world (setFrontendOwner world owner) := by
  rw [setFrontendOwner]
  split_ifs with same
  · exact ⟨settled, .refl world⟩
  · let value := world.ownerGeneration + 1
    let core := world.core.post (.generation value)
    let fenced := { world with ownerGeneration := value, core }
    have moves : Context.Machine.step world.core
        (.setOwnerGeneration value) = some core := rfl
    have sound : Sound world.frontendOwner world.ownerGeneration fenced :=
      { settled.sound.drive moves rfl fun _ _ =>
          Context.Machine.Action.noConfusion with }
    have left := sound.invalidates same
    have before : Aside world fenced :=
      { Aside.refl world with
        desktop := desktop_post ..
        nextSession := nextSession_post .. }
    have aside := before.trans left.aside
    have told : Aside world ((invalidateForeignSessions fenced owner).emit
        (.ownerChanged owner)) := aside.emit rfl fun _ => Event.noConfusion
    have empty : (invalidateForeignSessions fenced owner).sessions = [] := by
      refine List.eq_nil_iff_forall_not_mem.mpr fun entry member => ?_
      exact left.gone entry member
        (List.mem_map_of_mem (left.aside.sessions member))
    refine ⟨⟨{ left.sound.rebase empty owner _ with }, ?_, rfl⟩,
      { told with }⟩
    intro entry member
    change entry ∈ (invalidateForeignSessions fenced owner).sessions at member
    rw [empty] at member
    cases member

/-- Whoever the bus names as the owner, the tables end up as those of the
owner recorded. -/
theorem Settled.resolve (settled : Settled world) (reply : Option String) :
    Resolves world (resolveFrontendOwner world reply) := by
  let asked := { world with ownerResolved := true }.emit (.lookedUp reply)
  have begun : Settled asked :=
    ⟨{ settled.sound with }, settled.shown, settled.recorded⟩
  have resolves := begun.renames reply
  have told : Aside world (world.emit (.lookedUp reply)) :=
    (Aside.refl world).emit rfl fun _ => Event.noConfusion
  have before : Aside world asked :=
    { told with }
  exact ⟨resolves.settled, before.trans resolves.aside⟩

/-- A sender that passes is the owner that the last lookup has named. -/
structure Confirmed (world : World) (sender : String) : Prop where
  owner : world.frontendOwner = some sender
  named : ∃ before, world.trace = .lookedUp (some sender) :: before

/-- The check of a sender settles the tables first, and a sender that passes
is the owner just named. -/
theorem Settled.sender (settled : Settled world) (sender : String)
    (lookups : Lookups) :
    Resolves world
        (certificateImplSenderIsFrontend world sender lookups).2 ∧
      ((certificateImplSenderIsFrontend world sender lookups).1 = true →
        Confirmed (certificateImplSenderIsFrontend world sender lookups).2
          sender) := by
  have first : Resolves world (ownerKnown world lookups.initial) := by
    rw [ownerKnown]
    split_ifs
    · exact ⟨settled, .refl world⟩
    · exact settled.resolve lookups.initial
  rw [certificateImplSenderIsFrontend]
  generalize ownerKnown world lookups.initial = known at first ⊢
  dsimp only
  split_ifs with stranger
  · exact ⟨first, False.elim⟩
  · have second := first.settled.resolve lookups.confirming
    refine ⟨first.trans second, fun accepted => ?_⟩
    have cached : known.frontendOwner = some sender := not_not.mp stranger
    have named := of_decide_eq_true accepted
    have reply : lookups.confirming = some sender :=
      (frontendOwner_setFrontendOwner ..).symm.trans named
    refine ⟨named, known.trace, ?_⟩
    show (resolveFrontendOwner known lookups.confirming).trace = _
    rw [resolveFrontendOwner,
      setFrontendOwner_same (by exact cached.trans reply.symm), reply]
    rfl

/-! ## Sessions that are given up -/

theorem aside_closeAndUnexport (session : Nat) :
    Aside world (closeAndUnexport world session) :=
  (aside_sessionClose session).trans (aside_sessionUnexport session)

@[simp]
theorem sessions_closeAndUnexport (world : World) (session : Nat) :
    (closeAndUnexport world session).sessions = world.sessions := by
  rw [closeAndUnexport, sessions_sessionUnexport, sessions_sessionClose]

theorem closeAndUnexport_exported {other : Nat}
    (exported : ((closeAndUnexport world session).objects other).exported =
      true) :
    other ≠ session ∧ (world.objects other).exported = true := by
  have before := sessionUnexport_exported exported
  rwa [objects_sessionClose] at before

/-- Every session of a list is closed and off the bus in the end, and the
tables stay sound. -/
theorem Sound.closesAll (sessions : List Nat)
    (sound : Sound owner generation world)
    (known : ∀ session ∈ sessions, session < world.core.nextSession) :
    Sound owner generation (sessions.foldl closeAndUnexport world) ∧
      Aside world (sessions.foldl closeAndUnexport world) ∧
      ∀ other, ((sessions.foldl closeAndUnexport world).objects
          other).exported = true →
        other ∉ sessions ∧ (world.objects other).exported = true := by
  induction sessions generalizing world with
  | nil =>
      exact ⟨sound, .refl world,
        fun _ exported => ⟨List.not_mem_nil, exported⟩⟩
  | cons session rest ih =>
      have here := known session (List.mem_cons_self ..)
      have step := (sound.closes here).unexports session
      have later := ih step fun other member =>
        (known other (List.mem_cons_of_mem _ member)).trans_eq
          (aside_closeAndUnexport session).nextSession.symm
      refine ⟨later.1, (aside_closeAndUnexport session).trans later.2.1, ?_⟩
      intro other exported
      have after := later.2.2 other exported
      have before := closeAndUnexport_exported after.2
      refine ⟨fun member => ?_, before.2⟩
      exact (List.mem_cons.mp member).elim before.1 after.1

theorem closeAndForgetAll_empty (empty : world.sessions = []) :
    closeAndForgetAll world = world := by
  rw [closeAndForgetAll, empty]
  cases world
  cases empty
  rfl

/-- Forgetting an owner gives up its sessions and transactions only. -/
theorem aside_closeAndForgetAll : Aside world (closeAndForgetAll world) := by
  have closes : Aside world
      ((world.sessions.map Prod.snd).foldl closeAndUnexport world) :=
    List.foldlRecOn _ _ (.refl world) fun _ here session _ =>
      here.trans (aside_closeAndUnexport session)
  exact { closes with sessions := List.nil_subset _ }

/-- All sessions are given up at the end. -/
theorem Sound.forgetsAll (sound : Sound owner generation world) :
    Sound owner generation
      { closeAndForgetAll world with drained := true } := by
  have closes := sound.closesAll (world.sessions.map Prod.snd) (by
    intro session member
    rcases List.mem_map.mp member with ⟨⟨path, other⟩, here, rfl⟩
    exact (sound.table path other here).known)
  rcases closes with ⟨closed, aside, hidden⟩
  exact
    { closed with
      table := fun _ _ member => absurd member List.not_mem_nil
      keys := List.nodup_nil
      shown := fun session exported => by
        have left := hidden session exported
        have listed := sound.shown session left.2
        exact absurd (List.mem_map_of_mem listed) left.1
      wanted := Bool.noConfusion }

/-- The tables are settled after an owner has appeared. -/
theorem Settled.appeared (settled : Settled world) (owner : String) :
    Resolves world (onFrontendAppeared world owner) := by
  have resolves := settled.renames (some owner)
  exact
    { settled := ⟨{ resolves.settled.sound with }, resolves.settled.shown,
        resolves.settled.recorded⟩
      aside := { resolves.aside with } }

theorem empty_of_ownerless (sound : Sound none generation world) :
    world.sessions = [] := by
  refine List.eq_nil_iff_forall_not_mem.mpr fun entry member => ?_
  have owned := (sound.table entry.1 entry.2 member).owner
  cases owned

/-- The tables are settled after the owner has vanished. -/
theorem Settled.vanished (settled : Settled world) :
    Resolves world (onFrontendVanished world) := by
  let gone :=
    { setFrontendOwner world none with ownerResolved := true }
  have resolves := settled.renames none
  have ownerless : Sound none gone.ownerGeneration gone := by
    have named := frontendOwner_setFrontendOwner world none
    have sound := resolves.settled.sound
    rw [named] at sound
    exact { sound with }
  have empty := empty_of_ownerless ownerless
  have cancels := ownerless.cancels none "owner_gone"
  have before : Aside world gone := { resolves.aside with }
  rw [onFrontendVanished, closeAndForgetAll_empty empty]
  refine ⟨⟨cancels.sound.rebase (cancels.sessions.trans empty) _ _,
    ?_, ?_⟩, before.trans cancels.aside⟩
  · intro entry member
    rw [cancels.sessions, empty] at member
    cases member
  · have same := @sameFrontend_cancelTransactions gone none "owner_gone"
    rw [same.recorded, same.owner]
    exact resolves.settled.recorded

end PortalCertificate.Adapter.Tables
