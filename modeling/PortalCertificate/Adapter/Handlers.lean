import PortalCertificate.Adapter.Calls

/-!
# The handlers of the adapter

What holds between two actions of the adapter, and that every handler keeps
it.  A handler has its call in hand until it answers, waits, or makes a
transaction of it.
-/

namespace PortalCertificate.Adapter.Handlers

open PortalCertificate.Adapter.Calls
open PortalCertificate.Adapter.Machine
open PortalCertificate.Adapter.Options
open PortalCertificate.Adapter.Responses
open PortalCertificate.Adapter.Tables
open PortalCertificate.Context.Clients
open PortalCertificate.Context.Fencing (fenced_of_reachable)
open PortalCertificate.Context.Machine
  (acquireAsync signAsync getCapabilitiesAsync xccRequestCancel)
open PortalCertificate.Context.Requests hiding World Event sessionAbsent
open PortalCertificate.Context.Sessions
open PortalCertificate.Core.Coordinator (XccErrorCode)
open PortalCertificate.Core.Principals
open PortalCertificate.Glib
open PortalCertificate.Library.Trace
open PortalCertificate.Library.Transition

variable {world next : World} {invocation session id : Nat}
  {sender path appId : String} {method : Method}

/-! ## Between two actions -/

/-- A new core session, which nothing of the adapter refers to. -/
structure Unused (world : World) (session : Nat) : Prop where
  known : session < world.core.nextSession
  generation : (world.core.sessions session).ownerGeneration =
    world.ownerGeneration
  entries : ∀ entry ∈ world.sessions, entry.2 ≠ session
  transactions : ∀ id ∈ world.transactions,
    (world.ledger id).session ≠ session

/-- What a handler that waits has found before, and still finds. -/
def Found (world : World) : Waiting → Prop
  | .creating _ sender path appId spec _ made =>
      world.frontendOwner = some sender ∧
        spec = sessionSpec world.ownerGeneration appId ∧
        (∀ entry ∈ world.sessions, entry.1 ≠ path) ∧
        ∀ session, made = some (some session) → Unused world session
  | .checking _ sender session arguments _ _ _ _ =>
      world.frontendOwner = some sender ∧ Listed world session ∧
        (world.objects session).appId = arguments.appId

/-- A handler that waits will be told: its post has not been lost. -/
structure Expected (world : World) (waiting : Waiting) : Prop where
  found : Found world waiting
  posted : ∀ post, waiting.post = some post → post ∈ world.core.posts

theorem expected_idle (idle : world.waiting = none) (waiting : Waiting)
    (there : world.waiting = some waiting) : Expected world waiting := by
  rw [idle] at there
  cases there

/-- What holds between two calls of the adapter: the waiting handler, the
books and the calls to come. -/
structure Good (world : World) : Prop where
  settled : Settled world
  booked : Booked none world
  expected : ∀ waiting, world.waiting = some waiting →
    Expected world waiting

/-- A handler has the call of its sender, who is the owner, in hand. -/
structure Handling
    (world : World) (invocation : Nat) (sender : String) (method : Method) :
    Prop where
  settled : Settled world
  booked : Booked (some invocation) world
  idle : world.waiting = none
  owner : world.frontendOwner = some sender
  authorized : Authorized world.trace invocation sender
  received : .received invocation ⟨sender, method⟩ ∈ world.trace

theorem settled_emit {event : Machine.Event} (settled : Settled world)
    (other : ownerOf event = none) : Settled (world.emit event) where
  sound := { settled.sound with }
  shown := settled.shown
  recorded := (recordedOwner_cons other _).trans settled.recorded

/-- The sender of a call in hand is the owner recorded last. -/
theorem Handling.recorded (handling : Handling world invocation sender method) :
    recordedOwner world.trace = some sender :=
  handling.settled.recorded.trans handling.owner

/-! ## Answers -/

/-- A call in hand may be answered with anything but a success. -/
theorem Handling.answers
    (handling : Handling world invocation sender method) {reply : Reply}
    (plain : ∀ results, reply ≠ .answer ⟨responseSuccess, results⟩) :
    Good (world.answer invocation reply) where
  settled := settled_emit handling.settled rfl
  booked := handling.booked.answers handling.received
    ⟨.inr handling.authorized, fun results same =>
      absurd same (plain results)⟩
  expected := expected_idle (by exact handling.idle)

theorem Handling.refuses
    (handling : Handling world invocation sender method) (code : String) :
    Good (world.answer invocation (.answer (refusal code))) := by
  refine handling.answers fun results same => ?_
  have response := congrArg Answer.response (Reply.answer.inj same)
  cases response

/-! ## What a handler takes back -/

/-- The owner stays, and sessions and transactions are given up at most. -/
structure Withdraws (world next : World) : Prop where
  settled : Settled next
  aside : Aside world next
  owner : next.frontendOwner = world.frontendOwner

theorem Handling.withdraws
    (handling : Handling world invocation sender method)
    (withdraws : Withdraws world next) :
    Handling next invocation sender method where
  settled := withdraws.settled
  booked := handling.booked.aside withdraws.aside
  idle := withdraws.aside.waiting.trans handling.idle
  owner := withdraws.owner.trans handling.owner
  authorized := handling.authorized.later withdraws.aside.trace
  received := withdraws.aside.trace.subset handling.received

theorem core_sessionUnexport (world : World) (session : Nat) :
    (certificateImplSessionUnexport world session).core = world.core := by
  rw [certificateImplSessionUnexport]
  split_ifs <;> rfl

theorem objects_sessionUnexport {other : Nat} (apart : other ≠ session) :
    (certificateImplSessionUnexport world session).objects other =
      world.objects other := by
  rw [certificateImplSessionUnexport]
  split_ifs
  · exact Function.update_of_ne apart ..
  · rfl

theorem closeAndUnexport_closed
    (closed : (world.core.sessions session).closed = true) :
    closeAndUnexport world session =
      certificateImplSessionUnexport world session := by
  rw [closeAndUnexport, certificateImplSessionClose, if_pos closed]

theorem shown_remove (settled : Settled world)
    (objects : ∀ other, other ≠ session →
      next.objects other = world.objects other)
    (sessions : next.sessions = world.sessions)
    (apart : ∀ entry ∈ world.sessions, entry.1 ≠ path →
      entry.2 ≠ session) : Shown (next.removeSession path) := by
  intro entry member
  rcases mem_removeSession.mp member with ⟨here, other⟩
  rw [sessions] at here
  show (next.objects entry.2).exported = true
  rw [objects _ (apart entry here other)]
  exact settled.shown entry here

/-- A session of the table that has ended is dropped. -/
theorem withdraws_drop (settled : Settled world)
    (member : (path, session) ∈ world.sessions)
    (closed : (world.core.sessions session).closed = true)
    (idle : world.core.desktop = .idle) :
    Withdraws world
      ((closeAndUnexport world session).removeSession path) := by
  have aside := @aside_sessionUnexport world session
  have same := @sameFrontend_sessionUnexport world session
  rw [closeAndUnexport_closed closed]
  refine ⟨settled.same ⟨same.owner, same.generation, same.recorded⟩ ?_ ?_,
    aside.trans (aside_removeSession path), same.owner⟩
  · refine (settled.sound.unexports session).remove
      (sessionUnexport_hidden world session) ?_ ?_
    · intro id there bound _
      rw [aside.transactions] at there
      rw [aside.session] at bound
      have live := settled.sound.live id there
      rw [core_sessionUnexport]
      refine ⟨closed, ?_⟩
      refine ((fenced_of_reachable settled.sound.core).ended id session
        (live.bound.trans (congrArg some bound)) closed).resolve_right ?_
      rw [idle]
      exact Nat.zero_ne_one
    · intro other there
      rw [sessions_sessionUnexport] at there
      exact settled.sound.unique member there
  · refine shown_remove settled (fun _ => objects_sessionUnexport)
      (sessions_sessionUnexport ..) fun entry here other same => other ?_
    rw [← (settled.sound.table _ _ here).id, same,
      (settled.sound.table _ _ member).id]

theorem mem_of_lookup {entries : List (String × Nat)}
    (found : entries.lookup path = some session) :
    (path, session) ∈ entries := by
  rcases List.lookup_eq_some_iff.mp found with ⟨before, after, rfl, -⟩
  exact List.mem_append_right _ (List.mem_cons_self ..)

theorem lookup_listed (settled : Settled world)
    (listed : Listed world session) :
    world.sessions.lookup (world.objects session).id = some session := by
  cases found : world.sessions.lookup (world.objects session).id with
  | none =>
      have absent := List.lookup_eq_none_iff.mp found _ listed
      rw [bne_self_eq_false] at absent
      cases absent
  | some other =>
      rw [settled.sound.unique listed (mem_of_lookup found)]

/-- A session is forgotten, whether it is in the table or not. -/
theorem withdraws_forget (settled : Settled world)
    (known : session < world.core.nextSession) :
    Withdraws world
      (certificateImplSessionForget
        (certificateImplSessionClose world session) session) := by
  let closed := certificateImplSessionClose world session
  let cancelled :=
    cancelTransactions closed (some session) "no_such_session"
  let hidden := certificateImplSessionUnexport cancelled session
  let path := (world.objects session).id
  have cancels := (settled.sound.closes known).cancels (some session)
    "no_such_session"
  have sound := cancels.sound.unexports session
  have first : Aside world cancelled :=
    (aside_sessionClose session).trans cancels.aside
  have aside : Aside world hidden :=
    first.trans (aside_sessionUnexport session)
  have same : SameFrontend world hidden :=
    ((sameFrontend_sessionClose session).trans
      (sameFrontend_cancelTransactions ..)).trans
        (sameFrontend_sessionUnexport session)
  have sessions : hidden.sessions = world.sessions := by
    rw [sessions_sessionUnexport, cancels.sessions, sessions_sessionClose]
  have objects (other : Nat) (apart : other ≠ session) :
      hidden.objects other = world.objects other := by
    rw [objects_sessionUnexport apart, cancels.objects, objects_sessionClose]
  have named : (closed.objects session).id = path := by
    rw [objects_sessionClose]
  rw [certificateImplSessionForget]
  show Withdraws world (if hidden.sessions.lookup (closed.objects session).id =
    some session then hidden.removeSession (closed.objects session).id
      else hidden)
  rw [named, sessions]
  split_ifs with listed
  · have member := mem_of_lookup listed
    refine ⟨settled.same ⟨same.owner, same.generation, same.recorded⟩
      ?_ ?_, aside.trans (aside_removeSession path), same.owner⟩
    · refine sound.remove (sessionUnexport_hidden cancelled session) ?_ ?_
      · intro id there bound uncancelled
        rw [aside.transactions] at there
        rw [aside.session] at bound
        refine absurd ((aside_sessionUnexport session).cancelled id
          uncancelled) (cancels.cancelled id ?_ fun named same => ?_)
        · rw [(aside_sessionClose session).transactions]
          exact there
        · rw [(aside_sessionClose session).session, bound]
          exact Option.some.inj same
      · intro other there
        rw [sessions] at there
        exact settled.sound.unique member there
    · refine shown_remove settled objects sessions
        fun entry here other same => other ?_
      rw [← (settled.sound.table _ _ here).id, same]
  · refine ⟨settled.same same sound ?_, aside, same.owner⟩
    intro entry member
    rw [sessions] at member
    have apart : entry.2 ≠ session := by
      rintro rfl
      refine listed (lookup_listed settled ?_)
      rwa [Listed, (settled.sound.table _ _ member).id]
    rw [objects _ apart]
    exact settled.shown entry member

/-! ## CreateSession -/

theorem mem_post {core : Core} (running : core.ui.shutdownPosted = false)
    (post : Post) : post ∈ (core.post post).posts := by
  rw [Context.Requests.World.post, running]
  exact List.mem_append_right _ (List.mem_singleton_self _)

/-- A session may be opened at a path that is free, whether or not its object
can be exported. -/
theorem Handling.starts
    (handling : Handling world invocation sender method) {handle : String}
    (named : method = .createSession handle path appId)
    (free : ∀ entry ∈ world.sessions, entry.1 ≠ path) (bus : Bus) :
    Good (startSession world invocation sender path appId bus) := by
  let shown := (world.emit (.requestExported invocation)).emit
    (.requestUnexported invocation)
  have adds : Adds (fun _ => True) world.trace shown.trace :=
    ((Adds.refl _).cons trivial).cons trivial
  have brief : Handling shown invocation sender method :=
    { settled := settled_emit (settled_emit handling.settled rfl) rfl
      booked := handling.booked.shows invocation
      idle := handling.idle
      owner := handling.owner
      authorized := handling.authorized.later adds
      received := adds.subset handling.received }
  let spec := sessionSpec world.ownerGeneration appId
  let core := shown.core.post (.sessionNewRegister spec)
  rw [startSession]
  split_ifs
  · exact handling.refuses "invalid_request"
  · exact brief.refuses "no_such_session"
  · rename_i running
    have moves : Context.Machine.step shown.core (.sessionNew spec) =
        some core := by
      rw [Context.Machine.step]
      exact if_neg (by simp [sessionSpecRefused, spec, sessionSpec])
    refine ⟨⟨{ brief.settled.sound.drive moves rfl fun _ _ =>
        Context.Machine.Action.noConfusion with }, brief.settled.shown,
        brief.settled.recorded⟩, ?_, ?_⟩
    · have awaited : Awaited shown (.creating invocation sender path appId
          spec bus.sessionExports none) :=
        ⟨brief.authorized, handle, named ▸ brief.received⟩
      exact brief.booked.waits brief.idle rfl awaited core
    · intro waiting there
      cases Option.some.inj there
      refine ⟨⟨brief.owner, rfl, free, fun _ none => by cases none⟩, ?_⟩
      intro post same
      cases same
      exact mem_post (Bool.eq_false_iff.mpr running) _

/-- `CreateSession` keeps everything in order. -/
theorem Handling.creates
    (handling : Handling world invocation sender method) {handle : String}
    (named : method = .createSession handle path appId)
    (quiet : world.core.desktop = .idle) (bus : Bus) :
    Good (handleCreateSession world invocation sender path appId bus) := by
  rw [handleCreateSession]
  split
  · rename_i absent
    refine handling.starts named ?_ bus
    rintro entry member rfl
    have apart := List.lookup_eq_none_iff.mp absent _ member
    rw [bne_self_eq_false] at apart
    cases apart
  · rename_i existing found
    dsimp only
    split_ifs with closed
    · have dropped := handling.withdraws (withdraws_drop handling.settled
        (mem_of_lookup found) closed quiet)
      refine dropped.starts named ?_ bus
      exact fun entry member => (mem_removeSession.mp member).2
    · exact handling.refuses "invalid_request"

/-- The new session is entered. -/
theorem Handling.opens
    (handling : Handling world invocation sender method) {handle : String}
    (named : method = .createSession handle path appId)
    (free : ∀ entry ∈ world.sessions, entry.1 ≠ path)
    (unused : Unused world session) :
    Good (({ (world.setObject session
          ⟨path, appId, sender, true, false⟩).emit
        (.sessionExported session path) with
      sessions := (path, session) :: world.sessions }).answer invocation
        (.answer ⟨responseSuccess, emptyResults⟩)) := by
  let object : CertificateImplSession := ⟨path, appId, sender, true, false⟩
  let objects := Function.update world.objects session object
  have self : objects session = object := Function.update_self ..
  have others (other : Nat) (apart : other ≠ session) :
      objects other = world.objects other := Function.update_of_ne apart ..
  have settled := handling.settled
  refine ⟨⟨?_, ?_, ?_⟩, ?_, expected_idle (by exact handling.idle)⟩
  · refine
      { settled.sound with
        table := fun path' other member => ?_
        keys := List.nodup_cons.mpr ⟨fun member => ?_, settled.sound.keys⟩
        shown := fun other exported => ?_
        wanted := fun runs id member uncancelled => ?_ }
    · show Registered world.core world.frontendOwner world.ownerGeneration
        (objects other) path' other
      rcases List.mem_cons.mp member with same | member
      · cases same
        rw [self]
        exact ⟨rfl, handling.owner, unused.known, unused.generation⟩
      · rw [others other (unused.entries _ member)]
        exact settled.sound.table path' other member
    · rcases List.mem_map.mp member with ⟨entry, there, same⟩
      exact free entry there same
    · change (objects other).exported = true at exported
      show ((objects other).id, other) ∈ (path, session) :: world.sessions
      by_cases same : other = session
      · rw [same, self]
        exact List.mem_cons_self ..
      · rw [others other same] at exported ⊢
        exact List.mem_cons_of_mem _ (settled.sound.shown other exported)
    · show ((objects (world.ledger id).session).id,
        (world.ledger id).session) ∈ (path, session) :: world.sessions ∨ _
      rw [others _ (unused.transactions id member)]
      exact (settled.sound.wanted runs id member uncancelled).imp_left
        (List.mem_cons_of_mem _)
  · intro entry member
    show (objects entry.2).exported = true
    rcases List.mem_cons.mp member with rfl | member
    · rw [self]
    · rw [others _ (unused.entries entry member)]
      exact settled.shown entry member
  · exact settled.recorded
  · have received := handling.received
    rw [named] at received
    exact handling.booked.opens received handling.authorized
      handling.recorded unused.entries unused.transactions handling.idle

/-- What is left of `CreateSession` after the export keeps everything in
order. -/
theorem Handling.finishes
    (handling : Handling world invocation sender method) {handle : String}
    (named : method = .createSession handle path appId)
    (free : ∀ entry ∈ world.sessions, entry.1 ≠ path) {made : Option Nat}
    (unused : ∀ session, made = some session → Unused world session)
    (sessionExports : Bool) :
    Good (finishSession world made invocation sender path appId
      sessionExports) := by
  cases made with
  | none => exact handling.refuses "no_such_session"
  | some session =>
      rw [finishSession]
      split_ifs
      · exact handling.refuses "invalid_request"
      · exact handling.opens named free (unused session rfl)

/-! ## Acquisitions and signatures -/

/-- A session of the table that a call is for. -/
structure Serves
    (world : World) (invocation session : Nat) (appId : String) :
    Prop where
  listed : Listed world session
  appId : (world.objects session).appId = appId
  placed : Placed world.trace invocation (world.objects session)
  serving : Serving world invocation session

/-- The session that is looked up for a call serves it. -/
theorem Handling.serves
    (handling : Handling world invocation sender method)
    (present : ∀ session, Serving world invocation session)
    (names : method.names = some (path, appId))
    (found : lookupSession world path appId = some session) :
    Serves world invocation session appId := by
  rw [lookupSession, Option.filter_eq_some_iff, Bool.and_eq_true,
    decide_eq_true_eq] at found
  rcases found with ⟨found, -, same⟩
  have member := mem_of_lookup found
  have registered := handling.settled.sound.table _ _ member
  have owner : (world.objects session).owner = sender :=
    Option.some.inj (registered.owner.symm.trans handling.owner)
  refine ⟨?_, same, ⟨?_, ?_, ?_⟩, present session⟩
  · rwa [Listed, registered.id]
  · refine ⟨method, ?_, ?_⟩
    · rw [owner]
      exact handling.received
    · rw [names, registered.id, same]
  · rw [owner]
    exact handling.authorized
  · exact handling.booked.opened _ member

/-- A request that the context has accepted is entered and exported. -/
theorem Handling.registers
    (handling : Handling world invocation sender method)
    {arguments : Arguments} {asks : Core → Core} {kind : XccResultKind}
    (serves : Serves world invocation session arguments.appId)
    (requested : Requested world.core (asks world.core) kind (some session))
    (plain : kind ≠ .capabilities) :
    Good (register world invocation sender session arguments asks) := by
  let exported := world.emit (.requestExported invocation)
  have settled : Settled exported := settled_emit handling.settled rfl
  refine ⟨⟨?_, settled.shown, settled.recorded⟩, ?_,
    expected_idle (by exact handling.idle)⟩
  · exact
      { settled.sound.registers (by exact requested) plain
          (by exact serves.listed) with }
  · exact handling.booked.registers handling.settled.sound.fresh.1 rfl rfl
      serves.placed serves.serving (asks world.core)

/-- What is left of `AcquireCredential` after the validation keeps everything
in order. -/
theorem Handling.finishesAcquire
    (handling : Handling world invocation sender method)
    {arguments : Arguments}
    (serves : Serves world invocation session arguments.appId)
    (verdict : XccErrorCode) (options : Vardict) (requestExports : Bool) :
    Good (finishAcquire world verdict invocation sender session arguments
      options requestExports) := by
  have known := (handling.settled.sound.table _ _ serves.listed).known
  rw [finishAcquire]
  split
  · exact handling.refuses _
  · split_ifs
    · exact handling.refuses "invalid_request"
    · refine handling.registers serves (requested_acquire known _) ?_
      exact XccResultKind.noConfusion

/-- `AcquireCredential` keeps everything in order. -/
theorem Handling.acquires
    (handling : Handling world invocation sender method)
    (present : ∀ session, Serving world invocation session)
    {arguments : Arguments}
    (names : method.names = some (path, arguments.appId))
    (options : Vardict) (bus : Bus) :
    Good (handleAcquireCredential world invocation sender path arguments
      options bus) := by
  rw [handleAcquireCredential]
  split
  · exact handling.refuses "no_such_session"
  · rename_i session found
    have serves := handling.serves present names found
    have known := (handling.settled.sound.table _ _ serves.listed).known
    split
    · exact handling.refuses _
    · rename_i principal _
      split_ifs with running
      · exact handling.refuses _
      · have settled := handling.settled
        have moves : Context.Machine.step world.core
            (.checkPrincipal session principal) =
              some (world.core.post (.principalCheck session principal)) :=
          if_pos known
        refine ⟨⟨{ settled.sound.drive moves rfl fun _ _ =>
            Context.Machine.Action.noConfusion with }, settled.shown,
            settled.recorded⟩, ?_, ?_⟩
        · have awaited : Awaited world (.checking invocation sender session
              arguments options principal bus.requestExports none) :=
            ⟨serves.placed, serves.serving⟩
          exact handling.booked.waits handling.idle rfl awaited _
        · intro waiting there
          cases Option.some.inj there
          refine ⟨⟨handling.owner, serves.listed, serves.appId⟩, ?_⟩
          intro post same
          cases same
          exact mem_post (Bool.eq_false_iff.mpr running) _

/-- `Sign` and `Decrypt` keep everything in order. -/
theorem Handling.operates
    (handling : Handling world invocation sender method)
    (present : ∀ session, Serving world invocation session)
    {arguments : Arguments}
    (names : method.names = some (path, arguments.appId))
    (options : Vardict) (bus : Bus) :
    Good (handleKeyOperation world invocation sender path arguments options
      bus) := by
  rw [handleKeyOperation]
  split
  · exact handling.refuses "no_such_session"
  · rename_i session found
    have serves := handling.serves present names found
    have known := (handling.settled.sound.table _ _ serves.listed).known
    split
    · exact handling.refuses "invalid_request"
    · split_ifs
      · exact handling.refuses "invalid_request"
      · refine handling.registers serves (requested_sign known _ _) ?_
        exact XccResultKind.noConfusion

/-- `GetCapabilities` keeps everything in order. -/
theorem Handling.inquires
    (handling : Handling world invocation sender .getCapabilities) :
    Good (handleGetCapabilities world invocation) := by
  have settled := handling.settled
  refine ⟨⟨{ settled.sound.inquires requested_capabilities with },
    settled.shown, settled.recorded⟩, ?_,
    expected_idle (by exact handling.idle)⟩
  exact handling.booked.asking settled.sound.fresh.2 handling.received
    handling.authorized _

/-! ## Close -/

/-- `Close` of a session keeps everything in order. -/
theorem Handling.closesSession
    (handling : Handling world invocation sender method)
    (known : session < world.core.nextSession) :
    Good (handleCloseSession world invocation session) := by
  have forgets := withdraws_forget handling.settled known
  exact (handling.withdraws forgets).answers fun _ => Reply.noConfusion

theorem settled_requestUnexport (settled : Settled world) (id : Nat) :
    Settled (certificateImplRequestUnexport world id) := by
  rw [certificateImplRequestUnexport]
  split_ifs
  · refine settled_emit ⟨?_, settled.shown, settled.recorded⟩ rfl
    exact settled.sound.setTransaction rfl fun uncancelled => uncancelled
  · exact settled

/-- `Close` of a request keeps everything in order. -/
theorem Handling.closesRequest
    (handling : Handling world invocation sender method)
    (member : id ∈ world.transactions) :
    Good (handleCloseRequest world invocation id) := by
  let cancelled : World :=
    { world with core := xccRequestCancel world.core id .user }
  have settled : Settled cancelled :=
    ⟨{ handling.settled.sound.cancelCore member .user with },
      handling.settled.shown, handling.settled.recorded⟩
  have keeps := requestUnexport_keeps cancelled id
  have booked : Booked (some invocation) cancelled :=
    { handling.booked with
      awaited := fun waiting there => by
        change world.waiting = some waiting at there
        rw [handling.idle] at there
        cases there }
  have unexported : Handling (certificateImplRequestUnexport cancelled id)
      invocation sender method :=
    { settled := settled_requestUnexport settled id
      booked := booked.unexports member settled.sound.once
      idle := keeps.waiting.trans handling.idle
      owner := keeps.owner.trans handling.owner
      authorized := handling.authorized.later keeps.adds
      received := keeps.adds.subset handling.received }
  exact unexported.answers fun _ => Reply.noConfusion

end PortalCertificate.Adapter.Handlers
