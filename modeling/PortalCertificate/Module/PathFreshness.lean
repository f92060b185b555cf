import PortalCertificate.Library.Custody
import PortalCertificate.Module.KnownPaths

/-!
# Fresh paths for requests and sessions

A Response finds its request, and the loss of a session its grant, by an
object path alone.  The paths are made of tokens, and the tokens of the
counter of a client.  The counter of a new client starts again, so a path
may come back while signals for the one before are still on their way.

Without a second client that takes tokens, and before the counter comes
round, every path has one request or session of the process.
-/

namespace PortalCertificate.Module.PathFreshness

open PortalCertificate.Library.Custody
open PortalCertificate.Library.Transition
open PortalCertificate.Module.Connection
open PortalCertificate.Module.KnownPaths
open PortalCertificate.Module.PortalClient
open PortalCertificate.Module.RequestCleanup
open PortalCertificate.Module.Requests
open PortalCertificate.Module.Tokens

/-! ## The process -/

/-- A token with this text was taken. -/
def Known (bus : Bus) (process : Process) (text : String) : Prop :=
  ∃ token ∈ process.tokens, token.text bus = text

/-- The client was told that the session at the path is gone. -/
def Noted (process : Process) (client : Nat) (path : ObjectPath) : Prop :=
  ∃ notice ∈ process.noted, notice.client = client ∧ notice.path = path

/-- The session that the request created has the path. -/
def SessionAt
    (bus : Bus) (process : Process) (origin : Origin)
    (path : ObjectPath) : Prop :=
  ∃ request, process.request origin = some request ∧
    frontendSession bus request = some path

/-- What a signal says is true of the request it was emitted for. -/
def Means (bus : Bus) (request : PortalRequest) : Signal → Prop
  | .response _ path _ results =>
      frontendRequest bus request = some path ∧
        ∀ session, results.sessionHandle = some session →
          frontendSession bus request = some session
  | .grantInvalidated session | .sessionClosed session =>
      frontendSession bus request = some session

/-- All that the clients hold. -/
def holdings (process : Process) : Holding (Nat × Slot) String :=
  Function.uncurry fun client => held (process.clients client)

/-- Every client is in a reachable state, the paths in use differ, and every
signal is for its own request. -/
structure Sound (bus : Bus) (process : Process) : Prop where
  reachable : ∀ client, (machine bus).Reachable (process.clients client)
  apart : Apart (Known bus process) (holdings process)
  placed : ∀ client,
    Placed bus (Noted process client) (Asked (process.clients client))
      (process.clients client)
  flying : ∀ message ∈ process.flying, ∃ request,
    process.request message.origin = some request ∧
      Means bus request message.signal
  accepted : ∀ pair ∈ process.accepted, pair.1 = pair.2
  noted : ∀ notice ∈ process.noted,
    SessionAt bus process notice.session notice.path
  current : ∀ client, process.current = some client →
    client < process.created
  unborn : ∀ client, process.created ≤ client →
    process.clients client = .start

/-- Requests are kept with their parameters. -/
def Keeps (process next : Process) : Prop :=
  ∀ origin request, process.request origin = some request →
    ∃ after, next.request origin = some after ∧
      after.parameters = request.parameters

theorem Means.same
    {bus : Bus} {request after : PortalRequest} {signal : Signal}
    (same : after.parameters = request.parameters)
    (means : Means bus request signal) : Means bus after signal := by
  cases signal with
  | response =>
      simp only [Means, frontendRequest, frontendSession, same] at means ⊢
      exact means
  | grantInvalidated | sessionClosed =>
      simp only [Means, frontendSession, same] at means ⊢
      exact means

theorem SessionAt.keeps
    {bus : Bus} {process next : Process} (keeps : Keeps process next)
    {origin : Origin} {path : ObjectPath}
    (session : SessionAt bus process origin path) :
    SessionAt bus next origin path := by
  rcases session with ⟨request, found, session⟩
  rcases keeps origin request found with ⟨after, present, same⟩
  refine ⟨after, present, ?_⟩
  simpa only [frontendSession, same] using session

section Sound

variable {bus : Bus} {process next : Process} (sound : Sound bus process)

include sound

/-- Two requests of the process have different paths. -/
theorem Sound.request_unique
    {origin other : Origin} {request request' : PortalRequest}
    (here : process.request origin = some request)
    (there : process.request other = some request') {path : ObjectPath}
    (one : frontendRequest bus request = some path)
    (two : frontendRequest bus request' = some path) : origin = other := by
  have same := frontendPath_injective one two
  have first : holdings process (origin.client, .handle origin.request) =
      some request.parameters.handleToken := by
    simp only [Process.request] at here
    simp [holdings, held, here]
  have second : holdings process (other.client, .handle other.request) =
      some request.parameters.handleToken := by
    simp only [Process.request] at there
    simp [holdings, held, there, same]
  have slots := sound.apart.single _ _ _ first second
  cases origin
  cases other
  simp_all

theorem Sound.session_unique
    {origin other : Origin} {path : ObjectPath}
    (here : SessionAt bus process origin path)
    (there : SessionAt bus process other path) : origin = other := by
  rcases here with ⟨request, found, one⟩
  rcases there with ⟨request', found', two⟩
  rcases Option.bind_eq_some_iff.mp one with ⟨token, named, one⟩
  rcases Option.bind_eq_some_iff.mp two with ⟨token', named', two⟩
  have same := frontendPath_injective one two
  have first : holdings process (origin.client, .session origin.request) =
      some token := by
    simp only [Process.request] at found
    simp [holdings, held, found, named]
  have second : holdings process (other.client, .session other.request) =
      some token := by
    simp only [Process.request] at found'
    simp [holdings, held, found', named', same]
  have slots := sound.apart.single _ _ _ first second
  cases origin
  cases other
  simp_all

/-- A Response reaches only a request with its path. -/
theorem Sound.receives
    {client id : Nat} {sender : BusName} {path : ObjectPath}
    (member : id ∈ receivers (process.clients client) sender path) :
    ∃ request, process.request ⟨client, id⟩ = some request ∧
      frontendRequest bus request = some path := by
  rcases (Option.any_eq_true _ _).mp (List.mem_filter.mp member).2 with
    ⟨request, found, listening⟩
  simp only [Bool.and_eq_true, decide_eq_true_eq] at listening
  rcases listening with ⟨⟨-, listens⟩, -⟩
  have placed := (sound.placed client).requests id request found
  have named := (reachable_named (sound.reachable client)).requests id
    request found
  refine ⟨request, found, ?_⟩
  rw [← placed.predicted]
  unfold PortalRequest.listens at listens
  cases subscribed : request.subscription with
  | none => simp [subscribed] at listens
  | some subscription =>
      have same := placed.listening subscription subscribed
      rw [subscribed, same] at listens
      cases predicted : request.requestPath with
      | none => simp [predicted] at named
      | some expected =>
          rw [predicted] at listens
          exact congrArg some (eq_of_beq listens)

/-- The world of one client has changed, with new tokens and notices. -/
theorem Sound.change
    {client : Nat} {world : World} {new : Option String}
    (here : process.current = some client)
    (reachable : (machine bus).Reachable world)
    (carries : Carries new (held (process.clients client)) (held world))
    (unknown : ∀ text, new = some text → ¬ Known bus process text)
    (placed : Placed bus (Noted next client)
      (Asked (process.clients client)) world)
    (clients : next.clients = Function.update process.clients client world)
    (tokens : ∀ text, new = some text ∨ Known bus process text →
      Known bus next text)
    (flying : ∀ message ∈ next.flying, message ∈ process.flying)
    (accepted : ∀ pair ∈ next.accepted,
      pair ∈ process.accepted ∨ pair.1 = pair.2)
    (noted : process.noted ⊆ next.noted)
    (meant : ∀ notice ∈ next.noted, notice ∈ process.noted ∨
      SessionAt bus process notice.session notice.path)
    (current : next.current = process.current)
    (created : next.created = process.created) :
    Sound bus next := by
  have keeps : Keeps process next := by
    intro origin request found
    simp only [Process.request, clients, Function.update_apply]
    split_ifs with same
    · rcases placed.asked origin.request request.parameters
        ⟨request, same ▸ found, rfl⟩ with ⟨after, present, same⟩
      exact ⟨after, present, same⟩
    · exact ⟨request, found, rfl⟩
  constructor
  · intro other
    rw [clients, Function.update_apply]
    split_ifs
    · exact reachable
    · exact sound.reachable other
  · have whole := sound.apart.carries (Carries.part carries) unknown
    have same : holdings next = Function.uncurry
        (Function.update (fun other => held (process.clients other)) client
          (held world)) := by
      unfold holdings
      rw [clients]
      exact congrArg Function.uncurry
        (Function.comp_update held process.clients client world)
    rw [same]
    exact ⟨fun place text holds => tokens text (whole.known place text holds),
      whole.single⟩
  · intro other
    rw [clients, Function.update_apply]
    split_ifs with same
    · subst same
      exact placed.renew fun _ noted => noted
    · refine (sound.placed other).renew ?_
      rintro path ⟨notice, old, own⟩
      exact ⟨notice, noted old, own⟩
  · intro message member
    rcases sound.flying message (flying message member) with
      ⟨request, found, means⟩
    rcases keeps _ _ found with ⟨after, present, same⟩
    exact ⟨after, present, means.same same⟩
  · intro pair member
    exact (accepted pair member).elim (sound.accepted pair) id
  · intro notice member
    rcases meant notice member with old | session
    · exact (sound.noted notice old).keeps keeps
    · exact session.keeps keeps
  · rw [current, created]
    exact sound.current
  · intro other late
    rw [created] at late
    have different : other ≠ client := by
      have early := sound.current client here
      omega
    rw [clients, Function.update_of_ne different]
    exact sound.unborn other late

end Sound

/-! ## The condition -/

/--
The client that takes the token is the only one that has taken any, and has
not taken one of the kind at this value of its counter.
-/
def FirstUse (process : Process) (token : Token) : Prop :=
  ∀ earlier ∈ process.tokens,
    earlier.client = token.client ∧
      (earlier.kind = token.kind → earlier.counter ≠ token.counter)

/-- No token is used again. -/
def TakesFirst (process : Process) (move : Move) : Prop :=
  ∀ token ∈ process.takes move, FirstUse process token

/-- The text of a token that is used first is not known. -/
theorem FirstUse.unknown
    {bus : Bus} {process : Process} {token : Token}
    (first : FirstUse process token) :
    ¬ Known bus process (token.text bus) := by
  rintro ⟨earlier, member, same⟩
  rcases requestToken_injective same with ⟨kind, counter⟩
  exact (first earlier member).2 kind counter

/-- The frontend says of a request what is true of it. -/
theorem means_of_emits
    {request : PortalRequest} {signal : Signal}
    (emitted : emits bus request signal = true) :
    Means bus request signal := by
  cases signal with
  | response sender path response results =>
      simp only [emits, Bool.and_eq_true, decide_eq_true_eq,
        Bool.or_eq_true] at emitted
      refine ⟨emitted.1.2, ?_⟩
      intro session named
      rcases emitted.2 with none | same
      · simp [named] at none
      · exact same.symm.trans named
  | grantInvalidated session | sessionClosed session =>
      simp only [emits, Bool.and_eq_true, decide_eq_true_eq] at emitted
      exact emitted.2

theorem session_of_notices
    {bus : Bus} {process : Process} {client : Nat} {message : Message}
    {request : PortalRequest}
    (found : process.request message.origin = some request)
    (means : Means bus request message.signal) :
    ∀ notice ∈ notices (process.clients client) client message,
      SessionAt bus process notice.session notice.path := by
  intro notice member
  unfold Connection.notices at member
  split at member
  · cases member
  all_goals
    rename_i signal
    rw [signal] at means
    split_ifs at member
    · cases member
    · cases List.mem_singleton.mp member
      exact ⟨request, found, means⟩

section Steps

variable {bus : Bus} {process next : Process} (sound : Sound bus process)

include sound

/-- A client may be made. -/
theorem Sound.clientNew
    (moves : (connection bus).step process .clientNew = some next) :
    Sound bus next := by
  simp only [connection, Connection.step] at moves
  split at moves
  · cases moves
    have same : process.update process.created .start = process := by
      unfold Process.update
      rw [← sound.unborn process.created le_rfl, Function.update_eq_self]
    rw [same]
    refine ⟨sound.reachable, sound.apart, sound.placed, sound.flying,
      sound.accepted, sound.noted, ?_, ?_⟩
    · intro client here
      cases here
      exact Nat.lt_succ_self _
    · exact fun client late => sound.unborn client (Nat.le_of_succ_le late)
  · cases moves

/-- A client may be freed. -/
theorem Sound.clientFree
    (moves : (connection bus).step process .clientFree = some next) :
    Sound bus next := by
  simp only [connection, Connection.step] at moves
  split at moves
  · cases moves
  · split_ifs at moves
    cases moves
    exact ⟨sound.reachable, sound.apart, sound.placed, sound.flying,
      sound.accepted, sound.noted, nofun, sound.unborn⟩

theorem Sound.emit
    {message : Message}
    (moves : (connection bus).step process (.emit message) = some next) :
    Sound bus next := by
  simp only [connection, Connection.step] at moves
  split_ifs at moves with emitted
  cases moves
  rcases (Option.any_eq_true _ _).mp emitted with ⟨request, found, emitted⟩
  refine ⟨sound.reachable, sound.apart, sound.placed, ?_,
    sound.accepted, sound.noted, sound.current, sound.unborn⟩
  intro other member
  rcases List.mem_cons.mp member with rfl | old
  · exact ⟨request, found, means_of_emits emitted⟩
  · exact sound.flying other old

/-- A client may take a step that takes a first token at most. -/
theorem Sound.client
    {action : Action} (first : TakesFirst process (.client action))
    (moves : (connection bus).step process (.client action) = some next) :
    Sound bus next := by
  simp only [connection, Connection.step] at moves
  split at moves
  · cases moves
  · rename_i client current
    split_ifs at moves with permitted
    rcases Option.map_eq_some_iff.mp moves with ⟨world, stepped, rfl⟩
    have kept := reachable_kept (sound.reachable client)
    have genuine : GenuineAction bus (Noted process client)
        (process.clients client) action := by
      cases action with
      | methodReturned id reply =>
          intro request found
          cases reply with
          | error => trivial
          | ok path =>
              simp only [permits, found, Option.any_some,
                decide_eq_true_eq] at permitted
              exact permitted
      | response | invalidated => cases permitted
      | _ => trivial
    have takes : process.takes (.client action) =
        (takes (process.clients client) action).map fun kind =>
          ⟨client, kind, (process.clients client).counter⟩ := by
      simp only [Process.takes, current, Option.bind_some]
    refine sound.change current ((sound.reachable client).step stepped)
      (carries_step stepped) ?_
      ((sound.placed client).step kept genuine stepped) rfl ?_
      (fun _ member => member) (fun _ member => .inl member)
      (List.Subset.refl _) (fun _ member => .inl member) rfl rfl
    · intro text fresh
      rcases Option.map_eq_some_iff.mp fresh with ⟨kind, found, rfl⟩
      have first := first ⟨client, kind, (process.clients client).counter⟩
        (by rw [takes, found]; rfl)
      exact first.unknown
    · rintro text (fresh | ⟨token, member, same⟩)
      · rcases Option.map_eq_some_iff.mp fresh with ⟨kind, found, rfl⟩
        refine
          ⟨⟨client, kind, (process.clients client).counter⟩, ?_, rfl⟩
        rw [takes, found]
        exact List.mem_cons_self ..
      · exact ⟨token, List.mem_append_right _ member, same⟩

/-- A signal is accepted as what it was emitted as. -/
theorem Sound.acceptances_same
    {client : Nat} {message : Message} {request : PortalRequest}
    (found : process.request message.origin = some request)
    (means : Means bus request message.signal) :
    ∀ pair ∈ acceptances (process.clients client) client message,
      pair.1 = pair.2 := by
  intro pair member
  unfold Connection.acceptances at member
  split at member
  · rename_i signal
    rw [signal] at means
    rcases List.mem_map.mp member with ⟨id, received, rfl⟩
    rcases sound.receives received with ⟨other, present, same⟩
    exact sound.request_unique found present means.1 same
  · cases member
  · cases member

/-- A signal makes the client do what the frontend says. -/
theorem Sound.deliveries_genuine
    {client : Nat} {message : Message} {request : PortalRequest}
    (found : process.request message.origin = some request)
    (means : Means bus request message.signal)
    {noted : ObjectPath → Prop}
    (told : ∀ notice ∈ notices (process.clients client) client message,
      noted notice.path) :
    ∀ action ∈ deliveries (process.clients client) message.signal,
      GenuineSignal bus noted (Asked (process.clients client)) action := by
  intro action member
  unfold Connection.deliveries at member
  unfold Connection.notices at told
  split at member
  · rename_i signal
    rw [signal] at means
    rcases List.mem_map.mp member with ⟨id, received, rfl⟩
    rcases sound.receives received with ⟨other, present, same⟩
    have origin := sound.request_unique found present means.1 same
    rw [origin] at found
    exact ⟨request.parameters, ⟨request, found, rfl⟩, means.2⟩
  all_goals
    rename_i signal
    rw [signal] at told
    split_ifs at member told
    · cases member
    · cases List.mem_singleton.mp member
      exact told _ (List.mem_singleton_self _)

/-- A signal may be delivered. -/
theorem Sound.deliver
    {message : Message}
    (moves : (connection bus).step process (.deliver message) = some next) :
    Sound bus next := by
  simp only [connection, Connection.step] at moves
  split_ifs at moves with flew
  have rest : ∀ other ∈ process.flying.erase message,
      other ∈ process.flying := fun _ member => List.mem_of_mem_erase member
  rcases sound.flying message flew with ⟨request, found, means⟩
  split at moves
  · cases moves
    exact ⟨sound.reachable, sound.apart, sound.placed,
      fun other member => sound.flying other (rest other member),
      sound.accepted, sound.noted, sound.current, sound.unborn⟩
  · rename_i client current
    rcases Option.map_eq_some_iff.mp moves with ⟨world, arrived, rfl⟩
    let noted (path : ObjectPath) : Prop :=
      ∃ notice ∈
        notices (process.clients client) client message ++ process.noted,
        notice.client = client ∧ notice.path = path
    have placed : Placed bus noted (Asked (process.clients client))
        (process.clients client) := by
      refine (sound.placed client).renew ?_
      rintro path ⟨notice, old, own⟩
      exact ⟨notice, List.mem_append_right _ old, own⟩
    have told : ∀ notice ∈
        notices (process.clients client) client message,
        noted notice.path := by
      intro notice member
      refine ⟨notice, List.mem_append_left _ member, ?_, rfl⟩
      unfold Connection.notices at member
      split at member
      · cases member
      all_goals
        split_ifs at member
        · cases member
        · cases List.mem_singleton.mp member
          rfl
    rcases run_signals (sound.deliveries_genuine found means told)
      (sound.reachable client) placed arrived with
      ⟨reachable, still, placed⟩
    have carries : Carries none (held (process.clients client))
        (held world) := by
      rw [still]
      exact .shift .refl
    refine sound.change current reachable carries nofun placed rfl ?_ rest
      ?_ (List.subset_append_right _ _) ?_ rfl rfl
    · rintro text (none | known)
      · cases none
      · exact known
    · intro pair member
      exact (List.mem_append.mp member).elim
        (fun new => .inr (sound.acceptances_same found means pair new)) .inl
    · intro notice member
      exact (List.mem_append.mp member).elim
        (fun new => .inr (session_of_notices found means notice new)) .inl

/-- The step lemma. -/
theorem Sound.step
    {move : Move} (first : TakesFirst process move)
    (moves : (connection bus).step process move = some next) :
    Sound bus next := by
  cases move with
  | clientNew => exact sound.clientNew moves
  | clientFree => exact sound.clientFree moves
  | client action => exact sound.client first moves
  | emit message => exact sound.emit moves
  | deliver message => exact sound.deliver moves

end Steps

theorem sound_start (bus : Bus) : Sound bus .start := by
  constructor
  · exact fun _ => .initial rfl
  · constructor
    · rintro ⟨client, slot⟩ text holds
      cases slot <;> cases holds
    · rintro ⟨client, slot⟩ other text holds
      cases slot <;> cases holds
  · intro client
    constructor
    · intro id request found
      cases found
    · exact fun _ => trivial
    · intro thread id grant member
      cases member
    · intro path member
      cases member
    · exact fun _ _ known => known
  · intro message member
    cases member
  · intro pair member
    cases member
  · intro notice member
    cases member
  · exact nofun
  · exact fun _ _ => rfl

/-- The run lemma. -/
theorem reachable_sound
    {bus : Bus} {process : Process}
    (reachable : (connection bus).ReachableBy TakesFirst process) :
    Sound bus process :=
  reachable.invariant (fun _ start => start ▸ sound_start bus)
    fun _ _ _ _ sound first moves => sound.step first moves

/-! ## Freshness -/

/-- The tokens that a call brings. -/
def tokensOf (request : PortalRequest) : List String :=
  request.parameters.handleToken ::
    request.parameters.sessionHandleToken.toList

/-- A grant of the client, with its generation and session. -/
inductive Uses (world : World) : Nat → ObjectPath → Prop where
  /-- The grant is about to be handed out, unless it is gone. -/
  | granting
      {thread : Nat} {owner : Option BusName} {generation : Nat}
      {session : ObjectPath} {request : Nat} {results : Results}
      (pc : world.threads thread =
        .granting owner generation session request results) :
      Uses world generation session
  | granted
      {thread id : Nat} {grant : Grant}
      (member : .granted thread id grant ∈ world.trace) :
      Uses world grant.ownerGeneration grant.sessionHandle

/-- `portal_client_grant_gone`, other than because of the owner. -/
def LostSession
    (world : World) (generation : Nat) (session : ObjectPath) : Prop :=
  world.grantGone generation session = true ∧
    world.owner.isSome ∧ world.ownerGeneration = generation

/--
No two requests have a token in common, a Response is accepted by the
request it was emitted for, and a grant is lost by a signal for its own
session only.
-/
structure Fresh (bus : Bus) (process : Process) : Prop where
  nodup : ∀ origin request, process.request origin = some request →
    (tokensOf request).Nodup
  disjoint : ∀ origin other request request',
    process.request origin = some request →
    process.request other = some request' → origin ≠ other →
    (tokensOf request).Disjoint (tokensOf request')
  responses : ∀ pair ∈ process.accepted, pair.1 = pair.2
  grants : ∀ client generation session,
    Uses (process.clients client) generation session →
    ∃ id, SessionAt bus process ⟨client, id⟩ session ∧
      (∀ notice ∈ process.noted, notice.path = session →
        notice.session = ⟨client, id⟩) ∧
      (LostSession (process.clients client) generation session →
        ∃ notice ∈ process.noted, notice.client = client ∧
          notice.session = ⟨client, id⟩)

theorem slot_of_token
    {process : Process} {origin : Origin} {request : PortalRequest}
    (found : process.request origin = some request) {token : String}
    (member : token ∈ tokensOf request) :
    ∃ slot, (slot = .handle origin.request ∨
        slot = .session origin.request) ∧
      holdings process (origin.client, slot) = some token := by
  simp only [Process.request] at found
  rcases List.mem_cons.mp member with rfl | session
  · refine ⟨.handle origin.request, .inl rfl, ?_⟩
    simp [holdings, held, found]
  · rw [Option.mem_toList] at session
    refine ⟨.session origin.request, .inr rfl, ?_⟩
    simpa [holdings, held, found] using session

section Fresh

variable {bus : Bus} {process : Process} (sound : Sound bus process)

include sound

theorem Sound.nodup
    {origin : Origin} {request : PortalRequest}
    (found : process.request origin = some request) :
    (tokensOf request).Nodup := by
  have single : request.parameters.sessionHandleToken.toList.Nodup := by
    cases request.parameters.sessionHandleToken <;> simp
  refine List.nodup_cons.mpr ⟨?_, single⟩
  intro member
  rw [Option.mem_toList] at member
  simp only [Process.request] at found
  have handle : holdings process (origin.client, .handle origin.request) =
      some request.parameters.handleToken := by
    simp [holdings, held, found]
  have session : holdings process (origin.client, .session origin.request) =
      some request.parameters.handleToken := by
    simpa [holdings, held, found] using member
  have slots := sound.apart.single _ _ _ handle session
  cases (Prod.mk.inj slots).2

theorem Sound.disjoint
    {origin other : Origin} {request request' : PortalRequest}
    (here : process.request origin = some request)
    (there : process.request other = some request')
    (different : origin ≠ other) :
    (tokensOf request).Disjoint (tokensOf request') := by
  intro token first second
  rcases slot_of_token here first with ⟨slot, place, holds⟩
  rcases slot_of_token there second with ⟨slot', place', holds'⟩
  have slots := Prod.mk.inj (sound.apart.single _ _ _ holds holds')
  apply different
  cases origin
  cases other
  rcases place with rfl | rfl <;> rcases place' with rfl | rfl <;>
    simp_all

/-- The session that a client uses is its own. -/
theorem Sound.uses
    {client generation : Nat} {session : ObjectPath}
    (uses : Uses (process.clients client) generation session) :
    OwnSession bus (process.clients client) session := by
  cases uses with
  | @granting thread _ _ _ _ _ pc =>
      have placed := (sound.placed client).threads thread
      rw [pc] at placed
      exact placed
  | granted member => exact (sound.placed client).granted _ _ _ member

/-- A client that holds a session as lost was told so. -/
theorem Sound.noted_of_lost
    {client generation : Nat} {session : ObjectPath}
    (lost : LostSession (process.clients client) generation session) :
    Noted process client session := by
  rcases lost with ⟨gone, owned, current⟩
  apply (sound.placed client).invalidated
  simpa [World.grantGone, owned, current,
    Option.isSome_iff_ne_none.mp owned] using gone

/--
While only one client takes tokens, and none twice at one value of its
counter, tokens and paths are fresh.
-/
theorem Sound.fresh : Fresh bus process where
  nodup _ _ found := sound.nodup found
  disjoint _ _ _ _ here there := sound.disjoint here there
  responses := sound.accepted
  grants client generation session uses := by
    rcases sound.uses uses with ⟨id, request, found, own⟩
    have here : SessionAt bus process ⟨client, id⟩ session :=
      ⟨request, found, own⟩
    have meant : ∀ notice ∈ process.noted, notice.path = session →
        notice.session = ⟨client, id⟩ := by
      rintro notice member rfl
      exact sound.session_unique (sound.noted notice member) here
    refine ⟨id, here, meant, ?_⟩
    intro lost
    rcases sound.noted_of_lost lost with ⟨notice, member, told, path⟩
    exact ⟨notice, member, told, meant notice member path⟩

end Fresh

/-- If no token comes back, then the paths in use are fresh. -/
theorem paths_fresh
    {bus : Bus} {process : Process}
    (reachable : (connection bus).ReachableBy TakesFirst process) :
    Fresh bus process :=
  (reachable_sound reachable).fresh

/-! ## A late Response -/

/-- The Response of the first `CreateSession` of the process. -/
def sampleResponse : Message where
  origin := ⟨0, 0⟩
  signal := .response ":1.1"
    "/org/freedesktop/portal/desktop/request/1_7/pkcs11c42_0" 0
    { (default : Results) with
      sessionHandle :=
        some "/org/freedesktop/portal/desktop/session/1_7/pkcs11s42_1" }

/-- A client calls `CreateSession`. -/
def sampleCalls : List Move := .clientNew :: sampleSent.map .client

/-- The client is freed and replaced while the Response is on its way. -/
def sampleRestart : List Move :=
  sampleCalls ++
    [.client .cancelRequests, .client (.advance 0 0 none),
      .client (.methodReturned 0 (.ok
        "/org/freedesktop/portal/desktop/request/1_7/pkcs11c42_0")),
      .emit sampleResponse, .client .beginDrain, .clientFree] ++
    sampleCalls ++ [.deliver sampleResponse]

/-- The process after its client was made anew. -/
def sampleProcess : Process :=
  ((connection sampleBus).run .start sampleRestart).getD .start

/-- The next client takes the Response for its own. -/
theorem late_response_accepted :
    ¬ ∀ (bus : Bus) (process : Process),
      (connection bus).Reachable process → Fresh bus process := by
  intro fresh
  have started : (connection sampleBus).Reachable .start := .initial rfl
  have moved : (connection sampleBus).run .start sampleRestart =
      some sampleProcess := rfl
  have accepted : sampleProcess.accepted = [(⟨0, 0⟩, ⟨1, 0⟩)] := rfl
  have same := (fresh sampleBus sampleProcess (started.run moved)).responses
    (⟨0, 0⟩, ⟨1, 0⟩) (by rw [accepted]; exact List.mem_singleton_self _)
  cases same

/-! ## A run within the condition -/

instance (process : Process) : DecidablePred (FirstUse process) :=
  fun _ => inferInstanceAs (Decidable (∀ _ ∈ _, _))

instance (process : Process) (move : Move) :
    Decidable (TakesFirst process move) :=
  inferInstanceAs (Decidable (∀ _ ∈ _, _))

/-- The process with an open session. -/
def sampleOpened : Process :=
  ((connection sampleBus).runBy TakesFirst .start
    (sampleCalls ++ [.emit sampleResponse, .deliver sampleResponse])).getD
    .start

/-- A session is opened in the example. -/
theorem paths_fresh_opening :
    sampleOpened.accepted = [(⟨0, 0⟩, ⟨0, 0⟩)] ∧
      Fresh sampleBus sampleOpened := by
  have started : (connection sampleBus).ReachableBy TakesFirst .start :=
    .initial rfl
  have moved : (connection sampleBus).runBy TakesFirst .start
      (sampleCalls ++ [.emit sampleResponse, .deliver sampleResponse]) =
        some sampleOpened := rfl
  exact ⟨rfl, paths_fresh (started.runBy moved)⟩

end PortalCertificate.Module.PathFreshness
