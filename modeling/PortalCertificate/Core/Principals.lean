import PortalCertificate.Core.Coordinator

/-!
# Principals of sessions

A session belongs to the application and to the owner that it was made for.
The coordinator compares both with the principal of every request, and keeps
the weakest assurance of identity that it has seen.  The adapter makes the
same check before it makes a request.

The fields of a session that no check reads are a parameter.
-/

namespace PortalCertificate.Core.Principals

open PortalCertificate.Core.Coordinator
open PortalCertificate.Library.Transition

/-! ## Sessions and principals -/

/-- `XCC_IDENTITY_UNKNOWN`; a greater assurance has a smaller number. -/
def identityUnknown : Nat := 2

/-- `XCC_ABI_VERSION`. -/
def xccAbiVersion : Nat := 1

/-- The size of `XccPrincipal`. -/
def sizeofXccPrincipal : Nat := 32

/-- A specification has one more pointer. -/
def sizeofXccSessionSpec : Nat := 40

/-- `XccPrincipal`, as the caller has filled it. -/
structure XccPrincipal where
  structSize : Nat
  abiVersion : Nat
  ownerGeneration : Nat
  appId : Option String
  identityLevel : Nat
  identityPresent : Bool
  deriving DecidableEq, Repr

/-- A specification of a session has the fields of a principal. -/
structure XccSessionSpec extends XccPrincipal
  deriving DecidableEq, Repr

/-- The fields of `XccSession` that say whose it is; `rest` is all else. -/
structure XccSession (Rest : Type) where
  ownerGeneration : Nat
  appId : String
  identityLevel : Nat
  identitySeen : Bool
  closed : Bool
  rest : Rest
  deriving DecidableEq, Repr

variable {Rest : Type}

/-- The assurance that a session has recorded. -/
def XccSession.recorded (session : XccSession Rest) : Option Nat :=
  if session.identitySeen then some session.identityLevel else none

/-- The caller knows this version of the structure. -/
def XccPrincipal.wellFormed (principal : XccPrincipal) : Bool :=
  sizeofXccPrincipal ≤ principal.structSize &&
    principal.abiVersion = xccAbiVersion

/-- `principal_check`. -/
def principalCheck
    (generation : Nat) (session : XccSession Rest)
    (principal : XccPrincipal) : XccErrorCode × XccSession Rest :=
  if !principal.wellFormed then
    (.invalidRequest, session)
  else if session.closed || session.ownerGeneration ≠ generation ||
      principal.ownerGeneration ≠ session.ownerGeneration ||
      some session.appId ≠ principal.appId then
    (.noSuchSession, session)
  else if principal.identityPresent then
    if identityUnknown < principal.identityLevel then
      (.invalidRequest, session)
    else if session.identitySeen &&
        principal.identityLevel < session.identityLevel then
      (.noSuchSession, session)
    else
      (.ok, { session with
        identityLevel := principal.identityLevel, identitySeen := true })
  else
    (.ok, session)

/-! ## Requests -/

/-- What has happened to a request before it is started. -/
structure Cancellation where
  cancelIntent : Nat
  cancelledCode : XccErrorCode
  cancelled : Bool
  deriving DecidableEq, Repr

/-- The fields of `XccRequest` that a check of its principal reads. -/
structure XccRequest extends Cancellation where
  session : Option Nat
  validationError : XccErrorCode
  principal : XccPrincipal
  deriving DecidableEq, Repr

/-- A principal of a new request. -/
def XccPrincipal.zero : XccPrincipal := ⟨0, 0, 0, none, 0, false⟩

/-- `xcc_acquire_async`; `validation` is its verdict on the other fields. -/
def acquireAsync
    (session : Nat) (principal : Option XccPrincipal)
    (validation : XccErrorCode) (cancellation : Cancellation) : XccRequest :=
  match principal with
  | none => ⟨cancellation, session, .invalidRequest, .zero⟩
  | some principal =>
      if !principal.wellFormed then
        ⟨cancellation, session, .invalidRequest, .zero⟩
      else
        let level :=
          if principal.identityPresent then principal.identityLevel
          else identityUnknown
        ⟨cancellation, session, validation,
          { principal with identityPresent := true, identityLevel := level }⟩

/-- `xcc_sign_async_parsed`. -/
def signAsync
    (session : Nat) (principal : Option XccPrincipal)
    (validation : XccErrorCode) (cancellation : Cancellation) : XccRequest :=
  match principal with
  | none => ⟨cancellation, session, .invalidRequest, .zero⟩
  | some principal =>
      if !principal.wellFormed || validation ≠ .ok then
        ⟨cancellation, session, .invalidRequest, .zero⟩
      else
        ⟨cancellation, session, .ok, principal⟩

/-! ## The coordinator -/

/-- A check that was made, and the session around it. -/
structure Check (Rest : Type) where
  index : Nat
  principal : XccPrincipal
  generation : Nat
  error : XccErrorCode
  before : XccSession Rest
  after : XccSession Rest
  deriving DecidableEq, Repr

/-- Sessions are numbered in the order of their creation.  `created` has
their specifications, and `checks` all checks, the last one first. -/
structure World (Rest : Type) where
  generation : Nat
  stopping : Bool
  shutdownPosted : Bool
  sessions : List (XccSession Rest)
  created : List XccSessionSpec
  checks : List (Check Rest)
  deriving DecidableEq, Repr

/-- The record of a session is replaced. -/
def World.setSession
    (world : World Rest) (index : Nat) (session : XccSession Rest) :
    World Rest :=
  { world with sessions := world.sessions.set index session }

/-- `principal_check` on the coordinator. -/
def coordinatorCheck
    (world : World Rest) (index : Nat) (session : XccSession Rest)
    (principal : XccPrincipal) : XccErrorCode × World Rest :=
  let (error, checked) := principalCheck world.generation session principal
  (error, { world.setSession index checked with
    checks :=
      ⟨index, principal, world.generation, error, session, checked⟩ ::
      world.checks })

/-- `xcc_session_check_principal`, called by the adapter. -/
def xccSessionCheckPrincipal
    (world : World Rest) (index : Nat) (session : XccSession Rest)
    (principal : Option XccPrincipal) : XccErrorCode × World Rest :=
  match principal with
  | none => (.invalidRequest, world)
  | some principal =>
      if world.shutdownPosted then (.backendGone, world)
      else coordinatorCheck world index session principal

/-- `xcc_request_validate` of a request with a session. -/
def xccRequestValidate
    (world : World Rest) (request : XccRequest) (index : Nat)
    (session : XccSession Rest) : XccErrorCode × World Rest :=
  if world.stopping then
    (.backendGone, world)
  else if request.cancelIntent ≠ 0 then
    (.cancelled, world)
  else if request.cancelledCode ≠ .ok then
    (request.cancelledCode, world)
  else if request.cancelled then
    (.cancelled, world)
  else if request.validationError ≠ .ok then
    (request.validationError, world)
  else if request.principal.appId = none then
    (.invalidRequest, world)
  else
    coordinatorCheck world index session request.principal

/-- `xcc_session_new`. -/
def xccSessionNew
    (world : World Rest) (spec : XccSessionSpec) (rest : Rest) :
    XccErrorCode × World Rest :=
  match spec.appId with
  | none => (.invalidRequest, world)
  | some appId =>
      if spec.structSize < sizeofXccSessionSpec ||
          spec.abiVersion ≠ xccAbiVersion ||
          (spec.identityPresent && identityUnknown < spec.identityLevel) then
        (.invalidRequest, world)
      else if world.stopping || world.shutdownPosted ||
          spec.ownerGeneration ≠ world.generation then
        (.noSuchSession, world)
      else
        let session : XccSession Rest :=
          { ownerGeneration := spec.ownerGeneration, appId
            identityLevel := spec.identityLevel
            identitySeen := spec.identityPresent, closed := false, rest }
        (.ok, { world with
          sessions := world.sessions ++ [session]
          created := world.created ++ [spec] })

/-- A call that makes, checks or closes a session, or does something else with
it. -/
inductive Action (Rest : Type) where
  | sessionNew (spec : XccSessionSpec) (rest : Rest)
  | checkPrincipal (index : Nat) (principal : Option XccPrincipal)
  | acquireStart (index : Nat) (principal : Option XccPrincipal)
      (validation : XccErrorCode) (cancellation : Cancellation)
  | signStart (index : Nat) (principal : Option XccPrincipal)
      (validation : XccErrorCode) (cancellation : Cancellation)
  /-- A session is closed or invalidated. -/
  | close (index : Nat)
  /-- All else that is done with a session. -/
  | operate (index : Nat) (rest : Rest)
  | setOwnerGeneration (generation : Nat)
  | stop
  | postShutdown

/-- `generation`; sessions of another owner are closed. -/
def setGeneration (world : World Rest) (generation : Nat) : World Rest :=
  { world with
    generation
    sessions := world.sessions.map fun session =>
      if session.ownerGeneration ≠ generation then
        { session with closed := true }
      else session }

/-- One call, of a session that exists. -/
def step (world : World Rest) : Action Rest → Option (World Rest)
  | .sessionNew spec rest => some (xccSessionNew world spec rest).2
  | .checkPrincipal index principal =>
      world.sessions[index]?.map fun session =>
        (xccSessionCheckPrincipal world index session principal).2
  | .acquireStart index principal validation cancellation =>
      world.sessions[index]?.map fun session =>
        (xccRequestValidate world
          (acquireAsync index principal validation cancellation) index
          session).2
  | .signStart index principal validation cancellation =>
      world.sessions[index]?.map fun session =>
        (xccRequestValidate world
          (signAsync index principal validation cancellation) index
          session).2
  | .close index =>
      world.sessions[index]?.map fun session =>
        world.setSession index { session with closed := true }
  | .operate index rest =>
      world.sessions[index]?.map fun session =>
        world.setSession index { session with rest }
  | .setOwnerGeneration generation => some (setGeneration world generation)
  | .stop =>
      some { world with
        stopping := true
        sessions := world.sessions.map fun session =>
          { session with closed := true } }
  | .postShutdown =>
      if world.stopping then some { world with shutdownPosted := true }
      else none

/-- Sessions, none of which exists at first. -/
def machine (Rest : Type) : System (World Rest) (Action Rest) where
  initial world := world.sessions = [] ∧ world.created = [] ∧
    world.checks = []
  step := step

/-! ## One check -/

/-- The first assurance is none, or not weaker than the second. -/
def AtLeast (first second : Option Nat) : Prop :=
  ∀ level ∈ first, ∃ later ∈ second, level ≤ later

theorem AtLeast.refl (level : Option Nat) : AtLeast level level :=
  fun value found => ⟨value, found, Nat.le_refl value⟩

theorem AtLeast.trans
    {first second third : Option Nat} (here : AtLeast first second)
    (there : AtLeast second third) : AtLeast first third := by
  intro level found
  rcases here level found with ⟨middle, found, less⟩
  rcases there middle found with ⟨last, found, more⟩
  exact ⟨last, found, less.trans more⟩

/-- What an accepted principal has in common with its session. -/
structure Entitled
    (generation : Nat) (session : XccSession Rest)
    (principal : XccPrincipal) : Prop where
  opened : session.closed = false
  current : session.ownerGeneration = generation
  owner : principal.ownerGeneration = session.ownerGeneration
  app : principal.appId = some session.appId

/-- Everything that a check can do to its session. -/
structure Checked
    (generation : Nat) (session : XccSession Rest)
    (principal : XccPrincipal) (error : XccErrorCode)
    (after : XccSession Rest) : Prop where
  refused : error ≠ .ok → after = session
  entitled : error = .ok → Entitled generation session principal
  kept : { after with
    identityLevel := session.identityLevel
    identitySeen := session.identitySeen } = session
  falls : AtLeast session.recorded after.recorded
  stated : error = .ok → principal.identityPresent = true →
    after.recorded = some principal.identityLevel

theorem Checked.refusal
    {generation : Nat} {session : XccSession Rest}
    {principal : XccPrincipal} {error : XccErrorCode}
    (fails : error ≠ .ok) :
    Checked generation session principal error session where
  refused _ := rfl
  entitled accepted := absurd accepted fails
  kept := rfl
  falls := .refl _
  stated accepted := absurd accepted fails

theorem principalCheck_checked
    (generation : Nat) (session : XccSession Rest)
    (principal : XccPrincipal) :
    Checked generation session principal
      (principalCheck generation session principal).1
      (principalCheck generation session principal).2 := by
  rw [principalCheck]
  by_cases formed : principal.wellFormed = true
  swap
  · rw [if_pos (by simpa using formed)]
    exact .refusal nofun
  rw [if_neg (by simpa using formed)]
  split_ifs with strange present unknown raised
  · exact .refusal nofun
  · exact .refusal nofun
  · exact .refusal nofun
  all_goals
    have entitled : Entitled generation session principal := by
      simp only [Bool.or_eq_true, decide_eq_true_eq, not_or, not_not,
        Bool.not_eq_true] at strange
      rcases strange with ⟨⟨⟨opened, current⟩, owner⟩, app⟩
      exact ⟨opened, current, owner, app.symm⟩
  · constructor
    case refused => exact fun fails => absurd rfl fails
    case entitled => exact fun _ => entitled
    case kept => rfl
    case falls =>
      intro level recorded
      refine ⟨principal.identityLevel, rfl, ?_⟩
      rw [XccSession.recorded] at recorded
      split_ifs at recorded with seen
      · cases recorded
        simpa [seen] using raised
      · cases recorded
    case stated => exact fun _ _ => rfl
  · constructor
    case refused => exact fun fails => absurd rfl fails
    case entitled => exact fun _ => entitled
    case kept => rfl
    case falls => exact .refl _
    case stated => exact fun _ states => absurd states present

/-! ## All checks -/

/-- What holds of a session from its creation on. -/
structure Descends
    (spec : XccSessionSpec) (session : XccSession Rest) : Prop where
  app : spec.appId = some session.appId
  owner : spec.ownerGeneration = session.ownerGeneration
  falls : spec.identityPresent = true →
    AtLeast (some spec.identityLevel) session.recorded

/-- What holds of a check that was made, and of its session now. -/
structure Recalled
    (created : List XccSessionSpec) (check : Check Rest) : Prop where
  checked : Checked check.generation check.before check.principal
    check.error check.after
  descends : ∃ spec, created[check.index]? = some spec ∧
    Descends spec check.before

/-- Every session descends from what it was created with, and every check has
found it so. -/
structure Kept (world : World Rest) : Prop where
  length : world.created.length = world.sessions.length
  descends : ∀ (index : Nat) session,
    world.sessions[index]? = some session →
    ∃ spec, world.created[index]? = some spec ∧ Descends spec session
  recalled : ∀ check ∈ world.checks, Recalled world.created check
  since : ∀ check ∈ world.checks, ∃ session,
    world.sessions[check.index]? = some session ∧
      AtLeast check.after.recorded session.recorded
  ordered : world.checks.Pairwise fun later earlier =>
    later.index = earlier.index →
      AtLeast earlier.after.recorded later.before.recorded

/-- What every change of a session keeps. -/
structure Follows (before after : XccSession Rest) : Prop where
  app : after.appId = before.appId
  owner : after.ownerGeneration = before.ownerGeneration
  falls : AtLeast before.recorded after.recorded

theorem Follows.refl (session : XccSession Rest) : Follows session session :=
  ⟨rfl, rfl, .refl _⟩

theorem Descends.follow
    {spec : XccSessionSpec} {before after : XccSession Rest}
    (descends : Descends spec before) (follows : Follows before after) :
    Descends spec after where
  app := follows.app ▸ descends.app
  owner := follows.owner ▸ descends.owner
  falls present := (descends.falls present).trans follows.falls

variable {world : World Rest}

/-- The sessions go on, each at its place. -/
theorem Kept.follow
    {sessions : List (XccSession Rest)} (kept : Kept world)
    (length : sessions.length = world.sessions.length)
    (follows : ∀ (index : Nat) before,
      world.sessions[index]? = some before →
      ∃ after, sessions[index]? = some after ∧ Follows before after) :
    Kept { world with sessions } := by
  constructor
  case length => exact kept.length.trans length.symm
  case descends =>
    intro index after found
    have inside : index < world.sessions.length := by
      rw [← length]
      exact (List.getElem?_eq_some_iff.mp found).1
    have before := List.getElem?_eq_getElem inside
    rcases kept.descends index _ before with ⟨spec, made, descends⟩
    rcases follows index _ before with ⟨later, place, follows⟩
    cases found.symm.trans place
    exact ⟨spec, made, descends.follow follows⟩
  case recalled => exact kept.recalled
  case since =>
    intro check member
    rcases kept.since check member with ⟨before, found, falls⟩
    rcases follows check.index before found with ⟨after, place, follows⟩
    exact ⟨after, place, falls.trans follows.falls⟩
  case ordered => exact kept.ordered

theorem Kept.setSession
    {index : Nat} {before after : XccSession Rest} (kept : Kept world)
    (found : world.sessions[index]? = some before)
    (follows : Follows before after) :
    Kept (world.setSession index after) := by
  apply kept.follow (List.length_set ..)
  intro other session there
  by_cases same : index = other
  · subst same
    cases found.symm.trans there
    refine ⟨after, ?_, follows⟩
    exact List.getElem?_set_self (List.getElem?_eq_some_iff.mp there).1
  · exact ⟨session, (List.getElem?_set_ne same).trans there, .refl session⟩

theorem Kept.map
    (change : XccSession Rest → XccSession Rest) (kept : Kept world)
    (follows : ∀ session, Follows session (change session)) :
    Kept { world with sessions := world.sessions.map change } := by
  apply kept.follow (List.length_map _)
  intro index session found
  refine ⟨change session, ?_, follows session⟩
  rw [List.getElem?_map, found]
  rfl

/-- Fields that no fact about the checks reads. -/
theorem Kept.frame
    (kept : Kept world) (generation : Nat) (stopping shutdownPosted : Bool) :
    Kept { world with generation, stopping, shutdownPosted } :=
  ⟨kept.length, kept.descends, kept.recalled, kept.since, kept.ordered⟩

/-! ## Steps -/

theorem Checked.follows
    {generation : Nat} {before after : XccSession Rest}
    {principal : XccPrincipal} {error : XccErrorCode}
    (checked : Checked generation before principal error after) :
    Follows before after := by
  have app := congrArg XccSession.appId checked.kept
  have owner := congrArg XccSession.ownerGeneration checked.kept
  constructor
  case app => exact app
  case owner => exact owner
  case falls => exact checked.falls

theorem Kept.coordinatorCheck
    {index : Nat} {session : XccSession Rest} (kept : Kept world)
    (found : world.sessions[index]? = some session)
    (principal : XccPrincipal) :
    Kept (coordinatorCheck world index session principal).2 := by
  have checked := principalCheck_checked world.generation session principal
  have changed := kept.setSession found checked.follows
  have place : (world.setSession index
      (principalCheck world.generation session principal).2).sessions[index]? =
        some (principalCheck world.generation session principal).2 :=
    List.getElem?_set_self (List.getElem?_eq_some_iff.mp found).1
  constructor
  case length => exact changed.length
  case descends => exact changed.descends
  case recalled =>
    intro check member
    rcases List.mem_cons.mp member with rfl | earlier
    · exact ⟨checked, kept.descends index session found⟩
    · exact changed.recalled check earlier
  case since =>
    intro check member
    rcases List.mem_cons.mp member with rfl | earlier
    · exact ⟨_, place, .refl _⟩
    · exact changed.since check earlier
  case ordered =>
    apply List.Pairwise.cons _ kept.ordered
    intro earlier member same
    rcases kept.since earlier member with ⟨before, there, falls⟩
    rw [← same] at there
    cases found.symm.trans there
    exact falls

theorem getElem?_append_some
    {Item : Type} {items : List Item} {index : Nat} {item : Item}
    (found : items[index]? = some item) (last : Item) :
    (items ++ [last])[index]? = some item := by
  rw [List.getElem?_append_left (List.getElem?_eq_some_iff.mp found).1]
  exact found

/-- A new session begins as its specification says. -/
theorem Kept.append
    {spec : XccSessionSpec} {session : XccSession Rest} (kept : Kept world)
    (begins : Descends spec session) :
    Kept { world with
      sessions := world.sessions ++ [session]
      created := world.created ++ [spec] } := by
  constructor
  case length => simp [kept.length]
  case descends =>
    intro index later found
    by_cases old : index < world.sessions.length
    · rw [List.getElem?_append_left old] at found
      rcases kept.descends index later found with ⟨made, place, descends⟩
      exact ⟨made, getElem?_append_some place spec, descends⟩
    · have inside := (List.getElem?_eq_some_iff.mp found).1
      have last : index = world.sessions.length := by
        rw [List.length_append, List.length_singleton] at inside
        omega
      subst last
      rw [List.getElem?_concat_length, Option.some.injEq] at found
      refine ⟨spec, ?_, found ▸ begins⟩
      rw [← kept.length]
      exact List.getElem?_concat_length
  case recalled =>
    intro check member
    have recalled := kept.recalled check member
    rcases recalled.descends with ⟨made, place, descends⟩
    exact ⟨recalled.checked, made, getElem?_append_some place spec,
      descends⟩
  case since =>
    intro check member
    rcases kept.since check member with ⟨before, found, falls⟩
    exact ⟨before, getElem?_append_some found session, falls⟩
  case ordered => exact kept.ordered

theorem Kept.xccSessionNew
    (kept : Kept world) (spec : XccSessionSpec) (rest : Rest) :
    Kept (xccSessionNew world spec rest).2 := by
  rw [Principals.xccSessionNew]
  cases app : spec.appId with
  | none => exact kept
  | some appId =>
      dsimp only
      split_ifs
      · exact kept
      · exact kept
      · apply kept.append
        constructor
        case app => exact app
        case owner => rfl
        case falls =>
          intro present
          rw [XccSession.recorded, if_pos present]
          exact .refl _

theorem Kept.xccRequestValidate
    {index : Nat} {session : XccSession Rest} (kept : Kept world)
    (found : world.sessions[index]? = some session) (request : XccRequest) :
    Kept (xccRequestValidate world request index session).2 := by
  rw [Principals.xccRequestValidate]
  split_ifs
  all_goals first | exact kept | exact kept.coordinatorCheck found _

/-- Every call keeps the record of all checks. -/
theorem Kept.step
    {action : Action Rest} {next : World Rest} (kept : Kept world)
    (moves : step world action = some next) : Kept next := by
  cases action with
  | sessionNew spec rest =>
      cases moves
      exact kept.xccSessionNew spec rest
  | checkPrincipal index principal =>
      rcases Option.map_eq_some_iff.mp moves with ⟨session, found, rfl⟩
      cases principal with
      | none => exact kept
      | some principal =>
          rw [xccSessionCheckPrincipal]
          split_ifs
          · exact kept
          · exact kept.coordinatorCheck found principal
  | acquireStart index principal validation cancellation =>
      rcases Option.map_eq_some_iff.mp moves with ⟨session, found, rfl⟩
      exact kept.xccRequestValidate found _
  | signStart index principal validation cancellation =>
      rcases Option.map_eq_some_iff.mp moves with ⟨session, found, rfl⟩
      exact kept.xccRequestValidate found _
  | close index =>
      rcases Option.map_eq_some_iff.mp moves with ⟨session, found, rfl⟩
      exact kept.setSession found ⟨rfl, rfl, .refl _⟩
  | operate index rest =>
      rcases Option.map_eq_some_iff.mp moves with ⟨session, found, rfl⟩
      exact kept.setSession found ⟨rfl, rfl, .refl _⟩
  | setOwnerGeneration generation =>
      cases moves
      apply (kept.map _ _).frame
      intro session
      split_ifs
      · exact ⟨rfl, rfl, .refl _⟩
      · exact .refl session
  | stop =>
      cases moves
      apply (kept.map _ _).frame
      exact fun session => ⟨rfl, rfl, .refl _⟩
  | postShutdown =>
      rw [Principals.step] at moves
      split_ifs at moves
      cases moves
      exact kept.frame ..

theorem kept_of_reachable
    (reachable : (machine Rest).Reachable world) : Kept world := by
  apply reachable.invariant
  · intro state start
    rcases start with ⟨sessions, created, checks⟩
    constructor
    case length => rw [sessions, created]; rfl
    case descends => simp [sessions]
    case recalled => simp [checks]
    case since => simp [checks]
    case ordered => simp [checks]
  · intro state action next _ kept moves
    exact kept.step moves

/-! ## Requests of sessions -/

/-- A request that is not let through changes no session. -/
theorem coordinatorCheck_refused
    {index : Nat} {session : XccSession Rest} {principal : XccPrincipal}
    (found : world.sessions[index]? = some session)
    (refused : (coordinatorCheck world index session principal).1 ≠ .ok) :
    (coordinatorCheck world index session principal).2.sessions =
      world.sessions := by
  have checked := principalCheck_checked world.generation session principal
  have same := checked.refused refused
  show world.sessions.set index
      (principalCheck world.generation session principal).2 = world.sessions
  rw [same]
  rcases List.getElem?_eq_some_iff.mp found with ⟨inside, rfl⟩
  exact List.set_getElem_self inside

theorem xccSessionCheckPrincipal_refused
    {index : Nat} {session : XccSession Rest}
    {principal : Option XccPrincipal}
    (found : world.sessions[index]? = some session)
    (refused :
      (xccSessionCheckPrincipal world index session principal).1 ≠ .ok) :
    (xccSessionCheckPrincipal world index session principal).2.sessions =
      world.sessions := by
  cases principal with
  | none => rfl
  | some principal =>
      rw [xccSessionCheckPrincipal] at refused ⊢
      split_ifs at refused ⊢
      · rfl
      · exact coordinatorCheck_refused found refused

theorem xccRequestValidate_refused
    {index : Nat} {session : XccSession Rest} {request : XccRequest}
    (found : world.sessions[index]? = some session)
    (refused :
      (xccRequestValidate world request index session).1 ≠ .ok) :
    (xccRequestValidate world request index session).2.sessions =
      world.sessions := by
  rw [xccRequestValidate] at refused ⊢
  split_ifs at refused ⊢
  all_goals first | rfl | exact coordinatorCheck_refused found refused

/-- A request that is let through was checked. -/
theorem xccRequestValidate_accepted
    {index : Nat} {session : XccSession Rest} {request : XccRequest}
    (accepted : (xccRequestValidate world request index session).1 = .ok) :
    xccRequestValidate world request index session =
      coordinatorCheck world index session request.principal := by
  rw [xccRequestValidate] at accepted ⊢
  split_ifs at accepted ⊢ with _ _ code _ validation
  · exact absurd accepted code
  · exact absurd accepted validation
  · rfl

/-- A request for a certificate states an assurance, the weakest if none is
known. -/
theorem acquireAsync_level
    {index : Nat} {principal : Option XccPrincipal}
    {validation : XccErrorCode} {cancellation : Cancellation}
    (accepted : (acquireAsync index principal validation
      cancellation).validationError = .ok) :
    (acquireAsync index principal validation
      cancellation).principal.identityPresent = true := by
  cases principal with
  | none => cases accepted
  | some principal =>
      simp only [acquireAsync] at accepted ⊢
      split_ifs at accepted ⊢ <;> rfl

/-- A request for a certificate that is let through records its assurance. -/
theorem acquireAsync_recorded
    {index : Nat} {session : XccSession Rest} {request : XccRequest}
    {principal : Option XccPrincipal} {validation : XccErrorCode}
    {cancellation : Cancellation}
    (found : world.sessions[index]? = some session)
    (made : acquireAsync index principal validation cancellation = request)
    (accepted : (xccRequestValidate world request index session).1 = .ok) :
    ∃ later,
      (xccRequestValidate world request index session).2.sessions[index]? =
          some later ∧
        later.recorded = some request.principal.identityLevel := by
  have valid : request.validationError = .ok := by
    by_contra invalid
    rw [xccRequestValidate] at accepted
    split_ifs at accepted with _ _ code
    · exact code accepted
    · exact invalid accepted
  have present : request.principal.identityPresent = true := by
    subst made
    exact acquireAsync_level valid
  have same := xccRequestValidate_accepted accepted
  rw [same] at accepted ⊢
  have checked :=
    principalCheck_checked world.generation session request.principal
  refine ⟨(principalCheck world.generation session request.principal).2,
    ?_, checked.stated accepted present⟩
  exact List.getElem?_set_self (List.getElem?_eq_some_iff.mp found).1

/-- What is true of all checks so far, and of the next one. -/
structure Ratchets (world : World Rest) : Prop where
  entitled : ∀ check ∈ world.checks, check.error = .ok →
    Entitled check.generation check.before check.principal ∧
      ∃ spec, world.created[check.index]? = some spec ∧
        check.principal.appId = spec.appId ∧
        check.principal.ownerGeneration = spec.ownerGeneration
  falls : ∀ index,
    ((world.checks.filter fun check => check.index = index).map fun check =>
        check.after.recorded).Pairwise fun later earlier =>
      AtLeast earlier later
  first : ∀ check ∈ world.checks, ∀ spec,
    world.created[check.index]? = some spec →
      spec.identityPresent = true →
        AtLeast (some spec.identityLevel) check.after.recorded
  stated : ∀ check ∈ world.checks, check.error = .ok →
    check.principal.identityPresent = true →
      check.after.recorded = some check.principal.identityLevel
  unchanged : ∀ check ∈ world.checks, check.error ≠ .ok →
    check.after = check.before
  adapter : ∀ (index : Nat) session principal,
    world.sessions[index]? = some session →
      (xccSessionCheckPrincipal world index session principal).1 ≠ .ok →
        (xccSessionCheckPrincipal world index session principal).2.sessions =
          world.sessions
  core : ∀ (index : Nat) session request,
    world.sessions[index]? = some session →
      if (xccRequestValidate world request index session).1 = .ok then
        xccRequestValidate world request index session =
          coordinatorCheck world index session request.principal
      else
        (xccRequestValidate world request index session).2.sessions =
          world.sessions
  acquire : ∀ (index : Nat) session principal validation cancellation request,
    world.sessions[index]? = some session →
      acquireAsync index principal validation cancellation = request →
        (xccRequestValidate world request index session).1 = .ok →
          ∃ later,
            (xccRequestValidate world request index
                session).2.sessions[index]? = some later ∧
              later.recorded = some request.principal.identityLevel

/-- The assurance of a session falls from check to check. -/
theorem Kept.falls (kept : Kept world) (index : Nat) :
    ((world.checks.filter fun check => check.index = index).map fun check =>
        check.after.recorded).Pairwise fun later earlier =>
      AtLeast earlier later := by
  rw [List.pairwise_map]
  have ordered := kept.ordered.filter fun check => check.index = index
  apply ordered.imp_of_mem
  intro later earlier here there falls
  rw [List.mem_filter, decide_eq_true_eq] at here there
  apply (falls (here.2.trans there.2.symm)).trans
  exact (kept.recalled later here.1).checked.falls

/-- The checks of the adapter and of the core let through what belongs to a
session, and its assurance never rises. -/
theorem ratchets_of_reachable
    {world : World Rest} (reachable : (machine Rest).Reachable world) :
    Ratchets world := by
  have kept := kept_of_reachable reachable
  constructor
  case entitled =>
    intro check member accepted
    have recalled := kept.recalled check member
    have entitled := recalled.checked.entitled accepted
    rcases recalled.descends with ⟨spec, made, descends⟩
    refine ⟨entitled, spec, made, ?_, ?_⟩
    · exact entitled.app.trans descends.app.symm
    · exact entitled.owner.trans descends.owner.symm
  case falls => exact kept.falls
  case first =>
    intro check member spec made present
    have recalled := kept.recalled check member
    rcases recalled.descends with ⟨found, place, descends⟩
    cases made.symm.trans place
    exact (descends.falls present).trans recalled.checked.falls
  case stated =>
    intro check member accepted present
    exact (kept.recalled check member).checked.stated accepted present
  case unchanged =>
    intro check member refused
    exact (kept.recalled check member).checked.refused refused
  case adapter =>
    intro index session principal found refused
    exact xccSessionCheckPrincipal_refused found refused
  case core =>
    intro index session request found
    split_ifs with accepted
    · exact xccRequestValidate_accepted accepted
    · exact xccRequestValidate_refused found accepted
  case acquire =>
    intro index session principal validation cancellation request found
      made accepted
    exact acquireAsync_recorded found made accepted

/-- A principal of one application, at a level. -/
def appPrincipal (level : Nat) : XccPrincipal :=
  ⟨sizeofXccPrincipal, xccAbiVersion, 7, some "org.example.Core",
    level, true⟩

/-- An assurance that has fallen does not rise again. -/
theorem ratchets_fallen :
    ∃ world : World Unit, Ratchets world ∧
      world.checks.map Check.error = [.noSuchSession, .ok, .ok] := by
  let start : World Unit := ⟨7, false, false, [], [], []⟩
  let spec : XccSessionSpec := ⟨40, xccAbiVersion, 7,
    some "org.example.Core", 0, true⟩
  have outcome : ((machine Unit).run start
      [.sessionNew spec (), .checkPrincipal 0 (some (appPrincipal 1)),
        .acquireStart 0 (some (appPrincipal 2)) .ok ⟨0, .ok, false⟩,
        .checkPrincipal 0 (some (appPrincipal 1))]).any (fun world =>
      world.checks.map Check.error = [.noSuchSession, .ok, .ok]) = true := by
    decide +kernel
  rcases (Option.any_eq_true ..).mp outcome with ⟨world, moves, errors⟩
  have begins : (machine Unit).initial start := ⟨rfl, rfl, rfl⟩
  have reachable := (System.Reachable.initial begins).run moves
  exact ⟨world, ratchets_of_reachable reachable, of_decide_eq_true errors⟩

end PortalCertificate.Core.Principals
