import PortalCertificate.Broker.Device
import PortalCertificate.Library.Trace
import PortalCertificate.Library.Transition

/-!
# The key that a device uses

A device is opened, refreshed, logged in, used and closed in any order, for
any candidates and with any answers of the tokens.  A use of a key is judged
by the history before it: which session was open and on which token, by which
`CKA_ID` the key was found, and whether a logout was seen since.

The device is bound to the candidate that it was opened for.  It is used
again for a candidate with the same certificate on the same token, and a
login searches for the candidate that it is given.  Neither compares the
`CKA_ID`.
-/

namespace PortalCertificate.Broker.DeviceBinding

open PortalCertificate.Broker.Device
open PortalCertificate.Library.Der (Octets)
open PortalCertificate.Library.Trace
open PortalCertificate.Library.Transition
open PortalCertificate.Pkcs11
open PortalCertificate.Tokens.Discovery

/-! ## The machine -/

/-- A function of `device.h`, with the answers of the token. -/
inductive Action where
  | deviceOpen (candidate : CertificateCandidate) (answers : OpenAnswers)
  | deviceRefreshLogin (info : Except CkUlong CkUlong)
      (found : Option (List CkUlong))
  | deviceLogin (candidate : CertificateCandidate) (rv : CkUlong)
      (found : Option (List CkUlong))
  | devicePerform (decrypt : Bool) (answers : PerformAnswers)
  | deviceClose

/-- An open is noted with its result. -/
def openNoted
    (state : State) (candidate : CertificateCandidate)
    (answers : OpenAnswers) : State :=
  match certificateDeviceOpen state candidate answers with
  | (state, .ok ()) => state.emit (.granted candidate)
  | (state, .error _) => state.emit .refused

/-- The call of one of the functions. -/
def step (state : State) : Action → State
  | .deviceOpen candidate answers => openNoted state candidate answers
  | .deviceRefreshLogin info found =>
      (certificateDeviceRefreshLogin state info found).1
  | .deviceLogin candidate rv found =>
      (certificateDeviceLogin state candidate rv found).1
  | .devicePerform decrypt answers =>
      (certificateDevicePerform state decrypt answers).1
  | .deviceClose => certificateDeviceClose state

/-- A device that is closed at first, and any calls of its functions. -/
def machine : System State Action where
  initial state := state = ⟨.closed, []⟩
  step state action := some (step state action)

/-! ## What a history tells -/

/-- The candidate of the last open, unless it failed or was closed since. -/
def grantedFor (trace : List Event) : Option CertificateCandidate :=
  (trace.findSome? fun
    | .granted candidate => some (some candidate)
    | .refused => some none
    | .opened .. => some none
    | .closed => some none
    | _ => none).join

/-- The session was last seen to be logged in. -/
def seenLoggedIn : List Event → Bool
  | [] => false
  | .observed loggedIn :: _ => loggedIn
  | .opened .. :: _ => false
  | .closed :: _ => false
  | _ :: before => seenLoggedIn before

/-- The session is the open one, and its token is the same as this one. -/
def OpenOn (session : CkUlong) (token : CertificateToken) :
    List Event → Prop
  | [] => False
  | .opened opened present :: _ =>
      opened = session ∧ certificateTokenSame present token = true
  | .closed :: _ => False
  | _ :: before => OpenOn session token before

/-- The key has been found on the session by the `CKA_ID`, and no logout
was observed since. -/
def Obtained (session key : CkUlong) (ckaId : Option Octets) :
    List Event → Prop
  | [] => False
  | .searched on identifier found :: before =>
      (on = session ∧ identifier = ckaId ∧
        ∃ others, found = some (key :: others)) ∨
        Obtained session key ckaId before
  | .observed loggedIn :: before =>
      (seenLoggedIn before = true → loggedIn = true) ∧
        Obtained session key ckaId before
  | .opened .. :: _ => False
  | .closed :: _ => False
  | _ :: before => Obtained session key ckaId before

/-- Every key that was used had been found on the open session.  If the last
open has succeeded, then the session is on the token of its candidate, and
the key was found by the `CKA_ID` of the candidate where `exact`. -/
def UsesBoundKeys (exact : Prop) : List Event → Prop :=
  Each fun event before => ∀ session key, event = .used session key →
    ∃ ckaId, Obtained session key ckaId before ∧
      ∀ candidate, grantedFor before = some candidate →
        OpenOn session candidate.token before ∧
          (exact → ckaId = candidate.ckaId)

theorem OpenOn.same
    {session : CkUlong} {token other : CertificateToken}
    {trace : List Event} (isOpen : OpenOn session token trace)
    (same : certificateTokenSame token other = true) :
    OpenOn session other trace := by
  induction trace with
  | nil => exact isOpen
  | cons event trace ih =>
      cases event with
      | opened opened present =>
          exact ⟨isOpen.1, certificateTokenSame_trans isOpen.2 same⟩
      | closed => exact isOpen
      | searched | observed | used | granted | refused => exact ih isOpen

/-! ## The session is kept -/

/-- The session is the same, and the history has no open since. -/
structure SameSession (earlier later : State) : Prop where
  module : later.device.module = earlier.device.module
  session : later.device.session = earlier.device.session
  candidate : later.device.candidate = earlier.device.candidate
  isOpen : ∀ session token, OpenOn session token earlier.trace →
    OpenOn session token later.trace
  grantedFor : grantedFor later.trace = grantedFor earlier.trace

theorem SameSession.refl (state : State) : SameSession state state :=
  ⟨rfl, rfl, rfl, fun _ _ isOpen => isOpen, rfl⟩

theorem SameSession.trans
    {first second third : State} (here : SameSession first second)
    (there : SameSession second third) : SameSession first third where
  module := there.module.trans here.module
  session := there.session.trans here.session
  candidate := there.candidate.trans here.candidate
  isOpen session token isOpen :=
    there.isOpen session token (here.isOpen session token isOpen)
  grantedFor := there.grantedFor.trans here.grantedFor

theorem sameSession_findPrivateKey
    (state : State) (candidate : CertificateCandidate)
    (found : Option (List CkUlong)) :
    SameSession state (findPrivateKey state candidate found) := by
  unfold findPrivateKey
  split <;>
    exact ⟨rfl, rfl, rfl, fun _ _ isOpen => isOpen, rfl⟩

theorem sameSession_noteLogin (state : State) (loggedIn : Bool) :
    SameSession state (noteLogin state loggedIn) :=
  ⟨rfl, rfl, rfl, fun _ _ isOpen => isOpen, rfl⟩

/-- A refresh notes the state, and may search for its own candidate. -/
theorem refreshLogin_cases
    (state : State) (info : Except CkUlong CkUlong)
    (found : Option (List CkUlong)) :
    (certificateDeviceRefreshLogin state info found).1 = state ∨
      ∃ loggedIn,
        (certificateDeviceRefreshLogin state info found).1 =
            noteLogin state loggedIn ∨
          ∃ own, state.device.candidate = some own ∧
            (certificateDeviceRefreshLogin state info found).1 =
              findPrivateKey (noteLogin state loggedIn) own found := by
  unfold certificateDeviceRefreshLogin
  split
  · exact .inl rfl
  cases info with
  | error rv => exact .inl rfl
  | ok session =>
      right
      use session == cksRoUserFunctions || session == cksRwUserFunctions
      dsimp only
      split
      · split
        next => exact .inl rfl
        next own bound => exact .inr ⟨own, bound, rfl⟩
      · exact .inl rfl

theorem sameSession_refreshLogin
    (state : State) (info : Except CkUlong CkUlong)
    (found : Option (List CkUlong)) :
    SameSession state (certificateDeviceRefreshLogin state info found).1 := by
  rcases refreshLogin_cases state info found with
    same | ⟨loggedIn, noted | ⟨own, -, searched⟩⟩
  · rw [same]
    exact .refl state
  · rw [noted]
    exact sameSession_noteLogin state loggedIn
  · rw [searched]
    exact (sameSession_noteLogin state loggedIn).trans
      (sameSession_findPrivateKey ..)

/-! ## The invariant -/

/-- The device is open for the candidate. -/
structure GrantedTo
    (exact : Prop) (state : State) (candidate : CertificateCandidate) :
    Prop where
  module : state.device.module.isSome = true
  session : OpenOn state.device.session candidate.token state.trace
  ckaId : exact → ∀ own, state.device.candidate = some own →
    own.ckaId = candidate.ckaId

theorem GrantedTo.sameSession
    {exact : Prop} {earlier later : State}
    {candidate : CertificateCandidate}
    (granted : GrantedTo exact earlier candidate)
    (same : SameSession earlier later) :
    GrantedTo exact later candidate where
  module := by
    rw [same.module]
    exact granted.module
  session := by
    rw [same.session]
    exact same.isOpen _ _ granted.session
  ckaId := by
    rw [same.candidate]
    exact granted.ckaId

/-- The device is what the trace says of it, and has used keys of its own
only. -/
structure Bound (exact : Prop) (state : State) : Prop where
  uses : UsesBoundKeys exact state.trace
  loggedIn : state.device.loggedIn = seenLoggedIn state.trace
  candidate : state.device.module.isSome = true →
    ∃ own, state.device.candidate = some own ∧
      OpenOn state.device.session own.token state.trace
  key : state.device.privateKey ≠ ckInvalidHandle →
    ∃ ckaId, Obtained state.device.session state.device.privateKey ckaId
        state.trace ∧
      (exact → ∀ own, state.device.candidate = some own →
        ckaId = own.ckaId)
  granted : ∀ candidate, grantedFor state.trace = some candidate →
    GrantedTo exact state candidate

section Steps

variable {exact : Prop} {state : State}

/-- A search for the candidate of the device, or one that finds nothing. -/
theorem Bound.findPrivateKey
    (bound : Bound exact state) {candidate : CertificateCandidate}
    {found : Option (List CkUlong)}
    (own : ∀ key others, found = some (key :: others) → exact →
      ∀ own, state.device.candidate = some own →
        candidate.ckaId = own.ckaId) :
    Bound exact (findPrivateKey state candidate found) where
  uses := by
    have uses : UsesBoundKeys exact (.searched state.device.session
        candidate.ckaId found :: state.trace) :=
      each_cons.mpr ⟨nofun, bound.uses⟩
    unfold Device.findPrivateKey
    split <;> exact uses
  loggedIn := by
    unfold Device.findPrivateKey
    split <;> exact bound.loggedIn
  candidate := by
    unfold Device.findPrivateKey
    split <;> exact bound.candidate
  key := by
    unfold Device.findPrivateKey
    split
    next key others =>
      intro _
      exact ⟨candidate.ckaId, .inl ⟨rfl, rfl, others, rfl⟩,
        own key others rfl⟩
    next =>
      intro present
      rcases bound.key present with ⟨ckaId, obtained, same⟩
      exact ⟨ckaId, .inr obtained, same⟩
  granted other granted :=
    have same := sameSession_findPrivateKey state candidate found
    (bound.granted other (same.grantedFor ▸ granted)).sameSession same

/-- A key that is kept was not found before a logout. -/
theorem Bound.noteLogin
    (bound : Bound exact state) (loggedIn : Bool) :
    Bound exact (noteLogin state loggedIn) where
  uses := each_cons.mpr ⟨nofun, bound.uses⟩
  loggedIn := rfl
  candidate := bound.candidate
  key := by
    intro present
    dsimp only [Device.noteLogin] at present ⊢
    split at present
    next => exact absurd rfl present
    next lasts =>
      rw [if_neg lasts]
      rcases bound.key present with ⟨ckaId, obtained, same⟩
      rw [bound.loggedIn] at lasts
      refine ⟨ckaId, ⟨?_, obtained⟩, same⟩
      intro before
      simpa [before] using lasts
  granted other granted :=
    (bound.granted other granted).sameSession
      (sameSession_noteLogin state loggedIn)

theorem Bound.refreshLogin
    (bound : Bound exact state) (info : Except CkUlong CkUlong)
    (found : Option (List CkUlong)) :
    Bound exact (certificateDeviceRefreshLogin state info found).1 := by
  rcases refreshLogin_cases state info found with
    same | ⟨loggedIn, noted | ⟨own, isOwn, searched⟩⟩
  · rw [same]
    exact bound
  · rw [noted]
    exact bound.noteLogin loggedIn
  · rw [searched]
    apply (bound.noteLogin loggedIn).findPrivateKey
    rintro key others - - other isOther
    cases isOwn.symm.trans isOther
    rfl

/-- `certificate_device_close` keeps the device bound. -/
theorem Bound.close (bound : Bound exact state) :
    Bound exact (certificateDeviceClose state) := by
  unfold certificateDeviceClose
  split
  next closed =>
    have notOpen : ¬ state.device.module.isSome = true := by simp [closed]
    constructor
    · exact bound.uses
    · exact bound.loggedIn
    · exact fun isOpen => absurd isOpen notOpen
    · intro present
      rcases bound.key present with ⟨ckaId, obtained, -⟩
      refine ⟨ckaId, obtained, ?_⟩
      intro _ own isOwn
      cases isOwn
    · exact fun candidate granted =>
        absurd (bound.granted candidate granted).module notOpen
  next =>
    constructor
    · exact each_cons.mpr ⟨nofun, bound.uses⟩
    · rfl
    · exact nofun
    · exact fun present => absurd rfl present
    · intro other granted
      cases granted

theorem certificateTokensOpenSession_same
    {token : CertificateToken} {slots : List SlotAnswer}
    {opened : Nat × CkUlong × CertificateToken}
    (opens : certificateTokensOpenSession token slots = .ok opened) :
    certificateTokenSame opened.2.2 token = true := by
  induction slots with
  | nil => cases opens
  | cons slot slots ih =>
      unfold certificateTokensOpenSession at opens
      split at opens
      next => exact ih opens
      next present _ =>
        split_ifs at opens with differs
        · exact ih opens
        · exact ih opens
        · split at opens
          next => cases opens
          next =>
            cases opens
            simpa using differs

/-- A session that has just been opened for a candidate. -/
theorem bound_opened
    {trace : List Event} (uses : UsesBoundKeys exact trace)
    {device : CertificateDevice} {candidate : CertificateCandidate}
    {present : CertificateToken}
    (keyless : device.privateKey = ckInvalidHandle)
    (loggedOut : device.loggedIn = false)
    (own : device.candidate = some candidate)
    (same : certificateTokenSame present candidate.token = true) :
    Bound exact ⟨device, .opened device.session present :: trace⟩ where
  uses := each_cons.mpr ⟨nofun, uses⟩
  loggedIn := loggedOut
  candidate _ := ⟨candidate, own, rfl, same⟩
  key present := absurd keyless present
  granted other granted := by cases granted

/-- A new session is bound to the candidate that it is opened for. -/
theorem Bound.openSession
    (bound : Bound exact state) (closed : state.device.module = none)
    (candidate : CertificateCandidate) (answers : OpenAnswers) :
    Bound exact (openSession state candidate answers).1 ∧
      ((openSession state candidate answers).2 = .ok () →
        GrantedTo exact (openSession state candidate answers).1
          candidate) := by
  unfold Device.openSession
  dsimp only
  split
  next error _ =>
    refine ⟨⟨bound.uses, bound.loggedIn, nofun, ?_, ?_⟩, nofun⟩
    · exact fun present => absurd rfl present
    · intro other granted
      have isOpen := (bound.granted other granted).module
      simp [closed] at isOpen
  next module session present opens =>
    have same := certificateTokensOpenSession_same opens
    constructor
    · apply Bound.refreshLogin
      apply Bound.findPrivateKey
      · exact bound_opened bound.uses rfl rfl rfl same
      · rintro key others - - own isOwn
        cases isOwn
        rfl
    · intro _
      refine GrantedTo.sameSession ?_ (.trans
        (sameSession_findPrivateKey ..) (sameSession_refreshLogin ..))
      refine ⟨rfl, ⟨rfl, same⟩, ?_⟩
      rintro - own isOwn
      cases isOwn
      rfl

/-- The device is bound to no candidate with another `CKA_ID`. -/
def HasCkaId
    (device : CertificateDevice) (candidate : CertificateCandidate) : Prop :=
  ∀ own, device.candidate = some own → candidate.ckaId = own.ckaId

/-- `certificate_device_open` keeps the device bound, and leaves it granted to
the candidate if it succeeds. -/
theorem Bound.open
    (bound : Bound exact state) {candidate : CertificateCandidate}
    (hasCkaId : exact → state.device.module.isSome = true →
      deviceIsBoundTo state.device candidate = true →
      HasCkaId state.device candidate)
    (answers : OpenAnswers) :
    Bound exact (certificateDeviceOpen state candidate answers).1 ∧
      ((certificateDeviceOpen state candidate answers).2 = .ok () →
        GrantedTo exact (certificateDeviceOpen state candidate answers).1
          candidate) := by
  unfold certificateDeviceOpen
  split_ifs with isOpen isBound
  · refine ⟨bound.refreshLogin _ _, fun _ => GrantedTo.sameSession ?_
      (sameSession_refreshLogin ..)⟩
    rcases bound.candidate isOpen with ⟨own, isOwn, session⟩
    have same : own.certificateId = candidate.certificateId ∧
        certificateTokenSame own.token candidate.token = true := by
      simpa only [deviceIsBoundTo, isOwn, Option.any_some,
        Bool.and_eq_true, decide_eq_true_eq] using isBound
    refine ⟨isOpen, session.same same.2, ?_⟩
    intro ids other isOther
    exact (hasCkaId ids isOpen isBound other isOther).symm
  · apply bound.close.openSession
    unfold certificateDeviceClose
    split
    next closed => exact closed
    next => rfl
  · exact bound.openSession (by simpa using isOpen) candidate answers

theorem Bound.openNoted
    (bound : Bound exact state) {candidate : CertificateCandidate}
    (hasCkaId : exact → state.device.module.isSome = true →
      deviceIsBoundTo state.device candidate = true →
      HasCkaId state.device candidate)
    (answers : OpenAnswers) :
    Bound exact (openNoted state candidate answers) := by
  have opened := bound.open hasCkaId answers
  unfold DeviceBinding.openNoted
  generalize certificateDeviceOpen state candidate answers = result
    at opened
  rcases result with ⟨next, error | ⟨⟩⟩
  · rcases opened with ⟨⟨uses, loggedIn, own, key, -⟩, -⟩
    refine ⟨each_cons.mpr ⟨nofun, uses⟩, loggedIn, own, key, ?_⟩
    intro other granted
    cases granted
  · rcases opened with ⟨⟨uses, loggedIn, own, key, -⟩, granted⟩
    refine ⟨each_cons.mpr ⟨nofun, uses⟩, loggedIn, own, key, ?_⟩
    intro other isOther
    cases isOther
    rcases granted rfl with ⟨module, session, ckaId⟩
    exact ⟨module, session, ckaId⟩

/-- `certificate_device_login` keeps the device bound. -/
theorem Bound.login
    (bound : Bound exact state) {candidate : CertificateCandidate}
    {rv : CkUlong} {found : Option (List CkUlong)}
    (hasCkaId : exact → (rv = ckrOk ∨ rv = ckrUserAlreadyLoggedIn) →
      state.device.privateKey = ckInvalidHandle →
      ∀ key others, found = some (key :: others) →
      HasCkaId state.device candidate) :
    Bound exact (certificateDeviceLogin state candidate rv found).1 := by
  unfold certificateDeviceLogin
  split_ifs with closed fails
  · exact bound
  · exact bound
  dsimp only
  split_ifs with keyless
  · apply (bound.noteLogin true).findPrivateKey
    intro key others isFound ids
    have succeeds : rv = ckrOk ∨ rv = ckrUserAlreadyLoggedIn := by
      by_contra neither
      exact fails (by simpa using not_or.mp neither)
    have absent : state.device.privateKey = ckInvalidHandle := by
      simpa [Device.noteLogin] using keyless
    exact hasCkaId ids succeeds absent key others isFound
  · exact bound.noteLogin true

/-- The key of the device is used, which is the key that was found. -/
theorem Bound.used
    (bound : Bound exact state)
    (present : state.device.privateKey ≠ ckInvalidHandle) :
    Bound exact (state.emit
      (.used state.device.session state.device.privateKey)) where
  uses := by
    refine each_cons.mpr ⟨?_, bound.uses⟩
    rintro session key isUsed
    cases isUsed
    rcases bound.key present with ⟨ckaId, obtained, same⟩
    refine ⟨ckaId, obtained, ?_⟩
    intro candidate granted
    rcases bound.granted candidate granted with ⟨isOpen, session, ids⟩
    rcases bound.candidate isOpen with ⟨own, isOwn, -⟩
    exact ⟨session, fun exact =>
      (same exact own isOwn).trans (ids exact own isOwn)⟩
  loggedIn := bound.loggedIn
  candidate := bound.candidate
  key := bound.key
  granted other granted :=
    (bound.granted other granted).sameSession
      ⟨rfl, rfl, rfl, fun _ _ isOpen => isOpen, rfl⟩

/-- An operation keeps the device bound. -/
theorem Bound.perform
    (bound : Bound exact state) (decrypt : Bool)
    (answers : PerformAnswers) :
    Bound exact (certificateDevicePerform state decrypt answers).1 := by
  unfold certificateDevicePerform
  split
  · exact bound
  split
  · exact bound
  next absent =>
    have used := bound.used (by simpa using absent)
    dsimp only
    split
    · exact used
    · split
      · exact used.close
      · exact used

end Steps

/-! ## Runs -/

/-- A device that is used again, and one with a key from a login, is bound to
a candidate with the same `CKA_ID`. -/
def SameCkaId (state : State) : Action → Prop
  | .deviceOpen candidate _ =>
      state.device.module.isSome = true →
      deviceIsBoundTo state.device candidate = true →
      HasCkaId state.device candidate
  | .deviceLogin candidate rv found =>
      (rv = ckrOk ∨ rv = ckrUserAlreadyLoggedIn) →
      state.device.privateKey = ckInvalidHandle →
      ∀ key others, found = some (key :: others) →
      HasCkaId state.device candidate
  | _ => True

theorem bound_initial (exact : Prop) : Bound exact ⟨.closed, []⟩ where
  uses := each_nil
  loggedIn := rfl
  candidate := nofun
  key present := absurd rfl present
  granted other granted := by cases granted

/-- Every call of the functions keeps the device bound. -/
theorem Bound.step
    {exact : Prop} {state : State} (bound : Bound exact state)
    (action : Action) (same : exact → SameCkaId state action) :
    Bound exact (DeviceBinding.step state action) := by
  cases action with
  | deviceOpen candidate answers => exact bound.openNoted same answers
  | deviceRefreshLogin info found => exact bound.refreshLogin info found
  | deviceLogin candidate rv found => exact bound.login same
  | devicePerform decrypt answers => exact bound.perform decrypt answers
  | deviceClose => exact bound.close

theorem bound_of_reachable
    {exact : Prop} {guard : State → Action → Prop} {state : State}
    (reachable : machine.ReachableBy guard state)
    (same : exact → ∀ state action, guard state action →
      SameCkaId state action) :
    Bound exact state := by
  apply System.ReachableBy.invariant _ _ reachable
  · rintro _ rfl
    exact bound_initial exact
  · intro state action next _ bound meets moves
    cases moves
    exact bound.step action fun ids => same ids state action meets

/-- In every run a key is used on the session that it was found on, whose
token is the one of the open, and never after a logout was observed. -/
theorem uses_session_keys
    {state : State} (reachable : machine.Reachable state) :
    UsesBoundKeys False state.trace := by
  exact (bound_of_reachable reachable False.elim).uses

/-- While the identifiers agree, the key was found for the candidate of the
open. -/
theorem device_binding
    {state : State} (reachable : machine.ReachableBy SameCkaId state) :
    UsesBoundKeys True state.trace :=
  (bound_of_reachable reachable fun _ _ _ meets => meets).uses

/-! ## Two candidates of one certificate -/

section Example

/-- A card that needs a login. -/
def exampleToken : CertificateToken where
  label := some "Card"
  manufacturer := some "Maker"
  model := some "Model"
  serial := some "1"
  readerName := none
  protectedAuthenticationPath := false
  loginRequired := true

/-- A certificate that is on the token more than once. -/
def exampleCandidate (ckaId : Octets) : CertificateCandidate where
  token := exampleToken
  der := [48]
  ckaId := some ckaId
  certificateId := some "digest"
  issuerDer := none
  notBefore := 0
  notAfter := 0
  ekuOids := none
  keyUsage := none
  pivSlot := none
  keyType := "RSA"
  keySize := 2048
  keyCurve := none
  canSign := true
  canDecrypt := false
  supportedMechanisms := []

/-- The token shows its keys without a login. -/
def exampleOpen (key : CkUlong) : OpenAnswers where
  slots := [⟨0, some exampleToken, false, .ok 7⟩]
  found := some [key]
  info := .ok 0
  refound := none

/-- A signature that the token makes. -/
def examplePerform : PerformAnswers where
  alwaysAuthenticate := false
  init := ckrOk
  authenticate := none
  result := .ok [1]

/-- A device that was opened and used. -/
theorem device_binding_use :
    ∃ state, machine.run ⟨.closed, []⟩
        [.deviceOpen (exampleCandidate [1]) (exampleOpen 5),
          .devicePerform false examplePerform] = some state ∧
      state.trace.head? = some (.used 7 5) ∧
      UsesBoundKeys True state.trace := by
  have start : machine.ReachableBy SameCkaId ⟨.closed, []⟩ :=
    .initial rfl
  have opened := start.act
    (.deviceOpen (exampleCandidate [1]) (exampleOpen 5)) nofun rfl
  have used := opened.act (.devicePerform false examplePerform) trivial rfl
  exact ⟨_, rfl, by decide, device_binding used⟩

/-- The device is opened for another copy of the certificate, and uses the
key of the first. -/
theorem device_keeps_first_key :
    ∃ state, machine.Reachable state ∧
      ¬ UsesBoundKeys True state.trace := by
  have moved : ∃ state, machine.run ⟨.closed, []⟩
      [.deviceOpen (exampleCandidate [1]) (exampleOpen 5),
        .deviceOpen (exampleCandidate [2]) (exampleOpen 6),
        .devicePerform false examplePerform] = some state ∧
      state.trace =
        [.used 7 5, .granted (exampleCandidate [2]), .observed false,
          .granted (exampleCandidate [1]), .observed false,
          .searched 7 (some [1]) (some [5]), .opened 7 exampleToken] :=
    ⟨_, rfl, by decide⟩
  rcases moved with ⟨state, moved, history⟩
  refine ⟨state, (System.Reachable.initial rfl).run moved, ?_⟩
  rw [history]
  intro bound
  rcases bound [] (.used 7 5) _ rfl 7 5 rfl with
    ⟨ckaId, obtained, granted⟩
  have first : some [1] = ckaId :=
    obtained.2.2.elim (fun found => found.2.1) False.elim
  have second := (granted (exampleCandidate [2]) rfl).2 trivial
  cases first.trans second

end Example

end PortalCertificate.Broker.DeviceBinding
