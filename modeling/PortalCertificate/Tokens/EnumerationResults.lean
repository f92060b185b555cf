import PortalCertificate.Tokens.Enumeration

/-!
# What an enumeration returns

Every session is closed, every search that exceeds the limit makes the
enumeration fail, and every candidate comes with evidence of its key from the
session of its own token.  A cancellation that is first noticed in front of a
certificate object only ends the loop over these objects, and is left to the
check in front of the next slot.  In the last slot there is none, and a part
of the list is returned.
-/

namespace PortalCertificate.Tokens.EnumerationResults

open PortalCertificate.Library.Der (Octets)
open PortalCertificate.Pkcs11
open PortalCertificate.Tokens.Discovery
open PortalCertificate.Tokens.Enumeration
open PortalCertificate.Tokens.ObjectSearch
  (SearchAnswers SearchError certificatePkcs11FindObjects)
open PortalCertificate.Tokens.SizedCalls

/-! ## Moments -/

theorem isCancelled_later
    {cancellation : Option Moment} {now later : Moment}
    (order : now.slot < later.slot ∨
      now.slot = later.slot ∧ now.phase ≤ later.phase)
    (cancelled : isCancelled cancellation now = true) :
    isCancelled cancellation later = true := by
  cases cancellation with
  | none => cases cancelled
  | some since =>
      simp only [isCancelled, Option.any_some, Bool.or_eq_true,
        Bool.and_eq_true, decide_eq_true_eq] at cancelled ⊢
      omega

/-! ## Calls -/

/-- The calls that open and close sessions. -/
def sessionCalls (calls : List Call) : List Call :=
  calls.filter fun
    | .findObjects .. => false
    | .openSession _ | .closeSession _ => true

@[simp]
theorem sessionCalls_append (first second : List Call) :
    sessionCalls (first ++ second) =
      sessionCalls first ++ sessionCalls second :=
  List.filter_append ..

/-! ## Evidence -/

/-- A search has found objects. -/
def Finds (session : CkUlong) (sought : Sought) (calls : List Call) : Prop :=
  ∃ found, Call.findObjects session sought found ∈ calls ∧
    handlesOf found ≠ []

/-- A search has found nothing. -/
def FindsNone (session : CkUlong) (sought : Sought) (calls : List Call) :
    Prop :=
  ∃ found, Call.findObjects session sought found ∈ calls ∧
    handlesOf found = []

/-- The candidate carries what was read in its certificate. -/
def Parsed (reader : CertificateReader) (candidate : CertificateCandidate) :
    Prop :=
  ∃ parsed, reader.certificateParseDer candidate.der = some parsed ∧
    candidate.issuerDer = parsed.issuerDer ∧
    candidate.notBefore = parsed.notBefore ∧
    candidate.notAfter = parsed.notAfter ∧
    candidate.ekuOids = parsed.ekuOids ∧
    candidate.keyUsage = parsed.keyUsage ∧
    candidate.keyType = parsed.keyType ∧
    candidate.keySize = parsed.keySize ∧
    candidate.keyCurve = parsed.keyCurve

/-- A private key, or else a public key or a token that needs a login. -/
def KeyEvidence
    (token : FoundToken) (session : CkUlong) (ckaId : Octets)
    (calls : List Call) : Prop :=
  Finds session (.keys .privateKey ckaId) calls ∨
    FindsNone session (.keys .privateKey ckaId) calls ∧
      (Finds session (.keys .publicKey ckaId) calls ∨
        token.loginRequired = true)

/-- The candidate is of this token, has what its certificate says, and has a
key for its identifier. -/
structure Supported
    (reader : CertificateReader) (token : FoundToken) (session : CkUlong)
    (calls : List Call) (candidate : CertificateCandidate) : Prop where
  onToken : candidate.token = token.toCertificateToken
  parsed : Parsed reader candidate
  key : ∃ ckaId, candidate.ckaId = some ckaId ∧ ckaId ≠ [] ∧
    KeyEvidence token session ckaId calls

section Evidence

variable {session : CkUlong} {sought : Sought} {calls more : List Call}
  {reader : CertificateReader} {token : FoundToken}
  {candidate : CertificateCandidate}

theorem Finds.mono (finds : Finds session sought calls)
    (kept : ∀ call ∈ calls, call ∈ more) : Finds session sought more := by
  rcases finds with ⟨found, member, some⟩
  exact ⟨found, kept _ member, some⟩

theorem FindsNone.mono (finds : FindsNone session sought calls)
    (kept : ∀ call ∈ calls, call ∈ more) :
    FindsNone session sought more := by
  rcases finds with ⟨found, member, none⟩
  exact ⟨found, kept _ member, none⟩

theorem KeyEvidence.mono {ckaId : Octets}
    (evidence : KeyEvidence token session ckaId calls)
    (kept : ∀ call ∈ calls, call ∈ more) :
    KeyEvidence token session ckaId more := by
  rcases evidence with finds | ⟨none, finds | login⟩
  · exact .inl (finds.mono kept)
  · exact .inr ⟨none.mono kept, .inl (finds.mono kept)⟩
  · exact .inr ⟨none.mono kept, .inr login⟩

theorem Supported.mono
    (supported : Supported reader token session calls candidate)
    (kept : ∀ call ∈ calls, call ∈ more) :
    Supported reader token session more candidate where
  onToken := supported.onToken
  parsed := supported.parsed
  key := by
    rcases supported.key with ⟨ckaId, same, some, evidence⟩
    exact ⟨ckaId, same, some, evidence.mono kept⟩

end Evidence

/-! ## One certificate object -/

section Objects

variable {reader : CertificateReader} {token : FoundToken}
  {session : CkUlong} {answers : ObjectAnswers} {der ckaId : Octets}

theorem presentValue_ne_nil {value : SizedAnswers UInt8} {octets : Octets}
    (present : presentValue value = some octets) : octets ≠ [] := by
  have kept := (Option.filter_eq_some_iff.mp present).2
  exact of_decide_eq_true kept

/-- What the examination of an object amounts to. -/
structure Examined
    (reader : CertificateReader) (token : FoundToken) (session : CkUlong)
    (exceeds : Prop) (outcome : Examination × List Call) : Prop where
  mute : sessionCalls outcome.2 = []
  failed : (∃ error, outcome.1 = .failed error) ↔ exceeds
  exceeded : exceeds ↔ ∃ call ∈ outcome.2, call.Exceeded
  supported : ∀ candidate, outcome.1 = .candidate candidate →
    Supported reader token session outcome.2 candidate

theorem candidateFor_cases
    (reader : CertificateReader) (token : FoundToken)
    (answers : ObjectAnswers) (der ckaId : Octets) (keyVisible : Bool) :
    candidateFor reader token answers der ckaId keyVisible = .skipped ∨
      ∃ candidate,
        candidateFor reader token answers der ckaId keyVisible =
          .candidate candidate ∧
        candidate.token = token.toCertificateToken ∧
        Parsed reader candidate ∧ candidate.ckaId = some ckaId := by
  rw [candidateFor]
  cases parse : reader.certificateParseDer der with
  | none => exact .inl rfl
  | some parsed =>
      by_cases none : mechanismsFor parsed.keyType answers.mechanisms = []
      · exact .inl (if_pos none)
      · exact .inr ⟨_, if_neg none, rfl,
          ⟨parsed, parse, rfl, rfl, rfl, rfl, rfl, rfl, rfl, rfl⟩, rfl⟩

/-- An object that is left before its keys are searched. -/
theorem Examined.skipped {exceeds : Prop} (fits : ¬ exceeds) :
    Examined reader token session exceeds (.skipped, []) where
  mute := rfl
  failed := by
    constructor
    · rintro ⟨error, same⟩
      cases same
    · intro exceeds
      exact absurd exceeds fits
  exceeded := by
    constructor
    · intro exceeds
      exact absurd exceeds fits
    · rintro ⟨call, member, -⟩
      cases member
  supported := by
    intro candidate same
    cases same

section Searched

variable {calls : List Call} {exceeds : Prop}
  (mute : sessionCalls calls = [])
  (exceeded : exceeds ↔ ∃ call ∈ calls, call.Exceeded)

include mute exceeded

theorem Examined.failing {error : SearchError} (fails : exceeds) :
    Examined reader token session exceeds (.failed error, calls) where
  mute := mute
  failed := iff_of_true ⟨error, rfl⟩ fails
  exceeded := exceeded
  supported := by
    intro candidate same
    cases same

theorem Examined.left (fits : ¬ exceeds) :
    Examined reader token session exceeds (.skipped, calls) where
  mute := mute
  failed := by
    apply iff_of_false _ fits
    rintro ⟨error, same⟩
    cases same
  exceeded := exceeded
  supported := by
    intro candidate same
    cases same

theorem Examined.taken
    (fits : ¬ exceeds) (nonempty : ckaId ≠ [])
    (evidence : KeyEvidence token session ckaId calls) (keyVisible : Bool) :
    Examined reader token session exceeds
      (candidateFor reader token answers der ckaId keyVisible, calls) := by
  rcases candidateFor_cases reader token answers der ckaId keyVisible with
    skipped | ⟨candidate, same, onToken, parsed, id⟩
  · rw [skipped]
    exact .left mute exceeded fits
  · rw [same]
    refine ⟨mute, ?_, exceeded, ?_⟩
    · apply iff_of_false _ fits
      rintro ⟨error, same⟩
      cases same
    · intro other same
      cases same
      exact ⟨onToken, parsed, ckaId, id, nonempty, evidence⟩

end Searched

theorem exceeded_searched {found : Found} {sought : Sought} :
    (∃ call ∈ [Call.findObjects session sought found], call.Exceeded) ↔
      (limitOf found).isSome = true := by
  constructor
  · rintro ⟨call, member, exceeded⟩
    cases List.mem_singleton.mp member
    exact exceeded
  · intro exceeded
    exact ⟨_, List.mem_singleton_self _, exceeded⟩

theorem exceeded_cons {call : Call} {calls : List Call} :
    (∃ other ∈ call :: calls, other.Exceeded) ↔
      call.Exceeded ∨ ∃ other ∈ calls, other.Exceeded := by
  constructor
  · rintro ⟨other, member, exceeded⟩
    rcases List.mem_cons.mp member with rfl | member
    · exact .inl exceeded
    · exact .inr ⟨other, member, exceeded⟩
  · rintro (exceeded | ⟨other, member, exceeded⟩)
    · exact ⟨call, List.mem_cons_self .., exceeded⟩
    · exact ⟨other, List.mem_cons_of_mem _ member, exceeded⟩

/-- No private key was visible. -/
theorem examinePublicKeys_examined {keys : Found}
    (none : handlesOf keys = []) (fits : limitOf keys = Option.none)
    (nonempty : ckaId ≠ []) :
    Examined reader token session (SearchExceeds answers.publicKeys)
      ((examinePublicKeys reader token session answers der ckaId).1,
        .findObjects session (.keys .privateKey ckaId) keys ::
          (examinePublicKeys reader token session answers der ckaId).2) := by
  rw [examinePublicKeys, SearchExceeds]
  generalize (certificatePkcs11FindObjects answers.publicKeys).1 = publicKeys
  let first := Call.findObjects session (.keys .privateKey ckaId) keys
  let second := Call.findObjects session (.keys .publicKey ckaId) publicKeys
  have mute : sessionCalls [first, second] = [] := rfl
  have exceeded : (limitOf publicKeys).isSome = true ↔
      ∃ call ∈ [first, second], call.Exceeded := by
    rw [exceeded_cons, exceeded_searched]
    constructor
    · exact .inr
    · rintro (exceeded | exceeded)
      · rw [Call.Exceeded, fits] at exceeded
        cases exceeded
      · exact exceeded
  have nothing : FindsNone session (.keys .privateKey ckaId)
      [first, second] := ⟨keys, List.mem_cons_self .., none⟩
  cases limit : limitOf publicKeys with
  | some error =>
      rw [limit] at exceeded
      exact .failing mute exceeded rfl
  | none =>
      rw [limit] at exceeded
      dsimp only
      split_ifs with empty login
      · exact .taken mute exceeded (by simp) nonempty
          (.inr ⟨nothing, .inr login⟩) false
      · exact .left mute exceeded (by simp)
      · have there : second ∈ [first, second] :=
          List.mem_cons_of_mem _ (List.mem_singleton_self _)
        exact .taken mute exceeded (by simp) nonempty
          (.inr ⟨nothing, .inl ⟨publicKeys, there, empty⟩⟩) true

theorem examineKeys_examined (nonempty : ckaId ≠ []) :
    Examined reader token session
      (SearchExceeds answers.privateKeys ∨
        handlesOf (certificatePkcs11FindObjects answers.privateKeys).1 = [] ∧
          SearchExceeds answers.publicKeys)
      (examineKeys reader token session answers der ckaId) := by
  rw [examineKeys, SearchExceeds]
  generalize (certificatePkcs11FindObjects answers.privateKeys).1 = keys
  let searched := Call.findObjects session (.keys .privateKey ckaId) keys
  have mute : sessionCalls [searched] = [] := rfl
  have exceeded : (limitOf keys).isSome = true ↔
      ∃ call ∈ [searched], call.Exceeded := exceeded_searched.symm
  cases limit : limitOf keys with
  | some error =>
      rw [limit] at exceeded
      have fails : (some error).isSome = true ∨
          handlesOf keys = [] ∧ SearchExceeds answers.publicKeys := .inl rfl
      exact .failing mute (iff_of_true fails (exceeded.mp rfl)) fails
  | none =>
      rw [limit] at exceeded
      rw [Option.isSome_none, Bool.false_eq_true, false_or]
      dsimp only
      split_ifs with empty
      · rw [and_iff_right empty]
        exact examinePublicKeys_examined empty limit nonempty
      · have fits : ¬ (handlesOf keys = [] ∧
            SearchExceeds answers.publicKeys) := fun both => empty both.1
        have quiet : ¬ ∃ call ∈ [searched], call.Exceeded := by
          rw [← exceeded]
          simp
        have there : Finds session (.keys .privateKey ckaId) [searched] :=
          ⟨keys, List.mem_singleton_self _, empty⟩
        exact .taken mute (iff_of_false fits quiet) fits nonempty
          (.inl there) true

theorem examineObject_examined
    (reader : CertificateReader) (token : FoundToken) (session : CkUlong)
    (answers : ObjectAnswers) :
    Examined reader token session answers.Exceeds
      (examineObject reader token session answers) := by
  rw [examineObject, ObjectAnswers.Exceeds]
  cases value : presentValue answers.value with
  | none => exact .skipped (by simp)
  | some der =>
      cases id : presentValue answers.ckaId with
      | none => exact .skipped (by simp)
      | some ckaId =>
          simp only [Option.isSome_some, true_and]
          exact examineKeys_examined (presentValue_ne_nil id)

end Objects

/-! ## The objects of a token -/

section Token

variable {reader : CertificateReader} {cancellation : Option Moment}
  {number : Nat} {token : FoundToken} {session : CkUlong}
  {object : Nat → ObjectAnswers} {out : List CertificateCandidate}

theorem objectsExceed_succ {index count : Nat} :
    ObjectsExceed cancellation number object index (count + 1) ↔
      isCancelled cancellation (beforeObject number index) = false ∧
          (object index).Exceeds ∨
        ObjectsExceed cancellation number object (index + 1) count := by
  constructor
  · rintro ⟨offset, below, running, exceeds⟩
    cases offset with
    | zero => exact .inl ⟨running, exceeds⟩
    | succ offset =>
        rw [Nat.add_comm offset, ← Nat.add_assoc] at running exceeds
        exact .inr ⟨offset, by omega, running, exceeds⟩
  · rintro (⟨running, exceeds⟩ | ⟨offset, below, running, exceeds⟩)
    · exact ⟨0, Nat.succ_pos count, running, exceeds⟩
    · rw [Nat.add_assoc, Nat.add_comm 1] at running exceeds
      exact ⟨offset + 1, by omega, running, exceeds⟩

theorem not_objectsExceed_of_cancelled {index count : Nat}
    (cancelled :
      isCancelled cancellation (beforeObject number index) = true) :
    ¬ ObjectsExceed cancellation number object index count := by
  rintro ⟨offset, -, running, -⟩
  have order : 2 * index + 1 ≤ 2 * (index + offset) + 1 := by omega
  have later : isCancelled cancellation
      (beforeObject number (index + offset)) = true :=
    @isCancelled_later cancellation (beforeObject number index) _
      (.inr ⟨rfl, order⟩) cancelled
  rw [running] at later
  cases later

/-- What the search for the keys of a number of objects amounts to. -/
structure Scanned
    (reader : CertificateReader) (token : FoundToken) (session : CkUlong)
    (out : List CertificateCandidate) (exceeds : Prop)
    (outcome :
      Except SearchError (List CertificateCandidate) × List Call) :
    Prop where
  mute : sessionCalls outcome.2 = []
  failed : (∃ error, outcome.1 = .error error) ↔ exceeds
  exceeded : exceeds ↔ ∃ call ∈ outcome.2, call.Exceeded
  supported : ∀ candidates, outcome.1 = .ok candidates →
    ∀ candidate ∈ candidates, candidate ∈ out ∨
      Supported reader token session outcome.2 candidate

theorem Scanned.stopped {exceeds : Prop} (fits : ¬ exceeds) :
    Scanned reader token session out exceeds (.ok out, []) where
  mute := rfl
  failed := by
    apply iff_of_false _ fits
    rintro ⟨error, same⟩
    cases same
  exceeded := by
    apply iff_of_false fits
    rintro ⟨call, member, -⟩
    cases member
  supported := by
    intro candidates same candidate member
    cases same
    exact .inl member

/-- The loop goes on with more calls. -/
theorem Scanned.after
    {exceeds rest : Prop} {more : List CertificateCandidate}
    {examination : Examination} {calls : List Call}
    {outcome : Except SearchError (List CertificateCandidate) × List Call}
    (examined : Examined reader token session exceeds (examination, calls))
    (fits : ¬ exceeds)
    (taken : ∀ candidate ∈ more, candidate ∈ out ∨
      examination = .candidate candidate)
    (scanned : Scanned reader token session more rest outcome) :
    Scanned reader token session out (exceeds ∨ rest)
      (outcome.1, calls ++ outcome.2) where
  mute := by
    rw [sessionCalls_append, examined.mute, scanned.mute]
    rfl
  failed := by
    rw [or_iff_right fits]
    exact scanned.failed
  exceeded := by
    rw [examined.exceeded, scanned.exceeded]
    constructor
    · rintro (⟨call, member, exceeded⟩ | ⟨call, member, exceeded⟩)
      · exact ⟨call, List.mem_append_left _ member, exceeded⟩
      · exact ⟨call, List.mem_append_right _ member, exceeded⟩
    · rintro ⟨call, member, exceeded⟩
      rcases List.mem_append.mp member with member | member
      · exact .inl ⟨call, member, exceeded⟩
      · exact .inr ⟨call, member, exceeded⟩
  supported := by
    intro candidates same candidate member
    rcases scanned.supported candidates same candidate member with
      earlier | supported
    · rcases taken candidate earlier with old | new
      · exact .inl old
      · exact .inr ((examined.supported candidate new).mono
          fun call => List.mem_append_left _)
    · exact .inr (supported.mono fun call => List.mem_append_right _)

theorem examineObjects_scanned
    (reader : CertificateReader) (cancellation : Option Moment)
    (number : Nat) (token : FoundToken) (session : CkUlong)
    (object : Nat → ObjectAnswers) (handles : List CkUlong) (index : Nat)
    (out : List CertificateCandidate) :
    Scanned reader token session out
      (ObjectsExceed cancellation number object index handles.length)
      (examineObjects reader cancellation number token session object handles
        index out) := by
  induction handles generalizing index out with
  | nil =>
      apply Scanned.stopped
      rintro ⟨offset, below, -⟩
      exact absurd below (Nat.not_lt_zero offset)
  | cons handle handles ih =>
      rw [examineObjects]
      split_ifs with cancelled
      · exact .stopped (not_objectsExceed_of_cancelled cancelled)
      · have running : isCancelled cancellation (beforeObject number index) =
            false := Bool.eq_false_iff.mpr cancelled
        have examined :=
          examineObject_examined reader token session (object index)
        rw [List.length_cons, objectsExceed_succ, running,
          and_iff_right rfl]
        rcases outcome : examineObject reader token session (object index)
          with ⟨examination, calls⟩
        rw [outcome] at examined
        cases examination with
        | failed error =>
            have exceeds := examined.failed.mp ⟨error, rfl⟩
            have here : (object index).Exceeds ∨ ObjectsExceed cancellation
                number object (index + 1) handles.length := .inl exceeds
            refine ⟨examined.mute, iff_of_true ⟨error, rfl⟩ here,
              iff_of_true here (examined.exceeded.mp exceeds), ?_⟩
            intro candidates same
            cases same
        | skipped =>
            have fits : ¬ (object index).Exceeds := by
              rw [← examined.failed]
              rintro ⟨error, same⟩
              cases same
            exact .after examined fits (fun candidate => .inl)
              (ih (index + 1) out)
        | candidate candidate =>
            have fits : ¬ (object index).Exceeds := by
              rw [← examined.failed]
              rintro ⟨error, same⟩
              cases same
            apply Scanned.after examined fits _
              (ih (index + 1) (out ++ [candidate]))
            intro other member
            rcases List.mem_append.mp member with old | new
            · exact .inl old
            · exact .inr (by rw [List.mem_singleton.mp new])

end Token

/-! ## One token -/

/-- The candidate is supported by the calls of the session of its token. -/
def FromSession
    (reader : CertificateReader) (token : FoundToken)
    (answers : SlotAnswers) (calls : List Call)
    (candidate : CertificateCandidate) : Prop :=
  ∃ session own, answers.openSession = .ok session ∧
    calls = .openSession session :: own ++ [.closeSession session] ∧
      sessionCalls own = [] ∧ Supported reader token session own candidate

/-- A session is opened where the token lets it be, and closed again. -/
def tokenSession (answers : SlotAnswers) : List Call :=
  match answers.openSession with
  | .error _ => []
  | .ok session => [.openSession session, .closeSession session]

/-- Every opened session is closed before the next one is opened. -/
inductive Paired : List Call → Prop where
  | nil : Paired []
  | closed (session : CkUlong) {calls : List Call} (rest : Paired calls) :
      Paired (.openSession session :: .closeSession session :: calls)

theorem Paired.append {first second : List Call}
    (here : Paired first) (there : Paired second) :
    Paired (first ++ second) := by
  induction here with
  | nil => exact there
  | closed session _ ih => exact .closed session ih

theorem paired_tokenSession (answers : SlotAnswers) :
    Paired (tokenSession answers) := by
  rw [tokenSession]
  cases answers.openSession with
  | error rv => exact .nil
  | ok session => exact .closed session .nil

section Sessions

variable {reader : CertificateReader} {cancellation : Option Moment}
  {number : Nat} {token : FoundToken} {answers : SlotAnswers}
  {out : List CertificateCandidate}

/-- What `enumerate_token` amounts to. -/
structure TokenEnumerated
    (reader : CertificateReader) (token : FoundToken)
    (answers : SlotAnswers) (out : List CertificateCandidate)
    (exceeds : Prop)
    (outcome :
      Except SearchError (List CertificateCandidate) × List Call) :
    Prop where
  sessions : sessionCalls outcome.2 = tokenSession answers
  failed : (∃ error, outcome.1 = .error error) ↔ exceeds
  exceeded : exceeds ↔ ∃ call ∈ outcome.2, call.Exceeded
  supported : ∀ candidates, outcome.1 = .ok candidates →
    ∀ candidate ∈ candidates, candidate ∈ out ∨
      FromSession reader token answers outcome.2 candidate

/-- The calls of a session, from its opening to its end. -/
theorem Scanned.enclosed
    {session : CkUlong} {found : Found} {exceeds : Prop}
    {outcome : Except SearchError (List CertificateCandidate) × List Call}
    (opened : answers.openSession = .ok session)
    (fits : limitOf found = none)
    (scanned : Scanned reader token session out exceeds outcome) :
    TokenEnumerated reader token answers out exceeds
      (outcome.1, [.openSession session,
        .findObjects session .certificates found] ++ outcome.2 ++
          [.closeSession session]) where
  sessions := by
    rw [sessionCalls_append, sessionCalls_append, scanned.mute,
      tokenSession, opened]
    rfl
  failed := scanned.failed
  exceeded := by
    rw [scanned.exceeded]
    constructor
    · rintro ⟨call, member, exceeded⟩
      refine ⟨call, ?_, exceeded⟩
      exact List.mem_append_left _ (List.mem_append_right _ member)
    · rintro ⟨call, member, exceeded⟩
      rcases List.mem_append.mp member with member | last
      · rcases List.mem_append.mp member with first | inner
        · rcases List.mem_cons.mp first with rfl | first
          · cases exceeded
          · rw [List.mem_singleton.mp first, Call.Exceeded, fits] at exceeded
            cases exceeded
        · exact ⟨call, inner, exceeded⟩
      · rw [List.mem_singleton.mp last] at exceeded
        cases exceeded
  supported := by
    intro candidates same candidate member
    rcases scanned.supported candidates same candidate member with
      old | supported
    · exact .inl old
    · refine .inr ⟨session, _ :: outcome.2, opened, rfl, scanned.mute, ?_⟩
      exact supported.mono fun call => List.mem_cons_of_mem _

theorem enumerateToken_enumerated
    (reader : CertificateReader) (cancellation : Option Moment)
    (number : Nat) (token : FoundToken) (answers : SlotAnswers)
    (out : List CertificateCandidate) :
    TokenEnumerated reader token answers out
      (answers.Exceeds cancellation number)
      (enumerateToken reader cancellation number token answers out) := by
  rw [enumerateToken, SlotAnswers.Exceeds, SlotAnswers.objects, SearchExceeds]
  cases opened : answers.openSession with
  | error rv =>
      have fits : ¬ ((Except.error rv : Except CkUlong CkUlong).isOk = true ∧
          ((limitOf (certificatePkcs11FindObjects
              answers.certificates).1).isSome = true ∨
            ObjectsExceed cancellation number answers.object 0 0)) := by
        rintro ⟨ok, -⟩
        cases ok
      refine ⟨?_, iff_of_false ?_ fits, iff_of_false fits ?_, ?_⟩
      · rw [tokenSession, opened]
        rfl
      · rintro ⟨error, same⟩
        cases same
      · rintro ⟨call, member, -⟩
        cases member
      · intro candidates same candidate member
        cases same
        exact .inl member
  | ok session =>
      rw [and_iff_right (by rfl)]
      dsimp only
      generalize (certificatePkcs11FindObjects answers.certificates).1 = found
      cases limit : limitOf found with
      | some error =>
          have fails : (some error).isSome = true ∨ ObjectsExceed cancellation
              number answers.object 0 (handlesOf found).length := .inl rfl
          refine ⟨?_, iff_of_true ⟨error, rfl⟩ fails,
            iff_of_true fails ?_, ?_⟩
          · rw [tokenSession, opened]
            rfl
          · have searched :
                (Call.findObjects session .certificates found).Exceeded := by
              rw [Call.Exceeded, limit]
              rfl
            exact ⟨_, List.mem_cons_of_mem _ (List.mem_cons_self ..),
              searched⟩
          · intro candidates same
            cases same
      | none =>
          rw [Option.isSome_none, Bool.false_eq_true, false_or]
          exact (examineObjects_scanned reader cancellation number token
            session answers.object (handlesOf found) 0 out).enclosed opened
            limit

end Sessions

/-! ## All slots -/

section Slots

variable {reader : CertificateReader} {cancellation : Option Moment}
  {allowSoftware : Bool} {slot : Slot} {slots before : List Slot}
  {progress : Progress} {tokens : CertificateTokens}

theorem visitSlot_eq :
    visitSlot reader cancellation allowSoftware slot progress =
      if isCancelled cancellation (beforeSlot progress.number) then
        (some .cancelled, progress)
      else
        match slot.token allowSoftware with
        | none => (none, { progress with number := progress.number + 1 })
        | some token =>
            let outcome := enumerateToken reader cancellation progress.number
              token slot.answers progress.candidates
            (match outcome.1 with
              | .error error => some (.search error)
              | .ok _ => none,
              { number := progress.number + 1
                tokenCount := progress.tokenCount + 1
                candidates := outcome.1.toOption.getD progress.candidates
                calls := progress.calls ++ outcome.2 }) := by
  rw [visitSlot, Slot.token]
  split_ifs with cancelled
  · rfl
  · cases found : tokenFromSlot slot.answers.tokenInfo slot.answers.slotInfo
        slot.named with
    | none => rfl
    | some token =>
        dsimp only
        cases skips : tokenSkipReason allowSoftware token with
        | some reason =>
            rw [Option.filter_some, skips]
            rfl
        | none =>
            rw [Option.filter_some, skips]
            rcases outcome : enumerateToken reader cancellation
              progress.number token slot.answers progress.candidates with
              ⟨result, calls⟩
            cases result with
            | error error => simp [outcome, Except.toOption]
            | ok candidates => simp [outcome, Except.toOption]

/-- The session that a visit of the slot opens and closes. -/
def visitSession (allowSoftware : Bool) (slot : Slot) : List Call :=
  if (slot.token allowSoftware).isSome then tokenSession slot.answers else []

theorem paired_visitSession (allowSoftware : Bool) (slots : List Slot) :
    Paired (slots.flatMap (visitSession allowSoftware)) := by
  induction slots with
  | nil => exact .nil
  | cons slot slots ih =>
      rw [List.flatMap_cons, visitSession]
      split_ifs
      · exact (paired_tokenSession slot.answers).append ih
      · exact ih

/--
The candidate is of a usable token.  The evidence is among the calls of the
visit of this slot, which come after the sessions of the earlier slots.
-/
def Listed
    (reader : CertificateReader) (allowSoftware : Bool) (slots : List Slot)
    (calls : List Call) (candidate : CertificateCandidate) : Prop :=
  ∃ earlier slot later token before visit after,
    slots = earlier ++ slot :: later ∧
      slot.token allowSoftware = some token ∧
        calls = before ++ visit ++ after ∧
          sessionCalls before =
            earlier.flatMap (visitSession allowSoftware) ∧
              FromSession reader token slot.answers visit candidate

/-- A candidate stays listed when other slots follow. -/
theorem Listed.more {calls : List Call} {candidate : CertificateCandidate}
    (listed : Listed reader allowSoftware slots calls candidate)
    (others : List Slot) (others' : List Call) :
    Listed reader allowSoftware (slots ++ others) (calls ++ others')
      candidate := by
  rcases listed with
    ⟨earlier, slot, later, token, before, visit, after, rfl, usable, rfl,
      sessions, supported⟩
  refine ⟨earlier, slot, later ++ others, token, before, visit,
    after ++ others', ?_, usable, ?_, sessions, supported⟩
  · rw [List.append_assoc, List.cons_append]
  · rw [List.append_assoc _ after]

/-- What holds while no slot has failed. -/
structure Underway
    (reader : CertificateReader) (allowSoftware : Bool)
    (visited : List Slot) (progress : Progress) : Prop where
  number : progress.number = visited.length
  sessions : sessionCalls progress.calls =
    visited.flatMap (visitSession allowSoftware)
  within : ∀ call ∈ progress.calls, ¬ call.Exceeded
  listed : ∀ candidate ∈ progress.candidates,
    Listed reader allowSoftware visited progress.calls candidate

theorem Underway.paired
    (underway : Underway reader allowSoftware slots progress) :
    Paired (sessionCalls progress.calls) := by
  rw [underway.sessions]
  exact paired_visitSession allowSoftware slots

/-- A slot without a usable token is passed. -/
theorem Underway.passed
    (underway : Underway reader allowSoftware slots progress)
    (unusable : slot.token allowSoftware = none) :
    Underway reader allowSoftware (slots ++ [slot])
      { progress with number := progress.number + 1 } where
  number := by
    rw [List.length_append, underway.number]
    rfl
  sessions := by
    rw [List.flatMap_append, ← underway.sessions, List.flatMap_singleton,
      visitSession, unusable]
    exact (List.append_nil _).symm
  within := underway.within
  listed := by
    intro candidate member
    have listed := (underway.listed candidate member).more [slot] []
    rwa [List.append_nil] at listed

/-- The candidates of a token come after the earlier ones. -/
theorem Underway.enumerated {exceeds : Prop} {token : FoundToken}
    {candidates : List CertificateCandidate} {calls : List Call}
    (underway : Underway reader allowSoftware slots progress)
    (usable : slot.token allowSoftware = some token) (fits : ¬ exceeds)
    (enumerated : TokenEnumerated reader token slot.answers
      progress.candidates exceeds (.ok candidates, calls)) :
    Underway reader allowSoftware (slots ++ [slot])
      { number := progress.number + 1
        tokenCount := progress.tokenCount + 1
        candidates
        calls := progress.calls ++ calls } where
  number := by
    rw [List.length_append, underway.number]
    rfl
  sessions := by
    rw [sessionCalls_append, List.flatMap_append, ← underway.sessions,
      List.flatMap_singleton, visitSession, usable, enumerated.sessions]
    rfl
  within := by
    intro call there exceeded
    rcases List.mem_append.mp there with old | new
    · exact underway.within call old exceeded
    · exact fits (enumerated.exceeded.mpr ⟨call, new, exceeded⟩)
  listed := by
    intro candidate there
    rcases enumerated.supported candidates rfl candidate there with
      old | supported
    · exact (underway.listed candidate old).more [slot] calls
    · exact ⟨slots, slot, [], token, progress.calls, calls, [], rfl, usable,
        (List.append_nil _).symm, underway.sessions, supported⟩

/-- A visit keeps it, or fails for one of two reasons. -/
theorem Underway.visit
    (cancellation : Option Moment) (slot : Slot)
    (underway : Underway reader allowSoftware slots progress) :
    ∃ result next,
      visitSlot reader cancellation allowSoftware slot progress =
        (result, next) ∧
      Paired (sessionCalls next.calls) ∧
      (result ≠ none ↔
        isCancelled cancellation (beforeSlot progress.number) = true ∨
          slot.Exceeds cancellation allowSoftware progress.number) ∧
      (result = none → next.number = progress.number + 1 ∧
        Underway reader allowSoftware (slots ++ [slot]) next) := by
  rw [visitSlot_eq, Slot.Exceeds]
  split_ifs with cancelled
  · refine ⟨_, _, rfl, underway.paired, ?_, nofun⟩
    simp [cancelled]
  · rw [Bool.not_eq_true] at cancelled
    cases found : slot.token allowSoftware with
    | none =>
        refine ⟨_, _, rfl, underway.paired, ?_, ?_⟩
        · simp [cancelled]
        · intro _
          exact ⟨rfl, underway.passed found⟩
    | some token =>
        have enumerated := enumerateToken_enumerated reader cancellation
          progress.number token slot.answers progress.candidates
        dsimp only
        generalize enumerateToken reader cancellation progress.number token
          slot.answers progress.candidates = outcome at enumerated ⊢
        rcases outcome with ⟨result, calls⟩
        have paired : Paired (sessionCalls (progress.calls ++ calls)) := by
          rw [sessionCalls_append, enumerated.sessions]
          exact underway.paired.append (paired_tokenSession slot.answers)
        cases result with
        | error error =>
            have exceeds := enumerated.failed.mp ⟨error, rfl⟩
            refine ⟨_, _, rfl, paired, ?_, nofun⟩
            simp [cancelled, exceeds]
        | ok candidates =>
            have fits : ¬ slot.answers.Exceeds cancellation
                progress.number := by
              rw [← enumerated.failed]
              rintro ⟨error, same⟩
              cases same
            refine ⟨_, _, rfl, paired, ?_, ?_⟩
            · simp [cancelled, fits]
            · intro _
              exact ⟨rfl, underway.enumerated found fits enumerated⟩

/-- Some slot is found cancelled, or exceeds the limit. -/
def Breaks
    (cancellation : Option Moment) (allowSoftware : Bool) (number : Nat)
    (slots : List Slot) : Prop :=
  ∃ (index : Nat) (slot : Slot), slots[index]? = some slot ∧
    (isCancelled cancellation (beforeSlot (number + index)) = true ∨
      slot.Exceeds cancellation allowSoftware (number + index))

theorem breaks_cons {number : Nat} :
    Breaks cancellation allowSoftware number (slot :: slots) ↔
      (isCancelled cancellation (beforeSlot number) = true ∨
          slot.Exceeds cancellation allowSoftware number) ∨
        Breaks cancellation allowSoftware (number + 1) slots := by
  constructor
  · rintro ⟨index, other, there, breaks⟩
    cases index with
    | zero =>
        cases there
        exact .inl breaks
    | succ index =>
        rw [Nat.add_comm index, ← Nat.add_assoc] at breaks
        exact .inr ⟨index, other, there, breaks⟩
  · rintro (breaks | ⟨index, other, there, breaks⟩)
    · exact ⟨0, slot, rfl, breaks⟩
    · rw [Nat.add_assoc, Nat.add_comm 1] at breaks
      exact ⟨index + 1, other, there, breaks⟩

/-- The loop over the slots pairs its calls and lists what the tokens show. -/
theorem Underway.run
    (cancellation : Option Moment)
    (underway : Underway reader allowSoftware before progress)
    (slots : List Slot) :
    Paired (sessionCalls (enumerateSlots reader cancellation allowSoftware
        slots progress).2.calls) ∧
      ((enumerateSlots reader cancellation allowSoftware slots progress).1 ≠
          none ↔
        Breaks cancellation allowSoftware progress.number slots) ∧
      ((enumerateSlots reader cancellation allowSoftware slots progress).1 =
          none →
        Underway reader allowSoftware (before ++ slots)
          (enumerateSlots reader cancellation allowSoftware slots
            progress).2) := by
  induction slots generalizing progress before with
  | nil =>
      refine ⟨underway.paired, iff_of_false (fun some => some rfl) ?_, ?_⟩
      · rintro ⟨index, slot, there, -⟩
        cases there
      · intro _
        rw [List.append_nil]
        exact underway
  | cons slot slots ih =>
      rcases underway.visit cancellation slot with
        ⟨result, next, visited, paired, fails, goesOn⟩
      rw [enumerateSlots, visited, breaks_cons, ← fails]
      cases result with
      | some error =>
          refine ⟨paired, iff_of_true nofun (.inl nofun), ?_⟩
          intro none
          cases none
      | none =>
          rcases goesOn rfl with ⟨number, underway⟩
          have rest := ih underway
          rw [number, List.append_assoc] at rest
          rw [or_iff_right (fun some => some rfl)]
          exact rest

theorem enumerateSlots_append (progress : Progress) :
    enumerateSlots reader cancellation allowSoftware (before ++ slots)
        progress =
      match enumerateSlots reader cancellation allowSoftware before
          progress with
      | (some error, progress) => (some error, progress)
      | (none, progress) =>
          enumerateSlots reader cancellation allowSoftware slots progress := by
  induction before generalizing progress with
  | nil => rfl
  | cons slot before ih =>
      rw [List.cons_append, enumerateSlots, enumerateSlots]
      rcases visitSlot reader cancellation allowSoftware slot progress with
        ⟨result, next⟩
      cases result with
      | some error => rfl
      | none => exact ih next

theorem enumerateModules_eq
    (modules : List (ModuleAnswers × Bool)) (progress : Progress) :
    enumerateModules reader cancellation allowSoftware modules progress =
      enumerateSlots reader cancellation allowSoftware (slotsOf modules)
        progress := by
  induction modules generalizing progress with
  | nil => rfl
  | cons module modules ih =>
      rcases module with ⟨module, named⟩
      rw [enumerateModules, slotsOf, List.flatMap_cons, enumerateSlots_append]
      rcases enumerateSlots reader cancellation allowSoftware
        (module.listed named) progress with ⟨result, next⟩
      cases result with
      | some error => rfl
      | none => exact ih next

end Slots

/-! ## The whole enumeration -/

section Enumerations

variable (reader : CertificateReader) (cancellation : Option Moment)
  (tokens : CertificateTokens)

/-- It is cancelled before some certificate object has been examined. -/
def CancelledEarly : Prop :=
  ∃ (index : Nat) (slot : Slot), tokens.slots[index]? = some slot ∧
    (slot.token tokens.allowSoftware).isSome = true ∧
      ∃ object < slot.answers.objects,
        isCancelled cancellation (afterObject index object) = true

/-- It is cancelled so while the last of the slots is visited. -/
def CancelledInLast : Prop :=
  ∃ before last, tokens.slots = before ++ [last] ∧
    (last.token tokens.allowSoftware).isSome = true ∧
      isCancelled cancellation (beforeSlot before.length) = false ∧
        ∃ object < last.answers.objects,
          isCancelled cancellation (afterObject before.length object) = true

/-- A search that is made on a token exceeds the limit. -/
def LimitExceeded : Prop :=
  ∃ (index : Nat) (slot : Slot), tokens.slots[index]? = some slot ∧
    slot.Exceeds cancellation tokens.allowSoftware index

/-- Nothing is truncated and nothing is left open. -/
structure Reports : Prop where
  closed : Paired (sessionCalls (enumerate reader cancellation tokens).2)
  limit : (∃ call ∈ (enumerate reader cancellation tokens).2,
    call.Exceeded) →
      ∃ error, (enumerate reader cancellation tokens).1 = .error error
  cancelled : CancelledEarly cancellation tokens →
    ∃ error, (enumerate reader cancellation tokens).1 = .error error
  listed : ∀ candidates present,
    (enumerate reader cancellation tokens).1 = .ok (candidates, present) →
      ∀ candidate ∈ candidates,
        Listed reader tokens.allowSoftware tokens.slots
          (enumerate reader cancellation tokens).2 candidate

variable {reader cancellation tokens}

theorem Underway.start (reader : CertificateReader) (allowSoftware : Bool) :
    Underway reader allowSoftware [] ⟨0, 0, [], []⟩ where
  number := rfl
  sessions := rfl
  within := by
    intro call member
    cases member
  listed := by
    intro candidate member
    cases member

/-- What an enumeration amounts to. -/
theorem enumerate_cases
    (reader : CertificateReader) (cancellation : Option Moment)
    (tokens : CertificateTokens) :
    Paired (sessionCalls (enumerate reader cancellation tokens).2) ∧
      ((∃ error, (enumerate reader cancellation tokens).1 = .error error) ↔
        Breaks cancellation tokens.allowSoftware 0 tokens.slots) ∧
      ∀ candidates present,
        (enumerate reader cancellation tokens).1 =
            .ok (candidates, present) →
          (∀ call ∈ (enumerate reader cancellation tokens).2,
            ¬ call.Exceeded) ∧
          ∀ candidate ∈ candidates,
            Listed reader tokens.allowSoftware tokens.slots
              (enumerate reader cancellation tokens).2 candidate := by
  have run := (Underway.start reader tokens.allowSoftware).run cancellation
    tokens.slots
  rw [enumerate, enumerateModules_eq, ← CertificateTokens.slots]
  generalize enumerateSlots reader cancellation tokens.allowSoftware
    tokens.slots ⟨0, 0, [], []⟩ = outcome at run ⊢
  rcases outcome with ⟨result, progress⟩
  rcases run with ⟨paired, breaks, underway⟩
  refine ⟨?_, ?_, ?_⟩
  · cases result with
    | some error => exact paired
    | none => exact paired
  · rw [← breaks]
    cases result with
    | some error =>
        exact iff_of_true ⟨error, rfl⟩ (Option.some_ne_none error)
    | none =>
        apply iff_of_false
        · rintro ⟨error, same⟩
          cases same
        · exact fun some => some rfl
  · intro candidates present same
    cases result with
    | some error => cases same
    | none =>
        cases same
        have holds := underway rfl
        exact ⟨holds.within, holds.listed⟩

/-- A search that exceeded the limit is never followed by a list. -/
theorem enumerate_limit
    (exceeded : ∃ call ∈ (enumerate reader cancellation tokens).2,
      call.Exceeded) :
    ∃ error, (enumerate reader cancellation tokens).1 = .error error := by
  have cases' := (enumerate_cases reader cancellation tokens).2.2
  rcases exceeded with ⟨call, member, exceeded⟩
  cases result : (enumerate reader cancellation tokens).1 with
  | error error => exact ⟨error, rfl⟩
  | ok listed =>
      have within := (cases' listed.1 listed.2 result).1
      exact absurd exceeded (within call member)

theorem enumerate_error_of_limit
    (limit : LimitExceeded cancellation tokens) :
    ∃ error, (enumerate reader cancellation tokens).1 = .error error := by
  apply (enumerate_cases reader cancellation tokens).2.1.mpr
  rcases limit with ⟨index, slot, there, exceeds⟩
  refine ⟨index, slot, there, .inr ?_⟩
  rwa [Nat.zero_add]

theorem enumerate_error_of_cancelled {index : Nat} {slot : Slot}
    (there : tokens.slots[index]? = some slot)
    (cancelled : isCancelled cancellation (beforeSlot index) = true) :
    ∃ error, (enumerate reader cancellation tokens).1 = .error error := by
  apply (enumerate_cases reader cancellation tokens).2.1.mpr
  refine ⟨index, slot, there, .inl ?_⟩
  rwa [Nat.zero_add]

/-- Whatever the last check of a slot does not see is not reported. -/
theorem limit_of_error
    (inLast : CancelledInLast cancellation tokens)
    (fails :
      ∃ error, (enumerate reader cancellation tokens).1 = .error error) :
    LimitExceeded cancellation tokens := by
  rcases (enumerate_cases reader cancellation tokens).2.1.mp fails with
    ⟨index, slot, there, breaks⟩
  rw [Nat.zero_add] at breaks
  rcases breaks with cancelled | exceeds
  · rcases inLast with ⟨before, last, all, -, running, -⟩
    have below : index < (before ++ [last]).length := by
      rw [← all]
      exact (List.getElem?_eq_some_iff.mp there).1
    rw [List.length_append, List.length_singleton] at below
    have later : isCancelled cancellation (beforeSlot before.length) =
        true := by
      apply @isCancelled_later cancellation (beforeSlot index) _ _ cancelled
      show index < before.length ∨ index = before.length ∧ 0 ≤ 0
      omega
    rw [running] at later
    cases later
  · exact ⟨index, slot, there, exceeds⟩

/-- A cancellation that the check of a later slot sees is reported. -/
theorem enumerate_error_of_early
    (early : CancelledEarly cancellation tokens)
    (noticed : ¬ CancelledInLast cancellation tokens) :
    ∃ error, (enumerate reader cancellation tokens).1 = .error error := by
  rcases early with ⟨index, slot, there, usable, object, shown, cancelled⟩
  rcases List.getElem?_eq_some_iff.mp there with ⟨below, same⟩
  by_cases final : index + 1 = tokens.slots.length
  · by_cases running :
        isCancelled cancellation (beforeSlot index) = true
    · exact enumerate_error_of_cancelled there running
    · have some : tokens.slots ≠ [] := List.ne_nil_of_length_pos (by omega)
      have split := (List.dropLast_append_getLast some).symm
      have length : tokens.slots.dropLast.length = index := by
        rw [List.length_dropLast]
        omega
      have last : tokens.slots.getLast some = slot := by
        rw [List.getLast_eq_getElem, ← same]
        congr 1
        omega
      rw [last] at split
      exfalso
      apply noticed
      refine ⟨_, slot, split, usable, ?_, object, shown, ?_⟩
      · rw [length]
        exact Bool.eq_false_iff.mpr running
      · rw [length]
        exact cancelled
  · have next : index + 1 < tokens.slots.length := by omega
    apply enumerate_error_of_cancelled (List.getElem?_eq_getElem next)
    exact @isCancelled_later cancellation (afterObject index object) _
      (.inl (Nat.lt_succ_self index)) cancelled

/--
Nothing is truncated just when a cancellation that comes before the last
certificate object has been examined comes before the check of the last slot,
or a search exceeds the limit anyway.
-/
theorem reports_iff
    (reader : CertificateReader) (cancellation : Option Moment)
    (tokens : CertificateTokens) :
    Reports reader cancellation tokens ↔
      ¬ CancelledInLast cancellation tokens ∨
        LimitExceeded cancellation tokens := by
  constructor
  · intro reports
    by_cases inLast : CancelledInLast cancellation tokens
    · right
      apply limit_of_error inLast (reports.cancelled _)
      rcases inLast with ⟨before, last, all, usable, -, object, shown, late⟩
      refine ⟨before.length, last, ?_, usable, object, shown, late⟩
      rw [all, List.getElem?_append_right (Nat.le_refl _), Nat.sub_self]
      rfl
    · exact .inl inLast
  · intro condition
    have outcome := enumerate_cases reader cancellation tokens
    refine ⟨outcome.1, enumerate_limit, ?_, ?_⟩
    · intro early
      rcases condition with noticed | limit
      · exact enumerate_error_of_early early noticed
      · exact enumerate_error_of_limit limit
    · intro candidates present same
      exact (outcome.2.2 candidates present same).2

/-! ## Waiting for an enumeration -/

/-- Who waits for a task does not get a part of a list. -/
theorem finish_error_of_early {cancelled : Bool}
    (stays : ∀ now, isCancelled cancellation now = true → cancelled = true)
    (early : CancelledEarly cancellation tokens) :
    certificateTokensEnumerateFinish cancelled
      (enumerate reader cancellation tokens).1 = .error .cancelled := by
  rcases early with ⟨index, slot, -, -, object, -, noticed⟩
  rw [certificateTokensEnumerateFinish, stays _ noticed]
  rfl

/-! ## A part of a list -/

/-- A module that shows one certificate object on one hardware token. -/
def exampleSlot : SlotAnswers where
  tokenInfo := ⟨0, 0x404, "Card", "Maker", "Model", "1"⟩
  slotInfo := ⟨0, 0x5, "Reader"⟩
  openSession := .ok 7
  certificates :=
    ⟨0, fun call => ⟨0, if call = 0 then 1 else 0, fun _ => 5⟩⟩
  object := fun _ =>
    { value := ⟨0, 1, 0, 1, fun _ => 48⟩
      ckaId := ⟨0, 1, 0, 1, fun _ => 1⟩
      privateKeys := ⟨0, fun _ => ⟨0, 0, fun _ => 0⟩⟩
      publicKeys := ⟨0, fun _ => ⟨0, 0, fun _ => 0⟩⟩
      signs := (0, true)
      decrypts := (0, false)
      mechanisms := fun _ => ⟨0, 1, 0, 1, fun _ => 1⟩ }

/-- One module with one slot. -/
def exampleTokens : CertificateTokens where
  explicitModules := []
  modules := [⟨true, ⟨0, 1, 0, 1, fun _ => 0⟩, fun _ _ => exampleSlot⟩]
  allowSoftware := false

theorem exampleTokens_slots :
    exampleTokens.slots = [⟨false, exampleSlot⟩] := rfl

theorem exampleSlot_found :
    (certificatePkcs11FindObjects exampleSlot.certificates).1 = .ok [5] := by
  apply (ObjectSearch.findObjects_ok_iff _ _).mpr
  refine ⟨rfl, 1, ?_, rfl⟩
  apply ObjectSearch.completes_succ_iff.mpr
  refine ⟨⟨rfl, by decide, by decide⟩, ?_⟩
  exact ObjectSearch.completes_zero_iff.mpr ⟨⟨rfl, rfl⟩, by decide⟩

theorem exampleSlot_objects : exampleSlot.objects = 1 := by
  show (handlesOf (certificatePkcs11FindObjects
    exampleSlot.certificates).1).length = 1
  rw [exampleSlot_found]
  rfl

/-- It is cancelled while the certificate objects are searched. -/
def exampleCancellation : Option Moment :=
  some (beforeObject 0 0)

theorem exampleTokens_early :
    CancelledEarly exampleCancellation exampleTokens := by
  refine ⟨0, ⟨false, exampleSlot⟩, ?_, by decide, 0, ?_, by decide⟩
  · rw [exampleTokens_slots]
    rfl
  · rw [exampleSlot_objects]
    exact Nat.one_pos

/-- The list of the only token comes back empty, and without an error. -/
theorem exampleTokens_truncated (reader : CertificateReader) :
    (enumerate reader exampleCancellation exampleTokens).1 =
      .ok ([], true) := by
  have token (found : FoundToken) :
      enumerateToken reader exampleCancellation 0 found exampleSlot [] =
        (.ok [], [.openSession 7, .findObjects 7 .certificates (.ok [5]),
          .closeSession 7]) := by
    have opened : exampleSlot.openSession = .ok 7 := rfl
    rw [enumerateToken, opened]
    dsimp only
    rw [exampleSlot_found]
    rfl
  rcases usable : (⟨false, exampleSlot⟩ : Slot).token false with
    none | found
  · cases usable
  · have visit : visitSlot reader exampleCancellation false
        ⟨false, exampleSlot⟩ ⟨0, 0, [], []⟩ =
          (none, ⟨1, 1, [], [.openSession 7,
            .findObjects 7 .certificates (.ok [5]), .closeSession 7]⟩) := by
      rw [visitSlot_eq, usable]
      simp only [token]
      rfl
    have run : enumerateSlots reader exampleCancellation
        exampleTokens.allowSoftware (slotsOf (moduleList exampleTokens))
        ⟨0, 0, [], []⟩ =
          (none, ⟨1, 1, [], [.openSession 7,
            .findObjects 7 .certificates (.ok [5]), .closeSession 7]⟩) := by
      show enumerateSlots reader exampleCancellation false
        [⟨false, exampleSlot⟩] ⟨0, 0, [], []⟩ = _
      rw [enumerateSlots, visit]
      rfl
    rw [enumerate, enumerateModules_eq, run]
    rfl

/-- A cancellation can leave a list that looks whole. -/
theorem cancelled_list_truncated :
    ¬ ∀ reader cancellation tokens,
      Reports reader cancellation tokens := by
  intro always
  let reader : CertificateReader := ⟨fun _ => none, fun _ => ""⟩
  rcases (always reader exampleCancellation exampleTokens).cancelled
    exampleTokens_early with ⟨error, same⟩
  rw [exampleTokens_truncated] at same
  cases same

end Enumerations

end PortalCertificate.Tokens.EnumerationResults
