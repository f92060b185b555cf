import PortalCertificate.Module.Submissions

/-!
# Signing in parts

`C_SignUpdate` and `C_SignFinal` against `C_Sign`.  Feeding the parts of a
message one after another is feeding the message, whichever way the
mechanism takes its input, so the last call finds the operation that
`C_Sign` would find.  A call whose output buffer is missing or too small
comes in between without a trace.
-/

namespace PortalCertificate.Module.MultiPart

open PortalCertificate.Gnutls (HashHandle)
open PortalCertificate.Library.Der (Octets)
open PortalCertificate.Module.Acquire
open PortalCertificate.Module.Calls
open PortalCertificate.Module.Changes
open PortalCertificate.Module.GrantBinding
open PortalCertificate.Module.Machine
open PortalCertificate.Module.Session
open PortalCertificate.Module.SessionCalls
open PortalCertificate.Module.Sign
open PortalCertificate.Module.Statics
open PortalCertificate.Module.Stretches
open PortalCertificate.Module.Submissions
open PortalCertificate.Pkcs11

variable {host : Host}

/-! ## Feeding parts -/

/-- A pointer to octets, or `NULL` for none. -/
def Readable : CkBuffer → Prop
  | .null size => size = 0
  | .octets _ => True

/-- Hashing the octets, if there are any, succeeds. -/
def feeds (octets : Octets) (hashed : Bool) : Bool :=
  octets.isEmpty || hashed

/-- Hashing every part succeeds. -/
def feedsAll (parts : SignParts) : Bool :=
  parts.all fun part => feeds part.1.contents part.2

section Feeding

variable (operation : SignOperation)

@[simp]
theorem signFeed_nil (hashed : Bool) :
    signFeed operation (.octets []) hashed = .ok operation := by
  simp [signFeed]

theorem signFeed_readable
    {data : CkBuffer} (readable : Readable data) (hashed : Bool) :
    signFeed operation data hashed =
      signFeed operation (.octets data.contents) hashed := by
  cases data with
  | null size =>
      cases readable
      simp [signFeed, CkBuffer.contents]
  | octets octets => rfl

/-- Only octets are hashed. -/
theorem signFeed_feeds (octets : Octets) (hashed : Bool) :
    signFeed operation (.octets octets) (feeds octets hashed) =
      signFeed operation (.octets octets) hashed := by
  cases octets with
  | nil => rw [signFeed_nil, signFeed_nil]
  | cons octet octets => rfl

/-- The input of an operation that hashes. -/
theorem signFeed_hashes
    {handle : HashHandle} (hashes : operation.digest = some handle)
    {octets : Octets} (given : octets ≠ []) (hashed : Bool) :
    signFeed operation (.octets octets) hashed =
      if hashed then
        .ok
          { operation with
            digest := some { handle with fed := handle.fed ++ octets } }
      else
        .error .functionFailed := by
  simp [signFeed, hashes, given]

/-- The octets do not fit the buffer of an operation. -/
def Exceeds (buffer octets : Octets) : Prop :=
  buffer.length > preHashedLimit ∨
    octets.length > preHashedLimit - buffer.length

instance (buffer octets : Octets) : Decidable (Exceeds buffer octets) :=
  inferInstanceAs (Decidable (_ ∨ _))

/-- The input of an operation that stores it. -/
theorem signFeed_buffers
    (stores : operation.digest = none) {octets : Octets}
    (given : octets ≠ []) (hashed : Bool) :
    signFeed operation (.octets octets) hashed =
      if Exceeds (operation.buffer.getD []) octets then
        .error .dataLenRange
      else
        .ok
          { operation with
            buffer := some (operation.buffer.getD [] ++ octets) } := by
  simp [signFeed, stores, given, Exceeds]

theorem exceeds_append (buffer first rest : Octets) :
    Exceeds buffer (first ++ rest) ↔
      Exceeds buffer first ∨ Exceeds (buffer ++ first) rest := by
  simp only [Exceeds, List.length_append]
  omega

/-- Feeding two parts is feeding both at once. -/
theorem signFeed_append
    (first rest : Octets) (hashed hashed' : Bool)
    (quiet : rest = [] → hashed' = true) :
    signFeed operation (.octets (first ++ rest))
        (feeds first hashed && hashed') =
      (signFeed operation (.octets first) hashed).bind fun operation =>
        signFeed operation (.octets rest) hashed' := by
  by_cases nothing : first = []
  · subst nothing
    simp [feeds, Except.bind]
  have needed : feeds first hashed = hashed := by
    simp [feeds, nothing]
  rw [needed]
  by_cases ends : rest = []
  · rw [ends, List.append_nil, quiet ends, Bool.and_true]
    cases signFeed operation (.octets first) hashed <;>
      simp [Except.bind]
  have more : first ++ rest ≠ [] := by simp [nothing]
  cases digest : operation.digest with
  | some handle =>
      rw [signFeed_hashes operation digest more,
        signFeed_hashes operation digest nothing]
      cases hashed with
      | false => rfl
      | true =>
          simp only [Bool.true_and, if_true, Except.bind]
          rw [signFeed_hashes _ rfl ends]
          simp
  | none =>
      rw [signFeed_buffers operation digest more,
        signFeed_buffers operation digest nothing]
      by_cases full : Exceeds (operation.buffer.getD []) first
      · have whole := (exceeds_append _ first rest).mpr (.inl full)
        rw [if_pos full, if_pos whole]
        rfl
      · rw [if_neg full]
        simp only [Except.bind]
        rw [signFeed_buffers _ (by exact digest) ends]
        simp [exceeds_append, full]

/-- Feeding all parts is feeding the message. -/
theorem signFeedAll_eq
    (parts : SignParts) (readable : ∀ part ∈ parts, Readable part.1) :
    signFeedAll operation parts =
      signFeed operation (.octets (messageOf parts)) (feedsAll parts) := by
  induction parts generalizing operation with
  | nil =>
      rw [messageOf_nil, signFeed_nil]
      rfl
  | cons part parts ih =>
      have rests (operation : SignOperation) :=
        ih operation fun part member =>
          readable part (List.mem_cons_of_mem _ member)
      have quiet : messageOf parts = [] → feedsAll parts = true := by
        intro nothing
        rw [messageOf, List.flatMap_eq_nil_iff] at nothing
        rw [feedsAll, List.all_eq_true]
        intro part member
        simp [feeds, nothing part member]
      rw [messageOf_cons, feedsAll, List.all_cons, ← feedsAll,
        signFeed_append operation _ _ _ _ quiet,
        ← signFeed_readable operation
          (readable part (List.mem_cons_self ..)),
        signFeedAll, List.foldlM_cons]
      exact congrArg _ (funext rests)

end Feeding

/-! ## Calls on one operation -/

/-- The calls that sign, on a session. -/
inductive SigningCall where
  | sign (data : CkBuffer) (signature : Bool) (signatureLen : Nat)
  | update (part : CkBuffer)
  | final (signature : Bool) (signatureLen : Nat)
  deriving DecidableEq, Repr

namespace SigningCall

/-- The call of the module. -/
def call (handle : Nat) : SigningCall → Call
  | sign data signature signatureLen =>
      .cSign handle data signature (some signatureLen)
  | update part => .cSignUpdate handle part
  | final signature signatureLen =>
      .cSignFinal handle signature (some signatureLen)

/-- What the call does with the lock held. -/
def run
    (host : Host) (state : State) (handle : Nat) (answers : Answers) :
    SigningCall → State × Reply
  | sign data signature signatureLen =>
      cSign host state handle data signature signatureLen answers
  | update part => cSignUpdate state handle part answers
  | final signature signatureLen =>
      cSignFinal host state handle signature signatureLen answers

/-- These are calls of the module. -/
theorem lockedBody_call
    (state : State) (handle : Nat) (answers : Answers)
    (signing : SigningCall) :
    lockedBody host state answers (signing.call handle) =
      reply (signing.run host state handle answers) := by
  cases signing <;> rfl

end SigningCall

/-! ## What is sent -/

/-- The request that `sign_perform` sends. -/
def performSends
    (host : Host) (state : State) (operation : SignOperation) :
    Option OperationRequest :=
  match state.grant, signRequest host.hashes operation with
  | some _, .ok request => some (.sign request)
  | _, _ => none

/-- `sign_finish` sends once its buffer has the size of a signature. -/
def finishSends
    (host : Host) (state : State) (operation : SignOperation) (out : Bool)
    (outLen : Nat) : Option OperationRequest :=
  if out && signatureLength state.grant ≤ outLen then
    performSends host state operation
  else
    none

/-- The request that a call is to send. -/
def sends
    (host : Host) (state : State) (handle : Nat) (answers : Answers)
    (signing : SigningCall) : Option OperationRequest :=
  match (operationSessionLookup state handle).2 with
  | .error _ => none
  | .ok session =>
      if session.sign.active then
        match signing with
        | .sign data signature signatureLen =>
            match signFeed session.sign data answers.hashed with
            | .error _ => none
            | .ok sign =>
                finishSends host state sign signature signatureLen
        | .update _ => none
        | .final signature signatureLen =>
            finishSends host state session.sign signature signatureLen
      else
        none

theorem requestsIn_signPerform
    (state : State) (session : PortalSession) (answers : Answers) :
    requestsIn (signPerform host state session answers).1.trace =
      (performSends host state session.sign).toList ++
        requestsIn state.trace := by
  unfold signPerform performSends
  cases signRequest host.hashes session.sign with
  | error rv => cases state.grant <;> simp
  | ok request =>
      cases current : state.grant with
      | none => simp [portalRequest, current]
      | some grant =>
          have submitted :
              requestsIn (state.emit (.operationRequested (.sign request)
                session.birth grant.acquisition
                grant.sessionHandle)).trace =
              .sign request :: requestsIn state.trace :=
            requestsIn_requested ..
          simp only [portalRequest, current]
          split_ifs
          · exact submitted
          · split <;> exact submitted

theorem requestsIn_signFinish
    (state : State) (handle : Nat) (session : PortalSession)
    (answers : Answers) (out : Bool) (outLen : Nat) :
    requestsIn (signFinish host state handle session answers out
        outLen).1.trace =
      (finishSends host state session.sign out outLen).toList ++
        requestsIn state.trace := by
  have performed := @requestsIn_signPerform host state session answers
  unfold signFinish finishSends
  cases out with
  | false => simp
  | true =>
      by_cases short : outLen < signatureLength state.grant
      · simp [short]
      · simp only [Bool.not_true, Bool.false_eq_true, if_false, short,
          Bool.true_and, not_lt.mp short, decide_true, if_true]
        split <;> rename_i result <;> rw [result] at performed
        · exact performed
        · split_ifs <;> exact performed

/-- The requests that a call adds to the trace. -/
theorem requestsIn_run
    (state : State) (handle : Nat) (answers : Answers)
    (signing : SigningCall) :
    requestsIn (signing.run host state handle answers).1.trace =
      (sends host state handle answers signing).toList ++
        requestsIn state.trace := by
  have looked := requestsIn_operationSessionLookup state handle
  rcases lookup : operationSessionLookup state handle with
    ⟨next, rv | session⟩ <;> rw [lookup] at looked
  · cases signing <;>
      simpa [SigningCall.run, cSign, cSignUpdate, cSignFinal,
        withOperationSession, lookup, sends] using looked
  cases operationSessionLookup_ok lookup
  by_cases active : session.sign.active = true
  swap
  · cases signing <;>
      simp [SigningCall.run, cSign, cSignUpdate, cSignFinal,
        withOperationSession, lookup, sends, active]
  cases signing with
  | sign data signature signatureLen =>
      simp only [SigningCall.run, cSign, withOperationSession, lookup,
        sends, active, Bool.not_true, Bool.false_eq_true, if_false, if_true]
      cases fed : signFeed session.sign data answers.hashed with
      | error rv =>
          split_ifs <;> simp [resetSign]
      | ok sign =>
          have finished := @requestsIn_signFinish host
            (state.updateSession handle fun session =>
              { session with sign }) handle { session with sign } answers
            signature signatureLen
          split_ifs with absent short
          · cases signature
            · simp [finishSends]
            · cases absent
          · simp [finishSends, not_le.mpr short]
          · exact finished
  | update part =>
      simp only [SigningCall.run, cSignUpdate, withOperationSession, lookup,
        sends, active, Bool.not_true, Bool.false_eq_true, if_false, if_true]
      split <;> simp [resetSign]
  | final signature signatureLen =>
      simp only [SigningCall.run, cSignFinal, withOperationSession, lookup,
        sends, active, Bool.not_true, Bool.false_eq_true, if_false, if_true]
      exact requestsIn_signFinish ..

/-! ## Calls one after another -/

/-- What calls have come to, with the requests they have sent. -/
structure Outcome where
  state : State
  reply : Reply
  requests : List OperationRequest

/-- A call, with what it meets outside the module. -/
abbrev AnsweredCall := SigningCall × Answers

/-- The requests that a later trace has besides, oldest first. -/
def requestsSince (earlier later : List Event) : List OperationRequest :=
  ((requestsIn later).take
    ((requestsIn later).length - (requestsIn earlier).length)).reverse

/-- What one call comes to. -/
def outcome
    (host : Host) (handle : Nat) (state : State) (step : AnsweredCall) :
    Outcome :=
  let result := step.1.run host state handle step.2
  { state := result.1
    reply := result.2
    requests := requestsSince state.trace result.1.trace }

theorem outcome_eq
    (handle : Nat) (state : State) (step : AnsweredCall) :
    outcome host handle state step =
      { state := (step.1.run host state handle step.2).1
        reply := (step.1.run host state handle step.2).2
        requests := (sends host state handle step.2 step.1).toList } := by
  simp only [outcome, requestsSince, requestsIn_run]
  cases sends host state handle step.2 step.1 <;> simp

instance (rv : CkRv) : Decidable (Fails rv) :=
  inferInstanceAs (Decidable (_ ∧ _))

theorem not_fails_ok : ¬Fails .ok := by decide

theorem not_fails_tooSmall : ¬Fails .bufferTooSmall := by decide

/-- Calls of one thread, up to the first that fails. -/
def signAll
    (host : Host) (handle : Nat) (last : AnsweredCall) :
    State → List AnsweredCall → Outcome
  | state, [] => outcome host handle state last
  | state, step :: rest =>
      let first := outcome host handle state step
      if Fails first.reply.rv then
        first
      else
        let others := signAll host handle last first.state rest
        { others with requests := first.requests ++ others.requests }

theorem signAll_fails
    {handle : Nat} {last step : AnsweredCall} {rest : List AnsweredCall}
    {state : State} {first : Outcome}
    (fails : Fails first.reply.rv)
    (here : outcome host handle state step = first) :
    signAll host handle last state (step :: rest) = first := by
  subst here
  exact if_pos fails

/-- A call that sends nothing and does not fail. -/
theorem signAll_goes_on
    {handle : Nat} {last step : AnsweredCall} {rest : List AnsweredCall}
    {state next : State} {reply : Reply} (fine : ¬Fails reply.rv)
    (here : outcome host handle state step = ⟨next, reply, []⟩) :
    signAll host handle last state (step :: rest) =
      signAll host handle last next rest := by
  rw [signAll, here, if_neg fine]
  rfl

/-- The output buffer is missing, or too small for a signature. -/
def Short
    (grant : Option PortalGrant) (signature : Bool) (signatureLen : Nat) :
    Prop :=
  signature = false ∨ signatureLen < signatureLength grant

/-- Calls that cut a message into parts, and calls without room between. -/
inductive Cuts (grant : Option PortalGrant) :
    List AnsweredCall → SignParts → Prop where
  | nothing : Cuts grant [] []
  | part {calls : List AnsweredCall} {parts : SignParts}
      (part : CkBuffer) (answers : Answers) (readable : Readable part)
      (rest : Cuts grant calls parts) :
      Cuts grant ((.update part, answers) :: calls)
        ((part, answers.hashed) :: parts)
  | sign {calls : List AnsweredCall} {parts : SignParts}
      (data : CkBuffer) {signature : Bool} {signatureLen : Nat}
      (answers : Answers) (short : Short grant signature signatureLen)
      (rest : Cuts grant calls parts) :
      Cuts grant ((.sign data signature signatureLen, answers) :: calls)
        parts
  | final {calls : List AnsweredCall} {parts : SignParts}
      {signature : Bool} {signatureLen : Nat} (answers : Answers)
      (short : Short grant signature signatureLen)
      (rest : Cuts grant calls parts) :
      Cuts grant ((.final signature signatureLen, answers) :: calls) parts

/-- Every part of a message can be read. -/
theorem Cuts.readable
    {grant : Option PortalGrant} {calls : List AnsweredCall}
    {parts : SignParts} (cuts : Cuts grant calls parts) :
    ∀ part ∈ parts, Readable part.1 := by
  induction cuts with
  | nothing => exact fun _ member => nomatch member
  | part part answers readable rest ih =>
      exact List.forall_mem_cons.mpr ⟨readable, ih⟩
  | sign data answers short rest ih => exact ih
  | final answers short rest ih => exact ih

/-! ## An operation between calls -/

/-- The session is found, and signs. -/
structure Signing
    (state : State) (handle : Nat) (session : PortalSession) : Prop where
  lookup : operationSessionLookup state handle = (state, .ok session)
  active : session.sign.active = true

section Signing

variable
  {state : State} {handle : Nat} {session : PortalSession}
  (signing : Signing state handle session)
include signing

theorem Signing.feeds
    {sign : SignOperation} {data : CkBuffer} {hashed : Bool}
    (fed : signFeed session.sign data hashed = .ok sign) :
    Signing (state.updateSession handle fun session => { session with sign })
      handle { session with sign } where
  lookup := by
    rcases operationSessionLookup_eq_ok_iff.mp signing.lookup with
      ⟨-, good, found⟩
    exact operationSessionLookup_eq_ok_iff.mpr
      ⟨rfl, good, findSession_updateSession
        (fun session => { session with sign }) found fun _ => rfl⟩
  active := (signFeed_active fed).trans signing.active

omit signing in
theorem finishSends_short
    {signature : Bool} {signatureLen : Nat}
    (short : Short state.grant signature signatureLen)
    (operation : SignOperation) :
    finishSends host state operation signature signatureLen = none := by
  rcases short with rfl | small
  · rfl
  · simp [finishSends, not_le.mpr small]

omit signing in
/-- The size of a signature is returned. -/
theorem signFinish_short
    {signature : Bool} {signatureLen : Nat}
    (short : Short state.grant signature signatureLen)
    (answers : Answers) :
    ∃ rv, ¬Fails rv ∧
      signFinish host state handle session answers signature signatureLen =
        (state, ⟨rv, .length (signatureLength state.grant)⟩) := by
  rcases short with rfl | small
  · exact ⟨.ok, not_fails_ok, rfl⟩
  · cases signature with
    | false => exact ⟨.ok, not_fails_ok, rfl⟩
    | true =>
        refine ⟨.bufferTooSmall, not_fails_tooSmall, ?_⟩
        simp [signFinish, small]

/-- A call without room does nothing. -/
theorem outcome_sign_short
    {signature : Bool} {signatureLen : Nat}
    (short : Short state.grant signature signatureLen) (data : CkBuffer)
    (answers : Answers) :
    ∃ reply, outcome host handle state
        (.sign data signature signatureLen, answers) =
          ⟨state, reply, []⟩ ∧ ¬Fails reply.rv := by
  have silent : sends host state handle answers
      (.sign data signature signatureLen) = none := by
    simp only [sends, signing.lookup, signing.active, if_true]
    split
    · rfl
    · exact finishSends_short short _
  rw [outcome_eq, silent]
  simp only [SigningCall.run, cSign, withOperationSession, signing.lookup,
    signing.active, Bool.not_true, Bool.false_eq_true, if_false]
  rcases short with rfl | small
  · exact ⟨_, rfl, not_fails_ok⟩
  · cases signature with
    | false => exact ⟨_, rfl, not_fails_ok⟩
    | true =>
        rw [if_neg (by simp), if_pos small]
        exact ⟨_, rfl, not_fails_tooSmall⟩

theorem outcome_final_short
    {signature : Bool} {signatureLen : Nat}
    (short : Short state.grant signature signatureLen)
    (answers : Answers) :
    ∃ reply, outcome host handle state
        (.final signature signatureLen, answers) =
          ⟨state, reply, []⟩ ∧ ¬Fails reply.rv := by
  have silent : sends host state handle answers
      (.final signature signatureLen) = none := by
    simp only [sends, signing.lookup, signing.active, if_true]
    exact finishSends_short short _
  rw [outcome_eq, silent]
  simp only [SigningCall.run, cSignFinal, withOperationSession,
    signing.lookup, signing.active, Bool.not_true, Bool.false_eq_true,
    if_false]
  rcases @signFinish_short host _ handle session _ _ short answers with
    ⟨rv, fine, finished⟩
  rw [finished]
  exact ⟨_, rfl, fine⟩

/-! ## The last call -/

/-- The request and the result of an operation that has its input. -/
def finishes
    (host : Host) (state : State) (handle : Nat) (session : PortalSession)
    (answers : Answers) (outLen : Nat) (fed : Except CkRv SignOperation) :
    Outcome :=
  match fed with
  | .error rv => ⟨resetSign state handle, answer rv, []⟩
  | .ok sign =>
      let result := signFinish host state handle { session with sign }
        answers true outLen
      ⟨result.1, result.2, (performSends host state sign).toList⟩

omit signing in
theorem portalRequest_updateSession
    (request : OperationRequest) (update : PortalSession → PortalSession)
    (portal : Except PortalErrorCode Octets) :
    portalRequest request (state.updateSession handle update) session portal =
      ((portalRequest request state session portal).1.updateSession handle
          update,
        (portalRequest request state session portal).2) := by
  cases current : state.grant with
  | none => simp [portalRequest, State.updateSession, current]
  | some grant =>
      cases gone : portalClientGrantGone state.client grant <;>
        cases portal <;>
        simp [portalRequest, State.updateSession, State.emit, current, gone]

omit signing in
theorem signPerform_updateSession
    (update : PortalSession → PortalSession) (answers : Answers) :
    signPerform host (state.updateSession handle update) session answers =
      ((signPerform host state session answers).1.updateSession handle
          update,
        (signPerform host state session answers).2) := by
  unfold signPerform
  split
  · rfl
  · exact portalRequest_updateSession ..

omit signing in
/-- What is stored before is reset. -/
theorem resetSign_updateSession (sign : SignOperation) :
    resetSign
        (state.updateSession handle fun session => { session with sign })
        handle =
      resetSign state handle := by
  have same (session : PortalSession) :
      (if (if session.handle = handle then { session with sign }
          else session).handle = handle then
        sessionResetSign (if session.handle = handle then
          { session with sign } else session)
      else if session.handle = handle then { session with sign }
      else session) =
      if session.handle = handle then sessionResetSign session
      else session := by
    split_ifs <;> rfl
  cases sessions : state.sessions with
  | none => simp [resetSign, State.updateSession, sessions]
  | some table =>
      simp only [resetSign, State.updateSession, sessions, Option.map_some,
        List.map_map, Function.comp_def, same]

omit signing in
/-- The input that is stored in between does not matter in the end. -/
theorem signFinish_updateSession
    {answers : Answers} {outLen : Nat}
    (room : signatureLength state.grant ≤ outLen) (sign : SignOperation) :
    signFinish host
        (state.updateSession handle fun session => { session with sign })
        handle session answers true outLen =
      signFinish host state handle session answers true outLen := by
  have length : signatureLength (state.updateSession handle
      fun session => { session with sign }).grant =
        signatureLength state.grant := rfl
  simp only [signFinish, length, not_lt.mpr room, Bool.not_true,
    Bool.false_eq_true, if_false, signPerform_updateSession]
  rcases signPerform host state session answers with ⟨next, rv | octets⟩
  · simp only [resetSign_updateSession]
  · simp only [resetSign_updateSession]

omit signing in
theorem finishes_updateSession
    {answers : Answers} {outLen : Nat}
    (room : signatureLength state.grant ≤ outLen) (sign : SignOperation)
    (fed : Except CkRv SignOperation) :
    finishes host
        (state.updateSession handle fun session => { session with sign })
        handle { session with sign } answers outLen fed =
      finishes host state handle session answers outLen fed := by
  cases fed with
  | error rv => simp only [finishes, resetSign_updateSession]
  | ok last =>
      simp only [finishes, signFinish_updateSession room]
      rfl

theorem outcome_update (part : CkBuffer) (answers : Answers) :
    outcome host handle state (.update part, answers) =
      match signFeed session.sign part answers.hashed with
      | .error rv => ⟨resetSign state handle, answer rv, []⟩
      | .ok sign =>
          ⟨state.updateSession handle fun session => { session with sign },
            answer .ok, []⟩ := by
  simp only [outcome_eq, SigningCall.run, cSignUpdate, withOperationSession,
    sends, signing.lookup, signing.active, Bool.not_true,
    Bool.false_eq_true, if_false, if_true]
  cases signFeed session.sign part answers.hashed <;> rfl

theorem outcome_final
    {outLen : Nat} (room : signatureLength state.grant ≤ outLen)
    (answers : Answers) :
    outcome host handle state (.final true outLen, answers) =
      finishes host state handle session answers outLen
        (.ok session.sign) := by
  simp [outcome_eq, SigningCall.run, cSignFinal, withOperationSession, sends,
    signing.lookup, signing.active, finishSends, room, finishes]

theorem outcome_sign
    {outLen : Nat} (room : signatureLength state.grant ≤ outLen)
    (data : CkBuffer) (answers : Answers) :
    outcome host handle state (.sign data true outLen, answers) =
      finishes host state handle session answers outLen
        (signFeed session.sign data answers.hashed) := by
  simp only [outcome_eq, SigningCall.run, cSign, withOperationSession, sends,
    signing.lookup, signing.active, Bool.not_true, Bool.false_eq_true,
    if_false, if_true, not_lt.mpr room]
  cases signFeed session.sign data answers.hashed with
  | error rv => rfl
  | ok sign =>
      simp only [finishes, signFinish_updateSession room, finishSends, room,
        decide_true, Bool.and_true, if_true]

end Signing

/-- Calls that cut a message into parts come to feeding all parts. -/
theorem signAll_cuts
    {grant : Option PortalGrant} {calls : List AnsweredCall}
    {parts : SignParts} (cuts : Cuts grant calls parts) {state : State}
    {handle : Nat} {session : PortalSession}
    (signing : Signing state handle session) (same : state.grant = grant)
    {outLen : Nat} (room : signatureLength grant ≤ outLen)
    (answers : Answers) :
    signAll host handle (.final true outLen, answers) state calls =
      finishes host state handle session answers outLen
        (signFeedAll session.sign parts) := by
  induction cuts generalizing state session with
  | nothing => exact outcome_final signing (same ▸ room) answers
  | @part calls parts part answers' readable rest ih =>
      have first := @outcome_update host _ _ _ signing part answers'
      rw [signFeedAll, List.foldlM_cons]
      cases fed : signFeed session.sign part answers'.hashed with
      | error rv =>
          rw [fed] at first
          exact signAll_fails (signFeed_fails fed) first
      | ok sign =>
          rw [fed] at first
          rw [signAll_goes_on not_fails_ok first,
            ih (signing.feeds fed) same, finishes_updateSession (same ▸ room)]
          rfl
  | @sign calls parts data signature signatureLen answers' short rest ih =>
      rcases @outcome_sign_short host _ _ _ signing _ _ (same ▸ short) data
        answers' with ⟨reply, first, fine⟩
      rw [signAll_goes_on fine first]
      exact ih signing same
  | @final calls parts signature signatureLen answers' short rest ih =>
      rcases @outcome_final_short host _ _ _ signing _ _ (same ▸ short)
        answers' with ⟨reply, first, fine⟩
      rw [signAll_goes_on fine first]
      exact ih signing same

/-! ## In parts or at once -/

/-- Both buffers hold a signature, and both or neither hold this one. -/
structure SameRoom
    (grant : Option PortalGrant) (portal : Except PortalErrorCode Octets)
    (firstLen secondLen : Nat) : Prop where
  first : signatureLength grant ≤ firstLen
  second : signatureLength grant ≤ secondLen
  signature : ∀ signature, portal = .ok signature →
    (signature.length ≤ firstLen ↔ signature.length ≤ secondLen)

theorem signPerform_ok
    {state next : State} {session : PortalSession} {answers : Answers}
    {signature : Octets}
    (signed : signPerform host state session answers =
      (next, .ok signature)) : answers.portal = .ok signature := by
  unfold signPerform at signed
  split at signed
  · cases signed
  · rcases portalRequest_ok signed with ⟨-, -, -, portal⟩
    exact portal

/-- The result depends on the portal and on the room there is. -/
theorem finishes_congr
    {state : State} {first second : Answers} {firstLen secondLen : Nat}
    (portal : first.portal = second.portal)
    (room : SameRoom state.grant second.portal firstLen secondLen)
    (handle : Nat) (session : PortalSession)
    (fed : Except CkRv SignOperation) :
    finishes host state handle session first firstLen fed =
      finishes host state handle session second secondLen fed := by
  cases fed with
  | error rv => rfl
  | ok sign =>
      have performed :
          signPerform host state { session with sign } first =
            signPerform host state { session with sign } second := by
        simp only [signPerform, portal]
      simp only [finishes, signFinish, not_lt.mpr room.first,
        not_lt.mpr room.second, Bool.not_true, Bool.false_eq_true, if_false,
        performed]
      rcases result : signPerform host state { session with sign } second
        with ⟨next, rv | signature⟩
      · rfl
      · have same := room.signature signature (signPerform_ok result)
        simp only [← not_le, same]

section Refused

variable {state next : State} {handle : Nat}

theorem outcome_unfound
    {rv : CkRv}
    (lookup : operationSessionLookup state handle = (next, .error rv))
    (step : AnsweredCall) :
    outcome host handle state step = ⟨next, answer rv, []⟩ := by
  rcases step with ⟨signing, answers⟩
  cases signing <;>
    simp [outcome_eq, SigningCall.run, cSign, cSignUpdate, cSignFinal,
      withOperationSession, sends, lookup]

theorem outcome_inactive
    {session : PortalSession}
    (lookup : operationSessionLookup state handle = (state, .ok session))
    (inactive : session.sign.active = false) (step : AnsweredCall) :
    outcome host handle state step =
      ⟨state, answer .operationNotInitialized, []⟩ := by
  rcases step with ⟨signing, answers⟩
  cases signing <;>
    simp [outcome_eq, SigningCall.run, cSign, cSignUpdate, cSignFinal,
      withOperationSession, sends, lookup, inactive]

/-- Where every call fails, the first one does. -/
theorem signAll_refused
    {refusal : Outcome} (fails : Fails refusal.reply.rv)
    (refused : ∀ step, outcome host handle state step = refusal)
    (last : AnsweredCall) (calls : List AnsweredCall) :
    signAll host handle last state calls = refusal := by
  cases calls with
  | nil => exact refused last
  | cons step rest => exact signAll_fails fails (refused step)

end Refused

/-- A call that returns the size of a signature. -/
def Sizes (signing : SigningCall) (rv : CkRv) : Prop :=
  match signing with
  | .sign _ signature _ | .final signature _ =>
      rv = .bufferTooSmall ∨ signature = false ∧ rv = .ok
  | .update _ => False

theorem run_sizes
    {state : State} {handle : Nat} {answers : Answers}
    {signing : SigningCall}
    (sizes : Sizes signing (signing.run host state handle answers).2.rv) :
    (signing.run host state handle answers).1 = state := by
  rcases lookup : operationSessionLookup state handle with
    ⟨next, rv | session⟩
  · have failed := congrArg Outcome.reply
      (@outcome_unfound host _ _ _ _ lookup (signing, answers))
    have fails := operationSessionLookup_fails lookup
    have same : (signing.run host state handle answers).2.rv = rv :=
      congrArg Reply.rv failed
    rw [same] at sizes
    cases signing with
    | update part => cases sizes
    | sign | final =>
        rcases sizes with short | ⟨-, fine⟩
        · exact absurd short fails.2
        · exact absurd fine fails.1
  cases operationSessionLookup_ok lookup
  cases signing with
  | update part => cases sizes
  | sign data signature signatureLen =>
      rcases sizes with short | ⟨rfl, -⟩
      · exact cSign_tooSmall short
      · simp only [SigningCall.run, cSign, withOperationSession, lookup]
        split_ifs <;> first | rfl | contradiction
  | final signature signatureLen =>
      rcases sizes with short | ⟨rfl, -⟩
      · exact cSignFinal_tooSmall short
      · simp only [SigningCall.run, cSignFinal, withOperationSession,
          lookup]
        split_ifs <;> rfl

/--
Cutting a message into parts, with calls for the size between them, comes to
the same state, reply and requests as signing the message in one call.  A
call that only returns a size leaves everything as it is.
-/
theorem multi_part_signing (host : Host) :
    (∀ handle state calls parts whole first second firstLen secondLen,
      Cuts state.grant calls parts → Readable whole →
      messageOf parts = whole.contents →
      feedsAll parts = feeds whole.contents second.hashed →
      first.portal = second.portal →
      SameRoom state.grant second.portal firstLen secondLen →
        signAll host handle (.final true firstLen, first) state calls =
          outcome host handle state
            (.sign whole true secondLen, second)) ∧
    ∀ handle state answers signing,
      Sizes signing (signing.run host state handle answers).2.rv →
        (signing.run host state handle answers).1 = state := by
  constructor
  · intro handle state calls parts whole first second firstLen secondLen
      cuts readable message hashed portal room
    rcases lookup : operationSessionLookup state handle with
      ⟨next, rv | session⟩
    · rw [signAll_refused (operationSessionLookup_fails lookup)
        (outcome_unfound lookup), outcome_unfound lookup]
    cases operationSessionLookup_ok lookup
    cases active : session.sign.active with
    | false =>
        rw [signAll_refused ⟨CkRv.noConfusion, CkRv.noConfusion⟩
            (outcome_inactive lookup active),
          outcome_inactive lookup active]
    | true =>
        have signing : Signing state handle session := ⟨lookup, active⟩
        have fed : signFeedAll session.sign parts =
            signFeed session.sign whole second.hashed := by
          rw [signFeedAll_eq _ parts cuts.readable, message, hashed,
            signFeed_feeds, signFeed_readable _ readable]
        rw [signAll_cuts cuts signing rfl room.first, fed,
          outcome_sign signing room.second,
          finishes_congr portal room]
  · intro handle state answers signing sizes
    exact run_sizes sizes

/-! ## A message in two parts -/

/-- A signing operation has been initialised. -/
def signingState : State :=
  (((machine sampleHost).run .start
    (acquiringRun ++ [.acquired 0 (.ok sampleGrant)] ++
      calling 0 (.cSignInit 1 (some ⟨ckmEcdsa, none, 0⟩) 1))).getD
    .start).state

/-- The first or the second half of a digest. -/
def halfDigest : CkBuffer := .octets (List.replicate 10 0)

/-- A digest of 20 octets. -/
def wholeDigest : CkBuffer := .octets (List.replicate 20 0)

/-- The size is asked for, and a buffer of three octets is tried. -/
def halvesAndSizes : List AnsweredCall :=
  [(.final false 0, sampleAnswers), (.update halfDigest, sampleAnswers),
    (.sign wholeDigest true 3, sampleAnswers),
    (.update halfDigest, sampleAnswers)]

theorem cuts_halvesAndSizes :
    Cuts signingState.grant halvesAndSizes
      [(halfDigest, true), (halfDigest, true)] := by
  have small : 3 < signatureLength signingState.grant := by decide
  exact .final _ (.inl rfl) <| .part _ _ trivial <|
    .sign _ _ (.inr small) <| .part _ _ trivial .nothing

/-- Two halves and two questions for the size make one signature. -/
theorem multi_part_signing_halves :
    signAll sampleHost 1 (.final true 64, sampleAnswers) signingState
        halvesAndSizes =
      outcome sampleHost 1 signingState
        (.sign wholeDigest true 100, sampleAnswers) ∧
    (outcome sampleHost 1 signingState
      (.sign wholeDigest true 100, sampleAnswers)).reply =
        ⟨.ok, .octets [1]⟩ ∧
    (outcome sampleHost 1 signingState
      (.sign wholeDigest true 100, sampleAnswers)).requests =
        [.sign signedDigest] ∧
    (SigningCall.run sampleHost signingState 1 sampleAnswers
      (.sign wholeDigest true 3)).1 = signingState := by
  have length : signatureLength signingState.grant = 64 := by decide
  have room : SameRoom signingState.grant sampleAnswers.portal 64 100 := by
    constructor
    · exact length.le
    · exact length.le.trans (by decide)
    · intro signature same
      cases same
      decide
  refine ⟨?_, by decide, by decide, ?_⟩
  · exact (multi_part_signing sampleHost).1 1 signingState _ _ wholeDigest
      _ _ _ _ cuts_halvesAndSizes trivial rfl rfl rfl room
  · exact (multi_part_signing sampleHost).2 1 signingState _ _
      (.inl (by decide))

end PortalCertificate.Module.MultiPart
