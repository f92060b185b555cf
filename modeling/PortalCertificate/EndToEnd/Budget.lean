import PortalCertificate.Broker.Prompts
import PortalCertificate.Broker.SharedLogin
import PortalCertificate.Module.Submissions

/-!
# What an operation costs

An operation of the module costs as many attempts of the grant's budget as it
makes requests.  For a request, the broker asks for the login of its session,
and asks for a PIN on behalf of the request alone if the token says that its
key always needs one.
-/

namespace PortalCertificate.EndToEnd.Budget

open PortalCertificate.Broker.Device (ckrOk)
open PortalCertificate.Broker.DeviceBinding (exampleOpen)
open PortalCertificate.Broker.Operations
open PortalCertificate.Broker.Prompts
open PortalCertificate.Broker.SharedLogin
  (exampleSession exampleSign exampleStart_reachable)
open PortalCertificate.Library.Transition
open PortalCertificate.Module.Acquire
open PortalCertificate.Module.Calls
open PortalCertificate.Module.GrantBinding
open PortalCertificate.Module.Machine
open PortalCertificate.Module.Session
open PortalCertificate.Module.SessionCalls
open PortalCertificate.Module.Statics
open PortalCertificate.Module.Submissions
open PortalCertificate.Module.Threads
open PortalCertificate.Pkcs11

/--
In every run a signing operation is requested at most once, and a call of it
that finds the buffer too small leaves everything as it is.  Decryptions are
requested at most once where each plaintext fits the buffer it is for.

The broker charges the grant for every decryption that it accepts, once, and
for nothing else.  A request asks for or shares at most one login of the
session, or two if a worker finds the first one gone, and a PIN is asked for
on its behalf alone at most once, and only if the token says so.  Without
either it has one PIN interaction at most.
-/
theorem operations_ask_once (host : Host) :
    (∀ world, (machine host).Reachable world →
      AsksOnce (fun kind => kind = .sign) world.state.trace) ∧
    (∀ world, (machine host).ReachableBy Fits world →
      AsksOnce (fun _ => True) world.state.trace) ∧
    (∀ state handle data out outLen answers,
      ((cSign host state handle data out outLen answers).2.rv =
          .bufferTooSmall →
        (cSign host state handle data out outLen answers).1 = state) ∧
      ((cSignFinal host state handle out outLen answers).2.rv =
          .bufferTooSmall →
        (cSignFinal host state handle out outLen answers).1 = state)) ∧
    (∀ session now decrypt operationId mechanismName parameters data
      operation charged,
      certificateBrokerPerform session now decrypt operationId mechanismName
          parameters data = .ok (operation, charged) →
        charged.rest.decryptCount =
          session.rest.decryptCount + if decrypt then 1 else 0) ∧
    (∀ world, Broker.Machine.machine.Reachable world →
      world.session.rest.decryptCount = attempts world.trace ∧
        ∀ id, logins id world.trace ≤ 2 ∧
          contexts id world.trace ≤ 1) ∧
    (∀ id world, Broker.Machine.machine.ReachableBy (LoginStays id) world →
      logins id world.trace ≤ 1) ∧
    (∀ id world, Broker.Machine.machine.ReachableBy (Unmarked id) world →
      contexts id world.trace = 0) ∧
    ∀ id world, Broker.Machine.machine.ReachableBy (Settled id) world →
      pinInteractions id world.trace ≤ 1 := by
  refine ⟨fun world reachable => ?_, fun world reachable => ?_,
    fun state handle data out outLen answers =>
      ⟨cSign_tooSmall, cSignFinal_tooSmall⟩, ?_,
    fun world reachable =>
      ⟨charged_of_reachable reachable, fun _ => prompts_le reachable⟩,
    fun _ _ => logins_le_one, fun _ _ => contexts_eq_zero,
    fun _ _ => pinInteractions_le_one⟩
  · exact (unspent_of_reachableBy (fun _ _ _ => nofun) reachable).requests
  · exact (unspent_of_reachableBy (fun _ _ fits _ => fits)
      reachable).requests
  · intro session now decrypt operationId mechanismName parameters data
      operation charged started
    exact certificateBrokerPerform_charged started

/-! ## A decrypting run -/

/-- A grant whose key decrypts. -/
def decryptingGrant : PortalGrant :=
  { sampleGrant with
    keyType := "RSA"
    keySize := 2048
    supportedMechanisms := ["RSA_OAEP"]
    mayDecrypt := true }

/-- OAEP with SHA-1, and without a label. -/
def sha1Oaep : CkMechanism where
  mechanism := ckmRsaPkcsOaep
  parameter := some
    { pss := { hashAlg := 0, mgf := 0, sLen := 0 }
      oaep :=
        { hashAlg := ckmSha1
          mgf := ckgMgf1Sha1
          source := ckzDataSpecified
          sourceData := none
          sourceDataLen := 0 } }
  parameterLen := sizeofOaepParams

/-- The calls of one thread without an acquisition. -/
def answered (answers : Answers) (calls : List Call) : List Action :=
  calls.flatMap fun call => [.enter 0 call, .run 0 answers]

/-- One decryption is initialised, and tried with buffers of these sizes. -/
def decryptingRun (answers : Answers) (sizes : List Nat) : List Action :=
  answered answers
    [.cInitialize none, .cOpenSession portalSlotId ckfSerialSession true,
      .cFindObjectsInit 1 (.array [])] ++
  [.acquired 0 (.ok decryptingGrant)] ++
  answered answers [.cDecryptInit 1 (some sha1Oaep) 1] ++
  answered answers (sizes.map fun size =>
    .cDecrypt 1 (.octets [0]) true (some size))

/-- Answers with an empty plaintext. -/
def emptyAnswers : Answers := { sampleAnswers with portal := .ok [] }

/-- An empty plaintext fits every buffer. -/
theorem fits_emptyAnswers {action : Action} {answers : Answers}
    {sizes : List Nat} (empty : answers.portal = .ok [])
    (member : action ∈ decryptingRun answers sizes) (world : World) :
    Fits world action := by
  cases action with
  | run thread answers' =>
      have same : answers' = answers := by
        simp only [decryptingRun, answered, List.mem_append,
          List.mem_flatMap, List.mem_cons, List.not_mem_nil] at member
        aesop
      subst same
      intro call entered overflows
      cases call with
      | cDecrypt handle ciphertext plaintext plaintextLen =>
          cases ciphertext <;> cases plaintext <;>
            simp [Overflows, empty] at overflows
      | _ => exact overflows
  | _ => exact trivial

/-! ## A signature -/

/-- A signature whose login succeeds, up to the worker with the lock. -/
def loggingIn : List Broker.Machine.Action :=
  [exampleSign, .openThread 0 (exampleOpen 5), .opened 0 true,
    .prompt 0 .attempt, .login 0 (exampleOpen 5), .endLogin 0 0 none,
    .prompt 0 .judge, .pinDone 0 .ok, .signThread 0 (.ok 1) none]

/-- The token asks for a PIN of the operation's own, and then signs. -/
def authenticating : List Broker.Machine.Action :=
  [.signPerform ⟨true, ckrOk, .ok []⟩, .promptContext true,
    .contextPrompt .attempt, .contextLogin ckrOk, .contextPrompt .judge,
    .contextDone .ok, .signResume (.ok [3, 4]), .signed 0]

/-- The token signs without another PIN. -/
def signing : List Broker.Machine.Action :=
  [.signPerform ⟨false, ckrOk, .ok [3, 4]⟩, .signed 0]

/--
A decryption is requested once, with a buffer of any size, when the plaintext
is empty.  A signature that needs the login, and no PIN of its own, has one
PIN interaction.
-/
theorem operations_ask_once_runs :
    (∃ world, (machine sampleHost).run .start
        (decryptingRun emptyAnswers [0]) = some world ∧
      (requestsIn world.state.trace).length = 1 ∧
      AsksOnce (fun _ => True) world.state.trace) ∧
    ∃ world, Broker.Machine.machine.runBy (Settled 0)
        (.start exampleSession 0) (loggingIn ++ signing) = some world ∧
      .answered 0 (.ok [3, 4]) ∈ world.trace ∧
      logins 0 world.trace = 1 ∧ pinInteractions 0 world.trace ≤ 1 := by
  constructor
  · have moved : (machine sampleHost).run .start
        (decryptingRun emptyAnswers [0]) = some _ := rfl
    have reachable := @System.ReachableBy.run _ _ (machine sampleHost) Fits
      _ _ _ (.initial rfl) (fun _ => fits_emptyAnswers rfl) moved
    exact ⟨_, moved, rfl,
      (operations_ask_once sampleHost).2.1 _ reachable⟩
  · have moved : Broker.Machine.machine.runBy (Settled 0)
        (.start exampleSession 0) (loggingIn ++ signing) = some _ := rfl
    have start : Broker.Machine.machine.ReachableBy (Settled 0)
        (.start exampleSession 0) := .initial ⟨_, _, rfl, rfl⟩
    refine ⟨_, moved, by decide, rfl, ?_⟩
    exact (operations_ask_once sampleHost).2.2.2.2.2.2.2 0 _
      (start.runBy moved)

/--
A signature with a key that always needs authentication shows two prompts.
And where a buffer of no octets is too small for a plaintext, and the caller
tries again with a larger one, the ciphertext is submitted twice.
-/
theorem operations_ask_twice :
    (∃ world, Broker.Machine.machine.run (.start exampleSession 0)
        (loggingIn ++ authenticating) = some world ∧
      .answered 0 (.ok [3, 4]) ∈ world.trace ∧
      world.nextOperation = 1 ∧
      logins 0 world.trace = 1 ∧ contexts 0 world.trace = 1) ∧
    ∃ world, (machine sampleHost).run .start
        (decryptingRun sampleAnswers [0, 1]) = some world ∧
      world.threads 0 =
        .returned (.cDecrypt 1 (.octets [0]) true (some 1))
          ⟨.ok, .octets [1]⟩ ∧
      ¬AsksOnce (fun _ => True) world.state.trace := by
  constructor
  · exact ⟨_, rfl, by decide, rfl, rfl, rfl⟩
  · have moved : (machine sampleHost).run .start
        (decryptingRun sampleAnswers [0, 1]) = some _ := rfl
    refine ⟨_, moved, rfl, fun once => ?_⟩
    exact not_unasked (once [] _ _ rfl trivial)

end PortalCertificate.EndToEnd.Budget
