import PortalCertificate.Module.Session

/-!
# Calls of the module

The entry points that take the module's lock, with the arguments they read.
Output pointers are `Bool` arguments that say whether the pointer is given;
an output count is the value the caller put there.

The remaining entry points of the function list return constants and do not
read the module's state.
-/

namespace PortalCertificate.Module.Calls

open PortalCertificate.Library.Der (Octets)
open PortalCertificate.Module.Session
open PortalCertificate.Pkcs11

/-- `PORTAL_SLOT_ID`. -/
def portalSlotId : CkUlong := 1

/-- `CKF_DONT_BLOCK`. -/
def ckfDontBlock : CkUlong := 0x1
/-- `CKF_RW_SESSION`. -/
def ckfRwSession : CkUlong := 0x2
/-- `CKF_SERIAL_SESSION`. -/
def ckfSerialSession : CkUlong := 0x4
/-- `CKF_OS_LOCKING_OK`. -/
def ckfOsLockingOk : CkUlong := 0x2

/-- `CKU_USER`. -/
def ckuUser : CkUlong := 1

/-- `CK_C_INITIALIZE_ARGS`, with which of the mutex functions are given. -/
structure InitializeArgs where
  createMutex : Bool
  destroyMutex : Bool
  lockMutex : Bool
  unlockMutex : Bool
  flags : CkUlong
  reserved : Option String
  deriving DecidableEq, Repr

/-- Some function for mutexes is given. -/
def InitializeArgs.anyMutex (args : InitializeArgs) : Bool :=
  args.createMutex || args.destroyMutex || args.lockMutex ||
    args.unlockMutex

/-- All functions for mutexes are given. -/
def InitializeArgs.allMutex (args : InitializeArgs) : Bool :=
  args.createMutex && args.destroyMutex && args.lockMutex &&
    args.unlockMutex

/-- A call of the module, with its arguments. -/
inductive Call where
  | cInitialize (args : Option InitializeArgs)
  | cFinalize (reserved : Bool)
  | cGetSlotList (slotList : Bool) (count : Option Nat)
  | cGetSlotInfo (slot : CkUlong) (info : Bool)
  | cGetTokenInfo (slot : CkUlong) (info : Bool)
  | cGetMechanismList (slot : CkUlong) (mechanismList : Bool)
      (count : Option Nat)
  | cGetMechanismInfo (slot type : CkUlong) (info : Bool)
  | cOpenSession (slot flags : CkUlong) (sessionHandle : Bool)
  | cCloseSession (session : Nat)
  | cCloseAllSessions (slot : CkUlong)
  | cGetSessionInfo (session : Nat) (info : Bool)
  | cLogin (session : Nat) (userType : CkUlong)
  | cLogout (session : Nat)
  | cFindObjectsInit (session : Nat) (template : CkTemplate)
  | cFindObjects (session : Nat) (objects : Bool) (maxCount : Nat)
      (count : Bool)
  | cFindObjectsFinal (session : Nat)
  | cGetAttributeValue (session : Nat) (object : CkUlong)
      (template : CkTemplate)
  | cSignInit (session : Nat) (mechanism : Option CkMechanism)
      (key : CkUlong)
  | cSign (session : Nat) (data : CkBuffer) (signature : Bool)
      (signatureLen : Option Nat)
  | cSignUpdate (session : Nat) (part : CkBuffer)
  | cSignFinal (session : Nat) (signature : Bool)
      (signatureLen : Option Nat)
  | cDecryptInit (session : Nat) (mechanism : Option CkMechanism)
      (key : CkUlong)
  | cDecrypt (session : Nat) (ciphertext : CkBuffer) (plaintext : Bool)
      (plaintextLen : Option Nat)
  | cWaitForSlotEvent (flags : CkUlong) (slot reserved : Bool)
  deriving DecidableEq, Repr

/-- The session handle a session call names. -/
def Call.session? : Call → Option Nat
  | .cCloseSession session
  | .cGetSessionInfo session _
  | .cLogin session _
  | .cLogout session
  | .cFindObjectsInit session _
  | .cFindObjects session _ _ _
  | .cFindObjectsFinal session
  | .cGetAttributeValue session _ _
  | .cSignInit session _ _
  | .cSign session _ _ _
  | .cSignUpdate session _
  | .cSignFinal session _ _
  | .cDecryptInit session _ _
  | .cDecrypt session _ _ _ => some session
  | .cInitialize _ | .cFinalize _ | .cGetSlotList _ _ | .cGetSlotInfo _ _
  | .cGetTokenInfo _ _ | .cGetMechanismList _ _ _ | .cGetMechanismInfo _ _ _
  | .cOpenSession _ _ _ | .cCloseAllSessions _ | .cWaitForSlotEvent _ _ _ =>
      none

/-- No attributes are given, although there should be some. -/
private def nullTemplate : CkTemplate → Bool
  | .null count => count != 0
  | .array _ => false

/-- The check of a slot, and of a pointer that may not be missing. -/
private def slotArguments (slot : CkUlong) (given : Bool) : Option CkRv :=
  if !given then some .argumentsBad
  else if slot != portalSlotId then some .slotIdInvalid
  else none

/-- What a call returns for its arguments alone, before the lock. -/
def Call.argumentCheck : Call → Option CkRv
  | .cInitialize _ => none
  | .cFinalize reserved => if reserved then some .argumentsBad else none
  | .cGetSlotList _ count =>
      if count.isNone then some .argumentsBad else none
  | .cGetSlotInfo slot info => slotArguments slot info
  | .cGetTokenInfo slot info => slotArguments slot info
  | .cGetMechanismList slot _ count => slotArguments slot count.isSome
  | .cGetMechanismInfo slot _ info => slotArguments slot info
  | .cOpenSession slot flags sessionHandle =>
      match slotArguments slot sessionHandle with
      | some rv => some rv
      | none =>
          if flags &&& ckfSerialSession = 0 then
            some .sessionParallelNotSupported
          else if flags &&& ckfRwSession ≠ 0 then
            some .tokenWriteProtected
          else
            none
  | .cCloseSession _ => none
  | .cCloseAllSessions slot =>
      if slot ≠ portalSlotId then some .slotIdInvalid else none
  | .cGetSessionInfo _ info => if info then none else some .argumentsBad
  | .cLogin _ userType =>
      if userType ≠ ckuUser then some .userTypeInvalid else none
  | .cLogout _ => none
  | .cFindObjectsInit _ template =>
      if nullTemplate template then some .argumentsBad else none
  | .cFindObjects _ objects maxCount count =>
      if !count || (!objects && maxCount != 0) then some .argumentsBad
      else none
  | .cFindObjectsFinal _ => none
  | .cGetAttributeValue _ _ template =>
      if nullTemplate template then some .argumentsBad else none
  | .cSignInit _ mechanism _ =>
      if mechanism.isNone then some .argumentsBad else none
  | .cSign _ _ _ signatureLen =>
      if signatureLen.isNone then some .argumentsBad else none
  | .cSignUpdate _ _ => none
  | .cSignFinal _ _ signatureLen =>
      if signatureLen.isNone then some .argumentsBad else none
  | .cDecryptInit _ mechanism _ =>
      match mechanism with
      | none => some .argumentsBad
      | some mechanism =>
          if mechanism.mechanism ≠ ckmRsaPkcsOaep then
            some .mechanismInvalid
          else
            none
  | .cDecrypt _ _ _ plaintextLen =>
      if plaintextLen.isNone then some .argumentsBad else none
  | .cWaitForSlotEvent flags slot reserved =>
      if !slot || reserved || flags &&& ~~~ckfDontBlock != 0 then
        some .argumentsBad
      else if flags &&& ckfDontBlock = 0 then
        some .functionNotSupported
      else
        none

/-- `MODULE_CHECK` stands in every call but these two. -/
def Call.checksModule : Call → Bool
  | .cInitialize _ | .cFinalize _ => false
  | _ => true

/-- What a call writes through its output pointers. -/
inductive Output where
  | none
  | count (count : Nat)
  | slots (slots : List CkUlong)
  | slot (slot : CkUlong)
  | slotInfo (tokenPresent : Bool)
  | tokenInfo (serial : String)
  | mechanisms (mechanisms : List CkUlong)
  | mechanismInfo (minKeySize maxKeySize : Nat) (signs : Bool)
  | session (handle : Nat)
  | sessionInfo (loggedIn : Bool) (flags : CkUlong)
  | objects (objects : List CkUlong)
  | attributes (template : CkTemplate)
  | length (length : Nat)
  | octets (octets : Octets)
  deriving DecidableEq, Repr

/-- A return code, and what is written for the caller. -/
structure Reply where
  rv : CkRv
  output : Output
  deriving DecidableEq, Repr

/-- A reply that writes nothing. -/
def answer (rv : CkRv) : Reply := ⟨rv, .none⟩

@[simp]
theorem answer_rv (rv : CkRv) : (answer rv).rv = rv := rfl

/-- `PortalModuleErrorCode`, and errors of other domains. -/
inductive PortalErrorCode where
  | failed
  | cancelled
  | unavailable
  | invalidated
  | timeout
  | pinLocked
  | device
  | loginRequired
  | invalidRequest
  | foreign
  deriving DecidableEq, Repr

/-- `portal_error_to_rv`. -/
def portalErrorToRv : PortalErrorCode → CkRv
  | .cancelled => .functionCanceled
  | .invalidated => .deviceRemoved
  | .unavailable => .tokenNotPresent
  | .pinLocked => .pinLocked
  | .device => .deviceError
  | .loginRequired => .userNotLoggedIn
  | .invalidRequest => .argumentsBad
  | .failed | .timeout | .foreign => .functionFailed

end PortalCertificate.Module.Calls
