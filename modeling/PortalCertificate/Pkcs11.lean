import Mathlib.Algebra.Group.Nat.Defs
import Mathlib.Data.List.Basic

/-!
# The part of the PKCS#11 interface the repository uses

Numbers of the interface are `CK_ULONG` values, 64 bits wide as on the LP64
platforms the module is built for.  A return code is an enumeration, since
the code only compares return codes.

A parameter pointer of a mechanism is modelled by what reading through it
gives at either parameter type: the module reads the memory at the type its
mechanism table asks for, once the length agrees.
-/

namespace PortalCertificate.Pkcs11

/-- `CK_ULONG`, on a platform where it has 64 bits. -/
abbrev CkUlong := UInt64

/-! ## Mechanism types -/

def ckmRsaPkcs : CkUlong := 0x1
def ckmSha1RsaPkcs : CkUlong := 0x6
def ckmRsaPkcsOaep : CkUlong := 0x9
def ckmRsaPkcsPss : CkUlong := 0xd
def ckmSha1RsaPkcsPss : CkUlong := 0xe
def ckmSha256RsaPkcs : CkUlong := 0x40
def ckmSha384RsaPkcs : CkUlong := 0x41
def ckmSha512RsaPkcs : CkUlong := 0x42
def ckmSha256RsaPkcsPss : CkUlong := 0x43
def ckmSha384RsaPkcsPss : CkUlong := 0x44
def ckmSha512RsaPkcsPss : CkUlong := 0x45
def ckmSha224RsaPkcs : CkUlong := 0x46
def ckmSha224RsaPkcsPss : CkUlong := 0x47
def ckmSha1 : CkUlong := 0x220
def ckmSha256 : CkUlong := 0x250
def ckmSha224 : CkUlong := 0x255
def ckmSha384 : CkUlong := 0x260
def ckmSha512 : CkUlong := 0x270
def ckmEcdsa : CkUlong := 0x1041
def ckmEcdsaSha1 : CkUlong := 0x1042
def ckmEcdsaSha224 : CkUlong := 0x1043
def ckmEcdsaSha256 : CkUlong := 0x1044
def ckmEcdsaSha384 : CkUlong := 0x1045
def ckmEcdsaSha512 : CkUlong := 0x1046

/-! ## Mask generation functions -/

def ckgMgf1Sha1 : CkUlong := 0x1
def ckgMgf1Sha256 : CkUlong := 0x2
def ckgMgf1Sha384 : CkUlong := 0x3
def ckgMgf1Sha512 : CkUlong := 0x4
def ckgMgf1Sha224 : CkUlong := 0x5

def ckzDataSpecified : CkUlong := 0x1

/-! ## Mechanisms and their parameters -/

/-- `CK_RSA_PKCS_PSS_PARAMS`. -/
structure CkRsaPkcsPssParams where
  hashAlg : CkUlong
  mgf : CkUlong
  sLen : CkUlong
  deriving DecidableEq, Repr

/-- `CK_RSA_PKCS_OAEP_PARAMS`; `none` is a `NULL` label pointer. -/
structure CkRsaPkcsOaepParams where
  hashAlg : CkUlong
  mgf : CkUlong
  source : CkUlong
  sourceData : Option (List UInt8)
  sourceDataLen : CkUlong
  deriving DecidableEq, Repr

/-- `sizeof(CK_RSA_PKCS_PSS_PARAMS)`. -/
def sizeofPssParams : CkUlong := 24

/-- `sizeof(CK_RSA_PKCS_OAEP_PARAMS)`. -/
def sizeofOaepParams : CkUlong := 40

/-- What reading parameter memory gives at each parameter type. -/
structure CkParameterMemory where
  pss : CkRsaPkcsPssParams
  oaep : CkRsaPkcsOaepParams
  deriving DecidableEq, Repr

/-- A `CK_MECHANISM` an application passes; `none` is a `NULL` parameter. -/
structure CkMechanism where
  mechanism : CkUlong
  parameter : Option CkParameterMemory
  parameterLen : CkUlong
  deriving DecidableEq, Repr

/-- The parameter of a `CK_MECHANISM` handed to a token. -/
inductive CkParameter where
  | null
  | pss (parameters : CkRsaPkcsPssParams)
  | oaep (parameters : CkRsaPkcsOaepParams)
  deriving DecidableEq, Repr

/-- A `CK_MECHANISM` handed to a token. -/
structure CkTokenMechanism where
  mechanism : CkUlong
  parameter : CkParameter
  deriving DecidableEq, Repr

/-! ## Attributes -/

def ckaClass : CkUlong := 0x0
def ckaToken : CkUlong := 0x1
def ckaPrivate : CkUlong := 0x2
def ckaLabel : CkUlong := 0x3
def ckaValue : CkUlong := 0x11
def ckaCertificateType : CkUlong := 0x80
def ckaIssuer : CkUlong := 0x81
def ckaSerialNumber : CkUlong := 0x82
def ckaTrusted : CkUlong := 0x86
def ckaCertificateCategory : CkUlong := 0x87
def ckaKeyType : CkUlong := 0x100
def ckaSubject : CkUlong := 0x101
def ckaId : CkUlong := 0x102
def ckaSensitive : CkUlong := 0x103
def ckaEncrypt : CkUlong := 0x104
def ckaDecrypt : CkUlong := 0x105
def ckaWrap : CkUlong := 0x106
def ckaUnwrap : CkUlong := 0x107
def ckaSign : CkUlong := 0x108
def ckaSignRecover : CkUlong := 0x109
def ckaVerify : CkUlong := 0x10a
def ckaVerifyRecover : CkUlong := 0x10b
def ckaDerive : CkUlong := 0x10c
def ckaModulus : CkUlong := 0x120
def ckaModulusBits : CkUlong := 0x121
def ckaPublicExponent : CkUlong := 0x122
def ckaPrivateExponent : CkUlong := 0x123
def ckaPrime1 : CkUlong := 0x124
def ckaPrime2 : CkUlong := 0x125
def ckaExponent1 : CkUlong := 0x126
def ckaExponent2 : CkUlong := 0x127
def ckaCoefficient : CkUlong := 0x128
def ckaExtractable : CkUlong := 0x162
def ckaLocal : CkUlong := 0x163
def ckaNeverExtractable : CkUlong := 0x164
def ckaAlwaysSensitive : CkUlong := 0x165
def ckaModifiable : CkUlong := 0x170
def ckaDestroyable : CkUlong := 0x172
def ckaEcParams : CkUlong := 0x180
def ckaEcPoint : CkUlong := 0x181
def ckaAlwaysAuthenticate : CkUlong := 0x202

def ckoCertificate : CkUlong := 0x1
def ckoPublicKey : CkUlong := 0x2
def ckoPrivateKey : CkUlong := 0x3

def ckcX509 : CkUlong := 0x0
def ckCertificateCategoryTokenUser : CkUlong := 0x1

def ckkRsa : CkUlong := 0x0
def ckkEc : CkUlong := 0x3

/-- `CK_TRUE`, the octet of a `CK_BBOOL`. -/
def ckTrue : UInt8 := 1

def ckUnavailableInformation : CkUlong := 0xffffffffffffffff

/--
A `CK_ATTRIBUTE` of a template: `none` is a `NULL` value pointer, and other
pointers carry the memory they point to.
-/
structure CkAttribute where
  type : CkUlong
  value : Option (List UInt8)
  valueLen : CkUlong
  deriving DecidableEq, Repr

/-- The memory an attribute names, cut at its length. -/
def CkAttribute.bytes (entry : CkAttribute) : Option (List UInt8) :=
  entry.value.map (List.take entry.valueLen.toNat)

/-- A template argument and its count. -/
inductive CkTemplate where
  | null (count : Nat)
  | array (attributes : List CkAttribute)
  deriving DecidableEq, Repr

/-- The `CK_ULONG` stored in eight octets of a little-endian host. -/
def readUlong (octets : List UInt8) : CkUlong :=
  octets.foldr (fun octet value => value * 256 + octet.toUInt64) 0

/-- A `CK_ULONG` as a little-endian host stores it. -/
def ulongOctets (value : CkUlong) : List UInt8 :=
  (List.range 8).map fun index => UInt8.ofNat (value.toNat / 256 ^ index)

@[simp]
theorem readUlong_ulongOctets (value : CkUlong) :
    readUlong (ulongOctets value) = value := by
  have bound := value.toNat_lt
  apply UInt64.toNat_inj.mp
  simp [ulongOctets, readUlong, List.range_succ]
  omega

/-! ## Return codes -/

/-- The `CK_RV` values the module returns. -/
inductive CkRv where
  | ok
  | argumentsBad
  | attributeSensitive
  | attributeTypeInvalid
  | bufferTooSmall
  | cantLock
  | cryptokiAlreadyInitialized
  | cryptokiNotInitialized
  | dataInvalid
  | dataLenRange
  | deviceError
  | deviceRemoved
  | functionCanceled
  | functionFailed
  | functionNotSupported
  | keyFunctionNotPermitted
  | keyHandleInvalid
  | keyTypeInconsistent
  | mechanismInvalid
  | mechanismParamInvalid
  | noEvent
  | objectHandleInvalid
  | operationActive
  | operationNotInitialized
  | pinLocked
  | sessionHandleInvalid
  | sessionParallelNotSupported
  | slotIdInvalid
  | tokenNotPresent
  | tokenWriteProtected
  | userAlreadyLoggedIn
  | userNotLoggedIn
  | userTypeInvalid
  deriving DecidableEq, Repr

end PortalCertificate.Pkcs11
