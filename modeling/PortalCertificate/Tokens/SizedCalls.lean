import PortalCertificate.Library.Der
import PortalCertificate.Library.SizedBuffer
import PortalCertificate.Pkcs11

/-!
# Calls that are made twice

`pkcs11-util.c` and `discovery.c` ask a module for the size of a value or a
list and then for the value or the list.  A module may tell another size the
second time.  Only the reading of an attribute looks at it again.
-/

namespace PortalCertificate.Tokens.SizedCalls

open PortalCertificate.Library.Der (Octets)
open PortalCertificate.Library.SizedBuffer
open PortalCertificate.Pkcs11

/-- A length that is not available, `(CK_ULONG) -1`. -/
def ckUnavailable : CkUlong := 0xffffffffffffffff

/-- What a module returns and tells in the sizing call and in the following
one, and what the memory holds afterwards. -/
structure SizedAnswers (Item : Type) where
  sizingRv : CkUlong
  sizing : CkUlong
  valueRv : CkUlong
  value : CkUlong
  item : Nat → Item

section Sized

variable {Item : Type}

/-- The buffer that is allocated for the size of the first call. -/
def SizedAnswers.buffer (answers : SizedAnswers Item) : Memory Item where
  allocated := answers.sizing.toNat
  item := answers.item

/-- Both calls succeed. -/
structure SizedAnswers.Succeed (answers : SizedAnswers Item) : Prop where
  sizing : answers.sizingRv = 0
  value : answers.valueRv = 0

end Sized

/-! ## Attributes -/

/-- `CERTIFICATE_PKCS11_ATTRIBUTE_MAX`. -/
def attributeMax : Nat := 64 * 1024

/-- `certificate_pkcs11_get_attribute`, and the octets that are read. -/
def certificatePkcs11GetAttribute (answers : SizedAnswers UInt8) :
    Option Octets × List Nat :=
  if answers.sizingRv ≠ 0 ∨ answers.sizing = ckUnavailable ∨
      answers.sizing = 0 then
    (none, [])
  else if attributeMax < answers.sizing.toNat then
    (none, [])
  -- The second attribute read may change length.
  else if answers.valueRv ≠ 0 ∨
      answers.sizing.toNat < answers.value.toNat then
    (none, [])
  else
    let read := answers.buffer.readAll answers.value.toNat
    (some read.1, read.2)

/-- `certificate_pkcs11_get_bool` for the answer to its only call. -/
def certificatePkcs11GetBool (rv : CkUlong) (value fallback : Bool) : Bool :=
  if rv ≠ 0 then fallback else value

/-! ## Lists -/

/-- `certificate_pkcs11_has_mechanism`, and the entries that are read. -/
def certificatePkcs11HasMechanism
    (answers : SizedAnswers CkUlong) (mechanism : CkUlong) :
    Bool × List Nat :=
  if answers.sizingRv ≠ 0 ∨ answers.sizing = 0 then
    (false, [])
  else if answers.valueRv ≠ 0 then
    (false, [])
  else
    answers.buffer.readUntil (fun listed => listed == mechanism) 0
      answers.value.toNat

/-- `slots_with_token`, and the entries that are read. -/
def slotsWithToken (answers : SizedAnswers CkUlong) :
    List CkUlong × List Nat :=
  if answers.sizingRv ≠ 0 ∨ answers.sizing = 0 then
    ([], [])
  else if answers.valueRv ≠ 0 then
    ([], [])
  else
    answers.buffer.readAll answers.value.toNat

/-! ## What is read -/

theorem getAttribute_inBounds (answers : SizedAnswers UInt8) :
    answers.buffer.InBounds (certificatePkcs11GetAttribute answers).2 := by
  rw [certificatePkcs11GetAttribute]
  split
  · exact answers.buffer.inBounds_nil
  · split
    · exact answers.buffer.inBounds_nil
    · split
      · exact answers.buffer.inBounds_nil
      next checked =>
        apply Memory.inBounds_readAll_iff.mpr
        exact Nat.le_of_not_lt (not_or.mp checked).2

/-- When the mechanisms are read in bounds. -/
theorem hasMechanism_inBounds_iff
    {answers : SizedAnswers CkUlong} (succeed : answers.Succeed)
    (mechanism : CkUlong) :
    answers.buffer.InBounds
        (certificatePkcs11HasMechanism answers mechanism).2 ↔
      answers.sizing = 0 ∨ answers.value.toNat ≤ answers.sizing.toNat ∨
        ∃ index < answers.sizing.toNat,
          answers.item index = mechanism := by
  rw [certificatePkcs11HasMechanism]
  by_cases empty : answers.sizing = 0
  · rw [if_pos (.inr empty)]
    exact iff_of_true answers.buffer.inBounds_nil (.inl empty)
  · rw [if_neg (not_or.mpr ⟨not_not.mpr succeed.sizing, empty⟩),
      if_neg (not_not.mpr succeed.value), Memory.inBounds_readUntil_iff]
    simp only [empty, false_or, Nat.zero_add, Nat.zero_le, true_and,
      beq_iff_eq, SizedAnswers.buffer]
    constructor
    · rintro (none | rest)
      · left
        omega
      · exact rest
    · exact .inr

/-- When the slots are read in bounds. -/
theorem slotsWithToken_inBounds_iff
    {answers : SizedAnswers CkUlong} (succeed : answers.Succeed) :
    answers.buffer.InBounds (slotsWithToken answers).2 ↔
      answers.sizing = 0 ∨
        answers.value.toNat ≤ answers.sizing.toNat := by
  rw [slotsWithToken]
  by_cases empty : answers.sizing = 0
  · rw [if_pos (.inr empty)]
    exact iff_of_true answers.buffer.inBounds_nil (.inl empty)
  · rw [if_neg (not_or.mpr ⟨not_not.mpr succeed.sizing, empty⟩),
      if_neg (not_not.mpr succeed.value), Memory.inBounds_readAll_iff]
    exact (or_iff_right empty).symm

end PortalCertificate.Tokens.SizedCalls
