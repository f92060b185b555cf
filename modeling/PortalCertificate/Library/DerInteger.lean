import Mathlib.Data.Nat.Size
import PortalCertificate.Library.Der

/-!
# Distinguished encoding of natural numbers

The contents of an `INTEGER` are in two's complement, so that a natural
number has a zero octet in front when its first octet has the high bit set.
The contents are the shortest such octets, and zero has one octet.
-/

namespace PortalCertificate.Library.DerInteger

open PortalCertificate.Library.Der

/-- A number whose octets start with the high bit would be negative. -/
def needsSign : Octets → Bool
  | [] => true
  | octet :: _ => 128 ≤ octet.toNat

/-- The contents of the encoding of a natural number. -/
def integerContents (number : Nat) : Octets :=
  if needsSign (bigEndian number) then 0 :: bigEndian number
  else bigEndian number

/-- A natural number as an INTEGER. -/
def integerItem (number : Nat) : Tlv where
  tag := 0x02
  value := integerContents number

@[simp]
theorem ofBigEndian_zero_cons (octets : Octets) :
    ofBigEndian (0 :: octets) = ofBigEndian octets := by
  simp [ofBigEndian]

/-- The contents denote the number. -/
@[simp]
theorem ofBigEndian_integerContents (number : Nat) :
    ofBigEndian (integerContents number) = number := by
  rw [integerContents]
  split_ifs <;> simp

/-- The contents denote no negative number. -/
theorem integerContents_nonneg (number : Nat) :
    ∃ first rest, integerContents number = first :: rest ∧
      first.toNat < 128 := by
  rw [integerContents]
  split_ifs with sign
  · exact ⟨0, bigEndian number, rfl, by decide⟩
  · rcases octets : bigEndian number with - | ⟨first, rest⟩
    · rw [octets] at sign
      exact absurd rfl sign
    · rw [octets] at sign
      refine ⟨first, rest, rfl, ?_⟩
      simpa [needsSign] using sign

/-- A zero in front is there for the sign only. -/
theorem integerContents_minimal
    {number : Nat} {first second : UInt8} {rest : Octets}
    (contents : integerContents number = first :: second :: rest)
    (zero : first = 0) : 128 ≤ second.toNat := by
  subst zero
  rw [integerContents] at contents
  split_ifs at contents with sign
  · have octets := (List.cons.inj contents).2
    rw [octets] at sign
    simpa [needsSign] using sign
  · have leading := bigEndian_head?_ne_zero number
    rw [contents] at leading
    exact absurd rfl leading

/-! ## Lengths -/

/-- The octets of a number are as many as its bits need. -/
theorem bigEndian_length (number : Nat) :
    (bigEndian number).length = (number.size + 7) / 8 := by
  have bounds (width : Nat) :
      (bigEndian number).length ≤ width ↔ number.size ≤ 8 * width := by
    rw [bigEndian_length_le_iff, Nat.size_le, Nat.pow_mul]
  have below := (bounds _).mp le_rfl
  have above := (bounds ((number.size + 7) / 8)).mpr (by omega)
  omega

/-- The octets with zeros in front, up to a length. -/
def leftPad (length : Nat) (octets : Octets) : Octets :=
  List.replicate (length - octets.length) 0 ++ octets

theorem bigEndian_length_ofBigEndian (octets : Octets) :
    (bigEndian (ofBigEndian octets)).length ≤ octets.length := by
  induction octets with
  | nil => simp
  | cons first rest shorter =>
      by_cases zero : first = 0
      · subst zero
        rw [ofBigEndian_zero_cons, List.length_cons]
        omega
      · rw [bigEndian_ofBigEndian _ (by simpa using zero)]

/-- Padding the shortest form gives octets back. -/
theorem leftPad_bigEndian (octets : Octets) :
    leftPad octets.length (bigEndian (ofBigEndian octets)) = octets := by
  induction octets with
  | nil => simp [leftPad]
  | cons first rest padded =>
      by_cases zero : first = 0
      · subst zero
        have shorter := bigEndian_length_ofBigEndian rest
        have more : (0 :: rest).length -
            (bigEndian (ofBigEndian rest)).length =
              rest.length - (bigEndian (ofBigEndian rest)).length + 1 := by
          rw [List.length_cons]
          omega
        rw [ofBigEndian_zero_cons, leftPad, more, List.replicate_succ,
          List.cons_append]
        exact congrArg (0 :: ·) padded
      · rw [leftPad, bigEndian_ofBigEndian _ (by simpa using zero)]
        simp

/-! ## Pairs of numbers -/

/-- `SEQUENCE { r INTEGER, s INTEGER }`. -/
def pairItem (first second : Nat) : Tlv :=
  .constructed 0x30 [integerItem first, integerItem second]

@[simp]
theorem pairItem_value (first second : Nat) :
    (pairItem first second).value =
      (integerItem first).encode ++ (integerItem second).encode := by
  simp [pairItem, Tlv.constructed]

end PortalCertificate.Library.DerInteger
