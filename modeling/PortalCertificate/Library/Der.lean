import Mathlib.Data.Nat.Digits.Lemmas

/-!
# Distinguished encoding of tag-length-value items

An item is a one-byte tag and a string of value octets.  Its distinguished
encoding writes the tag, the length of the value in the shortest definite
form, and the value.  Lengths below `128` take one octet; every other length
takes an octet that counts the following big-endian octets, the first of
which is not zero.

The file is independent of any particular reader.  A reader of encodings is
characterised by proving it inverse to `Tlv.encode`.
-/

namespace PortalCertificate.Library.Der

/-- Octets, most significant first where they stand for a number. -/
abbrev Octets := List UInt8

/-! ## Big-endian numbers -/

/-- The shortest big-endian representation; zero has no octets. -/
def bigEndian (number : Nat) : Octets :=
  (Nat.digits 256 number).reverse.map UInt8.ofNat

/-- The number a big-endian octet string denotes, leading zeros allowed. -/
def ofBigEndian (octets : Octets) : Nat :=
  octets.foldl (fun number octet => number * 256 + octet.toNat) 0

@[simp]
theorem bigEndian_zero : bigEndian 0 = [] := by
  simp [bigEndian]

@[simp]
theorem ofBigEndian_nil : ofBigEndian [] = 0 := rfl

@[simp]
theorem ofBigEndian_append_singleton (octets : Octets) (octet : UInt8) :
    ofBigEndian (octets ++ [octet]) =
      ofBigEndian octets * 256 + octet.toNat := by
  simp [ofBigEndian]

theorem ofBigEndian_eq_ofDigits (octets : Octets) :
    ofBigEndian octets =
      Nat.ofDigits 256 (octets.reverse.map UInt8.toNat) := by
  induction octets using List.reverseRecOn with
  | nil => rfl
  | append_singleton front last ih =>
      rw [ofBigEndian_append_singleton, ih]
      simp [Nat.ofDigits_cons]
      omega

private theorem map_toNat_ofNat_digits (number : Nat) :
    ((Nat.digits 256 number).map UInt8.ofNat).map UInt8.toNat =
      Nat.digits 256 number := by
  rw [List.map_map]
  conv_rhs => rw [← List.map_id (Nat.digits 256 number)]
  apply List.map_congr_left
  intro digit member
  have below : digit < 256 := Nat.digits_lt_base (by decide) member
  simp [UInt8.toNat_ofNat', Nat.mod_eq_of_lt below]

/-- Reading the shortest representation gives the number back. -/
@[simp]
theorem ofBigEndian_bigEndian (number : Nat) :
    ofBigEndian (bigEndian number) = number := by
  rw [ofBigEndian_eq_ofDigits, bigEndian, ← List.map_reverse,
    List.reverse_reverse, map_toNat_ofNat_digits, Nat.ofDigits_digits]

/-- An octet string without a leading zero is the shortest one of its number. -/
theorem bigEndian_ofBigEndian
    (octets : Octets)
    (leading : octets.head? ≠ some 0) :
    bigEndian (ofBigEndian octets) = octets := by
  rw [ofBigEndian_eq_ofDigits, bigEndian, Nat.digits_ofDigits 256 (by decide)]
  · simp [List.map_map, Function.comp_def]
  · intro digit member
    obtain ⟨octet, -, rfl⟩ := List.mem_map.mp member
    exact octet.toNat_lt
  · intro nonempty
    have present : octets ≠ [] := by simpa using nonempty
    rw [List.getLast_map, List.getLast_reverse]
    intro zero
    apply leading
    rw [List.head?_eq_some_head present]
    exact congrArg some (UInt8.toNat_inj.mp zero)

theorem bigEndian_length_le_iff (number width : Nat) :
    (bigEndian number).length ≤ width ↔ number < 256 ^ width := by
  simpa [bigEndian] using Nat.digits_length_le_iff (by decide) number

theorem bigEndian_ne_nil {number : Nat} (positive : 0 < number) :
    bigEndian number ≠ [] := by
  simpa [bigEndian] using Nat.digits_ne_nil_iff_ne_zero.mpr positive.ne'

theorem bigEndian_head?_ne_zero (number : Nat) :
    (bigEndian number).head? ≠ some 0 := by
  rcases Nat.eq_zero_or_pos number with rfl | positive
  · simp
  · intro zero
    have nonempty : Nat.digits 256 number ≠ [] :=
      Nat.digits_ne_nil_iff_ne_zero.mpr positive.ne'
    have last : (Nat.digits 256 number).getLast nonempty < 256 :=
      Nat.digits_lt_base (by decide) (List.getLast_mem nonempty)
    rw [bigEndian, List.head?_map, List.head?_reverse,
      List.getLast?_eq_some_getLast nonempty] at zero
    have octet :
        UInt8.ofNat ((Nat.digits 256 number).getLast nonempty) = 0 := by
      simpa using zero
    have value := congrArg UInt8.toNat octet
    rw [UInt8.toNat_ofNat', Nat.mod_eq_of_lt last] at value
    exact Nat.getLast_digit_ne_zero 256 positive.ne' value

/-! ## Items -/

/-- The shortest definite length octets. -/
def lengthOctets (length : Nat) : Octets :=
  if length < 128 then
    [UInt8.ofNat length]
  else
    UInt8.ofNat (128 + (bigEndian length).length) :: bigEndian length

theorem lengthOctets_short {length : Nat} (short : length < 128) :
    lengthOctets length = [UInt8.ofNat length] := by
  simp [lengthOctets, short]

theorem lengthOctets_long {length : Nat} (long : 128 ≤ length) :
    lengthOctets length =
      UInt8.ofNat (128 + (bigEndian length).length) ::
        bigEndian length := by
  simp [lengthOctets, Nat.not_lt.mpr long]

/-- One tag and its value octets. -/
structure Tlv where
  tag : UInt8
  value : Octets
  deriving DecidableEq, Repr

/-- The distinguished encoding of an item. -/
def Tlv.encode (item : Tlv) : Octets :=
  item.tag :: (lengthOctets item.value.length ++ item.value)

/-- The number of octets in front of the value. -/
def Tlv.headerLength (item : Tlv) : Nat :=
  1 + (lengthOctets item.value.length).length

theorem Tlv.encode_length (item : Tlv) :
    item.encode.length = item.headerLength + item.value.length := by
  simp [Tlv.encode, Tlv.headerLength]
  omega

theorem Tlv.encode_short (item : Tlv) (short : item.value.length < 128) :
    item.encode =
      item.tag :: UInt8.ofNat item.value.length :: item.value := by
  simp [Tlv.encode, lengthOctets_short short]

/-- Items written one after another. -/
def encodeAll (items : List Tlv) : Octets :=
  items.flatMap Tlv.encode

@[simp]
theorem encodeAll_nil : encodeAll [] = [] := rfl

@[simp]
theorem encodeAll_cons (item : Tlv) (items : List Tlv) :
    encodeAll (item :: items) = item.encode ++ encodeAll items := rfl

/-- A constructed item, whose value is the encoding of its parts. -/
def Tlv.constructed (tag : UInt8) (parts : List Tlv) : Tlv where
  tag := tag
  value := encodeAll parts

/-! ## Object identifiers -/

/-- A number of an object identifier, seven bits in an octet; the high bit of
the last octet is clear. -/
def subidentifier (number : Nat) : Octets :=
  let digits := Nat.digits 128 number
  (digits.tail.reverse.map fun digit => UInt8.ofNat (128 + digit)) ++
    [UInt8.ofNat (digits.headD 0)]

/-- The value of an object identifier, whose first two numbers are written as
one. -/
def objectIdentifier : List Nat → Octets
  | first :: second :: rest =>
      subidentifier (40 * first + second) ++ rest.flatMap subidentifier
  | _ => []

end PortalCertificate.Library.Der
