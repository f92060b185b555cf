import PortalCertificate.Library.Der

/-!
# The module's reader of DER items

`portal_der_read` reads one item at the front of a buffer.  It supports
one-byte tags and definite lengths of at most four octets, and it insists on
the shortest form of the length.

The main theorem says that a buffer is read exactly when it starts with the
distinguished encoding of an item with such a tag and length, and that the
item read is that one.  The digest and key parsers use the reader through
this theorem only.
-/

namespace PortalCertificate.Module.Der

open PortalCertificate.Library.Der

/--
`PortalDerTlv`.  The value is the slice of the buffer that `value` and
`length` describe.
-/
structure PortalDerTlv where
  tag : UInt8
  value : Octets
  consumed : Nat
  deriving DecidableEq, Repr

/-- The item a read result describes. -/
def PortalDerTlv.item (tlv : PortalDerTlv) : Tlv where
  tag := tlv.tag
  value := tlv.value

theorem PortalDerTlv.item_eq
    {tlv : PortalDerTlv} {item : Tlv}
    (tag : tlv.tag = item.tag) (value : tlv.value = item.value) :
    tlv.item = item := by
  simp [PortalDerTlv.item, tag, value]

/--
The length octets of `portal_der_read`: `data[1]` and the buffer from
`data[2]` on give the value's offset and length.
-/
def portalDerReadLength (first : UInt8) (rest : Octets) :
    Option (Nat × Nat) :=
  if first &&& 0x80 = 0 then
    some (2, first.toNat)
  else
    let count := (first &&& 0x7f).toNat
    if count = 0 ∨ count > 4 ∨ rest.length < count then
      none
    else if rest.head? = some 0 then
      none
    else
      let length := (rest.take count).foldl
        (fun length octet => length <<< 8 ||| octet.toNat) 0
      if length < 0x80 then none else some (2 + count, length)

/-- A `NULL` buffer is the empty one. -/
def portalDerRead (data : Octets) : Option PortalDerTlv :=
  match data with
  | tag :: first :: rest =>
      -- Only one-byte tags are supported.
      if tag &&& 0x1f = 0x1f then
        none
      else
        match portalDerReadLength first rest with
        | none => none
        | some (offset, length) =>
            if length > data.length - offset then
              none
            else
              some
                { tag
                  value := (data.drop offset).take length
                  consumed := offset + length }
  | _ => none

/-- `portal_der_read_tag`. -/
def portalDerReadTag (data : Octets) (tag : UInt8) :
    Option PortalDerTlv :=
  match portalDerRead data with
  | some tlv => if tlv.tag = tag then some tlv else none
  | none => none

/-- The rounds of the loop that counts the octets of a length. -/
def lengthCount (remaining : Nat) : Nat :=
  if remaining = 0 then 0 else lengthCount (remaining >>> 8) + 1
termination_by remaining
decreasing_by
  rw [Nat.shiftRight_eq_div_pow]
  omega

/--
A long length counts its octets, most significant first.

A `GByteArray` holds fewer than `2 ^ 32` octets, and appending more aborts.
No caller comes near that: the values are a serial number, in a buffer of the
caller's of fixed size, and the key of a `SubjectPublicKeyInfo`, which is
shorter than the whole of it, whose length is an `unsigned int`.
-/
def portalDerEncode (tag : UInt8) (value : Octets) : Octets :=
  let size := value.length
  let header :=
    if size < 0x80 then
      [UInt8.ofNat size]
    else
      let count := lengthCount size
      UInt8.ofNat (0x80 ||| count) ::
        (List.range count).map fun index =>
          UInt8.ofNat (size >>> (8 * (count - 1 - index)))
  tag :: (header ++ value)

/-- `PORTAL_DER_SEQUENCE`. -/
def portalDerSequence : UInt8 := 0x30
/-- `PORTAL_DER_INTEGER`. -/
def portalDerInteger : UInt8 := 0x02
/-- `PORTAL_DER_BIT_STRING`. -/
def portalDerBitString : UInt8 := 0x03
/-- `PORTAL_DER_OID`. -/
def portalDerOid : UInt8 := 0x06
/-- `PORTAL_DER_NULL`. -/
def portalDerNull : UInt8 := 0x05
/-- `PORTAL_DER_OCTET_STRING`. -/
def portalDerOctetString : UInt8 := 0x04

/-! ## Length octets -/

private theorem and_high_eq_zero_iff (octet : UInt8) :
    octet &&& 0x80 = 0 ↔ octet.toNat < 128 := by
  have all : ∀ value : Fin 256,
      (value.val &&& 0x80 = 0 ↔ value.val < 128) := by
    decide +kernel
  simpa [← UInt8.toNat_inj] using all ⟨octet.toNat, octet.toNat_lt⟩

private theorem and_low_toNat (octet : UInt8) :
    (octet &&& 0x7f).toNat = octet.toNat % 128 := by
  simpa using Nat.and_two_pow_sub_one_eq_mod octet.toNat 7

private theorem shift_or_eq (length : Nat) (octet : UInt8) :
    length <<< 8 ||| octet.toNat = length * 256 + octet.toNat := by
  rw [← Nat.shiftLeft_add_eq_or_of_lt octet.toNat_lt, Nat.shiftLeft_eq]

private theorem foldl_shift_or (octets : Octets) :
    octets.foldl
        (fun length octet => length <<< 8 ||| octet.toNat) 0 =
      ofBigEndian octets := by
  simp only [shift_or_eq, ofBigEndian]

private theorem readLength_long
    (first : UInt8) (rest : Octets)
    (long : ¬ first.toNat < 128) :
    portalDerReadLength first rest =
      if first.toNat % 128 = 0 ∨ first.toNat % 128 > 4 ∨
          rest.length < first.toNat % 128 then
        none
      else if rest.head? = some 0 then
        none
      else if ofBigEndian (rest.take (first.toNat % 128)) < 128 then
        none
      else
        some
          (2 + first.toNat % 128,
            ofBigEndian (rest.take (first.toNat % 128))) := by
  have high : ¬ first &&& 0x80 = 0 := by
    simpa [and_high_eq_zero_iff] using long
  simp only [portalDerReadLength, if_neg high, and_low_toNat,
    foldl_shift_or]

private theorem readLength_sound
    {first : UInt8} {rest : Octets} {offset length : Nat}
    (read : portalDerReadLength first rest = some (offset, length)) :
    length < 2 ^ 32 ∧
      offset = 1 + (lengthOctets length).length ∧
      lengthOctets length <+: first :: rest := by
  by_cases short : first.toNat < 128
  · have high : first &&& 0x80 = 0 := (and_high_eq_zero_iff first).mpr short
    simp only [portalDerReadLength, if_pos high, Option.some.injEq,
      Prod.mk.injEq] at read
    obtain ⟨rfl, rfl⟩ := read
    rw [lengthOctets_short short]
    exact ⟨by omega, rfl, by simp⟩
  · rw [readLength_long first rest short] at read
    split_ifs at read with counted leading minimal
    simp only [Option.some.injEq, Prod.mk.injEq] at read
    obtain ⟨rfl, rfl⟩ := read
    simp only [not_or, not_lt] at counted
    obtain ⟨positive, atMost, enough⟩ := counted
    set count := first.toNat % 128 with countEq
    set octets := rest.take count with octetsEq
    have octetsLength : octets.length = count := by
      simp [octetsEq, enough]
    have canonical : bigEndian (ofBigEndian octets) = octets := by
      apply bigEndian_ofBigEndian
      rwa [octetsEq, List.head?_take, if_neg positive]
    have bound : ofBigEndian octets < 256 ^ 4 := by
      rw [← bigEndian_length_le_iff, canonical]
      omega
    have header : UInt8.ofNat (128 + count) = first := by
      rw [← UInt8.toNat_inj, UInt8.toNat_ofNat']
      have := first.toNat_lt
      omega
    rw [lengthOctets_long (not_lt.mp minimal), canonical, octetsLength,
      header]
    refine ⟨by omega, by simp [octetsLength]; omega, ?_⟩
    simpa using List.take_prefix count rest

private theorem readLength_complete
    {first : UInt8} {rest : Octets} {length : Nat}
    (bound : length < 2 ^ 32)
    (starts : lengthOctets length <+: first :: rest) :
    portalDerReadLength first rest =
      some (1 + (lengthOctets length).length, length) := by
  by_cases short : length < 128
  · rw [lengthOctets_short short] at starts ⊢
    obtain rfl : UInt8.ofNat length = first := by
      simpa using starts
    have value : (UInt8.ofNat length).toNat = length := by
      rw [UInt8.toNat_ofNat']
      omega
    have high : UInt8.ofNat length &&& 0x80 = 0 := by
      rw [and_high_eq_zero_iff, value]
      exact short
    simp only [portalDerReadLength, if_pos high, value]
    rfl
  · rw [lengthOctets_long (not_lt.mp short)] at starts ⊢
    set octets := bigEndian length with octetsEq
    have atMost : octets.length ≤ 4 :=
      (bigEndian_length_le_iff length 4).mpr (by omega)
    have positive : 0 < octets.length :=
      List.length_pos_of_ne_nil (bigEndian_ne_nil (by omega))
    rw [List.cons_prefix_cons] at starts
    obtain ⟨rfl, tail, rfl⟩ := starts
    have value : (UInt8.ofNat (128 + octets.length)).toNat =
        128 + octets.length := by
      rw [UInt8.toNat_ofNat']
      omega
    have count : (128 + octets.length) % 128 = octets.length := by omega
    have leading : (octets ++ tail).head? ≠ some 0 := by
      rw [List.head?_append_of_ne_nil _ (List.ne_nil_of_length_pos positive)]
      exact bigEndian_head?_ne_zero length
    rw [readLength_long _ _ (by omega), value, count, if_neg, if_neg leading]
    · rw [List.take_left, octetsEq, ofBigEndian_bigEndian, if_neg short]
      simp
      omega
    · simp only [List.length_append]
      omega

/-- The length octets are read exactly when they are the shortest ones. -/
theorem portalDerReadLength_eq_some_iff
    (first : UInt8) (rest : Octets) (offset length : Nat) :
    portalDerReadLength first rest = some (offset, length) ↔
      length < 2 ^ 32 ∧
      offset = 1 + (lengthOctets length).length ∧
      lengthOctets length <+: first :: rest := by
  constructor
  · exact readLength_sound
  · rintro ⟨bound, rfl, starts⟩
    exact readLength_complete bound starts

/-! ## Items -/

/-- The tags and lengths the reader supports. -/
def Readable (item : Tlv) : Prop :=
  item.tag &&& 0x1f ≠ 0x1f ∧ item.value.length < 2 ^ 32

instance (item : Tlv) : Decidable (Readable item) :=
  inferInstanceAs (Decidable (_ ∧ _))

private theorem portalDerRead_cons_cons
    (tag first : UInt8) (rest : Octets)
    (single : tag &&& 0x1f ≠ 0x1f) :
    portalDerRead (tag :: first :: rest) =
      match portalDerReadLength first rest with
      | none => none
      | some (offset, length) =>
          if length > (tag :: first :: rest).length - offset then
            none
          else
            some
              { tag
                value := ((tag :: first :: rest).drop offset).take length
                consumed := offset + length } := by
  simp only [portalDerRead, if_neg single]

/-- What is read is an item in front of the data, and it is consumed as a
whole. -/
theorem portalDerRead_sound
    {data : Octets} {tlv : PortalDerTlv}
    (read : portalDerRead data = some tlv) :
    Readable tlv.item ∧
      tlv.consumed = tlv.item.encode.length ∧
      tlv.item.encode <+: data := by
  match data, read with
  | tag :: first :: rest, read =>
      by_cases multi : tag &&& 0x1f = 0x1f
      · simp [portalDerRead, multi] at read
      · rw [portalDerRead_cons_cons tag first rest multi] at read
        cases lengthRead : portalDerReadLength first rest with
        | none => simp [lengthRead] at read
        | some field =>
            obtain ⟨offset, length⟩ := field
            obtain ⟨bound, rfl, tail, split⟩ :=
              (portalDerReadLength_eq_some_iff _ _ _ _).mp lengthRead
            simp only [lengthRead, ← split] at read
            have dropped :
                (tag :: (lengthOctets length ++ tail)).drop
                    (1 + (lengthOctets length).length) = tail := by
              rw [Nat.add_comm, List.drop_succ_cons, List.drop_left]
            rw [dropped] at read
            split_ifs at read with overrun
            obtain rfl := Option.some.inj read
            have valueLength : (tail.take length).length = length := by
              simp only [List.length_cons, List.length_append] at overrun
              simp only [List.length_take]
              omega
            refine ⟨⟨multi, ?_⟩, ?_, ?_⟩
            · simpa [PortalDerTlv.item, valueLength] using bound
            · simp [PortalDerTlv.item, Tlv.encode, valueLength]
              omega
            · simp only [PortalDerTlv.item, Tlv.encode, valueLength,
                ← split, List.cons_prefix_cons, true_and,
                List.prefix_append_right_inj]
              exact List.take_prefix length tail

/-- Whatever follows an encoding is left unread. -/
theorem portalDerRead_encode
    (item : Tlv) (readable : Readable item) (rest : Octets) :
    portalDerRead (item.encode ++ rest) =
      some
        { tag := item.tag
          value := item.value
          consumed := item.encode.length } := by
  obtain ⟨single, bound⟩ := readable
  obtain ⟨first, more, header⟩ :
      ∃ first more, lengthOctets item.value.length = first :: more := by
    unfold lengthOctets
    split <;> exact ⟨_, _, rfl⟩
  have lengthRead :
      portalDerReadLength first (more ++ (item.value ++ rest)) =
        some
          (1 + (lengthOctets item.value.length).length,
            item.value.length) := by
    rw [portalDerReadLength_eq_some_iff]
    refine ⟨bound, rfl, ?_⟩
    rw [header, ← List.cons_append]
    exact List.prefix_append _ _
  have layout :
      item.encode ++ rest =
        item.tag :: first :: (more ++ (item.value ++ rest)) := by
    simp [Tlv.encode, header]
  have dropped :
      (item.tag :: first :: (more ++ (item.value ++ rest))).drop
          (1 + (lengthOctets item.value.length).length) =
        item.value ++ rest := by
    rw [header, List.length_cons, Nat.add_comm, List.drop_succ_cons,
      List.drop_succ_cons, List.drop_left]
  rw [layout, portalDerRead_cons_cons _ _ _ single, lengthRead]
  simp only [dropped]
  rw [if_neg]
  · simp [Tlv.encode]
    omega
  · simp only [header, List.length_cons, List.length_append]
    omega

/-- The reader accepts exactly the distinguished encodings it supports. -/
theorem portalDerRead_eq_some_iff
    (data : Octets) (tlv : PortalDerTlv) :
    portalDerRead data = some tlv ↔
      Readable tlv.item ∧
      tlv.consumed = tlv.item.encode.length ∧
      tlv.item.encode <+: data := by
  constructor
  · exact portalDerRead_sound
  · rintro ⟨readable, consumed, rest, rfl⟩
    rw [portalDerRead_encode tlv.item readable rest, ← consumed]
    rfl

/-- An item is read with the tag that was asked for. -/
theorem portalDerReadTag_eq_some_iff
    (data : Octets) (tag : UInt8) (tlv : PortalDerTlv) :
    portalDerReadTag data tag = some tlv ↔
      portalDerRead data = some tlv ∧ tlv.tag = tag := by
  unfold portalDerReadTag
  cases portalDerRead data with
  | none => simp
  | some read =>
      by_cases matching : read.tag = tag
      · simp only [if_pos matching, Option.some.injEq]
        exact ⟨fun equal => ⟨equal, equal ▸ matching⟩, And.left⟩
      · simp only [if_neg matching, Option.some.injEq, reduceCtorEq,
          false_iff]
        rintro ⟨rfl, equal⟩
        exact matching equal

/-- An encoded item is read back, whatever follows it. -/
theorem portalDerReadTag_encode
    (item : Tlv) (readable : Readable item) (rest : Octets) :
    portalDerReadTag (item.encode ++ rest) item.tag =
      some
        { tag := item.tag
          value := item.value
          consumed := item.encode.length } := by
  rw [portalDerReadTag_eq_some_iff]
  exact ⟨portalDerRead_encode item readable rest, rfl⟩

/-! ## Writing -/

theorem lengthCount_eq (size : Nat) :
    lengthCount size = (bigEndian size).length := by
  induction size using Nat.strongRecOn with
  | ind size smaller =>
      rw [lengthCount]
      by_cases zero : size = 0
      · simp [zero]
      · have less : size >>> 8 < size := by
          rw [Nat.shiftRight_eq_div_pow]
          omega
        have digits : Nat.digits 256 size =
            size % 256 :: Nat.digits 256 (size / 256) :=
          Nat.digits_def' (by decide) (Nat.pos_of_ne_zero zero)
        rw [if_neg zero, smaller _ less, Nat.shiftRight_eq_div_pow]
        simp [bigEndian, digits]

/-- The second loop writes the shortest big-endian form. -/
theorem lengthHeader_eq (size : Nat) :
    (List.range (lengthCount size)).map (fun index =>
        UInt8.ofNat (size >>> (8 * (lengthCount size - 1 - index)))) =
      bigEndian size := by
  rw [lengthCount_eq]
  apply List.ext_getElem
  · simp
  · intro index here there
    have inside : index < (Nat.digits 256 size).length := by
      simpa [bigEndian] using there
    have digit := Nat.getD_digits size
      ((Nat.digits 256 size).length - 1 - index) (by decide : 2 ≤ 256)
    rw [List.getD_eq_getElem?_getD, List.getElem?_eq_getElem (by omega),
      Option.getD_some] at digit
    simp only [bigEndian, List.getElem_map, List.getElem_range,
      List.length_map, List.length_reverse, List.getElem_reverse, digit]
    rw [← UInt8.toNat_inj, UInt8.toNat_ofNat', UInt8.toNat_ofNat',
      Nat.shiftRight_eq_div_pow, Nat.mod_mod, pow_mul]
    rfl

/-- A value that four length octets can count is encoded as it must be. -/
theorem portalDerEncode_eq
    (tag : UInt8) {value : Octets} (bound : value.length < 2 ^ 32) :
    portalDerEncode tag value = Tlv.encode ⟨tag, value⟩ := by
  have octets : (bigEndian value.length).length ≤ 4 :=
    (bigEndian_length_le_iff value.length 4).mpr (by omega)
  have counted : 0x80 ||| (bigEndian value.length).length =
      128 + (bigEndian value.length).length := by
    have apart := Nat.two_pow_add_eq_or_of_lt
      (show (bigEndian value.length).length < 2 ^ 7 by omega) 1
    exact apart.symm
  simp only [portalDerEncode, lengthHeader_eq]
  simp only [lengthCount_eq, counted, Tlv.encode, lengthOctets]

/-- Writing and then reading gives the item back, and reading and then
writing gives the octets back. -/
theorem portalDer_inverse :
    (∀ (tag : UInt8) (value rest : Octets),
      tag &&& 0x1f ≠ 0x1f → value.length < 2 ^ 31 →
        portalDerRead (portalDerEncode tag value ++ rest) =
          some
            { tag, value
              consumed := (portalDerEncode tag value).length }) ∧
      ∀ (data : Octets) (tlv : PortalDerTlv),
        portalDerRead data = some tlv →
          portalDerEncode tlv.tag tlv.value = data.take tlv.consumed ∧
            tlv.consumed ≤ data.length := by
  constructor
  · intro tag value rest single short
    have encoded := portalDerEncode_eq tag
      (show value.length < 2 ^ 32 by omega)
    rw [encoded]
    exact portalDerRead_encode ⟨tag, value⟩
      ⟨single, by simp; omega⟩ rest
  · intro data tlv read
    rcases portalDerRead_sound read with
      ⟨⟨-, bound⟩, consumed, starts⟩
    have encoded : portalDerEncode tlv.tag tlv.value = tlv.item.encode :=
      portalDerEncode_eq tlv.tag bound
    constructor
    · rw [encoded, consumed]
      exact List.prefix_iff_eq_take.mp starts
    · rw [consumed]
      exact starts.length_le

/-- A value of 200 octets, whose length takes two. -/
theorem portalDer_inverse_long :
    ∃ value : Octets, value.length = 200 ∧
      portalDerRead (portalDerEncode 0x04 value ++ [0x01]) =
        some ⟨0x04, value, (portalDerEncode 0x04 value).length⟩ ∧
      portalDerEncode 0x04 value = [0x04, 0x81, 0xc8] ++ value := by
  obtain ⟨value, size⟩ : ∃ value : Octets, value.length = 200 :=
    ⟨List.replicate 200 7, List.length_replicate⟩
  have encoded :
      Tlv.encode ⟨0x04, value⟩ = [0x04, 0x81, 0xc8] ++ value := by
    simp [Tlv.encode, size, lengthOctets, bigEndian]
  have read := portalDerRead_encode ⟨0x04, value⟩
    ⟨show (0x04 : UInt8) &&& 0x1f ≠ 0x1f by decide, by simp [size]⟩ [0x01]
  have taken := (portalDer_inverse.2 _ _ read).1
  refine ⟨value, size, ?_, ?_⟩
  · exact portalDer_inverse.1 0x04 value [0x01] (by decide)
      (by rw [size]; decide)
  · rw [taken, List.take_left, encoded]

end PortalCertificate.Module.Der
