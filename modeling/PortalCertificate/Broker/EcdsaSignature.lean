import PortalCertificate.Library.DerInteger
import PortalCertificate.Module.Der

/-!
# ECDSA signatures

A token returns the two numbers of an ECDSA signature as octet strings of one
length, one after the other.  `certificate_ecdsa_raw_to_der` encodes them as a
sequence of two integers.  It writes the length of an integer in one octet,
which is the distinguished form up to 127 octets only.
-/

namespace PortalCertificate.Broker.EcdsaSignature

open PortalCertificate.Library.Der
open PortalCertificate.Library.DerInteger
open PortalCertificate.Module.Der (PortalDerTlv portalDerRead
  portalDerReadTag portalDerRead_encode portalDerReadTag_encode)

/-! ## The translation -/

/-- The octets from the first that is not zero, or else the last one. -/
def significant : Octets → Octets
  | 0 :: next :: rest => significant (next :: rest)
  | octets => octets

/-- `append_der_integer`, which writes the length as one octet. -/
def appendDerInteger (out value : Octets) : Octets :=
  let rest := significant value
  let header : Octets :=
    if needsSign rest then [UInt8.ofNat (rest.length + 1), 0x00]
    else [UInt8.ofNat rest.length]
  out ++ [0x02] ++ header ++ rest

/-- The length octets of the sequence. -/
def sequenceHeader (length : Nat) : Octets :=
  if length < 0x80 then
    [UInt8.ofNat length]
  else if length ≤ 0xff then
    [0x81, UInt8.ofNat length]
  else
    [0x82, UInt8.ofNat (length >>> 8), UInt8.ofNat (length &&& 0xff)]

/-- `G_IO_ERROR_INVALID_DATA`. -/
structure InvalidData where
  message : String
  deriving DecidableEq, Repr

/-- `certificate_ecdsa_raw_to_der`. -/
def certificateEcdsaRawToDer (raw : Octets) : Except InvalidData Octets :=
  let half := raw.length / 2
  if raw.length = 0 ∨ raw.length % 2 ≠ 0 then
    .error
      ⟨"A raw ECDSA signature must be an even number of bytes, got " ++
        toString raw.length⟩
  else
    let body :=
      appendDerInteger (appendDerInteger [] (raw.take half)) (raw.drop half)
    .ok ([0x30] ++ sequenceHeader body.length ++ body)

example : certificateEcdsaRawToDer [0x00, 0x01, 0x80, 0x00] =
    .ok [0x30, 0x08, 0x02, 0x01, 0x01, 0x02, 0x03, 0x00, 0x80, 0x00] := by
  decide

/-! ## One integer -/

/-- The significant octets, with the sign, are the contents of the number. -/
theorem integerContents_eq {value : Octets} (some : value ≠ []) :
    integerContents (ofBigEndian value) =
      if needsSign (significant value) then 0 :: significant value
      else significant value := by
  induction value using significant.induct with
  | case1 next rest kept =>
      rw [significant, ofBigEndian_zero_cons]
      exact kept (List.cons_ne_nil next rest)
  | case2 octets other =>
      rcases octets with - | ⟨first, rest⟩
      · exact absurd rfl some
      · have itself : significant (first :: rest) = first :: rest := by
          rw [significant]
          exact other
        rw [itself]
        by_cases zero : first = 0
        · rcases rest with - | ⟨next, rest⟩
          · subst zero
            decide
          · exact absurd (congrArg (· :: next :: rest) zero)
              (other next rest)
        · rw [integerContents, bigEndian_ofBigEndian _ (by simpa using zero)]

theorem appendDerInteger_eq (out : Octets) {value : Octets}
    (some : value ≠ []) :
    appendDerInteger out value =
      out ++ [0x02] ++
        [UInt8.ofNat (integerContents (ofBigEndian value)).length] ++
        integerContents (ofBigEndian value) := by
  rw [integerContents_eq some, appendDerInteger]
  by_cases sign : needsSign (significant value) = true
  · simp [sign]
  · simp [sign]

/-- An integer of at most 127 octets is encoded as it must be. -/
theorem integerItem_encode
    {number : Nat} (short : (integerContents number).length < 128) :
    (integerItem number).encode =
      [0x02] ++ [UInt8.ofNat (integerContents number).length] ++
        integerContents number := by
  rw [Tlv.encode_short (integerItem number) short]
  rfl

/-! ## The sequence -/

theorem sequenceHeader_eq {length : Nat} (bound : length < 0x10000) :
    sequenceHeader length = lengthOctets length := by
  have octets (short : 128 ≤ length) :
      bigEndian length =
        if length ≤ 0xff then [UInt8.ofNat length]
        else [UInt8.ofNat (length >>> 8), UInt8.ofNat (length &&& 0xff)] := by
    have high : length >>> 8 = length / 256 := Nat.shiftRight_eq_div_pow ..
    have low : length &&& 0xff = length % 256 :=
      Nat.and_two_pow_sub_one_eq_mod length 8
    rw [high, low]
    split_ifs with one
    · have digits : Nat.digits 256 length = [length] :=
        Nat.digits_of_lt 256 length (by omega) (by omega)
      simp [bigEndian, digits]
    · have digits : Nat.digits 256 length = [length % 256, length / 256] := by
        rw [Nat.digits_def' (by decide) (by omega),
          Nat.digits_of_lt 256 (length / 256) (by omega) (by omega)]
      simp [bigEndian, digits]
  by_cases short : length < 0x80
  · rw [sequenceHeader, if_pos short, lengthOctets_short short]
  · rw [sequenceHeader, if_neg short, lengthOctets_long (not_lt.mp short),
      octets (not_lt.mp short)]
    split_ifs <;> rfl

/-- The header is not longer than that of a length that is not less. -/
theorem sequenceHeader_length_le {length more : Nat} (le : length ≤ more) :
    (sequenceHeader length).length ≤ (lengthOctets more).length := by
  have counted {width : Nat} (wide : 256 ^ width ≤ more) :
      width < (bigEndian more).length := by
    by_contra shorter
    have below := (bigEndian_length_le_iff more width).mp
      (not_lt.mp shorter)
    omega
  rw [sequenceHeader]
  split_ifs with short one
  · rw [lengthOctets]
    split_ifs <;> simp
  · rw [lengthOctets_long (by omega)]
    have width : 0 < (bigEndian more).length :=
      counted (show 256 ^ 0 ≤ more by rw [pow_zero]; omega)
    simp only [List.length_cons, List.length_nil]
    omega
  · rw [lengthOctets_long (by omega)]
    have width : 1 < (bigEndian more).length :=
      counted (show 256 ^ 1 ≤ more by rw [pow_one]; omega)
    simp only [List.length_cons, List.length_nil]
    omega

/-! ## What the translation achieves -/

/-- The numbers of a signature whose length is even. -/
def rawPair (raw : Octets) : Nat × Nat :=
  (ofBigEndian (raw.take (raw.length / 2)),
    ofBigEndian (raw.drop (raw.length / 2)))

/-- The numbers of a sequence with nothing before or after. -/
def decodePair (der : Octets) : Option (Nat × Nat) := do
  let outer ← portalDerReadTag der 0x30
  guard (outer.consumed = der.length)
  let first ← portalDerReadTag outer.value 0x02
  let second ← portalDerReadTag (outer.value.drop first.consumed) 0x02
  guard (first.consumed + second.consumed = outer.value.length)
  return (ofBigEndian first.value, ofBigEndian second.value)

/-- Two numbers of one length, one after the other. -/
def restore (half : Nat) (pair : Nat × Nat) : Octets :=
  leftPad half (bigEndian pair.1) ++ leftPad half (bigEndian pair.2)

/-- The distinguished encoding, from which the signature can be restored, or
an error for a length that no signature has. -/
def Translated (raw : Octets) : Prop :=
  match certificateEcdsaRawToDer raw with
  | .error _ => raw.length = 0 ∨ raw.length % 2 ≠ 0
  | .ok der =>
      raw.length ≠ 0 ∧ raw.length % 2 = 0 ∧
        der = (pairItem (rawPair raw).1 (rawPair raw).2).encode ∧
        (decodePair der).map (restore (raw.length / 2)) = some raw

/-- Both integers, with their sign, have at most 127 octets. -/
def IntegersShort (raw : Octets) : Prop :=
  (integerContents (rawPair raw).1).length < 128 ∧
    (integerContents (rawPair raw).2).length < 128

instance (raw : Octets) : Decidable (IntegersShort raw) :=
  inferInstanceAs (Decidable (_ ∧ _))

section Even

variable {raw : Octets}

theorem restore_rawPair (even : raw.length % 2 = 0) :
    restore (raw.length / 2) (rawPair raw) = raw := by
  have first := leftPad_bigEndian (raw.take (raw.length / 2))
  have second := leftPad_bigEndian (raw.drop (raw.length / 2))
  have firstLength : (raw.take (raw.length / 2)).length =
      raw.length / 2 := by
    rw [List.length_take]
    omega
  have secondLength : (raw.drop (raw.length / 2)).length =
      raw.length / 2 := by
    rw [List.length_drop]
    omega
  rw [firstLength] at first
  rw [secondLength] at second
  rw [restore, rawPair, first, second, List.take_append_drop]

/-- The two integers as the code writes them. -/
def body (raw : Octets) : Octets :=
  [0x02] ++ [UInt8.ofNat (integerContents (rawPair raw).1).length] ++
    integerContents (rawPair raw).1 ++ [0x02] ++
    [UInt8.ofNat (integerContents (rawPair raw).2).length] ++
    integerContents (rawPair raw).2

theorem certificateEcdsaRawToDer_even
    (some : raw.length ≠ 0) (even : raw.length % 2 = 0) :
    certificateEcdsaRawToDer raw =
      .ok ([0x30] ++ sequenceHeader (body raw).length ++ body raw) := by
  have first : raw.take (raw.length / 2) ≠ [] := by
    apply List.ne_nil_of_length_pos
    rw [List.length_take]
    omega
  have second : raw.drop (raw.length / 2) ≠ [] := by
    apply List.ne_nil_of_length_pos
    rw [List.length_drop]
    omega
  have good : ¬ (raw.length = 0 ∨ raw.length % 2 ≠ 0) := by
    rintro (none | odd)
    · exact some none
    · exact odd even
  have written :
      appendDerInteger (appendDerInteger [] (raw.take (raw.length / 2)))
          (raw.drop (raw.length / 2)) = body raw := by
    rw [appendDerInteger_eq _ second, appendDerInteger_eq _ first]
    simp [body, rawPair]
  simp only [certificateEcdsaRawToDer, if_neg good, written]

theorem body_eq_of_short (short : IntegersShort raw) :
    body raw = (pairItem (rawPair raw).1 (rawPair raw).2).value := by
  rw [pairItem_value, integerItem_encode short.1, integerItem_encode short.2]
  simp [body]

theorem body_length :
    (body raw).length =
      4 + (integerContents (rawPair raw).1).length +
        (integerContents (rawPair raw).2).length := by
  simp [body]
  omega

/-- Reading the distinguished encoding of two numbers. -/
theorem decodePair_encode
    (first second : Nat)
    (firstShort : (integerContents first).length < 128)
    (secondShort : (integerContents second).length < 128) :
    decodePair (pairItem first second).encode = some (first, second) := by
  have firstLength : (integerItem first).encode.length =
      (integerContents first).length + 2 := by
    simp [integerItem_encode firstShort]
  have secondLength : (integerItem second).encode.length =
      (integerContents second).length + 2 := by
    simp [integerItem_encode secondShort]
  have outer := portalDerReadTag_encode (pairItem first second)
    ⟨by show (0x30 : UInt8) &&& 0x1f ≠ 0x1f; decide, by
      rw [pairItem_value, List.length_append]
      omega⟩ []
  rw [List.append_nil] at outer
  have one := portalDerReadTag_encode (integerItem first)
    ⟨by show (0x02 : UInt8) &&& 0x1f ≠ 0x1f; decide, by
      show (integerContents first).length < _
      omega⟩ (integerItem second).encode
  have two := portalDerReadTag_encode (integerItem second)
    ⟨by show (0x02 : UInt8) &&& 0x1f ≠ 0x1f; decide, by
      show (integerContents second).length < _
      omega⟩ []
  rw [List.append_nil] at two
  rw [← pairItem_value] at one
  have dropped :
      (pairItem first second).value.drop (integerItem first).encode.length =
        (integerItem second).encode := by
    rw [pairItem_value, List.drop_left]
  rw [← dropped] at two
  simp only [decodePair, Option.bind_eq_bind, Option.bind_eq_some_iff,
    Option.guard_eq_some', Option.pure_def, Option.some.injEq]
  have ends : (integerItem first).encode.length +
      ((pairItem first second).value.drop
        (integerItem first).encode.length).length =
          (pairItem first second).value.length := by
    rw [dropped, pairItem_value, List.length_append]
  exact ⟨_, outer, (), rfl, _, one, _, two, (), ends, by
    simp [integerItem]⟩

theorem translated_of_short
    (some : raw.length ≠ 0) (even : raw.length % 2 = 0)
    (short : IntegersShort raw) : Translated raw := by
  have encoded :
      [0x30] ++ sequenceHeader (body raw).length ++ body raw =
        (pairItem (rawPair raw).1 (rawPair raw).2).encode := by
    have bound : (body raw).length < 0x10000 := by
      rw [body_length]
      have := short.1
      have := short.2
      omega
    rw [sequenceHeader_eq bound, body_eq_of_short short]
    rfl
  rw [Translated, certificateEcdsaRawToDer_even some even]
  refine ⟨some, even, encoded, ?_⟩
  rw [encoded, decodePair_encode _ _ short.1 short.2, Option.map_some]
  exact congrArg Option.some (restore_rawPair even)

/-- A length that does not fit its octet makes the encoding too short. -/
theorem encode_longer
    (long : ¬ IntegersShort raw) :
    ([0x30] ++ sequenceHeader (body raw).length ++ body raw).length <
      (pairItem (rawPair raw).1 (rawPair raw).2).encode.length := by
  have written (number : Nat) :
      (integerItem number).encode.length =
        1 + (lengthOctets (integerContents number).length).length +
          (integerContents number).length :=
    Tlv.encode_length (integerItem number)
  have octets (length : Nat) :
      1 + (if 128 ≤ length then 1 else 0) ≤
        (lengthOctets length).length := by
    by_cases more : length < 128
    · rw [lengthOctets_short more, if_neg (by omega)]
      simp
    · have positive := List.length_pos_of_ne_nil
        (bigEndian_ne_nil (show 0 < length by omega))
      rw [lengthOctets_long (not_lt.mp more), if_pos (not_lt.mp more),
        List.length_cons]
      omega
  have longer : (body raw).length <
      (pairItem (rawPair raw).1 (rawPair raw).2).value.length := by
    rw [pairItem_value, List.length_append, written, written, body_length]
    have first := octets (integerContents (rawPair raw).1).length
    have second := octets (integerContents (rawPair raw).2).length
    rcases not_and_or.mp long with one | one
    · rw [if_pos (not_lt.mp one)] at first
      have := (le_add_right (le_refl 1)).trans second
      omega
    · rw [if_pos (not_lt.mp one)] at second
      have := (le_add_right (le_refl 1)).trans first
      omega
  have header := sequenceHeader_length_le longer.le
  rw [Tlv.encode_length, Tlv.headerLength, List.length_append,
    List.length_append, List.length_singleton]
  omega

theorem not_translated_of_long
    (some : raw.length ≠ 0) (even : raw.length % 2 = 0)
    (long : ¬ IntegersShort raw) : ¬ Translated raw := by
  rw [Translated, certificateEcdsaRawToDer_even some even]
  rintro ⟨-, -, encoded, -⟩
  have longer := encode_longer long
  rw [encoded] at longer
  exact absurd longer (lt_irrefl _)

end Even

/-- A signature is translated as it must be when its length is none of a
signature, or both integers have at most 127 octets. -/
theorem translated_iff (raw : Octets) :
    Translated raw ↔
      raw.length = 0 ∨ raw.length % 2 ≠ 0 ∨ IntegersShort raw := by
  by_cases none : raw.length = 0
  · simp [Translated, certificateEcdsaRawToDer, none]
  by_cases odd : raw.length % 2 = 0
  · constructor
    · intro translated
      right
      right
      by_contra long
      exact not_translated_of_long none odd long translated
    · rintro (empty | wrong | short)
      · exact absurd empty none
      · exact absurd odd wrong
      · exact translated_of_short none odd short
  · simp [Translated, certificateEcdsaRawToDer, odd]

theorem integerContents_of_head
    {first : UInt8} {rest : Octets} (positive : first ≠ 0)
    (low : first.toNat < 128) :
    integerContents (ofBigEndian (first :: rest)) = first :: rest := by
  have octets := bigEndian_ofBigEndian (first :: rest)
    (by simpa using positive)
  rw [integerContents, octets, if_neg]
  simpa [needsSign] using low

/-- Two numbers of 128 octets. -/
theorem long_signature_mistranslated :
    ¬ Translated (List.replicate 256 1) := by
  have length : (List.replicate 256 (1 : UInt8)).length = 256 :=
    List.length_replicate
  apply not_translated_of_long
  · rw [length]
    decide
  · rw [length]
  · rintro ⟨short, -⟩
    have half : (List.replicate 256 (1 : UInt8)).take (256 / 2) =
        1 :: List.replicate 127 1 := by
      rw [List.take_replicate]
      rfl
    rw [rawPair, length, half,
      integerContents_of_head (by decide) (by decide), List.length_cons,
      List.length_replicate] at short
    exact absurd short (lt_irrefl _)

end PortalCertificate.Broker.EcdsaSignature
