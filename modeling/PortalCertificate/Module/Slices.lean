import PortalCertificate.Library.Buffer
import PortalCertificate.Module.GrantObjects
import PortalCertificate.Module.Mechanism

/-!
# The module's parsers on slices of their input

The DER reader, the DigestInfo parser and the splitter of public keys, as
the code walks its buffer: by offsets, lengths and differences of unsigned
lengths.  Here a read outside the input, a slice that reaches outside it and
a subtraction that would underflow are faults.

No input makes one of them fault, and what they return are the slices whose
contents the parsers of `Der`, `Mechanism` and `GrantObjects` return.
-/

namespace PortalCertificate.Module.Slices

open PortalCertificate.Library.Buffer
open PortalCertificate.Library.Der
open PortalCertificate.Library.DigestInfo (oidItem)
open PortalCertificate.Module.Der
  (portalDerSequence portalDerBitString portalDerOid portalDerNull
    portalDerOctetString PortalDerTlv portalDerReadLength
    portalDerReadLength_eq_some_iff)
open PortalCertificate.Module.Mechanism
  (HashEntry hashTable digestParametersAccepted)

/-! ## The reader -/

/-- `PortalDerTlv`, with the value where it stands in the buffer. -/
structure SliceTlv (buffer : Octets) where
  tag : UInt8
  value : Slice buffer
  consumed : Nat

section Programs

variable {buffer : Octets}

/-- The octets of a long length. -/
def readCount (data : Slice buffer) (count : Nat) : Except Fault Nat :=
  (List.range count).foldlM
    (fun length index => do
      let octet ← data.read (2 + index)
      return length <<< 8 ||| octet.toNat)
    0

/-- The offset and the length of the value. -/
def readLength (data : Slice buffer) : Checked (Nat × Nat) := do
  let first ← data.read 1
  if first &&& 0x80 = 0 then
    return (2, first.toNat)
  else
    let count := (first &&& 0x7f).toNat
    guard (¬ (count = 0 ∨ count > 4 ∨ data.length < 2 + count))
    let leading ← data.read 2
    guard (leading ≠ 0)
    let length ← readCount data count
    guard (¬ length < 0x80)
    return (2 + count, length)

/-- `portal_der_read`, on a slice. -/
def portalDerRead (data : Slice buffer) : Checked (SliceTlv buffer) := do
  guard (¬ data.length < 2)
  let tag ← data.read 0
  guard (tag &&& 0x1f ≠ 0x1f)
  let (offset, length) ← readLength data
  let room ← minus data.length offset
  guard (¬ length > room)
  let value ← data.part offset length
  return { tag, value, consumed := offset + length }

/-- `portal_der_read_tag`, on a slice. -/
def portalDerReadTag (data : Slice buffer) (tag : UInt8) :
    Checked (SliceTlv buffer) := do
  let tlv ← portalDerRead data
  guard (tlv.tag = tag)
  return tlv

/-- What follows an item that was read at the front of a slice. -/
def after (data : Slice buffer) (tlv : SliceTlv buffer) :
    Except Fault (Slice buffer) := do
  data.part tlv.consumed (← minus data.length tlv.consumed)

/-! ## The parsers -/

/-- The parameters of the digest's algorithm must be absent or `NULL`. -/
def digestParameters (algorithm : Slice buffer) (oid : SliceTlv buffer) :
    Checked Unit :=
  if oid.consumed ≠ algorithm.length then do
    let rest ← after algorithm oid
    let parameters ← portalDerReadTag rest portalDerNull
    guard (parameters.value.length = 0 ∧
      oid.consumed + parameters.consumed = algorithm.length)
  else
    pure ()

/-- The hash and the slice of the digest. -/
def portalDigestinfoParse (data : Slice buffer) :
    Checked (String × Slice buffer) := do
  guard (data.length ≠ 0)
  let outer ← portalDerReadTag data portalDerSequence
  guard (outer.consumed = data.length)
  let algorithm ← portalDerReadTag outer.value portalDerSequence
  let oid ← portalDerReadTag algorithm.value portalDerOid
  digestParameters algorithm.value oid
  let entry ← found (hashTable.find? fun entry =>
    oid.value.contents == entry.oid)
  let rest ← after outer.value algorithm
  let value ← portalDerReadTag rest portalDerOctetString
  guard (algorithm.consumed + value.consumed = outer.value.length)
  guard (value.value.length = entry.length)
  return (entry.name, value.value)

/-- The parameters are what follows the object identifier. -/
def spkiParameters (algorithm : Slice buffer) (oid : SliceTlv buffer) :
    Except Fault (Option (Slice buffer)) :=
  if oid.consumed < algorithm.length then
    some <$> after algorithm oid
  else
    pure none

/-- The slices of the algorithm's parameters and of the key's octets. -/
def spkiSplit (spki : Slice buffer) :
    Checked (Option (Slice buffer) × Slice buffer) := do
  let outer ← portalDerReadTag spki portalDerSequence
  let algorithm ← portalDerReadTag outer.value portalDerSequence
  let oid ← portalDerReadTag algorithm.value portalDerOid
  let rest ← after outer.value algorithm
  let bits ← portalDerReadTag rest portalDerBitString
  guard (¬ bits.value.length < 1)
  let unused ← bits.value.read 0
  guard (unused = 0)
  let parameters ←
    (liftM (spkiParameters algorithm.value oid) :
      Checked (Option (Slice buffer)))
  let keyLength ← minus bits.value.length 1
  let key ← bits.value.part 1 keyLength
  return (parameters, key)

/-! ## Agreement with the pure parsers -/

/-- One item, read from the buffer and read from the contents. -/
structure Stands (tlv : SliceTlv buffer) (read : PortalDerTlv) : Prop where
  tag : tlv.tag = read.tag
  value : tlv.value.contents = read.value
  consumed : tlv.consumed = read.consumed

theorem readLength_agrees
    {data : Slice buffer} {tag first : UInt8} {rest : Octets}
    (contents : data.contents = tag :: first :: rest) :
    Agrees Eq (readLength data) (portalDerReadLength first rest) := by
  have length : data.length = rest.length + 2 := by
    rw [← data.contents_length, contents]
    rfl
  have second : data.read 1 = .ok first :=
    Slice.read_eq (by rw [contents]; rfl)
  apply Agrees.access second
  unfold portalDerReadLength
  by_cases short : first &&& 0x80 = 0
  · simp only [short, if_true]
    exact .done rfl
  simp only [short, if_false]
  generalize (first &&& 0x7f).toNat = count
  by_cases refused : count = 0 ∨ count > 4 ∨ rest.length < count
  · have checked : count = 0 ∨ count > 4 ∨ data.length < 2 + count := by
      omega
    simp only [refused, if_true]
    exact .stop (not_not_intro checked)
  simp only [refused, if_false]
  apply Agrees.pass (by omega)
  rcases rest with _ | ⟨leading, others⟩
  · simp only [List.length_nil] at refused
    omega
  have third : data.read 2 = .ok leading :=
    Slice.read_eq (by rw [contents]; rfl)
  apply Agrees.access third
  by_cases zero : leading = 0
  · simp only [zero, List.head?_cons, if_true]
    exact .stop (not_not_intro rfl)
  simp only [zero, List.head?_cons, Option.some.injEq, if_false]
  apply Agrees.pass zero
  have counted : 2 + count ≤ data.length := by omega
  have loop := data.foldlM_read 2
    (fun length (octet : UInt8) => length <<< 8 ||| octet.toNat) 0 counted
  rw [contents] at loop
  apply Agrees.access loop
  simp only [List.drop_succ_cons, List.drop_zero]
  split_ifs with little
  · exact .stop (not_not_intro little)
  · exact .pass little (.done rfl)

theorem portalDerReadLength_fits
    {first : UInt8} {rest : Octets} {offset length : Nat}
    (read : portalDerReadLength first rest = some (offset, length)) :
    offset ≤ rest.length + 2 := by
  rcases (portalDerReadLength_eq_some_iff ..).mp read with
    ⟨-, offsetEq, starts⟩
  have bound := starts.length_le
  simp only [List.length_cons] at bound
  omega

theorem portalDerRead_agrees (data : Slice buffer) :
    Agrees Stands (portalDerRead data) (Der.portalDerRead data.contents) := by
  have sizes := data.contents_length
  rcases contents : data.contents with _ | ⟨tag, _ | ⟨first, rest⟩⟩
  · have short : data.length < 2 := by
      simp only [← sizes, contents, List.length_nil]
      omega
    exact .stop (not_not_intro short)
  · have short : data.length < 2 := by
      simp only [← sizes, contents, List.length_singleton]
      omega
    exact .stop (not_not_intro short)
  have size : (tag :: first :: rest).length = data.length :=
    contents ▸ sizes
  have long : ¬ data.length < 2 := by
    simp only [← size, List.length_cons]
    omega
  have tagged : data.read 0 = .ok tag :=
    Slice.read_eq (by rw [contents]; rfl)
  apply Agrees.pass long
  apply Agrees.access tagged
  simp only [Der.portalDerRead]
  by_cases multi : tag &&& 0x1f = 0x1f
  · simp only [multi, if_true]
    exact .stop (not_not_intro rfl)
  simp only [multi, if_false]
  apply Agrees.pass multi
  rcases readLength_agrees contents with ⟨read, ended, same⟩
  rcases pair : portalDerReadLength first rest with _ | ⟨offset, length⟩
  · rw [pair] at same
    cases same
    exact .refused ended
  rw [pair] at same
  cases same with
  | some same =>
      subst same
      have fits : offset ≤ data.length := by
        have bound := portalDerReadLength_fits pair
        simp only [List.length_cons] at size
        omega
      apply Agrees.next ended
      apply Agrees.access (minus_eq fits)
      simp only [size]
      split_ifs with large
      · exact .stop (not_not_intro large)
      rcases data.part_eq (by omega : offset + length ≤ data.length) with
        ⟨value, formed, -, slice⟩
      apply Agrees.pass large
      apply Agrees.access formed
      exact .done
        { tag := rfl
          value := by rw [slice, contents]
          consumed := rfl }

theorem portalDerReadTag_agrees (data : Slice buffer) (tag : UInt8) :
    Agrees Stands (portalDerReadTag data tag)
      (Der.portalDerReadTag data.contents tag) := by
  rcases portalDerRead_agrees data with ⟨read, ended, same⟩
  simp only [Der.portalDerReadTag]
  rcases pure : Der.portalDerRead data.contents with _ | tlv
  · rw [pure] at same
    cases same
    exact .refused ended
  rw [pure] at same
  cases same with
  | some same =>
      apply Agrees.next ended
      dsimp only
      split_ifs with tagged
      · exact .pass (same.tag.trans tagged) (.done same)
      · exact .stop (same.tag ▸ tagged)

theorem consumed_le
    {data : Slice buffer} {tag : UInt8} {read : PortalDerTlv}
    (reads : Der.portalDerReadTag data.contents tag = some read) :
    read.consumed ≤ data.length := by
  rcases (Der.portalDerReadTag_eq_some_iff ..).mp reads with ⟨reads, -⟩
  rcases Der.portalDerRead_sound reads with ⟨-, consumed, starts⟩
  have bound := starts.length_le
  rw [data.contents_length] at bound
  omega

theorem after_eq
    {data : Slice buffer} {tag : UInt8} {tlv : SliceTlv buffer}
    {read : PortalDerTlv} (stands : Stands tlv read)
    (reads : Der.portalDerReadTag data.contents tag = some read) :
    ∃ rest, after data tlv = .ok rest ∧
      rest.contents = data.contents.drop read.consumed := by
  have bound : tlv.consumed ≤ data.length :=
    stands.consumed ▸ consumed_le reads
  have fits : tlv.consumed + (data.length - tlv.consumed) ≤ data.length := by
    omega
  rcases data.part_eq fits with ⟨rest, formed, -, slice⟩
  refine ⟨rest, ?_, ?_⟩
  · simp only [after, minus_eq bound, bind, Except.bind, formed]
  · rw [slice, stands.consumed, List.take_of_length_le]
    rw [List.length_drop, data.contents_length]

/-- The slice of an item's value has the length of its contents. -/
theorem Stands.length
    {tlv : SliceTlv buffer} {read : PortalDerTlv}
    (stands : Stands tlv read) : tlv.value.length = read.value.length := by
  rw [← stands.value, Slice.contents_length]

theorem digestParameters_agrees
    {algorithm oid : SliceTlv buffer} {readAlgorithm readOid : PortalDerTlv}
    (algorithmStands : Stands algorithm readAlgorithm)
    (oidStands : Stands oid readOid)
    (reads : Der.portalDerReadTag algorithm.value.contents portalDerOid =
      some readOid) :
    Agrees (fun _ _ => True) (digestParameters algorithm.value oid)
      (guard (digestParametersAccepted readAlgorithm readOid = true)) := by
  have length := algorithmStands.length
  rcases after_eq oidStands reads with ⟨rest, formed, contents⟩
  simp only [digestParameters, digestParametersAccepted, length,
    oidStands.consumed]
  split_ifs with more
  · apply Agrees.access formed
    rcases portalDerReadTag_agrees rest portalDerNull with
      ⟨parameters, ended, same⟩
    rw [contents, algorithmStands.value] at same
    rcases pure : Der.portalDerReadTag
        (readAlgorithm.value.drop readOid.consumed) portalDerNull with
      _ | readParameters
    · rw [pure] at same
      cases same
      exact .refused ended
    rw [pure] at same
    cases same with
    | some same =>
        apply Agrees.next ended
        apply Agrees.asks
        rw [same.length, same.consumed, decide_eq_true_iff]
  · exact .done trivial

theorem portalDigestinfoParse_agrees (data : Slice buffer) :
    Agrees (fun result value =>
        result.1 = value.1 ∧ result.2.contents = value.2)
      (portalDigestinfoParse data)
      (Mechanism.portalDigestinfoParse data.contents) := by
  have sizes := data.contents_length
  apply Agrees.check
  · rw [← sizes, ne_eq, List.length_eq_zero_iff]
  intro _
  apply (portalDerReadTag_agrees data portalDerSequence).bind
  intro outer readOuter _ outerStands
  apply Agrees.check
  · rw [outerStands.consumed, sizes]
  intro _
  rw [← outerStands.value]
  apply (portalDerReadTag_agrees outer.value portalDerSequence).bind
  intro algorithm readAlgorithm algorithmReads algorithmStands
  rw [← algorithmStands.value]
  apply (portalDerReadTag_agrees algorithm.value portalDerOid).bind
  intro oid readOid oidReads oidStands
  apply (digestParameters_agrees algorithmStands oidStands oidReads).bind
  intro _ _ _ _
  rw [← oidStands.value]
  apply Agrees.found
  intro entry _
  rcases after_eq algorithmStands algorithmReads with
    ⟨rest, formed, contents⟩
  apply Agrees.access formed
  rw [← contents]
  apply (portalDerReadTag_agrees rest portalDerOctetString).bind
  intro value readValue _ valueStands
  apply Agrees.check
  · rw [algorithmStands.consumed, valueStands.consumed,
      outer.value.contents_length]
  intro _
  apply Agrees.check
  · rw [valueStands.length]
  intro _
  exact .done ⟨rfl, valueStands.value⟩

theorem spkiParameters_eq
    {algorithm : Slice buffer} {oid : SliceTlv buffer}
    {readOid : PortalDerTlv} (stands : Stands oid readOid)
    (reads : Der.portalDerReadTag algorithm.contents portalDerOid =
      some readOid) :
    ∃ parameters, spkiParameters algorithm oid = .ok parameters ∧
      parameters.map Slice.contents =
        if readOid.consumed < algorithm.contents.length then
          some (algorithm.contents.drop readOid.consumed)
        else
          none := by
  rcases after_eq stands reads with ⟨rest, formed, contents⟩
  simp only [spkiParameters, stands.consumed, algorithm.contents_length]
  split_ifs with more
  · refine ⟨some rest, by rw [formed]; rfl, ?_⟩
    rw [Option.map_some, contents]
  · exact ⟨none, rfl, rfl⟩

/-- The parts of a key as slices and as octets. -/
def SameParts
    (result : Option (Slice buffer) × Slice buffer)
    (value : Option Octets × Octets) : Prop :=
  result.1.map Slice.contents = value.1 ∧ result.2.contents = value.2

theorem spkiSplit_agrees (spki : Slice buffer) :
    Agrees SameParts (spkiSplit spki)
      (GrantObjects.spkiSplit spki.contents) := by
  apply (portalDerReadTag_agrees spki portalDerSequence).bind
  intro outer readOuter _ outerStands
  rw [← outerStands.value]
  apply (portalDerReadTag_agrees outer.value portalDerSequence).bind
  intro algorithm readAlgorithm algorithmReads algorithmStands
  rw [← algorithmStands.value]
  apply (portalDerReadTag_agrees algorithm.value portalDerOid).bind
  intro oid readOid oidReads oidStands
  rcases after_eq algorithmStands algorithmReads with
    ⟨rest, formed, contents⟩
  apply Agrees.access formed
  rw [← contents]
  apply (portalDerReadTag_agrees rest portalDerBitString).bind
  intro bits readBits _ bitsStands
  have length := bitsStands.length
  rcases octets : readBits.value with _ | ⟨unused, key⟩
  · rw [octets] at length
    apply Agrees.stop
    rw [length]
    decide
  rw [octets, List.length_cons] at length
  have held : bits.value.contents = unused :: key :=
    bitsStands.value.trans octets
  have leading : bits.value.read 0 = .ok unused :=
    Slice.read_eq (by rw [held]; rfl)
  apply Agrees.pass (by omega)
  apply Agrees.access leading
  split
  case h_2 _ _ other =>
    apply Agrees.stop
    rintro rfl
    exact other key rfl
  rename_i keyOctets cons
  cases cons
  apply Agrees.pass rfl
  rcases spkiParameters_eq oidStands oidReads with
    ⟨parameters, taken, same⟩
  apply Agrees.access taken
  apply Agrees.access (minus_eq (by omega))
  have fits : 1 + (bits.value.length - 1) ≤ bits.value.length := by omega
  rcases bits.value.part_eq fits with ⟨keySlice, formed, -, slice⟩
  apply Agrees.access formed
  apply Agrees.done
  refine ⟨same, ?_⟩
  rw [slice, held, length]
  simp

end Programs

/-! ## Well-formed keys -/

/-- An object identifier and the octets of the parameters, if any. -/
def algorithmIdentifier (oid parameters : Octets) : Tlv where
  tag := portalDerSequence
  value := (oidItem oid).encode ++ parameters

/-- A bit string without unused bits. -/
def bitString (octets : Octets) : Tlv where
  tag := portalDerBitString
  value := 0 :: octets

/-- A SubjectPublicKeyInfo. -/
def subjectPublicKeyInfo (oid parameters key : Octets) : Tlv :=
  .constructed portalDerSequence
    [algorithmIdentifier oid parameters, bitString key]

theorem subjectPublicKeyInfo_value (oid parameters key : Octets) :
    (subjectPublicKeyInfo oid parameters key).value =
      (algorithmIdentifier oid parameters).encode ++
        (bitString key).encode := by
  simp [subjectPublicKeyInfo, Tlv.constructed]

theorem value_length_le (item : Tlv) :
    item.value.length ≤ item.encode.length := by
  rw [item.encode_length]
  omega

theorem spkiSplit_subjectPublicKeyInfo
    {oid parameters key : Octets}
    (bound : (subjectPublicKeyInfo oid parameters key).encode.length <
      2 ^ 32) :
    GrantObjects.spkiSplit
        (subjectPublicKeyInfo oid parameters key).encode =
      some (if parameters = [] then none else some parameters, key) := by
  have outerBound :=
    value_length_le (subjectPublicKeyInfo oid parameters key)
  have parts :=
    congrArg List.length (subjectPublicKeyInfo_value oid parameters key)
  rw [List.length_append] at parts
  have algorithmBound := value_length_le (algorithmIdentifier oid parameters)
  have bitsBound := value_length_le (bitString key)
  have oidBound : (oidItem oid).encode.length ≤
      (algorithmIdentifier oid parameters).value.length := by
    simp [algorithmIdentifier]
  have valueBound := value_length_le (oidItem oid)
  have sequence : portalDerSequence &&& 0x1f ≠ 0x1f := by decide
  have identifier : portalDerOid &&& 0x1f ≠ 0x1f := by decide
  have string : portalDerBitString &&& 0x1f ≠ 0x1f := by decide
  have outer := Der.portalDerReadTag_encode
    (subjectPublicKeyInfo oid parameters key) ⟨sequence, by omega⟩ []
  have algorithm := Der.portalDerReadTag_encode
    (algorithmIdentifier oid parameters) ⟨sequence, by omega⟩
    (bitString key).encode
  have oidRead := Der.portalDerReadTag_encode
    (oidItem oid) ⟨identifier, by omega⟩ parameters
  have bits := Der.portalDerReadTag_encode
    (bitString key) ⟨string, by omega⟩ []
  rw [List.append_nil] at outer bits
  rw [← subjectPublicKeyInfo_value] at algorithm
  have value : (algorithmIdentifier oid parameters).value =
      (oidItem oid).encode ++ parameters := rfl
  rw [← value] at oidRead
  have dropped :
      (subjectPublicKeyInfo oid parameters key).value.drop
          (algorithmIdentifier oid parameters).encode.length =
        (bitString key).encode := by
    rw [subjectPublicKeyInfo_value, List.drop_left]
  rw [← dropped] at bits
  change Der.portalDerReadTag _ portalDerSequence = _ at outer algorithm
  change Der.portalDerReadTag _ portalDerOid = _ at oidRead
  change Der.portalDerReadTag _ portalDerBitString = _ at bits
  simp only [GrantObjects.spkiSplit, outer, algorithm, oidRead, bits,
    Option.bind_eq_bind, Option.bind_some, bitString]
  have after : (algorithmIdentifier oid parameters).value.drop
      (oidItem oid).encode.length = parameters := by
    rw [value, List.drop_left]
  have more : (oidItem oid).encode.length <
      (algorithmIdentifier oid parameters).value.length ↔
        parameters ≠ [] := by
    rw [value, List.length_append, ← List.length_pos_iff]
    omega
  by_cases absent : parameters = []
  · rw [if_neg (mt more.mp (not_not_intro absent)), if_pos absent]
  · rw [if_pos (more.mpr absent), if_neg absent, after]

/--
On every input both parsers end without a fault.  A key's description has at
most the length of a `gnutls_datum_t`.
-/
theorem parsers_stay_inside :
    (∀ data : Octets,
      Agrees (fun result value =>
          result.1 = value.1 ∧ result.2.contents = value.2)
        (portalDigestinfoParse (whole data))
        (Mechanism.portalDigestinfoParse data)) ∧
    (∀ data : Octets,
      Agrees SameParts (spkiSplit (whole data))
        (GrantObjects.spkiSplit data)) ∧
    ∀ oid parameters key : Octets,
      (subjectPublicKeyInfo oid parameters key).encode.length < 2 ^ 32 →
        Agrees SameParts
          (spkiSplit
            (whole (subjectPublicKeyInfo oid parameters key).encode))
          (some (if parameters = [] then none else some parameters, key)) := by
  refine ⟨fun data => ?_, fun data => ?_, ?_⟩
  · have agrees := portalDigestinfoParse_agrees (whole data)
    rwa [whole_contents] at agrees
  · have agrees := spkiSplit_agrees (whole data)
    rwa [whole_contents] at agrees
  · intro oid parameters key bound
    have agrees := spkiSplit_agrees
      (whole (subjectPublicKeyInfo oid parameters key).encode)
    rwa [whole_contents, spkiSplit_subjectPublicKeyInfo bound] at agrees

/-- The key of a certificate on a curve. -/
theorem parsers_stay_inside_ecKey :
    Agrees SameParts
      (spkiSplit (whole (subjectPublicKeyInfo
        [0x2a, 0x86, 0x48, 0xce, 0x3d, 0x02, 0x01]
        [0x06, 0x05, 0x2b, 0x81, 0x04, 0x00, 0x22] [0x04, 0x01]).encode))
      (some (some [0x06, 0x05, 0x2b, 0x81, 0x04, 0x00, 0x22],
        [0x04, 0x01])) :=
  parsers_stay_inside.2.2 _ _ _ (by decide)

end PortalCertificate.Module.Slices
