import PortalCertificate.Library.Regions
import PortalCertificate.Module.Objects

/-!
# Reading attributes into the caller's memory

`portal_object_get_attributes` as it works on the caller's template: entries
that point into memory, one pass over them, and three flags that become one
return code.

As long as no two buffers have an address in common, every entry ends as in
a call of its own.  `Objects` states the same function on the octets of the
buffers, and the two are shown to agree.
-/

namespace PortalCertificate.Module.AttributeReads

open PortalCertificate.Library.Regions
open PortalCertificate.Module.Objects
  (PortalObject AttributeResult findAttribute readAttribute)
open PortalCertificate.Module.Template (Octets)
open PortalCertificate.Pkcs11

/-! ## The pass -/

/-- A `CK_ATTRIBUTE`, with the address in `pValue`. -/
structure Entry where
  type : CkUlong
  pointer : Option Nat
  valueLen : CkUlong
  deriving DecidableEq, Repr

/-- `templ` and `count`. -/
inductive Entries where
  | null (count : Nat)
  | array (entries : List Entry)
  deriving DecidableEq, Repr

/-- The caller's memory and the local variables of the pass. -/
structure Pass where
  memory : Memory
  sensitive : Bool
  invalid : Bool
  tooSmall : Bool

/-- No entry has been visited. -/
def Pass.start (memory : Memory) : Pass where
  memory := memory
  sensitive := false
  invalid := false
  tooSmall := false

/-- The length says that there is no value. -/
def Entry.unavailable (entry : Entry) : Entry :=
  { entry with valueLen := ckUnavailableInformation }

/-- One round of the loop. -/
def visit (object : PortalObject) (pass : Pass) (entry : Entry) :
    Pass × Entry :=
  match findAttribute object entry.type with
  | none => ({ pass with invalid := true }, entry.unavailable)
  | some found =>
      match found.sensitive, found.value with
      | false, some data =>
          let sized := { entry with valueLen := UInt64.ofNat data.length }
          match entry.pointer with
          | none => (pass, sized)
          | some pointer =>
              if entry.valueLen.toNat < data.length then
                ({ pass with tooSmall := true }, entry.unavailable)
              else
                ({ pass with memory := copy pass.memory pointer data },
                  sized)
      | _, _ => ({ pass with sensitive := true }, entry.unavailable)

/-- The entries are visited one after the other. -/
def visitAll (object : PortalObject) :
    Pass → List Entry → Pass × List Entry
  | pass, [] => (pass, [])
  | pass, entry :: rest =>
      let (next, ended) := visit object pass entry
      let (last, others) := visitAll object next rest
      (last, ended :: others)

/-- The return code, of which a sensitive attribute decides before all else. -/
def Pass.rv (pass : Pass) : CkRv :=
  if pass.sensitive then .attributeSensitive
  else if pass.invalid then .attributeTypeInvalid
  else if pass.tooSmall then .bufferTooSmall
  else .ok

/-- What the caller finds after the call. -/
structure Outcome where
  rv : CkRv
  memory : Memory
  entries : Entries

/-- `portal_object_get_attributes`, with the memory that it writes. -/
def portalObjectGetAttributes
    (object : PortalObject) (memory : Memory) (template : Entries) :
    Outcome :=
  match template with
  | .null count =>
      { rv := if count = 0 then .ok else .argumentsBad, memory,
        entries := template }
  | .array entries =>
      let (pass, ended) := visitAll object (.start memory) entries
      { rv := pass.rv, memory := pass.memory, entries := .array ended }

/-! ## What one entry asks for -/

/-- The value that may be read, if there is one. -/
def readable (object : PortalObject) (type : CkUlong) : Option Octets :=
  match findAttribute object type with
  | some ⟨_, some data, false⟩ => some data
  | _ => none

/-- The buffer of an entry; without a pointer there is none. -/
def Entry.buffer (entry : Entry) : Region where
  start := entry.pointer.getD 0
  length := if entry.pointer.isSome then entry.valueLen.toNat else 0

/-- The entry's buffer, if it has one, has room for the data. -/
def Entry.Fits (entry : Entry) (data : Octets) : Prop :=
  ∀ pointer, entry.pointer = some pointer →
    data.length ≤ entry.valueLen.toNat

/-- The entry is answered. -/
def Succeeds (object : PortalObject) (entry : Entry) : Prop :=
  ∃ data, readable object entry.type = some data ∧ entry.Fits data

/-- The values of an object have lengths that a `gsize` can hold. -/
def Sized (object : PortalObject) : Prop :=
  ∀ found ∈ object.attributes, ∀ data ∈ found.value,
    data.length < 2 ^ 64

instance (object : PortalObject) : Decidable (Sized object) :=
  inferInstanceAs (Decidable (∀ found ∈ object.attributes, _))

/-- No two entries have an address of their buffers in common. -/
def BuffersApart (entries : List Entry) : Prop :=
  entries.Pairwise fun first second => first.buffer.Apart second.buffer

/-! ## One round -/

section Rounds

variable {object : PortalObject} {entry : Entry}

/-- The memory once the data is in the entry's buffer. -/
def Entry.store (entry : Entry) (data : Octets) (memory : Memory) : Memory :=
  match entry.pointer with
  | none => memory
  | some pointer => copy memory pointer data

theorem Sized.readable
    {type : CkUlong} {data : Octets} (sized : Sized object)
    (read : readable object type = some data) : data.length < 2 ^ 64 := by
  unfold AttributeReads.readable at read
  split at read
  case h_2 => cases read
  case h_1 found =>
    cases read
    exact sized _ (List.mem_of_find?_eq_some found) data rfl

theorem visit_succeeds
    {data : Octets} (pass : Pass)
    (read : readable object entry.type = some data)
    (fits : entry.Fits data) :
    visit object pass entry =
      ({ pass with memory := entry.store data pass.memory },
        { entry with valueLen := UInt64.ofNat data.length }) := by
  unfold readable at read
  split at read
  case h_2 => cases read
  rename_i found
  cases read
  simp only [visit, found, Entry.store]
  cases pointer : entry.pointer with
  | none => rfl
  | some address => exact if_neg (not_lt.mpr (fits address pointer))

theorem rv_eq_ok_iff (pass : Pass) :
    pass.rv = .ok ↔
      pass.sensitive = false ∧ pass.invalid = false ∧
        pass.tooSmall = false := by
  rcases pass with ⟨memory, _ | _, _ | _, _ | _⟩ <;> simp [Pass.rv]

theorem visit_fails (pass : Pass) (fails : ¬ Succeeds object entry) :
    ∃ flagged, visit object pass entry = (flagged, entry.unavailable) ∧
      flagged.memory = pass.memory ∧ flagged.rv ≠ .ok := by
  unfold visit
  rcases found : findAttribute object entry.type with
    _ | ⟨type, _ | data, _ | _⟩
  case some.some.false =>
    have read : readable object entry.type = some data := by
      simp [readable, found]
    cases pointer : entry.pointer with
    | none =>
        apply absurd _ fails
        exact ⟨data, read, fun address there => by
          rw [pointer] at there; cases there⟩
    | some address =>
        have short : entry.valueLen.toNat < data.length := by
          by_contra fits
          apply fails
          refine ⟨data, read, fun other there => ?_⟩
          omega
        simp only [short, if_true]
        exact ⟨_, rfl, rfl, by simp [rv_eq_ok_iff]⟩
  all_goals exact ⟨_, rfl, rfl, by simp [rv_eq_ok_iff]⟩

/-- One round, by whether the entry is answered. -/
theorem visit_cases (object : PortalObject) (pass : Pass) (entry : Entry) :
    (∃ data, readable object entry.type = some data ∧ entry.Fits data ∧
      visit object pass entry =
        ({ pass with memory := entry.store data pass.memory },
          { entry with valueLen := UInt64.ofNat data.length })) ∨
    ¬ Succeeds object entry ∧
      ∃ flagged, visit object pass entry = (flagged, entry.unavailable) ∧
        flagged.memory = pass.memory ∧ flagged.rv ≠ .ok := by
  by_cases succeeds : Succeeds object entry
  · rcases succeeds with ⟨data, read, fits⟩
    exact .inl ⟨data, read, fits, visit_succeeds pass read fits⟩
  · exact .inr ⟨succeeds, visit_fails pass succeeds⟩

theorem visit_rv_iff (pass : Pass) :
    (visit object pass entry).1.rv = .ok ↔
      pass.rv = .ok ∧ Succeeds object entry := by
  rcases visit_cases object pass entry with
    ⟨data, read, fits, visited⟩ | ⟨fails, flagged, visited, -, marked⟩
  · rw [visited]
    exact ⟨fun ok => ⟨ok, data, read, fits⟩, And.left⟩
  · rw [visited]
    exact ⟨fun ok => absurd ok marked, fun ok => absurd ok.2 fails⟩

/-- What an entry becomes does not depend on the entries before it. -/
theorem visit_entry (pass other : Pass) :
    (visit object pass entry).2 = (visit object other entry).2 := by
  unfold visit
  rcases findAttribute object entry.type with _ | ⟨type, _ | data, _ | _⟩
  case some.some.false =>
    cases entry.pointer with
    | none => rfl
    | some pointer =>
        dsimp only
        split_ifs <;> rfl
  all_goals rfl

/-- Only the length of an entry changes. -/
theorem visit_keeps (object : PortalObject) (pass : Pass) (entry : Entry) :
    { (visit object pass entry).2 with valueLen := entry.valueLen } =
      entry := by
  rcases visit_cases object pass entry with
    ⟨data, read, fits, visited⟩ | ⟨fails, flagged, visited, kept, -⟩
  · rw [visited]
  · rw [visited]
    rfl

theorem Fits.within {data : Octets} (fits : entry.Fits data) :
    ∀ pointer, entry.pointer = some pointer →
      entry.buffer.start = pointer ∧
        data.length ≤ entry.buffer.length := by
  intro pointer there
  have room := fits pointer there
  simp [Entry.buffer, there, room]

/-- A round changes nothing outside the entry's buffer. -/
theorem visit_frame
    {region : Region} (pass : Pass) (apart : region.Apart entry.buffer) :
    SameOn region pass.memory (visit object pass entry).1.memory := by
  rcases visit_cases object pass entry with
    ⟨data, read, fits, visited⟩ | ⟨fails, flagged, visited, kept, -⟩
  · rw [visited]
    cases pointer : entry.pointer with
    | none =>
        simp only [Entry.store, pointer]
        exact .refl _ _
    | some address =>
        simp only [Entry.store, pointer]
        rcases Fits.within fits address pointer with ⟨start, room⟩
        apply sameOn_copy
        rintro place inside ⟨after, before⟩
        apply apart place inside
        constructor <;> simp only [start] at * <;> omega
  · rw [visited, kept]
    exact .refl _ _

/-- What a round leaves in the entry's buffer depends on that buffer only. -/
theorem visit_buffer
    {pass other : Pass}
    (same : SameOn entry.buffer pass.memory other.memory) :
    SameOn entry.buffer (visit object pass entry).1.memory
      (visit object other entry).1.memory := by
  by_cases succeeds : Succeeds object entry
  · rcases succeeds with ⟨data, read, fits⟩
    rw [visit_succeeds pass read fits, visit_succeeds other read fits]
    simp only [Entry.store]
    cases entry.pointer with
    | none => exact same
    | some pointer => exact same.copy pointer data
  · rcases visit_fails pass succeeds with ⟨first, visited, kept, -⟩
    rcases visit_fails other succeeds with ⟨second, alike, held, -⟩
    rw [visited, alike, kept, held]
    exact same

end Rounds

/-! ## The whole pass -/

section Passes

variable {object : PortalObject}

theorem visitAll_rv_iff (pass : Pass) (entries : List Entry) :
    (visitAll object pass entries).1.rv = .ok ↔
      pass.rv = .ok ∧ ∀ entry ∈ entries, Succeeds object entry := by
  induction entries generalizing pass with
  | nil => simp [visitAll]
  | cons entry rest later =>
      simp only [visitAll, later, visit_rv_iff, List.forall_mem_cons,
        and_assoc]

theorem visitAll_length (pass : Pass) (entries : List Entry) :
    (visitAll object pass entries).2.length = entries.length := by
  induction entries generalizing pass with
  | nil => rfl
  | cons entry rest later => simp [visitAll, later]

/-- The pass changes nothing outside the buffers. -/
theorem visitAll_frame
    {region : Region} {entries : List Entry} (pass : Pass)
    (apart : ∀ entry ∈ entries, region.Apart entry.buffer) :
    SameOn region pass.memory (visitAll object pass entries).1.memory := by
  induction entries generalizing pass with
  | nil => exact .refl _ _
  | cons entry rest later =>
      rw [List.forall_mem_cons] at apart
      exact (visit_frame pass apart.1).trans (later _ apart.2)

/-- Every entry ends as if it were alone. -/
theorem visitAll_entry
    {entries : List Entry} (pass : Pass) (apart : BuffersApart entries)
    {index : Nat} {entry : Entry} (stands : entries[index]? = some entry) :
    (visitAll object pass entries).2[index]? =
        some (visit object pass entry).2 ∧
      SameOn entry.buffer (visit object pass entry).1.memory
        (visitAll object pass entries).1.memory := by
  induction entries generalizing pass index with
  | nil => cases stands
  | cons first rest later =>
      rcases List.pairwise_cons.mp apart with ⟨head, tail⟩
      cases index with
      | zero =>
          cases stands
          exact ⟨rfl, visitAll_frame _ head⟩
      | succ index =>
          have member : entry ∈ rest := List.mem_of_getElem? stands
          rcases later (visit object pass first).1 tail stands with
            ⟨ended, same⟩
          have frame :
              SameOn entry.buffer pass.memory
                (visit object pass first).1.memory :=
            visit_frame pass (head entry member).symm
          refine ⟨?_, (visit_buffer frame).trans same⟩
          rw [visit_entry pass (visit object pass first).1]
          exact ended

end Passes

/-! ## Against the octets of the buffers -/

/-- The entry with the octets of its buffer and the length it ends with. -/
def Entry.seen (memory : Memory) (entry ended : Entry) : CkAttribute where
  type := entry.type
  value := entry.pointer.map fun pointer =>
    bytes memory ⟨pointer, entry.valueLen.toNat⟩
  valueLen := ended.valueLen

section Octets

variable {object : PortalObject}

theorem seen_congr
    {memory other : Memory} {entry : Entry}
    (same : SameOn entry.buffer memory other) (ended : Entry) :
    entry.seen other ended = entry.seen memory ended := by
  unfold Entry.seen
  cases pointer : entry.pointer with
  | none => rfl
  | some address =>
      simp only [Entry.buffer, pointer] at same
      exact congrArg (fun octets => CkAttribute.mk _ (some octets) _)
        (bytes_congr same)

/-- The flags of a pass once these readings have been added to them. -/
structure Gathers
    (before after : Pass) (reads : List (CkAttribute × AttributeResult)) :
    Prop where
  sensitive : after.sensitive =
    (before.sensitive || reads.any fun read => read.2 == .sensitive)
  invalid : after.invalid =
    (before.invalid || reads.any fun read => read.2 == .invalid)
  tooSmall : after.tooSmall =
    (before.tooSmall || reads.any fun read => read.2 == .tooSmall)

theorem Gathers.cons
    {first second third : Pass} {read : CkAttribute × AttributeResult}
    {reads : List (CkAttribute × AttributeResult)}
    (one : Gathers first second [read]) (rest : Gathers second third reads) :
    Gathers first third (read :: reads) := by
  rcases one with ⟨sensitive, invalid, tooSmall⟩
  rcases rest with ⟨sensitiveRest, invalidRest, tooSmallRest⟩
  simp only [List.any_cons, List.any_nil, Bool.or_false] at *
  constructor
  · rw [sensitiveRest, sensitive, Bool.or_assoc, List.any_cons]
  · rw [invalidRest, invalid, Bool.or_assoc, List.any_cons]
  · rw [tooSmallRest, tooSmall, Bool.or_assoc, List.any_cons]

/-- One round, as `readAttribute` gives it from the octets. -/
theorem visit_readAttribute (pass : Pass) (entry : Entry) :
    (readAttribute object (entry.seen pass.memory entry)).1 =
        entry.seen (visit object pass entry).1.memory
          (visit object pass entry).2 ∧
      Gathers pass (visit object pass entry).1
        [readAttribute object (entry.seen pass.memory entry)] := by
  rcases entry with ⟨type, pointer, valueLen⟩
  simp only [visit, readAttribute, Entry.seen]
  rcases findAttribute object type with _ | ⟨type, _ | data, _ | _⟩
  case some.some.false =>
    cases pointer with
    | none => exact ⟨rfl, by constructor <;> simp⟩
    | some address =>
        by_cases short : valueLen.toNat < data.length
        · simp only [Option.map_some, short, if_true]
          exact ⟨rfl, by constructor <;> simp⟩
        · simp only [Option.map_some, short, if_false,
            bytes_copy_front _ _ (not_lt.mp short)]
          exact ⟨trivial, by constructor <;> simp⟩
  all_goals exact ⟨rfl, by constructor <;> simp⟩

/-- The whole pass, as `readAttribute` gives it for every entry. -/
theorem visitAll_readAttribute
    (pass : Pass) {entries : List Entry} (apart : BuffersApart entries) :
    let reads := entries.map fun entry =>
      readAttribute object (entry.seen pass.memory entry)
    reads.map Prod.fst =
        List.zipWith
          (Entry.seen (visitAll object pass entries).1.memory) entries
          (visitAll object pass entries).2 ∧
      Gathers pass (visitAll object pass entries).1 reads := by
  induction entries generalizing pass with
  | nil => exact ⟨rfl, by constructor <;> simp [visitAll]⟩
  | cons first rest later =>
      rcases List.pairwise_cons.mp apart with ⟨head, tail⟩
      rcases @visit_readAttribute object pass first with
        ⟨read, gathers⟩
      rcases later (visit object pass first).1 tail with
        ⟨reads, gathersRest⟩
      have unchanged : ∀ entry ∈ rest,
          readAttribute object (entry.seen pass.memory entry) =
            readAttribute object
              (entry.seen (visit object pass first).1.memory entry) := by
        intro entry member
        rw [seen_congr (visit_frame pass (head entry member).symm)]
      rw [← List.map_congr_left unchanged] at reads gathersRest
      have front :
          SameOn first.buffer (visit object pass first).1.memory
            (visitAll object (visit object pass first).1 rest).1.memory :=
        visitAll_frame _ head
      constructor
      · simp only [visitAll, List.map_cons, List.zipWith_cons_cons]
        rw [reads, read, seen_congr front]
      · exact gathers.cons gathersRest

theorem portalObjectGetAttributes_octets
    (memory : Memory) {entries : List Entry}
    (apart : BuffersApart entries) :
    let outcome := portalObjectGetAttributes object memory (.array entries)
    ∃ ended, outcome.entries = .array ended ∧
      Objects.portalObjectGetAttributes object
          (.array (entries.map fun entry => entry.seen memory entry)) =
        (outcome.rv,
          .array (List.zipWith (Entry.seen outcome.memory) entries ended)) := by
  rcases @visitAll_readAttribute object (.start memory) _ apart with
    ⟨reads, sensitive, invalid, tooSmall⟩
  refine ⟨_, rfl, ?_⟩
  simp only [Pass.start, Bool.false_or] at sensitive invalid tooSmall
  simp only [portalObjectGetAttributes, Objects.portalObjectGetAttributes,
    Pass.rv, List.map_map, Function.comp_def, Pass.start, sensitive,
    invalid, tooSmall]
  simp only [List.map_map, Function.comp_def] at reads
  exact congrArg (fun seen => (_, CkTemplate.array seen)) reads

end Octets

/-! ## What the caller finds -/

/-- The part of an entry's buffer that a value at its front leaves. -/
def Entry.rest (entry : Entry) (data : Octets) : Region where
  start := entry.buffer.start + data.length
  length := entry.buffer.length - data.length

/-- How an entry ends: with its value at the front of its buffer, and the
rest of the buffer as it was, or with the marker, and the buffer as it was. -/
inductive EntryEnds
    (object : PortalObject) (before after : Memory)
    (entry ended : Entry) : Prop where
  | answered (data : Octets)
      (read : readable object entry.type = some data)
      (fits : entry.Fits data)
      (size : ended.valueLen.toNat = data.length)
      (written : ∀ pointer, entry.pointer = some pointer →
        bytes after ⟨pointer, data.length⟩ = data)
      (kept : SameOn (entry.rest data) before after)
  | unavailable
      (fails : ¬ Succeeds object entry)
      (marked : ended.valueLen = ckUnavailableInformation)
      (untouched : SameOn entry.buffer before after)

/-- The entry and its buffer end as in a call for this entry only. -/
def EndsAlone
    (object : PortalObject) (before after : Memory)
    (entry ended : Entry) : Prop :=
  let alone := portalObjectGetAttributes object before (.array [entry])
  alone.entries = .array [ended] ∧ SameOn entry.buffer alone.memory after

section Caller

variable {object : PortalObject} {entry : Entry}

theorem visit_ends
    (sized : Sized object) (pass : Pass) :
    EntryEnds object pass.memory (visit object pass entry).1.memory entry
      (visit object pass entry).2 := by
  rcases visit_cases object pass entry with
    ⟨data, read, fits, visited⟩ | ⟨fails, flagged, visited, kept, -⟩
  · rw [visited]
    apply EntryEnds.answered data read fits
    · exact UInt64.toNat_ofNat_of_lt (sized.readable read)
    · intro pointer there
      simp only [Entry.store, there]
      exact bytes_copy _ _ _
    · cases there : entry.pointer with
      | none =>
          simp only [Entry.store, there]
          exact .refl _ _
      | some pointer =>
          simp only [Entry.store, there]
          refine sameOn_copy _ (Region.apart_of_le ?_).symm
          simp [Entry.rest, Entry.buffer, there]
  · rw [visited]
    exact .unavailable fails rfl (kept ▸ .refl _ _)

theorem EntryEnds.later
    {before after last : Memory} {ended : Entry}
    (ends : EntryEnds object before after entry ended)
    (same : SameOn entry.buffer after last) :
    EntryEnds object before last entry ended := by
  cases ends with
  | answered data read fits size written kept =>
      apply EntryEnds.answered data read fits size
      · intro pointer there
        rcases Fits.within fits pointer there with ⟨start, room⟩
        refine (bytes_congr (same.mono ?_)).trans (written pointer there)
        rintro address ⟨after, before⟩
        constructor <;> simp only [start] at * <;> omega
      · refine kept.trans (same.mono ?_)
        rintro address ⟨after, before⟩
        simp only [Entry.rest] at after before
        constructor <;> omega
  | unavailable fails marked untouched =>
      exact .unavailable fails marked (untouched.trans same)

theorem not_succeeds_of_sensitive
    {found : Objects.PortalAttribute}
    (stands : findAttribute object entry.type = some found)
    (sensitive : found.sensitive = true) : ¬ Succeeds object entry := by
  rintro ⟨data, read, -⟩
  rcases found with ⟨type, value, _ | _⟩
  · cases sensitive
  · simp [readable, stands] at read

end Caller

/-! ## The protocol -/

/-- A fetch with the sizes that a query has answered. -/
def Fetches (answered fetches : List Entry) : Prop :=
  fetches.map (fun entry => { entry with pointer := none }) = answered

section Protocol

variable {object : PortalObject}

theorem entry_protocol
    (sized : Sized object) (memory : Memory) {entries : List Entry}
    (apart : BuffersApart entries) {index : Nat} {entry : Entry}
    (stands : entries[index]? = some entry) :
    ∃ result,
      (visitAll object (.start memory) entries).2[index]? = some result ∧
      { result with valueLen := entry.valueLen } = entry ∧
      EntryEnds object memory
        (visitAll object (.start memory) entries).1.memory entry result ∧
      EndsAlone object memory
        (visitAll object (.start memory) entries).1.memory entry result := by
  rcases visitAll_entry (.start memory) apart stands with ⟨ended, same⟩
  have ends : EntryEnds object memory _ entry _ :=
    visit_ends sized (.start memory)
  exact ⟨_, ended, visit_keeps _ _ _, ends.later same, rfl, same⟩

theorem buffersApart_of_query
    {entries : List Entry}
    (query : ∀ entry ∈ entries, entry.pointer = none) :
    BuffersApart entries := by
  apply List.pairwise_of_forall_mem_list
  intro first member second _ address inside
  simp only [Region.Holds, Entry.buffer, query first member,
    Option.isSome_none, Bool.false_eq_true, if_false] at inside
  omega

/-- A query answers every readable entry with the size of its value. -/
theorem query_sizes
    (sized : Sized object) (memory : Memory) {entries : List Entry}
    (query : ∀ entry ∈ entries, entry.pointer = none)
    {index : Nat} {entry answered : Entry}
    (asked : entries[index]? = some entry)
    (answer : (visitAll object (.start memory) entries).2[index]? =
      some answered)
    {data : Octets} (read : readable object entry.type = some data) :
    answered.valueLen.toNat = data.length := by
  rcases entry_protocol sized memory (buffersApart_of_query query) asked with
    ⟨result, stands, -, ends, -⟩
  cases answer.symm.trans stands
  cases ends with
  | answered other readOther fits size =>
      cases readOther.symm.trans read
      exact size
  | unavailable fails marked untouched =>
      apply absurd _ fails
      refine ⟨data, read, fun pointer there => ?_⟩
      rw [query entry (List.mem_of_getElem? asked)] at there
      cases there

/-- With the sizes of a query every readable entry of a fetch fits. -/
theorem fetch_fits
    (sized : Sized object) (memory : Memory) {entries fetches : List Entry}
    (query : ∀ entry ∈ entries, entry.pointer = none)
    (sizes : Fetches (visitAll object (.start memory) entries).2 fetches)
    {index : Nat} {fetch : Entry} (stands : fetches[index]? = some fetch) :
    (∃ entry, entries[index]? = some entry ∧ entry.type = fetch.type) ∧
      ∀ data, readable object fetch.type = some data → fetch.Fits data := by
  have answer :
      (visitAll object (.start memory) entries).2[index]? =
        some { fetch with pointer := none } := by
    rw [← sizes, List.getElem?_map, stands]
    rfl
  have bound : index < entries.length := by
    rw [← visitAll_length (.start memory) entries]
    exact (List.getElem?_eq_some_iff.mp answer).1
  have asked := List.getElem?_eq_getElem bound
  rcases entry_protocol sized memory (buffersApart_of_query query) asked with
    ⟨result, same, keeps, -⟩
  cases answer.symm.trans same
  have type : entries[index].type = fetch.type :=
    (congrArg Entry.type keeps).symm
  refine ⟨⟨_, asked, type⟩, fun data read pointer _ => ?_⟩
  rw [← type] at read
  exact (query_sizes sized memory query asked answer read).ge

/-- A fetch answers what the query has answered. -/
theorem fetch_rv
    (sized : Sized object) (memory later : Memory)
    {entries fetches : List Entry}
    (query : ∀ entry ∈ entries, entry.pointer = none)
    (sizes : Fetches (visitAll object (.start memory) entries).2 fetches)
    (ok : (visitAll object (.start memory) entries).1.rv = .ok) :
    (visitAll object (.start later) fetches).1.rv = .ok := by
  rw [visitAll_rv_iff] at ok ⊢
  refine ⟨rfl, fun fetch member => ?_⟩
  rcases List.mem_iff_getElem?.mp member with ⟨index, stands⟩
  rcases fetch_fits sized memory query sizes stands with
    ⟨⟨entry, asked, type⟩, fits⟩
  rcases ok.2 entry (List.mem_of_getElem? asked) with ⟨data, read, -⟩
  rw [type] at read
  exact ⟨data, read, fits data read⟩

end Protocol

/--
A call for any entries whose buffers have no address in common, and a query
for sizes followed by a fetch with these sizes.  Every address is outside the
buffers, and then as it was, or in the buffer of one entry, which ends with
its value and the rest of the buffer as it was, or with the marker and the
buffer as it was.  The octets of the buffers are those of the function in
`Objects`.
-/
theorem getAttributes_protocol
    {object : PortalObject} (sized : Sized object) (memory : Memory) :
    (∀ entries, BuffersApart entries →
      let outcome := portalObjectGetAttributes object memory (.array entries)
      ∃ ended, outcome.entries = .array ended ∧
        ended.length = entries.length ∧
        (∀ (index : Nat) entry, entries[index]? = some entry →
          ∃ result, ended[index]? = some result ∧
            { result with valueLen := entry.valueLen } = entry ∧
            EntryEnds object memory outcome.memory entry result ∧
            EndsAlone object memory outcome.memory entry result ∧
            ∀ found, findAttribute object entry.type = some found →
              found.sensitive = true →
                result.valueLen = ckUnavailableInformation ∧
                  SameOn entry.buffer memory outcome.memory) ∧
        (outcome.rv = .ok ↔ ∀ entry ∈ entries, Succeeds object entry) ∧
        (∀ region : Region,
          (∀ entry ∈ entries, region.Apart entry.buffer) →
            SameOn region memory outcome.memory) ∧
        Objects.portalObjectGetAttributes object
            (.array (entries.map fun entry => entry.seen memory entry)) =
          (outcome.rv,
            .array
              (List.zipWith (Entry.seen outcome.memory) entries ended))) ∧
    ∀ entries answered fetches later,
      (∀ entry ∈ entries, entry.pointer = none) →
      let query := portalObjectGetAttributes object memory (.array entries)
      query.entries = .array answered → Fetches answered fetches →
      BuffersApart fetches →
      let fetch := portalObjectGetAttributes object later (.array fetches)
      ∃ ended, fetch.entries = .array ended ∧
        (query.rv = .ok → fetch.rv = .ok) ∧
        ∀ (index : Nat) entry data, fetches[index]? = some entry →
          readable object entry.type = some data →
          ∃ result, ended[index]? = some result ∧
            result.valueLen.toNat = data.length ∧
            ∀ pointer, entry.pointer = some pointer →
              bytes fetch.memory ⟨pointer, data.length⟩ = data := by
  constructor
  · intro entries apart
    rcases portalObjectGetAttributes_octets memory apart with
      ⟨ended, same, octets⟩
    cases same
    refine ⟨_, rfl, visitAll_length _ _, ?_, ?_, ?_, octets⟩
    · intro index entry stands
      rcases entry_protocol sized memory apart stands with
        ⟨result, ended, keeps, ends, alone⟩
      refine ⟨result, ended, keeps, ends, alone, ?_⟩
      intro found there sensitive
      cases ends with
      | answered data read fits size =>
          exact absurd ⟨data, read, fits⟩
            (not_succeeds_of_sensitive there sensitive)
      | unavailable fails marked untouched => exact ⟨marked, untouched⟩
    · refine (visitAll_rv_iff _ _).trans (and_iff_right rfl)
    · intro region outside
      exact visitAll_frame _ outside
  · intro entries answered fetches later query asked answer sizes apart
    cases answer
    refine ⟨_, rfl, fetch_rv sized memory later query sizes, ?_⟩
    intro index entry data stands read
    rcases entry_protocol sized later apart stands with
      ⟨result, ended, -, ends, -⟩
    refine ⟨result, ended, ?_⟩
    cases ends with
    | answered other readOther fits size written =>
        cases read.symm.trans readOther
        exact ⟨size, written⟩
    | unavailable fails marked untouched =>
        have fits := (fetch_fits sized memory query sizes stands).2 data read
        exact absurd ⟨data, read, fits⟩ fails

/-- A private key: its class may be read, its exponent may not. -/
def sampleKey : PortalObject where
  handle := 19
  objectClass := ckoPrivateKey
  attributes :=
    [ ⟨ckaClass, some (ulongOctets ckoPrivateKey), false⟩,
      ⟨ckaPrivateExponent, none, true⟩ ]

/-- The buffer for the class has four octets to spare. -/
theorem getAttributes_protocol_key :
    (∀ memory,
      let outcome := portalObjectGetAttributes sampleKey memory
        (.array
          [⟨ckaClass, some 8, 12⟩, ⟨ckaPrivateExponent, some 20, 4⟩])
      EntryEnds sampleKey memory outcome.memory
          ⟨ckaClass, some 8, 12⟩ ⟨ckaClass, some 8, 8⟩ ∧
        EntryEnds sampleKey memory outcome.memory
          ⟨ckaPrivateExponent, some 20, 4⟩
          ⟨ckaPrivateExponent, some 20, ckUnavailableInformation⟩) ∧
      (portalObjectGetAttributes sampleKey (fun _ => 1)
        (.array [⟨ckaClass, some 8, 8⟩])).rv = .ok := by
  have sized : Sized sampleKey := by decide
  constructor
  · intro memory
    have apart : BuffersApart
        [⟨ckaClass, some 8, 12⟩, ⟨ckaPrivateExponent, some 20, 4⟩] := by
      rw [BuffersApart, List.pairwise_pair]
      exact Region.apart_of_le (by decide)
    rcases (getAttributes_protocol sized memory).1 _ apart with
      ⟨ended, same, -, ends, -⟩
    cases same
    rcases ends 0 _ rfl with ⟨result, stands, -, first, -⟩
    have value : some result = some ⟨ckaClass, some 8, 8⟩ := stands.symm
    cases value
    rcases ends 1 _ rfl with ⟨result, stands, -, second, -⟩
    have marker : some result =
        some ⟨ckaPrivateExponent, some 20, ckUnavailableInformation⟩ :=
      stands.symm
    cases marker
    exact ⟨first, second⟩
  · have apart : BuffersApart [⟨ckaClass, some 8, 8⟩] :=
      List.pairwise_singleton _ _
    have asked : ∀ entry ∈ [Entry.mk ckaClass none 0],
        entry.pointer = none := by
      decide
    rcases (getAttributes_protocol sized fun _ => 0).2 _
        [⟨ckaClass, none, 8⟩] [⟨ckaClass, some 8, 8⟩] (fun _ => 1) asked
        (by rfl) rfl apart with
      ⟨ended, -, answered, -⟩
    exact answered (by rfl)

end PortalCertificate.Module.AttributeReads
