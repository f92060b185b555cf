import Mathlib.Data.List.Range

/-!
# Octets at addresses

A memory gives an octet for every address.  Copying a string of octets to an
address changes the addresses of that string and no others, so what lies in
a region apart from it is read back as before.
-/

namespace PortalCertificate.Library.Regions

/-- An octet at each address. -/
abbrev Memory : Type := Nat → UInt8

/-- A stretch of addresses. -/
structure Region where
  start : Nat
  length : Nat
  deriving DecidableEq, Repr

/-- The address lies in the region. -/
def Region.Holds (region : Region) (address : Nat) : Prop :=
  region.start ≤ address ∧ address < region.start + region.length

instance (region : Region) (address : Nat) :
    Decidable (region.Holds address) :=
  inferInstanceAs (Decidable (_ ∧ _))

/-- No address belongs to both. -/
def Region.Apart (first second : Region) : Prop :=
  ∀ address, first.Holds address → ¬ second.Holds address

theorem Region.Apart.symm
    {first second : Region} (apart : first.Apart second) :
    second.Apart first :=
  fun address inSecond inFirst => apart address inFirst inSecond

theorem Region.apart_of_le
    {first second : Region}
    (before : first.start + first.length ≤ second.start) :
    first.Apart second := by
  rintro address ⟨-, below⟩ ⟨above, -⟩
  omega

/-- The two memories agree on a region. -/
def SameOn (region : Region) (memory other : Memory) : Prop :=
  ∀ address, region.Holds address → other address = memory address

theorem SameOn.trans
    {region : Region} {first second third : Memory}
    (before : SameOn region first second)
    (after : SameOn region second third) : SameOn region first third :=
  fun address inside =>
    (after address inside).trans (before address inside)

theorem SameOn.refl (region : Region) (memory : Memory) :
    SameOn region memory memory :=
  fun _ _ => rfl

theorem SameOn.mono
    {region part : Region} {memory other : Memory}
    (same : SameOn region memory other)
    (within : ∀ address, part.Holds address → region.Holds address) :
    SameOn part memory other :=
  fun address inside => same address (within address inside)

/-- The octets of a region, in the order of their addresses. -/
def bytes (memory : Memory) (region : Region) : List UInt8 :=
  (List.range region.length).map fun index =>
    memory (region.start + index)

/-- `memcpy` to an address. -/
def copy (memory : Memory) (start : Nat) (octets : List UInt8) : Memory :=
  fun address =>
    if start ≤ address then
      octets.getD (address - start) (memory address)
    else
      memory address

theorem copy_outside
    {memory : Memory} {start address : Nat} {octets : List UInt8}
    (outside : ¬ Region.Holds ⟨start, octets.length⟩ address) :
    copy memory start octets address = memory address := by
  simp only [Region.Holds, not_and, not_lt] at outside
  unfold copy
  split_ifs with after
  · have beyond := outside after
    rw [List.getD, List.getElem?_eq_none (by omega), Option.getD_none]
  · rfl

theorem copy_inside
    {memory : Memory} {start index : Nat} {octets : List UInt8}
    (inside : index < octets.length) :
    copy memory start octets (start + index) = octets[index] := by
  have offset : start + index - start = index := by omega
  simp only [copy, Nat.le_add_right, if_true, offset]
  rw [List.getD, List.getElem?_eq_getElem inside, Option.getD_some]

/-- What was copied is read back. -/
theorem bytes_copy
    (memory : Memory) (start : Nat) (octets : List UInt8) :
    bytes (copy memory start octets) ⟨start, octets.length⟩ = octets := by
  apply List.ext_getElem
  · simp [bytes]
  · intro index _ inside
    simp only [bytes, List.getElem_map, List.getElem_range]
    exact copy_inside inside

/-- A string copied to the front of a region leaves the rest of it. -/
theorem bytes_copy_front
    (memory : Memory) (start : Nat) {octets : List UInt8} {length : Nat}
    (fits : octets.length ≤ length) :
    bytes (copy memory start octets) ⟨start, length⟩ =
      octets ++ (bytes memory ⟨start, length⟩).drop octets.length := by
  apply List.ext_getElem
  · simp [bytes, fits]
  · intro index _ _
    simp only [bytes, List.getElem_map, List.getElem_range]
    by_cases inside : index < octets.length
    · rw [copy_inside inside, List.getElem_append_left inside]
    · rw [List.getElem_append_right (not_lt.mp inside), copy_outside]
      · simp only [List.getElem_drop, List.getElem_map,
          List.getElem_range]
        congr 2
        omega
      · rintro ⟨-, below⟩
        dsimp only at below
        omega

theorem bytes_congr
    {memory other : Memory} {region : Region}
    (same : SameOn region memory other) :
    bytes other region = bytes memory region := by
  apply List.map_congr_left
  intro index member
  apply same
  have below := List.mem_range.mp member
  constructor <;> omega

theorem sameOn_copy
    {region : Region} {start : Nat} {octets : List UInt8}
    (memory : Memory) (apart : region.Apart ⟨start, octets.length⟩) :
    SameOn region memory (copy memory start octets) :=
  fun address inside => copy_outside (apart address inside)

/-- Copying the same string keeps an agreement. -/
theorem SameOn.copy
    {region : Region} {memory other : Memory}
    (same : SameOn region memory other)
    (start : Nat) (octets : List UInt8) :
    SameOn region (copy memory start octets) (copy other start octets) := by
  intro address inside
  simp only [Regions.copy, same address inside]

end PortalCertificate.Library.Regions
