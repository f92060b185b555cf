import Mathlib.Data.List.Range

/-!
# Buffers of a size that is told

A size is asked for first, memory of that size is allocated, and a second
call fills it and tells the size again.  What is read afterwards goes by the
second size.  The memory behind the allocated items holds something as well,
so a read is described by its result together with the indices it touches.
-/

namespace PortalCertificate.Library.SizedBuffer

/-- Memory of which some items are allocated. -/
structure Memory (Item : Type) where
  allocated : Nat
  item : Nat → Item

section Memory

variable {Item : Type}

/-- No index lies beyond the allocated items. -/
def Memory.InBounds (memory : Memory Item) (reads : List Nat) : Prop :=
  ∀ index ∈ reads, index < memory.allocated

/-- All of the items that are told. -/
def Memory.readAll (memory : Memory Item) (count : Nat) :
    List Item × List Nat :=
  ((List.range count).map memory.item, List.range count)

/-- The items from an index on, up to one that is looked for. -/
def Memory.readUntil
    (memory : Memory Item) (wanted : Item → Bool) (index : Nat) :
    Nat → Bool × List Nat
  | 0 => (false, [])
  | count + 1 =>
      if wanted (memory.item index) then
        (true, [index])
      else
        let rest := memory.readUntil wanted (index + 1) count
        (rest.1, index :: rest.2)

theorem Memory.inBounds_nil (memory : Memory Item) :
    memory.InBounds [] := by
  intro index member
  cases member

/-- Reading everything is in bounds just when all of it was allocated. -/
theorem Memory.inBounds_readAll_iff
    {memory : Memory Item} {count : Nat} :
    memory.InBounds (memory.readAll count).2 ↔
      count ≤ memory.allocated := by
  constructor
  · intro inBounds
    cases count with
    | zero => exact Nat.zero_le _
    | succ count =>
        exact inBounds count (List.mem_range.mpr (Nat.lt_succ_self count))
  · intro enough index member
    exact Nat.lt_of_lt_of_le (List.mem_range.mp member) enough

/-- A search is in bounds just when it ends in time. -/
theorem Memory.inBounds_readUntil_iff
    {memory : Memory Item} {wanted : Item → Bool} {index count : Nat} :
    memory.InBounds (memory.readUntil wanted index count).2 ↔
      count = 0 ∨ index + count ≤ memory.allocated ∨
        ∃ found, index ≤ found ∧ found < memory.allocated ∧
          wanted (memory.item found) = true := by
  induction count generalizing index with
  | zero => exact iff_of_true memory.inBounds_nil (.inl rfl)
  | succ count step =>
      rw [readUntil]
      by_cases here : wanted (memory.item index) = true
      · rw [if_pos here]
        constructor
        · intro inBounds
          have below := inBounds index (List.mem_singleton_self index)
          exact .inr (.inr ⟨index, Nat.le_refl index, below, here⟩)
        · intro enough read member
          rw [List.mem_singleton.mp member]
          rcases enough with none | enough | ⟨found, late, below, -⟩
          · cases none
          · omega
          · omega
      · rw [if_neg here]
        have split : memory.InBounds
            (index :: (memory.readUntil wanted (index + 1) count).2) ↔
              index < memory.allocated ∧ memory.InBounds
                (memory.readUntil wanted (index + 1) count).2 :=
          List.forall_mem_cons
        rw [split, step]
        constructor
        · rintro ⟨below, none | enough | ⟨found, late, found', wanted⟩⟩
          · right
            left
            omega
          · right
            left
            omega
          · exact .inr (.inr ⟨found, by omega, found', wanted⟩)
        · rintro (none | enough | ⟨found, late, below, wanted'⟩)
          · cases none
          · constructor
            · omega
            · right
              left
              omega
          · have apart : found ≠ index := by
              rintro rfl
              exact here wanted'
            constructor
            · omega
            · exact .inr (.inr ⟨found, by omega, below, wanted'⟩)

end Memory

end PortalCertificate.Library.SizedBuffer
