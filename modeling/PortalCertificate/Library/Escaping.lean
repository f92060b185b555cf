import Mathlib.Data.List.Infix

/-!
# Patterns in escaped text

A text is written item by item, each as itself or as a block, and further
blocks may follow.  A pattern that cannot enter a block from the left, and
cannot begin inside one, occurs in what was written only if it occurs in the
text.
-/

namespace PortalCertificate.Library.Escaping

section Blocks

variable {Item : Type}

/-- The first item of the block is not in the pattern, and the first item of
the pattern is not in the block. -/
structure Hides (pattern block : List Item) : Prop where
  opens : ∃ first rest, block = first :: rest ∧ first ∉ pattern
  headless : ∀ head ∈ pattern.head?, head ∉ block

/-- An item is written as itself, or as a block. -/
def Escapes (pattern : List Item) (escape : Item → List Item) : Prop :=
  ∀ item, escape item = [item] ∨ Hides pattern (escape item)

theorem Hides.prefix_eq_nil
    {pattern block part rest : List Item} (hides : Hides pattern block)
    (within : part ⊆ pattern) (starts : part <+: block ++ rest) :
    part = [] := by
  rcases hides.opens with ⟨first, others, rfl, apart⟩
  cases part with
  | nil => rfl
  | cons item part =>
      rw [List.cons_append, List.cons_prefix_cons] at starts
      rcases starts with ⟨rfl, -⟩
      exact absurd (within List.mem_cons_self) apart

/-- A pattern does not begin inside a block. -/
theorem infix_of_headless
    {pattern block rest : List Item} (some : pattern ≠ [])
    (headless : ∀ head ∈ pattern.head?, head ∉ block)
    (occurs : pattern <:+: block ++ rest) : pattern <:+: rest := by
  induction block with
  | nil => exact occurs
  | cons item block step =>
      have later : ∀ head ∈ pattern.head?, head ∉ block := by
        intro head first member
        exact headless head first (List.mem_cons_of_mem item member)
      rw [List.cons_append, List.infix_cons_iff] at occurs
      rcases occurs with here | there
      · cases pattern with
        | nil => exact absurd rfl some
        | cons head pattern =>
            rw [List.cons_prefix_cons] at here
            rcases here with ⟨rfl, -⟩
            exact absurd List.mem_cons_self (headless head rfl)
      · exact step later there

variable {pattern : List Item} {escape : Item → List Item}

/-- A part of the pattern at the front of what was written is at the front
of the text. -/
theorem Escapes.start_within
    (escapes : Escapes pattern escape) {blocks : List (List Item)}
    (hides : ∀ block ∈ blocks, Hides pattern block) {text part : List Item}
    (within : part ⊆ pattern)
    (starts : part <+: text.flatMap escape ++ blocks.flatten) :
    part <+: text := by
  induction text generalizing part with
  | nil =>
      cases blocks with
      | nil => exact starts
      | cons block blocks =>
          have hidden := hides block List.mem_cons_self
          rw [hidden.prefix_eq_nil within starts]
  | cons item text step =>
      rw [List.flatMap_cons, List.append_assoc] at starts
      rcases escapes item with itself | hidden
      · rw [itself] at starts
        cases part with
        | nil => exact List.nil_prefix
        | cons head part =>
            rw [List.singleton_append, List.cons_prefix_cons] at starts
            rw [List.cons_prefix_cons]
            constructor
            · exact starts.1
            · exact step (List.subset_of_cons_subset within) starts.2
      · rw [hidden.prefix_eq_nil within starts]
        exact List.nil_prefix

/-- A pattern that occurs in what was written occurs in the text. -/
theorem Escapes.part_within
    (escapes : Escapes pattern escape) (some : pattern ≠ [])
    {blocks : List (List Item)}
    (hides : ∀ block ∈ blocks, Hides pattern block) {text : List Item}
    (occurs : pattern <:+: text.flatMap escape ++ blocks.flatten) :
    pattern <:+: text := by
  induction text with
  | nil =>
      rw [List.flatMap_nil, List.nil_append,
        ← List.append_nil blocks.flatten] at occurs
      refine infix_of_headless some ?_ occurs
      intro head first member
      rcases List.mem_flatten.mp member with ⟨block, listed, member⟩
      exact (hides block listed).headless head first member
  | cons item text step =>
      rcases escapes item with itself | hidden
      · have start := occurs
        rw [List.flatMap_cons, itself, List.append_assoc,
          List.singleton_append, List.infix_cons_iff] at start
        rw [List.infix_cons_iff]
        rcases start with here | there
        · left
          apply escapes.start_within hides (List.Subset.refl pattern)
          rw [List.flatMap_cons, itself, List.append_assoc]
          exact here
        · exact .inr (step there)
      · rw [List.flatMap_cons, List.append_assoc] at occurs
        have later := infix_of_headless some hidden.headless occurs
        exact List.infix_cons_iff.mpr (.inr (step later))

end Blocks

end PortalCertificate.Library.Escaping
