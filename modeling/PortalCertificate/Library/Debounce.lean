import Mathlib.Data.List.Basic

/-!
# Debouncing

A debouncer follows a bit that is observed again and again.  It believes a
new value once the value has been observed a number of times in a row, and
tells so once.  What it tells alternates, whatever the observations are.
-/

namespace PortalCertificate.Library.Debounce

/-- The level that is reported, and how many differing bits have come in a
row. -/
structure Debouncer where
  present : Bool
  stable : Nat
  deriving DecidableEq, Repr

/-- A debouncer that believes a value. -/
def Debouncer.start (present : Bool) : Debouncer := ⟨present, 0⟩

variable (threshold : Nat)

/-- One observation, and what the debouncer tells. -/
def Debouncer.observe (state : Debouncer) (bit : Bool) :
    Option Bool × Debouncer :=
  let stable := if bit = state.present then 0 else state.stable + 1
  if threshold ≤ stable then
    (some !state.present, .start !state.present)
  else
    (none, ⟨state.present, stable⟩)

/-- What is told at each observation. -/
def Debouncer.told (state : Debouncer) : List Bool → List (Option Bool)
  | [] => []
  | bit :: bits =>
      (state.observe threshold bit).1 ::
        (state.observe threshold bit).2.told bits

/-- The state after a number of bits. -/
def Debouncer.after (state : Debouncer) (bits : List Bool) : Debouncer :=
  bits.foldl (fun state bit => (state.observe threshold bit).2) state

variable {threshold}

/-! ## What is told -/

/-- The value changes with every entry, from a value before the first. -/
def Alternates : Bool → List Bool → Prop
  | _, [] => True
  | before, value :: values => value = !before ∧ Alternates value values

theorem Debouncer.observe_present (state : Debouncer) (bit : Bool) :
    (state.observe threshold bit).2.present =
      (state.observe threshold bit).1.getD state.present := by
  rw [observe]
  split_ifs <;> rfl

theorem Debouncer.observe_told
    {state : Debouncer} {bit value : Bool}
    (tells : (state.observe threshold bit).1 = some value) :
    value = !state.present := by
  rw [observe] at tells
  generalize (if bit = state.present then 0 else state.stable + 1) = stable
    at tells
  by_cases often : threshold ≤ stable
  · rw [if_pos often] at tells
    exact (Option.some.inj tells).symm
  · rw [if_neg often] at tells
    cases tells

/-- What a debouncer tells alternates, starting from what it believes. -/
theorem Debouncer.alternates (state : Debouncer) (bits : List Bool) :
    Alternates state.present ((state.told threshold bits).filterMap id) := by
  induction bits generalizing state with
  | nil => trivial
  | cons bit bits ih =>
      have rest := ih (state.observe threshold bit).2
      rw [state.observe_present bit] at rest
      rw [told, List.filterMap_cons]
      cases tells : (state.observe threshold bit).1 with
      | none =>
          rw [tells] at rest
          exact rest
      | some value =>
          rw [tells] at rest
          exact ⟨observe_told tells, rest⟩

end PortalCertificate.Library.Debounce
