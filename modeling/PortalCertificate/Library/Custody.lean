import Mathlib.Logic.Function.Basic
import Mathlib.Tactic.SplitIfs

/-!
# Things in places

A place holds at most one thing.  Things are moved from place to place and
dropped, and new ones are put somewhere, but none is copied.  So a thing
that was new when it was put somewhere is never in two places.

The places may come in parts, such as the processes of a system, of which
one changes at a time.
-/

namespace PortalCertificate.Library.Custody

variable {Place Thing : Type*}

/-- What each place holds. -/
abbrev Holding (Place Thing : Type*) := Place → Option Thing

/-- Only known things are held, and each in one place. -/
structure Apart (known : Thing → Prop) (holding : Holding Place Thing) :
    Prop where
  known : ∀ place thing, holding place = some thing → known thing
  single : ∀ place other thing, holding place = some thing →
    holding other = some thing → place = other

/-! ## Moves -/

variable [DecidableEq Place]

/-- Things have been moved and dropped. -/
inductive Shift (before : Holding Place Thing) : Holding Place Thing → Prop
  where
  | refl : Shift before before
  | drop {after : Holding Place Thing} (place : Place)
      (shift : Shift before after) :
      Shift before (Function.update after place none)
  | move {after : Holding Place Thing} (source target : Place)
      (shift : Shift before after) :
      Shift before
        (Function.update (Function.update after source none) target
          (after source))

/-- Things have been moved and dropped, and the new one, if any, was put. -/
inductive Carries (new : Option Thing) (before : Holding Place Thing) :
    Holding Place Thing → Prop where
  | shift {after : Holding Place Thing} (shift : Shift before after) :
      Carries new before after
  | put {after : Holding Place Thing} {thing : Thing} (place : Place)
      (shift : Shift before after) (fresh : new = some thing) :
      Carries new before (Function.update after place (some thing))

variable
  {known : Thing → Prop} {before after : Holding Place Thing}
  {new : Option Thing}

theorem Apart.shift
    (apart : Apart known before) (shift : Shift before after) :
    Apart known after := by
  induction shift with
  | refl => exact apart
  | drop place _ ih =>
      constructor
      · intro other thing holds
        rw [Function.update_apply] at holds
        split_ifs at holds
        exact ih.known other thing holds
      · intro one two thing here there
        rw [Function.update_apply] at here there
        split_ifs at here there
        exact ih.single one two thing here there
  | move source target _ ih =>
      constructor
      · intro other thing holds
        simp only [Function.update_apply] at holds
        split_ifs at holds
        · exact ih.known source thing holds
        · exact ih.known other thing holds
      · intro one two thing here there
        simp only [Function.update_apply] at here there
        split_ifs at here there
        · rename_i first second
          exact first.trans second.symm
        · rename_i away
          exact absurd (ih.single source two thing here there).symm away
        · rename_i away _
          exact absurd (ih.single source one thing there here).symm away
        · exact ih.single one two thing here there

/-- A thing that was not known is in no other place. -/
theorem Apart.carries
    (apart : Apart known before) (carries : Carries new before after)
    (unknown : ∀ thing, new = some thing → ¬ known thing) :
    Apart (fun thing => new = some thing ∨ known thing) after := by
  cases carries with
  | shift shift =>
      have moved := apart.shift shift
      exact ⟨fun place thing holds => .inr (moved.known place thing holds),
        moved.single⟩
  | @put middle added place shift fresh =>
      have moved := apart.shift shift
      have elsewhere {other : Place} {thing : Thing}
          (here : some added = some thing)
          (there : middle other = some thing) : False := by
        cases here
        exact unknown _ fresh (moved.known other _ there)
      constructor
      · intro other thing holds
        rw [Function.update_apply] at holds
        split_ifs at holds
        · exact .inl (fresh.trans holds)
        · exact .inr (moved.known other thing holds)
      · intro one two thing here there
        rw [Function.update_apply] at here there
        split_ifs at here there with first second second
        · exact first.trans second.symm
        · exact (elsewhere here there).elim
        · exact (elsewhere there here).elim
        · exact moved.single one two thing here there

/-! ## Parts -/

variable {Part : Type*} [DecidableEq Part]

theorem uncurry_update
    (parts : Part → Holding Place Thing) (part : Part)
    (holding : Holding Place Thing) (place : Place) (held : Option Thing) :
    Function.uncurry
        (Function.update parts part (Function.update holding place held)) =
      Function.update
        (Function.uncurry (Function.update parts part holding))
        (part, place) held := by
  funext ⟨other, where'⟩
  by_cases here : other = part
  · subst here
    by_cases there : where' = place
    · simp [there]
    · simp [there]
  · simp [here]

/-- A shift within a part is one of the whole. -/
theorem Shift.part
    {parts : Part → Holding Place Thing} {part : Part}
    (shift : Shift (parts part) after) :
    Shift (Function.uncurry parts)
      (Function.uncurry (Function.update parts part after)) := by
  induction shift with
  | refl =>
      rw [Function.update_eq_self]
      exact .refl
  | drop place _ ih =>
      rw [uncurry_update]
      exact .drop (part, place) ih
  | @move middle source target _ ih =>
      rw [uncurry_update, uncurry_update]
      have moved := Shift.move (part, source) (part, target) ih
      simpa using moved

theorem Carries.part
    {parts : Part → Holding Place Thing} {part : Part}
    (carries : Carries new (parts part) after) :
    Carries new (Function.uncurry parts)
      (Function.uncurry (Function.update parts part after)) := by
  cases carries with
  | shift shift => exact .shift shift.part
  | put place shift fresh =>
      rw [uncurry_update]
      exact .put (part, place) shift.part fresh

end PortalCertificate.Library.Custody
