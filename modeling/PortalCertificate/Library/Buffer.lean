import Mathlib.Data.List.Basic

/-!
# Checked access to a buffer

A program that walks a buffer by offsets and lengths is run here on slices.
A slice carries the bound that keeps it inside the buffer.  Every read and
every new slice is checked against the slice it is taken from, and so is
every subtraction of lengths.  What an unchecked program would do wrong ends
the run with a fault.

A checked program agrees with a pure function when it ends without a fault,
refuses what the function refuses, and otherwise returns a related result.
The rules for agreement follow the program.
-/

namespace PortalCertificate.Library.Buffer

/-- What an unchecked program could do wrong. -/
inductive Fault where
  | outside
  | underflow
  deriving DecidableEq, Repr

/-- A part of a buffer. -/
structure Slice {Item : Type} (buffer : List Item) where
  start : Nat
  length : Nat
  inside : start + length ≤ buffer.length

section Access

variable {Item : Type} {buffer : List Item}

/-- The slice that is all of its buffer. -/
def whole (buffer : List Item) : Slice buffer where
  start := 0
  length := buffer.length
  inside := by omega

/-- The items of a slice. -/
def Slice.contents (slice : Slice buffer) : List Item :=
  (buffer.drop slice.start).take slice.length

@[simp]
theorem whole_contents (buffer : List Item) :
    (whole buffer).contents = buffer := by
  simp [Slice.contents, whole]

@[simp]
theorem Slice.contents_length (slice : Slice buffer) :
    slice.contents.length = slice.length := by
  have inside := slice.inside
  simp only [Slice.contents, List.length_take, List.length_drop]
  omega

/-- The item at an index of the slice. -/
def Slice.read (slice : Slice buffer) (index : Nat) : Except Fault Item :=
  match slice.contents[index]? with
  | some item => .ok item
  | none => .error .outside

/-- The slice of a given length that starts at an offset of this one. -/
def Slice.part (slice : Slice buffer) (offset length : Nat) :
    Except Fault (Slice buffer) :=
  if bound : offset + length ≤ slice.length then
    .ok
      { start := slice.start + offset
        length := length
        inside := by
          have inside := slice.inside
          omega }
  else
    .error .outside

/-- A subtraction of unsigned numbers. -/
def minus (total amount : Nat) : Except Fault Nat :=
  if amount ≤ total then .ok (total - amount) else .error .underflow

theorem minus_eq {total amount : Nat} (bound : amount ≤ total) :
    minus total amount = .ok (total - amount) :=
  if_pos bound

theorem Slice.read_eq
    {slice : Slice buffer} {index : Nat} {item : Item}
    (stands : slice.contents[index]? = some item) :
    slice.read index = .ok item := by
  simp [Slice.read, stands]

theorem Slice.part_eq
    {slice : Slice buffer} {offset length : Nat}
    (bound : offset + length ≤ slice.length) :
    ∃ part, slice.part offset length = .ok part ∧
      part.length = length ∧
      part.contents = (slice.contents.drop offset).take length := by
  refine ⟨_, dif_pos bound, rfl, ?_⟩
  simp only [Slice.contents, List.drop_take, List.drop_drop,
    List.take_take]
  congr 1
  omega

/-- A loop that reads a stretch of a slice folds over that stretch. -/
theorem Slice.foldlM_read
    {State : Type} (slice : Slice buffer) (offset : Nat)
    (step : State → Item → State) (state : State)
    {count : Nat} (bound : offset + count ≤ slice.length) :
    (List.range count).foldlM
        (fun state index => do
          let item ← slice.read (offset + index)
          return step state item)
        state =
      .ok (((slice.contents.drop offset).take count).foldl step state) := by
  induction count with
  | zero => rfl
  | succ count earlier =>
      have stands : offset + count < slice.contents.length := by
        rw [contents_length]
        omega
      have read := read_eq (List.getElem?_eq_getElem stands)
      have next :
          (slice.contents.drop offset)[count]? =
            some slice.contents[offset + count] := by
        rw [List.getElem?_drop, List.getElem?_eq_getElem stands]
      rw [List.range_succ, List.foldlM_append, earlier (by omega),
        List.take_add_one, next, List.foldl_append]
      simp only [bind, Except.bind, List.foldlM_cons, List.foldlM_nil, read]
      rfl

end Access

/-! ## Agreement -/

/-- A program on slices; it may refuse its input. -/
abbrev Checked (Result : Type) : Type := OptionT (Except Fault) Result

/-- What a lookup gives, without any access to the buffer. -/
def found {Result : Type} (result : Option Result) : Checked Result :=
  OptionT.mk (.ok result)

/-- The program stays inside the buffer, and comes to the same as a function
of its contents. -/
def Agrees {Result Value : Type} (related : Result → Value → Prop)
    (program : Checked Result) (value : Option Value) : Prop :=
  ∃ result, program.run = .ok result ∧ Option.Rel related result value

section Agreement

variable
    {Result Value First Second : Type} {related : Result → Value → Prop}

theorem Agrees.refuse : Agrees related failure none :=
  ⟨none, rfl, .none⟩

theorem Agrees.done
    {result : Result} {value : Value} (same : related result value) :
    Agrees related (pure result) (some value) :=
  ⟨some result, rfl, .some same⟩

theorem Agrees.refused
    {first : Checked First} {program : First → Checked Result}
    (ended : first.run = .ok none) :
    Agrees related (first >>= program) none := by
  refine ⟨none, ?_, .none⟩
  change (first.run >>= _) = _
  rw [ended]
  rfl

theorem Agrees.next
    {first : Checked First} {program : First → Checked Result}
    {value : Option Value} {result : First}
    (ended : first.run = .ok (some result))
    (rest : Agrees related (program result) value) :
    Agrees related (first >>= program) value := by
  rcases rest with ⟨last, run, related⟩
  refine ⟨last, ?_, related⟩
  change (first.run >>= _) = _
  rw [ended, ← run]
  rfl

theorem Agrees.bind
    {between : First → Second → Prop} {first : Checked First}
    {second : Option Second} {program : First → Checked Result}
    {function : Second → Option Value}
    (agrees : Agrees between first second)
    (rest : ∀ result value, second = some value → between result value →
      Agrees related (program result) (function value)) :
    Agrees related (first >>= program) (second >>= function) := by
  rcases agrees with ⟨result, ended, same⟩
  cases same with
  | none => exact refused ended
  | some same => exact next ended (rest _ _ rfl same)

/-- A checked access that succeeds. -/
theorem Agrees.access
    {access : Except Fault First} {program : First → Checked Result}
    {value : Option Value} {first : First} (succeeds : access = .ok first)
    (rest : Agrees related (program first) value) :
    Agrees related (liftM access >>= program) value := by
  apply next _ rest
  rw [succeeds]
  rfl

theorem Agrees.found
    {program : First → Checked Result} {function : First → Option Value}
    (lookup : Option First)
    (rest : ∀ first, lookup = some first →
      Agrees related (program first) (function first)) :
    Agrees related (found lookup >>= program) (lookup >>= function) := by
  cases lookup with
  | none => exact refuse
  | some first => exact rest first rfl

section Guards

variable
    {stays holds : Prop} [Decidable stays] [Decidable holds]
    {program : Unit → Checked Result}

theorem Agrees.pass
    {value : Option Value} (kept : stays)
    (rest : Agrees related (program ()) value) :
    Agrees related (guard stays >>= program) value := by
  apply next _ rest
  rw [guard, if_pos kept]
  rfl

theorem Agrees.stop (refused : ¬ stays) :
    Agrees related (guard stays >>= program) none := by
  apply Agrees.refused
  rw [guard, if_neg refused]
  rfl

theorem Agrees.check
    {function : Unit → Option Value} (same : stays ↔ holds)
    (rest : stays → Agrees related (program ()) (function ())) :
    Agrees related (guard stays >>= program) (guard holds >>= function) := by
  by_cases kept : stays
  · have passed : guard holds >>= function = function () := by
      rw [guard, if_pos (same.mp kept)]
      rfl
    rw [passed]
    exact pass kept (rest kept)
  · have stopped : guard holds >>= function = none := by
      rw [guard, if_neg (mt same.mpr kept)]
      rfl
    rw [stopped]
    exact stop kept

theorem Agrees.asks (same : stays ↔ holds) :
    Agrees (fun _ _ => True) (guard stays : Checked Unit)
      (guard holds : Option Unit) := by
  by_cases kept : stays
  · simp only [guard, kept, same.mp kept, if_true]
    exact done trivial
  · simp only [guard, kept, mt same.mpr kept, if_false]
    exact refuse

end Guards

end Agreement

end PortalCertificate.Library.Buffer
