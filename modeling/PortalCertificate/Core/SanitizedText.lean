import Mathlib.Data.List.Basic
import Mathlib.Data.List.Infix

/-!
# Untrusted text for display

`certificate_sanitize_untrusted_text`.  Text from outside is kept to one
line of a bounded length: what has no width is dropped, whitespace is one
space, runs of combining marks are short, and an ellipsis stands for what is
cut off.

The loop writes a space together with the character behind it and compares
the length afterwards.  So it is past the cap when the last place is for a
space, and it is at the cap before it has seen whether more text follows.
-/

namespace PortalCertificate.Core.SanitizedText

/-- The octets of a text. -/
abbrev Octets := List UInt8

/-! ## UTF-8 -/

/-- The values of `GUnicodeType` that are told apart. -/
inductive GUnicodeType where
  | control
  | format
  | nonSpacingMark
  | spacingMark
  | enclosingMark
  | lineSeparator
  | paragraphSeparator
  | spaceSeparator
  | other
  deriving DecidableEq, Repr

/-- What ends a text that has been cut. -/
def ellipsis : Char := Char.ofNat 0x2026

/-- `g_unichar_type`, with the types of the characters that are written. -/
structure UnicodeTable where
  type : Char → GUnicodeType
  space : type ' ' = .spaceSeparator
  ellipsis : type ellipsis = .other

section Table

variable (table : UnicodeTable)

/-- `g_unichar_iscntrl`. -/
def UnicodeTable.isCntrl (char : Char) : Bool :=
  table.type char = .control

/-- `g_unichar_isspace`. -/
def UnicodeTable.isSpace (char : Char) : Bool :=
  char = '\t' || char = '\n' || char = '\r' ||
    char = Char.ofNat 0x0c || table.type char = .spaceSeparator ||
    table.type char = .lineSeparator ||
    table.type char = .paragraphSeparator

/-- Controls and directional formatting. -/
def UnicodeTable.isRemoved (char : Char) : Bool :=
  table.isCntrl char || table.type char = .format ||
    table.type char = .lineSeparator ||
    table.type char = .paragraphSeparator

/-- The character combines with the one in front of it. -/
def UnicodeTable.isMark (char : Char) : Bool :=
  table.type char = .nonSpacingMark || table.type char = .spacingMark ||
    table.type char = .enclosingMark

/-! ## The loop -/

/-- `CERTIFICATE_SANITIZE_MAX_MARK_RUN`. -/
def maxMarkRun : Nat := 4

/-- The variables of the loop. -/
structure Loop where
  out : List Char
  pendingSpace : Bool
  count : Nat
  marks : Nat

/-- A character that is written, with or without a space before it. -/
structure Piece where
  spaced : Bool
  char : Char

/-- A character, with the space in front of it. -/
def Piece.chars (piece : Piece) : List Char :=
  if piece.spaced then [' ', piece.char] else [piece.char]

/-- The characters that pieces are written as. -/
def written (pieces : List Piece) : List Char :=
  pieces.flatMap Piece.chars

/-- What is written of a text, if it is not capped. -/
def pieces (started pending : Bool) (marks : Nat) :
    List Char → List Piece
  | [] => []
  | char :: rest =>
      if table.isRemoved char || table.isSpace char then
        pieces started started marks rest
      else if table.isMark char && maxMarkRun ≤ marks then
        pieces started pending marks rest
      else
        ⟨pending, char⟩ ::
          pieces true false (if table.isMark char then marks + 1 else 0)
            rest

/-- The pieces up to the first one with which the cap is reached. -/
def capped (maxChars count : Nat) : List Piece → List Char
  | [] => []
  | piece :: rest =>
      piece.chars ++
        if maxChars ≤ count + piece.chars.length then
          [ellipsis]
        else
          capped maxChars (count + piece.chars.length) rest

/-- A character that is written. -/
structure UnicodeTable.Visible (char : Char) : Prop where
  removed : table.isRemoved char = false
  space : table.isSpace char = false

/-- Pieces that may follow what was written, with a number of marks. -/
def Sound (started : Bool) (marks : Nat) : List Piece → Prop
  | [] => True
  | piece :: rest =>
      table.Visible piece.char ∧ (piece.spaced = true → started = true) ∧
        (table.isMark piece.char = true → marks < maxMarkRun) ∧
        Sound true (if table.isMark piece.char then marks + 1 else 0) rest

variable {table}

theorem isSpace_space : table.isSpace ' ' = true := by
  simp [UnicodeTable.isSpace, table.space]

variable (table)

/-- Nothing without a width, single spaces inside, and short runs of
combining marks. -/
structure Clean (out : List Char) : Prop where
  removed : ∀ char ∈ out, table.isRemoved char = false
  leading : out.head? ≠ some ' '
  trailing : out.getLast? ≠ some ' '
  single : ¬[' ', ' '] <:+: out
  marks : ∀ run, run <:+: out →
    (∀ char ∈ run, table.isMark char = true) → run.length ≤ maxMarkRun

variable {table}

theorem UnicodeTable.Visible.ne_space
    {char : Char} (visible : table.Visible char) : char ≠ ' ' := by
  rintro rfl
  have space := visible.space
  rw [isSpace_space] at space
  cases space

theorem isRemoved_space : table.isRemoved ' ' = false := by
  simp [UnicodeTable.isRemoved, UnicodeTable.isCntrl, table.space]

theorem isMark_space : table.isMark ' ' = false := by
  simp [UnicodeTable.isMark, table.space]

/-- Every piece that is kept can be seen. -/
theorem Sound.visible
    {started : Bool} {marks : Nat} {list : List Piece}
    (sound : Sound table started marks list) :
    ∀ piece ∈ list, table.Visible piece.char := by
  induction list generalizing started marks with
  | nil => nofun
  | cons piece rest step =>
      intro other member
      rcases List.mem_cons.mp member with rfl | later
      · exact sound.1
      · exact step sound.2.2.2 other later

theorem Piece.getLast_chars (piece : Piece) :
    piece.chars.getLast? = some piece.char := by
  rw [chars]
  cases piece.spaced with
  | false => rfl
  | true => rfl

/-- No character of the pieces is one that is removed. -/
theorem Sound.removed
    {started : Bool} {marks : Nat} {list : List Piece}
    (sound : Sound table started marks list) :
    ∀ char ∈ written list, table.isRemoved char = false := by
  induction list generalizing started marks with
  | nil => nofun
  | cons piece rest step =>
      rcases sound with ⟨visible, -, -, follows⟩
      intro char member
      rw [written, List.flatMap_cons, List.mem_append, Piece.chars]
        at member
      rcases member with here | there
      · cases spaced : piece.spaced with
        | false =>
            rw [spaced, if_neg Bool.false_ne_true, List.mem_singleton]
              at here
            rw [here]
            exact visible.removed
        | true =>
            rw [spaced, if_pos rfl] at here
            rcases List.mem_pair.mp here with rfl | rfl
            · exact isRemoved_space
            · exact visible.removed
      · exact step follows char there

/-- Two spaces are never written together. -/
theorem Sound.single
    {started : Bool} {marks : Nat} {list : List Piece}
    (sound : Sound table started marks list) :
    ¬[' ', ' '] <:+: written list := by
  induction list generalizing started marks with
  | nil =>
      intro twice
      cases List.eq_nil_of_infix_nil twice
  | cons piece rest step =>
      rcases sound with ⟨visible, -, -, follows⟩
      have later : ¬[' ', ' '] <:+: piece.char :: written rest := by
        rw [List.infix_cons_iff, List.cons_prefix_cons]
        rintro (⟨same, -⟩ | there)
        · exact visible.ne_space same.symm
        · exact step follows there
      rw [written, List.flatMap_cons, Piece.chars]
      cases piece.spaced with
      | false => exact later
      | true =>
          show ¬[' ', ' '] <:+: ' ' :: piece.char :: written rest
          rw [List.infix_cons_iff, List.cons_prefix_cons,
            List.cons_prefix_cons]
          rintro (⟨-, same, -⟩ | there)
          · exact visible.ne_space same.symm
          · exact later there

/-- A run of marks at the front adds to the marks before it, and no run is
too long. -/
theorem Sound.runs
    {started : Bool} {marks : Nat} {list : List Piece}
    (sound : Sound table started marks list) (few : marks ≤ maxMarkRun) :
    (∀ run, run <+: written list →
        (∀ char ∈ run, table.isMark char = true) →
          run.length + marks ≤ maxMarkRun) ∧
      ∀ run, run <:+: written list →
        (∀ char ∈ run, table.isMark char = true) →
          run.length ≤ maxMarkRun := by
  induction list generalizing started marks with
  | nil =>
      constructor
      · intro run front all
        rw [List.prefix_nil.mp front]
        simpa using few
      · intro run inside all
        rw [List.eq_nil_of_infix_nil inside]
        exact Nat.zero_le _
  | cons piece rest step =>
      rcases sound with ⟨visible, -, short, follows⟩
      have next : (if table.isMark piece.char then marks + 1 else 0) ≤
          maxMarkRun := by
        split
        next mark => exact short mark
        next => exact Nat.zero_le _
      rcases step follows next with ⟨fronts, insides⟩
      have front (run : List Char) (starts : run <+: piece.char :: written rest)
          (all : ∀ char ∈ run, table.isMark char = true) :
          run.length + marks ≤ maxMarkRun := by
        cases run with
        | nil => simpa using few
        | cons char run =>
            rw [List.cons_prefix_cons] at starts
            rcases starts with ⟨rfl, starts⟩
            have mark := all piece.char List.mem_cons_self
            have more := fronts run starts fun char member =>
              all char (List.mem_cons_of_mem _ member)
            rw [if_pos mark] at more
            rw [List.length_cons]
            omega
      have inside (run : List Char)
          (occurs : run <:+: piece.char :: written rest)
          (all : ∀ char ∈ run, table.isMark char = true) :
          run.length ≤ maxMarkRun := by
        rcases List.infix_cons_iff.mp occurs with starts | there
        · exact Nat.le_of_add_right_le (front run starts all)
        · exact insides run there all
      rw [written, List.flatMap_cons, Piece.chars]
      cases piece.spaced with
      | false => exact ⟨front, inside⟩
      | true =>
          have spaceless (run : List Char)
              (starts : run <+: ' ' :: piece.char :: written rest)
              (all : ∀ char ∈ run, table.isMark char = true) :
              run = [] := by
            cases run with
            | nil => rfl
            | cons char run =>
                rw [List.cons_prefix_cons] at starts
                have mark := all char List.mem_cons_self
                rw [starts.1, isMark_space] at mark
                cases mark
          constructor
          · intro run starts all
            rw [spaceless run starts all]
            simpa using few
          · intro run occurs all
            rcases List.infix_cons_iff.mp occurs with starts | there
            · rw [spaceless run starts all]
              exact Nat.zero_le _
            · exact inside run there all

/-- Sound pieces make a clean text. -/
theorem Sound.clean
    {list : List Piece} (sound : Sound table false 0 list) :
    Clean table (written list) where
  removed := sound.removed
  leading := by
    cases list with
    | nil => nofun
    | cons piece rest =>
        rcases sound with ⟨visible, begun, -, -⟩
        rw [written, List.flatMap_cons, Piece.chars]
        cases spaced : piece.spaced with
        | false =>
            intro same
            exact visible.ne_space (Option.some.inj same)
        | true => exact absurd (begun spaced) Bool.false_ne_true
  trailing := by
    rcases List.eq_nil_or_concat list with rfl | ⟨front, piece, rfl⟩
    · nofun
    · have visible := sound.visible piece (by simp)
      have last : (written (front.concat piece)).getLast? =
          some piece.char := by
        rw [List.concat_eq_append, written, List.flatMap_append,
          List.flatMap_singleton, List.getLast?_append, piece.getLast_chars]
        rfl
      rw [last]
      intro same
      exact visible.ne_space (Option.some.inj same)
  single := sound.single
  marks := (sound.runs (Nat.zero_le _)).2

/-! ## The cap -/

theorem length_written_cons (piece : Piece) (rest : List Piece) :
    (written (piece :: rest)).length =
      piece.chars.length + (written rest).length := by
  rw [written, List.flatMap_cons, List.length_append]
  rfl

/-- A number of characters is reached with some piece, or not at all. -/
theorem reaches
    {maxChars count : Nat} (below : count < maxChars) (list : List Piece) :
    count + (written list).length < maxChars ∨
      ∃ front piece back, list = front ++ piece :: back ∧
        count + (written front).length < maxChars ∧
        maxChars ≤ count + (written front).length +
          piece.chars.length := by
  induction list generalizing count with
  | nil => exact .inl below
  | cons first rest step =>
      by_cases here : maxChars ≤ count + first.chars.length
      · exact .inr ⟨[], first, rest, rfl, below, here⟩
      · rcases step (Nat.lt_of_not_le here) with
          short | ⟨front, piece, back, rfl, before, reached⟩
        · left
          rw [length_written_cons]
          omega
        · right
          refine ⟨first :: front, piece, back, rfl, ?_, ?_⟩
          · rw [length_written_cons]
            omega
          · rw [length_written_cons]
            omega

/-! ## What is promised -/

variable (table)

/-- At most a number of characters, and an ellipsis only if the text has
more of them. -/
def Within (flat : List Char) (maxChars : Nat) (out : List Char) : Prop :=
  ∃ shown, shown.length ≤ maxChars ∧
    (out = shown ∨
      out = shown ++ [ellipsis] ∧ shown <+: flat ∧ shown ≠ flat)

variable {table}

end Table

end PortalCertificate.Core.SanitizedText
