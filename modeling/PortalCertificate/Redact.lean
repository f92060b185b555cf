import PortalCertificate.Library.Escaping
import Mathlib.Data.List.Basic

/-!
# Redaction of error texts

`redact.c`.  Texts of libraries go to the log, and a text may hold the URI of
an object or a PIN.  A text is cut at the first marker of either.  Control
characters of the rest are escaped and its length is capped.

A text is a string of C, so it has no octet of zero.
-/

namespace PortalCertificate.Redact

open PortalCertificate.Library.Escaping

/-- The octets of a C string, without the one that ends it. -/
abbrev Octets := List UInt8

/-- The octets of a literal. -/
def ascii (text : String) : Octets :=
  text.toList.map fun char => UInt8.ofNat char.toNat

/-! ## Fields of the log -/

/-- `CERTIFICATE_LOG_FIELD_MAX`. -/
def logFieldMax : Nat := 128

/-- A control character of ASCII. -/
def isControl (octet : UInt8) : Bool :=
  octet < 0x20 || octet == 0x7f

/-- The digits of an escape. -/
def hexDigits : Octets := ascii "0123456789abcdef"

/-- `%x` of a number below sixteen. -/
def hexDigit (value : UInt8) : UInt8 :=
  hexDigits.getD value.toNat 0x30

/-- A character of a field; `\x%02x` for a control character. -/
def escape (octet : UInt8) : Octets :=
  if isControl octet then
    [0x5c, 0x78, hexDigit (octet / 16), hexDigit (octet % 16)]
  else
    [octet]

/-- The loop of `field`, with the characters that were counted. -/
def fieldLoop (count : Nat) : Octets → Octets
  | [] => []
  | octet :: rest =>
      if logFieldMax ≤ count then
        ascii "..."
      else
        escape octet ++ fieldLoop (count + 1) rest

/-- The field as it is logged; a missing one is named so. -/
def field (text : Option Octets) : Octets :=
  match text with
  | none | some [] => ascii "(none)"
  | some text => fieldLoop 0 text

/-! ## Error texts -/

/-- `strstr`, as an offset. -/
def strstr (marker : Octets) : Octets → Option Nat
  | [] => if marker.isEmpty then some 0 else none
  | octet :: rest =>
      if marker.isPrefixOf (octet :: rest) then
        some 0
      else
        (strstr marker rest).map fun hit => hit + 1

/-- What begins a PIN or a URI that can hold one. -/
def markers : List Octets :=
  [ascii "pkcs11:", ascii "pin-value", ascii "pin-source"]

/-- A hit before the cut moves it. -/
def nearer (cut hit : Option Nat) : Option Nat :=
  match hit with
  | none => cut
  | some hit => if cut.all fun cut => hit < cut then some hit else cut

/-- Where the first of the markers is, if there is one. -/
def earliestMarker (text : Octets) : Option Nat :=
  markers.foldl (fun cut marker => nearer cut (strstr marker text)) none

/-- `certificate_redact_error_text`. -/
def certificateRedactErrorText (text : Option Octets) : Octets :=
  match text with
  | none => ascii "(no message)"
  | some text =>
      match earliestMarker text with
      | none => field (some text)
      | some cut =>
          if cut = 0 then
            ascii "(redacted)"
          else
            field (some (text.take cut)) ++ ascii "(redacted)"

/-! ## The first marker -/

/-- The first number of which something holds, if there is one. -/
def Least (holds : Nat → Prop) : Option Nat → Prop
  | none => ∀ number, ¬holds number
  | some first => holds first ∧ ∀ number < first, ¬holds number

theorem least_strstr (marker text : Octets) :
    Least (fun offset => marker <+: text.drop offset)
      (strstr marker text) := by
  induction text with
  | nil =>
      rw [strstr]
      cases marker with
      | nil => exact ⟨List.nil_prefix, fun _ below => nomatch below⟩
      | cons octet marker =>
          intro offset here
          rw [List.drop_nil, List.prefix_nil] at here
          cases here
  | cons octet rest step =>
      rw [strstr]
      by_cases here : marker.isPrefixOf (octet :: rest) = true
      · rw [if_pos here]
        exact ⟨List.isPrefixOf_iff_prefix.mp here, fun _ below =>
          nomatch below⟩
      · rw [if_neg here]
        have first : ¬marker <+: octet :: rest := fun start =>
          here (List.isPrefixOf_iff_prefix.mpr start)
        cases found : strstr marker rest with
        | none =>
            rw [found] at step
            intro offset
            cases offset with
            | zero => exact first
            | succ offset => exact step offset
        | some hit =>
            rw [found] at step
            refine ⟨step.1, ?_⟩
            intro offset below
            cases offset with
            | zero => exact first
            | succ offset =>
                exact step.2 offset (Nat.lt_of_succ_lt_succ below)

theorem least_nearer
    {here there : Nat → Prop} {cut hit : Option Nat}
    (leastHere : Least here cut) (leastThere : Least there hit) :
    Least (fun number => here number ∨ there number) (nearer cut hit) := by
  cases hit with
  | none =>
      cases cut with
      | none =>
          rintro number (holds | holds)
          · exact leastHere number holds
          · exact leastThere number holds
      | some cut =>
          refine ⟨.inl leastHere.1, ?_⟩
          rintro number below (holds | holds)
          · exact leastHere.2 number below holds
          · exact leastThere number holds
  | some hit =>
      cases cut with
      | none =>
          refine ⟨.inr leastThere.1, ?_⟩
          rintro number below (holds | holds)
          · exact leastHere number holds
          · exact leastThere.2 number below holds
      | some cut =>
          rw [nearer]
          by_cases before : hit < cut
          · rw [if_pos (by simpa using before)]
            refine ⟨.inr leastThere.1, ?_⟩
            rintro number below (holds | holds)
            · exact leastHere.2 number (Nat.lt_trans below before) holds
            · exact leastThere.2 number below holds
          · rw [if_neg (by simpa using before)]
            refine ⟨.inl leastHere.1, ?_⟩
            rintro number below (holds | holds)
            · exact leastHere.2 number below holds
            · exact leastThere.2 number (by omega) holds

theorem least_foldl
    (text : Octets) (searched : List Octets) {holds : Nat → Prop}
    {cut : Option Nat} (least : Least holds cut) :
    Least
      (fun offset => holds offset ∨
        ∃ marker ∈ searched, marker <+: text.drop offset)
      (searched.foldl
        (fun cut marker => nearer cut (strstr marker text)) cut) := by
  induction searched generalizing holds cut with
  | nil => simpa using least
  | cons marker searched step =>
      have next := step (least_nearer least (least_strstr marker text))
      simpa only [List.foldl_cons, List.exists_mem_cons_iff, or_assoc]
        using next

/-- Some marker begins at the offset. -/
def MarkedAt (text : Octets) (offset : Nat) : Prop :=
  ∃ marker ∈ markers, marker <+: text.drop offset

instance (text : Octets) : DecidablePred (MarkedAt text) :=
  fun offset => inferInstanceAs
    (Decidable (∃ marker ∈ markers, marker <+: text.drop offset))

theorem least_earliestMarker (text : Octets) :
    Least (MarkedAt text) (earliestMarker text) := by
  have unmarked : Least (fun _ => False) none := fun _ => not_false
  have least := least_foldl text markers unmarked
  simp only [false_or] at least
  exact least

/-- The cut of a text: its first marker begins there. -/
structure CutAt (text : Octets) (cut : Nat) : Prop where
  marked : MarkedAt text cut
  first : ∀ offset < cut, ¬MarkedAt text offset

theorem earliestMarker_eq_of_cutAt
    {text : Octets} {cut : Nat} (cutAt : CutAt text cut) :
    earliestMarker text = some cut := by
  have least := least_earliestMarker text
  cases found : earliestMarker text with
  | none =>
      rw [found] at least
      exact absurd cutAt.marked (least cut)
  | some hit =>
      rw [found] at least
      rcases Nat.lt_trichotomy hit cut with before | same | after
      · exact absurd least.1 (cutAt.first hit before)
      · rw [same]
      · exact absurd cutAt.marked (least.2 cut after)

theorem marker_ne_nil {marker : Octets} (listed : marker ∈ markers) :
    marker ≠ [] := by
  rintro rfl
  revert listed
  decide

/-- A marker is not empty, so the cut lies inside the text. -/
theorem CutAt.lt_length
    {text : Octets} {cut : Nat} (cutAt : CutAt text cut) :
    cut < text.length := by
  rcases cutAt.marked with ⟨marker, listed, here⟩
  by_contra outside
  rw [List.drop_eq_nil_of_le (Nat.le_of_not_lt outside),
    List.prefix_nil] at here
  exact marker_ne_nil listed here

/-- What is written for a text that is cut. -/
theorem redact_of_cutAt
    {text : Octets} {cut : Nat} (cutAt : CutAt text cut) :
    certificateRedactErrorText (some text) =
      if cut = 0 then ascii "(redacted)"
      else field (some (text.take cut)) ++ ascii "(redacted)" := by
  rw [certificateRedactErrorText, earliestMarker_eq_of_cutAt cutAt]

/-- Nothing at the first marker or behind it is seen in the output. -/
theorem redact_eq_of_take_eq
    {first second : Octets} {cut other : Nat}
    (cutAt : CutAt first cut) (otherCutAt : CutAt second other)
    (agree : first.take cut = second.take other) :
    certificateRedactErrorText (some first) =
      certificateRedactErrorText (some second) := by
  have same : cut = other := by
    have lengths := congrArg List.length agree
    rw [List.length_take, List.length_take,
      Nat.min_eq_left (Nat.le_of_lt cutAt.lt_length),
      Nat.min_eq_left (Nat.le_of_lt otherCutAt.lt_length)] at lengths
    exact lengths
  rw [redact_of_cutAt cutAt, redact_of_cutAt otherCutAt, agree, same]

/-! ## What a field is made of -/

theorem fieldLoop_eq
    (text : Octets) {count : Nat} (within : count ≤ logFieldMax) :
    fieldLoop count text =
      (text.take (logFieldMax - count)).flatMap escape ++
        if logFieldMax - count < text.length then ascii "..." else [] := by
  induction text generalizing count with
  | nil => simp [fieldLoop]
  | cons octet rest step =>
      rw [fieldLoop]
      by_cases capped : logFieldMax ≤ count
      · rw [if_pos capped, Nat.sub_eq_zero_of_le capped]
        simp
      · have more : logFieldMax - count = logFieldMax - (count + 1) + 1 := by
          omega
        rw [if_neg capped, step (Nat.lt_of_not_le capped), more,
          List.take_succ_cons, List.flatMap_cons, List.append_assoc,
          List.length_cons]
        simp only [Nat.succ_lt_succ_iff]

/-- The texts that may stand for what is not shown. -/
def substitutes : List Octets :=
  [ascii "(none)", ascii "...", ascii "(redacted)", ascii "(no message)"]

/-- Escaped characters, and some substitutes after them. -/
structure Written
    (output shown : Octets) (blocks : List Octets) : Prop where
  short : shown.length ≤ logFieldMax
  substitutes : ∀ block ∈ blocks, block ∈ substitutes
  few : blocks.length ≤ 2
  output_eq : output = shown.flatMap escape ++ blocks.flatten

/-- A substitute alone. -/
theorem written_substitute
    {block : Octets} (listed : block ∈ substitutes) :
    Written block [] [block] where
  short := Nat.zero_le _
  substitutes := by simpa using listed
  few := Nat.le_succ 1
  output_eq := by simp

theorem written_field (text : Octets) :
    ∃ shown blocks, shown <+: text ∧ blocks.length ≤ 1 ∧
      Written (field (some text)) shown blocks := by
  cases text with
  | nil =>
      exact ⟨[], [ascii "(none)"], List.nil_prefix, Nat.le_refl 1,
        written_substitute (by decide)⟩
  | cons octet rest =>
      have loop := fieldLoop_eq (octet :: rest) (Nat.zero_le logFieldMax)
      rw [Nat.sub_zero] at loop
      by_cases capped : logFieldMax < (octet :: rest).length
      · rw [if_pos capped] at loop
        refine ⟨_, [ascii "..."], List.take_prefix logFieldMax _,
          Nat.le_refl 1, ?_, ?_, Nat.le_succ 1, ?_⟩
        · exact List.length_take_le _ _
        · intro block member
          rw [List.mem_singleton.mp member]
          decide
        · rw [List.flatten_singleton]
          exact loop
      · rw [if_neg capped] at loop
        refine ⟨_, [], List.take_prefix logFieldMax _, Nat.zero_le 1, ?_,
          nofun, Nat.zero_le 2, loop⟩
        exact List.length_take_le _ _

/-- A substitute after a field. -/
theorem Written.append
    {output shown block : Octets} {blocks : List Octets}
    (written : Written output shown blocks) (room : blocks.length ≤ 1)
    (listed : block ∈ Redact.substitutes) :
    Written (output ++ block) shown (blocks ++ [block]) where
  short := written.short
  substitutes := by
    intro other member
    rcases List.mem_append.mp member with earlier | last
    · exact written.substitutes other earlier
    · rw [List.mem_singleton.mp last]
      exact listed
  few := by
    rw [List.length_append]
    exact Nat.succ_le_succ room
  output_eq := by
    rw [written.output_eq, List.flatten_append, List.flatten_singleton,
      List.append_assoc]

/-! ## Markers do not come back -/

/-- No marker is in the text. -/
def Unmarked (text : Octets) : Prop :=
  ∀ marker ∈ markers, ¬marker <:+: text

theorem Unmarked.of_start
    {shown text : Octets} (unmarked : Unmarked text)
    (shows : shown <+: text) : Unmarked shown := by
  intro marker listed occurs
  exact unmarked marker listed (occurs.trans shows.isInfix)

/-- Where a marker occurs in a text, it is at an offset of the text. -/
theorem markedAt_of_infix
    {text marker : Octets} (listed : marker ∈ markers) {cut : Nat}
    (occurs : marker <:+: text.take cut) :
    ∃ offset < cut, MarkedAt text offset := by
  rcases occurs with ⟨before, after, same⟩
  have split : text = before ++ (marker ++ after ++ text.drop cut) := by
    rw [← List.append_assoc, ← List.append_assoc, same,
      List.take_append_drop]
  have inside : before.length < cut := by
    have some := List.length_pos_of_ne_nil (marker_ne_nil listed)
    have lengths := congrArg List.length same
    have taken := List.length_take_le cut text
    simp only [List.length_append] at lengths
    omega
  refine ⟨before.length, inside, marker, listed, ?_⟩
  rw [split, List.drop_left, List.append_assoc]
  exact List.prefix_append marker _

theorem unmarked_of_none
    {text : Octets} (none : earliestMarker text = none) :
    Unmarked text := by
  intro marker listed occurs
  have least := least_earliestMarker text
  rw [none] at least
  have whole : text.take text.length = text := List.take_length
  rw [← whole] at occurs
  rcases markedAt_of_infix listed occurs with ⟨offset, -, marked⟩
  exact least offset marked

theorem unmarked_of_some
    {text : Octets} {cut : Nat} (found : earliestMarker text = some cut) :
    Unmarked (text.take cut) := by
  intro marker listed occurs
  have least := least_earliestMarker text
  rw [found] at least
  rcases markedAt_of_infix listed occurs with ⟨offset, before, marked⟩
  exact least.2 offset before marked

/-- What is shown of a text has no marker. -/
theorem written_redact (text : Option Octets) :
    ∃ shown blocks, Unmarked shown ∧
      Written (certificateRedactErrorText text) shown blocks := by
  have nothing : Unmarked [] := by
    intro marker listed occurs
    exact marker_ne_nil listed (List.eq_nil_of_infix_nil occurs)
  cases text with
  | none => exact ⟨[], _, nothing, written_substitute (by decide)⟩
  | some text =>
  rw [certificateRedactErrorText]
  cases found : earliestMarker text with
  | none =>
      rcases written_field text with ⟨shown, blocks, shows, -, written⟩
      exact ⟨shown, blocks, (unmarked_of_none found).of_start shows,
        written⟩
  | some cut =>
      dsimp only
      by_cases whole : cut = 0
      · rw [if_pos whole]
        exact ⟨[], _, nothing, written_substitute (by decide)⟩
      · rw [if_neg whole]
        rcases written_field (text.take cut) with
          ⟨shown, blocks, shows, few, written⟩
        exact ⟨shown, _, (unmarked_of_some found).of_start shows,
          written.append few (by decide)⟩

theorem hexDigit_mem (value : UInt8) : hexDigit value ∈ hexDigits := by
  rw [hexDigit, List.getD_eq_getElem?_getD]
  cases found : hexDigits[value.toNat]? with
  | none =>
      rw [Option.getD_none]
      decide
  | some digit => exact List.mem_of_getElem? found

theorem escapes_marker {marker : Octets} (listed : marker ∈ markers) :
    Escapes marker escape := by
  intro octet
  rw [escape]
  by_cases control : isControl octet = true
  · right
    rw [if_pos control]
    have digits : ∀ digit ∈ hexDigits, ∀ marker ∈ markers,
        ∀ head ∈ marker.head?, head ≠ digit := by
      have all : hexDigits.all (fun digit => markers.all fun marker =>
          marker.head?.all (· != digit)) = true := by decide
      simpa [Option.all_eq_true] using all
    have slash : ∀ marker ∈ markers, (0x5c : UInt8) ∉ marker := by decide
    have opening : ∀ marker ∈ markers, ∀ head ∈ marker.head?,
        head ∉ [(0x5c : UInt8), 0x78] := by
      have all : markers.all (fun marker => marker.head?.all fun head =>
          !([0x5c, 0x78].contains head)) = true := by decide
      simpa [Option.all_eq_true] using all
    refine ⟨⟨_, _, rfl, slash marker listed⟩, ?_⟩
    intro head first member
    rcases List.mem_append.mp
      (show head ∈ [0x5c, 0x78] ++ [hexDigit _, hexDigit _] from member)
      with early | late
    · exact opening marker listed head first early
    · rcases List.mem_pair.mp late with same | same
      · exact digits _ (hexDigit_mem _) marker listed head first same
      · exact digits _ (hexDigit_mem _) marker listed head first same
  · left
    rw [if_neg control]

theorem hides_substitute
    {marker block : Octets} (listed : marker ∈ markers)
    (substitute : block ∈ substitutes) : Hides marker block := by
  have opening : ∀ block ∈ substitutes, ∃ first ∈ block.head?,
      ∀ marker ∈ markers, first ∉ marker := by decide
  have heads : ∀ block ∈ substitutes, ∀ marker ∈ markers,
      ∀ head ∈ marker.head?, head ∉ block := by
    have all : substitutes.all (fun block => markers.all fun marker =>
        marker.head?.all fun head => !(block.contains head)) = true := by
      decide
    simpa [Option.all_eq_true] using all
  constructor
  · rcases opening block substitute with ⟨first, starts, apart⟩
    rcases List.head?_eq_some_iff.mp starts with ⟨rest, rfl⟩
    exact ⟨first, rest, rfl, apart marker listed⟩
  · exact heads block substitute marker listed

/-! ## What the log gets -/

/-- Nothing is marked in what is written, if nothing is in what is shown. -/
theorem Written.unmarked
    {output shown : Octets} {blocks : List Octets}
    (written : Written output shown blocks) (unmarked : Unmarked shown) :
    Unmarked output := by
  intro marker listed occurs
  rw [written.output_eq] at occurs
  apply unmarked marker listed
  apply (escapes_marker listed).part_within (marker_ne_nil listed) _
    occurs
  intro block member
  exact hides_substitute listed (written.substitutes block member)

theorem isControl_escape (octet : UInt8) :
    ∀ written ∈ escape octet, isControl written = false := by
  intro written member
  rw [escape] at member
  by_cases control : isControl octet = true
  · rw [if_pos control] at member
    have digits : ∀ digit ∈ hexDigits, isControl digit = false := by
      have all : hexDigits.all (fun digit => !(isControl digit)) = true := by
        decide
      simpa using all
    rcases List.mem_cons.mp member with rfl | member
    · decide
    rcases List.mem_cons.mp member with rfl | member
    · decide
    rcases List.mem_pair.mp member with rfl | rfl
    · exact digits _ (hexDigit_mem _)
    · exact digits _ (hexDigit_mem _)
  · rw [if_neg control] at member
    rw [List.mem_singleton.mp member]
    exact Bool.eq_false_iff.mpr control

theorem Written.printable
    {output shown : Octets} {blocks : List Octets}
    (written : Written output shown blocks) :
    ∀ octet ∈ output, isControl octet = false := by
  have plain : ∀ block ∈ Redact.substitutes, ∀ octet ∈ block,
      isControl octet = false := by
    have all : Redact.substitutes.all (fun block =>
        block.all fun octet => !(isControl octet)) = true := by decide
    simpa using all
  intro octet member
  rw [written.output_eq] at member
  rcases List.mem_append.mp member with escaped | follows
  · rcases List.mem_flatMap.mp escaped with ⟨source, -, escaped⟩
    exact isControl_escape source octet escaped
  · rcases List.mem_flatten.mp follows with ⟨block, listed, inside⟩
    exact plain block (written.substitutes block listed) octet inside

theorem length_escape_le (octet : UInt8) : (escape octet).length ≤ 4 := by
  rw [escape]
  split
  · exact Nat.le_refl 4
  · exact Nat.le_of_ble_eq_true rfl

theorem length_flatMap_escape_le (text : Octets) :
    (text.flatMap escape).length ≤ 4 * text.length := by
  induction text with
  | nil => exact Nat.zero_le _
  | cons octet rest step =>
      have here := length_escape_le octet
      rw [List.flatMap_cons, List.length_append, List.length_cons]
      omega

theorem length_flatten_substitutes
    {blocks : List Octets}
    (substitutes : ∀ block ∈ blocks, block ∈ Redact.substitutes) :
    blocks.flatten.length ≤ 12 * blocks.length := by
  have short : ∀ block ∈ Redact.substitutes, block.length ≤ 12 := by
    decide
  induction blocks with
  | nil => exact Nat.zero_le _
  | cons block blocks step =>
      have here := short block (substitutes block List.mem_cons_self)
      have rest := step fun other member =>
        substitutes other (List.mem_cons_of_mem block member)
      rw [List.flatten_cons, List.length_append, List.length_cons]
      omega

/-- What is written has 536 octets at most. -/
theorem Written.length_le
    {output shown : Octets} {blocks : List Octets}
    (written : Written output shown blocks) : output.length ≤ 536 := by
  have escaped := length_flatMap_escape_le shown
  have short := written.short
  have follows := length_flatten_substitutes written.substitutes
  have few := written.few
  rw [logFieldMax] at short
  rw [written.output_eq, List.length_append]
  omega

/-- Two texts that agree up to their first markers are redacted to the same
text; and no redacted text has a marker, a control character or more than
536 octets. -/
theorem redaction :
    (∀ first second cut other, CutAt first cut → CutAt second other →
        first.take cut = second.take other →
        certificateRedactErrorText (some first) =
          certificateRedactErrorText (some second)) ∧
      ∀ text,
        (∀ marker ∈ markers,
          ¬marker <:+: certificateRedactErrorText text) ∧
        (∀ octet ∈ certificateRedactErrorText text,
          isControl octet = false) ∧
        (certificateRedactErrorText text).length ≤ 536 := by
  constructor
  · intro first second cut other cutAt otherCutAt agree
    exact redact_eq_of_take_eq cutAt otherCutAt agree
  · intro text
    rcases written_redact text with ⟨shown, blocks, unmarked, written⟩
    exact ⟨written.unmarked unmarked, written.printable, written.length_le⟩

/-- An address with a PIN. -/
def openFailure : Octets :=
  ascii "Failed to open pkcs11:token=Foo;pin-value=1234"

/-- Another address, with another PIN. -/
def otherFailure : Octets :=
  ascii "Failed to open pkcs11:token=Barbican;pin-value=98765432"

/-- Neither the address nor the PIN is told. -/
theorem redaction_pin :
    certificateRedactErrorText (some openFailure) =
        certificateRedactErrorText (some otherFailure) ∧
      certificateRedactErrorText (some openFailure) =
        ascii "Failed to open (redacted)" := by
  have cut : CutAt openFailure 15 := ⟨by decide, by decide⟩
  have otherCut : CutAt otherFailure 15 := ⟨by decide, by decide⟩
  constructor
  · exact redaction.1 _ _ _ _ cut otherCut (by decide)
  · decide

end PortalCertificate.Redact
