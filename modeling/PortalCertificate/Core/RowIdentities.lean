import PortalCertificate.Core.Chooser
import PortalCertificate.Core.UiScreens
import PortalCertificate.Library.Transition

/-!
# Identities of chooser rows

`replace_candidates` looks every entry of a snapshot up among the rows of the
snapshot before it.  A number whose row is gone is never given out again, and
the number of a row that is found denotes the same candidate.  A row that has
been found once can be found again, so entries that are the same candidate
share its number.
-/

namespace PortalCertificate.Core.RowIdentities

open PortalCertificate.Core.Coordinator
open PortalCertificate.Core.Interactions
open PortalCertificate.Core.Chooser
open PortalCertificate.Core.InteractionTable
open PortalCertificate.Core.UiScreens
open PortalCertificate.Library.Transition
open PortalCertificate.Tokens.Discovery

theorem certificateCandidateSame_comm
    {first second : CertificateCandidate}
    (same : certificateCandidateSame first second = true) :
    certificateCandidateSame second first = true := by
  rw [certificateCandidateSame_iff] at same ⊢
  rcases same with ⟨token, digest, present, key⟩
  rw [certificateTokenSame_comm, ← key]
  exact ⟨token, digest.symm, present, rfl⟩

/-! ## Numbering a snapshot -/

section Numbering

variable {previous rows : List Choice} {next last : Nat}
  {candidate : CertificateCandidate} {candidates : List CertificateCandidate}

/-- The identities of rows. -/
def ids (rows : List Choice) : List Nat :=
  rows.map Choice.id

/-- The row that an entry takes its number from. -/
def lookupRow (previous : List Choice) (candidate : CertificateCandidate) :
    Option Choice :=
  previous.find? fun choice =>
    certificateCandidateSame choice.candidate candidate

theorem lookupRow_some {found : Choice}
    (lookup : lookupRow previous candidate = some found) :
    found ∈ previous ∧
      certificateCandidateSame found.candidate candidate = true := by
  rw [lookupRow] at lookup
  have matching := List.find?_some lookup
  exact ⟨List.mem_of_find?_eq_some lookup, matching⟩

theorem lookupRow_none
    (lookup : lookupRow previous candidate = none) {old : Choice}
    (member : old ∈ previous) :
    certificateCandidateSame old.candidate candidate = false :=
  Bool.eq_false_iff.mpr (List.find?_eq_none.mp lookup old member)

/-- Entries that match one row take their numbers from one row. -/
theorem lookupRow_congr {old : Choice} {first second : CertificateCandidate}
    (here : certificateCandidateSame old.candidate first = true)
    (there : certificateCandidateSame old.candidate second = true) :
    lookupRow previous first = lookupRow previous second := by
  have across : certificateCandidateSame first second = true :=
    certificateCandidateSame_trans (certificateCandidateSame_comm here) there
  have matching : (fun choice : Choice =>
        certificateCandidateSame choice.candidate first) =
      fun choice => certificateCandidateSame choice.candidate second := by
    funext choice
    rw [Bool.eq_iff_iff]
    constructor
    · intro same
      exact certificateCandidateSame_trans same across
    · intro same
      exact certificateCandidateSame_trans same
        (certificateCandidateSame_comm across)
  rw [lookupRow, matching, lookupRow]

theorem numberRows_kept {found : Choice}
    (lookup : lookupRow previous candidate = some found) :
    numberRows previous next (candidate :: candidates) =
      (⟨found.id, candidate⟩ :: (numberRows previous next candidates).1,
        (numberRows previous next candidates).2) := by
  rw [lookupRow] at lookup
  rw [numberRows, lookup]

theorem numberRows_fresh
    (lookup : lookupRow previous candidate = none) :
    numberRows previous next (candidate :: candidates) =
      (⟨next + 1, candidate⟩ ::
          (numberRows previous (next + 1) candidates).1,
        (numberRows previous (next + 1) candidates).2) := by
  rw [lookupRow] at lookup
  rw [numberRows, lookup]

/-- A row has the number of the row it is found by, or a new one. -/
def NumberedRow (previous : List Choice) (next last : Nat) (row : Choice) :
    Prop :=
  (∃ found, lookupRow previous row.candidate = some found ∧
    row.id = found.id) ∨
  lookupRow previous row.candidate = none ∧ next < row.id ∧ row.id ≤ last

/-- The rows of the candidates, numbered after the previous rows. -/
structure Numbered
    (previous : List Choice) (next : Nat)
    (candidates : List CertificateCandidate) (rows : List Choice)
    (last : Nat) : Prop where
  entries : rows.map Choice.candidate = candidates
  supply : next ≤ last
  row : ∀ row ∈ rows, NumberedRow previous next last row
  fresh : rows.Pairwise fun row other =>
    lookupRow previous row.candidate = none →
      lookupRow previous other.candidate = none → row.id < other.id

theorem Numbered.kept {found : Choice}
    (numbered : Numbered previous next candidates rows last)
    (lookup : lookupRow previous candidate = some found) :
    Numbered previous next (candidate :: candidates)
      (⟨found.id, candidate⟩ :: rows) last where
  entries := congrArg (candidate :: ·) numbered.entries
  supply := numbered.supply
  row := by
    intro row member
    rcases List.mem_cons.mp member with rfl | member
    · exact .inl ⟨found, lookup, rfl⟩
    · exact numbered.row row member
  fresh := by
    apply List.pairwise_cons.mpr
    constructor
    · intro other _ none _
      rw [lookup] at none
      cases none
    · exact numbered.fresh

theorem Numbered.new
    (numbered : Numbered previous (next + 1) candidates rows last)
    (lookup : lookupRow previous candidate = none) :
    Numbered previous next (candidate :: candidates)
      (⟨next + 1, candidate⟩ :: rows) last where
  entries := congrArg (candidate :: ·) numbered.entries
  supply := Nat.le_of_succ_le numbered.supply
  row := by
    intro row member
    rcases List.mem_cons.mp member with rfl | member
    · exact .inr ⟨lookup, Nat.lt_succ_self next, numbered.supply⟩
    · rcases numbered.row row member with kept | ⟨none, after, upTo⟩
      · exact .inl kept
      · exact .inr ⟨none, Nat.lt_of_succ_lt after, upTo⟩
  fresh := by
    apply List.pairwise_cons.mpr
    constructor
    · intro other member _ none
      rcases numbered.row other member with
        ⟨found, some, -⟩ | ⟨-, after, -⟩
      · rw [none] at some
        cases some
      · exact after
    · exact numbered.fresh

/-- The loop over the candidates numbers their rows. -/
theorem numbered_numberRows
    (previous : List Choice) (next : Nat)
    (candidates : List CertificateCandidate) :
    Numbered previous next candidates
      (numberRows previous next candidates).1
      (numberRows previous next candidates).2 := by
  induction candidates generalizing next with
  | nil =>
      have none (row : Choice) (member : row ∈ []) :
          NumberedRow previous next next row := by cases member
      exact ⟨rfl, Nat.le_refl next, none, .nil⟩
  | cons candidate rest ih =>
      cases lookup : lookupRow previous candidate with
      | some found =>
          rw [numberRows_kept lookup]
          exact (ih next).kept lookup
      | none =>
          rw [numberRows_fresh lookup]
          exact (ih (next + 1)).new lookup

end Numbering

/-! ## Snapshots -/

section Snapshots

variable {previous rows : List Choice} {next last : Nat}
  {candidates : List CertificateCandidate} {row : Choice}
  {snapshots : List (List Choice)}

/-- A number denotes one candidate; the last snapshot comes first. -/
def OneCandidate (snapshots : List (List Choice)) : Prop :=
  snapshots.flatten.Pairwise fun later earlier =>
    later.id = earlier.id →
      certificateCandidateSame later.candidate earlier.candidate = true

/-- A number that a snapshot lacks is in no later one if it was in an older. -/
def NeverReused (snapshots : List (List Choice)) : Prop :=
  ∀ newer middle older, snapshots = newer ++ middle :: older →
    ∀ again ∈ newer, ∀ gone ∈ older, ∀ id ∈ ids again,
      id ∈ ids gone → id ∈ ids middle

/--
An entry that the snapshot before had too has a number that it had there.
Only a candidate of a token with a serial is the same as any.
-/
def KeepsIds (snapshots : List (List Choice)) : Prop :=
  snapshots.IsChain fun second first =>
    ∀ old ∈ first, ∀ row ∈ second,
      certificateCandidateSame old.candidate row.candidate = true →
        ∃ kept ∈ first,
          certificateCandidateSame kept.candidate row.candidate = true ∧
            kept.id = row.id

/-- No two entries of a snapshot are the same as one of these. -/
def Unshared (previous rows : List Choice) : Prop :=
  rows.Pairwise fun row other => ∀ old ∈ previous,
    ¬ (certificateCandidateSame old.candidate row.candidate = true ∧
      certificateCandidateSame old.candidate other.candidate = true)

/-- No two entries of a snapshot are the same as one of the snapshot before. -/
def MatchedOnce (snapshots : List (List Choice)) : Prop :=
  snapshots.IsChain fun second first => Unshared first second

/-- All numbers have been given out. -/
theorem Numbered.bounds
    (numbered : Numbered previous next candidates rows last)
    (bounds : ∀ old ∈ previous, 0 < old.id ∧ old.id ≤ next)
    (member : row ∈ rows) : 0 < row.id ∧ row.id ≤ last := by
  rcases numbered.row row member with
    ⟨found, lookup, same⟩ | ⟨-, new, upTo⟩
  · have old := bounds found (lookupRow_some lookup).1
    rw [same]
    exact ⟨old.1, Nat.le_trans old.2 numbered.supply⟩
  · exact ⟨Nat.lt_of_le_of_lt (Nat.zero_le next) new, upTo⟩

/-- An old number is that of a row the entry was found by. -/
theorem Numbered.found
    (numbered : Numbered previous next candidates rows last)
    (member : row ∈ rows) (old : row.id ≤ next) :
    ∃ found ∈ previous,
      certificateCandidateSame found.candidate row.candidate = true ∧
        row.id = found.id := by
  rcases numbered.row row member with
    ⟨found, lookup, same⟩ | ⟨-, new, -⟩
  · have matching := lookupRow_some lookup
    exact ⟨found, matching.1, matching.2, same⟩
  · exact absurd new (Nat.not_lt.mpr old)

/-- An entry that some row matches has the number of the first. -/
theorem Numbered.id_of_same
    (numbered : Numbered previous next candidates rows last)
    (member : row ∈ rows) {old : Choice} (there : old ∈ previous)
    (same : certificateCandidateSame old.candidate row.candidate = true) :
    ∃ found, lookupRow previous row.candidate = some found ∧
      row.id = found.id := by
  rcases numbered.row row member with kept | ⟨none, -⟩
  · exact kept
  · rw [lookupRow_none none there] at same
    cases same

theorem Numbered.nodup_iff
    (numbered : Numbered previous next candidates rows last)
    (bounds : ∀ old ∈ previous, old.id ≤ next)
    (nodup : (ids previous).Nodup) :
    (ids rows).Nodup ↔ Unshared previous rows := by
  rw [ids, List.Nodup, List.pairwise_map, Unshared]
  constructor
  · intro distinct
    apply distinct.imp_of_mem
    rintro row other here there differ old member ⟨first, second⟩
    rcases numbered.id_of_same here member first with ⟨found, lookup, same⟩
    rcases numbered.id_of_same there member second with
      ⟨found', lookup', same'⟩
    have equal : some found = some found' := by
      rw [← lookup, ← lookup', lookupRow_congr first second]
    apply differ
    rw [same, same', Option.some.inj equal]
  · intro unshared
    apply (numbered.fresh.and unshared).imp_of_mem
    rintro row other here there ⟨fresh, unshared⟩ equal
    rcases numbered.row row here with
      ⟨found, lookup, same⟩ | ⟨none, new, -⟩
    · have matching := lookupRow_some lookup
      have old := bounds found matching.1
      rcases numbered.found there (by omega) with
        ⟨found', member, same', id⟩
      have one : found = found' :=
        List.inj_on_of_nodup_map nodup matching.1 member (by omega)
      exact unshared found matching.1 ⟨matching.2, one ▸ same'⟩
    · rcases numbered.row other there with
        ⟨found, lookup, same⟩ | ⟨none', -, -⟩
      · have old := bounds found (lookupRow_some lookup).1
        omega
      · exact absurd equal (Nat.ne_of_lt (fresh none none'))

/-- What holds of the snapshots of a chooser and its last number. -/
structure Identities (next : Nat) (snapshots : List (List Choice)) :
    Prop where
  bounds : ∀ snapshot ∈ snapshots, ∀ row ∈ snapshot,
    0 < row.id ∧ row.id ≤ next
  oneCandidate : OneCandidate snapshots
  neverReused : NeverReused snapshots
  keeps : KeepsIds snapshots
  distinct : (∀ snapshot ∈ snapshots, (ids snapshot).Nodup) ↔
    MatchedOnce snapshots

theorem Identities.empty : Identities 0 [] where
  bounds := by
    intro snapshot member
    cases member
  oneCandidate := .nil
  neverReused := by
    intro newer middle older split
    simp at split
  keeps := .nil
  distinct := by
    constructor
    · intro _
      exact .nil
    · intro _ snapshot member
      cases member

/-- The rows of the last snapshot are on record. -/
theorem mem_flatten_of_last
    (member : row ∈ snapshots.headD []) : row ∈ snapshots.flatten := by
  cases snapshots with
  | nil => cases member
  | cons last older => exact List.mem_append_left _ member

theorem Identities.bounds_flatten
    (before : Identities next snapshots)
    (member : row ∈ snapshots.flatten) : 0 < row.id ∧ row.id ≤ next := by
  rcases List.mem_flatten.mp member with ⟨snapshot, there, here⟩
  exact before.bounds snapshot there row here

/-- What is the same as a row is the same as all rows of its number. -/
theorem Identities.same_of_id
    (before : Identities next snapshots) {old other : Choice}
    {candidate : CertificateCandidate}
    (here : old ∈ snapshots.flatten) (there : other ∈ snapshots.flatten)
    (id : old.id = other.id)
    (same : certificateCandidateSame old.candidate candidate = true) :
    certificateCandidateSame other.candidate candidate = true := by
  by_cases equal : other = old
  · exact equal ▸ same
  · have symmetric : Std.Symm fun later earlier : Choice =>
        later.id = earlier.id →
          certificateCandidateSame later.candidate earlier.candidate =
            true := by
      constructor
      intro later earlier related equal
      exact certificateCandidateSame_comm (related equal.symm)
    have across := before.oneCandidate.forall there here equal
    exact certificateCandidateSame_trans (across id.symm) same

theorem Identities.oneCandidate_cons
    (before : Identities next snapshots)
    (numbered :
      Numbered (snapshots.headD []) next candidates rows last) :
    OneCandidate (rows :: snapshots) := by
  apply List.pairwise_append.mpr
  refine ⟨?_, before.oneCandidate, ?_⟩
  · apply numbered.fresh.imp_of_mem
    intro row other here there fresh equal
    have none_of_new {row : Choice} (new : next < row.id)
        (member : row ∈ rows) :
        lookupRow (snapshots.headD []) row.candidate = none := by
      rcases numbered.row row member with
        ⟨found, lookup, same⟩ | ⟨none, -⟩
      · have old := before.bounds_flatten
          (mem_flatten_of_last (lookupRow_some lookup).1)
        omega
      · exact none
    by_cases old : row.id ≤ next
    · rcases numbered.found here old with ⟨found, member, same, id⟩
      rcases numbered.found there (equal ▸ old) with
        ⟨found', member', same', id'⟩
      have first := before.same_of_id (mem_flatten_of_last member)
        (mem_flatten_of_last member') (by omega) same
      exact certificateCandidateSame_trans
        (certificateCandidateSame_comm first) same'
    · have less := fresh (none_of_new (by omega) here)
        (none_of_new (by omega) there)
      exact absurd equal (Nat.ne_of_lt less)
  · intro row here earlier there equal
    have old := before.bounds_flatten there
    rcases numbered.found here (by omega) with ⟨found, member, same, id⟩
    exact certificateCandidateSame_comm
      (before.same_of_id (mem_flatten_of_last member) there (by omega) same)

theorem Identities.neverReused_cons
    (before : Identities next snapshots)
    (numbered :
      Numbered (snapshots.headD []) next candidates rows last) :
    NeverReused (rows :: snapshots) := by
  intro newer middle older split again here gone there id member old
  cases newer with
  | nil => cases here
  | cons first newer =>
      rw [List.cons_append, List.cons.injEq] at split
      rcases split with ⟨rfl, split⟩
      have behind : gone ∈ snapshots := by
        rw [split]
        exact List.mem_append_right _ (List.mem_cons_of_mem _ there)
      rcases List.mem_cons.mp here with rfl | here
      · -- The newest rows: an old number is one of the last snapshot.
        have inLast : id ∈ ids (snapshots.headD []) := by
          rcases List.mem_map.mp member with ⟨row, here, rfl⟩
          rcases List.mem_map.mp old with ⟨other, there, same⟩
          have bound := before.bounds gone behind other there
          rcases numbered.found here (by omega) with ⟨found, there, -, same⟩
          exact List.mem_map.mpr ⟨found, there, same.symm⟩
        cases newer with
        | nil =>
            rw [split] at inLast
            exact inLast
        | cons last newer =>
            rw [split] at inLast
            exact before.neverReused (last :: newer) middle older split last
              (List.mem_cons_self ..) gone there id inLast old
      · exact before.neverReused newer middle older split again here gone
          there id member old

theorem Identities.keeps_cons
    (before : Identities next snapshots)
    (numbered :
      Numbered (snapshots.headD []) next candidates rows last) :
    KeepsIds (rows :: snapshots) := by
  cases snapshots with
  | nil => exact .singleton rows
  | cons first older =>
      apply List.isChain_cons_cons.mpr
      constructor
      · intro old there row here same
        rcases numbered.id_of_same here there same with ⟨found, lookup, id⟩
        have matching := lookupRow_some lookup
        exact ⟨found, matching.1, matching.2, id.symm⟩
      · exact before.keeps

theorem Identities.distinct_cons
    (before : Identities next snapshots)
    (numbered :
      Numbered (snapshots.headD []) next candidates rows last) :
    (∀ snapshot ∈ rows :: snapshots, (ids snapshot).Nodup) ↔
      MatchedOnce (rows :: snapshots) := by
  rw [List.forall_mem_cons]
  cases snapshots with
  | nil =>
      have nodup : (ids rows).Nodup := by
        apply (numbered.nodup_iff (by simp) .nil).mpr
        exact List.pairwise_of_forall (by simp)
      constructor
      · intro _
        exact .singleton rows
      · intro _
        exact ⟨nodup, by simp⟩
  | cons first older =>
      have bounds (old : Choice) (member : old ∈ first) : old.id ≤ next :=
        (before.bounds first (List.mem_cons_self ..) old member).2
      rw [MatchedOnce, List.isChain_cons_cons]
      constructor
      · rintro ⟨newest, rest⟩
        have last := rest first (List.mem_cons_self ..)
        exact ⟨(numbered.nodup_iff bounds last).mp newest,
          before.distinct.mp rest⟩
      · rintro ⟨unshared, rest⟩
        have rest := before.distinct.mpr rest
        have last := rest first (List.mem_cons_self ..)
        exact ⟨(numbered.nodup_iff bounds last).mpr unshared, rest⟩

/-- One more snapshot. -/
theorem Identities.snapshot
    (before : Identities next snapshots)
    (numbered :
      Numbered (snapshots.headD []) next candidates rows last) :
    Identities last (rows :: snapshots) where
  bounds := by
    intro snapshot member row here
    rcases List.mem_cons.mp member with rfl | member
    · apply numbered.bounds _ here
      intro old there
      exact before.bounds_flatten (mem_flatten_of_last there)
    · have bound := before.bounds snapshot member row here
      exact ⟨bound.1, Nat.le_trans bound.2 numbered.supply⟩
  oneCandidate := before.oneCandidate_cons numbered
  neverReused := before.neverReused_cons numbered
  keeps := before.keeps_cons numbered
  distinct := before.distinct_cons numbered

end Snapshots

/-! ## Published views -/

section Views

variable {world before after : World} {id : Nat} {view : XccChooserView}

/-- The view that a call shows in a chooser. -/
def UiCall.chooserView? : UiCall → Option XccChooserView
  | .chooserShow view | .chooserUpdate view => some view
  | _ => none

/-- The views sent to the provider by one call, the last one first. -/
def published (before after : World) : List XccChooserView :=
  (after.pending.drop before.pending.length).reverse.filterMap
    fun message => UiCall.chooserView? message.call

theorem published_same (same : after.pending = before.pending) :
    published before after = [] := by
  rw [published, same, List.drop_length]
  rfl

theorem published_append {sent : Message}
    (more : after.pending = before.pending ++ [sent]) :
    published before after = (UiCall.chooserView? sent.call).toList := by
  rw [published, more, List.drop_left, List.reverse_singleton]
  cases view : UiCall.chooserView? sent.call with
  | none => simp [view]
  | some view' => simp [view]

theorem interaction_pending (world : World) (subject : Subject) :
    (interaction world subject).2.pending = world.pending := by
  rw [interaction]
  cases find? world subject with
  | some found => rfl
  | none =>
      cases subject with
      | chooser chooser => rfl
      | pin prompt => rfl

theorem message_pending (world : World) (subject : Subject) (call : UiCall) :
    ∃ number, (message world subject call).pending =
      world.pending ++ [⟨number, call⟩] := by
  refine ⟨(interaction world subject).1.id, ?_⟩
  rw [← interaction_pending world subject]
  rfl

theorem removed_choosers (world : World) (found : Interaction) :
    (removed world found).choosers = world.choosers := by
  rw [removed]
  split_ifs <;> rfl

theorem close_choosers (world : World) (id : Nat) :
    (close world (.chooser id)).choosers = world.choosers := by
  cases lookup : find? world (.chooser id) with
  | none => rw [close_none lookup]
  | some found => rw [close_chooser lookup, removed_choosers]

theorem published_close (same : world.pending = before.pending) (id : Nat) :
    published before (close world (.chooser id)) = [] := by
  cases lookup : find? world (.chooser id) with
  | none =>
      rw [close_none lookup]
      exact published_same same
  | some found =>
      rw [close_chooser lookup, removed]
      split_ifs with shown
      · apply @published_append _ _ ⟨found.id, .close⟩
        rw [← same]
        rfl
      · exact published_same same

end Views

/-! ## The life of a chooser -/

/-- A chooser that has been shown; the last snapshot and view come first. -/
structure Showing where
  world : World
  chooser : Nat
  snapshots : List (List Choice)
  views : List XccChooserView

/-- What is done with one chooser, or in the coordinator without it. -/
inductive Action where
  | update (candidates : List CertificateCandidate) (tokensPresent : Bool)
  | setTokensReading (reading : Bool)
  | choose (revision candidate : Nat)
  | cancel
  | fail (error : XccErrorCode)
  | cancelled
  | cancelledIdle
  /-- Whatever is done in the coordinator without this chooser. -/
  | elsewhere (world : World)

/-- The chooser, as it is now. -/
def Showing.current (showing : Showing) : Chooser :=
  showing.world.choosers showing.chooser

/-- What a call about the chooser did. -/
def Showing.after (showing : Showing) (world : World) : Showing :=
  { showing with
    world, views := published showing.world world ++ showing.views }

/-- A snapshot was given to a chooser that is still there. -/
def Showing.snapshot (showing : Showing) (world : World) : Showing :=
  let told := showing.after world
  if showing.current.finished then
    told
  else
    { told with snapshots := told.current.choices :: told.snapshots }

/-- A chooser that has just been shown. -/
def shown (world : World) (cancellable : Option Nat)
    (candidates : List CertificateCandidate) (tokensPresent : Bool) :
    Showing :=
  let told := chooserShow world cancellable candidates tokensPresent
  { world := told
    chooser := world.nextChooser
    snapshots := [(told.choosers world.nextChooser).choices]
    views := published world told }

/-- One action. -/
def step (showing : Showing) : Action → Option Showing
  | .update candidates tokensPresent =>
      some (showing.snapshot
        (chooserUpdate showing.world showing.chooser candidates
          tokensPresent))
  | .setTokensReading reading =>
      some (showing.after
        (chooserSetTokensReading showing.world showing.chooser reading))
  | .choose revision candidate =>
      some (showing.after
        (chooserChoose showing.world showing.chooser revision candidate))
  | .cancel =>
      some (showing.after (chooserCancel showing.world showing.chooser))
  | .fail error =>
      some (showing.after (chooserFail showing.world showing.chooser error))
  | .cancelled =>
      some (showing.after
        (showing.world.setChooser showing.chooser
          (onCancelled showing.current)))
  | .cancelledIdle =>
      some (showing.after (onCancelledIdle showing.world showing.chooser))
  | .elsewhere world =>
      if world.choosers showing.chooser = showing.current then
        some { showing with world }
      else
        none

/-- One chooser, from its first view on. -/
def machine : System Showing Action where
  initial := fun showing =>
    ∃ world cancellable candidates tokensPresent,
      showing = shown world cancellable candidates tokensPresent
  step := step

/-! ## One call -/

section Calls

variable {world : World} {id : Nat} {before after : Showing}

/-- The rows and the revision of a chooser stay. -/
structure SameRows (before after : Chooser) : Prop where
  choices : after.choices = before.choices
  next : after.nextCandidateId = before.nextCandidateId
  revision : after.revision = before.revision

/-- All that a call can do to the rows and the views of a chooser. -/
inductive Effect (before after : Showing) : Prop where
  | quiet (rows : SameRows before.current after.current)
      (snapshots : after.snapshots = before.snapshots)
      (views : after.views = before.views)
  | reading (choices : after.current.choices = before.current.choices)
      (next : after.current.nextCandidateId = before.current.nextCandidateId)
      (revision : after.current.revision = before.current.revision + 1)
      (snapshots : after.snapshots = before.snapshots)
      (views : after.views = chooserView after.current :: before.views)
  | snapshot (candidates : List CertificateCandidate)
      (numbered : Numbered before.current.choices
        before.current.nextCandidateId candidates after.current.choices
        after.current.nextCandidateId)
      (revision : after.current.revision = before.current.revision + 1)
      (snapshots :
        after.snapshots = after.current.choices :: before.snapshots)
      (views : after.views = chooserView after.current :: before.views)

@[simp]
theorem setChooser_choosers (world : World) (id : Nat) (chooser : Chooser) :
    (world.setChooser id chooser).choosers id = chooser := by
  show Function.update world.choosers id chooser id = chooser
  rw [Function.update_self]

theorem Effect.same (before : Showing) : Effect before before :=
  .quiet ⟨rfl, rfl, rfl⟩ rfl rfl

theorem Effect.of_quiet
    (rows : SameRows before.current (world.choosers before.chooser))
    (mute : published before.world world = []) :
    Effect before (before.after world) := by
  have views : (before.after world).views = before.views := by
    rw [Showing.after, mute, List.nil_append]
  exact Effect.quiet rows rfl views

theorem after_same (before : Showing) :
    before.after before.world = before := by
  rw [Showing.after, published_same rfl, List.nil_append]

/-- A finished chooser keeps its rows and is only closed. -/
theorem Effect.of_finish (chooser : Chooser)
    (rows : SameRows before.current chooser)
    (chosen : Option CertificateCandidate) :
    Effect before (before.after
      (chooserFinish (before.world.setChooser before.chooser chooser)
        before.chooser chosen)) := by
  rw [chooserFinish, setChooser_choosers]
  dsimp only
  split_ifs with finished
  · apply Effect.of_quiet
    · rw [setChooser_choosers]
      exact rows
    · exact published_same rfl
  · apply Effect.of_quiet
    · show SameRows _ ((close _ (.chooser before.chooser)).choosers _)
      rw [close_choosers, setChooser_choosers]
      exact ⟨rows.choices, rows.next, rows.revision⟩
    · have silent := @published_close
        ((before.world.setChooser before.chooser chooser).setChooser
          before.chooser
          { chooser with
            finished := true, connected := false, cancelIdle := false })
        before.world rfl before.chooser
      exact silent

theorem setChooser_self (world : World) (id : Nat) :
    world.setChooser id (world.choosers id) = world := by
  show { world with
    choosers := Function.update world.choosers id (world.choosers id) } = _
  rw [Function.update_eq_self]

theorem Effect.of_finish_same
    (before : Showing) (chosen : Option CertificateCandidate) :
    Effect before
      (before.after (chooserFinish before.world before.chooser chosen)) := by
  have finish := Effect.of_finish before.current
    (⟨rfl, rfl, rfl⟩ : SameRows before.current _) chosen
  rwa [Showing.current, setChooser_self] at finish

theorem Effect.of_choose
    (before : Showing) (revision candidate : Nat) :
    Effect before (before.after
      (chooserChoose before.world before.chooser revision candidate)) := by
  rw [chooserChoose]
  have same : Effect before (before.after before.world) := by
    rw [after_same]
    exact .same before
  split
  · exact same
  · split_ifs
    · exact same
    · split
      · exact same
      · exact Effect.of_finish_same before _

theorem Effect.of_cancel (before : Showing) :
    Effect before
      (before.after (chooserCancel before.world before.chooser)) := by
  rw [chooserCancel]
  split
  · rw [after_same]
    exact .same before
  · exact Effect.of_finish_same before none

theorem lookup_some {chooser : Chooser}
    (lookup : Chooser.lookup world id = some chooser) :
    chooser = world.choosers id := by
  rw [Chooser.lookup] at lookup
  split at lookup
  · cases lookup
  · exact (Option.some.inj lookup).symm

theorem Effect.of_fail (before : Showing) (error : XccErrorCode) :
    Effect before
      (before.after (chooserFail before.world before.chooser error)) := by
  rw [chooserFail]
  split
  · rw [after_same]
    exact .same before
  · rename_i chooser lookup
    have rows : SameRows before.current { chooser with error } := by
      rw [lookup_some lookup]
      exact ⟨rfl, rfl, rfl⟩
    exact Effect.of_finish _ rows none

/-- The world with a changed chooser whose provider is told. -/
def updated (before : Showing) (chooser : Chooser) : World :=
  message (before.world.setChooser before.chooser chooser)
    (.chooser before.chooser) (.chooserUpdate (chooserView chooser))

theorem updated_current (before : Showing) (chooser : Chooser) :
    (before.after (updated before chooser)).current = chooser := by
  show (updated before chooser).choosers before.chooser = chooser
  rw [updated, (message_choosers ..).1, setChooser_choosers]

theorem updated_views (before : Showing) (chooser : Chooser) :
    (before.after (updated before chooser)).views =
      chooserView chooser :: before.views := by
  rcases message_pending (before.world.setChooser before.chooser chooser)
    (.chooser before.chooser) (.chooserUpdate (chooserView chooser)) with
    ⟨number, pending⟩
  have sent : published before.world (updated before chooser) =
      [chooserView chooser] :=
    @published_append before.world _
      ⟨number, .chooserUpdate (chooserView chooser)⟩ pending
  rw [Showing.after, sent, List.singleton_append]

theorem Effect.of_reading (before : Showing) (reading : Bool) :
    Effect before (before.after
      (chooserSetTokensReading before.world before.chooser reading)) := by
  rw [chooserSetTokensReading]
  dsimp only
  split_ifs
  · rw [after_same]
    exact .same before
  · let chooser : Chooser :=
      { before.current with
        tokensReading := reading, revision := before.current.revision + 1 }
    show Effect before (before.after (updated before chooser))
    have current := updated_current before chooser
    apply Effect.reading
    · rw [current]
    · rw [current]
    · rw [current]
    · rfl
    · rw [current, updated_views]

theorem numbered_replaceCandidates (chooser : Chooser)
    (candidates : List CertificateCandidate) (tokensPresent : Bool) :
    Numbered chooser.choices chooser.nextCandidateId candidates
      (replaceCandidates chooser candidates tokensPresent).choices
      (replaceCandidates chooser candidates tokensPresent).nextCandidateId :=
  numbered_numberRows ..

theorem Effect.of_update (before : Showing)
    (candidates : List CertificateCandidate) (tokensPresent : Bool) :
    Effect before (before.snapshot
      (chooserUpdate before.world before.chooser candidates
        tokensPresent)) := by
  rw [chooserUpdate, Showing.snapshot, Showing.current]
  dsimp only
  split_ifs
  · rw [after_same]
    exact .same before
  · let cleared : Chooser := { before.current with tokensReading := false }
    let chooser := replaceCandidates cleared candidates tokensPresent
    let told := before.after (updated before chooser)
    let after : Showing :=
      { told with snapshots := told.current.choices :: told.snapshots }
    show Effect before after
    have current : after.current = chooser := updated_current before chooser
    have numbered : Numbered cleared.choices cleared.nextCandidateId
        candidates chooser.choices chooser.nextCandidateId :=
      numbered_replaceCandidates cleared candidates tokensPresent
    rw [← current] at numbered
    have views : after.views = chooserView after.current :: before.views := by
      rw [current]
      exact updated_views before chooser
    exact Effect.snapshot candidates numbered
      (congrArg Chooser.revision current) rfl views

/-- Every step does one of the three. -/
theorem step_effect {action : Action}
    (moves : step before action = some after) : Effect before after := by
  cases action with
  | update candidates tokensPresent =>
      cases moves
      exact Effect.of_update before candidates tokensPresent
  | setTokensReading reading =>
      cases moves
      exact Effect.of_reading before reading
  | choose revision candidate =>
      cases moves
      exact Effect.of_choose before revision candidate
  | cancel =>
      cases moves
      exact Effect.of_cancel before
  | fail error =>
      cases moves
      exact Effect.of_fail before error
  | cancelled =>
      cases moves
      apply Effect.of_quiet
      · rw [setChooser_choosers]
        exact ⟨rfl, rfl, rfl⟩
      · exact published_same rfl
  | cancelledIdle =>
      cases moves
      let chooser : Chooser := { before.current with cancelIdle := false }
      have rows : SameRows before.current chooser := ⟨rfl, rfl, rfl⟩
      exact Effect.of_finish chooser rows none
  | elsewhere world =>
      rw [step] at moves
      split_ifs at moves with same
      have rows : SameRows before.current
          (world.choosers before.chooser) := by
        rw [same]
        exact ⟨rfl, rfl, rfl⟩
      cases moves
      exact @Effect.quiet before { before with world } rows rfl rfl

end Calls

/-! ## All views of a chooser -/

section Runs

variable {showing before after : Showing}

/-- What holds of a chooser, its snapshots and its views. -/
structure Consistent (showing : Showing) : Prop where
  identities :
    Identities showing.current.nextCandidateId showing.snapshots
  last : ∃ older, showing.snapshots = showing.current.choices :: older
  increasing : showing.views.Pairwise fun later earlier =>
    earlier.revision < later.revision
  revision : ∀ view ∈ showing.views,
    view.revision ≤ showing.current.revision
  rows : ∀ view ∈ showing.views, view.candidates ∈ showing.snapshots
  displayed : ∀ snapshot ∈ showing.snapshots,
    ∃ view ∈ showing.views, view.candidates = snapshot

theorem Consistent.quiet
    (consistent : Consistent before)
    (rows : SameRows before.current after.current)
    (snapshots : after.snapshots = before.snapshots)
    (views : after.views = before.views) : Consistent after where
  identities := by
    rw [rows.next, snapshots]
    exact consistent.identities
  last := by
    rw [rows.choices, snapshots]
    exact consistent.last
  increasing := by
    rw [views]
    exact consistent.increasing
  revision := by
    rw [rows.revision, views]
    exact consistent.revision
  rows := by
    rw [snapshots, views]
    exact consistent.rows
  displayed := by
    rw [snapshots, views]
    exact consistent.displayed

/-- A new view has a revision of its own. -/
theorem Consistent.revised
    (consistent : Consistent before)
    (revision : after.current.revision = before.current.revision + 1)
    (views : after.views = chooserView after.current :: before.views) :
    (after.views.Pairwise fun later earlier =>
        earlier.revision < later.revision) ∧
      ∀ view ∈ after.views, view.revision ≤ after.current.revision := by
  rw [views]
  constructor
  · apply List.pairwise_cons.mpr
    constructor
    · intro view member
      have bound := consistent.revision view member
      show view.revision < after.current.revision
      omega
    · exact consistent.increasing
  · intro view member
    rcases List.mem_cons.mp member with rfl | member
    · exact Nat.le_refl _
    · have bound := consistent.revision view member
      omega

/-- The same rows may be shown again under the next revision. -/
theorem Consistent.reading
    (consistent : Consistent before)
    (choices : after.current.choices = before.current.choices)
    (next : after.current.nextCandidateId = before.current.nextCandidateId)
    (revision : after.current.revision = before.current.revision + 1)
    (snapshots : after.snapshots = before.snapshots)
    (views : after.views = chooserView after.current :: before.views) :
    Consistent after where
  identities := by
    rw [next, snapshots]
    exact consistent.identities
  last := by
    rw [choices, snapshots]
    exact consistent.last
  increasing := (consistent.revised revision views).1
  revision := (consistent.revised revision views).2
  rows := by
    rw [snapshots, views]
    intro view member
    rcases List.mem_cons.mp member with rfl | member
    · rcases consistent.last with ⟨older, last⟩
      rw [last]
      exact List.mem_cons.mpr (.inl choices)
    · exact consistent.rows view member
  displayed := by
    rw [snapshots, views]
    intro snapshot member
    rcases consistent.displayed snapshot member with ⟨view, there, same⟩
    exact ⟨view, List.mem_cons_of_mem _ there, same⟩

/-- A new snapshot may be numbered after the previous rows. -/
theorem Consistent.snapshot {candidates : List CertificateCandidate}
    (consistent : Consistent before)
    (numbered : Numbered before.current.choices
      before.current.nextCandidateId candidates after.current.choices
      after.current.nextCandidateId)
    (revision : after.current.revision = before.current.revision + 1)
    (snapshots : after.snapshots = after.current.choices :: before.snapshots)
    (views : after.views = chooserView after.current :: before.views) :
    Consistent after where
  identities := by
    rw [snapshots]
    apply consistent.identities.snapshot
    rcases consistent.last with ⟨older, last⟩
    rw [last]
    exact numbered
  last := ⟨before.snapshots, snapshots⟩
  increasing := (consistent.revised revision views).1
  revision := (consistent.revised revision views).2
  rows := by
    rw [snapshots, views]
    intro view member
    rcases List.mem_cons.mp member with rfl | member
    · exact List.mem_cons_self ..
    · exact List.mem_cons_of_mem _ (consistent.rows view member)
  displayed := by
    rw [snapshots, views]
    intro rows member
    rcases List.mem_cons.mp member with rfl | member
    · exact ⟨_, List.mem_cons_self .., rfl⟩
    · rcases consistent.displayed rows member with ⟨view, there, same⟩
      exact ⟨view, List.mem_cons_of_mem _ there, same⟩

/-- Every call keeps a chooser consistent. -/
theorem Consistent.step
    (consistent : Consistent before) (effect : Effect before after) :
    Consistent after := by
  cases effect with
  | quiet rows snapshots views =>
      exact consistent.quiet rows snapshots views
  | reading choices next revision snapshots views =>
      exact consistent.reading choices next revision snapshots views
  | snapshot candidates numbered revision snapshots views =>
      exact consistent.snapshot numbered revision snapshots views

/-- The first view numbers the rows from one. -/
theorem consistent_shown
    (world : World) (cancellable : Option Nat)
    (candidates : List CertificateCandidate) (tokensPresent : Bool) :
    Consistent (shown world cancellable candidates tokensPresent) := by
  let fresh : Chooser :=
    { Chooser.absent with finished := false, cancellable }
  let numberedRows := replaceCandidates fresh candidates tokensPresent
  obtain ⟨chooser, rows, told⟩ :
      ∃ chooser, SameRows numberedRows chooser ∧
      chooserShow world cancellable candidates tokensPresent =
        message ({ world with nextChooser := world.nextChooser + 1 }.setChooser
          world.nextChooser chooser) (.chooser world.nextChooser)
          (.chooserShow (chooserView chooser)) := by
    by_cases cancelled : world.isCancelled cancellable = true
    · refine ⟨onCancelled numberedRows, ⟨rfl, rfl, rfl⟩, ?_⟩
      rw [chooserShow]
      dsimp only
      rw [if_pos cancelled]
    · refine ⟨{ numberedRows with connected := cancellable.isSome },
        ⟨rfl, rfl, rfl⟩, ?_⟩
      rw [chooserShow]
      dsimp only
      rw [if_neg cancelled]
  have current :
      (shown world cancellable candidates tokensPresent).current =
        chooser := by
    show (chooserShow ..).choosers world.nextChooser = chooser
    rw [told, (message_choosers ..).1, setChooser_choosers]
  have snapshots :
      (shown world cancellable candidates tokensPresent).snapshots =
        [chooser.choices] := by
    rw [← current]
    rfl
  have views :
      (shown world cancellable candidates tokensPresent).views =
        [chooserView chooser] := by
    show published world (chooserShow ..) = _
    rw [told]
    rcases message_pending
      ({ world with nextChooser := world.nextChooser + 1 }.setChooser
        world.nextChooser chooser) (.chooser world.nextChooser)
      (.chooserShow (chooserView chooser)) with ⟨number, pending⟩
    exact @published_append world _
      ⟨number, .chooserShow (chooserView chooser)⟩ pending
  have numbered : Numbered [] 0 candidates chooser.choices
      chooser.nextCandidateId := by
    rw [rows.choices, rows.next]
    exact numbered_replaceCandidates fresh candidates tokensPresent
  constructor
  · rw [snapshots, current]
    exact Identities.empty.snapshot numbered
  · exact ⟨[], by rw [snapshots, current]⟩
  · rw [views]
    exact List.pairwise_singleton ..
  · rw [views, current]
    intro view member
    rw [List.mem_singleton.mp member]
    exact Nat.le_refl _
  · rw [views, snapshots]
    intro view member
    rw [List.mem_singleton.mp member]
    exact List.mem_singleton_self _
  · rw [views, snapshots]
    intro snapshot member
    rw [List.mem_singleton.mp member]
    exact ⟨_, List.mem_singleton_self _, rfl⟩

/-- A chooser is consistent in every reachable state. -/
theorem consistent (reachable : machine.Reachable showing) :
    Consistent showing := by
  apply System.Reachable.invariant _ _ reachable
  · rintro _ ⟨world, cancellable, candidates, tokensPresent, rfl⟩
    exact consistent_shown world cancellable candidates tokensPresent
  · intro before action after _ holds moves
    exact holds.step (step_effect moves)

/-- The rows of every view have different numbers just when no snapshot had
two entries for the same row. -/
theorem Consistent.distinct_iff (consistent : Consistent showing) :
    (∀ view ∈ showing.views, (ids view.candidates).Nodup) ↔
      MatchedOnce showing.snapshots := by
  rw [← consistent.identities.distinct]
  constructor
  · intro distinct snapshot member
    rcases consistent.displayed snapshot member with ⟨view, there, rfl⟩
    exact distinct view there
  · intro distinct view member
    exact distinct _ (consistent.rows view member)

end Runs

/-! ## Two entries for one row -/

section Example

/-- A card that needs a login. -/
def exampleToken : CertificateToken where
  label := some "Card"
  manufacturer := some "Maker"
  model := some "Model"
  serial := some "1"
  readerName := none
  protectedAuthenticationPath := false
  loginRequired := true

/-- A certificate of the card, told from others by its `CKA_ID`. -/
def exampleCandidate (ckaId : List UInt8) : CertificateCandidate where
  token := exampleToken
  der := [48]
  ckaId := some ckaId
  certificateId := some "digest"
  issuerDer := none
  notBefore := 0
  notAfter := 0
  ekuOids := none
  keyUsage := none
  pivSlot := none
  keyType := "RSA"
  keySize := 2048
  keyCurve := none
  canSign := true
  canDecrypt := false
  supportedMechanisms := []

end Example

end PortalCertificate.Core.RowIdentities
