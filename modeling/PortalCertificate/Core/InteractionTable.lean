import Mathlib.Data.List.Find
import PortalCertificate.Core.Interactions

/-!
# The table of interactions

No two interactions have the same identifier or the same subject, and a new
identifier is larger than every one before it.  Under this invariant each
operation on the table is one equation.
-/

namespace PortalCertificate.Core.InteractionTable

open PortalCertificate.Core.Coordinator
open PortalCertificate.Core.Interactions
open PortalCertificate.Core.Secret

/-- Every interaction has a number and a subject of its own, and the numbers
have been given out. -/
structure Table (world : World) : Prop where
  ids : (world.interactions.map Interaction.id).Nodup
  subjects : (world.interactions.map Interaction.subject).Nodup
  bound : ∀ interaction ∈ world.interactions,
    interaction.id ≤ world.nextUiId

variable {world : World}

/-- An interaction is known by its number. -/
theorem Table.eq_of_id
    (table : Table world) {first second : Interaction}
    (here : first ∈ world.interactions)
    (there : second ∈ world.interactions)
    (same : first.id = second.id) : first = second :=
  List.inj_on_of_nodup_map table.ids here there same

theorem Table.eq_of_subject
    (table : Table world) {first second : Interaction}
    (here : first ∈ world.interactions)
    (there : second ∈ world.interactions)
    (same : first.subject = second.subject) : first = second :=
  List.inj_on_of_nodup_map table.subjects here there same

theorem mem_of_find
    {subject : Subject} {found : Interaction}
    (lookup : find? world subject = some found) :
    found ∈ world.interactions ∧ found.subject = subject :=
  ⟨List.mem_of_find?_eq_some lookup, by
    simpa using List.find?_some lookup⟩

theorem find_none
    {subject : Subject} (lookup : find? world subject = none)
    {other : Interaction} (member : other ∈ world.interactions) :
    other.subject ≠ subject := by
  simpa using List.find?_eq_none.mp lookup other member

theorem Table.find_eq
    (table : Table world) {found : Interaction}
    (member : found ∈ world.interactions) :
    find? world found.subject = some found := by
  cases lookup : find? world found.subject with
  | none => exact absurd rfl (find_none lookup member)
  | some other =>
      have here := mem_of_find lookup
      rw [table.eq_of_subject here.1 member here.2]

/-! ## Lookups after an operation -/

theorem find_congr
    {first second : World} (same : second.interactions = first.interactions)
    (subject : Subject) : find? second subject = find? first subject := by
  rw [find?, same, find?]

/-- The interaction of a subject is replaced. -/
theorem Table.find_setInteraction
    (table : Table world) {found changed : Interaction}
    (member : found ∈ world.interactions) (id : changed.id = found.id)
    (subject : changed.subject = found.subject) (other : Subject) :
    find? (setInteraction world changed) other =
      if other = changed.subject then some changed
      else find? world other := by
  have kept : ∀ entry ∈ world.interactions,
      (if entry.id = changed.id then changed else entry).subject =
        entry.subject := by
    intro entry inside
    split_ifs with same
    · have : entry = found :=
        table.eq_of_id inside member (same.trans id)
      rw [this, subject]
    · rfl
  have looked : find? (setInteraction world changed) other =
      (find? world other).map fun entry =>
        if entry.id = changed.id then changed else entry := by
    rw [find?, setInteraction, List.find?_map, find?]
    congr 1
    apply List.find?_congr
    intro entry inside
    simp [kept entry inside]
  rw [looked]
  split_ifs with same
  · rw [same, subject, table.find_eq member, Option.map_some, if_pos id.symm]
  · cases lookup : find? world other with
    | none => rfl
    | some entry =>
        have here := mem_of_find lookup
        rw [Option.map_some, if_neg]
        intro equal
        have : entry = found :=
          table.eq_of_id here.1 member (equal.trans id)
        exact same (by rw [← here.2, this, subject])

/-- An interaction may be rewritten under its number and its subject. -/
theorem Table.setInteraction
    (table : Table world) {found changed : Interaction}
    (member : found ∈ world.interactions) (id : changed.id = found.id)
    (subject : changed.subject = found.subject) :
    Table (Interactions.setInteraction world changed) := by
  have kept : ∀ entry ∈ world.interactions,
      (if entry.id = changed.id then changed else entry).subject =
          entry.subject ∧
        (if entry.id = changed.id then changed else entry).id =
          entry.id := by
    intro entry inside
    split_ifs with same
    · have : entry = found :=
        table.eq_of_id inside member (same.trans id)
      exact ⟨by rw [this, subject], same.symm⟩
    · exact ⟨rfl, rfl⟩
  constructor
  · rw [Interactions.setInteraction, List.map_map]
    have same := List.map_congr_left fun entry inside =>
      (kept entry inside).2
    exact same ▸ table.ids
  · rw [Interactions.setInteraction, List.map_map]
    have same := List.map_congr_left fun entry inside =>
      (kept entry inside).1
    exact same ▸ table.subjects
  · intro entry inside
    rcases List.mem_map.mp inside with ⟨before, earlier, rfl⟩
    rw [(kept before earlier).2]
    exact table.bound before earlier

/-- An interaction that is made for a message. -/
theorem Table.cons
    (table : Table world) {fresh : Interaction} {next : World}
    (id : fresh.id = world.nextUiId + 1)
    (none : find? world fresh.subject = none)
    (interactions : next.interactions = fresh :: world.interactions)
    (counter : next.nextUiId = world.nextUiId + 1) : Table next := by
  constructor
  · rw [interactions, List.map_cons, List.nodup_cons]
    refine ⟨fun member => ?_, table.ids⟩
    rcases List.mem_map.mp member with ⟨other, member, same⟩
    have := table.bound other member
    omega
  · rw [interactions, List.map_cons, List.nodup_cons]
    refine ⟨fun member => ?_, table.subjects⟩
    rcases List.mem_map.mp member with ⟨other, member, same⟩
    exact find_none none member same
  · rw [interactions, counter]
    intro other member
    rcases List.mem_cons.mp member with rfl | member
    · exact id.le
    · exact (table.bound other member).trans (Nat.le_succ _)

theorem find_cons
    {fresh : Interaction} {next : World}
    (interactions : next.interactions = fresh :: world.interactions)
    (other : Subject) :
    find? next other =
      if other = fresh.subject then some fresh else find? world other := by
  rw [find?, interactions, List.find?_cons, find?]
  by_cases same : fresh.subject = other
  · simp [same]
  · simp [same, Ne.symm same]

/-- An interaction that is removed. -/
theorem Table.find_filter
    (table : Table world) {found : Interaction} {next : World}
    (member : found ∈ world.interactions)
    (interactions : next.interactions =
      world.interactions.filter fun other => other.id ≠ found.id)
    (other : Subject) :
    find? next other =
      if other = found.subject then none else find? world other := by
  rw [find?, interactions, List.find?_filter, find?]
  split_ifs with same
  · rw [List.find?_eq_none]
    intro entry inside
    have : entry.subject = other → entry.id = found.id := by
      intro subject
      rw [table.eq_of_subject inside member (subject.trans same)]
    simpa using fun different subject => different (this subject)
  · apply List.find?_congr
    intro entry inside
    have : entry.subject = other → entry.id ≠ found.id := by
      intro subject equal
      rw [table.eq_of_id inside member equal] at subject
      exact same subject.symm
    by_cases subject : entry.subject = other
    · simp [subject, this subject]
    · simp [subject]

theorem Table.filter
    (table : Table world) {next : World} {keep : Interaction → Bool}
    (interactions : next.interactions = world.interactions.filter keep)
    (counter : next.nextUiId = world.nextUiId) : Table next := by
  constructor
  · rw [interactions]
    exact table.ids.sublist (List.filter_sublist.map _)
  · rw [interactions]
    exact table.subjects.sublist (List.filter_sublist.map _)
  · rw [interactions, counter]
    exact fun other member => table.bound other (List.mem_of_mem_filter member)

theorem Table.congr
    (table : Table world) {next : World}
    (interactions : next.interactions = world.interactions)
    (counter : next.nextUiId = world.nextUiId) : Table next := by
  rcases table with ⟨ids, subjects, bound⟩
  constructor
  · rwa [interactions]
  · rwa [interactions]
  · rwa [interactions, counter]

/-! ## References -/

@[simp]
theorem freeSecret_interactions
    (world : World) (secret : Option XccSecret) :
    (world.freeSecret secret).interactions = world.interactions := by
  cases secret <;> rfl

@[simp]
theorem freeSecret_nextUiId (world : World) (secret : Option XccSecret) :
    (world.freeSecret secret).nextUiId = world.nextUiId := by
  cases secret <;> rfl

@[simp]
theorem freeSecret_prompts (world : World) (secret : Option XccSecret) :
    (world.freeSecret secret).prompts = world.prompts := by
  cases secret <;> rfl

@[simp]
theorem promptFree_interactions (world : World) (id : Nat) :
    (promptFree world id).interactions = world.interactions := by
  rw [promptFree]
  split_ifs <;> exact freeSecret_interactions ..

@[simp]
theorem promptFree_nextUiId (world : World) (id : Nat) :
    (promptFree world id).nextUiId = world.nextUiId := by
  rw [promptFree]
  split_ifs <;> exact freeSecret_nextUiId ..

@[simp]
theorem promptUnref_interactions (world : World) (id : Nat) :
    (promptUnref world id).interactions = world.interactions := by
  rw [promptUnref]
  split_ifs
  · exact promptFree_interactions ..
  · rfl

@[simp]
theorem promptUnref_nextUiId (world : World) (id : Nat) :
    (promptUnref world id).nextUiId = world.nextUiId := by
  rw [promptUnref]
  split_ifs
  · exact promptFree_nextUiId ..
  · rfl

/-! ## Messages -/

theorem interaction_found
    {found : Interaction} {subject : Subject}
    (lookup : find? world subject = some found) :
    interaction world subject = (found, world) := by
  rw [interaction, lookup]

/-- The interaction that a message of its own makes. -/
def freshInteraction (world : World) (subject : Subject) : Interaction where
  id := world.nextUiId + 1
  subject := subject
  shown := false
  ready := false
  warningId := 0

/-- The coordinator with the new interaction in its table. -/
def enlarged (world : World) (subject : Subject) : World :=
  { world with
    nextUiId := world.nextUiId + 1
    interactions := freshInteraction world subject :: world.interactions }

theorem interaction_chooser
    {chooser : Nat} (lookup : find? world (.chooser chooser) = none) :
    interaction world (.chooser chooser) =
      (freshInteraction world (.chooser chooser),
        enlarged world (.chooser chooser)) := by
  rw [interaction, lookup]
  rfl

theorem interaction_pin
    {id : Nat} (lookup : find? world (.pin id) = none) :
    interaction world (.pin id) =
      (freshInteraction world (.pin id),
        promptRef (enlarged world (.pin id)) id) := by
  rw [interaction, lookup]
  rfl

/-- The interaction is there afterwards, and the others are as before. -/
structure Located
    (world : World) (about : Subject) (found : Interaction)
    (next : World) : Prop where
  table : Table next
  member : found ∈ next.interactions
  subject : found.subject = about
  find : ∀ other, find? next other =
    if other = about then some found else find? world other

theorem Table.interaction (table : Table world) (subject : Subject) :
    Located world subject (Interactions.interaction world subject).1
      (Interactions.interaction world subject).2 := by
  cases lookup : find? world subject with
  | some found =>
      have here := mem_of_find lookup
      rw [interaction_found lookup]
      refine ⟨table, here.1, here.2, fun other => ?_⟩
      split_ifs with same
      · rw [same, lookup]
      · rfl
  | none =>
      have looked (other : Subject) :
          find? (enlarged world subject) other =
            if other = (freshInteraction world subject).subject then
              some (freshInteraction world subject)
            else find? world other := find_cons rfl other
      have made : Located world subject (freshInteraction world subject)
          (enlarged world subject) :=
        ⟨table.cons rfl lookup rfl rfl, List.mem_cons_self .., rfl,
          looked⟩
      cases subject with
      | chooser chooser =>
          rw [interaction_chooser lookup]
          exact made
      | pin prompt =>
          rw [interaction_pin lookup]
          exact ⟨made.table.congr rfl rfl, made.member, rfl, made.find⟩

theorem Located.table_set
    {about : Subject} {found : Interaction} {next : World}
    (located : Located world about found next) (changed : Interaction)
    (id : changed.id = found.id)
    (subject : changed.subject = found.subject) :
    Table (setInteraction next changed) :=
  located.table.setInteraction located.member id subject

theorem Located.find_set
    {about : Subject} {found : Interaction} {next : World}
    (located : Located world about found next) (changed : Interaction)
    (id : changed.id = found.id)
    (subject : changed.subject = found.subject) (other : Subject) :
    find? (setInteraction next changed) other =
      if other = about then some changed else find? world other := by
  rw [located.table.find_setInteraction located.member id subject other,
    subject, located.subject]
  split_ifs with same
  · rfl
  · rw [located.find, if_neg same]

theorem Table.message
    (table : Table world) (subject : Subject) (call : UiCall) :
    Table (Interactions.message world subject call) := by
  have found := table.interaction subject
  have set := found.table_set
    { (Interactions.interaction world subject).1 with shown := true } rfl rfl
  exact set.congr rfl rfl

/-- A message shows the interaction of its subject, and no other. -/
theorem Table.find_message
    (table : Table world) (subject : Subject) (call : UiCall)
    (other : Subject) :
    find? (Interactions.message world subject call) other =
      if other = subject then
        some { (Interactions.interaction world subject).1 with shown := true }
      else find? world other := by
  have found := table.interaction subject
  have set := found.find_set
    { (Interactions.interaction world subject).1 with shown := true } rfl rfl
    other
  exact (find_congr rfl other).trans set

/-- The interaction of a warning has counted it. -/
def warned (world : World) (id : Nat) : Interaction :=
  let found := (interaction world (.pin id)).1
  { found with warningId := found.warningId + 1 }

theorem Table.warning
    (table : Table world) (id : Nat) (text : String) :
    Table (Interactions.warning world id text) := by
  have found := table.interaction (.pin id)
  have set := found.table_set (warned world id) rfl rfl
  exact set.congr rfl rfl

theorem Table.find_warning
    (table : Table world) (id : Nat) (text : String) (other : Subject) :
    find? (Interactions.warning world id text) other =
      if other = .pin id then some (warned world id)
      else find? world other := by
  have found := table.interaction (.pin id)
  have set := found.find_set (warned world id) rfl rfl other
  exact (find_congr rfl other).trans set

theorem hide_interactions (world : World) (id : Nat) :
    (hide world id).interactions = world.interactions ∧
      (hide world id).nextUiId = world.nextUiId := by
  rw [hide]
  split
  · exact ⟨rfl, rfl⟩
  · split_ifs <;> exact ⟨rfl, rfl⟩

/-- The table without an interaction, and with its last message posted. -/
def removed (world : World) (found : Interaction) : World :=
  let told := if found.shown then post world found.id .close else world
  { told with
    interactions :=
      told.interactions.filter fun other => other.id ≠ found.id }

theorem close_none
    {subject : Subject} (lookup : find? world subject = none) :
    close world subject = world := by
  rw [close, lookup]

theorem close_chooser
    {id : Nat} {found : Interaction}
    (lookup : find? world (.chooser id) = some found) :
    close world (.chooser id) = removed world found := by
  rw [close, lookup]
  rfl

theorem close_pin
    {id : Nat} {found : Interaction}
    (lookup : find? world (.pin id) = some found) :
    close world (.pin id) = promptUnref (removed world found) id := by
  rw [close, lookup]
  rfl

theorem removed_interactions (world : World) (found : Interaction) :
    (removed world found).interactions =
      world.interactions.filter fun other => other.id ≠ found.id := by
  rw [removed]
  split_ifs <;> rfl

theorem removed_nextUiId (world : World) (found : Interaction) :
    (removed world found).nextUiId = world.nextUiId := by
  rw [removed]
  split_ifs <;> rfl

theorem Table.removed (table : Table world) (found : Interaction) :
    Table (InteractionTable.removed world found) :=
  table.filter (removed_interactions world found)
    (removed_nextUiId world found)

theorem Table.close (table : Table world) (subject : Subject) :
    Table (Interactions.close world subject) := by
  cases lookup : find? world subject with
  | none => rwa [close_none lookup]
  | some found =>
      cases subject with
      | chooser id =>
          rw [close_chooser lookup]
          exact table.removed found
      | pin id =>
          rw [close_pin lookup]
          exact (table.removed found).congr (by simp) (by simp)

/-- Closing takes away the interaction of the subject, and no other. -/
theorem Table.find_close
    (table : Table world) (subject other : Subject) :
    find? (Interactions.close world subject) other =
      if other = subject then none else find? world other := by
  cases lookup : find? world subject with
  | none =>
      rw [close_none lookup]
      split_ifs with same
      · rw [same, lookup]
      · rfl
  | some found =>
      have here := mem_of_find lookup
      have looked := table.find_filter here.1
        (removed_interactions world found) other
      rw [here.2] at looked
      cases subject with
      | chooser id => rw [close_chooser lookup, looked]
      | pin id =>
          rw [close_pin lookup, ← looked]
          exact find_congr (by simp) other

end PortalCertificate.Core.InteractionTable
