import Mathlib.Data.List.Basic
import PortalCertificate.Core.Coordinator
import PortalCertificate.Library.Transition

/-!
# Conversations with the user interface

What the messages to the UI are for, without the coordinator.  A screen has
the interactions that are open, the last identifier given to one, and all
messages so far.  `Talk` is what may happen to a screen, and each identifier
has one conversation: it is opened, talked in, closed, and never used again.
-/

namespace PortalCertificate.Core.Conversation

open PortalCertificate.Core.Coordinator
open PortalCertificate.Library.Transition

/-! ## One conversation -/

/-- Where the messages about one interaction have come to. -/
inductive Stage where
  | silent
  | choosing
  | entering
  | closed
  deriving DecidableEq

namespace Stage

/-- The stage after one more call, if the call may come there. -/
def next : Stage → UiCall → Option Stage
  | silent, .chooserShow _ => some choosing
  | silent, .pinShow _ => some entering
  | choosing, .chooserUpdate _ => some choosing
  | entering, .pinUpdate _ | entering, .warning _ _ | entering, .hide =>
      some entering
  | choosing, .close | entering, .close => some closed
  | _, _ => none

end Stage

/-- The stage that calls lead to, if they are in order. -/
def stage (calls : List UiCall) : Option Stage :=
  calls.foldlM Stage.next .silent

/-- The messages have come to some stage. -/
def Orderly (calls : List UiCall) : Prop := (stage calls).isSome = true

theorem stage_append (first second : List UiCall) :
    stage (first ++ second) =
      (stage first).bind fun stage => second.foldlM Stage.next stage :=
  List.foldlM_append ..

theorem stage_concat
    {calls : List UiCall} {here : Stage} (come : stage calls = some here)
    (call : UiCall) : stage (calls ++ [call]) = here.next call := by
  rw [stage_append, come, Option.bind_some, List.foldlM_cons]
  cases here.next call <;> rfl

/-- What has been said so far is in order as well. -/
theorem Orderly.earlier
    {first second : List UiCall} (orderly : Orderly (first ++ second)) :
    Orderly first := by
  rw [Orderly, stage_append] at orderly
  cases come : stage first with
  | none =>
      rw [come] at orderly
      cases orderly
  | some here =>
      rw [Orderly, come]
      rfl

theorem stage_last
    {calls : List UiCall} {call : UiCall} {here : Stage}
    (come : stage (calls ++ [call]) = some here) :
    ∃ before, stage calls = some before ∧ before.next call = some here := by
  rw [stage_append] at come
  rcases Option.bind_eq_some_iff.mp come with ⟨before, there, last⟩
  refine ⟨before, there, ?_⟩
  rw [← stage_concat there call, stage_append, there]
  exact last

/-- A conversation is closed once its close has been said. -/
theorem stage_of_closed
    {calls : List UiCall} {here : Stage} (come : stage calls = some here)
    (member : .close ∈ calls) : here = .closed := by
  induction calls using List.reverseRecOn generalizing here with
  | nil => cases member
  | append_singleton calls call ih =>
      rcases stage_last come with ⟨before, there, step⟩
      rcases List.mem_append.mp member with member | member
      · rw [ih there member] at step
        cases call <;> cases step
      · rw [← List.mem_singleton.mp member] at step
        cases before <;> cases step
        all_goals rfl

/-! ## The screen -/

/-- The calls for one interaction, in their order. -/
def said (id : Nat) (messages : List Message) : List UiCall :=
  (messages.filter fun message => message.id = id).map Message.call

theorem said_append (id : Nat) (first second : List Message) :
    said id (first ++ second) = said id first ++ said id second := by
  rw [said, List.filter_append, List.map_append]
  rfl

theorem said_self (id : Nat) (call : UiCall) :
    said id [⟨id, call⟩] = [call] := by
  rw [said, List.filter_singleton, decide_eq_true rfl]
  rfl

theorem said_other
    {id other : Nat} (different : other ≠ id) (call : UiCall) :
    said other [⟨id, call⟩] = [] := by
  rw [said, List.filter_singleton, decide_eq_false different.symm]
  rfl

/-- The interactions, the number of the last one, and what has been posted. -/
structure Screen where
  entries : List (Nat × Subject)
  counter : Nat
  messages : List Message

/-- The stage of a conversation about this subject. -/
def openStage : Subject → Stage
  | .chooser _ => .choosing
  | .pin _ => .entering

/-- The call that an interaction begins with. -/
def opens : Subject → UiCall → Bool
  | .chooser _, .chooserShow _ | .pin _, .pinShow _ => true
  | _, _ => false

/-- The calls that come between the beginning and the end of an interaction. -/
def tells : Subject → UiCall → Bool
  | .chooser _, .chooserUpdate _ | .pin _, .pinUpdate _
  | .pin _, .warning _ _ | .pin _, .hide => true
  | _, _ => false

theorem next_opens
    {subject : Subject} {call : UiCall} (opening : opens subject call = true) :
    Stage.next .silent call = some (openStage subject) := by
  cases subject <;> cases call <;> first | rfl | cases opening

theorem next_tells
    {subject : Subject} {call : UiCall} (telling : tells subject call = true) :
    (openStage subject).next call = some (openStage subject) := by
  cases subject <;> cases call <;> first | rfl | cases telling

theorem next_close (subject : Subject) :
    (openStage subject).next .close = some .closed := by
  cases subject <;> rfl

/-! ## The shape of conversations -/

/-- Show, then any number of updates, warnings and hides. -/
def Talking (subject : Subject) (calls : List UiCall) : Prop :=
  ∃ first talk, opens subject first = true ∧
    (∀ call ∈ talk, tells subject call = true) ∧ calls = first :: talk

/-- Nothing, or what is said about one subject, and then perhaps a close. -/
def Conversed (calls : List UiCall) : Prop :=
  calls = [] ∨ ∃ subject talk, Talking subject talk ∧
    (calls = talk ∨ calls = talk ++ [.close])

/-- The calls of an interaction at this stage. -/
def Shaped (calls : List UiCall) : Stage → Prop
  | .silent => calls = []
  | .choosing => ∃ chooser, Talking (.chooser chooser) calls
  | .entering => ∃ prompt, Talking (.pin prompt) calls
  | .closed => ∃ subject talk, Talking subject talk ∧
      calls = talk ++ [.close]

/-- The talk goes on with an update, a warning or a hide. -/
theorem Talking.told
    {subject : Subject} {calls : List UiCall} {call : UiCall}
    (talking : Talking subject calls) (telling : tells subject call = true) :
    Talking subject (calls ++ [call]) := by
  rcases talking with ⟨first, talk, opening, fits, rfl⟩
  refine ⟨first, talk ++ [call], opening, ?_, rfl⟩
  intro other member
  rcases List.mem_append.mp member with member | member
  · exact fits other member
  · rw [List.mem_singleton.mp member]
    exact telling

/-- A message that the stage allows leads to the next stage. -/
theorem Shaped.next
    {calls : List UiCall} {here there : Stage} {call : UiCall}
    (shaped : Shaped calls here) (moves : here.next call = some there) :
    Shaped (calls ++ [call]) there := by
  cases here with
  | silent =>
      rw [show calls = [] from shaped]
      cases call <;> cases moves
      · exact ⟨0, _, [], rfl, nofun, rfl⟩
      · exact ⟨0, _, [], rfl, nofun, rfl⟩
  | choosing =>
      rcases shaped with ⟨chooser, talking⟩
      cases call <;> cases moves
      · exact ⟨chooser, talking.told rfl⟩
      · exact ⟨.chooser chooser, calls, talking, rfl⟩
  | entering =>
      rcases shaped with ⟨prompt, talking⟩
      cases call <;> cases moves
      · exact ⟨prompt, talking.told rfl⟩
      · exact ⟨prompt, talking.told rfl⟩
      · exact ⟨prompt, talking.told rfl⟩
      · exact ⟨.pin prompt, calls, talking, rfl⟩
  | closed => cases call <;> cases moves

theorem shaped_of_stage
    {calls : List UiCall} {here : Stage} (come : stage calls = some here) :
    Shaped calls here := by
  induction calls using List.reverseRecOn generalizing here with
  | nil =>
      cases come
      rfl
  | append_singleton calls call ih =>
      rcases stage_last come with ⟨before, there, said⟩
      exact (ih there).next said

/-- Messages in order are a conversation. -/
theorem Orderly.conversed
    {calls : List UiCall} (orderly : Orderly calls) : Conversed calls := by
  rcases Option.isSome_iff_exists.mp orderly with ⟨here, come⟩
  have shaped := shaped_of_stage come
  cases here with
  | silent => exact .inl shaped
  | choosing =>
      rcases shaped with ⟨chooser, talking⟩
      exact .inr ⟨_, calls, talking, .inl rfl⟩
  | entering =>
      rcases shaped with ⟨prompt, talking⟩
      exact .inr ⟨_, calls, talking, .inl rfl⟩
  | closed =>
      rcases shaped with ⟨subject, talk, talking, same⟩
      exact .inr ⟨subject, talk, talking, .inr same⟩

/-! ## What may happen to a screen -/

/-- What can be done to a screen: an interaction is opened, told something or
closed. -/
inductive Talk : Screen → Screen → Prop where
  | silent (screen : Screen) : Talk screen screen
  | opened (screen : Screen) {subject : Subject} {call : UiCall}
      (opening : opens subject call = true) :
      Talk screen
        ⟨(screen.counter + 1, subject) :: screen.entries,
          screen.counter + 1,
          screen.messages ++ [⟨screen.counter + 1, call⟩]⟩
  | told (screen : Screen) {id : Nat} {subject : Subject} {call : UiCall}
      (member : (id, subject) ∈ screen.entries)
      (telling : tells subject call = true) :
      Talk screen
        { screen with messages := screen.messages ++ [⟨id, call⟩] }
  | closed (screen : Screen) {id : Nat} {subject : Subject}
      (member : (id, subject) ∈ screen.entries) :
      Talk screen
        { screen with
          entries := screen.entries.filter fun entry => entry.1 ≠ id
          messages := screen.messages ++ [⟨id, .close⟩] }

/-! ## Every conversation -/

/-- The calls of every interaction are in order, and the interactions on the
screen have been opened and not closed. -/
structure Protocol (screen : Screen) : Prop where
  orderly : ∀ id, Orderly (said id screen.messages)
  bound : ∀ entry ∈ screen.entries, entry.1 ≤ screen.counter
  talking : ∀ entry ∈ screen.entries,
    stage (said entry.1 screen.messages) = some (openStage entry.2)
  silent : ∀ id, screen.counter < id → said id screen.messages = []

theorem protocol_start : Protocol ⟨[], 0, []⟩ where
  orderly _ := rfl
  bound := nofun
  talking := nofun
  silent _ _ := rfl

variable {first second third : Screen}

/-- One message changes one conversation. -/
theorem orderly_concat
    {messages : List Message} {id : Nat} {here : Stage} {call : UiCall}
    (orderly : ∀ other, Orderly (said other messages))
    (come : stage (said id messages ++ [call]) = some here) (other : Nat) :
    Orderly (said other (messages ++ [⟨id, call⟩])) := by
  rw [said_append]
  by_cases same : other = id
  · rw [same, said_self, Orderly, come]
    rfl
  · rw [said_other same, List.append_nil]
    exact orderly other

/-- Whatever is done to a screen keeps the protocol. -/
theorem Talk.protocol
    (talk : Talk first second) (protocol : Protocol first) :
    Protocol second := by
  cases talk with
  | silent => exact protocol
  | @opened subject call opening =>
      have quiet := protocol.silent (first.counter + 1) (Nat.lt_succ_self _)
      have come : stage (said (first.counter + 1) first.messages ++ [call]) =
          some (openStage subject) := by
        rw [quiet]
        exact (stage_concat rfl call).trans (next_opens opening)
      constructor
      · exact orderly_concat protocol.orderly come
      · intro entry member
        rcases List.mem_cons.mp member with rfl | member
        · exact le_rfl
        · exact (protocol.bound entry member).trans (Nat.le_succ _)
      · intro entry member
        dsimp only
        rw [said_append]
        rcases List.mem_cons.mp member with rfl | member
        · rw [said_self, come]
        · have early := protocol.bound entry member
          rw [said_other (by omega), List.append_nil]
          exact protocol.talking entry member
      · intro id later
        have late : first.counter + 1 < id := later
        dsimp only
        rw [said_append, said_other (by omega), List.append_nil]
        exact protocol.silent id (by omega)
  | @told id subject call member telling =>
      have come : stage (said id first.messages ++ [call]) =
          some (openStage subject) :=
        (stage_concat (protocol.talking _ member) call).trans
          (next_tells telling)
      have known : id ≤ first.counter := protocol.bound _ member
      refine ⟨orderly_concat protocol.orderly come, protocol.bound, ?_, ?_⟩
      · intro entry inside
        dsimp only
        rw [said_append]
        by_cases same : entry.1 = id
        · have here := protocol.talking entry inside
          rw [same] at here ⊢
          rw [said_self, come, ← here]
          exact (protocol.talking _ member).symm
        · rw [said_other same, List.append_nil]
          exact protocol.talking entry inside
      · intro other later
        have late : first.counter < other := later
        dsimp only
        rw [said_append, said_other (by omega), List.append_nil]
        exact protocol.silent other late
  | @closed id subject member =>
      have come : stage (said id first.messages ++ [.close]) =
          some .closed :=
        (stage_concat (protocol.talking _ member) .close).trans
          (next_close subject)
      have known : id ≤ first.counter := protocol.bound _ member
      constructor
      · exact orderly_concat protocol.orderly come
      · intro entry inside
        exact protocol.bound entry (List.mem_of_mem_filter inside)
      · intro entry inside
        have different : entry.1 ≠ id :=
          of_decide_eq_true (List.mem_filter.mp inside).2
        dsimp only
        rw [said_append, said_other different, List.append_nil]
        exact protocol.talking entry (List.mem_of_mem_filter inside)
      · intro other later
        have late : first.counter < other := later
        dsimp only
        rw [said_append, said_other (by omega), List.append_nil]
        exact protocol.silent other late

/-- Whatever is open in the end was open before, or is new. -/
structure Renewed (first second : Screen) : Prop where
  counter : first.counter ≤ second.counter
  entries : ∀ entry ∈ second.entries,
    first.counter < entry.1 ∨ entry ∈ first.entries

theorem Renewed.refl (screen : Screen) : Renewed screen screen :=
  ⟨le_rfl, fun _ member => .inr member⟩

theorem Renewed.trans
    (here : Renewed first second) (there : Renewed second third) :
    Renewed first third where
  counter := here.counter.trans there.counter
  entries entry member := by
    rcases there.entries entry member with new | old
    · exact .inl (here.counter.trans_lt new)
    · exact here.entries entry old

/-- An interaction that is opened on a screen has a new number. -/
theorem Talk.renewed (talk : Talk first second) : Renewed first second := by
  cases talk with
  | silent => exact .refl first
  | opened opening =>
      refine ⟨Nat.le_succ _, fun entry member => ?_⟩
      rcases List.mem_cons.mp member with rfl | member
      · exact .inl (Nat.lt_succ_self _)
      · exact .inr member
  | told member telling => exact ⟨le_rfl, fun _ inside => .inr inside⟩
  | closed member =>
      exact ⟨le_rfl, fun _ inside => .inr (List.mem_of_mem_filter inside)⟩

/-- The protocol is kept however long the UI talks. -/
theorem Protocol.run
    (protocol : Protocol first) (talks : Composed Talk first second) :
    Protocol second ∧ Renewed first second := by
  induction talks with
  | refl => exact ⟨protocol, .refl first⟩
  | tail _ last ih =>
      exact ⟨last.protocol ih.1, ih.2.trans last.renewed⟩

/-- A conversation that has been closed is about nothing on the screen. -/
theorem Protocol.gone
    (protocol : Protocol first) {id : Nat}
    (ended : ⟨id, .close⟩ ∈ first.messages) :
    ∀ entry ∈ first.entries, entry.1 ≠ id := by
  intro entry member same
  have inside : .close ∈ said entry.1 first.messages :=
    List.mem_map.mpr ⟨⟨id, .close⟩,
      List.mem_filter.mpr ⟨ended, decide_eq_true same.symm⟩, rfl⟩
  have closed := stage_of_closed (protocol.talking entry member) inside
  cases subject : entry.2 <;> rw [subject] at closed <;> cases closed

end PortalCertificate.Core.Conversation
