import Mathlib.Logic.Relation
import Mathlib.Tactic.SplitIfs

/-!
# Runs of transition systems

A system has initial states and a partial step function that is determined
by an action.  Nondeterminism is the choice of the action.

States are collected along runs whose steps meet a guard.  A guard looks at
the state before a step and at the action, so a property that fails in some
runs can still be proved of all runs that avoid the failing steps.  The
trivial guard gives the reachable states.

A record keeps what was noted of the earlier states, for properties that
compare a state with them.

Steps are often made of smaller transformations of a shared state.  The last
section lifts an invariant of the transformations to everything composed of
them.
-/

namespace PortalCertificate.Library.Transition

/-- A set of initial states and a partial step function. -/
structure System (State Action : Type*) where
  initial : State → Prop
  step : State → Action → Option State

namespace System

variable {State Action : Type*} (system : System State Action)

/-- The state after a list of actions, while each of them is enabled. -/
def run (state : State) (actions : List Action) : Option State :=
  actions.foldlM system.step state

@[simp]
theorem run_nil (state : State) : system.run state [] = some state := rfl

@[simp]
theorem run_cons
    (state : State) (action : Action) (actions : List Action) :
    system.run state (action :: actions) =
      (system.step state action).bind fun next =>
        system.run next actions := rfl

/-- A run in two parts. -/
theorem run_append
    (state : State) (first second : List Action) :
    system.run state (first ++ second) =
      (system.run state first).bind fun next =>
        system.run next second :=
  List.foldlM_append ..

/-- The states of runs whose steps all meet the guard. -/
inductive ReachableBy (guard : State → Action → Prop) : State → Prop where
  | initial {state : State} (start : system.initial state) :
      ReachableBy guard state
  | step {state next : State} {action : Action}
      (before : ReachableBy guard state)
      (meets : guard state action)
      (moves : system.step state action = some next) :
      ReachableBy guard next

/-- The states of all runs. -/
def Reachable (state : State) : Prop :=
  system.ReachableBy (fun _ _ => True) state

variable {system}

theorem Reachable.initial
    {state : State} (start : system.initial state) :
    system.Reachable state :=
  ReachableBy.initial start

theorem Reachable.step
    {state next : State} {action : Action}
    (before : system.Reachable state)
    (moves : system.step state action = some next) :
    system.Reachable next :=
  ReachableBy.step before trivial moves

/-- A run whose steps meet the guard meets a weaker one. -/
theorem ReachableBy.imp
    {guard weaker : State → Action → Prop} {state : State}
    (reachable : system.ReachableBy guard state)
    (follows : ∀ state action, guard state action → weaker state action) :
    system.ReachableBy weaker state := by
  induction reachable with
  | initial start => exact .initial start
  | step _ meets moves ih => exact ih.step (follows _ _ meets) moves

theorem ReachableBy.reachable
    {guard : State → Action → Prop} {state : State}
    (reachable : system.ReachableBy guard state) :
    system.Reachable state :=
  reachable.imp fun _ _ _ => trivial

/-- A run goes on with a given action. -/
theorem ReachableBy.act
    {guard : State → Action → Prop} {state next : State}
    (before : system.ReachableBy guard state)
    (action : Action) (meets : guard state action)
    (moves : system.step state action = some next) :
    system.ReachableBy guard next :=
  .step before meets moves

/-- A run goes on with actions that always meet the guard. -/
theorem ReachableBy.run
    {guard : State → Action → Prop}
    {state final : State} {actions : List Action}
    (before : system.ReachableBy guard state)
    (meets : ∀ action ∈ actions, ∀ state, guard state action)
    (moves : system.run state actions = some final) :
    system.ReachableBy guard final := by
  induction actions generalizing state with
  | nil =>
      rw [run_nil, Option.some.injEq] at moves
      exact moves ▸ before
  | cons action rest ih =>
      rw [run_cons, Option.bind_eq_some_iff] at moves
      rcases moves with ⟨next, first, rest⟩
      have here := meets action (List.mem_cons_self ..)
      refine ih (before.step (here state) first) ?_ rest
      exact fun other member => meets other (List.mem_cons_of_mem _ member)

/-- The run of a list of actions, each checked by the guard. -/
def runBy
    (system : System State Action) (guard : State → Action → Prop)
    [∀ state action, Decidable (guard state action)]
    (state : State) (actions : List Action) : Option State :=
  actions.foldlM
    (fun state action =>
      if guard state action then system.step state action else none)
    state

/-- A run goes on with checked actions. -/
theorem ReachableBy.runBy
    {guard : State → Action → Prop}
    [∀ state action, Decidable (guard state action)]
    {state final : State} {actions : List Action}
    (before : system.ReachableBy guard state)
    (moves : system.runBy guard state actions = some final) :
    system.ReachableBy guard final := by
  induction actions generalizing state with
  | nil =>
      cases Option.some.inj moves
      exact before
  | cons action rest ih =>
      rw [System.runBy, List.foldlM_cons] at moves
      rcases Option.bind_eq_some_iff.mp moves with ⟨next, first, rest⟩
      split_ifs at first with meets
      exact ih (before.step meets first) rest

/-- A run leads to a reachable state. -/
theorem Reachable.run
    {state final : State} {actions : List Action}
    (before : system.Reachable state)
    (moves : system.run state actions = some final) :
    system.Reachable final :=
  ReachableBy.run before (fun _ _ _ => trivial) moves

/-- What holds initially and is kept by guarded steps holds throughout. -/
theorem ReachableBy.invariant
    {guard : State → Action → Prop} {property : State → Prop}
    (initially : ∀ state, system.initial state → property state)
    (kept : ∀ state action next, system.ReachableBy guard state →
      property state → guard state action →
      system.step state action = some next → property next)
    {state : State} (reachable : system.ReachableBy guard state) :
    property state := by
  induction reachable with
  | initial start => exact initially _ start
  | step before meets moves ih => exact kept _ _ _ before ih meets moves

/-- The rule for all runs. -/
theorem Reachable.invariant
    {property : State → Prop}
    (initially : ∀ state, system.initial state → property state)
    (kept : ∀ state action next, system.Reachable state →
      property state → system.step state action = some next →
      property next)
    {state : State} (reachable : system.Reachable state) :
    property state :=
  ReachableBy.invariant initially
    (fun state action next before holds _ moves =>
      kept state action next before holds moves)
    reachable

end System

/-! ## Records -/

/-- A state, and what has been noted of the states up to it. -/
structure Recorded (State Entry : Type*) where
  now : State
  past : List Entry

namespace System

variable {State Action Entry : Type*}

/-- The system with a record that every state adds to. -/
def recording (system : System State Action) (note : State → List Entry) :
    System (Recorded State Entry) Action where
  initial := fun record =>
    system.initial record.now ∧ record.past = note record.now
  step := fun record action =>
    (system.step record.now action).map fun next =>
      ⟨next, note next ++ record.past⟩

variable {system : System State Action} {note : State → List Entry}

theorem recording_step_iff
    {record next : Recorded State Entry} {action : Action} :
    (system.recording note).step record action = some next ↔
      system.step record.now action = some next.now ∧
        next.past = note next.now ++ record.past := by
  cases next with
  | mk now past =>
      simp only [recording, Option.map_eq_some_iff, Recorded.mk.injEq]
      constructor
      · rintro ⟨_, moves, rfl, rfl⟩
        exact ⟨moves, rfl⟩
      · rintro ⟨moves, rfl⟩
        exact ⟨_, moves, rfl, rfl⟩

/-- The record does not restrict the system. -/
theorem ReachableBy.unrecorded
    {guard : Recorded State Entry → Action → Prop}
    {record : Recorded State Entry}
    (reachable : (system.recording note).ReachableBy guard record) :
    system.Reachable record.now := by
  induction reachable with
  | initial start => exact .initial start.1
  | step _ _ moves ih => exact ih.step (recording_step_iff.mp moves).1

/-- What is noted of the present state is on record. -/
theorem ReachableBy.noted
    {guard : Recorded State Entry → Action → Prop}
    {record : Recorded State Entry}
    (reachable : (system.recording note).ReachableBy guard record) :
    note record.now ⊆ record.past := by
  cases reachable with
  | initial start =>
      rw [start.2]
      exact List.Subset.refl _
  | step _ _ moves =>
      rw [(recording_step_iff.mp moves).2]
      exact List.subset_append_left _ _

theorem Reachable.record
    {state : State} (start : system.initial state) :
    (system.recording note).Reachable ⟨state, note state⟩ :=
  .initial ⟨start, rfl⟩

/-- A run is recorded after what is on record. -/
theorem Reachable.record_run
    {record : Recorded State Entry} {final : State}
    {actions : List Action}
    (before : (system.recording note).Reachable record)
    (moves : system.run record.now actions = some final) :
    ∃ past, (system.recording note).Reachable ⟨final, past⟩ ∧
      record.past ⊆ past := by
  induction actions generalizing record with
  | nil =>
      cases Option.some.inj moves
      exact ⟨record.past, before, List.Subset.refl _⟩
  | cons action rest ih =>
      rw [run_cons, Option.bind_eq_some_iff] at moves
      rcases moves with ⟨next, first, rest⟩
      have noted : (system.recording note).step record action =
          some ⟨next, note next ++ record.past⟩ :=
        recording_step_iff.mpr ⟨first, rfl⟩
      rcases ih (Reachable.step before noted) rest with
        ⟨past, reachable, kept⟩
      exact ⟨past, reachable,
        List.Subset.trans (List.subset_append_right _ _) kept⟩

end System

/-! ## Composed transformations -/

/-- Zero or more transformations, one after another. -/
abbrev Composed {State : Type*} (small : State → State → Prop) :
    State → State → Prop :=
  Relation.ReflTransGen small

/-- A property kept by every transformation is kept by their compositions. -/
theorem Composed.keeps
    {State : Type*} {small : State → State → Prop}
    {property : State → Prop}
    (kept : ∀ first second, small first second →
      property first → property second)
    {first second : State} (composed : Composed small first second)
    (holds : property first) : property second := by
  induction composed with
  | refl => exact holds
  | tail _ last ih => exact kept _ _ last ih

/-- Relations that compose are generated by their transformations. -/
theorem Composed.relates
    {State : Type*} {small : State → State → Prop}
    {relation : State → State → Prop}
    (reflexive : ∀ state, relation state state)
    (transitive : ∀ first second third, relation first second →
      relation second third → relation first third)
    (related : ∀ first second, small first second →
      relation first second)
    {first second : State} (composed : Composed small first second) :
    relation first second := by
  induction composed with
  | refl => exact reflexive _
  | tail _ last ih => exact transitive _ _ _ ih (related _ _ last)

/-! ## Loops -/

section Loops

variable {State Index : Type*} {body : State → Index → State}
  (holds : State → Prop)

include holds

/-- A loop is composed of the transformations of its body. -/
theorem Composed.foldl
    {small : State → State → Prop}
    (kept : ∀ first second, small first second →
      holds first → holds second)
    (composed : ∀ state index, holds state →
      Composed small state (body state index))
    (indices : List Index) {state : State} (here : holds state) :
    Composed small state (indices.foldl body state) := by
  induction indices generalizing state with
  | nil => exact .refl
  | cons index rest ih =>
      have first := composed state index here
      exact first.trans (ih (first.keeps kept here))

/-- What a loop has done for an index stays done. -/
theorem foldl_settles
    (settled : State → Index → Prop)
    (holding : ∀ state index, holds state → holds (body state index))
    (kept : ∀ state index other, holds state →
      settled state other → settled (body state index) other)
    (settles : ∀ state index, holds state →
      settled (body state index) index)
    (indices : List Index) {state : State} (here : holds state)
    {index : Index} (member : index ∈ indices) :
    settled (indices.foldl body state) index := by
  have stays (rest : List Index) (state : State) (here : holds state)
      (done : settled state index) :
      settled (rest.foldl body state) index := by
    induction rest generalizing state with
    | nil => exact done
    | cons other rest ih =>
        exact ih (body state other) (holding state other here)
          (kept state other index here done)
  induction indices generalizing state with
  | nil => cases member
  | cons other rest ih =>
      rcases List.mem_cons.mp member with rfl | member
      · exact stays rest _ (holding state _ here) (settles state _ here)
      · exact ih (holding state other here) member

end Loops

end PortalCertificate.Library.Transition
