import Mathlib.Data.List.Basic

/-!
# Traces

A trace lists the events of a run, newest first.  Two statements about
traces are kept by runs that add events: that every event had some relation
to what was before it, and that nothing has disturbed the effect of a past
event.
-/

namespace PortalCertificate.Library.Trace

variable {Event Value : Type*}

/-! ## When each event happened -/

/-- Every event was related to the trace before it. -/
def Each
    (property : Event → List Event → Prop) (trace : List Event) : Prop :=
  ∀ since event before, trace = since ++ event :: before →
    property event before

variable {property : Event → List Event → Prop}

@[simp]
theorem each_nil : Each property [] := by
  intro since event before split
  cases since <;> cases split

@[simp]
theorem each_cons {event : Event} {trace : List Event} :
    Each property (event :: trace) ↔
      property event trace ∧ Each property trace := by
  constructor
  · intro each
    exact ⟨each [] event trace rfl,
      fun since other before split =>
        each (event :: since) other before (by rw [split]; rfl)⟩
  · rintro ⟨first, rest⟩ since other before split
    cases since with
    | nil =>
        rcases List.cons.inj split with ⟨rfl, rfl⟩
        exact first
    | cons head since =>
        exact rest since other before (List.cons.inj split).2

/-- New events of which the property holds anyway. -/
theorem Each.append
    {news trace : List Event} (each : Each property trace)
    (new : ∀ event ∈ news, ∀ before, property event before) :
    Each property (news ++ trace) := by
  induction news with
  | nil => exact each
  | cons event news ih =>
      refine each_cons.mpr ⟨new event (List.mem_cons_self ..) _, ih ?_⟩
      exact fun other member => new other (List.mem_cons_of_mem _ member)

/-- What follows for an event from what holds of it and of the trace before
it. -/
theorem Each.imp
    {weaker : Event → List Event → Prop} {trace : List Event}
    (each : Each property trace)
    (follows : ∀ event before, Each property before →
      property event before → weaker event before) : Each weaker trace := by
  induction trace with
  | nil => exact each_nil
  | cons event before ih =>
      rcases each_cons.mp each with ⟨here, earlier⟩
      exact each_cons.mpr ⟨follows event before earlier here, ih earlier⟩

/-! ## Since an event -/

/-- The event has happened, and only quiet events have happened since. -/
def Since
    (start : Event) (quiet : Event → Prop) (before : List Event → Prop)
    (trace : List Event) : Prop :=
  ∃ meanwhile earlier, trace = meanwhile ++ start :: earlier ∧
    (∀ event ∈ meanwhile, quiet event) ∧ before earlier

variable
  {start : Event} {quiet : Event → Prop} {before : List Event → Prop}

theorem since_now {trace : List Event} (now : before trace) :
    Since start quiet before (start :: trace) :=
  ⟨[], trace, rfl, by simp, now⟩

theorem Since.append
    {news trace : List Event} (since : Since start quiet before trace)
    (new : ∀ event ∈ news, quiet event) :
    Since start quiet before (news ++ trace) := by
  rcases since with ⟨meanwhile, earlier, rfl, still, holds⟩
  refine ⟨news ++ meanwhile, earlier, by simp, ?_, holds⟩
  intro event member
  exact (List.mem_append.mp member).elim (new event) (still event)

theorem Since.cons
    {event : Event} {trace : List Event}
    (since : Since start quiet before trace) (new : quiet event) :
    Since start quiet before (event :: trace) := by
  have singleton : ∀ other ∈ [event], quiet other := by simpa using new
  exact since.append singleton

theorem Since.uncons
    {event : Event} {trace : List Event}
    (since : Since start quiet before (event :: trace)) :
    event = start ∧ before trace ∨
      quiet event ∧ Since start quiet before trace := by
  rcases since with ⟨meanwhile, earlier, split, still, holds⟩
  cases meanwhile with
  | nil =>
      rcases List.cons.inj split with ⟨rfl, rfl⟩
      exact .inl ⟨rfl, holds⟩
  | cons head meanwhile =>
      rcases List.cons.inj split with ⟨rfl, rfl⟩
      rcases List.forall_mem_cons.mp still with ⟨here, rest⟩
      exact .inr ⟨here, meanwhile, earlier, rfl, rest, holds⟩

theorem Since.start_mem {trace : List Event}
    (since : Since start quiet before trace) : start ∈ trace := by
  rcases since with ⟨meanwhile, earlier, rfl, -⟩
  exact List.mem_append_right _ (List.mem_cons_self ..)

/-! ## What a stretch adds -/

/-- Events of these kinds have been added, and no others. -/
def Adds (kinds : Event → Prop) (earlier later : List Event) : Prop :=
  ∃ news, later = news ++ earlier ∧ ∀ event ∈ news, kinds event

variable {kinds : Event → Prop} {first second third : List Event}

@[simp]
theorem Adds.refl (trace : List Event) : Adds kinds trace trace :=
  ⟨[], rfl, nofun⟩

theorem Adds.trans
    (here : Adds kinds first second) (there : Adds kinds second third) :
    Adds kinds first third := by
  rcases here with ⟨early, rfl, fits⟩
  rcases there with ⟨late, rfl, also⟩
  refine ⟨late ++ early, (List.append_assoc ..).symm, ?_⟩
  intro event member
  exact (List.mem_append.mp member).elim (also event) (fits event)

theorem Adds.cons
    {event : Event} (here : Adds kinds first second) (kind : kinds event) :
    Adds kinds first (event :: second) := by
  rcases here with ⟨news, rfl, fits⟩
  exact ⟨event :: news, rfl, List.forall_mem_cons.mpr ⟨kind, fits⟩⟩

theorem Adds.mono
    {wider : Event → Prop} (here : Adds kinds first second)
    (weaker : ∀ event, kinds event → wider event) :
    Adds wider first second := by
  rcases here with ⟨news, rfl, fits⟩
  exact ⟨news, rfl, fun event member => weaker event (fits event member)⟩

theorem Adds.each
    (here : Adds kinds first second) (each : Each property first)
    (new : ∀ event before, kinds event → property event before) :
    Each property second := by
  rcases here with ⟨news, rfl, fits⟩
  exact each.append fun event member before =>
    new event before (fits event member)

theorem Adds.mem
    (here : Adds kinds first second) {event : Event}
    (member : event ∈ second) : kinds event ∨ event ∈ first := by
  rcases here with ⟨news, rfl, fits⟩
  exact (List.mem_append.mp member).imp (fits event) fun member => member

/-- The event is not a new one. -/
theorem Adds.since
    (here : Adds kinds first second) (since : Since start quiet before second)
    (other : ¬kinds start) : Since start quiet before first := by
  rcases here with ⟨news, rfl, fits⟩
  induction news with
  | nil => exact since
  | cons event news ih =>
      rcases List.forall_mem_cons.mp fits with ⟨kind, rest⟩
      rcases since.uncons with ⟨rfl, -⟩ | ⟨-, since⟩
      · exact absurd kind other
      · exact ih rest since

theorem Since.adds
    (since : Since start quiet before first)
    (here : Adds quiet first second) : Since start quiet before second := by
  rcases here with ⟨news, rfl, fits⟩
  exact since.append fits

theorem Adds.subset
    (here : Adds kinds first second) {event : Event}
    (member : event ∈ first) : event ∈ second := by
  rcases here with ⟨news, rfl, -⟩
  exact List.mem_append_right news member

/-- Events that are not counted leave a count as it is. -/
theorem Adds.countP
    (here : Adds kinds first second) {counted : Event → Bool}
    (apart : ∀ event, kinds event → counted event = false) :
    second.countP counted = first.countP counted := by
  rcases here with ⟨news, rfl, fits⟩
  have none : news.countP counted = 0 := by
    rw [List.countP_eq_zero]
    intro event member
    rw [apart event (fits event member)]
    exact Bool.noConfusion
  rw [List.countP_append, none, Nat.zero_add]

/-! ## The latest value -/

/-- Events that say nothing leave the latest value as it is. -/
theorem findSome_append
    {value : Event → Option Value} {news : List Event}
    (silent : ∀ event ∈ news, value event = none) (trace : List Event) :
    (news ++ trace).findSome? value = trace.findSome? value := by
  rw [List.findSome?_append, List.findSome?_eq_none_iff.mpr silent,
    Option.none_or]

end PortalCertificate.Library.Trace
