import PortalCertificate.Context.Steps
import PortalCertificate.Core.RowIdentities
import PortalCertificate.Library.Trace

/-!
# Lists of choosers

A list that goes to a chooser has been read after every presence event that
was dispatched before it.  Dispatching an event makes what the workers of
open acquisitions return too old, and a removal empties the lists that are
shown.
-/

namespace PortalCertificate.Context.Snapshots

open PortalCertificate.Context.Accounts
open PortalCertificate.Context.Acquire
open PortalCertificate.Context.Completion
open PortalCertificate.Context.Floors
open PortalCertificate.Context.Machine
open PortalCertificate.Context.Moves
open PortalCertificate.Context.Nudges
open PortalCertificate.Context.Requests
open PortalCertificate.Context.Sessions
open PortalCertificate.Context.Starts
open PortalCertificate.Context.Steps
open PortalCertificate.Core.Coordinator (XccErrorCode Choice Reply)
open PortalCertificate.Core.RowIdentities
open PortalCertificate.Core.UiFrames
open PortalCertificate.Library.Trace
open PortalCertificate.Library.Transition
open PortalCertificate.Tokens.Discovery
open PortalCertificate.Tokens.Filter
open PortalCertificate.Tokens.Watcher

/-! ## What a trace says of lists -/

/-- Events that lists depend on. -/
def isListed : Event → Bool
  | .enumerationStarted .. | .dispatched _ | .published .. | .emptied _ =>
      true
  | _ => false

/-- The event is a token event that has been dispatched. -/
def isDispatched : Event → Bool
  | .dispatched _ => true
  | _ => false

/-- No event has been dispatched since the enumeration started. -/
def Current (id enumeration : Nat) : List Event → Prop :=
  Since (.enumerationStarted id enumeration)
    (fun event => isDispatched event = false) fun _ => True

/-- A list has gone to the chooser of a request. -/
def Shown (id : Nat) (trace : List Event) : Prop :=
  ∃ enumeration candidates, .published id enumeration candidates ∈ trace

/-- What had been shown before a removal was taken away after it. -/
def Swept (id : Nat) (trace : List Event) : Prop :=
  ∀ later event earlier, trace = later ++ .dispatched event :: earlier →
    event.added = false → Shown id earlier → .emptied id ∈ later

/-- What an event leaves in the chooser of a request. -/
def listOf (id : Nat) : Event → Option (List CertificateCandidate)
  | .published other _ candidates =>
      if other = id then some candidates else none
  | .emptied other => if other = id then some [] else none
  | _ => none

/-- The list that was written last. -/
def lastList (id : Nat) (trace : List Event) :
    Option (List CertificateCandidate) :=
  trace.findSome? (listOf id)

variable {id : Nat} {event : Event} {trace news : List Event}

/-- A split at an event that is not new. -/
theorem split_append {old : Event} {later earlier : List Event}
    (split : news ++ trace = later ++ old :: earlier)
    (absent : old ∉ news) :
    ∃ more, later = news ++ more ∧ trace = more ++ old :: earlier := by
  rcases List.append_eq_append_iff.mp split with
    ⟨more, rfl, rest⟩ | ⟨more, rfl, rest⟩
  · exact ⟨more, rfl, rest⟩
  · cases more with
    | nil => exact ⟨[], by simp, by simpa using rest.symm⟩
    | cons head more =>
        cases (List.cons.inj rest).1
        simp at absent

theorem Swept.append (swept : Swept id trace)
    (quiet : ∀ event ∈ news, isDispatched event = false) :
    Swept id (news ++ trace) := by
  intro later event earlier split removed shown
  have absent : .dispatched event ∉ news := fun member =>
    Bool.noConfusion (quiet _ member)
  rcases split_append split absent with ⟨more, rfl, rest⟩
  exact List.mem_append_right _ (swept more event earlier rest removed shown)

theorem Swept.adds {later : List Event} (swept : Swept id trace)
    (adds : Adds (fun event => isDispatched event = false) trace later) :
    Swept id later := by
  rcases adds with ⟨news, rfl, quiet⟩
  exact swept.append quiet

theorem Swept.cons (swept : Swept id trace)
    (quiet : isDispatched event = false) : Swept id (event :: trace) := by
  have silent : ∀ other ∈ [event], isDispatched other = false := by
    simpa using quiet
  exact swept.append silent

theorem swept_emptied : Swept id (.emptied id :: trace) := by
  intro later event earlier split _ _
  cases later with
  | nil => cases (List.cons.inj split).1
  | cons head later =>
      rw [(List.cons.inj split).1]
      exact List.mem_cons_self ..

/-- An insertion takes nothing away. -/
theorem Swept.inserted {presence : WatchEvent} (swept : Swept id trace)
    (added : presence.added = true) :
    Swept id (.dispatched presence :: trace) := by
  intro later event earlier split removed shown
  cases later with
  | nil =>
      cases (List.cons.inj split).1
      rw [added] at removed
      cases removed
  | cons head later =>
      exact List.mem_cons_of_mem _
        (swept later event earlier (List.cons.inj split).2 removed shown)

theorem swept_unshown (unshown : ¬Shown id trace) : Swept id trace := by
  rintro later event earlier rfl _ ⟨enumeration, candidates, member⟩
  exact absurd ⟨enumeration, candidates,
    List.mem_append_right _ (List.mem_cons_of_mem _ member)⟩ unshown

theorem Shown.adds {kinds : Event → Prop} {later : List Event}
    (adds : Adds kinds trace later)
    (silent : ∀ enumeration candidates,
      ¬kinds (.published id enumeration candidates))
    (shown : Shown id later) : Shown id trace := by
  rcases shown with ⟨enumeration, candidates, member⟩
  rcases adds.mem member with new | old
  · exact absurd new (silent enumeration candidates)
  · exact ⟨enumeration, candidates, old⟩

/-! ## The invariant -/

/-- A list that goes to a chooser is current, it replaces nothing that has
been removed, and it is what the filter leaves of a report. -/
def Sound (world : World) : Event → List Event → Prop
  | .published id enumeration candidates, before =>
      Current id enumeration before ∧ Swept id before ∧
        ∃ snapshot realTime,
          .enumerated id enumeration (.ok snapshot) ∈ before ∧
          candidates = certificateFilterApply snapshot
            (world.requests id).filter realTime
  | _, _ => True

/-- A report that would be used is current. -/
def Fresh (world : World) (id : Nat) : Prop :=
  ∀ enumeration, (id, enumeration) ∈ world.enumerations →
    (world.requests id).chooserCompleted = false →
    (world.requests id).enumerateAgain = false →
      Current id enumeration world.trace

/-- Once a list has been shown, the chooser is open or it has ended. -/
def Seated (world : World) (id : Nat) : Prop :=
  (world.requests id).chooser.isSome = true ∨
    (world.requests id).chooserCompleted = true ∨
      (world.requests id).answered = true

/-- What holds of the lists also while an event is dispatched. -/
structure Lists (world : World) : Prop where
  sound : Each (Sound world) world.trace
  seated : ∀ id, Shown id world.trace →
    id < world.nextRequest ∧ Seated world id
  rows : ∀ id chooser, (world.requests id).chooser = some chooser →
    lastList id world.trace =
      some ((world.ui.choosers chooser).choices.map Choice.candidate)

/-- Nothing that is shown or on its way is too old. -/
structure UpToDate (world : World) (id : Nat) : Prop where
  fresh : Fresh world id
  swept : (world.requests id).chooser.isSome = true → Swept id world.trace

/-- The requests that the coordinator is at have been made. -/
structure Ordered (world : World) : Prop where
  orderly : Orderly (floor world)
  born : ∀ id ∈ world.active, id < world.nextRequest

variable {world next : World}

theorem Starts.Basic.ordered (basic : Basic world) : Ordered world :=
  ⟨basic.orderly, fun id active => (basic.located.taken id active).1⟩

theorem Ordered.nudge (ordered : Ordered world) (nudge : Nudge world next) :
    Ordered next := by
  have steady := Nudge.steady nudge
  refine ⟨orderly_nudge nudge ordered.orderly, ?_⟩
  rw [steady.active, steady.nextRequest]
  exact ordered.born

/-- A flight belongs to an acquisition that goes on. -/
theorem Ordered.flight (ordered : Ordered world) {enumeration : Nat}
    (flying : (id, enumeration) ∈ world.enumerations) :
    Engaged (floor world) id ∧ id < world.nextRequest := by
  have some : 0 < world.enumerations.countP (fun flight => flight.1 = id) :=
    List.countP_pos_iff.mpr ⟨_, flying, by simp⟩
  have count : world.enumerations.countP (fun flight => flight.1 = id) =
      (world.requests id).enumerating.toNat := ordered.orderly.flights id
  have running : (world.requests id).enumerating = true := by
    cases value : (world.requests id).enumerating with
    | true => rfl
    | false =>
        rw [count, value] at some
        cases some
  have engaged := ordered.orderly.enumerating id running
  exact ⟨engaged, ordered.born id engaged.active⟩

/-- Without an enumeration nothing is in flight. -/
theorem Ordered.grounded (ordered : Ordered world)
    (landed : (world.requests id).enumerating = false) (enumeration : Nat) :
    (id, enumeration) ∉ world.enumerations := by
  intro flying
  have count : world.enumerations.countP (fun flight => flight.1 = id) =
      (world.requests id).enumerating.toNat := ordered.orderly.flights id
  rw [landed] at count
  simpa using List.countP_eq_zero.mp count _ flying

theorem Ordered.seat (ordered : Ordered world) {chooser : Nat}
    (choosing : (world.requests id).chooser = some chooser) :
    Engaged (floor world) id ∧ id < world.nextRequest := by
  have engaged := (ordered.orderly.choosing id chooser choosing).1
  exact ⟨engaged, ordered.born id engaged.active⟩

/-- A chooser has one request. -/
theorem Ordered.apart (ordered : Ordered world) {other chooser : Nat}
    (here : (world.requests id).chooser = some chooser)
    (there : (world.requests other).chooser = some chooser) :
    id = other := by
  have first := (ordered.orderly.choosing id chooser here).2.2.2
  have second := (ordered.orderly.choosing other chooser there).2.2.2
  have same := congrArg Seat.cancellable (first.symm.trans second)
  exact Nat.eq_of_mul_eq_mul_left Nat.two_pos (Option.some.inj same)

/-! ## What writes no list -/

/-- What a move leaves of a request's filter and chooser. -/
structure Glimpse (before after : XccRequest) : Prop where
  filter : after.filter = before.filter
  chooser : after.chooser = before.chooser ∨
    after.chooser = none ∧ after.chooserCompleted = true
  completed : before.chooserCompleted = true →
    after.chooserCompleted = true
  answered : before.answered = true → after.answered = true

theorem Glimpse.refl (request : XccRequest) : Glimpse request request :=
  ⟨rfl, .inl rfl, id, id⟩

theorem Alike.glimpse {before after : XccRequest}
    (alike : Alike before after) : Glimpse before after where
  filter := congrArg Asked.filter alike.asked
  chooser := .inl alike.chooser
  completed := alike.completed.trans
  answered := alike.answered.trans

/-- Choosers have ended at most. -/
structure Aside (world next : World) : Prop where
  requests : ∀ id < world.nextRequest,
    Glimpse (world.requests id) (next.requests id)
  nextRequest : world.nextRequest ≤ next.nextRequest
  rows : ∀ id chooser, (next.requests id).chooser = some chooser →
    (world.requests id).chooser = some chooser ∧
      (next.ui.choosers chooser).choices =
        (world.ui.choosers chooser).choices

theorem Aside.refl (world : World) : Aside world world where
  requests _ _ := .refl _
  nextRequest := Nat.le_refl _
  rows _ _ choosing := ⟨choosing, rfl⟩

theorem Aside.trans {first second third : World}
    (here : Aside first second) (there : Aside second third) :
    Aside first third where
  requests id born := by
    have early := here.requests id born
    have late := there.requests id (born.trans_le here.nextRequest)
    refine ⟨late.filter.trans early.filter, ?_,
      fun past => late.completed (early.completed past),
      fun told => late.answered (early.answered told)⟩
    rcases late.chooser with kept | ended
    · rcases early.chooser with before | ⟨none, past⟩
      · exact .inl (kept.trans before)
      · exact .inr ⟨kept.trans none, late.completed past⟩
    · exact .inr ended
  nextRequest := here.nextRequest.trans there.nextRequest
  rows id chooser choosing := by
    have late := there.rows id chooser choosing
    have early := here.rows id chooser late.1
    exact ⟨early.1, late.2.trans early.2⟩

theorem Aside.setRequest {request : XccRequest}
    (glimpse : Glimpse (world.requests id) request) :
    Aside world (world.setRequest id request) where
  requests other _ := by
    show Glimpse _ (Function.update world.requests id request other)
    by_cases same : other = id
    · rw [same, Function.update_self]
      exact glimpse
    · rw [Function.update_of_ne same]
      exact .refl _
  nextRequest := Nat.le_refl _
  rows other chooser choosing := by
    refine ⟨?_, rfl⟩
    by_cases same : other = id
    · rw [same, World.setRequest_self] at choosing
      rw [same, ← choosing]
      rcases glimpse.chooser with kept | ⟨none, -⟩
      · exact kept.symm
      · rw [none] at choosing
        cases choosing
    · rw [← choosing]
      exact congrArg XccRequest.chooser
        (Function.update_of_ne same ..).symm

/-- A list is written. -/
def isWritten : Event → Bool
  | .published .. | .emptied _ => true
  | _ => false

theorem Sound.filter {event : Event} {before : List Event}
    (sound : Sound world event before)
    (filters : ∀ id enumeration candidates,
      event = .published id enumeration candidates →
        (next.requests id).filter = (world.requests id).filter) :
    Sound next event before := by
  cases event with
  | published id enumeration candidates =>
      rcases sound with ⟨current, swept, snapshot, realTime, reported, list⟩
      refine ⟨current, swept, snapshot, realTime, reported, ?_⟩
      rw [filters id enumeration candidates rfl]
      exact list
  | _ => trivial

theorem Lists.filters (lists : Lists world) (aside : Aside world next) :
    Each (Sound next) world.trace := by
  intro since event before split
  refine (lists.sound since event before split).filter ?_
  rintro id enumeration candidates rfl
  have shown : Shown id world.trace := ⟨enumeration, candidates, by
    rw [split]
    exact List.mem_append_right _ (List.mem_cons_self ..)⟩
  exact (aside.requests id (lists.seated id shown).1).filter

theorem Seated.aside (seated : Seated world id) (aside : Aside world next)
    (born : id < world.nextRequest) : Seated next id := by
  have glimpse := aside.requests id born
  rcases seated with choosing | past | answered
  · rcases glimpse.chooser with kept | ⟨-, past⟩
    · exact .inl (by rw [kept]; exact choosing)
    · exact .inr (.inl past)
  · exact .inr (.inl (glimpse.completed past))
  · exact .inr (.inr (glimpse.answered answered))

theorem Lists.aside (lists : Lists world) (aside : Aside world next)
    (trace : Adds (fun event => isWritten event = false) world.trace
      next.trace) : Lists next where
  sound := by
    refine trace.each (lists.filters aside) ?_
    intro event before silent
    cases event <;> trivial
  seated id shown := by
    have before := lists.seated id
      (shown.adds trace fun _ _ => Bool.noConfusion)
    exact ⟨before.1.trans_le aside.nextRequest,
      before.2.aside aside before.1⟩
  rows id chooser choosing := by
    rcases aside.rows id chooser choosing with ⟨before, rows⟩
    rcases trace with ⟨news, split, silent⟩
    rw [split, rows, ← lists.rows id chooser before, lastList, lastList]
    refine findSome_append ?_ _
    intro event member
    have quiet := silent event member
    cases event <;> first | rfl | cases quiet

/-! ## What makes no list old -/

/-- No event is dispatched, and nothing starts to enumerate. -/
structure Calm (world next : World) : Prop extends Aside world next where
  trace : Adds (fun event => isListed event = false) world.trace next.trace
  flights : ∀ flight ∈ next.enumerations, flight ∈ world.enumerations
  again : ∀ id < world.nextRequest,
    (next.requests id).enumerateAgain = false →
      (world.requests id).enumerateAgain = false

theorem Calm.refl (world : World) : Calm world world where
  toAside := .refl world
  trace := .refl _
  flights _ flying := flying
  again _ _ := id

theorem Calm.trans {first second third : World}
    (here : Calm first second) (there : Calm second third) :
    Calm first third where
  toAside := here.toAside.trans there.toAside
  trace := here.trace.trans there.trace
  flights flight flying := here.flights flight (there.flights flight flying)
  again id born once := here.again id born
    (there.again id (born.trans_le here.nextRequest) once)

theorem Calm.emit (world : World) {event : Event}
    (silent : isListed event = false) : Calm world (world.emit event) :=
  { Calm.refl world with trace := (Adds.refl _).cons silent }

theorem Calm.setRequest {request : XccRequest}
    (glimpse : Glimpse (world.requests id) request)
    (again : request.enumerateAgain = false →
      (world.requests id).enumerateAgain = false) :
    Calm world (world.setRequest id request) where
  toAside := .setRequest glimpse
  trace := .refl _
  flights _ flying := flying
  again other _ := by
    show (Function.update world.requests id request other).enumerateAgain =
      false → _
    by_cases same : other = id
    · rw [same, Function.update_self]
      exact again
    · rw [Function.update_of_ne same]
      exact fun once => once

theorem Touched.calm (touched : Touched world next) : Calm world next where
  requests id _ := Alike.glimpse (touched.requests id)
  nextRequest := by rw [touched.rest]
  rows id chooser choosing :=
    ⟨(touched.requests id).chooser.symm.trans choosing,
      (touched.aside.choosers chooser).choices⟩
  trace := by
    rw [touched.rest]
    exact .refl _
  flights flight flying := by
    rw [touched.rest] at flying
    exact flying
  again id _ once := by
    rw [Bool.eq_false_iff] at once ⊢
    exact fun asked => once ((touched.requests id).again asked)

theorem calm_close (id : Nat) :
    Calm world (xccSessionCloseInternal world id) := by
  cases closed : (world.sessions id).closed with
  | true =>
      rw [close_closed closed]
      exact .refl _
  | false =>
      rcases close_open closed with ⟨told, ending⟩
      have first : Calm world told :=
        { Touched.calm ending.touched with }
      rw [ending.last]
      exact { first with }

theorem UpToDate.calm (upToDate : UpToDate world id) (calm : Calm world next)
    (ordered : Ordered world) : UpToDate next id where
  fresh enumeration flying choosing once := by
    have before := calm.flights _ flying
    have born := (ordered.flight before).2
    have goesOn : (world.requests id).chooserCompleted = false := by
      rw [Bool.eq_false_iff] at choosing ⊢
      exact fun past => choosing ((calm.requests id born).completed past)
    have current := upToDate.fresh enumeration before goesOn
      (calm.again id born once)
    rcases calm.trace with ⟨news, split, silent⟩
    rw [split]
    refine current.append fun event member => ?_
    have quiet := silent event member
    cases event <;> first | rfl | cases quiet
  swept seated := by
    rcases Option.isSome_iff_exists.mp seated with ⟨chooser, choosing⟩
    have before := (calm.rows id chooser choosing).1
    refine (upToDate.swept (by rw [before]; rfl)).adds
      (calm.trace.mono fun event quiet => ?_)
    cases event <;> first | rfl | cases quiet

theorem Lists.calm (lists : Lists world) (calm : Calm world next) :
    Lists next :=
  lists.aside calm.toAside (calm.trace.mono fun event quiet => by
    cases event <;> first | rfl | cases quiet)

/-! ## An enumeration starts -/

theorem aside_start (id : Nat) : Aside world (startEnumeration world id) :=
  { @Aside.setRequest id world
      { world.requests id with
        enumerating := true, enumerateAgain := false }
      ⟨rfl, .inl rfl, fun past => past, fun told => told⟩ with }

theorem lists_start (lists : Lists world) (id : Nat) :
    Lists (startEnumeration world id) :=
  lists.aside (aside_start id) ((Adds.refl _).cons rfl)

theorem upToDate_start {other : Nat} (ordered : Ordered world)
    (landed : (world.requests id).enumerating = false)
    (upToDate : UpToDate world other) :
    UpToDate (startEnumeration world id) other where
  fresh enumeration flying choosing once := by
    rcases List.mem_append.mp flying with old | new
    · have apart : other ≠ id := by
        rintro rfl
        exact ordered.grounded landed enumeration old
      have same : (startEnumeration world id).requests other =
          world.requests other := Function.update_of_ne apart ..
      rw [same] at choosing once
      exact (upToDate.fresh enumeration old choosing once).cons rfl
    · cases List.mem_singleton.mp new
      exact since_now trivial
  swept seated := by
    rcases Option.isSome_iff_exists.mp seated with ⟨chooser, choosing⟩
    have before := ((aside_start id).rows other chooser choosing).1
    exact (upToDate.swept (by rw [before]; rfl)).cons rfl

/-! ## A list is emptied -/

theorem update_self {chooser : Nat} {candidates : List CertificateCandidate}
    (tokensPresent : Bool)
    (showing : (world.ui.choosers chooser).finished = false) :
    ((Core.Chooser.chooserUpdate world.ui chooser candidates
      tokensPresent).choosers chooser).choices.map Choice.candidate =
        candidates := by
  have told := congrArg Surroundings.choosers
    (surroundings_update world.ui chooser candidates tokensPresent showing)
  have here := (congrFun told chooser).trans (Function.update_self ..)
  refine (congrArg (fun chooser => chooser.choices.map Choice.candidate)
    here).trans ?_
  exact (numbered_numberRows ..).entries

theorem update_other {chooser other : Nat}
    {candidates : List CertificateCandidate} (tokensPresent : Bool)
    (apart : other ≠ chooser) :
    (Core.Chooser.chooserUpdate world.ui chooser candidates
      tokensPresent).choosers other = world.ui.choosers other := by
  by_cases showing : (world.ui.choosers chooser).finished = true
  · rw [Core.Chooser.chooserUpdate, if_pos showing]
  · have told := congrArg Surroundings.choosers
      (surroundings_update world.ui chooser candidates tokensPresent
        (Bool.eq_false_iff.mpr showing))
    exact (congrFun told other).trans (Function.update_of_ne apart ..)

theorem lists_emptied {chooser : Nat} (lists : Lists world)
    (ordered : Ordered world)
    (choosing : (world.requests id).chooser = some chooser) :
    Lists (emptyChooser world id chooser) where
  sound := each_cons.mpr ⟨trivial, lists.sound⟩
  seated other shown := by
    rcases shown with ⟨enumeration, candidates, member⟩
    refine lists.seated other ⟨enumeration, candidates, ?_⟩
    rcases List.mem_cons.mp member with same | old
    · cases same
    · exact old
  rows other shows here := by
    have showing := (ordered.orderly.choosing id chooser choosing).2.2.2
    by_cases same : other = id
    · subst same
      cases choosing.symm.trans here
      have list : listOf other (.emptied other) = some [] := if_pos rfl
      rw [show (emptyChooser world other chooser).trace =
        .emptied other :: world.trace from rfl, lastList,
        List.findSome?_cons, list]
      exact congrArg some (update_self false
        (congrArg Seat.finished showing)).symm
    · have apart : shows ≠ chooser := by
        rintro rfl
        exact same (ordered.apart here choosing)
      have list : listOf other (.emptied id) = none :=
        if_neg fun eq => same eq.symm
      rw [show (emptyChooser world id chooser).trace =
        .emptied id :: world.trace from rfl, lastList,
        List.findSome?_cons, list]
      refine (lists.rows other shows here).trans ?_
      exact congrArg (fun chooser : Core.Coordinator.Chooser =>
        some (chooser.choices.map Choice.candidate))
          (update_other false apart).symm

theorem upToDate_emptied {other chooser : Nat}
    (upToDate : UpToDate world other) :
    UpToDate (emptyChooser world id chooser) other where
  fresh enumeration flying choosing once :=
    (upToDate.fresh enumeration flying choosing once).cons rfl
  swept seated := (upToDate.swept seated).cons rfl

/-! ## Nudges -/

theorem lists_nudge (nudge : Nudge world next) (ordered : Ordered world)
    (lists : Lists world) : Lists next := by
  cases nudge with
  | touched touched => exact lists.calm (Touched.calm touched)
  | kept kept closed => exact { lists with }
  | closes id => exact lists.calm (calm_close id)
  | emptied choosing running => exact lists_emptied lists ordered choosing
  | refreshed choosing landed => exact lists_start lists _
  | invalidated id reason running => exact { lists with }

theorem upToDate_nudge (nudge : Nudge world next) (ordered : Ordered world)
    (upToDate : UpToDate world id) : UpToDate next id := by
  cases nudge with
  | touched touched => exact upToDate.calm (Touched.calm touched) ordered
  | kept kept closed => exact { upToDate with }
  | closes id => exact upToDate.calm (calm_close id) ordered
  | emptied choosing running => exact upToDate_emptied upToDate
  | refreshed choosing landed =>
      exact upToDate_start ordered landed upToDate
  | invalidated id reason running => exact { upToDate with }

/-- What is kept while the coordinator goes through a loop. -/
structure Loop (world : World) : Prop extends Ordered world where
  running : world.ui.shutdownPosted = false
  lists : Lists world

theorem Loop.nudge (loop : Loop world) (nudge : Nudge world next) :
    Loop next where
  toOrdered := loop.toOrdered.nudge nudge
  running := (Nudge.steady nudge).shutdownPosted.trans loop.running
  lists := lists_nudge nudge loop.toOrdered loop.lists

theorem Loop.nudged (loop : Loop world) (nudged : Nudged world next) :
    Loop next :=
  nudged.keeps (fun _ _ nudge loop => loop.nudge nudge) loop

theorem UpToDate.nudged (upToDate : UpToDate world id) (loop : Loop world)
    (nudged : Nudged world next) : UpToDate next id := by
  refine (@Composed.keeps _ _ (fun world => Loop world ∧ UpToDate world id)
    ?_ _ _ nudged ⟨loop, upToDate⟩).2
  rintro first second nudge ⟨loop, upToDate⟩
  exact ⟨loop.nudge nudge, upToDate_nudge nudge loop.toOrdered upToDate⟩

/-! ## An event is dispatched -/

/-- Nothing is shown for a request that the coordinator is not at. -/
theorem upToDate_idle (ordered : Ordered world)
    (idle : ¬Engaged (floor world) id) : UpToDate world id where
  fresh enumeration flying _ _ :=
    absurd (ordered.flight flying).1 idle
  swept seated := by
    rcases Option.isSome_iff_exists.mp seated with ⟨chooser, choosing⟩
    exact absurd (ordered.seat choosing).1 idle

/-- After its chooser has ended no list is shown for a request. -/
theorem upToDate_completed (ordered : Ordered world)
    (past : (world.requests id).chooserCompleted = true) :
    UpToDate world id where
  fresh enumeration flying choosing _ := by
    rw [past] at choosing
    cases choosing
  swept seated := by
    rcases Option.isSome_iff_exists.mp seated with ⟨chooser, choosing⟩
    have goesOn : (world.requests id).chooserCompleted = false :=
      (ordered.orderly.choosing id chooser choosing).2.1
    rw [past] at goesOn
    cases goesOn

/-- The enumeration that is running will be asked for again. -/
theorem upToDate_askAgain
    (swept : (world.requests id).chooser.isSome = true →
      Swept id world.trace) :
    UpToDate (askAgain world id) id where
  fresh enumeration flying choosing once := by
    rw [askAgain, World.setRequest_self] at once
    cases once
  swept seated := by
    rw [askAgain, World.setRequest_self] at seated
    exact swept seated

/-- The enumeration that starts is the only one. -/
theorem upToDate_restart (ordered : Ordered world)
    (landed : (world.requests id).enumerating = false)
    (swept : (world.requests id).chooser.isSome = true →
      Swept id world.trace) :
    UpToDate (startEnumeration world id) id :=
  upToDate_start ordered landed
    { fresh := fun enumeration flying _ _ =>
        absurd flying (ordered.grounded landed enumeration)
      swept }

variable {presence : WatchEvent}

theorem swept_tellChooser
    (before : presence.added = true →
      (world.requests id).chooser.isSome = true → Swept id world.trace)
    (seated : ((tellChooser world presence id).requests id).chooser.isSome =
      true) :
    Swept id (tellChooser world presence id).trace := by
  rw [requests_tellChooser] at seated
  rw [tellChooser]
  split
  · split_ifs with added
    · exact before added seated
    · exact swept_emptied
  · rename_i none
    rw [none] at seated
    cases seated

theorem upToDate_openEvent (loop : Loop world)
    (before : presence.added = true →
      (world.requests id).chooser.isSome = true → Swept id world.trace) :
    UpToDate (openEvent world presence id) id := by
  rw [openEvent]
  dsimp only
  split_ifs with idle flying
  · rw [Bool.and_eq_true, Option.isNone_iff_eq_none, Bool.not_eq_true']
      at idle
    refine ⟨fun enumeration flying => ?_, fun seated => ?_⟩
    · exact absurd flying (loop.toOrdered.grounded idle.2 enumeration)
    · rw [idle.1] at seated
      cases seated
  · exact upToDate_askAgain (swept_tellChooser before)
  · have told := nudged_tellChooser loop.running presence id
    refine upToDate_restart (loop.nudged told).toOrdered ?_
      (swept_tellChooser before)
    rw [requests_tellChooser]
    exact Bool.eq_false_iff.mpr flying

/-- A request has heard of an event. -/
theorem upToDate_turn (loop : Loop world)
    (before : presence.added = true →
      (world.requests id).chooser.isSome = true → Swept id world.trace) :
    UpToDate (acquireEvent presence world id) id := by
  have ordered :=
    (loop.nudged (nudged_acquireEvent loop.running presence id)).toOrdered
  rw [acquireEvent] at ordered ⊢
  split_ifs at ordered ⊢ with other past
  · refine upToDate_idle ordered fun engaged => ?_
    have goesOn : (world.requests id).answered = false := engaged.unanswered
    have kind : (world.requests id).kind = .acquire := engaged.kind
    rw [goesOn, kind] at other
    cases other
  · exact upToDate_completed ordered
      (((touched_completedEvent presence id).requests id).completed.trans
        past)
  · exact upToDate_openEvent loop before

theorem undispatched_nudge (nudge : Nudge world next) :
    Adds (fun event => isDispatched event = false) world.trace next.trace := by
  cases nudge with
  | touched touched =>
      rw [touched.rest]
      exact .refl _
  | closes id =>
      refine (calm_close id).trace.mono fun event quiet => ?_
      cases event <;> first | rfl | cases quiet
  | emptied choosing running => exact (Adds.refl _).cons rfl
  | refreshed choosing landed => exact (Adds.refl _).cons rfl
  | _ => exact .refl _

theorem swept_nudged (nudged : Nudged world next)
    (before : ∀ id, (world.requests id).chooser.isSome = true →
      Swept id world.trace) (id : Nat)
    (seated : (next.requests id).chooser.isSome = true) :
    Swept id next.trace := by
  have same := ((Nudged.steady nudged).requests id).chooser
  have trace := @Composed.relates _ _
    (fun (first second : World) =>
      Adds (fun event => isDispatched event = false) first.trace second.trace)
    (fun world => .refl world.trace) (fun _ _ _ => Adds.trans)
    (fun _ _ => undispatched_nudge) _ _ nudged
  exact (before id (same ▸ seated)).adds trace

/-- Every request has heard of an event. -/
theorem upToDate_eachAcquisition (loop : Loop world)
    (before : presence.added = true → ∀ id,
      (world.requests id).chooser.isSome = true → Swept id world.trace)
    (id : Nat) :
    UpToDate (eachRequest world (acquireEvent presence)) id := by
  let heard (world : World) : Prop := Loop world ∧
    (presence.added = true → ∀ id,
      (world.requests id).chooser.isSome = true → Swept id world.trace)
  have nudged (world : World) (index : Nat) (here : heard world) :
      Nudged world (acquireEvent presence world index) :=
    nudged_acquireEvent here.1.running presence index
  have hears (world : World) (index : Nat) (here : heard world) :
      heard (acquireEvent presence world index) :=
    ⟨here.1.nudged (nudged world index here), fun added =>
      swept_nudged (nudged world index here) (here.2 added)⟩
  by_cases active : id ∈ world.active
  · exact foldl_settles heard UpToDate hears
      (fun world index other here upToDate =>
        upToDate.nudged here.1 (nudged world index here))
      (fun world index here => upToDate_turn here.1
        fun added => here.2 added index)
      world.active ⟨loop, before⟩ active
  · have every := nudged_eachAcquisition loop.running presence
    refine upToDate_idle (loop.nudged every).toOrdered fun engaged =>
      active ?_
    have member : id ∈ (eachRequest world (acquireEvent presence)).active :=
      engaged.active
    rw [(Nudged.steady every).active] at member
    exact member

theorem Loop.noted (loop : Loop world) (presence : WatchEvent) :
    Loop (world.emit (.dispatched presence)) where
  orderly := loop.orderly
  born := loop.born
  running := loop.running
  lists := loop.lists.aside { Aside.refl world with }
    ((Adds.refl _).cons rfl)

theorem upToDate_tokenEvent (loop : Loop world)
    (upToDate : ∀ id, UpToDate world id) (presence : WatchEvent) (id : Nat) :
    UpToDate (tokenEvent world presence) id := by
  have noted := loop.noted presence
  have told := nudged_eachAcquisition noted.running presence
  have heard (id : Nat) := upToDate_eachAcquisition noted
    (fun added id seated => ((upToDate id).swept seated).inserted added) id
  rw [tokenEvent]
  split_ifs
  · exact heard id
  · refine (heard id).nudged (noted.nudged told)
      (nudged_eachSession (noted.nudged told).running ?_)
    intro world session running
    split_ifs
    · exact nudged_invalidate running session _
    · exact .refl

/-- After a dispatch nothing is too old. -/
theorem upToDate_dispatchPending (loop : Loop world)
    (upToDate : ∀ id, UpToDate world id) :
    Loop (dispatchPending world) ∧
      ∀ id, UpToDate (dispatchPending world) id := by
  have all (events : List WatchEvent) (world : World) (loop : Loop world)
      (upToDate : ∀ id, UpToDate world id) :
      Loop (events.foldl tokenEvent world) ∧
        ∀ id, UpToDate (events.foldl tokenEvent world) id := by
    induction events generalizing world with
    | nil => exact ⟨loop, upToDate⟩
    | cons presence rest ih =>
        have noted := loop.noted presence
        exact ih (tokenEvent world presence)
          (noted.nudged (nudged_tokenEvent loop.running presence))
          (upToDate_tokenEvent loop upToDate presence)
  exact all world.events { world with events := [] }
    ⟨⟨loop.orderly, loop.born⟩, loop.running, { loop.lists with }⟩
    fun id => { upToDate id with }

/-! ## A list is published -/

theorem calm_landed (id enumeration : Nat) :
    Calm world (landed world id enumeration) := by
  have wrote : Calm world (world.setRequest id
      { world.requests id with enumerating := false }) :=
    .setRequest ⟨rfl, .inl rfl, fun past => past, fun told => told⟩
      fun once => once
  exact { wrote with
    flights := fun flight flying => List.mem_of_mem_erase flying }

/-- A list has gone to a chooser. -/
structure Publishes
    (world next : World) (id enumeration chooser : Nat)
    (candidates : List CertificateCandidate) : Prop where
  trace : next.trace = .published id enumeration candidates :: world.trace
  requests : next.requests = Function.update world.requests id
    { world.requests id with chooser := some chooser }
  rows : (next.ui.choosers chooser).choices.map Choice.candidate = candidates
  others : ∀ other shows, other ≠ id →
    (world.requests other).chooser = some shows →
      next.ui.choosers shows = world.ui.choosers shows
  nextRequest : next.nextRequest = world.nextRequest
  enumerations : next.enumerations = world.enumerations

theorem publishes_publish (ordered : Ordered world) (id enumeration : Nat)
    (candidates : List CertificateCandidate) (tokensPresent : Bool) :
    ∃ chooser, Publishes world
      (publish world id enumeration candidates tokensPresent) id enumeration
      chooser candidates := by
  rw [publish]
  cases choosing : (world.requests id).chooser with
  | some chooser =>
      have showing := (ordered.orderly.choosing id chooser choosing).2.2.2
      refine ⟨chooser, rfl, ?_,
        update_self tokensPresent (congrArg Seat.finished showing), ?_,
        rfl, rfl⟩
      · have same : { world.requests id with chooser := some chooser } =
            world.requests id := by rw [← choosing]
        rw [same]
        exact (Function.update_eq_self id world.requests).symm
      · intro other shows apart there
        apply update_other
        rintro rfl
        exact apart (ordered.apart there choosing)
  | none =>
      rcases surroundings_show world.ui (some (cancellable id)) candidates
        tokensPresent with ⟨made, -, -, rows, same⟩
      have choosers := congrArg Surroundings.choosers same
      refine ⟨world.ui.nextChooser, rfl, rfl, ?_, ?_, rfl, rfl⟩
      · have here := (congrFun choosers world.ui.nextChooser).trans
          (Function.update_self ..)
        refine (congrArg (fun chooser : Core.Coordinator.Chooser =>
          chooser.choices.map Choice.candidate) here).trans ?_
        rw [rows]
        exact (numbered_numberRows ..).entries
      · intro other shows apart there
        have old : shows < world.ui.nextChooser :=
          (ordered.orderly.choosing other shows there).2.2.1
        exact (congrFun choosers shows).trans
          (Function.update_of_ne old.ne ..)

section Publishes

variable {enumeration chooser : Nat} {candidates : List CertificateCandidate}
  (publishes : Publishes world next id enumeration chooser candidates)

include publishes

theorem Publishes.self :
    next.requests id =
      { world.requests id with chooser := some chooser } := by
  rw [publishes.requests, Function.update_self]

theorem Publishes.other {other : Nat} (apart : other ≠ id) :
    next.requests other = world.requests other := by
  rw [publishes.requests, Function.update_of_ne apart]

theorem Publishes.field {Value : Type} (field : XccRequest → Value)
    (kept : field { world.requests id with chooser := some chooser } =
      field (world.requests id)) (other : Nat) :
    field (next.requests other) = field (world.requests other) := by
  by_cases same : other = id
  · rw [same, publishes.self, kept]
  · rw [publishes.other same]

theorem lists_published (lists : Lists world)
    (born : id < world.nextRequest)
    (sound : Sound world (.published id enumeration candidates)
      world.trace) : Lists next where
  sound := by
    have filters := publishes.field (fun request => request.filter) rfl
    rw [publishes.trace]
    refine each_cons.mpr ⟨sound.filter fun id _ _ _ => filters id, ?_⟩
    intro since event before split
    exact (lists.sound since event before split).filter
      fun id _ _ _ => filters id
  seated other shown := by
    rw [publishes.nextRequest]
    by_cases same : other = id
    · subst same
      refine ⟨born, .inl ?_⟩
      rw [publishes.self]
      rfl
    · rcases shown with ⟨number, list, member⟩
      have old : Shown other world.trace := by
        rw [publishes.trace] at member
        rcases List.mem_cons.mp member with new | old
        · cases new
          exact absurd rfl same
        · exact ⟨number, list, old⟩
      rw [Seated, publishes.other same]
      exact lists.seated other old
  rows other shows choosing := by
    rw [publishes.trace, lastList, List.findSome?_cons]
    by_cases same : other = id
    · subst same
      rw [publishes.self] at choosing
      cases choosing
      rw [publishes.rows, show listOf other
        (.published other enumeration candidates) = some candidates from
        if_pos rfl]
    · rw [publishes.other same] at choosing
      rw [publishes.others other shows same choosing, show listOf other
        (.published id enumeration candidates) = none from
        if_neg fun eq => same eq.symm]
      exact lists.rows other shows choosing

theorem upToDate_published {other : Nat} (upToDate : UpToDate world other)
    (swept : Swept id world.trace) : UpToDate next other where
  fresh number flying choosing once := by
    rw [publishes.enumerations] at flying
    rw [publishes.field (fun request => request.chooserCompleted) rfl]
      at choosing
    rw [publishes.field (fun request => request.enumerateAgain) rfl] at once
    rw [publishes.trace]
    exact (upToDate.fresh number flying choosing once).cons rfl
  swept seated := by
    rw [publishes.trace]
    by_cases same : other = id
    · rw [same]
      exact swept.cons rfl
    · rw [publishes.other same] at seated
      exact (upToDate.swept seated).cons rfl

end Publishes

/-- Nothing old is left when a list is about to be published. -/
theorem swept_publishing (lists : Lists world)
    (upToDate : UpToDate world id) (engaged : Engaged (floor world) id)
    (choosing : (world.requests id).chooserCompleted = false) :
    Swept id world.trace := by
  by_cases shown : Shown id world.trace
  · rcases (lists.seated id shown).2 with seated | past | answered
    · exact upToDate.swept seated
    · rw [choosing] at past
      cases past
    · have unanswered : (world.requests id).answered = false :=
        engaged.unanswered
      rw [unanswered] at answered
      cases answered
  · exact swept_unshown shown

/-! ## Moves -/

/-- The invariant of the lists. -/
structure Timely (world : World) : Prop where
  lists : Lists world
  upToDate : ∀ id, UpToDate world id

theorem Timely.calm (timely : Timely world)
    (ordered : Ordered world) (calm : Calm world next) : Timely next :=
  ⟨timely.lists.calm calm,
    fun id => (timely.upToDate id).calm calm ordered⟩

theorem Timely.nudge (timely : Timely world)
    (ordered : Ordered world) (nudge : Nudge world next) :
    Timely next :=
  ⟨lists_nudge nudge ordered timely.lists,
    fun id => upToDate_nudge nudge ordered (timely.upToDate id)⟩

theorem Timely.nudged (timely : Timely world)
    (ordered : Ordered world) (nudged : Nudged world next) :
    Timely next :=
  (@Composed.keeps _ _ (fun world => Ordered world ∧ Timely world)
    (fun _ _ nudge here => ⟨here.1.nudge nudge, here.2.nudge here.1 nudge⟩)
    _ _ nudged ⟨ordered, timely⟩).2

/-- The lists stay timely when an enumeration starts. -/
theorem Timely.start (timely : Timely world)
    (ordered : Ordered world)
    (landed : (world.requests id).enumerating = false) :
    Timely (startEnumeration world id) :=
  ⟨lists_start timely.lists id,
    fun other => upToDate_start ordered landed (timely.upToDate other)⟩

theorem ordered_landed (ordered : Ordered world) {enumeration : Nat}
    (flying : (id, enumeration) ∈ world.enumerations) :
    Ordered (landed world id enumeration) :=
  ⟨orderly_landed ordered.orderly flying, ordered.born⟩

/-- The lists stay timely when a current report is published. -/
theorem Timely.publish (timely : Timely world)
    (ordered : Ordered world) {enumeration : Nat}
    {snapshot : List CertificateCandidate} {realTime : Int}
    (tokensPresent : Bool)
    (flying : (id, enumeration) ∈ world.enumerations)
    (current : (world.requests id).enumerateAgain = false)
    (choosing : (world.requests id).chooserCompleted = false)
    (reported : .enumerated id enumeration (.ok snapshot) ∈ world.trace) :
    Timely
      (publish (landed world id enumeration) id enumeration
        (certificateFilterApply snapshot (world.requests id).filter realTime)
        tokensPresent) := by
  have flight := ordered.flight flying
  have swept := swept_publishing timely.lists (timely.upToDate id)
    flight.1 choosing
  have now := (timely.upToDate id).fresh enumeration flying choosing
    current
  have there := timely.calm ordered (calm_landed id enumeration)
  rcases publishes_publish (ordered_landed ordered flying) id enumeration
    (certificateFilterApply snapshot (world.requests id).filter realTime)
    tokensPresent with ⟨chooser, publishes⟩
  refine ⟨lists_published publishes there.lists flight.2 ?_,
    fun other => upToDate_published publishes (there.upToDate other) swept⟩
  refine ⟨now, swept, snapshot, realTime, reported, ?_⟩
  rw [landed_self]

theorem calm_new {request : XccRequest}
    (untouched : request.chooser = none)
    (requests : next.requests =
      Function.update world.requests world.nextRequest request)
    (same : next =
      { world with
        requests := next.requests, nextRequest := world.nextRequest + 1
        posts := next.posts, queue := next.queue }) :
    Calm world next where
  requests id born := by
    rw [requests, Function.update_of_ne born.ne]
    exact .refl _
  nextRequest := by
    rw [same]
    exact Nat.le_succ _
  rows id chooser choosing := by
    by_cases new : id = world.nextRequest
    · rw [requests, new, Function.update_self, untouched] at choosing
      cases choosing
    · rw [requests, Function.update_of_ne new] at choosing
      refine ⟨choosing, ?_⟩
      rw [same]
  trace := by
    rw [same]
    exact .refl _
  flights flight flying := by
    rw [same] at flying
    exact flying
  again id born once := by
    rw [requests, Function.update_of_ne born.ne] at once
    exact once

theorem calm_complete (id : Nat) (error : XccErrorCode) :
    Calm world (xccRequestComplete world id error) := by
  rw [xccRequestComplete]
  dsimp only
  split_ifs
  · exact .refl _
  · have wrote : Calm world (world.setRequest id
        { world.requests id with
          answered := true
          result := answerResult (world.requests id)
            (answerError world id error) }) :=
      .setRequest ⟨rfl, .inl rfl, fun past => past, fun _ => rfl⟩
        fun once => once
    exact { wrote with }

theorem calm_concluded {ui : Core.Coordinator.World} {chooser : Nat}
    (ordered : Ordered world) (reply : Option Reply)
    (chosen : Option CertificateCandidate) (error : XccErrorCode)
    (ends : Ends world ui id chooser) :
    Calm world
      (({ world with ui }.emit
          (.concluded id reply
            (Core.Chooser.chooserView (world.ui.choosers chooser)) chosen
            (world.requests id).enumerating world.events)).setRequest id
        (conclude (world.requests id) chosen error)) := by
  have first : (world.requests id).chooserCompleted = false :=
    (ordered.orderly.choosing id chooser ends.choosing).2.1
  have concluded : conclude (world.requests id) chosen error =
      { world.requests id with
        chooser := none, chooserCompleted := true, pendingError := error
        pendingChosen := chosen } := by
    rw [conclude, if_neg (by rw [first]; exact Bool.false_ne_true)]
  rw [concluded]
  have wrote := @Calm.setRequest id world
    { world.requests id with
      chooser := none, chooserCompleted := true, pendingError := error
      pendingChosen := chosen }
    ⟨rfl, .inr ⟨rfl, rfl⟩, fun _ => rfl, fun told => told⟩
    fun once => once
  refine { wrote with trace := (Adds.refl _).cons rfl, rows := ?_ }
  intro other shows choosing
  have before := (wrote.rows other shows choosing).1
  refine ⟨before, ?_⟩
  have apart : shows ≠ chooser := by
    rintro rfl
    have same := ordered.apart before ends.choosing
    rw [same, World.setRequest_self] at choosing
    cases choosing
  exact congrArg (·.choices) (ends.others shows apart)

/-- Every move keeps the lists timely. -/
theorem timely_move (move : Move world next) (basic : Basic world)
    (timely : Timely world) : Timely next := by
  have ordered := Starts.Basic.ordered basic
  have plain (id : Nat) (request : XccRequest)
      (glimpse : Glimpse (world.requests id) request)
      (again : request.enumerateAgain =
        (world.requests id).enumerateAgain) :
      Calm world (world.setRequest id request) :=
    .setRequest glimpse again.symm.trans
  cases move with
  | nudge nudge => exact timely.nudge ordered nudge
  | dispatched running =>
      rcases upToDate_dispatchPending
        ⟨ordered, running, timely.lists⟩ timely.upToDate with
        ⟨loop, upToDate⟩
      exact ⟨loop.lists, upToDate⟩
  | @regenerated value rest running posts =>
      have set : Calm world
          ({ world with posts := rest, generation := value }.emit
            (.ownerGeneration value)) :=
        { @Calm.emit world (.ownerGeneration value) rfl with }
      exact (timely.calm ordered set).nudged ⟨ordered.orderly, ordered.born⟩
        (@nudged_generation { world with posts := rest } running value)
  | begun unanswered active untouched =>
      exact timely.start ordered untouched.enumerating
  | @restarted id enumeration flying enumerating =>
      refine (timely.calm ordered (calm_landed id enumeration)).start
        (ordered_landed ordered flying) ?_
      rw [landed_self]
  | published tokensPresent flying enumerating current choosing allowed
      available reported running =>
      exact timely.publish ordered tokensPresent flying current choosing
        reported
  | scheduled => exact timely.calm ordered (calm_new rfl rfl rfl)
  | refused => exact timely.calm ordered (calm_new rfl rfl rfl)
  | handed =>
      exact timely.calm ordered (plain _ _
        ⟨rfl, .inl rfl, fun past => past, fun told => told⟩ rfl)
  | answered => exact timely.calm ordered (calm_complete _ _)
  | landed flying enumerating =>
      exact timely.calm ordered (calm_landed _ _)
  | @concluded ui id chooser reply chosen error ends fair =>
      exact timely.calm ordered
        (calm_concluded ordered reply chosen error ends)
  | @granted id session candidate answerable completed bound opened wanted
      consented =>
      have wrote := plain id
        { world.requests id with
          candidate := some candidate
          result := { (world.requests id).result with
            maySign := (world.requests id).maySign } }
        ⟨rfl, .inl rfl, fun past => past, fun told => told⟩ rfl
      have grants : Calm world (grantRequest world id session candidate) :=
        { wrote with trace := (Adds.refl _).cons rfl }
      exact timely.calm ordered (grants.trans (calm_complete id .ok))
  | registered spec running current =>
      rw [sessionNewRegister]
      split_ifs
      · exact timely
      · exact timely.calm ordered { Calm.refl world with }
  | @rolledBack id rest posts =>
      have wrote := plain id { world.requests id with candidate := none }
        ⟨rfl, .inl rfl, fun past => past, fun told => told⟩ rfl
      refine timely.calm ordered ?_
      rw [rollbackAcquisition]
      dsimp only
      split <;> exact { wrote with trace := (Adds.refl _).cons rfl }
  | acknowledged => exact timely.calm ordered { Calm.refl world with }
  | shut ready =>
      rw [xccContextCheckShutdown, if_pos ready]
      exact timely.calm ordered { Calm.refl world with }
  | @reads id rest idle queue =>
      have wrote (result : XccResult) := plain id
        { world.requests id with result }
        ⟨rfl, .inl rfl, fun past => past, fun told => told⟩ rfl
      exact timely.calm ordered
        { wrote _ with trace := (Adds.refl _).cons rfl }
  | settles delivering =>
      refine timely.calm ordered ?_
      rw [completionSettles]
      dsimp only
      split_ifs
      · rw [World.post]
        split_ifs <;> exact { Calm.refl world with }
      · split <;> exact { Calm.refl world with }
      · exact { Calm.refl world with }
  | @calls id calling =>
      refine timely.calm ordered ?_
      have told (result : XccResult) : Calm world
          ({ world with desktop := .idle }.emit (.done id result)) :=
        { @Calm.emit world (.done id result) rfl with }
      rw [completionCalls]
      dsimp only
      split_ifs
      · exact { told _ with }
      · rw [World.post]
        split_ifs <;> exact { told _ with }
  | uiTold aside waiting =>
      exact timely.calm ordered ((Touched.calm (.ofAside aside)).trans
        (.emit _ rfl))
  | signed granted free => exact timely.calm ordered (.emit world rfl)
  | reported id enumeration outcome =>
      exact timely.calm ordered (.emit world rfl)
  | validated posts =>
      exact timely.calm ordered
        { @Calm.emit world (.validated _ _) rfl with }
  | invalidationTold idle queue =>
      exact timely.calm ordered
        { @Calm.emit world (.sessionInvalidated _ _) rfl with }
  | shutdownTold idle queue =>
      exact timely.calm ordered
        { @Calm.emit world .shutdownDone rfl with }
  | outside => exact timely.calm ordered { Calm.refl world with }
  | mailed => exact timely.calm ordered { Calm.refl world with }
  | opened => exact timely.calm ordered { Calm.refl world with }

/-- The lists are timely in every reachable state. -/
theorem timely_of_reachable (reachable : machine.Reachable world) :
    Timely world := by
  refine invariant_of_moves ?_ ?_ reachable
  · intro ui generation now _
    refine ⟨⟨each_nil, ?_, ?_⟩, fun id => ⟨?_, ?_⟩⟩
    · rintro id ⟨enumeration, candidates, member⟩
      cases member
    · intro id chooser choosing
      cases choosing
    · intro enumeration flying
      cases flying
    · intro seated
      cases seated
  · exact fun world next basic timely move => timely_move move basic timely

/-- An acquisition has one enumeration at most, what goes to its chooser is
current, and a removal takes away what is shown. -/
theorem lists_current (reachable : machine.Reachable world) :
    (∀ id, world.enumerations.countP (fun flight => flight.1 = id) ≤ 1) ∧
      Each (Sound world) world.trace ∧
      ∀ id chooser, (world.requests id).chooser = some chooser →
        Swept id world.trace ∧
          lastList id world.trace =
            some ((world.ui.choosers chooser).choices.map
              Choice.candidate) := by
  have timely := timely_of_reachable reachable
  refine ⟨fun id => ?_, timely.lists.sound, fun id chooser choosing => ?_⟩
  · have count : world.enumerations.countP (fun flight => flight.1 = id) =
        (world.requests id).enumerating.toNat :=
      (basic_of_reachable reachable).orderly.flights id
    rw [count]
    exact Bool.toNat_le _
  · exact ⟨(timely.upToDate id).swept (by rw [choosing]; rfl),
      timely.lists.rows id chooser choosing⟩

/-- A card is removed while its certificate is shown, and what is read after
that is shown. -/
theorem lists_current_removed :
    ∃ world,
      machine.run exampleStart
          (exampleChoosing ++
            [.watchEmit exampleRemoval, .dispatchEvents,
              .enumerated 0 1 (.ok []) true 0]) = some world ∧
        (∃ before, world.trace =
          .published 0 1 [] :: .enumerated 0 1 (.ok []) ::
            .enumerationStarted 0 1 :: .emptied 0 ::
              .dispatched exampleRemoval ::
                .published 0 0 [exampleCandidate [1]] :: before) ∧
        Current 0 1 world.trace.tail ∧ Swept 0 world.trace.tail := by
  have moved : machine.run exampleStart
      (exampleChoosing ++
        [.watchEmit exampleRemoval, .dispatchEvents,
          .enumerated 0 1 (.ok []) true 0]) = some _ := rfl
  have reachable := exampleStart_reachable.run moved
  have sound := (lists_current reachable).2.1 [] (.published 0 1 []) _ rfl
  exact ⟨_, moved, ⟨_, rfl⟩, sound.1, sound.2.1⟩

end PortalCertificate.Context.Snapshots
