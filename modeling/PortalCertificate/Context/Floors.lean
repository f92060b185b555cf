import PortalCertificate.Context.Deliveries

/-!
# Acquisitions that are under way

An acquisition that enumerates or that chooses has not been answered.  It has
one chooser at most, which is open, and at most one enumeration.  All this is
said of the part of a context that it concerns.
-/

namespace PortalCertificate.Context.Floors

open PortalCertificate.Context.Accounts
open PortalCertificate.Context.Acquire
open PortalCertificate.Context.Completion
open PortalCertificate.Context.Deliveries
open PortalCertificate.Context.Machine
open PortalCertificate.Context.Moves
open PortalCertificate.Context.Nudges
open PortalCertificate.Context.Requests
open PortalCertificate.Context.Sessions
open PortalCertificate.Core.Coordinator (XccErrorCode)
open PortalCertificate.Core.UiFrames
open PortalCertificate.Library.Transition
open PortalCertificate.Tokens.Discovery

/-! ## The part of a context -/

/-- How far a request has come. -/
structure Standing where
  kind : XccResultKind
  session : Option Nat
  forbidden : Bool
  answered : Bool
  chooser : Option Nat
  enumerating : Bool
  completed : Bool
  working : Bool

/-- The fields of a request that choosers and enumerations depend on. -/
def standing (request : XccRequest) : Standing where
  kind := request.kind
  session := request.session
  forbidden := request.interactionForbidden
  answered := request.answered
  chooser := request.chooser
  enumerating := request.enumerating
  completed := request.chooserCompleted
  working := request.working

/-- Whether a chooser is open, and for what. -/
structure Seat where
  finished : Bool
  cancellable : Option Nat

/-- The fields of a chooser that requests depend on. -/
def seat (chooser : Core.Coordinator.Chooser) : Seat where
  finished := chooser.finished
  cancellable := chooser.cancellable

/-- The part of the context that decides which chooser is open and which
enumeration runs. -/
structure Floor where
  requests : Nat → Standing
  active : List Nat
  enumerations : List (Nat × Nat)
  choosers : Nat → Seat
  nextChooser : Nat
  available : Bool

/-- The floor of a context. -/
def floor (world : World) : Floor where
  requests id := standing (world.requests id)
  active := world.active
  enumerations := world.enumerations
  choosers chooser := seat (world.ui.choosers chooser)
  nextChooser := world.ui.nextChooser
  available := world.ui.chooserAvailable

/-- A request is written, with what is in flight. -/
def Floor.write
    (floor : Floor) (id : Nat) (request : Standing)
    (enumerations : List (Nat × Nat)) : Floor :=
  { floor with
    requests := Function.update floor.requests id request, enumerations }

/-- A chooser is replaced. -/
def Floor.setChooser (floor : Floor) (id : Nat) (chooser : Seat) : Floor :=
  { floor with choosers := Function.update floor.choosers id chooser }

/-! ## The invariant -/

/-- An acquisition that the coordinator is at. -/
structure Engaged (floor : Floor) (id : Nat) : Prop where
  active : id ∈ floor.active
  unanswered : (floor.requests id).answered = false
  kind : (floor.requests id).kind = .acquire

/-- The chooser that is open for a request. -/
def openSeat (request : Nat) : Seat where
  finished := false
  cancellable := some (cancellable request)

/-- Choosers and enumerations belong to requests that are active and
unanswered. -/
structure Orderly (floor : Floor) : Prop where
  choosing : ∀ id chooser, (floor.requests id).chooser = some chooser →
    Engaged floor id ∧ (floor.requests id).completed = false ∧
      chooser < floor.nextChooser ∧
      floor.choosers chooser = openSeat id
  shown : ∀ id, (floor.requests id).chooser.isSome = true →
    (floor.requests id).forbidden = false ∧ floor.available = true
  owned : ∀ chooser, (floor.choosers chooser).finished = false →
    ∃ id, (floor.requests id).chooser = some chooser
  enumerating : ∀ id, (floor.requests id).enumerating = true →
    Engaged floor id
  flights : ∀ id,
    floor.enumerations.countP (fun flight => flight.1 = id) =
      (floor.requests id).enumerating.toNat
  works : ∀ id, (floor.requests id).working = true →
    (floor.requests id).kind ≠ .acquire ∧
      ((floor.requests id).answered = true ∨ id ∈ floor.active)
  completed : ∀ id, (floor.requests id).completed = true →
    (floor.requests id).answered = true ∨ id ∈ floor.active
  bound : ∀ id, (floor.requests id).kind ≠ .capabilities →
    (floor.requests id).session.isSome = true

variable {world next : World} {id : Nat}

/-! ## What is kept -/

theorem floor_setRequest (request : XccRequest) :
    floor (world.setRequest id request) =
      (floor world).write id (standing request) world.enumerations := by
  have requests :
      (fun other => standing (Function.update world.requests id request
        other)) =
      Function.update (fun other => standing (world.requests other)) id
        (standing request) :=
    Function.comp_update standing world.requests id request
  rw [floor, Floor.write, floor]
  dsimp only [World.setRequest]
  rw [requests]

theorem floor_same_request {request : XccRequest}
    (same : standing request = standing (world.requests id)) :
    floor (world.setRequest id request) = floor world := by
  rw [floor_setRequest, same, Floor.write]
  congr 1
  exact Function.update_eq_self id (floor world).requests

theorem floor_ui {ui : Core.Coordinator.World}
    (seats : ∀ chooser,
      seat (ui.choosers chooser) = seat (world.ui.choosers chooser))
    (nextChooser : ui.nextChooser = world.ui.nextChooser)
    (available : ui.chooserAvailable = world.ui.chooserAvailable) :
    floor { world with ui } = floor world := by
  rw [floor, floor]
  dsimp only
  rw [funext seats, nextChooser, available]

theorem SameChooser.seat {before after : Core.Coordinator.Chooser}
    (same : SameChooser before after) : seat after = seat before := by
  rw [Floors.seat, Floors.seat, same.finished, same.cancellable]

theorem UiAside.floor {ui : Core.Coordinator.World}
    (aside : UiAside world.ui ui) :
    floor { world with ui } = floor world :=
  floor_ui (fun chooser => SameChooser.seat (aside.choosers chooser))
    aside.nextChooser aside.available

theorem Alike.standing {before after : XccRequest}
    (alike : Alike before after) : standing after = standing before := by
  rw [Floors.standing, Floors.standing, alike.answered, alike.chooser,
    alike.enumerating, alike.completed, alike.working]
  rw [show after.kind = before.kind from congrArg Asked.kind alike.asked,
    show after.session = before.session from
      congrArg Asked.session alike.asked,
    show after.interactionForbidden = before.interactionForbidden from
      congrArg Asked.interactionForbidden alike.asked]

/-- A change of the rows. -/
theorem floor_update (chooser : Nat)
    (candidates : List CertificateCandidate) (tokensPresent : Bool) :
    floor { world with
      ui := Core.Chooser.chooserUpdate world.ui chooser candidates
        tokensPresent } = floor world := by
  by_cases showing : (world.ui.choosers chooser).finished = true
  · rw [Core.Chooser.chooserUpdate, if_pos showing]
  · have told := surroundings_update world.ui chooser candidates
      tokensPresent (Bool.eq_false_iff.mpr showing)
    refine floor_ui ?_ (congrArg Surroundings.nextChooser told)
      (congrArg Surroundings.chooserAvailable told)
    intro other
    have choosers := congrFun (congrArg Surroundings.choosers told) other
    refine (congrArg seat choosers).trans ?_
    by_cases here : other = chooser
    · rw [here, rechosen]
      dsimp only
      rw [Function.update_self]
      rfl
    · rw [rechosen]
      dsimp only
      rw [Function.update_of_ne here]

/-! ## One request changes -/

section Changes

variable {floor : Floor} {request : Standing}
  {enumerations : List (Nat × Nat)}

@[simp]
theorem write_self :
    (floor.write id request enumerations).requests id = request :=
  Function.update_self ..

theorem write_other {other : Nat} (ne : other ≠ id) :
    (floor.write id request enumerations).requests other =
      floor.requests other :=
  Function.update_of_ne ne ..

theorem Engaged.write {other : Nat} (engaged : Engaged floor other)
    (same : other = id →
      request.answered = false ∧ request.kind = .acquire) :
    Engaged (floor.write id request enumerations) other where
  active := engaged.active
  unanswered := by
    by_cases here : other = id
    · subst here
      rw [write_self]
      exact (same rfl).1
    · rw [write_other here]
      exact engaged.unanswered
  kind := by
    by_cases here : other = id
    · subst here
      rw [write_self]
      exact (same rfl).2
    · rw [write_other here]
      exact engaged.kind

/-- A request is written whose chooser stays. -/
theorem Orderly.write (orderly : Orderly floor)
    (chooser : request.chooser = (floor.requests id).chooser)
    (engaged : request.chooser.isSome = true ∨ request.enumerating = true →
      id ∈ floor.active ∧ request.answered = false ∧
        request.kind = .acquire)
    (choosing : request.chooser.isSome = true → request.completed = false)
    (shown : request.chooser.isSome = true →
      request.forbidden = false ∧ floor.available = true)
    (flights : ∀ other,
      enumerations.countP (fun flight => flight.1 = other) =
        if other = id then request.enumerating.toNat
        else floor.enumerations.countP (fun flight => flight.1 = other))
    (works : request.working = true → request.kind ≠ .acquire ∧
      (request.answered = true ∨ id ∈ floor.active))
    (completed : request.completed = true →
      request.answered = true ∨ id ∈ floor.active)
    (bound : request.kind ≠ .capabilities → request.session.isSome = true) :
    Orderly (floor.write id request enumerations) where
  choosing other taken here := by
    show Engaged (floor.write id request enumerations) other ∧
      ((floor.write id request enumerations).requests
          other).completed = false ∧
      taken < floor.nextChooser ∧ floor.choosers taken = openSeat other
    change ((floor.write id request enumerations).requests other).chooser = _
      at here
    by_cases same : other = id
    · subst same
      rw [write_self] at here ⊢
      have isSome : request.chooser.isSome = true := by
        rw [here]
        rfl
      have before := orderly.choosing other taken (chooser ▸ here)
      have now := engaged (.inl isSome)
      exact ⟨before.1.write fun _ => now.2, choosing isSome,
        before.2.2⟩
    · rw [write_other same] at here ⊢
      have before := orderly.choosing other taken here
      exact ⟨before.1.write fun same' => absurd same' same, before.2⟩
  shown other chooses := by
    show ((floor.write id request enumerations).requests other).forbidden =
      _ ∧ _
    change ((floor.write id request
      enumerations).requests other).chooser.isSome = _ at chooses
    by_cases same : other = id
    · subst same
      rw [write_self] at chooses ⊢
      exact shown chooses
    · rw [write_other same] at chooses ⊢
      exact orderly.shown other chooses
  owned taken showing := by
    rcases orderly.owned taken showing with ⟨other, here⟩
    refine ⟨other, ?_⟩
    show ((floor.write id request enumerations).requests other).chooser = _
    by_cases same : other = id
    · subst same
      rw [write_self, chooser]
      exact here
    · rw [write_other same]
      exact here
  enumerating other running := by
    show Engaged (floor.write id request enumerations) other
    change
      ((floor.write id request enumerations).requests other).enumerating = _
      at running
    by_cases same : other = id
    · subst same
      rw [write_self] at running
      have now := engaged (.inr running)
      refine ⟨now.1, ?_, ?_⟩ <;> rw [write_self]
      · exact now.2.1
      · exact now.2.2
    · rw [write_other same] at running
      exact (orderly.enumerating other running).write
        fun same' => absurd same' same
  flights other := by
    show enumerations.countP _ =
      ((floor.write id request enumerations).requests other).enumerating.toNat
    rw [flights]
    by_cases same : other = id
    · subst same
      rw [if_pos rfl, write_self]
    · rw [if_neg same, write_other same]
      exact orderly.flights other
  works other working := by
    show ((floor.write id request enumerations).requests other).kind ≠ _ ∧
      (((floor.write id request enumerations).requests
          other).answered = _ ∨ _)
    change ((floor.write id request enumerations).requests other).working = _
      at working
    by_cases same : other = id
    · subst same
      rw [write_self] at working ⊢
      exact works working
    · rw [write_other same] at working ⊢
      exact orderly.works other working
  completed other done := by
    show ((floor.write id request enumerations).requests
      other).answered = _ ∨ _
    change ((floor.write id request enumerations).requests other).completed = _
      at done
    by_cases same : other = id
    · subst same
      rw [write_self] at done ⊢
      exact completed done
    · rw [write_other same] at done ⊢
      exact orderly.completed other done
  bound other asks := by
    show
      ((floor.write id request enumerations).requests other).session.isSome =
        _
    change ((floor.write id request enumerations).requests other).kind ≠ _
      at asks
    by_cases same : other = id
    · subst same
      rw [write_self] at asks ⊢
      exact bound asks
    · rw [write_other same] at asks ⊢
      exact orderly.bound other asks

/-! ## Choosers come and go -/

/-- A request that has come on with its chooser only. -/
structure Rechosen (before after : Standing) : Prop where
  kind : after.kind = before.kind
  session : after.session = before.session
  forbidden : after.forbidden = before.forbidden
  answered : after.answered = before.answered
  enumerating : after.enumerating = before.enumerating
  working : after.working = before.working

theorem rechosen_write {chooser : Option Nat} {completed : Bool}
    (other : Nat) :
    Rechosen (floor.requests other)
      ((floor.write id { floor.requests id with chooser, completed }
        enumerations).requests other) := by
  by_cases same : other = id
  · rw [same, write_self]
    exact ⟨rfl, rfl, rfl, rfl, rfl, rfl⟩
  · rw [write_other same]
    exact ⟨rfl, rfl, rfl, rfl, rfl, rfl⟩

theorem Engaged.rechosen {after : Floor} (engaged : Engaged floor id)
    (requests : ∀ id, Rechosen (floor.requests id) (after.requests id))
    (active : after.active = floor.active) : Engaged after id where
  active := active ▸ engaged.active
  unanswered := (requests id).answered.trans engaged.unanswered
  kind := (requests id).kind.trans engaged.kind

theorem Orderly.rechosen {after : Floor} (orderly : Orderly floor)
    (requests : ∀ id, Rechosen (floor.requests id) (after.requests id))
    (active : after.active = floor.active)
    (enumerations : after.enumerations = floor.enumerations)
    (choosing : ∀ id chooser, (after.requests id).chooser = some chooser →
      Engaged floor id ∧ (after.requests id).completed = false ∧
        chooser < after.nextChooser ∧ after.choosers chooser = openSeat id)
    (shown : ∀ id, (after.requests id).chooser.isSome = true →
      (floor.requests id).forbidden = false ∧ after.available = true)
    (owned : ∀ chooser, (after.choosers chooser).finished = false →
      ∃ id, (after.requests id).chooser = some chooser)
    (completed : ∀ id, (after.requests id).completed = true →
      (floor.requests id).completed = true ∨ id ∈ floor.active) :
    Orderly after where
  choosing id chooser chooses := by
    have now := choosing id chooser chooses
    exact ⟨now.1.rechosen requests active, now.2⟩
  shown id chooses := by
    rw [(requests id).forbidden]
    exact shown id chooses
  owned := owned
  enumerating id running :=
    (orderly.enumerating id
      ((requests id).enumerating.symm.trans running)).rechosen requests active
  flights id := by
    rw [enumerations, (requests id).enumerating]
    exact orderly.flights id
  works id working := by
    rw [(requests id).kind, (requests id).answered, active]
    exact orderly.works id ((requests id).working.symm.trans working)
  completed id done := by
    rw [(requests id).answered, active]
    rcases completed id done with before | here
    · exact orderly.completed id before
    · exact .inr here
  bound id asks := by
    rw [(requests id).session]
    rw [(requests id).kind] at asks
    exact orderly.bound id asks

/-- The chooser of a request ends. -/
theorem Orderly.concludes (orderly : Orderly floor)
    {chooser : Nat} {last : Seat}
    (choosing : (floor.requests id).chooser = some chooser)
    (ended : last.finished = true) :
    Orderly
      ((floor.write id
        { floor.requests id with chooser := none, completed := true }
        floor.enumerations).setChooser chooser last) := by
  have here := orderly.choosing id chooser choosing
  refine orderly.rechosen
    (@rechosen_write id floor floor.enumerations none true) rfl rfl
    ?_ ?_ ?_ ?_
  · intro other taken chooses
    change ((floor.write id _ floor.enumerations).requests other).chooser = _
      at chooses
    show _ ∧
      ((floor.write id _ floor.enumerations).requests other).completed = _ ∧
        _ ∧
      Function.update floor.choosers chooser last taken = _
    by_cases same : other = id
    · rw [same, write_self] at chooses
      cases chooses
    · rw [write_other same] at chooses ⊢
      have before := orderly.choosing other taken chooses
      have apart : taken ≠ chooser := by
        rintro rfl
        have equal : some (cancellable other) = some (cancellable id) :=
          congrArg Seat.cancellable
            (before.2.2.2.symm.trans here.2.2.2)
        exact same (Nat.eq_of_mul_eq_mul_left Nat.two_pos
          (Option.some.inj equal))
      rw [Function.update_of_ne apart]
      exact before
  · intro other chooses
    change ((floor.write id _ floor.enumerations).requests
      other).chooser.isSome = _ at chooses
    by_cases same : other = id
    · rw [same, write_self] at chooses
      cases chooses
    · rw [write_other same] at chooses
      exact orderly.shown other chooses
  · intro taken showing
    change (Function.update floor.choosers chooser last taken).finished = _
      at showing
    by_cases same : taken = chooser
    · rw [same, Function.update_self, ended] at showing
      cases showing
    · rw [Function.update_of_ne same] at showing
      rcases orderly.owned taken showing with ⟨other, chooses⟩
      refine ⟨other, ?_⟩
      have apart : other ≠ id := by
        rintro rfl
        exact same (Option.some.inj (chooses.symm.trans choosing))
      show ((floor.write id _ floor.enumerations).requests other).chooser = _
      rw [write_other apart]
      exact chooses
  · intro other done
    change ((floor.write id _ floor.enumerations).requests other).completed =
      _ at done
    by_cases same : other = id
    · rw [same]
      exact .inr here.1.active
    · rw [write_other same] at done
      exact .inl done

/-- A chooser is made for a request. -/
theorem Orderly.shows (orderly : Orderly floor)
    (engaged : Engaged floor id)
    (free : (floor.requests id).chooser = none)
    (choosing : (floor.requests id).completed = false)
    (allowed : (floor.requests id).forbidden = false)
    (available : floor.available = true) :
    Orderly
      { (floor.write id
        { floor.requests id with chooser := some floor.nextChooser }
        floor.enumerations).setChooser floor.nextChooser (openSeat id) with
        nextChooser := floor.nextChooser + 1 } := by
  refine orderly.rechosen
    (@rechosen_write id floor floor.enumerations (some floor.nextChooser)
      (floor.requests id).completed) rfl rfl ?_ ?_ ?_ ?_
  · intro other taken chooses
    change ((floor.write id _ floor.enumerations).requests other).chooser = _
      at chooses
    show _ ∧
      ((floor.write id _ floor.enumerations).requests other).completed = _ ∧
      taken < floor.nextChooser + 1 ∧
      Function.update floor.choosers floor.nextChooser (openSeat id) taken = _
    by_cases same : other = id
    · rw [same, write_self] at chooses ⊢
      cases chooses
      rw [Function.update_self]
      exact ⟨engaged, choosing, Nat.lt_succ_self _, rfl⟩
    · rw [write_other same] at chooses ⊢
      have before := orderly.choosing other taken chooses
      rw [Function.update_of_ne (Nat.ne_of_lt before.2.2.1)]
      exact ⟨before.1, before.2.1, Nat.lt_succ_of_lt before.2.2.1,
        before.2.2.2⟩
  · intro other chooses
    change ((floor.write id _ floor.enumerations).requests
      other).chooser.isSome = _ at chooses
    by_cases same : other = id
    · rw [same]
      exact ⟨allowed, available⟩
    · rw [write_other same] at chooses
      exact ⟨(orderly.shown other chooses).1, available⟩
  · intro taken showing
    change (Function.update floor.choosers floor.nextChooser (openSeat id)
      taken).finished = _ at showing
    by_cases same : taken = floor.nextChooser
    · refine ⟨id, ?_⟩
      show ((floor.write id _ floor.enumerations).requests id).chooser = _
      rw [write_self, same]
    · rw [Function.update_of_ne same] at showing
      rcases orderly.owned taken showing with ⟨other, chooses⟩
      refine ⟨other, ?_⟩
      have apart : other ≠ id := by
        rintro rfl
        rw [free] at chooses
        cases chooses
      show ((floor.write id _ floor.enumerations).requests other).chooser = _
      rw [write_other apart]
      exact chooses
  · intro other done
    change ((floor.write id _ floor.enumerations).requests other).completed =
      _ at done
    by_cases same : other = id
    · rw [same]
      exact .inr engaged.active
    · rw [write_other same] at done
      exact .inl done

/-! ## Requests come and go -/

/-- Another list of requests that has those which are not answered. -/
theorem Orderly.lists (orderly : Orderly floor) {active : List Nat}
    (kept : ∀ id ∈ floor.active,
      id ∈ active ∨ (floor.requests id).answered = true) :
    Orderly { floor with active } := by
  have engaged {id : Nat} (engaged : Engaged floor id) :
      Engaged { floor with active } id := by
    refine ⟨?_, engaged.unanswered, engaged.kind⟩
    rcases kept id engaged.active with here | answered
    · exact here
    · exact absurd (engaged.unanswered.symm.trans answered)
        Bool.false_ne_true
  exact
    { choosing := fun id chooser chooses =>
        have before := orderly.choosing id chooser chooses
        ⟨engaged before.1, before.2⟩
      shown := orderly.shown
      owned := orderly.owned
      enumerating := fun id running => engaged (orderly.enumerating id running)
      flights := orderly.flights
      works := fun id working => by
        have before := orderly.works id working
        refine ⟨before.1, ?_⟩
        rcases before.2 with answered | here
        · exact .inl answered
        · exact (kept id here).symm
      completed := fun id done => by
        rcases orderly.completed id done with answered | here
        · exact .inl answered
        · exact (kept id here).symm
      bound := orderly.bound }

end Changes

/-! ## Moves -/

section Moves

variable (orderly : Orderly (floor world))

include orderly

/-- An acquisition that is not enumerating starts to. -/
theorem orderly_startEnumeration (engaged : Engaged (floor world) id)
    (landed : (world.requests id).enumerating = false) :
    Orderly (floor (startEnumeration world id)) := by
  have start : floor (startEnumeration world id) =
      (floor world).write id
        { standing (world.requests id) with enumerating := true }
        (world.enumerations ++ [(id, world.nextEnumeration)]) := by
    rw [startEnumeration]
    exact congrArg
      (fun floor : Floor =>
        { floor with
          enumerations :=
            world.enumerations ++ [(id, world.nextEnumeration)] })
      (floor_setRequest _)
  rw [start]
  have completed := orderly.completed id
  apply orderly.write
  · rfl
  · exact fun _ => ⟨engaged.active, engaged.unanswered, engaged.kind⟩
  · intro chooses
    rcases Option.isSome_iff_exists.mp chooses with ⟨chooser, chooses⟩
    exact (orderly.choosing id chooser chooses).2.1
  · exact orderly.shown id
  · intro other
    rw [List.countP_append, List.countP_singleton]
    by_cases same : other = id
    · subst same
      have none := orderly.flights other
      rw [show (floor world).enumerations = world.enumerations from rfl,
        show ((floor world).requests other).enumerating = false from landed]
        at none
      simp [none]
    · have apart : ¬id = other := fun equal => same equal.symm
      simp [same, apart]
      rfl
  · exact orderly.works id
  · exact completed
  · exact orderly.bound id

/-- The floor stays in order when an enumeration lands. -/
theorem orderly_landed {enumeration : Nat}
    (flying : (id, enumeration) ∈ world.enumerations) :
    Orderly (floor (landed world id enumeration)) := by
  have start : floor (landed world id enumeration) =
      (floor world).write id
        { standing (world.requests id) with enumerating := false }
        (world.enumerations.erase (id, enumeration)) := by
    rw [landed]
    exact congrArg
      (fun floor : Floor =>
        { floor with
          enumerations := world.enumerations.erase (id, enumeration) })
      (floor_setRequest _)
  rw [start]
  have flights := orderly.flights
  apply orderly.write
  · rfl
  · rintro (chooses | running)
    · rcases Option.isSome_iff_exists.mp chooses with ⟨chooser, chooses⟩
      have here := orderly.choosing id chooser chooses
      exact ⟨here.1.active, here.1.unanswered, here.1.kind⟩
    · cases running
  · intro chooses
    rcases Option.isSome_iff_exists.mp chooses with ⟨chooser, chooses⟩
    exact (orderly.choosing id chooser chooses).2.1
  · exact orderly.shown id
  · intro other
    have before := flights other
    change world.enumerations.countP _ = _ at before
    rw [(List.perm_cons_erase flying).countP_eq, List.countP_cons] at before
    by_cases same : other = id
    · subst same
      have most := Bool.toNat_le ((floor world).requests other).enumerating
      rw [if_pos (decide_eq_true rfl)] at before
      rw [if_pos rfl]
      show _ = 0
      omega
    · have apart : ¬id = other := fun equal => same equal.symm
      rw [if_neg same, flights other, ← before]
      simp [apart]
  · exact orderly.works id
  · exact orderly.completed id
  · exact orderly.bound id

/-- A request that the coordinator has taken up is answered. -/
theorem orderly_answers {error : XccErrorCode}
    (answerable : Answerable world id) :
    Orderly (floor (xccRequestComplete world id error)) := by
  have start : floor (xccRequestComplete world id error) =
      (floor world).write id
        { standing (world.requests id) with answered := true }
        world.enumerations := by
    rw [xccRequestComplete, answerable.unanswered]
    exact floor_setRequest _
  rw [start]
  have flights := orderly.flights
  have landed : ((floor world).requests id).enumerating = false :=
    answerable.landed
  have free : ((floor world).requests id).chooser = none :=
    answerable.chooser
  apply orderly.write
  · rfl
  · rintro (chooses | running)
    · rw [show (standing (world.requests id)).chooser = none from free]
        at chooses
      cases chooses
    · exact absurd (landed.symm.trans running) Bool.false_ne_true
  · intro chooses
    rw [show (standing (world.requests id)).chooser = none from free]
      at chooses
    cases chooses
  · exact orderly.shown id
  · intro other
    by_cases same : other = id
    · rw [if_pos same, same]
      exact flights id
    · rw [if_neg same]
      rfl
  · exact fun working => ⟨(orderly.works id working).1, .inl rfl⟩
  · exact fun _ => .inl rfl
  · exact orderly.bound id

theorem orderly_handOver
    (active : id ∈ world.active)
    (kind : (world.requests id).kind ≠ .acquire) :
    Orderly (floor (handOver world id)) := by
  rw [handOver, floor_setRequest]
  have disengaged : ¬Engaged (floor world) id := fun engaged =>
    kind engaged.kind
  apply orderly.write
  · rfl
  · rintro (chooses | running)
    · rcases Option.isSome_iff_exists.mp chooses with ⟨chooser, chooses⟩
      exact absurd (orderly.choosing id chooser chooses).1 disengaged
    · exact absurd (orderly.enumerating id running) disengaged
  · intro chooses
    rcases Option.isSome_iff_exists.mp chooses with ⟨chooser, chooses⟩
    exact absurd (orderly.choosing id chooser chooses).1 disengaged
  · exact orderly.shown id
  · intro other
    by_cases same : other = id
    · rw [if_pos same, same]
      exact orderly.flights id
    · rw [if_neg same]
      rfl
  · exact fun _ => ⟨kind, .inr active⟩
  · exact orderly.completed id
  · exact orderly.bound id

/-- A new request takes the place of one that has never been. -/
theorem orderly_schedules {request : XccRequest}
    (unborn : id ∉ world.active)
    (untouched : Untouched request)
    (bound : request.kind ≠ .capabilities → request.session.isSome = true) :
    Orderly (floor (world.setRequest id request)) := by
  rw [floor_setRequest]
  have disengaged : ¬Engaged (floor world) id := fun engaged =>
    unborn engaged.active
  have free : ((floor world).requests id).chooser = none := by
    rw [← Option.not_isSome_iff_eq_none]
    intro chooses
    rcases Option.isSome_iff_exists.mp chooses with ⟨chooser, chooses⟩
    exact disengaged (orderly.choosing id chooser chooses).1
  have none : ¬((standing request).chooser.isSome = true ∨
      (standing request).enumerating = true) := by
    rw [show (standing request).chooser = none from untouched.chooser,
      show (standing request).enumerating = false from untouched.enumerating]
    simp
  apply orderly.write
  · exact untouched.chooser.trans free.symm
  · exact fun busy => absurd busy none
  · exact fun chooses => absurd (.inl chooses) none
  · exact fun chooses => absurd (.inl chooses) none
  · intro other
    by_cases same : other = id
    · rw [if_pos same, same,
        show (standing request).enumerating = false from
          untouched.enumerating]
      have before := orderly.flights id
      have landed : ((floor world).requests id).enumerating = false := by
        rw [Bool.eq_false_iff]
        exact fun running => disengaged (orderly.enumerating id running)
      rw [landed] at before
      exact before
    · rw [if_neg same]
      rfl
  · exact fun working =>
      absurd (untouched.working.symm.trans working) Bool.false_ne_true
  · exact fun done =>
      absurd (untouched.completed.symm.trans done) Bool.false_ne_true
  · exact bound

theorem orderly_publish {enumeration : Nat}
    (candidates : List CertificateCandidate) (tokensPresent : Bool)
    (engaged : Engaged (floor world) id)
    (choosing : (world.requests id).chooserCompleted = false)
    (allowed : (world.requests id).interactionForbidden = false)
    (available : world.ui.chooserAvailable = true) :
    Orderly
      (floor (publish world id enumeration candidates tokensPresent)) := by
  rw [publish]
  cases chooses : (world.requests id).chooser with
  | some chooser =>
      dsimp only
      have same : floor ({ world with
          ui := Core.Chooser.chooserUpdate world.ui chooser candidates
            tokensPresent }.emit (.published id enumeration candidates)) =
          floor world := @floor_update world chooser candidates tokensPresent
      rw [same]
      exact orderly
  | none =>
      dsimp only
      rcases surroundings_show world.ui (some (cancellable id)) candidates
        tokensPresent with ⟨chooser, showing, cancels, -, same⟩
      have here := orderly.shows engaged chooses choosing allowed available
      have start : floor (({ world with
          ui := Core.Chooser.chooserShow world.ui (some (cancellable id))
            candidates tokensPresent }.setRequest id
          { world.requests id with
            chooser := some world.ui.nextChooser }).emit
              (.published id enumeration candidates)) =
          { ((floor world).write id
            { (floor world).requests id with
              chooser := some (floor world).nextChooser }
            (floor world).enumerations).setChooser (floor world).nextChooser
              (openSeat id) with
            nextChooser := (floor world).nextChooser + 1 } := by
        refine (floor_setRequest _).trans ?_
        have seats (other : Nat) :
            seat ((Core.Chooser.chooserShow world.ui (some (cancellable id))
              candidates tokensPresent).choosers other) =
            Function.update (floor world).choosers world.ui.nextChooser
              (openSeat id) other := by
          have choosers := congrFun (congrArg Surroundings.choosers same)
            other
          refine (congrArg seat choosers).trans ?_
          rw [rechosen]
          dsimp only
          by_cases here : other = world.ui.nextChooser
          · rw [here, Function.update_self, Function.update_self, seat,
              showing, cancels]
            rfl
          · rw [Function.update_of_ne here, Function.update_of_ne here]
            rfl
        rw [floor]
        dsimp only
        rw [funext seats, show (Core.Chooser.chooserShow world.ui
          (some (cancellable id)) candidates tokensPresent).nextChooser = _
          from congrArg Surroundings.nextChooser same,
          show (Core.Chooser.chooserShow world.ui
            (some (cancellable id)) candidates
              tokensPresent).chooserAvailable = _
          from congrArg Surroundings.chooserAvailable same]
        rfl
      rw [start]
      exact here

theorem orderly_concluded {ui : Core.Coordinator.World} {chooser : Nat}
    {chosen : Option CertificateCandidate} {error : XccErrorCode}
    (event : Event) (ends : Ends world ui id chooser) :
    Orderly
      (floor (({ world with ui }.emit event).setRequest id
        (conclude (world.requests id) chosen error))) := by
  have here := orderly.choosing id chooser ends.choosing
  have completed : (world.requests id).chooserCompleted = false := here.2.1
  have last := @Orderly.concludes id (floor world) orderly chooser
    (seat (ui.choosers chooser)) ends.choosing ends.ended
  have start : floor (({ world with ui }.emit event).setRequest id
        (conclude (world.requests id) chosen error)) =
      ((floor world).write id
        { (floor world).requests id with chooser := none, completed := true }
        (floor world).enumerations).setChooser chooser
          (seat (ui.choosers chooser)) := by
    refine (floor_setRequest _).trans ?_
    have seats (other : Nat) : seat (ui.choosers other) =
        Function.update (floor world).choosers chooser
          (seat (ui.choosers chooser)) other := by
      by_cases same : other = chooser
      · rw [same, Function.update_self]
      · rw [Function.update_of_ne same, ends.others other same]
        rfl
    have ended : standing (conclude (world.requests id) chosen error) =
        { (floor world).requests id with
          chooser := none, completed := true } := by
      rw [conclude, completed]
      rfl
    rw [ended, floor]
    dsimp only [World.emit]
    rw [funext seats, ends.nextChooser, ends.available]
    rfl
  rw [start]
  exact last

end Moves

theorem Touched.floor (touched : Touched world next) :
    floor next = floor world := by
  have requests (id : Nat) :=
    Alike.standing (touched.requests id)
  have seats (chooser : Nat) :=
    SameChooser.seat (touched.aside.choosers chooser)
  have steady := Touched.steady touched
  have flights : next.enumerations = world.enumerations := by
    rw [touched.rest]
  rw [Floors.floor, Floors.floor, funext requests, funext seats,
    steady.active, flights, touched.aside.nextChooser,
    touched.aside.available]

theorem floor_close (id : Nat) :
    floor (xccSessionCloseInternal world id) = floor world := by
  cases closed : (world.sessions id).closed with
  | true => rw [close_closed closed]
  | false =>
      rcases close_open closed with ⟨told, ending⟩
      have told : floor told = floor (world.setSession id
          { world.sessions id with closed := true }) :=
        Touched.floor ending.touched
      rw [ending.last]
      exact told

/-- The changes that calls are made of keep the floor in order. -/
theorem orderly_nudge (nudge : Nudge world next)
    (orderly : Orderly (floor world)) : Orderly (floor next) := by
  cases nudge with
  | touched touched =>
      rw [Touched.floor touched]
      exact orderly
  | kept kept closed => exact orderly
  | closes id =>
      rw [floor_close]
      exact orderly
  | @emptied id chooser choosing running =>
      have same := @floor_update world chooser [] false
      exact same ▸ orderly
  | refreshed choosing landed =>
      exact orderly_startEnumeration orderly
        (orderly.choosing _ _ choosing).1 landed
  | invalidated id reason running => exact orderly

theorem orderly_nudged (nudged : Nudged world next)
    (orderly : Orderly (floor world)) : Orderly (floor next) :=
  @Composed.keeps _ _ (fun world => Orderly (floor world))
    (fun _ _ => orderly_nudge) _ _ nudged orderly

/-- The request of an acknowledgement has been answered. -/
theorem acknowledged_answered (located : Located world)
    (posted : .completionAck id ∈ world.posts) :
    (world.requests id).answered = true := by
  have told := (located.acknowledged id posted).2
  have balance := located.balance id
  cases value : (world.requests id).answered with
  | true => rfl
  | false =>
      rw [value, Bool.toNat_false] at balance
      omega

/-- Every move keeps the floor in order. -/
theorem orderly_move (move : Move world next) (located : Located world)
    (orderly : Orderly (floor world)) : Orderly (floor next) := by
  cases move with
  | nudge nudge => exact orderly_nudge nudge orderly
  | outside now held more watchStopped shutdownStarted => exact orderly
  | dispatched running =>
      exact dispatchPending_keeps running
        (fun world => Orderly (floor world)) (fun _ _ => orderly_nudge)
        (fun _ _ orderly => orderly)
        orderly
  | uiTold aside waiting =>
      have same := UiAside.floor aside
      exact same ▸ orderly
  | scheduled asked principal bound running =>
      exact orderly_schedules orderly
        (fun active => Nat.lt_irrefl _ (located.born active))
        ⟨rfl, rfl, rfl, rfl⟩ bound
  | refused asked principal bad bound past =>
      exact orderly_schedules orderly
        (fun active => Nat.lt_irrefl _ (located.born active))
        ⟨rfl, rfl, rfl, rfl⟩ bound
  | mailed post plain running => exact orderly
  | opened plain posts => exact orderly
  | validated posts =>
      exact orderly.lists fun id here => .inl (List.mem_append_left _ here)
  | begun unanswered active untouched kind bound opened free alone =>
      exact orderly_startEnumeration orderly ⟨active, unanswered, kind⟩
        untouched.enumerating
  | handed unanswered active kind opened =>
      exact orderly_handOver orderly active kind
  | signed granted free => exact orderly
  | answered answerable good => exact orderly_answers orderly answerable
  | reported id enumeration outcome => exact orderly
  | landed flying enumerating => exact orderly_landed orderly flying
  | @restarted id enumeration flying enumerating =>
      have engaged := orderly.enumerating id enumerating
      have here := orderly_landed orderly flying
      refine orderly_startEnumeration here ⟨engaged.active, ?_, ?_⟩ ?_
      · show ((landed world id enumeration).requests id).answered = _
        rw [landed_self]
        exact engaged.unanswered
      · show ((landed world id enumeration).requests id).kind = _
        rw [landed_self]
        exact engaged.kind
      · show ((landed world id enumeration).requests id).enumerating = _
        rw [landed_self]
  | @published id enumeration snapshot realTime tokensPresent flying
      enumerating current choosing allowed available reported running =>
      have engaged := orderly.enumerating id enumerating
      have here := orderly_landed orderly flying
      refine orderly_publish here _ _ ⟨engaged.active, ?_, ?_⟩ ?_ ?_
        available
      · show ((landed world id enumeration).requests id).answered = _
        rw [landed_self]
        exact engaged.unanswered
      · show ((landed world id enumeration).requests id).kind = _
        rw [landed_self]
        exact engaged.kind
      · show ((landed world id enumeration).requests id).chooserCompleted = _
        rw [landed_self]
        exact choosing
      · show ((landed world id enumeration).requests
          id).interactionForbidden = _
        rw [landed_self]
        exact allowed
  | concluded reply chosen error ends fair =>
      exact orderly_concluded orderly _ ends
  | @granted id session candidate answerable completed bound opened wanted =>
      have same : floor (grantRequest world id session candidate) =
          floor world := floor_same_request rfl
      refine orderly_answers (same ▸ orderly)
        ⟨?_, answerable.active, ?_, ?_⟩
      · show
          ((grantRequest world id session candidate).requests id).answered = _
        rw [grantRequest_self]
        exact answerable.unanswered
      · show
          ((grantRequest world id session candidate).requests id).enumerating =
            _
        rw [grantRequest_self]
        exact answerable.landed
      · show ((grantRequest world id session candidate).requests
          id).chooser = _
        rw [grantRequest_self]
        exact answerable.chooser
  | registered spec running current =>
      rw [sessionNewRegister]
      split_ifs <;> exact orderly
  | @regenerated value rest running posts =>
      exact orderly_nudged
        (@nudged_generation { world with posts := rest } running value)
        orderly
  | @rolledBack id rest posts =>
      have same := @floor_same_request world id
        { world.requests id with candidate := none } rfl
      rw [rollbackAcquisition]
      dsimp only
      cases (world.requests id).session with
      | none => exact same ▸ orderly
      | some session => exact same ▸ orderly
  | @acknowledged id rest posts =>
      have answered := acknowledged_answered located
        (posts ▸ List.mem_cons_self ..)
      refine orderly.lists fun other here => ?_
      rcases eq_or_ne other id with same | apart
      · exact .inr (same ▸ answered)
      · exact .inl ((List.mem_erase_of_ne apart).mpr here)
  | shut ready =>
      rw [xccContextCheckShutdown, if_pos ready]
      exact orderly
  | @reads id rest idle queue =>
      have same := @floor_same_request world id
        { world.requests id with
          result := readResult (world.requests id) } rfl
      exact same ▸ orderly
  | invalidationTold idle queue => exact orderly
  | shutdownTold idle queue => exact orderly
  | settles delivering =>
      rw [completionSettles]
      dsimp only
      split_ifs
      · rw [World.post]
        split_ifs <;> exact orderly
      · split <;> exact orderly
      · exact orderly
  | calls calling =>
      rw [completionCalls]
      dsimp only
      split_ifs
      · exact orderly
      · rw [World.post]
        split_ifs <;> exact orderly

end PortalCertificate.Context.Floors
