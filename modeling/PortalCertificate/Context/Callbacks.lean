import PortalCertificate.Context.Starts

/-!
# Callbacks of choosers and of enumerations

What `on_chooser_done` and `on_enumerated` do is composed of moves.
-/

namespace PortalCertificate.Context.Callbacks

open PortalCertificate.Context.Accounts
open PortalCertificate.Context.Acquire
open PortalCertificate.Context.Completion
open PortalCertificate.Context.Floors
open PortalCertificate.Context.Machine
open PortalCertificate.Context.Moves
open PortalCertificate.Context.Nudges
open PortalCertificate.Context.Requests
open PortalCertificate.Context.Sessions
open PortalCertificate.Context.Starts
open PortalCertificate.Core.Coordinator (XccErrorCode Reply)
open PortalCertificate.Core.UiFrames
open PortalCertificate.Library.Transition
open PortalCertificate.Tokens.Discovery
open PortalCertificate.Tokens.Filter
open PortalCertificate.Tokens.Watcher

variable {world next : World} {id : Nat}

/-! ## Dispatches -/

theorem events_nudge (nudge : Nudge world next) :
    next.events = world.events := by
  cases nudge with
  | touched touched => rw [touched.rest]
  | closes id =>
      cases closed : (world.sessions id).closed with
      | true => rw [close_closed closed]
      | false =>
          rcases close_open closed with ⟨told, ending⟩
          rw [ending.last]
          show told.events = world.events
          rw [ending.touched.rest]
          rfl
  | _ => rfl

/-- No event is left after a dispatch. -/
theorem events_dispatchPending (running : world.ui.shutdownPosted = false) :
    (dispatchPending world).events = [] :=
  dispatchPending_keeps running (fun world => world.events = [])
    (fun _ _ nudge => (events_nudge nudge).trans) (fun _ _ => id) rfl

/-! ## The end of a chooser -/

/-- An acquisition whose chooser has ended, and that can be answered. -/
structure Settling (world : World) (id : Nat) : Prop where
  active : id ∈ world.active
  unanswered : (world.requests id).answered = false
  chooser : (world.requests id).chooser = none
  completed : (world.requests id).chooserCompleted = true

theorem Settling.steady (settling : Settling world id)
    (steady : Steady world next) : Settling next id where
  active := steady.active ▸ settling.active
  unanswered := (steady.requests id).answered.trans settling.unanswered
  chooser := (steady.requests id).chooser.trans settling.chooser
  completed := (steady.requests id).completed.trans settling.completed

/-- Once its enumeration has landed, a settling acquisition can be answered. -/
theorem Settling.answerable (settling : Settling world id)
    (landed : (world.requests id).enumerating = false) :
    Answerable world id :=
  ⟨settling.unanswered, settling.active, landed, settling.chooser⟩

/-- It may then be answered with any error. -/
theorem Settling.answered {error : XccErrorCode}
    (settling : Settling world id)
    (landed : (world.requests id).enumerating = false) (bad : error ≠ .ok) :
    Moved world (xccRequestComplete world id error) :=
  Moved.one (.answered (settling.answerable landed) fun ok => absurd ok bad)

theorem moved_finishAcquire {candidate : CertificateCandidate}
    (settling : Settling world id)
    (landed : (world.requests id).enumerating = false)
    (wanted : (world.requests id).cancelIntent = none → Wanted world id)
    (consented : Consented world id candidate) :
    Moved world (finishAcquire world id candidate) := by
  have refused {error : XccErrorCode} (bad : error ≠ .ok) :
      Moved world (xccRequestComplete world id error) :=
    settling.answered landed bad
  rw [finishAcquire]
  cases bound : (world.requests id).session with
  | none =>
      dsimp only
      split_ifs
      · exact refused XccErrorCode.noConfusion
      · exact refused XccErrorCode.noConfusion
  | some session =>
      dsimp only
      split_ifs with intent closed
      · exact refused XccErrorCode.noConfusion
      · exact refused XccErrorCode.noConfusion
      · exact refused XccErrorCode.noConfusion
      · rw [Option.not_isSome_iff_eq_none] at intent
        exact Moved.one (.granted (settling.answerable landed)
          settling.completed bound (Bool.eq_false_iff.mpr closed)
          (wanted intent) consented)

/-- What can be said for a candidate once nothing is said against it. -/
def Presented
    (world : World) (id : Nat) (chosen : Option CertificateCandidate) :
    Prop :=
  (world.requests id).enumerating = false →
    (world.requests id).cancelledCode = .ok →
      world.isCancelled id = false →
        ∀ candidate ∈ chosen, Consented world id candidate

theorem moved_settleChooser {chosen : Option CertificateCandidate}
    {error : XccErrorCode} (settling : Settling world id)
    (settled : world.events = []) (presented : Presented world id chosen) :
    Moved world (settleChooser world id chosen error) := by
  cases enumerating : (world.requests id).enumerating with
  | true =>
      rw [settleChooser.eq_def]
      dsimp only
      rw [if_pos enumerating]
  | false =>
      have refused {error : XccErrorCode} (bad : error ≠ .ok) :
          Moved world (xccRequestComplete world id error) :=
        settling.answered enumerating bad
      rw [settleChooser.eq_def]
      dsimp only
      rw [if_neg (Bool.eq_false_iff.mp enumerating)]
      cases chosen with
      | none =>
          dsimp only
          split_ifs with bad code
          · exact refused bad
          · exact refused code
          · exact refused XccErrorCode.noConfusion
      | some candidate =>
          dsimp only
          split_ifs with bad code cancelled
          · exact refused bad
          · exact refused code
          · exact refused XccErrorCode.noConfusion
          · have kept := Bool.eq_false_iff.mpr cancelled
            exact moved_finishAcquire settling enumerating
              (fun intent => ⟨intent, not_not.mp code, kept, settled⟩)
              (presented enumerating (not_not.mp code) kept candidate rfl)

theorem moved_dispatchSettle {chosen : Option CertificateCandidate}
    {error : XccErrorCode} (settling : Settling world id)
    (running : world.ui.shutdownPosted = false)
    (presented : ∀ next, Steady world next → Presented next id chosen) :
    Moved world (settleChooser (dispatchPending world) id chosen error) := by
  have steady := steady_dispatchPending running
  exact (Moved.one (.dispatched running)).trans
    (moved_settleChooser (settling.steady steady)
      (events_dispatchPending running) (presented _ steady))

theorem Confirmed.steady {chosen candidate : CertificateCandidate}
    (confirmed : Confirmed world id chosen candidate)
    (steady : Steady world next) : Confirmed next id chosen candidate where
  same := confirmed.same
  reported := by
    rcases confirmed.reported with
      ⟨later, enumeration, snapshot, earlier, realTime, trace, concluded,
        member⟩
    rcases steady.trace with ⟨newer, extended⟩
    refine ⟨newer ++ later, enumeration, snapshot, earlier, realTime, ?_,
      concluded, ?_⟩
    · rw [← extended, trace, List.append_assoc]
    · have same : (next.requests id).filter = (world.requests id).filter :=
        congrArg Asked.filter (steady.requests id).asked
      rwa [same]

theorem Consented.steady {candidate : CertificateCandidate}
    (consented : Consented world id candidate)
    (steady : Steady world next) : Consented next id candidate where
  chosen := by
    rcases consented.chosen with ⟨chosen, pending, given⟩
    refine ⟨chosen, (steady.requests id).chosen.trans pending, ?_⟩
    rcases given with ⟨same, concluded⟩ | confirmed
    · exact .inl ⟨same, Concluded.later concluded steady.trace⟩
    · exact .inr (Confirmed.steady confirmed steady)

/-- The chooser that ends has been the last. -/
theorem moved_concluded {ui : Core.Coordinator.World} {chooser : Nat}
    {reply : Option Reply} {chosen : Option CertificateCandidate}
    {error : XccErrorCode} (basic : Basic world)
    (ends : Ends world ui id chooser)
    (fair : ∀ candidate ∈ chosen, ∃ given,
      reply = some given ∧ ∃ row ∈ (world.ui.choosers chooser).choices,
        given.kind = .choose (world.ui.choosers chooser).revision row.id ∧
          row.candidate = candidate) :
    Moved world
      (onChooserDone
        ({ world with ui }.emit
          (.concluded id reply
            (Core.Chooser.chooserView (world.ui.choosers chooser)) chosen
            (world.requests id).enumerating world.events))
        id chosen error) := by
  have choosing := basic.orderly.choosing id chooser ends.choosing
  have first : (world.requests id).chooserCompleted = false := choosing.2.1
  have concludes := Moved.one (.concluded reply chosen error ends fair)
  let noted : World := ({ world with ui }.emit
    (.concluded id reply
      (Core.Chooser.chooserView (world.ui.choosers chooser)) chosen
      (world.requests id).enumerating world.events)).setRequest id
      (conclude (world.requests id) chosen error)
  have written : noted.requests id =
      { world.requests id with
        chooser := none, chooserCompleted := true, pendingError := error
        pendingChosen := chosen } := by
    refine (World.setRequest_self _ _ _).trans ?_
    rw [conclude, if_neg (Bool.eq_false_iff.mp first)]
  have settling : Settling noted id :=
    { active := choosing.1.active
      unanswered := by
        rw [written]
        exact choosing.1.unanswered
      chooser := by rw [written]
      completed := by rw [written] }
  have presented (next : World) (steady : Steady noted next) :
      Presented next id chosen := by
    intro landed _ _ candidate member
    have refreshing : (world.requests id).enumerating = false := by
      rw [Bool.eq_false_iff]
      intro running
      have still := (steady.requests id).enumerates (by
        rw [written]
        exact running)
      rw [landed] at still
      cases still
    cases member
    refine ⟨candidate, ?_, .inl ⟨rfl, ?_⟩⟩
    · rw [(steady.requests id).chosen, written]
    · apply Concluded.later _ steady.trace
      rw [← refreshing]
      exact ⟨reply, _, _, List.mem_cons_self ..⟩
  exact concludes.trans
    (moved_dispatchSettle settling (ends.shutdownPosted.trans ends.running)
      presented)

/-- A chooser that has ended before. -/
theorem moved_onChooserDone {chosen : Option CertificateCandidate}
    {error : XccErrorCode} (settling : Settling world id)
    (running : world.ui.shutdownPosted = false)
    (presented : ∀ next, Steady world next → Presented next id chosen) :
    Moved world (onChooserDone world id chosen error) := by
  have told : conclude (world.requests id) chosen error =
      { world.requests id with chooser := none } := by
    rw [conclude, if_pos settling.completed]
  have touched : Touched world (world.setRequest id
      (conclude (world.requests id) chosen error)) := by
    rw [told]
    exact .write { Alike.refl (world.requests id) with
      chooser := settling.chooser.symm }
  have steady := Touched.steady touched
  exact (Nudged.moved (nudged_touched touched)).trans
    (moved_dispatchSettle (settling.steady steady) running
      fun next there => presented next (steady.trans there))

/-! ## The end of an enumeration -/

/-- An enumeration that is processed, after the events in the queue. -/
structure Processing
    (world : World) (id enumeration : Nat) (outcome : Enumerated) : Prop where
  basic : Basic world
  running : world.ui.shutdownPosted = false
  flying : (id, enumeration) ∈ world.enumerations
  reported : ∃ later earlier, world.trace =
      later ++ .enumerated id enumeration outcome :: earlier ∧
    ∀ chosen, (world.requests id).pendingChosen = some chosen →
      ∃ refreshing, Concluded id chosen refreshing earlier

theorem enumerating_of_flying {enumeration : Nat}
    (orderly : Orderly (floor world))
    (flying : (id, enumeration) ∈ world.enumerations) :
    (world.requests id).enumerating = true := by
  have flights := orderly.flights id
  cases enumerating : (world.requests id).enumerating with
  | true => rfl
  | false =>
      rw [show ((floor world).requests id).enumerating = false from
        enumerating, Bool.toNat_false, List.countP_eq_zero] at flights
      exact absurd (flights (id, enumeration) flying) (by simp)

/-- A choice that has been cancelled is presented to nobody. -/
theorem presented_of_cancelled {chosen : Option CertificateCandidate}
    (refused : ((world.requests id).cancelledCode ≠ .ok ||
      world.isCancelled id) = true)
    (steady : Steady world next) : Presented next id chosen := by
  intro _ code cancelled
  rcases Bool.or_eq_true_iff.mp refused with bad | held
  · exact absurd code ((steady.requests id).code (of_decide_eq_true bad))
  · have still := steady.cancelled _ held
    rw [World.isCancelled, still] at cancelled
    cases cancelled

section Processing

variable {enumeration : Nat} {outcome : Enumerated}
  (processing : Processing world id enumeration outcome)

include processing

/-- The request whose enumeration is processed is enumerating. -/
theorem Processing.enumerating : (world.requests id).enumerating = true :=
  enumerating_of_flying processing.basic.orderly processing.flying

/-- The coordinator is at the request whose enumeration is processed. -/
theorem Processing.engaged : Engaged (floor world) id :=
  processing.basic.orderly.enumerating id processing.enumerating

/-- The enumeration that is processed may land. -/
theorem Processing.lands : Moved world (landed world id enumeration) :=
  Moved.one (.landed processing.flying processing.enumerating)

/-- Without a chooser, the request can be answered then. -/
theorem Processing.answerable
    (chooser : (world.requests id).chooser = none) :
    Answerable (landed world id enumeration) id where
  unanswered := by
    rw [landed_self]
    exact processing.engaged.unanswered
  active := processing.engaged.active
  landed := by rw [landed_self]
  chooser := by
    rw [landed_self]
    exact chooser

/-- Without a chooser, the request may be answered with any error. -/
theorem Processing.answered {error : XccErrorCode}
    (chooser : (world.requests id).chooser = none) (bad : error ≠ .ok) :
    Moved world
      (xccRequestComplete (landed world id enumeration) id error) :=
  processing.lands.trans
    (Moved.one (.answered (processing.answerable chooser)
      fun ok => absurd ok bad))

/-- An enumeration that has landed may be started once more. -/
theorem Processing.restarts :
    Moved world (startEnumeration (landed world id enumeration) id) :=
  Moved.one (.restarted processing.flying processing.enumerating)

/-- An acquisition that may not interact has no chooser. -/
theorem Processing.unshown
    (hidden : (world.requests id).interactionForbidden = true ∨
      world.ui.chooserAvailable = false) :
    (world.requests id).chooser = none := by
  rw [← Option.not_isSome_iff_eq_none]
  intro showing
  have shown := processing.basic.orderly.shown id showing
  rcases hidden with forbidden | absent
  · exact absurd (shown.1.symm.trans forbidden) Bool.false_ne_true
  · exact absurd (absent.symm.trans shown.2) Bool.false_ne_true

theorem Processing.unchoosing
    (completed : (world.requests id).chooserCompleted = true) :
    (world.requests id).chooser = none := by
  rw [← Option.not_isSome_iff_eq_none, Option.isSome_iff_exists]
  rintro ⟨chooser, choosing⟩
  have first := (processing.basic.orderly.choosing id chooser choosing).2.1
  exact absurd (first.symm.trans completed) Bool.false_ne_true

theorem Processing.settling
    (completed : (world.requests id).chooserCompleted = true) :
    Settling (landed world id enumeration) id where
  active := processing.engaged.active
  unanswered := by
    rw [landed_self]
    exact processing.engaged.unanswered
  chooser := by
    rw [landed_self]
    exact processing.unchoosing completed
  completed := by
    rw [landed_self]
    exact completed

theorem moved_enumeratedCompleted (realTime : Int)
    (completed : (world.requests id).chooserCompleted = true) :
    Moved world
      (enumeratedCompleted (landed world id enumeration) id outcome
        realTime) := by
  have settling := processing.settling completed
  have chooser := processing.unchoosing completed
  have lands := processing.lands
  have running : (landed world id enumeration).ui.shutdownPosted = false :=
    processing.running
  have pending : ((landed world id enumeration).requests id).pendingChosen =
      (world.requests id).pendingChosen := by
    rw [landed_self]
  rw [enumeratedCompleted]
  cases choice : (world.requests id).pendingChosen with
  | none =>
      rw [pending, choice]
      refine lands.trans (moved_onChooserDone settling running ?_)
      intro next _ _ _ _ candidate member
      cases member
  | some chosen =>
      rw [pending, choice]
      have declined
          (refused : (((landed world id enumeration).requests
              id).cancelledCode ≠ .ok ||
            (landed world id enumeration).isCancelled id) = true) :
          Moved world (onChooserDone (landed world id enumeration) id
            (some chosen)
            ((landed world id enumeration).requests id).pendingError) :=
        lands.trans (moved_onChooserDone settling running
          fun next steady => presented_of_cancelled refused steady)
      cases outcome with
      | error error =>
          dsimp only
          split_ifs with refused
          · exact declined refused
          · exact processing.answered chooser XccErrorCode.noConfusion
      | ok candidates =>
          dsimp only
          split_ifs with refused again
          · exact declined refused
          · exact processing.restarts
          · cases found : (certificateFilterApply candidates
                ((landed world id enumeration).requests id).filter
                realTime).find? (certificateCandidateSame chosen) with
            | none =>
                exact processing.answered chooser XccErrorCode.noConfusion
            | some candidate =>
                have consented : Consented (landed world id enumeration)
                    id candidate := by
                  refine ⟨chosen, pending.trans choice, .inr ⟨?_, ?_⟩⟩
                  · exact List.find?_some found
                  · rcases processing.reported with
                      ⟨later, earlier, trace, concluded⟩
                    exact ⟨later, enumeration, candidates, earlier,
                      realTime, trace, concluded chosen choice,
                      List.mem_of_find?_eq_some found⟩
                refine lands.trans (moved_onChooserDone settling running ?_)
                intro next steady _ _ _ other member
                cases member
                exact Consented.steady consented steady

theorem moved_enumeratedFailed (error : EnumerateError) :
    Moved world
      (enumeratedFailed (landed world id enumeration) id error) := by
  have chooser : ((landed world id enumeration).requests id).chooser =
      (world.requests id).chooser := by
    rw [landed_self]
  have told (next : World) (touched : Touched (landed world id enumeration)
      next) : Moved world (next.cancelRequest id) :=
    processing.lands.trans (Nudged.moved (nudged_touched
      (touched.trans (touched_cancelRequest id))))
  rw [enumeratedFailed]
  dsimp only
  by_cases choosing : (world.requests id).chooser.isSome = true
  · rw [if_pos (by rw [chooser]; exact choosing)]
    by_cases cancelled : error = .cancelled
    · rw [if_pos cancelled]
      exact told _ (.refl _)
    · rw [if_neg cancelled]
      exact told _ (touched_code id XccErrorCode.noConfusion)
  · rw [if_neg (by rw [chooser]; exact choosing)]
    rw [Option.not_isSome_iff_eq_none] at choosing
    split_ifs with cancelled coded
    · exact processing.answered choosing coded
    · exact processing.answered choosing XccErrorCode.noConfusion
    · exact processing.answered choosing XccErrorCode.noConfusion

theorem moved_settleEnumerated (tokensPresent : Bool) (realTime : Int) :
    Moved world
      (settleEnumerated (landed world id enumeration) id enumeration outcome
        tokensPresent realTime) := by
  have here := @landed_self world id enumeration
  have same : (landed world id enumeration).ui = world.ui := rfl
  unfold settleEnumerated
  dsimp only
  by_cases idle : (((landed world id enumeration).requests
      id).cancelIntent.isSome &&
    ((landed world id enumeration).requests id).chooser.isNone) = true
  · rw [if_pos idle]
    rw [here, Bool.and_eq_true, Option.isNone_iff_eq_none] at idle
    exact processing.answered idle.2 XccErrorCode.noConfusion
  · rw [if_neg idle]
    by_cases completed : ((landed world id enumeration).requests
        id).chooserCompleted = true
    · rw [if_pos completed]
      rw [here] at completed
      exact moved_enumeratedCompleted processing realTime completed
    · rw [if_neg completed]
      cases outcome with
      | error error => exact moved_enumeratedFailed processing error
      | ok candidates =>
          dsimp only
          rw [same]
          split_ifs with forbidden available again
          · rw [here] at forbidden
            exact processing.answered (processing.unshown (.inl forbidden))
              XccErrorCode.noConfusion
          · have absent : world.ui.chooserAvailable = false := by
              simpa using available
            exact processing.answered (processing.unshown (.inr absent))
              XccErrorCode.noConfusion
          · exact processing.restarts
          · rcases processing.reported with ⟨later, earlier, trace, -⟩
            rw [here] at completed forbidden again
            rw [here]
            refine Moved.one (.published tokensPresent processing.flying
              processing.enumerating (Bool.eq_false_iff.mpr again)
              (Bool.eq_false_iff.mpr completed)
              (Bool.eq_false_iff.mpr forbidden) ?_ ?_ processing.running)
            · simpa using available
            · rw [trace]
              exact List.mem_append_right _ (List.mem_cons_self ..)

end Processing

/-- Processing the result of an enumeration is made of moves. -/
theorem moved_onEnumerated {enumeration : Nat} (basic : Basic world)
    (running : world.ui.shutdownPosted = false)
    (flying : (id, enumeration) ∈ world.enumerations)
    (outcome : Enumerated) (tokensPresent : Bool) (realTime : Int) :
    Moved world
      (onEnumerated world id enumeration outcome tokensPresent
        realTime) := by
  rw [onEnumerated]
  generalize propagated world id outcome = outcome
  have reports :
      Moved world (world.emit (.enumerated id enumeration outcome)) :=
    Moved.one (.reported id enumeration outcome)
  have dispatches : Moved (world.emit (.enumerated id enumeration outcome))
      (dispatchPending (world.emit (.enumerated id enumeration outcome))) :=
    Moved.one (.dispatched running)
  have steady := @steady_dispatchPending
    (world.emit (.enumerated id enumeration outcome)) running
  have there := reports.trans dispatches
  refine there.trans (moved_settleEnumerated ⟨basic_moved there basic,
    steady.shutdownPosted.trans running, steady.flying _ flying, ?_⟩ _ _)
  rcases steady.trace with ⟨later, trace⟩
  refine ⟨later, world.trace, trace.symm, fun chosen pending => ?_⟩
  exact basic.chosen id chosen ((steady.requests id).chosen.symm.trans pending)

end PortalCertificate.Context.Callbacks
