import PortalCertificate.Context.Lasting
import PortalCertificate.Context.Snapshots

/-!
# Consent

A grant is for a row of the view that its chooser was showing when the reply
came.  A choice that had to wait for an enumeration is found again in a later
list, and a removal that was in the queue takes it back.
-/

namespace PortalCertificate.Context.Consents

open PortalCertificate.Context.Accounts
open PortalCertificate.Context.Acquire
open PortalCertificate.Context.Callbacks
open PortalCertificate.Context.Completion
open PortalCertificate.Context.Floors
open PortalCertificate.Context.Lasting
open PortalCertificate.Context.Machine
open PortalCertificate.Context.Moves
open PortalCertificate.Context.Nudges
open PortalCertificate.Context.Requests
open PortalCertificate.Context.Sessions
open PortalCertificate.Context.Snapshots
open PortalCertificate.Context.Starts
open PortalCertificate.Context.Steps
open PortalCertificate.Core.Coordinator
  (XccErrorCode XccChooserView Choice Reply)
open PortalCertificate.Core.RowIdentities (exampleCandidate)
open PortalCertificate.Core.UiFrames
open PortalCertificate.Library.Trace
open PortalCertificate.Library.Transition
open PortalCertificate.Tokens.Discovery
open PortalCertificate.Tokens.Filter
open PortalCertificate.Tokens.Watcher

/-! ## What a trace says of a choice -/

/-- A candidate is chosen from the view that the chooser is showing, and the
view is what the filter leaves of a report. -/
structure Chosen
    (world : World) (id : Nat) (reply : Option Reply) (view : XccChooserView)
    (chosen : CertificateCandidate) (before : List Event) : Prop where
  replied : ∃ given, reply = some given ∧
    ∃ row ∈ view.candidates,
      given.kind = .choose view.revision row.id ∧ row.candidate = chosen
  listed : ∃ enumeration snapshot realTime,
    .enumerated id enumeration (.ok snapshot) ∈ before ∧
      view.candidates.map Choice.candidate =
        certificateFilterApply snapshot (world.requests id).filter realTime

/-- The removal of the token of a candidate. -/
def Removes (event : WatchEvent) (candidate : CertificateCandidate) : Prop :=
  event.added = false ∧
    certificateTokenSame candidate.token event.token.toCertificateToken =
      true

/-- A candidate is that of a choice, or what a later report has for it. -/
structure Agreed
    (world : World) (id : Nat) (candidate : CertificateCandidate)
    (trace : List Event) : Prop where
  consent : ∃ since reply view chosen refreshing queued before,
    trace =
        since ++ .concluded id reply view (some chosen) refreshing queued ::
          before ∧
      Chosen world id reply view chosen before ∧
      (∀ event ∈ queued, ¬Removes event candidate) ∧
      (candidate = chosen ∧ refreshing = false ∨
        certificateCandidateSame chosen candidate = true ∧
          ∃ enumeration snapshot realTime,
            .enumerated id enumeration (.ok snapshot) ∈ since ∧
              candidate ∈ certificateFilterApply snapshot
                (world.requests id).filter realTime)

/-- A choice has been made from the view, and a grant is for a choice. -/
def Consenting (world : World) : Event → List Event → Prop
  | .concluded id reply view (some chosen) _ _, before =>
      Chosen world id reply view chosen before
  | .granted id _ candidate, before => Agreed world id candidate before
  | _, _ => True

variable {world next : World} {id : Nat} {event : Event}
  {presence : WatchEvent} {chosen : CertificateCandidate}

theorem Chosen.filter {reply : Option Reply} {view : XccChooserView}
    {before : List Event} (made : Chosen world id reply view chosen before)
    (same : (next.requests id).filter = (world.requests id).filter) :
    Chosen next id reply view chosen before where
  replied := made.replied
  listed := by
    rw [same]
    exact made.listed

theorem Agreed.filter {candidate : CertificateCandidate}
    {trace : List Event} (agreed : Agreed world id candidate trace)
    (same : (next.requests id).filter = (world.requests id).filter) :
    Agreed next id candidate trace where
  consent := by
    rcases agreed.consent with ⟨since, reply, view, chosen, refreshing,
      queued, before, split, made, kept, found⟩
    refine ⟨since, reply, view, chosen, refreshing, queued, before, split,
      made.filter same, kept, ?_⟩
    rw [same]
    exact found

/-! ## A removal is dispatched -/

/-- An acquisition whose chooser has ended with a candidate. -/
structure Waiting
    (world : World) (id : Nat) (chosen : CertificateCandidate) : Prop where
  active : id ∈ world.active
  unanswered : (world.requests id).answered = false
  kind : (world.requests id).kind = .acquire
  completed : (world.requests id).chooserCompleted = true
  chosen : (world.requests id).pendingChosen = some chosen

theorem Waiting.steady (waiting : Waiting world id chosen)
    (steady : Steady world next) : Waiting next id chosen where
  active := steady.active ▸ waiting.active
  unanswered := (steady.requests id).answered.trans waiting.unanswered
  kind := (congrArg Asked.kind (steady.requests id).asked).trans waiting.kind
  completed := (steady.requests id).completed.trans waiting.completed
  chosen := (steady.requests id).chosen.trans waiting.chosen

theorem isCancelled_cancelRequest (world : World) (id : Nat) :
    (world.cancelRequest id).isCancelled id = true := by
  show (Core.Ui.cancel world.ui (cancellable id)).cancelled
    (cancellable id) = true
  rw [cancelled_cancel, Function.update_self]

/-- A removal of the chosen token cancels the request. -/
theorem cancelled_acquireEvent (waiting : Waiting world id chosen)
    (removes : Removes presence chosen) :
    (acquireEvent presence world id).isCancelled id = true := by
  rw [acquireEvent, waiting.unanswered, waiting.kind, waiting.completed,
    completedEvent, waiting.chosen]
  dsimp only
  rw [removes.1, removes.2]
  cases cancelled : world.isCancelled id with
  | true => exact cancelled
  | false => exact isCancelled_cancelRequest _ id

theorem cancelled_tokenEvent (running : world.ui.shutdownPosted = false)
    (waiting : Waiting world id chosen)
    (removes : Removes presence chosen) :
    (tokenEvent world presence).isCancelled id = true := by
  have noted : Waiting (world.emit (.dispatched presence)) id chosen :=
    waiting.steady (.emit _)
  have told :
      (eachRequest (world.emit (.dispatched presence))
        (acquireEvent presence)).isCancelled id = true := by
    let here (world : World) : Prop :=
      world.ui.shutdownPosted = false ∧ Waiting world id chosen
    have steady (world : World) (other : Nat) (holds : here world) :
        Steady world (acquireEvent presence world other) :=
      Nudged.steady (nudged_acquireEvent holds.1 presence other)
    exact foldl_settles here
      (fun world other => other = id → world.isCancelled id = true)
      (fun world other holds =>
        ⟨(steady world other holds).shutdownPosted.trans holds.1,
          holds.2.steady (steady world other holds)⟩)
      (fun world other _ holds settled same =>
        (steady world other holds).cancelled _ (settled same))
      (by
        rintro world other holds rfl
        exact cancelled_acquireEvent holds.2 removes)
      world.active ⟨running, noted⟩ waiting.active rfl
  have each := @nudged_eachAcquisition (world.emit (.dispatched presence))
    running presence
  rw [tokenEvent, if_neg (Bool.eq_false_iff.mp removes.1)]
  refine (Nudged.steady (nudged_eachSession (Nudged.running each running)
    ?_)).cancelled _ told
  intro world session running
  split_ifs
  · exact nudged_invalidate running session _
  · exact .refl

/-- A dispatch takes back the choice of a token that is gone. -/
theorem cancelled_dispatchPending (running : world.ui.shutdownPosted = false)
    (waiting : Waiting world id chosen) (queued : presence ∈ world.events)
    (removes : Removes presence chosen) :
    (dispatchPending world).isCancelled id = true := by
  let here (world : World) : Prop :=
    world.ui.shutdownPosted = false ∧ Waiting world id chosen
  have steady (world : World) (event : WatchEvent) (holds : here world) :
      Steady world (tokenEvent world event) :=
    (Steady.emit (.dispatched event)).trans
      (Nudged.steady (nudged_tokenEvent holds.1 event))
  exact foldl_settles here
    (fun world event => Removes event chosen → world.isCancelled id = true)
    (fun world event holds =>
      ⟨(steady world event holds).shutdownPosted.trans holds.1,
        holds.2.steady (steady world event holds)⟩)
    (fun world event _ holds settled removes =>
      (steady world event holds).cancelled _ (settled removes))
    (fun world event holds => cancelled_tokenEvent holds.1 holds.2)
    world.events ⟨running, { waiting with }⟩ queued removes

/-! ## Events in the queue -/

theorem events_complete (world : World) (id : Nat) (error : XccErrorCode) :
    (xccRequestComplete world id error).events = world.events := by
  rw [xccRequestComplete]
  dsimp only
  split_ifs <;> rfl

theorem events_nudged (nudged : Nudged world next) :
    next.events = world.events :=
  @Composed.relates _ _
    (fun (first second : World) => second.events = first.events)
    (fun _ => rfl) (fun _ _ _ here there => there.trans here)
    (fun _ _ => events_nudge) _ _ nudged

/-- An event stays in the queue until a dispatch. -/
theorem queued_move (move : Move world next)
    (queued : presence ∈ world.events) :
    presence ∈ next.events ∨
      world.ui.shutdownPosted = false ∧ next = dispatchPending world := by
  have kept {after : World} (same : after.events = world.events) :
      presence ∈ after.events ∨
        world.ui.shutdownPosted = false ∧ after = dispatchPending world :=
    .inl (same ▸ queued)
  cases move with
  | dispatched running => exact .inr ⟨running, rfl⟩
  | outside => exact .inl (List.mem_append_left _ queued)
  | nudge nudge => exact kept (events_nudge nudge)
  | @regenerated value rest running posts =>
      have same := events_nudged
        (@nudged_generation { world with posts := rest } running value)
      exact kept same
  | published =>
      rw [publish]
      split <;> exact kept rfl
  | answered => exact kept (events_complete ..)
  | @granted other session candidate =>
      exact kept (events_complete
        (grantRequest world other session candidate) other .ok)
  | registered spec =>
      rw [sessionNewRegister]
      split_ifs <;> exact kept rfl
  | rolledBack =>
      rw [rollbackAcquisition]
      dsimp only
      split <;> exact kept rfl
  | shut ready =>
      rw [xccContextCheckShutdown, if_pos ready]
      exact kept rfl
  | settles delivering =>
      rw [completionSettles]
      dsimp only
      split_ifs
      · rw [World.post]
        split_ifs <;> exact kept rfl
      · split <;> exact kept rfl
      · exact kept rfl
  | calls calling =>
      rw [completionCalls]
      dsimp only
      split_ifs
      · exact kept rfl
      · rw [World.post]
        split_ifs <;> exact kept rfl
  | _ => exact kept rfl

/-! ## The invariant -/

/-- A choice that has been made, and whether it has been taken back. -/
structure Remembered
    (world : World) (id : Nat) (chosen : CertificateCandidate)
    (queued : List WatchEvent) : Prop where
  born : id < world.nextRequest
  kind : (world.requests id).kind = .acquire
  completed : (world.requests id).chooserCompleted = true
  pending : (world.requests id).pendingChosen = some chosen
  doomed : (world.requests id).answered = false →
    ∀ event ∈ queued, Removes event chosen →
      event ∈ world.events ∨ world.isCancelled id = true

/-- Every choice was made from what the chooser showed, and every grant is for
a choice. -/
structure Honest (world : World) : Prop where
  each : Each (Consenting world) world.trace
  remembered : ∀ id reply view chosen refreshing queued,
    .concluded id reply view (some chosen) refreshing queued ∈
        world.trace → Remembered world id chosen queued

/-- A choice that stands before a move stands after it, or has been taken
back. -/
theorem Remembered.move {queued : List WatchEvent}
    (remembered : Remembered world id chosen queued)
    (move : Move world next) (basic : Basic world) :
    Remembered next id chosen queued := by
  have lasts := lasting_move move basic.orderly remembered.born
  refine
    { born := remembered.born.trans_le (nextRequest_move move)
      kind := (congrArg Asked.kind lasts.asked).trans remembered.kind
      completed := lasts.completed remembered.completed
      pending := (lasts.chosen remembered.completed).trans remembered.pending
      doomed := ?_ }
  intro unanswered event member removes
  have before : (world.requests id).answered = false := by
    rw [Bool.eq_false_iff] at unanswered ⊢
    exact fun told => unanswered (lasts.answered told)
  rcases remembered.doomed before event member removes with
    waits | cancelled
  · rcases queued_move move waits with waits | ⟨running, rfl⟩
    · exact .inl waits
    · have active : id ∈ world.active :=
        (basic.orderly.completed id remembered.completed).resolve_left
          (Bool.eq_false_iff.mp before)
      exact .inr (cancelled_dispatchPending running
        ⟨active, before, remembered.kind, remembered.completed,
          remembered.pending⟩ waits removes)
  · exact .inr (cancelled_move move cancelled)

/-- The requests of the trace ask for what they asked for. -/
theorem Honest.filters (honest : Honest world)
    (same : ∀ id < world.nextRequest,
      (next.requests id).filter = (world.requests id).filter) :
    Each (Consenting next) world.trace := by
  intro since event before split
  have holds := honest.each since event before split
  cases event with
  | concluded id reply view chosen refreshing queued =>
      cases chosen with
      | none => trivial
      | some chosen =>
          have remembered := honest.remembered id reply view chosen refreshing
            queued (by
              rw [split]
              exact List.mem_append_right _ (List.mem_cons_self ..))
          exact Chosen.filter holds (same id remembered.born)
  | granted id session candidate =>
      rcases (show Agreed world id candidate before from holds).consent with
        ⟨later, reply, view, chosen, refreshing, queued, earlier, rest, -⟩
      have remembered := honest.remembered id reply view chosen refreshing
        queued (by
          rw [split, rest]
          exact List.mem_append_right _ (List.mem_cons_of_mem _
            (List.mem_append_right _ (List.mem_cons_self ..))))
      exact Agreed.filter holds (same id remembered.born)
  | _ => trivial

/-- A list that is shown has been read. -/
theorem listed_of_rows (lists : Lists world)
    {rows : List CertificateCandidate}
    (last : lastList id world.trace = some rows) (shows : rows ≠ []) :
    ∃ enumeration snapshot realTime,
      .enumerated id enumeration (.ok snapshot) ∈ world.trace ∧
        rows = certificateFilterApply snapshot (world.requests id).filter
          realTime := by
  rcases List.findSome?_eq_some_iff.mp last with
    ⟨later, event, earlier, split, list, -⟩
  cases event with
  | published other enumeration candidates =>
      rw [listOf, Option.ite_none_right_eq_some] at list
      rcases list with ⟨rfl, same⟩
      cases same
      rcases lists.sound later _ earlier split with
        ⟨-, -, snapshot, realTime, reported, made⟩
      refine ⟨enumeration, snapshot, realTime, ?_, made⟩
      rw [split]
      exact List.mem_append_right _ (List.mem_cons_of_mem _ reported)
  | emptied other =>
      rw [listOf, Option.ite_none_right_eq_some] at list
      exact absurd (Option.some.inj list.2).symm shows
  | _ => cases list

/-- A choice is made from what is shown. -/
theorem chosen_of_fair {chooser : Nat} {reply : Option Reply}
    (lists : Lists world)
    (choosing : (world.requests id).chooser = some chooser)
    (fair : ∃ given, reply = some given ∧
      ∃ row ∈ (world.ui.choosers chooser).choices,
        given.kind = .choose (world.ui.choosers chooser).revision row.id ∧
          row.candidate = chosen) :
    Chosen world id reply
      (Core.Chooser.chooserView (world.ui.choosers chooser)) chosen
      world.trace where
  replied := fair
  listed := by
    rcases fair with ⟨given, -, row, member, -⟩
    refine listed_of_rows lists (lists.rows id chooser choosing) ?_
    exact List.ne_nil_of_mem (List.mem_map_of_mem member)

theorem Removes.of_same {candidate : CertificateCandidate}
    (same : certificateCandidateSame chosen candidate = true)
    (removes : Removes presence candidate) : Removes presence chosen :=
  ⟨removes.1, certificateTokenSame_trans
    (certificateCandidateSame_iff.mp same).1 removes.2⟩

/-- A grant is for a choice that has not been taken back. -/
theorem agreed_of_granted {candidate : CertificateCandidate}
    (honest : Honest world)
    (unanswered : (world.requests id).answered = false)
    (wanted : Wanted world id) (consented : Consented world id candidate) :
    Agreed world id candidate world.trace where
  consent := by
    have kept {reply : Option Reply} {view : XccChooserView}
        {chosen : CertificateCandidate} {refreshing : Bool}
        {queued : List WatchEvent}
        (member : .concluded id reply view (some chosen) refreshing queued ∈
          world.trace) (event : WatchEvent) (waits : event ∈ queued) :
        ¬Removes event chosen := by
      intro removes
      have remembered :=
        honest.remembered id reply view chosen refreshing queued member
      rcases remembered.doomed unanswered event waits removes with
        here | cancelled
      · rw [wanted.settled] at here
        cases here
      · rw [wanted.cancelled] at cancelled
        cases cancelled
    rcases consented.chosen with ⟨chosen, -, same | confirmed⟩
    · rcases same with ⟨rfl, reply, view, queued, member⟩
      rcases List.append_of_mem member with ⟨since, before, split⟩
      exact ⟨since, reply, view, candidate, false, queued, before, split,
        honest.each _ _ _ split, kept member, .inl ⟨rfl, rfl⟩⟩
    · rcases confirmed.reported with
        ⟨later, enumeration, snapshot, earlier, realTime, split,
          ⟨refreshing, reply, view, queued, member⟩, found⟩
      rcases List.append_of_mem member with ⟨since, before, rest⟩
      have whole : world.trace =
          (later ++ .enumerated id enumeration (.ok snapshot) :: since) ++
            .concluded id reply view (some chosen) refreshing queued ::
              before := by
        rw [split, rest, List.append_assoc, List.cons_append]
      have recorded :
          .concluded id reply view (some chosen) refreshing queued ∈
            world.trace := by
        rw [whole]
        exact List.mem_append_right _ (List.mem_cons_self ..)
      refine ⟨_, reply, view, chosen, refreshing, queued, before, whole,
        honest.each _ _ _ whole, fun event waits removes =>
          kept recorded event waits (removes.of_same confirmed.same),
        .inr ⟨confirmed.same, enumeration, snapshot, realTime, ?_, found⟩⟩
      exact List.mem_append_right _ (List.mem_cons_self ..)

/-- The chooser ends, and what it ends with is remembered. -/
theorem remembered_concluded {ui : Core.Coordinator.World} {chooser : Nat}
    (ordered : Ordered world) (ends : Ends world ui id chooser)
    (move : Move world next)
    (last : ∃ error,
      next.requests id = conclude (world.requests id) (some chosen) error)
    (events : next.events = world.events) :
    Remembered next id chosen world.events := by
  have choosing := ordered.orderly.choosing id chooser ends.choosing
  have first : (world.requests id).chooserCompleted = false := choosing.2.1
  have kind : (world.requests id).kind = .acquire := choosing.1.kind
  rcases last with ⟨error, last⟩
  rw [conclude, if_neg (Bool.eq_false_iff.mp first)] at last
  exact
    { born := (ordered.seat ends.choosing).2.trans_le (nextRequest_move move)
      kind := by
        rw [last]
        exact kind
      completed := by rw [last]
      pending := by rw [last]
      doomed := fun _ event waits _ => .inl (events.symm ▸ waits) }

theorem honest_move (move : Move world next) (basic : Basic world)
    (timely : Timely world) (honest : Honest world) : Honest next := by
  have ordered := Starts.Basic.ordered basic
  have each : Each (Consenting next) world.trace :=
    honest.filters fun id born => congrArg Asked.filter
      (lasting_move move basic.orderly born).asked
  have remembered (id reply view chosen refreshing queued)
      (member : .concluded id reply view (some chosen) refreshing queued ∈
        world.trace) : Remembered next id chosen queued :=
    (honest.remembered id reply view chosen refreshing queued member).move
      move basic
  cases news_move move with
  | aside adds =>
      refine ⟨adds.each each ?_, ?_⟩
      · intro event before aside
        cases event <;> trivial
      · intro id reply view chosen refreshing queued member
        exact remembered id reply view chosen refreshing queued
          ((adds.mem member).resolve_left Bool.noConfusion)
  | @notes event notes trace =>
      have plain (consenting : Consenting next event world.trace)
          (others : ∀ id reply view chosen refreshing queued,
            event = .concluded id reply view (some chosen) refreshing
              queued → Remembered next id chosen queued) :
          Honest next := by
        refine ⟨?_, ?_⟩
        · rw [trace]
          exact each_cons.mpr ⟨consenting, each⟩
        · intro id reply view chosen refreshing queued member
          rw [trace] at member
          rcases List.mem_cons.mp member with same | old
          · exact others id reply view chosen refreshing queued same.symm
          · exact remembered id reply view chosen refreshing queued old
      cases notes with
      | @concluded ui id chooser reply chosen ends fair last events =>
          refine plain ?_ ?_
          · cases chosen with
            | none => trivial
            | some chosen =>
                exact Chosen.filter
                  (chosen_of_fair timely.lists ends.choosing (fair chosen rfl))
                  (congrArg Asked.filter (lasting_move move basic.orderly
                    (ordered.seat ends.choosing).2).asked)
          · rintro id reply view chosen refreshing queued ⟨⟩
            exact remembered_concluded ordered ends move last events
      | @granted id session candidate answerable completed bound opened
          wanted consented =>
          refine plain (Agreed.filter
            (agreed_of_granted honest answerable.unanswered wanted consented)
            (congrArg Asked.filter (lasting_move move basic.orderly
              (basic.located.born answerable.active)).asked)) ?_
          rintro _ _ _ _ _ _ ⟨⟩
      | _ =>
          refine plain trivial ?_
          rintro _ _ _ _ _ _ ⟨⟩

theorem honest_of_reachable (reachable : machine.Reachable world) :
    Honest world := by
  have both : Timely world ∧ Honest world := by
    refine @invariant_of_moves _ (fun world => Timely world ∧ Honest world)
      ?_ ?_ reachable
    · intro ui generation now initial
      refine ⟨timely_of_reachable (.initial ⟨ui, generation, now, initial,
        rfl⟩), each_nil, ?_⟩
      intro id reply view chosen refreshing queued member
      cases member
    · intro world next basic both move
      exact ⟨timely_move move basic both.1,
        honest_move move basic both.1 both.2⟩
  exact both.2

/-- A grant is for a row of the view that was replied to, which the filter of
the request had let through; a choice during a refresh is confirmed by a
later report, and no removal of its token was in the queue. -/
theorem grants_agreed (reachable : machine.Reachable world)
    {since : List Event} {id session : Nat}
    {candidate : CertificateCandidate} {before : List Event}
    (granted : world.trace = since ++ .granted id session candidate ::
      before) :
    Agreed world id candidate before :=
  (honest_of_reachable reachable).each since _ before granted

/-- A choice that is made while a second report is awaited. -/
theorem grants_agreed_refreshing :
    ∃ world,
      machine.run exampleStart
          (exampleChoosing ++
            [.watchEmit { exampleRemoval with added := true },
              .dispatchEvents, .ui (.send ⟨1, .choose 2 1⟩),
              .ui (.receive 0),
              .enumerated 0 1 (.ok [exampleCandidate [1]]) true 0]) =
          some world ∧
        ∃ before, world.trace =
            .granted 0 0 (exampleCandidate [1]) :: before ∧
          Agreed world 0 (exampleCandidate [1]) before := by
  have moved : machine.run exampleStart
      (exampleChoosing ++
        [.watchEmit { exampleRemoval with added := true },
          .dispatchEvents, .ui (.send ⟨1, .choose 2 1⟩),
          .ui (.receive 0),
          .enumerated 0 1 (.ok [exampleCandidate [1]]) true 0]) =
      some _ := rfl
  have reachable := exampleStart_reachable.run moved
  exact ⟨_, moved, _, rfl, @grants_agreed _ reachable [] 0 0 _ _ rfl⟩

end PortalCertificate.Context.Consents
