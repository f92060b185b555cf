import PortalCertificate.Core.PinPages
import PortalCertificate.Core.PromptDispatch

/-!
# The order of prompts, and where every page is

Two invariants of the trace.  Prompts are started in the order in which they
were asked for, unless they have been answered before; and every page that
was handed over is in the queue of replies, with the reply that is being
dispatched, with the active prompt, or has been freed once.
-/

namespace PortalCertificate.Core.PinLedger

open PortalCertificate.Core.Coordinator
open PortalCertificate.Core.Interactions
open PortalCertificate.Core.Pin
open PortalCertificate.Core.PinPages
open PortalCertificate.Core.PromptCourse
open PortalCertificate.Core.PromptDispatch
open PortalCertificate.Core.PromptEvents
open PortalCertificate.Core.PromptFits
open PortalCertificate.Core.PromptInvariant
open PortalCertificate.Core.PromptMoves
open PortalCertificate.Core.PromptReplies
open PortalCertificate.Core.PromptRuns
open PortalCertificate.Core.PromptSteps
open PortalCertificate.Core.PromptViews
open PortalCertificate.Core.Secret
open PortalCertificate.Core.Ui
open PortalCertificate.Library.Trace

/-! ## The order of prompts -/

/-- The prompt has been started, or has been answered without. -/
def Begun (trace : List Event) (id : Nat) : Prop :=
  .started id ∈ trace ∨ ∃ outcome, .done id outcome ∈ trace

/-- Logins are numbered as they are requested, and begun in that order. -/
def InOrder : Event → List Event → Prop
  | .requested id, before =>
      ∀ other, .requested other ∈ before → other < id
  | .started id, before =>
      .requested id ∈ before ∧
        ∀ other, other < id → .requested other ∈ before →
          Begun before other
  | _, _ => True

/-- Neither a request nor a start. -/
def Unordered : Event → Prop
  | .requested _ | .started _ => False
  | _ => True

/-- The prompts are begun in order, and those that have got further have been
begun. -/
structure Order (phases : Nat → Phase) (trace : List Event) : Prop where
  ordered : Each InOrder trace
  served : ∀ id, phases id ≠ .unborn → phases id ≠ .queued →
    Begun trace id

variable {first second frame : Frame} {id : Nat}

theorem Begun.grow
    {kinds : Event → Prop} {earlier later : List Event}
    (begun : Begun earlier id) (adds : Adds kinds earlier later) :
    Begun later id :=
  begun.imp adds.subset fun ⟨outcome, done⟩ =>
    ⟨outcome, adds.subset done⟩

theorem inOrder_of_unordered
    (event : Event) (before : List Event) (other : Unordered event) :
    InOrder event before := by
  cases event <;> trivial

/-- A move that neither asks for a prompt nor starts one. -/
theorem Order.keep
    {before after : Nat → Phase} {earlier later : List Event}
    (order : Order before earlier) (adds : Adds Unordered earlier later)
    (served : ∀ id, after id ≠ .unborn → after id ≠ .queued →
      (before id ≠ .unborn ∧ before id ≠ .queued) ∨ Begun later id) :
    Order after later where
  ordered := adds.each order.ordered inOrder_of_unordered
  served id alive waited := by
    rcases served id alive waited with there | begun
    · exact (order.served id there.1 there.2).grow adds
    · exact begun

/-! ## Pages -/

/-- A prompt that is answered has no page. -/
def CleanDone : Event → List Event → Prop
  | .done id _, before =>
      ∀ secret, .held id secret ∈ before → .secretFreed secret ∈ before
  | _, _ => True

/-- Not about a page. -/
def Unpaged : Event → Prop
  | .submitted _ | .held _ _ | .secretFreed _ => False
  | _ => True

/-- The pages of the active prompt. -/
def inFlight (world : World) : List Nat :=
  match world.pinActive with
  | none => []
  | some id => pages (world.prompts id)

/-- The pages that have not been freed. -/
def whereabouts (world : World) (hand : Option XccSecret) : List Nat :=
  inboxPages world.inbox ++ (serials hand ++ inFlight world)

/-- Where every submitted secret is: freed, in a prompt, or in the hand of the
main loop. -/
structure Pages (world : World) (hand : Option XccSecret) : Prop where
  clean : Each CleanDone world.trace
  owned : ∀ id secret, .held id secret ∈ world.trace →
    .secretFreed secret ∈ world.trace ∨ secret ∈ pages (world.prompts id)
  numbered : ∀ secret, world.trace.count (.submitted secret) =
    if secret < world.nextSecret then 1 else 0
  consumed : ∀ secret,
    world.trace.count (.secretFreed secret) +
        (whereabouts world hand).count secret =
      world.trace.count (.submitted secret)

theorem count_of_adds
    {earlier later : List Event} (adds : Adds Unpaged earlier later)
    (event : Event) (paged : ¬ Unpaged event) :
    later.count event = earlier.count event := by
  refine adds.countP fun other kind => ?_
  rw [beq_eq_false_iff_ne]
  rintro rfl
  exact paged kind

/-- A move that moves no page. -/
theorem Pages.keep
    {world next : World} {hand : Option XccSecret}
    (kept : Pages world hand)
    (adds : Adds Unpaged world.trace next.trace)
    (clean : Each CleanDone next.trace) (same : SamePages world next)
    (flight : inFlight next = inFlight world) : Pages next hand where
  clean := clean
  owned id secret held := by
    rcases adds.mem held with kind | held
    · cases kind
    · rw [same.pages]
      exact (kept.owned id secret held).imp_left adds.subset
  numbered secret := by
    rw [count_of_adds adds _ id, same.nextSecret]
    exact kept.numbered secret
  consumed secret := by
    rw [count_of_adds adds _ id, count_of_adds adds _ id, whereabouts,
      same.inbox, flight]
    exact kept.consumed secret

/-! ## Plain moves -/

/-- The event is neither about the order of the prompts nor about secrets. -/
def Plain : Event → Prop
  | .requested _ | .started _ | .done _ _ | .submitted _ | .held _ _
  | .secretFreed _ => False
  | _ => True

theorem Plain.unordered (event : Event) (plain : Plain event) :
    Unordered event := by
  cases event <;> trivial

theorem Plain.unpaged (event : Event) (plain : Plain event) :
    Unpaged event := by
  cases event <;> trivial

theorem Plain.cleanDone
    (event : Event) (before : List Event) (plain : Plain event) :
    CleanDone event before := by
  cases event <;> trivial

/-- What the trace says about the order of the prompts and about the secrets. -/
structure Ledger (frame : Frame) : Prop where
  order : Order frame.phases frame.world.trace
  pages : Pages frame.world frame.hand

/-- No prompt has been asked for or has left the queue. -/
def Placed (first second : Frame) : Prop :=
  ∀ id, second.phases id ≠ .unborn → second.phases id ≠ .queued →
    first.phases id ≠ .unborn ∧ first.phases id ≠ .queued

theorem placed_turns
    (same : second.phases = first.phases) : Placed first second := by
  intro id alive waited
  rw [← same]
  exact ⟨alive, waited⟩

theorem placed_goes
    {phase : Phase} {world : World}
    (alive : frame.phases id ≠ .unborn)
    (waited : frame.phases id ≠ .queued) :
    Placed frame (frame.goes id phase world) := by
  intro other there away
  by_cases same : other = id
  · rw [same]
    exact ⟨alive, waited⟩
  · rw [show (frame.goes id phase world).phases other = frame.phases other
      from Function.update_of_ne same ..] at there away
    exact ⟨there, away⟩

theorem inFlight_eq
    {world next : World} (active : next.pinActive = world.pinActive)
    (same : SamePages world next) : inFlight next = inFlight world := by
  rw [inFlight, inFlight, active]
  split
  · rfl
  · exact same.pages _

theorem Ledger.plain
    (ledger : Ledger first)
    (adds : Adds Plain first.world.trace second.world.trace)
    (same : SamePages first.world second.world)
    (flight : inFlight second.world = inFlight first.world)
    (hand : second.hand = first.hand) (placed : Placed first second) :
    Ledger second where
  order := ledger.order.keep (adds.mono Plain.unordered)
    fun id alive waited => .inl (placed id alive waited)
  pages := hand ▸ ledger.pages.keep (adds.mono Plain.unpaged)
    (adds.each ledger.pages.clean Plain.cleanDone) same flight

/-! ## Prompts that are asked for -/

/-- A phase in which a prompt or its worker has a page. -/
def handles : Phase → Bool
  | .holding | .loggingIn => true
  | _ => false

theorem pages_nil
    {phase : Phase} {running : Bool} {prompt : PinPrompt}
    {screen : Option Interaction} {past : List Event}
    (fits : Fits id phase running prompt screen past)
    (quiet : handles phase = false) : pages prompt = [] := by
  have secret := fits.secret
  have works := fits.worker
  cases phase with
  | holding | loggingIn => cases quiet
  | _ => rw [pages, show prompt.secret = none from secret,
      show prompt.worker = _ from works]; rfl

theorem alive_of_mem
    (coupled : Coupled frame) {event : Event}
    (member : event ∈ frame.world.trace) (about : concerns id event = true) :
    frame.phases id ≠ .unborn := by
  intro unborn
  have lived := (Coupled.at coupled unborn).lived
  have inside : event ∈ history id frame.world.trace :=
    List.mem_filter.mpr ⟨member, about⟩
  rw [lived.2] at inside
  cases inside

/-- Every prompt has been asked for before the next one. -/
theorem requested_before
    (coupled : Coupled frame) (other : Nat)
    (member : .requested other ∈ frame.world.trace) :
    other < frame.world.nextPrompt := by
  by_contra late
  exact alive_of_mem coupled member (decide_eq_true rfl)
    ((coupled.born other).mpr (not_lt.mp late))

theorem served_other
    {phases : Nat → Phase} {earlier later : List Event} {phase : Phase}
    {kinds : Event → Prop} (order : Order phases earlier)
    (adds : Adds kinds earlier later)
    (here : phase ≠ .queued → Begun later id) (other : Nat)
    (alive : Function.update phases id phase other ≠ .unborn)
    (waited : Function.update phases id phase other ≠ .queued) :
    Begun later other := by
  by_cases same : other = id
  · subst same
    rw [Function.update_self] at waited
    exact here waited
  · rw [Function.update_of_ne same] at alive waited
    exact (order.served other alive waited).grow adds

theorem refuse_trace (world : World) (login : PinLogin) :
    (refuse world login).trace = freeEvents login world.nextPrompt ++
      .done world.nextPrompt .noDisplay ::
        .requested world.nextPrompt :: world.trace := by
  rw [refuse, freeEvents]
  split_ifs <;> rfl

theorem ledger_refused
    (coupled : Coupled frame) (ledger : Ledger frame) (login : PinLogin) :
    Ledger (frame.goes frame.world.nextPrompt .refused
      (refuse frame.world login)) := by
  have free : ∀ event ∈ freeEvents login frame.world.nextPrompt,
      Plain event := by
    intro event member
    rw [freeEvents] at member
    split_ifs at member
    · rw [List.mem_singleton.mp member]
      trivial
    · cases member
  have ended : Adds Plain
      (.done frame.world.nextPrompt .noDisplay ::
        .requested frame.world.nextPrompt :: frame.world.trace)
      (refuse frame.world login).trace := ⟨_, refuse_trace .., free⟩
  have told : Adds Unpaged frame.world.trace
      (.done frame.world.nextPrompt .noDisplay ::
        .requested frame.world.nextPrompt :: frame.world.trace) :=
    Adds.cons (Adds.cons (.refl _) trivial) trivial
  have unborn := Coupled.unborn coupled
  have fields : (refuse frame.world login).prompts = frame.world.prompts ∧
      (refuse frame.world login).pinActive = frame.world.pinActive ∧
      (refuse frame.world login).inbox = frame.world.inbox ∧
      (refuse frame.world login).nextSecret = frame.world.nextSecret := by
    rw [refuse]
    split_ifs <;> exact ⟨rfl, rfl, rfl, rfl⟩
  have same : SamePages frame.world (refuse frame.world login) :=
    samePages_of fields.1 fields.2.2.1 fields.2.2.2
  constructor
  · constructor
    · have first : Each InOrder (.done frame.world.nextPrompt .noDisplay ::
          .requested frame.world.nextPrompt :: frame.world.trace) :=
        each_cons.mpr ⟨trivial, each_cons.mpr
          ⟨requested_before coupled, ledger.order.ordered⟩⟩
      exact (ended.mono Plain.unordered).each first inOrder_of_unordered
    · refine served_other ledger.order
        (told.trans (ended.mono Plain.unpaged))
        fun _ => .inr ⟨.noDisplay, ?_⟩
      exact ended.subset (List.mem_cons_self ..)
  · refine ledger.pages.keep (told.trans (ended.mono Plain.unpaged)) ?_ same
      (inFlight_eq fields.2.1 same)
    refine ended.each (each_cons.mpr ⟨fun secret held => ?_,
      each_cons.mpr ⟨trivial, ledger.pages.clean⟩⟩) Plain.cleanDone
    have earlier : .held frame.world.nextPrompt secret ∈ frame.world.trace :=
      (List.mem_cons.mp held).resolve_left Event.noConfusion
    exact absurd unborn (alive_of_mem coupled earlier (decide_eq_true rfl))

/-- A new prompt has no page. -/
theorem samePages_newPrompt
    (coupled : Coupled frame) (login : PinLogin) :
    SamePages frame.world (newPrompt frame.world login) ∧
      pages ((newPrompt frame.world login).prompts frame.world.nextPrompt) =
        [] := by
  have absent := (Coupled.absent coupled).1.prompt
  have record : pages ((newPrompt frame.world login).prompts
      frame.world.nextPrompt) = [] := by
    rcases Coupled.newPrompt coupled login with
      ⟨⟨prompt, looks, fits, -⟩, -⟩
    rw [looks.prompt]
    exact pages_nil fits rfl
  refine ⟨⟨fun id => ?_, rfl, rfl⟩, record⟩
  by_cases here : id = frame.world.nextPrompt
  · rw [here, record, absent]
    rfl
  · exact congrArg pages (Function.update_of_ne here ..)

theorem ledger_queued
    (coupled : Coupled frame) (ledger : Ledger frame) (login : PinLogin) :
    Ledger (frame.goes frame.world.nextPrompt .queued
      { newPrompt frame.world login with
        pinQueue := frame.world.pinQueue ++ [frame.world.nextPrompt] }) := by
  let next : World := { newPrompt frame.world login with
    pinQueue := frame.world.pinQueue ++ [frame.world.nextPrompt] }
  have same : SamePages frame.world next :=
    (samePages_newPrompt coupled login).1.trans (samePages_of rfl rfl rfl)
  have told : Adds Unpaged frame.world.trace
      (.requested frame.world.nextPrompt :: frame.world.trace) :=
    Adds.cons (.refl _) trivial
  constructor
  · constructor
    · exact each_cons.mpr ⟨requested_before coupled, ledger.order.ordered⟩
    · exact served_other ledger.order told (absurd rfl)
  · exact ledger.pages.keep told
      (each_cons.mpr ⟨trivial, ledger.pages.clean⟩)
      same (inFlight_eq rfl same)

/-! ## Starts and answers -/

theorem inFlight_none
    {world : World} (inactive : world.pinActive = none) :
    inFlight world = [] := by
  rw [inFlight, inactive]

theorem inFlight_some
    {world : World} (active : world.pinActive = some id) :
    inFlight world = pages (world.prompts id) := by
  rw [inFlight, active]

theorem ledger_begun
    (coupled : Coupled frame) (ledger : Ledger frame) (login : PinLogin)
    (idle : frame.world.pinActive = none)
    (empty : frame.world.pinQueue = []) :
    Ledger (frame.goes frame.world.nextPrompt .deciding
      (activate (newPrompt frame.world login) frame.world.nextPrompt)) := by
  have made := samePages_newPrompt coupled login
  have same : SamePages frame.world
      (activate (newPrompt frame.world login) frame.world.nextPrompt) :=
    made.1.trans (samePages_of rfl rfl rfl)
  have told : Adds Unpaged frame.world.trace
      (.started frame.world.nextPrompt ::
        .requested frame.world.nextPrompt :: frame.world.trace) :=
    Adds.cons (Adds.cons (.refl _) trivial) trivial
  constructor
  · constructor
    · refine each_cons.mpr ⟨⟨List.mem_cons_self .., ?_⟩,
        each_cons.mpr ⟨requested_before coupled, ledger.order.ordered⟩⟩
      intro other less member
      have earlier : .requested other ∈ frame.world.trace := by
        refine (List.mem_cons.mp member).resolve_left fun same => ?_
        cases same
        exact lt_irrefl _ less
      have served := ledger.order.served other
        (alive_of_mem coupled earlier (decide_eq_true rfl)) fun queued => by
          rw [← coupled.queued, empty] at queued
          cases queued
      have grown : Adds Unpaged frame.world.trace
          (.requested frame.world.nextPrompt :: frame.world.trace) :=
        Adds.cons (.refl _) trivial
      exact served.grow grown
    · exact served_other ledger.order told
        fun _ => .inl (List.mem_cons_self ..)
  · refine ledger.pages.keep told (each_cons.mpr ⟨trivial,
      each_cons.mpr ⟨trivial, ledger.pages.clean⟩⟩) same ?_
    rw [inFlight_none idle]
    exact (inFlight_some rfl).trans made.2

theorem ledger_popped
    (coupled : Coupled frame) (ledger : Ledger frame) {head : Nat}
    {rest : List Nat} (idle : frame.world.pinActive = none)
    (queue : frame.world.pinQueue = head :: rest) :
    Ledger (frame.goes head .deciding
      (activate { frame.world with pinQueue := rest } head)) := by
  have phase : frame.phases head = .queued :=
    (coupled.queued head).mp (queue ▸ List.mem_cons_self ..)
  have fits := Coupled.at coupled phase
  have same : SamePages frame.world
      (activate { frame.world with pinQueue := rest } head) :=
    samePages_of rfl rfl rfl
  have told : Adds Unpaged frame.world.trace
      (.started head :: frame.world.trace) := Adds.cons (.refl _) trivial
  constructor
  · constructor
    · refine each_cons.mpr ⟨⟨?_, ?_⟩, ledger.order.ordered⟩
      · have inside : .requested head ∈ history head frame.world.trace :=
          fits.lived.requested_mem
        exact (List.mem_filter.mp inside).1
      · intro other less member
        refine ledger.order.served other
          (alive_of_mem coupled member (decide_eq_true rfl)) fun queued => ?_
        -- The queue is sorted, so nothing in it is older than its head.
        have sorted := coupled.sorted
        rw [← coupled.queued, queue] at queued
        rw [queue, List.pairwise_cons] at sorted
        rcases List.mem_cons.mp queued with rfl | later
        · exact lt_irrefl _ less
        · exact lt_asymm less (sorted.1 other later)
    · exact served_other ledger.order told
        fun _ => .inl (List.mem_cons_self ..)
  · refine ledger.pages.keep told
      (each_cons.mpr ⟨trivial, ledger.pages.clean⟩) same ?_
    rw [inFlight_none idle]
    exact (inFlight_some rfl).trans (pages_nil fits rfl)

/-- A phase in which a prompt can be answered. -/
theorem handles_of_answerable
    {phase : Phase} (ready : phase.answerable = true) :
    handles phase = false := by
  cases phase <;> first | rfl | exact Bool.noConfusion ready

theorem ledger_retired
    (coupled : Coupled frame) (ledger : Ledger frame)
    (outcome : CertificatePinOutcome)
    (active : (frame.phases id).isActive = true)
    (ready : (frame.phases id).answerable = true) :
    Ledger (frame.goes id
      (.answering outcome (frame.phases id).succeeded)
      { shut frame.world id with pinActive := none }) := by
  have fits := coupled.fits id
  have nothing := pages_nil fits (handles_of_answerable ready)
  have none : (frame.world.prompts id).secret = Option.none := by
    have holds := fits.secret
    cases phase : frame.phases id <;> rw [phase] at holds ready <;>
      first | exact holds | exact Bool.noConfusion ready
  have same : SamePages frame.world
      { shut frame.world id with pinActive := Option.none } :=
    (samePages_shut _ none).trans (samePages_of rfl rfl rfl)
  have adds : Adds Plain frame.world.trace (shut frame.world id).trace :=
    shut_adds _ (by rw [none]; exact frees_none) trivial
  refine ledger.plain adds same ?_ rfl (placed_goes ?_ ?_)
  · have before : inFlight frame.world = [] :=
      (inFlight_some ((coupled.active id).mpr active)).trans nothing
    exact (inFlight_none rfl).trans before.symm
  · intro unborn
    rw [unborn] at active
    cases active
  · intro queued
    rw [queued] at active
    cases active

/-- The page rules for an answer, which may free the login data. -/
theorem pages_done
    {before world : World} {hand : Option XccSecret}
    (kept : Pages before hand) (adds : Adds Plain before.trace world.trace)
    (same : SamePages before world)
    (active : world.pinActive = before.pinActive)
    (nothing : pages (world.prompts id) = [])
    (none : (world.prompts id).secret = none)
    (outcome : CertificatePinOutcome) (abandon : Bool) :
    Pages (callDone world id outcome abandon) hand := by
  have done : Adds Plain (.done id outcome :: world.trace)
      (callDone world id outcome abandon).trace :=
    callDone_adds _ (by rw [none]; exact frees_none) trivial trivial
  have told : Adds Unpaged before.trace
      (.done id outcome :: world.trace) :=
    (adds.mono Plain.unpaged).cons trivial
  have after : SamePages before (callDone world id outcome abandon) :=
    same.trans (samePages_callDone world none outcome abandon)
  have still := still_callDone world id outcome abandon
  refine kept.keep (told.trans (done.mono Plain.unpaged)) ?_ after
    (inFlight_eq (still.pinActive.trans active) after)
  refine done.each (each_cons.mpr ⟨fun secret held => ?_,
    adds.each kept.clean Plain.cleanDone⟩) Plain.cleanDone
  have earlier : .held id secret ∈ before.trace := by
    rcases adds.mem held with kind | earlier
    · cases kind
    · exact earlier
  rcases kept.owned id secret earlier with freed | owned
  · exact adds.subset freed
  · rw [← same.pages, nothing] at owned
    cases owned

theorem order_done
    {world : World} (order : Order frame.phases frame.world.trace)
    (adds : Adds Plain frame.world.trace world.trace)
    (none : (world.prompts id).secret = none)
    (outcome : CertificatePinOutcome) (abandon : Bool) (phase : Phase) :
    Order (Function.update frame.phases id phase)
      (callDone world id outcome abandon).trace := by
  have done : Adds Plain (.done id outcome :: world.trace)
      (callDone world id outcome abandon).trace :=
    callDone_adds _ (by rw [none]; exact frees_none) trivial trivial
  have told : Adds Unordered frame.world.trace
      (.done id outcome :: world.trace) :=
    (adds.mono Plain.unordered).cons trivial
  have grown := told.trans (done.mono Plain.unordered)
  refine order.keep grown fun other alive waited => ?_
  have answered : Begun (callDone world id outcome abandon).trace id :=
    .inr ⟨outcome, done.subset (List.mem_cons_self ..)⟩
  exact .inr (served_other order grown
    (fun _ => answered) other alive waited)

theorem ledger_done
    (coupled : Coupled frame) (ledger : Ledger frame)
    {outcome : CertificatePinOutcome} {succeeded abandon : Bool}
    (phase : frame.phases id = .answering outcome succeeded) {after : Phase} :
    Ledger (frame.goes id after
      (callDone frame.world id outcome abandon)) := by
  have fits := Coupled.at coupled phase
  have none : (frame.world.prompts id).secret = none := fits.secret
  exact ⟨order_done ledger.order (.refl _) none outcome abandon after,
    pages_done ledger.pages (.refl _) (.refl _) rfl (pages_nil fits rfl) none
      outcome abandon⟩

theorem ledger_dequeued
    (coupled : Coupled frame) (ledger : Ledger frame)
    {outcome : CertificatePinOutcome} {abandon : Bool}
    (phase : frame.phases id = .queued) {after : Phase} :
    Ledger (frame.goes id after
      (callDone { shut frame.world id with
        pinQueue := frame.world.pinQueue.erase id } id outcome
          abandon)) := by
  have fits := Coupled.at coupled phase
  have none : (frame.world.prompts id).secret = none := fits.secret
  let left : World := { shut frame.world id with
    pinQueue := frame.world.pinQueue.erase id }
  have same : SamePages frame.world left :=
    (samePages_shut _ none).trans (samePages_of rfl rfl rfl)
  have adds : Adds Plain frame.world.trace left.trace :=
    shut_adds _ (by rw [none]; exact frees_none) trivial
  have nothing : pages (left.prompts id) = [] := by
    rw [same.pages, pages_nil fits rfl]
  have clear : (left.prompts id).secret = Option.none := by
    have secret := (List.append_eq_nil_iff.mp nothing).1
    cases here : (left.prompts id).secret with
    | none => rfl
    | some page =>
        rw [here] at secret
        cases secret
  exact ⟨order_done ledger.order adds clear outcome abandon after,
    pages_done ledger.pages adds same (still_shut ..).pinActive nothing clear
      outcome abandon⟩

/-! ## Moves of pages -/

theorem count_serials (secret : Option XccSecret) (page : Nat) :
    (serials secret).count page =
      if secret.map XccSecret.serial = some page then 1 else 0 := by
  cases secret with
  | none => rfl
  | some secret =>
      rw [serials, Option.map_some, Option.toList_some, List.count_singleton]
      simp

theorem ledger_held
    (coupled : Coupled frame) (ledger : Ledger frame)
    {page checked : XccSecret} (phase : frame.phases id = .waiting)
    (hand : frame.hand = some page) (serial : checked.serial = page.serial) :
    Ledger { frame.goes id .holding
        ((frame.world.setPrompt id
          { frame.world.prompts id with secret := some checked }).emit
            (.held id page.serial)) with
      hand := none } := by
  let next := (frame.world.setPrompt id
    { frame.world.prompts id with secret := some checked }).emit
      (.held id page.serial)
  have fits := Coupled.at coupled phase
  have active : frame.world.pinActive = some id := by
    rw [coupled.active, phase]
    rfl
  have before := pages_nil fits rfl
  have after : pages (next.prompts id) = [page.serial] := by
    have record : next.prompts id =
        { frame.world.prompts id with secret := some checked } :=
      World.setPrompt_self ..
    have works : (frame.world.prompts id).worker = .none := fits.worker
    rw [record, pages]
    show [checked.serial] ++ workerPages (frame.world.prompts id).worker = _
    rw [works, serial]
    rfl
  have others (other : Nat) (different : other ≠ id) :
      next.prompts other = frame.world.prompts other :=
    Function.update_of_ne different ..
  have told : Adds Unordered frame.world.trace next.trace :=
    Adds.cons (.refl _) trivial
  have counts (event : Event) (different : event ≠ .held id page.serial) :
      next.trace.count event = frame.world.trace.count event :=
    List.count_cons_of_ne different.symm
  have pages_kept : Pages next none := by
    constructor
    · exact each_cons.mpr ⟨trivial, ledger.pages.clean⟩
    · intro other secret held
      rcases List.mem_cons.mp held with same | held
      · cases same
        rw [after]
        exact .inr (List.mem_cons_self ..)
      · by_cases same : other = id
        · subst same
          rcases ledger.pages.owned other secret held with freed | owned
          · exact .inl (List.mem_cons_of_mem _ freed)
          · rw [before] at owned
            cases owned
        · rw [others other same]
          exact (ledger.pages.owned other secret held).imp_left
            (List.mem_cons_of_mem _)
    · intro secret
      rw [counts _ Event.noConfusion]
      exact ledger.pages.numbered secret
    · intro secret
      have flight : inFlight next = pages (next.prompts id) :=
        inFlight_some active
      have consumed := ledger.pages.consumed secret
      rw [whereabouts, hand, inFlight_some active, before] at consumed
      rw [counts _ Event.noConfusion, counts _ Event.noConfusion, whereabouts,
        flight, after]
      exact consumed
  refine ⟨ledger.order.keep told fun other alive waited => .inl ?_,
    pages_kept⟩
  have placed : Placed frame (frame.goes id .holding next) :=
    placed_goes (by rw [phase]; exact Phase.noConfusion)
      (by rw [phase]; exact Phase.noConfusion)
  exact placed other alive waited

theorem count_freeSecret
    (world : World) (secret : Option XccSecret) (page : Nat) :
    (world.freeSecret secret).trace.count (.secretFreed page) =
      world.trace.count (.secretFreed page) +
        (serials secret).count page := by
  rw [count_serials]
  cases secret with
  | none => rfl
  | some secret =>
      show List.count _ (_ :: world.trace) = _
      rw [List.count_cons]
      simp

theorem count_freeSecret_other
    (world : World) (secret : Option XccSecret) (page : Nat) :
    (world.freeSecret secret).trace.count (.submitted page) =
      world.trace.count (.submitted page) := by
  cases secret with
  | none => rfl
  | some secret => exact List.count_cons_of_ne Event.noConfusion

/-- The page of the active prompt is freed. -/
theorem pages_freed
    {world next : World} {hand secret : Option XccSecret}
    (kept : Pages world hand) (active : world.pinActive = some id)
    (owned : pages (world.prompts id) = serials secret)
    (adds : Adds Plain (world.freeSecret secret).trace next.trace)
    (others : ∀ other, other ≠ id →
      next.prompts other = world.prompts other)
    (nothing : pages (next.prompts id) = [])
    (still : next.pinActive = world.pinActive)
    (inbox : next.inbox = world.inbox)
    (nextSecret : next.nextSecret = world.nextSecret) : Pages next hand := by
  have unpaged := adds.mono Plain.unpaged
  have freed : Adds Unordered world.trace (world.freeSecret secret).trace :=
    freeSecret_adds world fun _ _ => trivial
  constructor
  · refine adds.each ?_ Plain.cleanDone
    cases secret with
    | none => exact kept.clean
    | some page => exact each_cons.mpr ⟨trivial, kept.clean⟩
  · intro other page held
    have earlier : .held other page ∈ world.trace := by
      rcases adds.mem held with kind | held
      · cases kind
      · cases secret with
        | none => exact held
        | some secret =>
            exact (List.mem_cons.mp held).resolve_left Event.noConfusion
    rcases kept.owned other page earlier with gone | here
    · exact .inl (adds.subset (freed.subset gone))
    · by_cases same : other = id
      · subst same
        rw [owned] at here
        refine .inl (adds.subset ?_)
        have counted := count_freeSecret world secret page
        rw [← List.count_pos_iff] at here ⊢
        omega
      · rw [others other same]
        exact .inr here
  · intro page
    rw [count_of_adds unpaged (.submitted page) fun kind => kind,
      count_freeSecret_other, nextSecret]
    exact kept.numbered page
  · intro page
    have consumed := kept.consumed page
    rw [whereabouts, inFlight_some active, owned, List.count_append,
      List.count_append] at consumed
    have after : inFlight next = [] :=
      (inFlight_some (still.trans active)).trans nothing
    rw [count_of_adds unpaged (.secretFreed page) fun kind => kind,
      count_of_adds unpaged (.submitted page) fun kind => kind,
      count_freeSecret, count_freeSecret_other, whereabouts, inbox, after,
      List.count_append, List.count_append, List.count_nil]
    omega

/-- The worker of a login frees the page that it was given. -/
theorem ledger_loginReturned
    (coupled : Coupled frame) (ledger : Ledger frame)
    {secret : Option XccSecret} (result : LoginResult)
    (phase : frame.phases id = .loggingIn)
    (works : (frame.world.prompts id).worker = .loggingIn secret)
    {after : Phase} :
    Ledger (frame.goes id after
      (loginReturned frame.world id secret result)) := by
  have fits := Coupled.at coupled phase
  have active : frame.world.pinActive = some id := by
    rw [coupled.active, phase]
    rfl
  have owned : pages (frame.world.prompts id) = serials secret := by
    have none : (frame.world.prompts id).secret = none := fits.secret
    rw [pages, none, works]
    rfl
  let told := (frame.world.freeSecret secret).emit (.loginReturned id result)
  have freed : told.prompts = frame.world.prompts ∧
      told.pinActive = frame.world.pinActive ∧
      told.inbox = frame.world.inbox ∧
      told.nextSecret = frame.world.nextSecret := by
    cases secret <;> exact ⟨rfl, rfl, rfl, rfl⟩
  have idle : (frame.world.prompts id).secret = none := fits.secret
  have others (prompt : PinPrompt) (other : Nat) (different : other ≠ id) :
      (told.setPrompt id prompt).prompts other =
        frame.world.prompts other := by
    rw [← freed.1]
    exact Function.update_of_ne different ..
  have order (trace : List Event)
      (adds : Adds Plain (frame.world.freeSecret secret).trace trace) :
      Order (Function.update frame.phases id after) trace := by
    have first : Adds Unordered frame.world.trace
        (frame.world.freeSecret secret).trace :=
      freeSecret_adds _ fun _ _ => trivial
    refine ledger.order.keep (first.trans (adds.mono Plain.unordered))
      fun other alive waited => .inl ?_
    have placed : Placed frame (frame.goes id after frame.world) :=
      placed_goes (by rw [phase]; exact Phase.noConfusion)
        (by rw [phase]; exact Phase.noConfusion)
    exact placed other alive waited
  have plain : Adds Plain (frame.world.freeSecret secret).trace told.trace :=
    Adds.cons (.refl _) trivial
  have bare (worker : Worker) (nothing : workerPages worker = []) :
      pages { frame.world.prompts id with worker } = [] := by
    rw [pages, nothing]
    show serials (frame.world.prompts id).secret ++ [] = []
    rw [idle]
    rfl
  rw [loginReturned]
  split_ifs
  · refine ⟨order _ plain, pages_freed ledger.pages active owned plain
      (others _) ?_ freed.2.1 freed.2.2.1 freed.2.2.2⟩
    exact (congrArg pages (World.setPrompt_self ..)).trans (bare _ rfl)
  · refine ⟨order _ (plain.cons trivial), pages_freed ledger.pages active
      owned (plain.cons trivial) (others _) ?_ freed.2.1 freed.2.2.1
      freed.2.2.2⟩
    exact (congrArg pages (World.setPrompt_self ..)).trans (bare _ rfl)

theorem ledger_dropped
    (ledger : Ledger frame) {page wiped : XccSecret}
    (hand : frame.hand = some page) (same : wiped.serial = page.serial) :
    Ledger { frame with
      world := frame.world.freeSecret (some wiped)
      hand := none } := by
  have told : Adds Unordered frame.world.trace
      (.secretFreed wiped.serial :: frame.world.trace) :=
    Adds.cons (.refl _) trivial
  refine ⟨ledger.order.keep told
      fun _ alive waited => .inl ⟨alive, waited⟩,
    each_cons.mpr ⟨trivial, ledger.pages.clean⟩, ?_, ?_, ?_⟩
  · intro id secret held
    have earlier : .held id secret ∈ frame.world.trace :=
      (List.mem_cons.mp held).resolve_left Event.noConfusion
    exact (ledger.pages.owned id secret earlier).imp_left
      (List.mem_cons_of_mem _)
  · intro secret
    show List.count _ (_ :: frame.world.trace) = _
    rw [List.count_cons_of_ne Event.noConfusion]
    exact ledger.pages.numbered secret
  · intro secret
    have consumed := ledger.pages.consumed secret
    rw [whereabouts, hand, List.count_append, List.count_append,
      count_serials] at consumed
    show List.count _ (_ :: frame.world.trace) +
      (whereabouts frame.world none).count secret =
        List.count _ (_ :: frame.world.trace)
    rw [List.count_cons, List.count_cons_of_ne Event.noConfusion, whereabouts,
      List.count_append, List.count_append, count_serials]
    simp only [Option.map_some, Option.map_none, Option.some.injEq, same,
      beq_iff_eq, Event.secretFreed.injEq, reduceCtorEq, if_false]
      at consumed ⊢
    omega

theorem ledger_received
    (ledger : Ledger frame) {index : Nat} {reply : Reply}
    (waiting : frame.world.inbox[index]? = some reply)
    (free : frame.hand = none) :
    Ledger { frame with
      world := { frame.world with
        inbox := frame.world.inbox.eraseIdx index }.emit (.replied reply)
      hand := replyPage reply } := by
  have told : Adds Unordered frame.world.trace
      (.replied reply :: frame.world.trace) := Adds.cons (.refl _) trivial
  refine ⟨ledger.order.keep told
      fun _ alive waited => .inl ⟨alive, waited⟩,
    each_cons.mpr ⟨trivial, ledger.pages.clean⟩, ?_, ?_, ?_⟩
  · intro id secret held
    have earlier : .held id secret ∈ frame.world.trace :=
      (List.mem_cons.mp held).resolve_left Event.noConfusion
    exact (ledger.pages.owned id secret earlier).imp_left
      (List.mem_cons_of_mem _)
  · intro secret
    show List.count _ (_ :: frame.world.trace) = _
    rw [List.count_cons_of_ne Event.noConfusion]
    exact ledger.pages.numbered secret
  · intro secret
    rcases List.getElem?_eq_some_iff.mp waiting with ⟨inside, here⟩
    have moved := (List.getElem_cons_eraseIdx_perm inside).flatMap_right
      (fun reply => serials (replyPage reply))
    have counted := moved.count_eq secret
    rw [List.flatMap_cons, here, List.count_append] at counted
    have consumed := ledger.pages.consumed secret
    rw [whereabouts, free, List.count_append, List.count_append] at consumed
    show List.count _ (_ :: frame.world.trace) +
      (inboxPages (frame.world.inbox.eraseIdx index) ++
        (serials (replyPage reply) ++ inFlight frame.world)).count secret =
          List.count _ (_ :: frame.world.trace)
    rw [List.count_cons_of_ne Event.noConfusion,
      List.count_cons_of_ne Event.noConfusion, List.count_append,
      List.count_append]
    have nothing : (serials none).count secret = 0 := rfl
    have now : (inboxPages frame.world.inbox).count secret =
        (serials (replyPage reply)).count secret +
          (inboxPages (frame.world.inbox.eraseIdx index)).count secret :=
      counted.symm
    omega

theorem numbered_serial
    {given : Reply} {serial : Nat} {page : XccSecret}
    (found : replyPage (Reply.numbered given serial) = some page) :
    page.serial = serial := by
  rcases given with ⟨ui, kind⟩
  cases kind with
  | submit secret =>
      cases secret with
      | none => cases found
      | some secret =>
          cases found
          rfl
  | _ => cases found

/-- The counts after a page has been handed over. -/
theorem count_submitted
    (pages : Pages frame.world frame.hand) (page : Nat) :
    (.submitted frame.world.nextSecret :: frame.world.trace).count
        (.submitted page) =
      if page < frame.world.nextSecret + 1 then 1 else 0 := by
  rw [List.count_cons, pages.numbered]
  simp only [beq_iff_eq, Event.submitted.injEq]
  split_ifs <;> omega

theorem inboxPages_append (inbox : List Reply) (reply : Reply) (page : Nat) :
    (inboxPages (inbox ++ [reply])).count page =
      (inboxPages inbox).count page +
        (serials (replyPage reply)).count page := by
  rw [inboxPages, List.flatMap_append, List.flatMap_singleton,
    List.count_append]
  rfl

theorem ledger_sent
    (ledger : Ledger frame) (given : Reply) :
    Ledger (frame.turns (sendReply frame.world given)) := by
  rw [sendReply]
  cases found : replyPage (Reply.numbered given frame.world.nextSecret) with
  | none =>
      have kept (inbox : List Reply)
          (same : ∀ page, (inboxPages inbox).count page =
            (inboxPages frame.world.inbox).count page) :
          Ledger (frame.turns { frame.world with inbox }) := by
        refine ⟨ledger.order, ledger.pages.clean, ledger.pages.owned,
          ledger.pages.numbered, fun page => ?_⟩
        have consumed := ledger.pages.consumed page
        rw [whereabouts, List.count_append] at consumed ⊢
        show _ + ((inboxPages inbox).count page + _) = _
        rw [same]
        exact consumed
      split_ifs
      · exact ledger
      · refine kept _ fun page => ?_
        rw [inboxPages_append, found]
        rfl
  | some page =>
      have serial := numbered_serial found
      have told : Adds Unordered frame.world.trace
          (.submitted page.serial :: frame.world.trace) :=
        Adds.cons (.refl _) trivial
      have owned (id secret : Nat)
          (held : .held id secret ∈ frame.world.trace) :
          .secretFreed secret ∈ Event.submitted page.serial ::
              frame.world.trace ∨
            secret ∈ pages (frame.world.prompts id) :=
        (ledger.pages.owned id secret held).imp_left
          (List.mem_cons_of_mem _)
      split_ifs
      · refine ⟨ledger.order.keep (told.cons trivial)
          fun _ alive waited => .inl ⟨alive, waited⟩, ?_, ?_, ?_, ?_⟩
        · exact each_cons.mpr ⟨trivial,
            each_cons.mpr ⟨trivial, ledger.pages.clean⟩⟩
        · intro id secret held
          have earlier : .held id secret ∈ frame.world.trace := by
            have second := (List.mem_cons.mp held).resolve_left
              Event.noConfusion
            exact (List.mem_cons.mp second).resolve_left Event.noConfusion
          exact (owned id secret earlier).imp_left (List.mem_cons_of_mem _)
        · intro secret
          show List.count _
            (_ :: Event.submitted page.serial :: frame.world.trace) = _
          rw [List.count_cons_of_ne Event.noConfusion, serial]
          exact count_submitted ledger.pages secret
        · intro secret
          show List.count _ (.secretFreed page.serial ::
              .submitted page.serial :: frame.world.trace) +
            (whereabouts frame.world frame.hand).count secret =
              List.count _ (_ :: .submitted page.serial :: frame.world.trace)
          have consumed := ledger.pages.consumed secret
          rw [List.count_cons, List.count_cons_of_ne Event.noConfusion,
            List.count_cons_of_ne Event.noConfusion, List.count_cons]
          simp only [beq_iff_eq, Event.secretFreed.injEq,
            Event.submitted.injEq]
          omega
      · refine ⟨ledger.order.keep told
          fun _ alive waited => .inl ⟨alive, waited⟩, ?_, ?_, ?_, ?_⟩
        · exact each_cons.mpr ⟨trivial, ledger.pages.clean⟩
        · intro id secret held
          have earlier : .held id secret ∈ frame.world.trace :=
            (List.mem_cons.mp held).resolve_left Event.noConfusion
          exact owned id secret earlier
        · intro secret
          show List.count _
            (Event.submitted page.serial :: frame.world.trace) = _
          rw [serial]
          exact count_submitted ledger.pages secret
        · intro secret
          have consumed := ledger.pages.consumed secret
          rw [whereabouts, List.count_append] at consumed
          show List.count _ (.submitted page.serial :: frame.world.trace) +
            (inboxPages (frame.world.inbox ++ [_]) ++
              (serials frame.hand ++ inFlight frame.world)).count secret =
                List.count _ (.submitted page.serial :: frame.world.trace)
          rw [List.count_cons_of_ne Event.noConfusion, List.count_cons,
            List.count_append, inboxPages_append, found, count_serials]
          simp only [Option.map_some, Option.some.injEq, beq_iff_eq,
            Event.submitted.injEq]
          omega

/-! ## All moves -/

theorem ledger_cancelled
    (ledger : Ledger frame) (cancellable : Nat) :
    Ledger (frame.turns (cancel frame.world cancellable)) := by
  have same := samePages_cancel frame.world cancellable
  have told := cancel_still frame.world cancellable
  refine ledger.plain ?_ same (inFlight_eq told.1.pinActive same) rfl
    (placed_turns rfl)
  show Adds Plain frame.world.trace (cancel frame.world cancellable).trace
  rw [told.2]
  exact .refl _

/-- A move of a prompt that has been started moves no page. -/
theorem Ledger.gone
    (ledger : Ledger frame) {phase : Phase} {world : World}
    (adds : Adds Plain frame.world.trace world.trace)
    (same : SamePages frame.world world) (still : Still frame.world world)
    (alive : frame.phases id ≠ .unborn)
    (waited : frame.phases id ≠ .queued) :
    Ledger (frame.goes id phase world) :=
  ledger.plain adds same (inFlight_eq still.pinActive same) rfl
    (placed_goes alive waited)

theorem Ledger.turned
    (ledger : Ledger frame) {world : World}
    (adds : Adds Plain frame.world.trace world.trace)
    (same : SamePages frame.world world) (still : Still frame.world world) :
    Ledger (frame.turns world) :=
  ledger.plain adds same (inFlight_eq still.pinActive same) rfl
    (placed_turns rfl)

/-- A prompt and its worker without pages. -/
theorem pages_bare
    {prompt : PinPrompt} (none : prompt.secret = none)
    (idle : workerPages prompt.worker = []) : pages prompt = [] := by
  rw [pages, none, idle]
  rfl

/-- A prompt without a page comes to its next stage. -/
theorem samePages_stage
    {phase : Phase} {running : Bool} {prompt : PinPrompt}
    {screen : Option Interaction} {past : List Event} {world next : World}
    (fits : Fits id phase running (world.prompts id) screen past)
    (quiet : handles phase = false) (record : next.prompts id = prompt)
    (others : ∀ other, other ≠ id →
      next.prompts other = world.prompts other)
    (none : prompt.secret = none) (idle : workerPages prompt.worker = [])
    (inbox : next.inbox = world.inbox)
    (nextSecret : next.nextSecret = world.nextSecret) :
    SamePages world next := by
  refine ⟨fun other => ?_, inbox, nextSecret⟩
  by_cases same : other = id
  · rw [same, record, pages_bare none idle, pages_nil fits quiet]
  · rw [others other same]

/-- A worker or an idle source releases its prompt. -/
theorem ledger_released
    (coupled : Coupled frame) (ledger : Ledger frame) {tasks : Nat}
    (extra : frame.running = some id ∨ 0 < (frame.world.prompts id).tasks)
    {running : Option Nat} :
    Ledger ⟨promptUnref (frame.world.setPrompt id
        { frame.world.prompts id with tasks }) id,
      Function.update frame.phases id (frame.released id), running,
      frame.hand⟩ := by
  let fewer := frame.world.setPrompt id { frame.world.prompts id with tasks }
  have same : SamePages frame.world fewer := samePages_setPrompt _ rfl
  have still : Still frame.world (promptUnref fewer id) :=
    (still_setPrompt _ id _).trans (still_promptUnref _ id)
  have record : fewer.prompts id = { frame.world.prompts id with tasks } :=
    World.setPrompt_self ..
  by_cases last : (frame.world.prompts id).refs = 1
  · have phase := answered_of_last coupled extra last
    have none : (fewer.prompts id).secret = none := by
      rw [record]
      exact (Coupled.at coupled phase).secret
    have kept := same.trans (samePages_promptUnref fewer none)
    refine ledger.plain (promptUnref_adds fewer ?_ trivial) kept
      (inFlight_eq still.pinActive kept) rfl ?_
    · rw [none]
      exact frees_none
    · have placed : Placed frame (frame.goes id (frame.released id)
          frame.world) :=
        placed_goes (by rw [phase]; nofun) (by rw [phase]; nofun)
      exact placed
  · have dropped : promptUnref fewer id =
        fewer.setPrompt id { fewer.prompts id with
          refs := (fewer.prompts id).refs - 1 } := by
      rw [promptUnref, if_neg (by rw [record]; exact last)]
    have kept : SamePages frame.world (promptUnref fewer id) := by
      rw [dropped]
      exact same.trans (samePages_setPrompt _ rfl)
    refine ledger.plain ?_ kept (inFlight_eq still.pinActive kept) rfl
      (placed_turns ?_)
    · show Adds Plain frame.world.trace (promptUnref fewer id).trace
      rw [dropped]
      exact .refl _
    · show Function.update frame.phases id (frame.released id) = frame.phases
      rw [Frame.released, if_neg last, Function.update_eq_self]

/-- The page of the attempt is with the worker. -/
theorem ledger_attempted
    (coupled : Coupled frame) (ledger : Ledger frame)
    (ready : frame.phases id =
      if (frame.world.prompts id).protectedPath then .waiting
      else .holding) :
    Ledger (frame.goes id .loggingIn (attempt frame.world id)) := by
  have idle : (frame.world.prompts id).worker = .none := by
    split_ifs at ready
    · exact (Coupled.at coupled ready).worker
    · exact (Coupled.at coupled ready).worker
  refine ledger.gone ?_ (samePages_attempt _ idle) (still_attempt ..) ?_ ?_
  · rw [attempt_trace]
    exact Adds.cons (.refl _) trivial
  · rw [ready]
    split_ifs <;> nofun
  · rw [ready]
    split_ifs <;> nofun

theorem ledger_accepted
    (coupled : Coupled frame) (ledger : Ledger frame)
    (phase : frame.phases id = .waiting) :
    Ledger (frame.goes id .loggingIn
      (attempt (frame.world.setPrompt id
        (confirming (frame.world.prompts id))) id)) := by
  let sure := frame.world.setPrompt id (confirming (frame.world.prompts id))
  have record : sure.prompts id = confirming (frame.world.prompts id) :=
    World.setPrompt_self ..
  have idle : (sure.prompts id).worker = .none := by
    rw [record]
    exact (Coupled.at coupled phase).worker
  have same : SamePages frame.world sure := samePages_setPrompt _ rfl
  have still : Still frame.world sure := still_setPrompt _ id _
  refine ledger.gone ?_ (same.trans (samePages_attempt sure idle))
    (still.trans (still_attempt sure id)) (by rw [phase]; nofun)
    (by rw [phase]; nofun)
  show Adds Plain frame.world.trace (attempt sure id).trace
  rw [attempt_trace]
  exact Adds.cons (.refl _) trivial

/-- Every move keeps the ledger. -/
theorem Moves.ledger
    (coupled : Coupled first) (moves : Moves first second)
    (ledger : Ledger first) : Ledger second := by
  cases moves with
  | refused login => exact ledger_refused coupled ledger login
  | queued login busy => exact ledger_queued coupled ledger login
  | begun login idle empty =>
      exact ledger_begun coupled ledger login idle empty
  | popped idle queue => exact ledger_popped coupled ledger idle queue
  | refreshStarted phase =>
      have fits := Coupled.at coupled phase
      exact ledger.gone (Adds.cons (.refl _) trivial)
        (samePages_stage fits rfl (Function.update_self ..)
          (fun _ different => Function.update_of_ne different ..) fits.secret
          rfl rfl rfl) ⟨rfl, rfl, rfl⟩
        (by rw [phase]; nofun) (by rw [phase]; nofun)
  | shown view phase =>
      refine ledger.gone ?_ (samePages_message ..) (still_message ..)
        (by rw [phase]; nofun) (by rw [phase]; nofun)
      rw [message_trace]
      exact .refl _
  | deferred outcome flying =>
      refine ledger.turned ?_ (samePages_defer ..) (still_defer ..)
      rw [defer_trace]
      exact .refl _
  | retired outcome active ready =>
      exact ledger_retired coupled ledger outcome active ready
  | done phase => exact ledger_done coupled ledger phase
  | dequeued outcome phase => exact ledger_dequeued coupled ledger phase
  | @idleRuns id free queued =>
      have same : SamePages first.world (first.world.setPrompt id
          { first.world.prompts id with cancelIdle := false }) :=
        samePages_setPrompt _ rfl
      exact ledger.plain (.refl _) same (inFlight_eq rfl same) rfl
        (placed_turns rfl)
  | @idleEnds id here =>
      have same : first.world.setPrompt id
          { first.world.prompts id with
            tasks := (first.world.prompts id).tasks } = first.world := by
        show { first.world with
          prompts := Function.update first.world.prompts id
            (first.world.prompts id) } = _
        rw [Function.update_eq_self]
      have released : Ledger ⟨promptUnref (first.world.setPrompt id
            { first.world.prompts id with
              tasks := (first.world.prompts id).tasks }) id,
          Function.update first.phases id (first.released id), none,
          first.hand⟩ := ledger_released coupled ledger (.inl here)
      rwa [same] at released
  | finalized ended => exact ledger_released coupled ledger (.inr ended)
  | refreshReturned flags phase =>
      have fits := Coupled.at coupled phase
      exact ledger.gone (Adds.cons (.refl _) trivial)
        (samePages_stage fits rfl (Function.update_self ..)
          (fun _ different => Function.update_of_ne different ..) fits.secret
          rfl rfl rfl) ⟨rfl, rfl, rfl⟩
        (by rw [phase]; nofun) (by rw [phase]; nofun)
  | refreshEnded phase =>
      have fits := Coupled.at coupled phase
      exact ledger.gone (.refl _)
        (samePages_stage fits rfl (Function.update_self ..)
          (fun _ different => Function.update_of_ne different ..) fits.secret
          rfl rfl rfl) ⟨rfl, rfl, rfl⟩
        (by rw [phase]; nofun) (by rw [phase]; nofun)
  | loginReturned result phase worker =>
      exact ledger_loginReturned coupled ledger result phase worker
  | loginRefreshed flags phase =>
      have fits := Coupled.at coupled phase
      exact ledger.gone (Adds.cons (.refl _) trivial)
        (samePages_stage fits rfl (Function.update_self ..)
          (fun _ different => Function.update_of_ne different ..) fits.secret
          rfl rfl rfl) ⟨rfl, rfl, rfl⟩
        (by rw [phase]; nofun) (by rw [phase]; nofun)
  | loginEnded phase =>
      have fits := Coupled.at coupled phase
      exact ledger.gone (.refl _)
        (samePages_stage fits rfl (Function.update_self ..)
          (fun _ different => Function.update_of_ne different ..) fits.secret
          rfl rfl rfl) ⟨rfl, rfl, rfl⟩
        (by rw [phase]; nofun) (by rw [phase]; nofun)
  | @unbusied id succeeded phase =>
      refine ledger.turned ?_ (samePages_setBusy ..)
        ((still_setPrompt _ id _).trans (still_message ..))
      rw [setBusy_trace]
      exact .refl _
  | @retried id phase typed few idle =>
      have none : (first.world.prompts id).secret = Option.none :=
        (Coupled.at coupled phase).secret
      refine ledger.gone ?_ (samePages_retry _ none)
        (((still_freeSecret ..).trans (still_setPrompt _ id _)).trans
          (still_message ..))
        (by rw [phase]; nofun) (by rw [phase]; nofun)
      rw [retry_trace none]
      exact .refl _
  | updated status phase =>
      refine ledger.turned ?_ (samePages_message ..) (still_message ..)
      rw [pinUpdate, message_trace]
      exact .refl _
  | @asked id phase =>
      have pending : SamePages first.world (first.world.setPrompt id
          { first.world.prompts id with warningPending := true }) :=
        samePages_setPrompt _ rfl
      refine ledger.turned ?_ (pending.trans (samePages_warning ..))
        ((still_setPrompt _ id _).trans (still_warning ..))
      rw [askFinalTry, warning_trace]
      exact .refl _
  | warningRefused phase =>
      exact ledger.turned (.refl _) (samePages_setPrompt _ rfl)
        ⟨rfl, rfl, rfl⟩
  | held phase hand same typed valid =>
      exact ledger_held coupled ledger phase hand same
  | attempted ready =>
      exact ledger_attempted coupled ledger ready
  | accepted phase path => exact ledger_accepted coupled ledger phase
  | readied member =>
      exact ledger.turned (.refl _) (samePages_of rfl rfl rfl)
        ⟨rfl, rfl, rfl⟩
  | timerFired armed =>
      exact ledger.turned (.refl _) (samePages_setPrompt _ rfl)
        ⟨rfl, rfl, rfl⟩
  | cancelled cancellable => exact ledger_cancelled ledger cancellable
  | chooserShown chooser view showing =>
      have numbered : SamePages first.world ({ first.world with
          nextChooser := first.world.nextChooser + 1 }.setChooser
            first.world.nextChooser chooser) := samePages_of rfl rfl rfl
      have still : Still first.world ({ first.world with
          nextChooser := first.world.nextChooser + 1 }.setChooser
            first.world.nextChooser chooser) := ⟨rfl, rfl, rfl⟩
      refine ledger.turned ?_ (numbered.trans (samePages_message ..))
        (still.trans (still_message ..))
      rw [message_trace]
      exact .refl _
  | chooserChanged chooser same =>
      exact ledger.turned (.refl _) (samePages_of rfl rfl rfl)
        ⟨rfl, rfl, rfl⟩
  | chooserUpdated view showing =>
      refine ledger.turned ?_ (samePages_message ..) (still_message ..)
      rw [message_trace]
      exact .refl _
  | @chooserFinished id chooser ended =>
      have finished : SamePages first.world
          (first.world.setChooser id chooser) := samePages_of rfl rfl rfl
      have still : Still first.world (first.world.setChooser id chooser) :=
        ⟨rfl, rfl, rfl⟩
      refine ledger.turned ?_
        (finished.trans (samePages_close_chooser ..))
        (still.trans (still_close ..))
      rw [close_chooser_trace]
      exact .refl _
  | sent reply => exact ledger_sent ledger reply
  | received waiting free => exact ledger_received ledger waiting free
  | dropped hand same => exact ledger_dropped ledger hand same
  | aside same =>
      refine ledger.turned ?_
        (samePages_of same.prompts same.inbox same.nextSecret)
        ⟨same.pinActive, same.pinQueue, same.nextPrompt⟩
      rcases same.trace with silent | ⟨id, chosen, error, told⟩
      · rw [silent]
        exact .refl _
      · rw [told]
        exact Adds.cons (.refl _) trivial

/-! ## Reachable states -/

theorem ledger_start {start : World} (initial : machine.initial start) :
    Ledger (Frame.start start) := by
  rcases initial with ⟨pin, chooser, timeout, tokens, rfl⟩
  refine ⟨⟨each_nil, fun _ alive => absurd rfl alive⟩,
    ⟨each_nil, nofun, fun _ => rfl, fun _ => rfl⟩⟩

/-- The ledger is right wherever moves lead from a start. -/
theorem Arrived.ledger (arrived : Arrived frame) : Ledger frame :=
  arrived.keeps (fun _ initial => ledger_start initial)
    fun _ _ coupled _ moves ledger => Moves.ledger coupled moves ledger

end PortalCertificate.Core.PinLedger
