import PortalCertificate.Core.PromptRuns

/-!
# Dispatches of replies

A reply is dispatched with its page in hand.  It frees the page, or a prompt
holds it for the attempt that follows at once.  Only here can a prompt make
an attempt, and `Live` says which replies make one.
-/

namespace PortalCertificate.Core.PromptReplies

open PortalCertificate.Core.Chooser
open PortalCertificate.Core.Coordinator
open PortalCertificate.Core.InteractionTable
open PortalCertificate.Core.Interactions
open PortalCertificate.Core.Pin
open PortalCertificate.Core.PromptCourse
open PortalCertificate.Core.PromptEvents
open PortalCertificate.Core.PromptFits
open PortalCertificate.Core.PromptInvariant
open PortalCertificate.Core.PromptMoves
open PortalCertificate.Core.PromptRuns
open PortalCertificate.Core.PromptSteps
open PortalCertificate.Core.PromptViews
open PortalCertificate.Core.Secret
open PortalCertificate.Core.Ui
open PortalCertificate.Library.Der (Octets)
open PortalCertificate.Library.Trace
open PortalCertificate.Library.Transition

/-! ## Which replies make an attempt -/

/-- The token is known to be at its last try. -/
def finalTry (world : World) (prompt : PinPrompt) : Bool :=
  (world.tokens prompt.token).flags.pinFinalTry

/-- The reply makes the prompt try this PIN; `last` is for a final try. -/
inductive Triggers
    (last : Bool) (found : Interaction) (prompt : PinPrompt) :
    ReplyKind → Option Octets → Prop where
  | typed {page checked : XccSecret}
      (path : prompt.protectedPath = false) (ready : found.ready = true)
      (accepted : xccSecretSetLength page page.length = (true, checked)) :
      Triggers last found prompt (.submit (some page))
        (xccSecretView (some checked))
  | pushed (secret : Option XccSecret)
      (path : prompt.protectedPath = true) (ready : found.ready = true)
      (safe : last = false) :
      Triggers last found prompt (.submit secret) none
  | readied (path : prompt.protectedPath = true)
      (first : found.ready = false)
      (safe : last = false) :
      Triggers last found prompt .ready none
  | accepted (path : prompt.protectedPath = true)
      (pending : prompt.warningPending = true) :
      Triggers last found prompt (.warning found.warningId true) none

/-- The reply is for a prompt that is waiting, and makes it try this PIN. -/
structure Live
    (world : World) (reply : Reply) (id : Nat) (pin : Option Octets) :
    Prop where
  named : ∃ found, named world reply = some found ∧
    found.subject = .pin id ∧
    Triggers (finalTry world (world.prompts id)) found (world.prompts id)
      reply.kind pin
  unfinished : (world.prompts id).finished = false
  idle : (world.prompts id).loginInFlight = false
  undeferred : (world.prompts id).cancelDeferred = false

/-- Moves lead to the end of a dispatch, with one attempt. -/
structure Attempts
    (first : Frame) (id : Nat) (pin : Option Octets) (world : World) :
    Prop where
  ends : Ends first world
  trace : ∃ before, world.trace = .attempted id pin :: before ∧
    Adds NoAttempt first.world.trace before

variable {frame first middle : Frame} {id : Nat} {world : World}

theorem Attempts.head
    {pin : Option Octets} (attempts : Attempts middle id pin world)
    (moves : Moves first middle)
    (quiet : Adds NoAttempt first.world.trace middle.world.trace) :
    Attempts first id pin world := by
  rcases attempts.trace with ⟨before, trace, adds⟩
  exact ⟨attempts.ends.head moves, before, trace, quiet.trans adds⟩

theorem attempt_trace (world : World) (id : Nat) :
    (attempt world id).trace =
      .attempted id
        (if (world.prompts id).protectedPath then none
          else xccSecretView (world.prompts id).secret) :: world.trace := by
  have told := setBusy_trace
    (world.setPrompt id (attempting (world.prompts id))) id true
  rw [attempt]
  exact congrArg (List.cons _) told

/-! ## Submitting -/

/-- A prompt that waits has no obstacle to an attempt. -/
theorem Coupled.waiting
    (coupled : Coupled frame) (phase : frame.phases id = .waiting) :
    (frame.world.prompts id).busy = false ∧
      (frame.world.prompts id).finished = false ∧
      (frame.world.prompts id).loginInFlight = false ∧
      (frame.world.prompts id).cancelDeferred = false ∧
      (frame.world.prompts id).protectedPathConfirmed = false := by
  have fits := Coupled.at coupled phase
  have idle := fits.idle rfl
  refine ⟨idle.1, fits.finished, fits.loginInFlight, ?_, idle.2⟩
  cases deferred : (frame.world.prompts id).cancelDeferred with
  | false => rfl
  | true => exact Bool.noConfusion (fits.deferred deferred)

/-- `certificate_pin_prompt_submit` on a protected path. -/
theorem Between.submit_protected
    (between : Between frame) (phase : frame.phases id = .waiting)
    (path : (frame.world.prompts id).protectedPath = true) :
    Quietly frame (submit frame.world id) ∨
      finalTry frame.world (frame.world.prompts id) = false ∧
        Attempts frame id none (submit frame.world id) := by
  rcases Coupled.waiting between.coupled phase with
    ⟨busy, late, flying, -, unconfirmed⟩
  rw [submit]
  simp only [busy, late, flying, path, unconfirmed, Bool.or_false,
    Bool.false_eq_true, if_false, Bool.not_false, Bool.not_true,
    Bool.true_and, Bool.and_true, Bool.false_and]
  split_ifs with last pending
  · exact .inl between.self
  · left
    have moves := Moves.asked frame phase
    have still : Still frame.world (askFinalTry frame.world id) :=
      (still_setPrompt _ id _).trans (still_warning ..)
    refine between.turned moves still ?_
    rw [askFinalTry, warning_trace]
    exact .refl _
  · right
    have ready : frame.phases id =
        if (frame.world.prompts id).protectedPath then .waiting
        else .holding := by rw [if_pos path, phase]
    have moves := Moves.attempted frame ready
    have after := between.goes moves rfl (still_attempt ..)
    refine ⟨Bool.not_eq_true _ ▸ last,
      ⟨_, rfl, .single moves, after⟩, _, ?_, .refl _⟩
    rw [attempt_trace, if_pos path]

/-- The page has just been held, so the attempt is made. -/
theorem submit_held
    {held : World} (coupled : Coupled frame)
    (same : frame.world = held) (phase : frame.phases id = .holding)
    (path : (held.prompts id).protectedPath = false) :
    submit held id = attempt held id := by
  subst same
  have fits := Coupled.at coupled phase
  have busy := (fits.idle rfl).1
  have late : (frame.world.prompts id).finished = false := fits.finished
  have flying : (frame.world.prompts id).loginInFlight = false :=
    fits.loginInFlight
  rcases fits.secret with ⟨page, secret, valid⟩
  have length : ¬ xccSecretLength (frame.world.prompts id).secret = 0 := by
    rw [secret]
    exact valid.positive.ne'
  rw [submit]
  simp only [busy, late, flying, path, length, Bool.or_false,
    Bool.false_eq_true, if_false, Bool.false_and, Bool.not_false,
    Bool.true_and, decide_false]

/-! ## Pages in hand -/

/-- A reply is being dispatched, with its page in hand. -/
structure Receiving (frame : Frame) (page : Option XccSecret) : Prop where
  coupled : Coupled frame
  running : frame.running = none
  hand : frame.hand = page
  rests : ∀ id, rests (frame.phases id) = true
  queue : frame.world.pinActive = none → frame.world.pinQueue = []

theorem Receiving.empty (receiving : Receiving frame none) :
    Between frame :=
  ⟨receiving.coupled, receiving.running, receiving.hand, receiving.rests,
    receiving.queue⟩

/-- The page is freed, and the dispatch goes on without it. -/
theorem Receiving.freed
    {page wiped : Option XccSecret} (receiving : Receiving frame page)
    (same : wiped.map XccSecret.serial = page.map XccSecret.serial) :
    ∃ after, after.world = frame.world.freeSecret wiped ∧
      after.phases = frame.phases ∧ Between after ∧
      Composed Moves frame after ∧
      Adds NoAttempt frame.world.trace after.world.trace := by
  cases page with
  | none =>
      cases wiped with
      | none =>
          exact ⟨frame, rfl, rfl, receiving.empty, .refl, .refl _⟩
      | some wiped => cases same
  | some page =>
      cases wiped with
      | none => cases same
      | some wiped =>
          have serial : wiped.serial = page.serial := Option.some.inj same
          have moves := Moves.dropped frame receiving.hand serial
          let after : Frame := { frame with
            world := frame.world.freeSecret (some wiped), hand := none }
          exact ⟨after, rfl, rfl,
            ⟨(Moves.coupled moves receiving.coupled).1,
            receiving.running, rfl, receiving.rests, receiving.queue⟩,
            .single moves, adds_emit _ (by rfl)⟩

theorem Attempts.run
    {pin : Option Octets} (attempts : Attempts middle id pin world)
    (moves : Composed Moves first middle)
    (quiet : Adds NoAttempt first.world.trace middle.world.trace) :
    Attempts first id pin world := by
  rcases attempts.ends with ⟨second, reached, rest, between⟩
  rcases attempts.trace with ⟨before, trace, adds⟩
  exact ⟨⟨second, reached, moves.trans rest, between⟩, before, trace,
    quiet.trans adds⟩

theorem Receiving.free
    {page : Option XccSecret} (receiving : Receiving frame page) :
    Quietly frame (frame.world.freeSecret page) := by
  rcases receiving.freed rfl with ⟨after, reached, -, between, moves, quiet⟩
  rw [← reached]
  exact between.self.run moves quiet

/-! ## Replies to choosers -/

/-- The reply of a chooser makes no attempt. -/
theorem Receiving.chooserReply
    {reply : Reply} (receiving : Receiving frame (replyPage reply))
    (id : Nat) : Quietly frame (chooserReply frame.world id reply.kind) := by
  rcases reply with ⟨_, kind⟩
  cases kind with
  | submit secret => exact receiving.free
  | choose revision candidate =>
      exact receiving.empty.chooserChoose id revision candidate
  | cancel => exact receiving.empty.chooserCancel id
  | failed error => exact receiving.empty.chooserFail id _
  | warning warning accepted => exact receiving.empty.self
  | ready => exact receiving.empty.self

/-! ## Replies to prompts -/

/-- The prompt of an interaction that a reply has found. -/
theorem Receiving.waiting
    {page : Option XccSecret} (receiving : Receiving frame page)
    {found : Interaction} (member : found ∈ frame.world.interactions)
    (subject : found.subject = .pin id)
    (idle : (frame.world.prompts id).loginInFlight = false) :
    frame.phases id = .waiting := by
  have fits := receiving.coupled.fits id
  have screen : find? frame.world (.pin id) = some found := by
    rw [← subject]
    exact receiving.coupled.table.find_eq member
  rw [screen] at fits
  have visible : (frame.phases id).onScreen = true := fits.screen.1
  have calm := receiving.rests id
  have flying : (frame.phases id).logsIn = false :=
    fits.loginInFlight.symm.trans idle
  cases phase : frame.phases id <;> rw [phase] at visible calm flying
  all_goals first
    | rfl
    | exact Bool.noConfusion visible
    | exact Bool.noConfusion calm
    | exact Bool.noConfusion flying

/-- A page is held for the attempt that follows. -/
theorem Receiving.hold
    {page checked : XccSecret} (receiving : Receiving frame (some page))
    (phase : frame.phases id = .waiting)
    (path : (frame.world.prompts id).protectedPath = false)
    (accepted : xccSecretSetLength page page.length = (true, checked)) :
    Attempts frame id (xccSecretView (some checked))
      (submit ((frame.world.setPrompt id
        { frame.world.prompts id with secret := some checked }).emit
          (.held id page.serial)) id) := by
  have serial : checked.serial = page.serial := by
    rw [← xccSecretSetLength_serial page page.length, accepted]
  have valid : Valid checked := by
    have first : (xccSecretSetLength page page.length).1 = true := by
      rw [accepted]
    have whole := xccSecretSetLength_valid first
    rwa [accepted] at whole
  have moves := Moves.held frame phase receiving.hand serial path valid
  let held := (frame.world.setPrompt id
    { frame.world.prompts id with secret := some checked }).emit
      (.held id page.serial)
  let holding : Frame := { frame.goes id .holding held with hand := none }
  have coupled : Coupled holding :=
    (Moves.coupled moves receiving.coupled).1
  have here : holding.phases id = .holding := Function.update_self ..
  have record : held.prompts id =
      { frame.world.prompts id with secret := some checked } :=
    World.setPrompt_self ..
  have typed : (held.prompts id).protectedPath = false := by
    rw [record]
    exact path
  have ready : holding.phases id =
      if (holding.world.prompts id).protectedPath then .waiting
      else .holding := by
    have neg : ¬ (holding.world.prompts id).protectedPath = true := by
      show ¬ (held.prompts id).protectedPath = true
      rw [typed]
      exact Bool.noConfusion
    rw [here, if_neg neg]
  have tries := Moves.attempted holding ready
  have first : Still frame.world held := ⟨rfl, rfl, rfl⟩
  have still : Still frame.world (attempt held id) :=
    first.trans (still_attempt held id)
  have tried : submit held id = attempt held id :=
    submit_held coupled rfl here typed
  show Attempts frame id _ (submit held id)
  rw [tried]
  refine ⟨⟨_, rfl, .tail (.single moves) tries,
    (Moves.coupled tries coupled).1, receiving.running, rfl, ?_, ?_⟩, ?_⟩
  · refine rests_update (fun other different => ?_) rfl
    show PromptRuns.rests (Function.update frame.phases id .holding other) =
      true
    rw [Function.update_of_ne different]
    exact receiving.rests other
  · exact fun none => still.pinQueue.trans
      (receiving.queue (still.pinActive.symm.trans none))
  · refine ⟨held.trace, ?_, adds_emit _ (by rfl)⟩
    rw [attempt_trace, typed, if_neg Bool.false_ne_true, record]

/-- A page that is no PIN is wiped and freed, and the prompt says so. -/
theorem Receiving.reject
    {page wiped : XccSecret} (receiving : Receiving frame (some page))
    (phase : frame.phases id = .waiting)
    (serial : wiped.serial = page.serial) (status : XccPinStatus) :
    Quietly frame
      (pinUpdate (frame.world.freeSecret (some wiped)) id status) := by
  have same : (some wiped).map XccSecret.serial =
      (some page).map XccSecret.serial := congrArg some serial
  rcases receiving.freed same with ⟨after, reached, phases, between, moves,
    quiet⟩
  have here : after.phases id = .waiting := by rw [phases, phase]
  have silent : Adds NoAttempt after.world.trace
      (pinUpdate after.world id status).trace := by
    rw [pinUpdate, message_trace]
    exact .refl _
  have updated := between.turned (.updated after status here)
    (still_message ..) silent
  rw [reached] at updated
  exact updated.run moves quiet

/-- Nothing is tried, or one PIN by a live reply. -/
inductive Replied (frame : Frame) (reply : Reply) (world : World) :
    Prop where
  | quiet (quietly : Quietly frame world)
  | tried {id : Nat} {pin : Option Octets}
      (live : Live frame.world reply id pin)
      (attempts : Attempts frame id pin world)

theorem freeSecret_tokens (world : World) (secret : Option XccSecret) :
    (world.freeSecret secret).tokens = world.tokens := by
  cases secret <;> rfl

/-- Without a page there is nothing to clear. -/
theorem cleared_eq
    {world : World} (none : (world.prompts id).secret = none) :
    (world.freeSecret (world.prompts id).secret).setPrompt id
      { world.prompts id with secret := Option.none } = world := by
  have same : { world.prompts id with secret := Option.none } =
      world.prompts id := by rw [← none]
  rw [same, none]
  show { world with
    prompts := Function.update world.prompts id (world.prompts id) } = world
  rw [Function.update_eq_self]

theorem hold_eq
    {world : World} (late : (world.prompts id).finished = false)
    (idle : (world.prompts id).loginInFlight = false)
    (none : (world.prompts id).secret = none) (page : XccSecret) :
    hold world id (some page) page.length =
      if (xccSecretSetLength page page.length).1 then
        (true, (world.setPrompt id
          { world.prompts id with
            secret := some (xccSecretSetLength page page.length).2 }).emit
              (.held id page.serial))
      else
        (false, pinUpdate
          (world.freeSecret (some (xccSecretSetLength page page.length).2))
          id (if page.length = 0 then .required else .tooLong)) := by
  have free : ¬ ((world.prompts id).finished ||
      (world.prompts id).loginInFlight) = true := by
    rw [late, idle]
    exact Bool.noConfusion
  rw [hold, if_neg free, cleared_eq none]

variable {found : Interaction} {reply : Reply}

/-- A submitted PIN is tried if its prompt is waiting, and freed otherwise. -/
theorem Receiving.submitReply
    {secret : Option XccSecret} (receiving : Receiving frame secret)
    (kind : reply.kind = .submit secret)
    (lookup : named frame.world reply = some found)
    (subject : found.subject = .pin id) :
    Replied frame reply (submitReply frame.world found id secret) := by
  rw [Ui.submitReply.eq_def]
  dsimp only
  split_ifs with able path
  · simp only [Bool.and_eq_true, Bool.not_eq_true'] at able
    rcases able with ⟨⟨⟨⟨late, undeferred⟩, -⟩, idle⟩, ready⟩
    have member := List.mem_of_find?_eq_some lookup
    have phase := receiving.waiting member subject idle
    rcases receiving.freed rfl with ⟨after, reached, phases, between, moves,
      quiet⟩
    have record : after.world.prompts = frame.world.prompts := by
      rw [reached, freeSecret_prompts]
    have here : after.phases id = .waiting := by rw [phases, phase]
    have typed : (after.world.prompts id).protectedPath = true := by
      rw [record, path]
    rw [← reached]
    rcases Between.submit_protected between here typed with
      quietly | ⟨safe, tries⟩
    · exact .quiet (quietly.run moves quiet)
    · have calm : finalTry frame.world (frame.world.prompts id) = false := by
        rw [finalTry, record, reached, freeSecret_tokens] at safe
        exact safe
      exact .tried
        ⟨⟨found, lookup, subject,
          kind ▸ .pushed secret path ready calm⟩, late, idle, undeferred⟩
        (tries.run moves quiet)
  · simp only [Bool.and_eq_true, Bool.not_eq_true'] at able
    rcases able with ⟨⟨⟨⟨late, undeferred⟩, -⟩, idle⟩, ready⟩
    rw [Bool.not_eq_true] at path
    have member := List.mem_of_find?_eq_some lookup
    have phase := receiving.waiting member subject idle
    cases secret with
    | none => exact .quiet receiving.empty.self
    | some page =>
        have none : (frame.world.prompts id).secret = none :=
          (Coupled.at receiving.coupled phase).secret
        dsimp only
        rw [hold_eq late idle none page]
        cases checked : xccSecretSetLength page page.length with
        | mk accepted checked' =>
            cases accepted with
            | true =>
                exact .tried
                  ⟨⟨found, lookup, subject,
                    kind ▸ .typed path ready checked⟩, late, idle,
                    undeferred⟩
                  (receiving.hold phase path checked)
            | false =>
                have serial : checked'.serial = page.serial := by
                  rw [← xccSecretSetLength_serial page page.length, checked]
                exact .quiet (receiving.reject phase serial _)
  · exact .quiet receiving.free

/-- An interaction becomes ready, which no prompt has looked at. -/
theorem Between.readied
    (between : Between frame) (member : found ∈ frame.world.interactions) :
    Between (frame.turns
      (setInteraction frame.world { found with ready := true })) :=
  between.turns (.readied frame member) ⟨rfl, rfl, rfl⟩

/-- A prompt on a protected path is tried when its window is ready. -/
theorem Between.readyReply
    (between : Between frame) (kind : reply.kind = .ready)
    (lookup : named frame.world reply = some found)
    (subject : found.subject = .pin id) :
    Replied frame reply (readyReply frame.world found id) := by
  have member := List.mem_of_find?_eq_some lookup
  have moves := Moves.readied frame member
  have after := Between.readied between member
  rw [Ui.readyReply]
  dsimp only
  split_ifs with able path
  · simp only [Bool.and_eq_true, Bool.not_eq_true'] at able
    rcases able with ⟨⟨first, late⟩, -⟩
    cases idle : (frame.world.prompts id).loginInFlight with
    | true =>
        have ignored : submit
            (setInteraction frame.world { found with ready := true }) id =
              setInteraction frame.world { found with ready := true } := by
          rw [submit]
          refine if_pos ?_
          show ((frame.world.prompts id).busy || _ ||
            (frame.world.prompts id).loginInFlight) = true
          rw [idle, Bool.or_true]
        rw [ignored]
        exact .quiet (after.self.head moves (.refl _))
    | false =>
        have receiving : Receiving frame none :=
          ⟨between.coupled, between.running, between.hand, between.rests,
            between.queue⟩
        have phase := receiving.waiting member subject idle
        have waits := Coupled.waiting between.coupled phase
        rcases Between.submit_protected after phase path with
          quietly | ⟨safe, tries⟩
        · exact .quiet (quietly.head moves (.refl _))
        · exact .tried
            ⟨⟨found, lookup, subject,
              kind ▸ .readied path first safe⟩, late, idle, waits.2.2.2.1⟩
            (tries.head moves (.refl _))
  · exact .quiet (after.self.head moves (.refl _))
  · exact .quiet between.self

/-- The user accepts the last try of a protected path. -/
theorem Between.accepted
    (between : Between frame) (phase : frame.phases id = .waiting)
    (path : (frame.world.prompts id).protectedPath = true) :
    Attempts frame id none
      (submit (frame.world.setPrompt id
        (confirming (frame.world.prompts id))) id) := by
  let world := frame.world.setPrompt id (confirming (frame.world.prompts id))
  have record : world.prompts id = confirming (frame.world.prompts id) :=
    World.setPrompt_self ..
  rcases Coupled.waiting between.coupled phase with ⟨busy, late, flying, -⟩
  have free : ¬ ((world.prompts id).busy || (world.prompts id).finished ||
      (world.prompts id).loginInFlight) = true := by
    rw [record]
    show ¬ ((frame.world.prompts id).busy ||
      (frame.world.prompts id).finished ||
      (frame.world.prompts id).loginInFlight) = true
    rw [busy, late, flying]
    exact Bool.noConfusion
  have asked : ¬ ((world.prompts id).protectedPath &&
      (world.tokens (world.prompts id).token).flags.pinFinalTry &&
      !(world.prompts id).protectedPathConfirmed) = true := by
    rw [record]
    show ¬ (_ && !true) = true
    rw [Bool.not_true, Bool.and_false]
    exact Bool.noConfusion
  have typed : ¬ (!(world.prompts id).protectedPath &&
      decide (xccSecretLength (world.prompts id).secret = 0)) = true := by
    rw [record]
    show ¬ (!(frame.world.prompts id).protectedPath && _) = true
    rw [path, Bool.not_true, Bool.false_and]
    exact Bool.noConfusion
  have tried : submit world id = attempt world id := by
    rw [submit, if_neg free, if_neg asked, if_neg typed]
  show Attempts frame id none (submit world id)
  rw [tried]
  have first : Still frame.world world := ⟨rfl, rfl, rfl⟩
  have moves := Moves.accepted frame phase path
  have after := between.goes moves rfl (first.trans (still_attempt world id))
  have there : (world.prompts id).protectedPath = true := by
    rw [record]
    exact path
  refine ⟨⟨_, rfl, .single moves, after⟩, world.trace, ?_, .refl _⟩
  rw [attempt_trace, if_pos there]

/-- The final try is made when its warning is accepted. -/
theorem Between.warningReply
    (between : Between frame) {warning : Nat} {accepted : Bool}
    (kind : reply.kind = .warning warning accepted)
    (lookup : named frame.world reply = some found)
    (subject : found.subject = .pin id)
    (current : warning = found.warningId) :
    Replied frame reply (warningReply frame.world id accepted) := by
  rw [Pin.warningReply]
  split_ifs with ignored yes
  · exact .quiet between.self
  · rw [Bool.not_eq_true, Bool.or_eq_false_iff, Bool.or_eq_false_iff,
      Bool.or_eq_false_iff, Bool.not_eq_false', Bool.not_eq_false'] at ignored
    rcases ignored with ⟨⟨⟨path, late⟩, idle⟩, pending⟩
    have receiving : Receiving frame none :=
      ⟨between.coupled, between.running, between.hand, between.rests,
        between.queue⟩
    have phase := receiving.waiting (List.mem_of_find?_eq_some lookup) subject
      idle
    have waits := Coupled.waiting between.coupled phase
    subst current
    subst yes
    exact .tried
      ⟨⟨found, lookup, subject, kind ▸ .accepted path pending⟩,
        late, idle, waits.2.2.2.1⟩
      (Between.accepted between phase path)
  · rw [Bool.not_eq_true, Bool.or_eq_false_iff, Bool.or_eq_false_iff,
      Bool.or_eq_false_iff, Bool.not_eq_false', Bool.not_eq_false'] at ignored
    rcases ignored with ⟨⟨-, idle⟩, -⟩
    have receiving : Receiving frame none :=
      ⟨between.coupled, between.running, between.hand, between.rests,
        between.queue⟩
    have phase := receiving.waiting (List.mem_of_find?_eq_some lookup) subject
      idle
    have moves := Moves.warningRefused frame phase
    have after := between.turns moves (still_setPrompt _ id _)
    exact .quiet ((after.answer id .cancelled).head moves (.refl _))

/-- The reply of a prompt makes the attempt that it asks for, or none. -/
theorem Receiving.promptReply
    (receiving : Receiving frame (replyPage reply))
    (lookup : named frame.world reply = some found)
    (subject : found.subject = .pin id) :
    Replied frame reply
      (promptReply frame.world found id reply.kind) := by
  cases kind : reply.kind with
  | submit secret =>
      rw [replyPage, kind] at receiving
      exact receiving.submitReply kind lookup subject
  | choose revision candidate =>
      rw [replyPage, kind] at receiving
      exact .quiet receiving.empty.self
  | warning warning accepted =>
      rw [replyPage, kind] at receiving
      rw [Ui.promptReply]
      split_ifs with current
      · rw [Bool.and_eq_true, decide_eq_true_eq] at current
        exact Between.warningReply receiving.empty kind lookup subject
          current.1
      · exact .quiet receiving.empty.self
  | ready =>
      rw [replyPage, kind] at receiving
      exact Between.readyReply receiving.empty kind lookup subject
  | cancel =>
      rw [replyPage, kind] at receiving
      exact .quiet (receiving.empty.answer id .cancelled)
  | failed error =>
      rw [replyPage, kind] at receiving
      exact .quiet (receiving.empty.answer id _)

/-- Any reply makes the attempt that it asks for, or none. -/
theorem Receiving.dispatched
    (receiving : Receiving frame (replyPage reply)) :
    Replied frame reply (Ui.reply frame.world reply) := by
  rw [Ui.reply]
  cases lookup : named frame.world reply with
  | none => exact .quiet receiving.free
  | some found =>
      dsimp only
      cases subject : found.subject with
      | pin id => exact receiving.promptReply lookup subject
      | chooser id => exact .quiet (receiving.chooserReply id)

end PortalCertificate.Core.PromptReplies
