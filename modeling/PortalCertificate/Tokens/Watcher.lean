import PortalCertificate.Library.Debounce
import PortalCertificate.Tokens.Discovery

/-!
# Watching tokens

The loop of `watch_thread`: one list has a counter for each token that has
been seen, and grows and shrinks in every poll.  The lists of tokens that
the thread gets, at first and from each poll, are its input.
-/

namespace PortalCertificate.Tokens.Watcher

open PortalCertificate.Library.Debounce
open PortalCertificate.Tokens.Discovery

/-! ## Tokens in slots -/

/-- A `CertificateToken` with its location. -/
structure SlotToken extends CertificateToken where
  module : Nat
  slot : Nat
  deriving DecidableEq, Repr

/-- `certificate_token_same_presence` for tokens that are there. -/
def certificateTokenSamePresence (first second : SlotToken) : Bool :=
  if first.hasSerial then
    certificateTokenSame first.toCertificateToken second.toCertificateToken
  else if second.hasSerial then
    false
  else
    first.module = second.module && first.slot = second.slot &&
      first.label = second.label && first.model = second.model &&
      first.manufacturer = second.manufacturer

theorem samePresence_refl (token : SlotToken) :
    certificateTokenSamePresence token token = true := by
  rw [certificateTokenSamePresence]
  split_ifs with serial
  · rw [certificateTokenSame_iff]
    exact ⟨serial, rfl, rfl, rfl, rfl⟩
  · simp

/-- Tokens with a serial are compared as certificates are bound to them. -/
theorem samePresence_iff {first second : SlotToken} :
    certificateTokenSamePresence first second = true ↔
      (certificateTokenSame first.toCertificateToken
          second.toCertificateToken = true ∨
        first.hasSerial = false ∧ second.hasSerial = false ∧
          first.module = second.module ∧ first.slot = second.slot ∧
          first.label = second.label ∧ first.model = second.model ∧
          first.manufacturer = second.manufacturer) := by
  rw [certificateTokenSamePresence]
  split_ifs with here there
  · simp [here]
  · simp [here, there, certificateTokenSame]
  · simp [here, there, certificateTokenSame, and_assoc]

theorem samePresence_comm (first second : SlotToken) :
    certificateTokenSamePresence first second =
      certificateTokenSamePresence second first := by
  rw [Bool.eq_iff_iff, samePresence_iff, samePresence_iff,
    certificateTokenSame_comm]
  tauto

theorem samePresence_trans
    {first second third : SlotToken}
    (here : certificateTokenSamePresence first second = true)
    (there : certificateTokenSamePresence second third = true) :
    certificateTokenSamePresence first third = true := by
  rw [samePresence_iff] at here there ⊢
  rcases here with here | here
  · rcases there with there | there
    · exact .inl (certificateTokenSame_trans here there)
    · rw [certificateTokenSame_comm, certificateTokenSame_iff] at here
      rw [there.1] at here
      cases here.1
  · rcases there with there | there
    · rw [certificateTokenSame_iff, here.2.1] at there
      cases there.1
    · right
      exact ⟨here.1, there.2.1, here.2.2.1.trans there.2.2.1,
        here.2.2.2.1.trans there.2.2.2.1,
        here.2.2.2.2.1.trans there.2.2.2.2.1,
        here.2.2.2.2.2.1.trans there.2.2.2.2.2.1,
        here.2.2.2.2.2.2.trans there.2.2.2.2.2.2⟩

/-- A token that is the same as one of two same tokens is the same as both. -/
theorem samePresence_congr
    {first second : SlotToken}
    (same : certificateTokenSamePresence first second = true)
    (other : SlotToken) :
    certificateTokenSamePresence other first =
      certificateTokenSamePresence other second := by
  rw [Bool.eq_iff_iff]
  constructor
  · exact fun here => samePresence_trans here same
  · rw [samePresence_comm] at same
    exact fun here => samePresence_trans here same

/-! ## The loop -/

/-- `WatchToken`: a token, and how many polls have found it otherwise. -/
structure WatchToken where
  token : SlotToken
  stable : Nat
  present : Bool
  deriving DecidableEq, Repr

/-- A token has been added or removed. -/
structure WatchEvent where
  token : SlotToken
  added : Bool
  deriving DecidableEq, Repr

/-- `CERTIFICATE_WATCH_DEBOUNCE`. -/
def certificateWatchDebounce : Nat := 2

/-- `list_contains_token`. -/
def listContainsToken (list : List SlotToken) (token : SlotToken) : Bool :=
  list.any fun other => certificateTokenSamePresence other token

/-- `watch_token_add`. -/
def watchTokenAdd
    (watched : List WatchToken) (token : SlotToken) (present : Bool) :
    List WatchToken :=
  watched ++ [⟨token, 0, present⟩]

/-- `watch_contains_token`. -/
def watchContainsToken (watched : List WatchToken) (token : SlotToken) :
    Bool :=
  watched.any fun entry => certificateTokenSamePresence entry.token token

/-- The entries for the tokens that are there at first. -/
def watchInitial (initial : List SlotToken) : List WatchToken :=
  initial.foldl (fun watched token => watchTokenAdd watched token true) []

/-- The first loop of a poll, over the tokens that are there now. -/
def watchFresh (watched : List WatchToken) (now : List SlotToken) :
    List WatchToken :=
  now.foldl
    (fun watched fresh =>
      if watchContainsToken watched fresh then watched
      else watchTokenAdd watched fresh false)
    watched

/-- The second loop. -/
def watchCount (now : List SlotToken) (entry : WatchToken) : WatchToken :=
  if listContainsToken now entry.token = entry.present then
    { entry with stable := 0 }
  else
    { entry with stable := entry.stable + 1 }

/-- The third loop. -/
def watchRemovals : List WatchToken → List WatchEvent × List WatchToken
  | [] => ([], [])
  | entry :: rest =>
      let (events, watched) := watchRemovals rest
      if entry.present && certificateWatchDebounce ≤ entry.stable then
        (⟨entry.token, false⟩ :: events,
          { entry with present := false, stable := 0 } :: watched)
      else
        (events, entry :: watched)

/-- Which entries the last loop drops. -/
abbrev Drops := List SlotToken → WatchToken → Bool

/-- What is dropped: a token that is not present and has not been found. -/
def watchDrops : Drops := fun now entry =>
  !entry.present && !listContainsToken now entry.token

/-- The last loop. -/
def watchAdditions (drops : WatchToken → Bool) :
    List WatchToken → List WatchEvent × List WatchToken
  | [] => ([], [])
  | entry :: rest =>
      let (events, watched) := watchAdditions drops rest
      let added := !entry.present &&
        certificateWatchDebounce ≤ entry.stable
      let settled :=
        if added then { entry with present := true, stable := 0 }
        else entry
      let events :=
        if added then ⟨entry.token, true⟩ :: events else events
      if drops settled then (events, watched)
      else (events, settled :: watched)

/-- One poll of `watch_thread`. -/
def watchPoll (drops : Drops) (watched : List WatchToken)
    (now : List SlotToken) : List WatchEvent × List WatchToken :=
  let counted := (watchFresh watched now).map (watchCount now)
  let (removals, watched) := watchRemovals counted
  let (additions, watched) := watchAdditions (drops now) watched
  (removals ++ additions, watched)

/-- The events of each poll. -/
def watchEvents (drops : Drops) (watched : List WatchToken) :
    List (List SlotToken) → List (List WatchEvent)
  | [] => []
  | now :: later =>
      (watchPoll drops watched now).1 ::
        watchEvents drops (watchPoll drops watched now).2 later

/-- The entries after some polls. -/
def watchAfter (drops : Drops) (watched : List WatchToken)
    (polls : List (List SlotToken)) : List WatchToken :=
  polls.foldl (fun watched now => (watchPoll drops watched now).2) watched

/-- `watch_thread`, over some polls. -/
def watchThread (initial : List SlotToken) (polls : List (List SlotToken)) :
    List (List WatchEvent) :=
  watchEvents watchDrops (watchInitial initial) polls

/-! ## The entries about one token -/

/-- The entry is about this token. -/
def aboutToken (token : SlotToken) (entry : WatchToken) : Bool :=
  certificateTokenSamePresence entry.token token

/-- The event is about this token. -/
def eventAbout (token : SlotToken) (event : WatchEvent) : Bool :=
  certificateTokenSamePresence event.token token

variable {token : SlotToken} {watched : List WatchToken}
  {now : List SlotToken}

@[simp]
theorem watchCount_token (now : List SlotToken) (entry : WatchToken) :
    (watchCount now entry).token = entry.token := by
  rw [watchCount]
  split_ifs <;> rfl

/-- A loop over all entries does to one token what it does to its own. -/
theorem filter_watchCount :
    (watched.map (watchCount now)).filter (aboutToken token) =
      (watched.filter (aboutToken token)).map (watchCount now) := by
  rw [List.filter_map]
  congr 1
  apply List.filter_congr
  intro entry _
  simp [aboutToken]

theorem filter_watchRemovals
    (token : SlotToken) (watched : List WatchToken) :
    (watchRemovals watched).1.filter (eventAbout token) =
        (watchRemovals (watched.filter (aboutToken token))).1 ∧
      (watchRemovals watched).2.filter (aboutToken token) =
        (watchRemovals (watched.filter (aboutToken token))).2 := by
  induction watched with
  | nil => exact ⟨rfl, rfl⟩
  | cons entry rest ih =>
      rw [List.filter_cons]
      cases about : aboutToken token entry with
      | true =>
          have event : eventAbout token ⟨entry.token, false⟩ = true := about
          have changed : aboutToken token
              { entry with present := false, stable := 0 } = true := about
          rw [if_pos rfl]
          simp only [watchRemovals]
          split_ifs
          · rw [List.filter_cons_of_pos event,
              List.filter_cons_of_pos changed]
            exact ⟨congrArg _ ih.1, congrArg _ ih.2⟩
          · rw [List.filter_cons_of_pos about]
            exact ⟨ih.1, congrArg _ ih.2⟩
      | false =>
          have event : ¬ eventAbout token ⟨entry.token, false⟩ = true :=
            Bool.not_eq_true _ ▸ about
          have changed : ¬ aboutToken token
              { entry with present := false, stable := 0 } = true :=
            Bool.not_eq_true _ ▸ about
          rw [if_neg Bool.false_ne_true]
          simp only [watchRemovals]
          split_ifs
          · rw [List.filter_cons_of_neg event,
              List.filter_cons_of_neg changed]
            exact ih
          · rw [List.filter_cons_of_neg (Bool.not_eq_true _ ▸ about)]
            exact ih

theorem filter_watchAdditions
    (token : SlotToken) (drops : WatchToken → Bool)
    (watched : List WatchToken) :
    (watchAdditions drops watched).1.filter (eventAbout token) =
        (watchAdditions drops (watched.filter (aboutToken token))).1 ∧
      (watchAdditions drops watched).2.filter (aboutToken token) =
        (watchAdditions drops (watched.filter (aboutToken token))).2 := by
  induction watched with
  | nil => exact ⟨rfl, rfl⟩
  | cons entry rest ih =>
      have same : eventAbout token ⟨entry.token, true⟩ =
          aboutToken token entry := rfl
      have settled : aboutToken token
          { entry with present := true, stable := 0 } =
            aboutToken token entry := rfl
      rw [List.filter_cons]
      cases about : aboutToken token entry with
      | true =>
          rw [about] at same settled
          rw [if_pos rfl]
          simp only [watchAdditions]
          constructor
          · split_ifs <;> simp [same, ih.1]
          · split_ifs <;> simp [about, settled, ih.2]
      | false =>
          rw [about] at same settled
          rw [if_neg Bool.false_ne_true]
          simp only [watchAdditions]
          constructor
          · split_ifs <;> simp [same, ih.1]
          · split_ifs <;> simp [about, settled, ih.2]

/-! ## The debouncer of one token -/

/-- The list has at most one entry for the token, which is the debouncer. -/
def Tracks
    (token : SlotToken) (watched : List WatchToken) (state : Debouncer) :
    Prop :=
  (watched.filter (aboutToken token) = [] ∧ state = .start false) ∨
    ∃ entry, watched.filter (aboutToken token) = [entry] ∧
      state = ⟨entry.present, entry.stable⟩

theorem watchContains_congr
    {first second : SlotToken}
    (same : certificateTokenSamePresence first second = true)
    (watched : List WatchToken) :
    watchContainsToken watched first = watchContainsToken watched second := by
  rw [watchContainsToken, watchContainsToken]
  congr 1
  funext entry
  exact samePresence_congr same entry.token

theorem listContains_congr
    {first second : SlotToken}
    (same : certificateTokenSamePresence first second = true)
    (list : List SlotToken) :
    listContainsToken list first = listContainsToken list second := by
  rw [listContainsToken, listContainsToken]
  congr 1
  funext other
  exact samePresence_congr same other

theorem filter_about_nil :
    watched.filter (aboutToken token) = [] ↔
      watchContainsToken watched token = false := by
  rw [List.filter_eq_nil_iff, watchContainsToken, List.any_eq_false]
  rfl

theorem Tracks.add
    {state : Debouncer} {fresh : SlotToken}
    (tracks : Tracks token watched state)
    (absent : watchContainsToken watched fresh = false) :
    Tracks token (watchTokenAdd watched fresh false) state := by
  rw [Tracks, watchTokenAdd, List.filter_append, List.filter_singleton]
  cases about : aboutToken token ⟨fresh, 0, false⟩ with
  | false => rwa [cond_false, List.append_nil]
  | true =>
      have none : watched.filter (aboutToken token) = [] := by
        rw [filter_about_nil, ← watchContains_congr about]
        exact absent
      rcases tracks with ⟨-, same⟩ | ⟨entry, found, -⟩
      · right
        exact ⟨_, by rw [none, cond_true]; rfl, same⟩
      · rw [found] at none
        cases none

theorem watchContains_add
    (watched : List WatchToken) (fresh : SlotToken) (present : Bool) :
    watchContainsToken (watchTokenAdd watched fresh present) token =
      (watchContainsToken watched token ||
        certificateTokenSamePresence fresh token) := by
  rw [watchContainsToken, watchTokenAdd, List.any_append]
  simp [watchContainsToken]

/-- After the first loop every token that is there now has its entry. -/
theorem Tracks.fresh
    {state : Debouncer} (tracks : Tracks token watched state)
    (now : List SlotToken) :
    Tracks token (watchFresh watched now) state ∧
      (watchContainsToken (watchFresh watched now) token =
        (watchContainsToken watched token ||
          listContainsToken now token)) := by
  induction now generalizing watched with
  | nil => exact ⟨tracks, (Bool.or_false _).symm⟩
  | cons fresh rest ih =>
      rw [watchFresh, List.foldl_cons]
      have listed : listContainsToken (fresh :: rest) token =
          (certificateTokenSamePresence fresh token ||
            listContainsToken rest token) := rfl
      cases there : watchContainsToken watched fresh with
      | true =>
          rw [if_pos rfl]
          have later := ih tracks
          refine ⟨later.1, later.2.trans ?_⟩
          rw [listed]
          cases same : certificateTokenSamePresence fresh token with
          | false => rfl
          | true =>
              rw [watchContains_congr same] at there
              rw [there]
              rfl
      | false =>
          rw [if_neg Bool.false_ne_true]
          have later := ih (tracks.add there)
          refine ⟨later.1, later.2.trans ?_⟩
          rw [listed, watchContains_add, Bool.or_assoc]

/-- Only entries of tokens that are known to be absent are dropped. -/
def Droppable (drops : Drops) : Prop :=
  ∀ now entry, drops now entry = true →
    entry.present = false ∧ listContainsToken now entry.token = false

theorem droppable_watchDrops : Droppable watchDrops := by
  intro now entry dropped
  simpa [watchDrops] using dropped

/-- A poll of one entry is one observation of its debouncer. -/
theorem poll_single
    {drops : Drops} (droppable : Droppable drops) (entry : WatchToken)
    (now : List SlotToken) :
    let removed := watchRemovals [watchCount now entry]
    let added := watchAdditions (drops now) removed.2
    let seen := (⟨entry.present, entry.stable⟩ : Debouncer).observe
      certificateWatchDebounce (listContainsToken now entry.token)
    (removed.1 ++ added.1).map WatchEvent.added = seen.1.toList ∧
      ((added.2 = [] ∧ seen.2 = .start false) ∨
        ∃ after, added.2 = [after] ∧ after.token = entry.token ∧
          seen.2 = ⟨after.present, after.stable⟩) := by
  rcases entry with ⟨token, stable, present⟩
  have once : ¬ certificateWatchDebounce ≤ 0 := by decide
  have kept (entry : WatchToken) (there : entry.present = true) :
      drops now entry = false := by
    apply Bool.eq_false_iff.mpr
    intro dropped
    rw [(droppable now entry dropped).1] at there
    cases there
  cases bit : listContainsToken now token with
  | true =>
      have stays (stable : Nat) (present : Bool) :
          drops now ⟨token, stable, present⟩ = false := by
        apply Bool.eq_false_iff.mpr
        intro dropped
        have absent := (droppable now _ dropped).2
        rw [bit] at absent
        cases absent
      cases present <;>
        by_cases often : certificateWatchDebounce ≤ stable + 1 <;>
          simp [watchCount, watchRemovals, watchAdditions, stays,
            Debouncer.observe, Debouncer.start, bit, often, once,
            -Nat.le_zero_eq]
  | false =>
      cases present with
      | true =>
          by_cases often : certificateWatchDebounce ≤ stable + 1 <;>
            cases drop : drops now ⟨token, 0, false⟩ <;>
              simp [watchCount, watchRemovals, watchAdditions, kept, drop,
                Debouncer.observe, Debouncer.start, bit, often, once,
                -Nat.le_zero_eq]
      | false =>
          cases drop : drops now ⟨token, 0, false⟩ <;>
            simp [watchCount, watchRemovals, watchAdditions, drop,
              Debouncer.observe, Debouncer.start, bit, once,
              -Nat.le_zero_eq]

/-- A poll is one observation of each token. -/
theorem Tracks.poll
    {drops : Drops} {state : Debouncer} (droppable : Droppable drops)
    (tracks : Tracks token watched state) (now : List SlotToken) :
    (((watchPoll drops watched now).1.filter (eventAbout token)).map
        WatchEvent.added =
      (state.observe certificateWatchDebounce
        (listContainsToken now token)).1.toList) ∧
      Tracks token (watchPoll drops watched now).2
        (state.observe certificateWatchDebounce
          (listContainsToken now token)).2 := by
  have fresh := tracks.fresh now
  have removed := filter_watchRemovals token
    ((watchFresh watched now).map (watchCount now))
  have added := filter_watchAdditions token (drops now)
    (watchRemovals ((watchFresh watched now).map (watchCount now))).2
  rw [filter_watchCount] at removed
  rw [removed.2] at added
  rw [Tracks, watchPoll, List.filter_append, removed.1, added.1, added.2]
  rcases fresh with ⟨⟨none, rfl⟩ | ⟨entry, found, rfl⟩, contained⟩
  · rw [filter_about_nil.mp none] at contained
    have absent : listContainsToken now token = false :=
      (Bool.or_eq_false_iff.mp contained.symm).2
    rw [none, absent]
    exact ⟨rfl, .inl ⟨rfl, rfl⟩⟩
  · have about : aboutToken token entry = true := by
      have member : entry ∈
          (watchFresh watched now).filter (aboutToken token) := by
        rw [found]
        exact List.mem_singleton_self entry
      exact (List.mem_filter.mp member).2
    have single := poll_single droppable entry now
    rw [listContains_congr about] at single
    rw [found]
    refine ⟨single.1, ?_⟩
    rcases single.2 with gone | ⟨after, left, -, same⟩
    · exact .inl gone
    · exact .inr ⟨after, left, same⟩

/-- All polls are the observations of each token, and of no other. -/
theorem Tracks.events
    {drops : Drops} {state : Debouncer} (droppable : Droppable drops)
    (tracks : Tracks token watched state) (polls : List (List SlotToken)) :
    ((watchEvents drops watched polls).map fun events =>
        (events.filter (eventAbout token)).map WatchEvent.added) =
      (state.told certificateWatchDebounce
        (polls.map fun now => listContainsToken now token)).map
          Option.toList := by
  induction polls generalizing watched state with
  | nil => rfl
  | cons now later ih =>
      have poll := tracks.poll droppable now
      rw [watchEvents, List.map_cons, List.map_cons, Debouncer.told,
        List.map_cons, poll.1, ih poll.2]

/-- Any polls later, the token is tracked as far as it was seen. -/
theorem Tracks.after
    {drops : Drops} {state : Debouncer} (droppable : Droppable drops)
    (tracks : Tracks token watched state) (polls : List (List SlotToken)) :
    ∃ later, Tracks token (watchAfter drops watched polls) later := by
  induction polls generalizing watched state with
  | nil => exact ⟨state, tracks⟩
  | cons now later ih =>
      exact ih (tracks.poll droppable now).2

/-! ## Distinct entries -/

/-- No two tokens are the same. -/
def DistinctTokens (tokens : List SlotToken) : Prop :=
  tokens.Pairwise fun first second =>
    certificateTokenSamePresence first second = false

/-- Tokens are distinct when no token is the same as two of them. -/
theorem distinct_iff (tokens : List SlotToken) :
    DistinctTokens tokens ↔
      ∀ token, (tokens.filter fun other =>
        certificateTokenSamePresence other token).length ≤ 1 := by
  induction tokens with
  | nil => simp [DistinctTokens]
  | cons first rest ih =>
      rw [DistinctTokens, List.pairwise_cons]
      constructor
      · intro distinct token
        cases about : certificateTokenSamePresence first token with
        | false =>
            rw [List.filter_cons_of_neg (Bool.not_eq_true _ ▸ about)]
            exact ih.mp distinct.2 token
        | true =>
            have none : rest.filter (fun other =>
                certificateTokenSamePresence other token) = [] := by
              apply List.filter_eq_nil_iff.mpr
              intro other member same
              have apart := distinct.1 other member
              rw [samePresence_comm] at same
              rw [samePresence_trans about same] at apart
              cases apart
            rw [List.filter_cons, if_pos about, none]
            exact Nat.le_refl 1
      · intro few
        constructor
        · intro other member
          apply Bool.eq_false_iff.mpr
          intro same
          have count := few other
          rw [List.filter_cons, if_pos same, List.length_cons] at count
          have found : other ∈ rest.filter fun third =>
              certificateTokenSamePresence third other :=
            List.mem_filter.mpr ⟨member, samePresence_refl other⟩
          have := List.length_pos_of_mem found
          omega
        · apply ih.mpr
          intro token
          apply Nat.le_trans _ (few token)
          apply List.Sublist.length_le
          exact (List.sublist_cons_self first rest).filter _

theorem watchInitial_eq (initial : List SlotToken) :
    watchInitial initial =
      initial.map fun token => ⟨token, 0, true⟩ := by
  have adds (watched : List WatchToken) :
      initial.foldl (fun watched token => watchTokenAdd watched token true)
          watched =
        watched ++ initial.map fun token => ⟨token, 0, true⟩ := by
    induction initial generalizing watched with
    | nil => exact (List.append_nil _).symm
    | cons token rest ih =>
        rw [List.foldl_cons, ih, watchTokenAdd, List.append_assoc]
        rfl
  exact adds []

theorem filter_watchInitial (token : SlotToken) (initial : List SlotToken) :
    (watchInitial initial).filter (aboutToken token) =
      (initial.filter fun other =>
        certificateTokenSamePresence other token).map
          fun other => ⟨other, 0, true⟩ := by
  rw [watchInitial_eq, List.filter_map]
  rfl

/-- At first each token is believed to be where it was seen. -/
theorem tracks_watchInitial
    {initial : List SlotToken} (distinct : DistinctTokens initial)
    (token : SlotToken) :
    Tracks token (watchInitial initial)
      (.start (listContainsToken initial token)) := by
  have few := (distinct_iff initial).mp distinct token
  rw [Tracks, filter_watchInitial]
  cases found : initial.filter fun other =>
      certificateTokenSamePresence other token with
  | nil =>
      left
      refine ⟨rfl, congrArg _ ?_⟩
      exact List.any_eq_false.mpr (List.filter_eq_nil_iff.mp found)
  | cons first rest =>
      right
      rw [found, List.length_cons] at few
      have none : rest = [] := List.length_eq_zero_iff.mp (by omega)
      have member : first ∈ initial.filter fun other =>
          certificateTokenSamePresence other token := by
        rw [found]
        exact List.mem_cons_self
      have there : listContainsToken initial token = true :=
        List.any_eq_true.mpr ⟨first, List.mem_filter.mp member⟩
      rw [none, there]
      exact ⟨_, rfl, rfl⟩

/-- Entries that follow their tokens are distinct. -/
theorem distinct_of_tracks
    (tracks : ∀ token, ∃ state, Tracks token watched state) :
    DistinctTokens (watched.map WatchToken.token) := by
  rw [distinct_iff]
  intro token
  have same : ((watched.map WatchToken.token).filter fun other =>
        certificateTokenSamePresence other token) =
      (watched.filter (aboutToken token)).map WatchToken.token := by
    rw [List.filter_map]
    rfl
  rw [same, List.length_map]
  rcases tracks token with ⟨state, ⟨none, -⟩ | ⟨entry, found, -⟩⟩
  · rw [none]
    exact Nat.zero_le 1
  · rw [found]
    exact Nat.le_refl 1

/-! ## The whole watch -/

/-- What each poll reports about one token. -/
def EventsOf (token : SlotToken) (polls : List (List WatchEvent)) :
    List (List Bool) :=
  polls.map fun events =>
    (events.filter (eventAbout token)).map WatchEvent.added

/-- Each token has the events of a debouncer of its own observations. -/
def Refines (initial : List SlotToken) : Prop :=
  ∀ polls token,
    EventsOf token (watchThread initial polls) =
      ((Debouncer.start (listContainsToken initial token)).told
        certificateWatchDebounce
        (polls.map fun now => listContainsToken now token)).map Option.toList

theorem refines_of_distinct
    {initial : List SlotToken} (distinct : DistinctTokens initial) :
    Refines initial :=
  fun polls token =>
    (tracks_watchInitial distinct token).events droppable_watchDrops polls

/-- Tokens that are gone once are not told yet. -/
theorem watchPoll_gone_once (tokens : List SlotToken) :
    watchPoll watchDrops (tokens.map fun token => ⟨token, 0, true⟩) [] =
      ([], tokens.map fun token => ⟨token, 1, true⟩) := by
  have removals : watchRemovals (tokens.map fun token => ⟨token, 1, true⟩) =
      ([], tokens.map fun token => ⟨token, 1, true⟩) := by
    induction tokens with
    | nil => rfl
    | cons token rest ih => simp [watchRemovals, ih, certificateWatchDebounce]
  have additions : watchAdditions (watchDrops [])
      (tokens.map fun token => ⟨token, 1, true⟩) =
        ([], tokens.map fun token => ⟨token, 1, true⟩) := by
    clear removals
    induction tokens with
    | nil => rfl
    | cons token rest ih => simp [watchAdditions, ih, watchDrops]
  have counted : (tokens.map fun token =>
      (⟨token, 0, true⟩ : WatchToken)).map
      (watchCount []) = tokens.map fun token => ⟨token, 1, true⟩ := by
    rw [List.map_map]
    rfl
  rw [watchPoll, watchFresh, List.foldl_nil, counted]
  simp only [removals, additions]
  rfl

/-- Tokens that are gone twice are all told. -/
theorem watchPoll_gone_twice (tokens : List SlotToken) :
    (watchPoll watchDrops
      (tokens.map fun token => ⟨token, 1, true⟩) []).1 =
        tokens.map fun token => ⟨token, false⟩ := by
  have removals : watchRemovals (tokens.map fun token => ⟨token, 2, true⟩) =
      (tokens.map fun token => ⟨token, false⟩,
        tokens.map fun token => ⟨token, 0, false⟩) := by
    induction tokens with
    | nil => rfl
    | cons token rest ih => simp [watchRemovals, ih, certificateWatchDebounce]
  have additions : watchAdditions (watchDrops [])
      (tokens.map fun token => ⟨token, 0, false⟩) = ([], []) := by
    clear removals
    induction tokens with
    | nil => rfl
    | cons token rest ih =>
        simp [watchAdditions, ih, watchDrops, listContainsToken,
          certificateWatchDebounce]
  have counted : (tokens.map fun token =>
      (⟨token, 1, true⟩ : WatchToken)).map
      (watchCount []) = tokens.map fun token => ⟨token, 2, true⟩ := by
    rw [List.map_map]
    rfl
  rw [watchPoll, watchFresh, List.foldl_nil, counted]
  simp only [removals, additions]
  exact List.append_nil _

/-- A token that is twice in the first list is told twice to be gone. -/
theorem distinct_of_refines
    {initial : List SlotToken} (refines : Refines initial) :
    DistinctTokens initial := by
  rw [distinct_iff]
  intro token
  have gone := refines [[], []] token
  rw [EventsOf, watchThread, watchInitial_eq, watchEvents, watchEvents,
    watchPoll_gone_once, watchPoll_gone_twice] at gone
  have second := (List.cons.inj (List.cons.inj gone).2).1
  have told := congrArg List.length second
  rw [List.length_map, List.filter_map, List.length_map] at told
  apply Nat.le_trans (Nat.le_of_eq told)
  exact Option.length_toList_le

theorem watchRemovals_added (watched : List WatchToken) :
    ∀ event ∈ (watchRemovals watched).1, event.added = false := by
  induction watched with
  | nil => exact fun _ member => nomatch member
  | cons entry rest ih =>
      intro event member
      rw [watchRemovals] at member
      dsimp only at member
      split_ifs at member
      · rcases List.mem_cons.mp member with rfl | later
        · rfl
        · exact ih event later
      · exact ih event member

theorem watchAdditions_added
    (drops : WatchToken → Bool) (watched : List WatchToken) :
    ∀ event ∈ (watchAdditions drops watched).1, event.added = true := by
  induction watched with
  | nil => exact fun _ member => nomatch member
  | cons entry rest ih =>
      intro event member
      simp only [watchAdditions] at member
      have either : event = ⟨entry.token, true⟩ ∨
          event ∈ (watchAdditions drops rest).1 := by
        split_ifs at member <;> simp_all
      rcases either with rfl | later
      · rfl
      · exact ih event later

/-- In a poll all removals come before all additions. -/
theorem watchEvents_ordered
    (drops : Drops) (watched : List WatchToken)
    (polls : List (List SlotToken)) :
    ∀ events ∈ watchEvents drops watched polls,
      ∃ removals additions, events = removals ++ additions ∧
        (∀ event ∈ removals, event.added = false) ∧
          ∀ event ∈ additions, event.added = true := by
  induction polls generalizing watched with
  | nil => exact fun _ member => nomatch member
  | cons now later ih =>
      intro events member
      rcases List.mem_cons.mp member with rfl | after
      · exact ⟨_, _, rfl, watchRemovals_added _, watchAdditions_added _ _⟩
      · exact ih _ events after

theorem flatten_toList (told : List (Option Bool)) :
    (told.map Option.toList).flatten = told.filterMap id := by
  induction told with
  | nil => rfl
  | cons first rest ih =>
      rw [List.map_cons, List.flatten_cons, ih]
      cases first <;> rfl

/-- What a watch that starts with some tokens is to do. -/
structure WatchesWell (initial : List SlotToken) : Prop where
  refines : Refines initial
  alternates : ∀ polls token,
    Alternates (listContainsToken initial token)
      (EventsOf token (watchThread initial polls)).flatten
  removals_first : ∀ polls, ∀ events ∈ watchThread initial polls,
    ∃ removals additions, events = removals ++ additions ∧
      (∀ event ∈ removals, event.added = false) ∧
        ∀ event ∈ additions, event.added = true
  distinct : ∀ polls, DistinctTokens
    ((watchAfter watchDrops (watchInitial initial) polls).map
      WatchToken.token)
  dropping : ∀ drops, Droppable drops → ∀ polls token,
    EventsOf token (watchEvents drops (watchInitial initial) polls) =
      EventsOf token (watchThread initial polls)

/-- A watch works when the tokens that it starts with are distinct. -/
theorem watchesWell_of_distinct
    {initial : List SlotToken} (distinct : DistinctTokens initial) :
    WatchesWell initial := by
  have refines := refines_of_distinct distinct
  constructor
  case refines => exact refines
  case alternates =>
    intro polls token
    rw [refines polls token, flatten_toList]
    exact Debouncer.alternates (.start (listContainsToken initial token)) _
  case removals_first =>
    intro polls
    exact watchEvents_ordered watchDrops (watchInitial initial) polls
  case distinct =>
    intro polls
    apply distinct_of_tracks
    intro token
    exact (tracks_watchInitial distinct token).after droppable_watchDrops polls
  case dropping =>
    intro drops droppable polls token
    exact ((tracks_watchInitial distinct token).events droppable polls).trans
      (refines polls token).symm

/-- It works only then. -/
theorem watchesWell_iff (initial : List SlotToken) :
    WatchesWell initial ↔ DistinctTokens initial :=
  ⟨fun well => distinct_of_refines well.refines, watchesWell_of_distinct⟩

/-- One card with a serial, known through two modules. -/
def sharedCard (module : Nat) : SlotToken where
  label := none
  manufacturer := none
  model := none
  serial := some "1"
  readerName := none
  protectedAuthenticationPath := false
  loginRequired := true
  module := module
  slot := 0

/-- The card is told to be removed twice, at one time. -/
theorem sharedCard_told_twice :
    EventsOf (sharedCard 0)
        (watchThread [sharedCard 0, sharedCard 1] [[], []]) =
      [[], [false, false]] ∧
    ¬ WatchesWell [sharedCard 0, sharedCard 1] := by
  constructor
  · decide
  · intro well
    apply absurd (well.refines [[], []] (sharedCard 0))
    decide

end PortalCertificate.Tokens.Watcher
