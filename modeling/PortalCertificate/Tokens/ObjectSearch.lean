import PortalCertificate.Pkcs11
import Mathlib.Data.List.Basic

/-!
# Searching for objects

`certificate_pkcs11_find_objects`.  A module hands its objects over in
batches until it reports that there are no more, and it may report anything.
A budget of handles bounds the search whatever is reported, and the search
of the module is ended on every way out.
-/

namespace PortalCertificate.Tokens.ObjectSearch

open PortalCertificate.Pkcs11

/-! ## A module that is searched -/

/-- `CERTIFICATE_PKCS11_OBJECT_MAX`. -/
def objectMax : Nat := 16384

/-- The number of elements of `batch`. -/
def batchMax : Nat := 32

/-- What `C_FindObjects` returns, reports and writes. -/
structure FindAnswer where
  rv : CkUlong
  found : CkUlong
  batch : Fin batchMax → CkUlong

/-- The answers of a module to a search, for the calls in their order. -/
structure SearchAnswers where
  init : CkUlong
  find : Nat → FindAnswer

/-- Why a search fails. -/
inductive SearchError where
  /-- `certificate_pkcs11_set_error`. -/
  | failed (rv : CkUlong) (what : String)
  /-- `CERTIFICATE_PKCS11_ERROR_ENUMERATION_LIMIT`. -/
  | enumerationLimit (message : String)
  deriving DecidableEq, Repr

/-- A call on the module. -/
inductive Call where
  | findObjectsInit
  | findObjects
  | findObjectsFinal
  deriving DecidableEq, Repr

/-- The call has returned `CKR_OK`. -/
def FindAnswer.succeeds (answer : FindAnswer) : Prop :=
  answer.rv = 0

instance (answer : FindAnswer) : Decidable answer.succeeds :=
  inferInstanceAs (Decidable (answer.rv = 0))

/-- The handles of a batch that are reported as written. -/
def FindAnswer.handles (answer : FindAnswer) : List CkUlong :=
  (List.ofFn answer.batch).take answer.found.toNat

theorem FindAnswer.length_handles
    {answer : FindAnswer} (short : answer.found.toNat ≤ batchMax) :
    answer.handles.length = answer.found.toNat := by
  rw [handles, List.length_take, List.length_ofFn]
  exact Nat.min_eq_left short

/-! ## The array of handles -/

/-- The array stays within the budget. -/
structure Handles where
  list : List CkUlong
  bounded : list.length ≤ objectMax

/-- No handle. -/
def Handles.empty : Handles := ⟨[], Nat.zero_le _⟩

/-- `CERTIFICATE_PKCS11_OBJECT_MAX - handles->len`. -/
def Handles.room (handles : Handles) : UInt32 :=
  16384 - UInt32.ofNat handles.list.length

/-- The subtraction does not wrap. -/
theorem Handles.toNat_room (handles : Handles) :
    handles.room.toNat = objectMax - handles.list.length := by
  have bounded := handles.bounded
  have length : (UInt32.ofNat handles.list.length).toNat =
      handles.list.length := by
    apply UInt32.toNat_ofNat_of_lt'
    exact Nat.lt_of_le_of_lt bounded (by decide)
  rw [room, UInt32.toNat_sub_of_le, length]
  · rfl
  · rw [UInt32.le_iff_toNat_le, length]
    exact bounded

/-- A batch that is too long, or exceeds the budget. -/
def Handles.Exceeded (handles : Handles) (answer : FindAnswer) : Prop :=
  batchMax < answer.found.toNat ∨
    handles.room.toNat < answer.found.toNat

instance (handles : Handles) (answer : FindAnswer) :
    Decidable (handles.Exceeded answer) :=
  inferInstanceAs (Decidable (_ ∨ _))

theorem Handles.not_exceeded_iff
    {handles : Handles} {answer : FindAnswer} :
    ¬handles.Exceeded answer ↔
      answer.found.toNat ≤ batchMax ∧
        handles.list.length + answer.found.toNat ≤ objectMax := by
  have bounded := handles.bounded
  rw [Exceeded, toNat_room, not_or]
  omega

/-- `g_array_append_vals`. -/
def Handles.append
    (handles : Handles) (answer : FindAnswer)
    (fits : ¬handles.Exceeded answer) : Handles where
  list := handles.list ++ answer.handles
  bounded := by
    rcases not_exceeded_iff.mp fits with ⟨short, fits⟩
    rw [List.length_append, FindAnswer.length_handles short]
    exact fits

theorem Handles.length_append
    (handles : Handles) {answer : FindAnswer}
    (fits : ¬handles.Exceeded answer) :
    (handles.append answer fits).list.length =
      handles.list.length + answer.found.toNat := by
  rw [append, List.length_append,
    FindAnswer.length_handles (not_exceeded_iff.mp fits).1]

/-- Every batch uses up some of the budget. -/
theorem Handles.append_lt
    (handles : Handles) {answer : FindAnswer}
    (fits : ¬handles.Exceeded answer) (more : answer.found ≠ 0) :
    objectMax - (handles.append answer fits).list.length <
      objectMax - handles.list.length := by
  have some : answer.found.toNat ≠ 0 := by
    intro none
    exact more (UInt64.toNat_inj.mp none)
  have within := (not_exceeded_iff.mp fits).2
  rw [length_append]
  omega

/-! ## The search -/

/-- The loop from its call with a number on, and the calls it makes. -/
def findLoop
    (answers : Nat → FindAnswer) (number : Nat) (handles : Handles) :
    Except SearchError (List CkUlong) × List Call :=
  let answer := answers number
  if ¬answer.succeeds then
    (.error (.failed answer.rv "C_FindObjects"),
      [.findObjects, .findObjectsFinal])
  else if answer.found = 0 then
    (.ok handles.list, [.findObjects, .findObjectsFinal])
  else if exceeded : handles.Exceeded answer then
    (.error (.enumerationLimit
        "C_FindObjects exceeded the enumeration limit"),
      [.findObjects, .findObjectsFinal])
  else
    let rest := findLoop answers (number + 1)
      (handles.append answer exceeded)
    (rest.1, .findObjects :: rest.2)
termination_by objectMax - handles.list.length
decreasing_by
  exact handles.append_lt exceeded ‹_›

/-- `certificate_pkcs11_find_objects`. -/
def certificatePkcs11FindObjects (search : SearchAnswers) :
    Except SearchError (List CkUlong) × List Call :=
  if search.init ≠ 0 then
    (.error (.failed search.init "C_FindObjectsInit"), [.findObjectsInit])
  else
    let loop := findLoop search.find 0 .empty
    (loop.1, .findObjectsInit :: loop.2)

/-! ## What a search is to return -/

/-- A batch after which the search goes on. -/
structure FindAnswer.Continues (answer : FindAnswer) : Prop where
  succeeds : answer.succeeds
  more : answer.found ≠ 0
  short : answer.found.toNat ≤ batchMax

/-- There are no more objects. -/
structure FindAnswer.Ends (answer : FindAnswer) : Prop where
  succeeds : answer.succeeds
  none : answer.found = 0

/-- The batches of a number of calls, in their order. -/
def batches (answers : Nat → FindAnswer) (number : Nat) :
    Nat → List CkUlong
  | 0 => []
  | count + 1 =>
      (answers number).handles ++ batches answers (number + 1) count

/-- From a call on the module hands over its objects in sound batches until
there are no more, and the budget is enough for them. -/
structure Completes
    (answers : Nat → FindAnswer) (number count before : Nat) : Prop where
  continues : ∀ index < count, (answers (number + index)).Continues
  ends : (answers (number + count)).Ends
  fits : before + (batches answers number count).length ≤ objectMax

section Completes

variable {answers : Nat → FindAnswer} {number count before : Nat}

theorem completes_zero_iff :
    Completes answers number 0 before ↔
      (answers number).Ends ∧ before ≤ objectMax := by
  constructor
  · intro completes
    exact ⟨completes.ends, completes.fits⟩
  · rintro ⟨ends, fits⟩
    exact ⟨fun index below => absurd below (Nat.not_lt_zero index), ends,
      fits⟩

theorem completes_succ_iff :
    Completes answers number (count + 1) before ↔
      (answers number).Continues ∧
        Completes answers (number + 1) count
          (before + (answers number).found.toNat) := by
  constructor
  · intro completes
    have first : (answers number).Continues :=
      completes.continues 0 (Nat.succ_pos count)
    have fits := completes.fits
    rw [batches, List.length_append,
      FindAnswer.length_handles first.short] at fits
    refine ⟨first, ?_, ?_, ?_⟩
    · intro index below
      have next := completes.continues (index + 1)
        (Nat.succ_lt_succ below)
      rwa [← Nat.add_assoc, Nat.add_right_comm] at next
    · have ends := completes.ends
      rwa [← Nat.add_assoc, Nat.add_right_comm] at ends
    · omega
  · rintro ⟨first, completes⟩
    have fits := completes.fits
    refine ⟨?_, ?_, ?_⟩
    · intro index below
      cases index with
      | zero => exact first
      | succ index =>
          have next := completes.continues index
            (Nat.lt_of_succ_lt_succ below)
          rwa [Nat.add_right_comm, Nat.add_assoc] at next
    · have ends := completes.ends
      rwa [Nat.add_right_comm, Nat.add_assoc] at ends
    · rw [batches, List.length_append,
        FindAnswer.length_handles first.short]
      omega

end Completes

/-! ## What the search returns -/

theorem findLoop_ok_iff
    (answers : Nat → FindAnswer) (number : Nat) (handles : Handles)
    (result : List CkUlong) :
    (findLoop answers number handles).1 = .ok result ↔
      ∃ count, Completes answers number count handles.list.length ∧
        result = handles.list ++ batches answers number count := by
  fun_induction findLoop answers number handles with
  | case1 number handles answer fails =>
      constructor
      · intro same
        cases same
      · rintro ⟨count, completes, -⟩
        cases count with
        | zero => exact absurd completes.ends.succeeds fails
        | succ count =>
            exact absurd (completes_succ_iff.mp completes).1.succeeds fails
  | case2 number handles answer succeeds none =>
      constructor
      · intro same
        cases same
        refine ⟨0,
          completes_zero_iff.mpr ⟨⟨?_, none⟩, handles.bounded⟩, ?_⟩
        · exact not_not.mp succeeds
        · exact (List.append_nil _).symm
      · rintro ⟨count, completes, rfl⟩
        cases count with
        | zero =>
            rw [batches, List.append_nil]
        | succ count =>
            exact absurd none (completes_succ_iff.mp completes).1.more
  | case3 number handles answer succeeds some exceeded =>
      constructor
      · intro same
        cases same
      · rintro ⟨count, completes, -⟩
        cases count with
        | zero => exact absurd completes.ends.none some
        | succ count =>
            rcases completes_succ_iff.mp completes with ⟨first, rest⟩
            apply absurd exceeded
            apply Handles.not_exceeded_iff.mpr
            exact ⟨first.short,
              Nat.le_trans (Nat.le_add_right _ _) rest.fits⟩
  | case4 number handles answer succeeds some fits rest step =>
      have short := (Handles.not_exceeded_iff.mp fits).1
      rw [step, Handles.length_append]
      constructor
      · rintro ⟨count, completes, rfl⟩
        refine ⟨count + 1, completes_succ_iff.mpr ⟨?_, completes⟩, ?_⟩
        · exact ⟨not_not.mp succeeds, some, short⟩
        · rw [batches, ← List.append_assoc]
          rfl
      · rintro ⟨count, completes, rfl⟩
        cases count with
        | zero => exact absurd completes.ends.none some
        | succ count =>
            refine ⟨count, (completes_succ_iff.mp completes).2, ?_⟩
            rw [batches, ← List.append_assoc]
            rfl

/-- The calls of the loop: some calls for batches, and one end. -/
theorem findLoop_calls
    (answers : Nat → FindAnswer) (number : Nat) (handles : Handles) :
    ∃ count, 0 < count ∧ handles.list.length + count ≤ objectMax + 1 ∧
      (findLoop answers number handles).2 =
        List.replicate count Call.findObjects ++ [.findObjectsFinal] := by
  fun_induction findLoop answers number handles with
  | case1 number handles answer fails =>
      exact ⟨1, Nat.one_pos, Nat.succ_le_succ handles.bounded, rfl⟩
  | case2 number handles answer succeeds none =>
      exact ⟨1, Nat.one_pos, Nat.succ_le_succ handles.bounded, rfl⟩
  | case3 number handles answer succeeds some exceeded =>
      exact ⟨1, Nat.one_pos, Nat.succ_le_succ handles.bounded, rfl⟩
  | case4 number handles answer succeeds some fits rest step =>
      rcases step with ⟨count, positive, bounded, calls⟩
      have shrinks := handles.append_lt fits some
      refine ⟨count + 1, Nat.succ_pos count, ?_, ?_⟩
      · omega
      · rw [calls]
        rfl

/-- The calls of a search that was started. -/
theorem calls_of_init
    {search : SearchAnswers} (started : search.init = 0) :
    ∃ count, count ≤ objectMax + 1 ∧
      (certificatePkcs11FindObjects search).2 =
        Call.findObjectsInit ::
          (List.replicate count Call.findObjects ++
            [.findObjectsFinal]) := by
  rcases findLoop_calls search.find 0 .empty with
    ⟨count, -, bounded, calls⟩
  refine ⟨count, ?_, ?_⟩
  · rwa [Handles.empty, List.length_nil, Nat.zero_add] at bounded
  · rw [certificatePkcs11FindObjects, if_neg (not_not.mpr started)]
    exact congrArg _ calls

/-- A search succeeds just when it is completed, with the handles of all
answers. -/
theorem findObjects_ok_iff
    (search : SearchAnswers) (result : List CkUlong) :
    (certificatePkcs11FindObjects search).1 = .ok result ↔
      search.init = 0 ∧ ∃ count, Completes search.find 0 count 0 ∧
        result = batches search.find 0 count := by
  rw [certificatePkcs11FindObjects]
  by_cases started : search.init = 0
  · rw [if_neg (not_not.mpr started), and_iff_right started]
    exact findLoop_ok_iff search.find 0 .empty result
  · rw [if_pos started]
    constructor
    · intro same
      cases same
    · rintro ⟨init, -⟩
      exact absurd init started

/-- Whatever a module answers, a search makes boundedly many calls, returns
the batches just if they are sound, complete and within the budget, and ends
the search of the module once if it was started. -/
theorem findObjects_bounded (search : SearchAnswers) :
    (∀ result, (certificatePkcs11FindObjects search).1 = .ok result ↔
        search.init = 0 ∧ ∃ count, Completes search.find 0 count 0 ∧
          result = batches search.find 0 count) ∧
      (certificatePkcs11FindObjects search).2.count .findObjects ≤ 16385 ∧
      (certificatePkcs11FindObjects search).2.count .findObjectsFinal =
        if search.init = 0 then 1 else 0 := by
  refine ⟨findObjects_ok_iff search, ?_⟩
  by_cases started : search.init = 0
  · rcases calls_of_init started with ⟨count, bounded, calls⟩
    rw [calls, if_pos started]
    constructor
    · rw [List.count_cons, List.count_append, List.count_replicate]
      exact bounded
    · rw [List.count_cons, List.count_append, List.count_replicate]
      rfl
  · rw [certificatePkcs11FindObjects, if_pos started, if_neg started]
    constructor
    · exact Nat.zero_le _
    · rfl

end PortalCertificate.Tokens.ObjectSearch
