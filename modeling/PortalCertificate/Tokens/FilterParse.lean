import PortalCertificate.Tokens.Filter

/-!
# Filling a filter

`certificate_filter_parse` fills the fields of its output one after another
and clears what it has filled when a later constraint is refused.  What is
left is the filter of the first entry of every key, or a filter without
constraints and an error.
-/

namespace PortalCertificate.Tokens.FilterParse

open PortalCertificate.Glib
open PortalCertificate.Library.Der (Octets)
open PortalCertificate.Tokens.Filter

/-- A function with an output and an error. -/
abbrev Parsing := ExceptT GError (StateM CertificateFilter)

/-- An output in which only the purpose and the operations are set. -/
def bare
    (purpose : CertificatePurpose) (operations : CertificateOperations) :
    CertificateFilter :=
  { purpose, operations, issuers := none, keyUsage := none
    ekuOids := none, keyAlgorithms := none, tokenLabel := none
    pivSlot := none }

/-- `certificate_filter_clear`. -/
def certificateFilterClear (filter : CertificateFilter) :
    CertificateFilter :=
  { filter with issuers := none, keyUsage := none, ekuOids := none
                keyAlgorithms := none, tokenLabel := none
                pivSlot := none }

/-- An exit with an error after which nothing is left in the output. -/
def refuse (error : GError) : Parsing Unit := do
  modify certificateFilterClear
  throw error

/-! ## The constraints in turn -/

/-- Nothing has been filled yet, so nothing is cleared. -/
def fillIssuers (filter : Vardict) : Parsing Unit :=
  match lookupValue filter "issuers" with
  | none => pure ()
  | some (.byteStrings issuers) =>
      modify fun out => { out with issuers := some issuers }
  | some _ =>
      throw (invalidArgument
        "certificate_filter.issuers must be an array of byte arrays")

/-- One of the fields that hold strings is filled. -/
def fillStrv
    (filter : Vardict) (key : String)
    (store : Option (List String) → CertificateFilter →
      CertificateFilter) : Parsing Unit :=
  match strvFromVariant filter key with
  | .ok texts => modify (store texts)
  | .error error => refuse error

/-- The label is filled. -/
def fillTokenLabel (filter : Vardict) : Parsing Unit :=
  match lookupText filter "token_label" with
  | some text => modify fun out => { out with tokenLabel := some text }
  | none =>
      if (lookupValue filter "token_label").isSome then
        refuse (invalidArgument
          "certificate_filter.token_label must be a string")
      else
        pure ()

/-- The slot is filled. -/
def fillPivSlot (filter : Vardict) : Parsing Unit :=
  match lookupText filter "piv_slot" with
  | some text =>
      if pivSlots.contains text then
        modify fun out => { out with pivSlot := some text }
      else
        refuse (invalidArgument
          ("certificate_filter.piv_slot '" ++ text ++
            "' is not a PIV slot"))
  | none =>
      if (lookupValue filter "piv_slot").isSome then
        refuse (invalidArgument
          "certificate_filter.piv_slot must be a string")
      else
        pure ()

/-- The fields are filled one after the other, up to the first error. -/
def fillConstraints (filter : Vardict) : Parsing Unit := do
  fillIssuers filter
  fillStrv filter "key_usage" fun texts out =>
    { out with keyUsage := texts }
  fillStrv filter "eku" fun texts out => { out with ekuOids := texts }
  fillStrv filter "key_algorithms" fun texts out =>
    { out with keyAlgorithms := texts }
  fillTokenLabel filter
  fillPivSlot filter

/-- `certificate_filter_parse` with its output. -/
def certificateFilterFill
    (options : Option Vardict) (purpose : CertificatePurpose)
    (operations : CertificateOperations) : Parsing Unit := do
  set (bare purpose operations)
  match options.bind fun options =>
      lookupValue options "certificate_filter" with
  | none => pure ()
  | some (.vardict filter) =>
      match filter.find? fun entry => !filterKeys.contains entry.1 with
      | some entry =>
          throw (invalidArgument
            ("Unknown certificate_filter key '" ++ entry.1 ++ "'"))
      | none => fillConstraints filter
  | some _ =>
      throw (invalidArgument "certificate_filter must be a vardict")

/-- The result and the output of a function that starts with an output. -/
def Parsing.outcome (parsing : Parsing Unit) (out : CertificateFilter) :
    Except GError Unit × CertificateFilter :=
  (ExceptT.run parsing).run out

/-! ## What a step leaves in the output -/

/-- What was read is stored, and an error leaves another output. -/
def settled
    {α : Type} (read : Except GError α) (next : α → CertificateFilter)
    (left : CertificateFilter) : Except GError Unit × CertificateFilter :=
  match read with
  | .ok value => (.ok (), next value)
  | .error error => (.error error, left)

theorem outcome_bind_ok
    {first : Parsing Unit} {second : Unit → Parsing Unit}
    {out next : CertificateFilter}
    (succeeds : first.outcome out = (.ok (), next)) :
    Parsing.outcome (first >>= second) out =
      (second ()).outcome next := by
  have run : StateT.run (ExceptT.run first) out = pure (.ok (), next) :=
    succeeds
  simp only [Parsing.outcome, ExceptT.run_bind, StateT.run_bind, run]
  rfl

theorem outcome_bind_error
    {first : Parsing Unit} {second : Unit → Parsing Unit}
    {out next : CertificateFilter} {error : GError}
    (fails : first.outcome out = (.error error, next)) :
    Parsing.outcome (first >>= second) out = (.error error, next) := by
  have run : StateT.run (ExceptT.run first) out =
      pure (.error error, next) := fails
  simp only [Parsing.outcome, ExceptT.run_bind, StateT.run_bind, run]
  rfl

theorem outcome_fillIssuers
    {filter : Vardict} {out : CertificateFilter}
    (empty : out.issuers = none) :
    (fillIssuers filter).outcome out =
      settled (parseIssuers filter) (fun issuers => { out with issuers })
        out := by
  rw [fillIssuers, parseIssuers]
  cases lookupValue filter "issuers" with
  | none =>
      show (Except.ok (), out) = (.ok (), { out with issuers := none })
      rw [← empty]
  | some value =>
      cases value with
      | byteStrings issuers => rfl
      | boolean value => rfl
      | string text => rfl
      | uint32 value => rfl
      | byteString octets => rfl
      | strings texts => rfl
      | vardict entries => rfl
      | other => rfl

theorem outcome_fillStrv
    (filter : Vardict) (key : String)
    (store : Option (List String) → CertificateFilter →
      CertificateFilter) (out : CertificateFilter) :
    (fillStrv filter key store).outcome out =
      settled (strvFromVariant filter key) (fun texts => store texts out)
        (certificateFilterClear out) := by
  rw [fillStrv]
  cases strvFromVariant filter key with
  | ok texts => rfl
  | error error => rfl

theorem outcome_fillTokenLabel
    {filter : Vardict} {out : CertificateFilter}
    (empty : out.tokenLabel = none) :
    (fillTokenLabel filter).outcome out =
      settled (parseTokenLabel filter)
        (fun tokenLabel => { out with tokenLabel })
        (certificateFilterClear out) := by
  rw [fillTokenLabel, parseTokenLabel, lookupText]
  cases lookupValue filter "token_label" with
  | none =>
      show (Except.ok (), out) = (.ok (), { out with tokenLabel := none })
      rw [← empty]
  | some value =>
      cases value with
      | string text => rfl
      | boolean value => rfl
      | byteStrings issuers => rfl
      | uint32 value => rfl
      | byteString octets => rfl
      | strings texts => rfl
      | vardict entries => rfl
      | other => rfl

theorem outcome_fillPivSlot
    {filter : Vardict} {out : CertificateFilter}
    (empty : out.pivSlot = none) :
    (fillPivSlot filter).outcome out =
      settled (parsePivSlot filter) (fun pivSlot => { out with pivSlot })
        (certificateFilterClear out) := by
  rw [fillPivSlot, parsePivSlot, lookupText]
  cases lookupValue filter "piv_slot" with
  | none =>
      show (Except.ok (), out) = (.ok (), { out with pivSlot := none })
      rw [← empty]
  | some value =>
      cases value with
      | string text =>
          dsimp only
          cases pivSlots.contains text with
          | true => rfl
          | false => rfl
      | boolean value => rfl
      | byteStrings issuers => rfl
      | uint32 value => rfl
      | byteString octets => rfl
      | strings texts => rfl
      | vardict entries => rfl
      | other => rfl

/-! ## The whole of it -/

/-- Either everything was filled, or an error leaves a bare output. -/
def filled
    (purpose : CertificatePurpose) (operations : CertificateOperations)
    (result : Except GError CertificateFilter) :
    Except GError Unit × CertificateFilter :=
  settled result id (bare purpose operations)

/-- A step that stores what was read, followed by the rest. -/
theorem outcome_bind_filled
    {α : Type} {purpose : CertificatePurpose}
    {operations : CertificateOperations} {read : Except GError α}
    {rest : α → Except GError CertificateFilter}
    {first second : Parsing Unit} {out : CertificateFilter}
    (next : α → CertificateFilter)
    (step : first.outcome out =
      settled read next (bare purpose operations))
    (follows : ∀ value, second.outcome (next value) =
      filled purpose operations (rest value)) :
    Parsing.outcome (first >>= fun _ => second) out =
      filled purpose operations (read >>= rest) := by
  cases read with
  | error error =>
      rw [outcome_bind_error step]
      rfl
  | ok value =>
      rw [outcome_bind_ok step, follows]
      rfl

theorem outcome_fillConstraints
    {filter : Vardict} (purpose : CertificatePurpose)
    (operations : CertificateOperations)
    (known : filter.find? (fun entry => !filterKeys.contains entry.1) =
      none) :
    (fillConstraints filter).outcome (bare purpose operations) =
      filled purpose operations
        (parseConstraints filter purpose operations) := by
  rw [parseConstraints, known]
  apply outcome_bind_filled _ (outcome_fillIssuers rfl)
  intro issuers
  apply outcome_bind_filled _ (outcome_fillStrv _ _ _ _)
  intro keyUsage
  apply outcome_bind_filled _ (outcome_fillStrv _ _ _ _)
  intro ekuOids
  apply outcome_bind_filled _ (outcome_fillStrv _ _ _ _)
  intro keyAlgorithms
  apply outcome_bind_filled _ (outcome_fillTokenLabel rfl)
  intro tokenLabel
  rw [outcome_fillPivSlot rfl]
  cases parsePivSlot filter with
  | ok pivSlot => rfl
  | error error => rfl

/-- The output is what the parsed filter says, and bare after an error. -/
theorem outcome_certificateFilterFill
    (options : Option Vardict) (purpose : CertificatePurpose)
    (operations : CertificateOperations) (out : CertificateFilter) :
    (certificateFilterFill options purpose operations).outcome out =
      filled purpose operations
        (certificateFilterParse options purpose operations) := by
  have cleared : Parsing.outcome (set (bare purpose operations)) out =
      (.ok (), bare purpose operations) := rfl
  rw [certificateFilterFill, outcome_bind_ok cleared,
    certificateFilterParse]
  cases options.bind fun options =>
      lookupValue options "certificate_filter" with
  | none => rfl
  | some value =>
      cases value with
      | vardict filter =>
          dsimp only
          cases unknown : filter.find? fun entry =>
              !filterKeys.contains entry.1 with
          | none => exact outcome_fillConstraints _ _ unknown
          | some entry =>
              rw [parseConstraints, unknown]
              rfl
      | boolean value => rfl
      | string text => rfl
      | uint32 value => rfl
      | byteString octets => rfl
      | strings texts => rfl
      | byteStrings items => rfl
      | other => rfl

end PortalCertificate.Tokens.FilterParse
