import Mathlib.Data.List.Basic

/-!
# The part of GLib the mechanism code uses

Variants, dictionaries of variants, case-insensitive ASCII comparison and
I/O errors, as far as the mechanism and filter code reads them.
-/

namespace PortalCertificate.Glib

/-! ## Variants -/

/-- A value of a dictionary; other types are not told apart. -/
inductive Variant where
  | boolean (value : Bool)
  | string (text : String)
  | uint32 (value : UInt32)
  | byteString (octets : List UInt8)
  | strings (texts : List String)
  | byteStrings (items : List (List UInt8))
  | vardict (entries : List (String × Variant))
  | other
  deriving Repr

/-- An `a{sv}` dictionary; keys may repeat. -/
abbrev Vardict := List (String × Variant)

/-- `g_variant_lookup_value` without an expected type: the first match. -/
def lookupValue (dictionary : Vardict) (key : String) : Option Variant :=
  (dictionary.find? fun entry => entry.1 == key).map Prod.snd

/-- `g_variant_lookup` with the format `&s`. -/
def lookupText (dictionary : Vardict) (key : String) : Option String :=
  match lookupValue dictionary key with
  | some (.string text) => some text
  | _ => none

@[simp]
theorem lookupValue_nil (key : String) : lookupValue [] key = none := rfl

theorem lookupValue_cons
    (entry : String × Variant) (dictionary : Vardict) (key : String) :
    lookupValue (entry :: dictionary) key =
      if entry.1 = key then some entry.2
      else lookupValue dictionary key := by
  by_cases same : entry.1 = key <;> simp [lookupValue, same]

/-! ## Strings -/

/-- `g_ascii_strcasecmp (left, right) == 0`. -/
def asciiCaseEqual (left right : String) : Bool :=
  left.toList.map Char.toLower == right.toList.map Char.toLower

/-- `g_ascii_strncasecmp (text, pattern, strlen (pattern)) == 0`. -/
def asciiCaseStarts (text pattern : String) : Bool :=
  (text.toList.take pattern.length).map Char.toLower ==
    pattern.toList.map Char.toLower

/-- The text from a byte offset inside its ASCII part on. -/
def textFrom (text : String) (offset : Nat) : String :=
  String.ofList (text.toList.drop offset)

/-! ## Errors -/

/-- The codes of `G_IO_ERROR` the mechanism code reports. -/
inductive IoErrorCode where
  | invalidArgument
  | notSupported
  deriving DecidableEq, Repr

/-- A `GError` of the domain `G_IO_ERROR`. -/
structure GError where
  code : IoErrorCode
  message : String
  deriving DecidableEq, Repr

/-- A `G_IO_ERROR_INVALID_ARGUMENT`. -/
def invalidArgument (message : String) : GError :=
  ⟨.invalidArgument, message⟩

/-- A `G_IO_ERROR_NOT_SUPPORTED`. -/
def notSupported (message : String) : GError :=
  ⟨.notSupported, message⟩

end PortalCertificate.Glib
