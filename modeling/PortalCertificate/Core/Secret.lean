import PortalCertificate.Library.Der

/-!
# The pages that hold a PIN

`XccSecret` is a page that a UI fills and hands over.  Who holds a page has
to release it, once; `serial` tells the pages of one process apart.
-/

namespace PortalCertificate.Core.Secret

open PortalCertificate.Library.Der (Octets)

/-- `XccSecret`, with a number of its own. -/
structure XccSecret where
  serial : Nat
  data : Octets
  length : Nat
  deriving DecidableEq, Repr

/-- The octets that a secret has room for. -/
def XccSecret.capacity (secret : XccSecret) : Nat := secret.data.length

/-- `explicit_bzero`. -/
def XccSecret.wiped (secret : XccSecret) : XccSecret :=
  { secret with data := List.replicate secret.capacity 0, length := 0 }

/-- `xcc_secret_set_length`, with the page as it is left. -/
def xccSecretSetLength (secret : XccSecret) (length : Nat) :
    Bool × XccSecret :=
  if length = 0 ∨ 511 < length ∨ secret.capacity ≤ length ∨
      0 ∈ secret.data.take length then
    (false, secret.wiped)
  else
    (true, { secret with data := secret.data.set length 0, length })

/-- `xcc_secret_length`. -/
def xccSecretLength : Option XccSecret → Nat
  | none => 0
  | some secret => secret.length

/-- The string at the start of a page. -/
def cString (data : Octets) : Octets := data.takeWhile (· ≠ 0)

/-- `xcc_secret_view`. -/
def xccSecretView : Option XccSecret → Option Octets
  | none => none
  | some secret =>
      if 0 < secret.length then some (cString secret.data) else none

/-- A page with a PIN that has passed `xcc_secret_set_length`. -/
structure Valid (secret : XccSecret) : Prop where
  positive : 0 < secret.length
  bounded : secret.length ≤ 511
  fits : secret.length < secret.capacity
  clean : 0 ∉ secret.data.take secret.length
  terminated : secret.data[secret.length]? = some 0

/-- A length that is accepted makes a valid page. -/
theorem xccSecretSetLength_valid
    {secret : XccSecret} {length : Nat}
    (accepted : (xccSecretSetLength secret length).1 = true) :
    Valid (xccSecretSetLength secret length).2 := by
  unfold xccSecretSetLength at accepted ⊢
  split_ifs at accepted ⊢ with refused
  push Not at refused
  rcases refused with ⟨positive, bounded, fits, clean⟩
  constructor
  · exact Nat.pos_of_ne_zero positive
  · exact bounded
  · simpa [XccSecret.capacity] using fits
  · simpa [List.take_set_of_le] using clean
  · exact List.getElem?_set_self fits

theorem xccSecretSetLength_serial (secret : XccSecret) (length : Nat) :
    (xccSecretSetLength secret length).2.serial = secret.serial := by
  unfold xccSecretSetLength
  split_ifs <;> rfl

/-- The view of a valid page is all of the PIN. -/
theorem Valid.view {secret : XccSecret} (valid : Valid secret) :
    xccSecretView (some secret) =
      some (secret.data.take secret.length) := by
  have split : secret.data =
      secret.data.take secret.length ++
        0 :: secret.data.drop (secret.length + 1) := by
    have found := List.getElem?_eq_some_iff.mp valid.terminated
    rcases found with ⟨inside, zero⟩
    conv_lhs => rw [← List.take_append_drop secret.length secret.data]
    rw [List.drop_eq_getElem_cons inside, zero]
  rw [xccSecretView, if_pos valid.positive, cString]
  conv_lhs => rw [split]
  rw [List.takeWhile_append_of_pos]
  · simp
  · intro octet member
    have other : octet ≠ 0 := fun zero => valid.clean (zero ▸ member)
    simpa using other

end PortalCertificate.Core.Secret
