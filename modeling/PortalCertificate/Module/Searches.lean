import PortalCertificate.Module.GrantObjects

/-!
# What a search finds

Matching a template and reading attributes are separate code.  An object
matches exactly when each attribute of the template, read back by asking for
its size and then for its value, gives the octets that the template carries.
-/

namespace PortalCertificate.Module.Searches

open PortalCertificate.Module.GrantObjects
open PortalCertificate.Module.Objects
open PortalCertificate.Module.Session
open PortalCertificate.Module.Template (Octets)
open PortalCertificate.Pkcs11

/-! ## Object sets -/

section Reading

variable {object : PortalObject} {type : CkUlong}

end Reading

/-! ## Matching -/

section Matching

variable {object : PortalObject}

end Matching

/-- The attributes are not sensitive, or have no value. -/
def AllHidden (attributes : List PortalAttribute) : Prop :=
  ∀ found ∈ attributes, found.sensitive = true → found.value = none

theorem AllHidden.append
    {first second : List PortalAttribute}
    (hidden : AllHidden first) (hidden' : AllHidden second) :
    AllHidden (first ++ second) :=
  List.forall_mem_append.mpr ⟨hidden, hidden'⟩

end PortalCertificate.Module.Searches
