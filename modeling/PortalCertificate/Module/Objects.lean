import PortalCertificate.Module.Template

/-!
# Objects of a grant

The objects the module presents for a grant, their lookup by handle, search
by template, and reading of their attributes.
-/

namespace PortalCertificate.Module.Objects

open PortalCertificate.Module.Template (Octets)
open PortalCertificate.Pkcs11

/-- A sensitive attribute has no value. -/
structure PortalAttribute where
  type : CkUlong
  value : Option Octets
  sensitive : Bool
  deriving DecidableEq, Repr

/-- `PortalObject`. -/
structure PortalObject where
  handle : CkUlong
  objectClass : CkUlong
  attributes : List PortalAttribute
  deriving DecidableEq, Repr

/-- `PortalObjects`. -/
structure PortalObjects where
  objects : List PortalObject
  identifier : Octets
  deriving DecidableEq, Repr

/-- `find_attribute`. -/
def findAttribute (object : PortalObject) (type : CkUlong) :
    Option PortalAttribute :=
  object.attributes.find? fun entry => entry.type == type

/-- `portal_objects_lookup`. -/
def portalObjectsLookup
    (objects : Option PortalObjects) (handle : CkUlong) :
    Option PortalObject :=
  match objects with
  | none => none
  | some objects =>
      objects.objects.find? fun object => object.handle == handle

/-- One attribute of the template agrees with the object. -/
def attributeMatches (object : PortalObject) (entry : CkAttribute) : Bool :=
  match (findAttribute object entry.type).bind PortalAttribute.value with
  | none => false
  | some data =>
      entry.valueLen != ckUnavailableInformation &&
        data.length == entry.valueLen.toNat &&
        (data == [] || entry.bytes == some data)

/-- `portal_object_matches`. -/
def portalObjectMatches
    (object : PortalObject) (template : CkTemplate) : Bool :=
  match template with
  | .null count => count == 0
  | .array attributes => attributes.all (attributeMatches object)

/-- `portal_objects_find`. -/
def portalObjectsFind
    (objects : Option PortalObjects) (template : CkTemplate) :
    List CkUlong :=
  match objects with
  | none => []
  | some objects =>
      (objects.objects.filter fun object =>
        portalObjectMatches object template).map PortalObject.handle

/-- How reading one attribute of a template ends. -/
inductive AttributeResult where
  | read
  | invalid
  | sensitive
  | tooSmall
  deriving DecidableEq, Repr

/-- The attribute after reading it, and how the reading ended. -/
def readAttribute (object : PortalObject) (entry : CkAttribute) :
    CkAttribute × AttributeResult :=
  let unavailable := { entry with valueLen := ckUnavailableInformation }
  match findAttribute object entry.type with
  | none => (unavailable, .invalid)
  | some found =>
      match found.sensitive, found.value with
      | false, some data =>
          let size := UInt64.ofNat data.length
          match entry.value with
          | none => ({ entry with valueLen := size }, .read)
          | some memory =>
              if entry.valueLen.toNat < data.length then
                (unavailable, .tooSmall)
              else
                ({ entry with
                    value := some (data ++ memory.drop data.length)
                    valueLen := size }, .read)
      | _, _ => (unavailable, .sensitive)

/-- The return code, and the template as the caller finds it afterwards. -/
def portalObjectGetAttributes
    (object : PortalObject) (template : CkTemplate) :
    CkRv × CkTemplate :=
  match template with
  | .null count => (if count = 0 then .ok else .argumentsBad, template)
  | .array attributes =>
      let results := attributes.map (readAttribute object)
      let ended (result : AttributeResult) : Bool :=
        results.any fun entry => entry.2 == result
      let rv : CkRv :=
        if ended .sensitive then .attributeSensitive
        else if ended .invalid then .attributeTypeInvalid
        else if ended .tooSmall then .bufferTooSmall
        else .ok
      (rv, .array (results.map Prod.fst))

end PortalCertificate.Module.Objects
