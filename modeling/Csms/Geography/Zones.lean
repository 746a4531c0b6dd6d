import Csms.Js.Text
import Csms.Table.Keyed

/-!
# Geographic zones

The operations that create zones, move and retype them, and switch them on and off, with the
checks of the hierarchy that they make.
-/

namespace Csms.Geography

open Js

inductive ZoneType
  | continent
  | subRegion
  | country
  | adm1
  | adm2
  | adm3
  | city
  | postalZone
deriving DecidableEq, Repr

def ZoneType.text : ZoneType → String
  | continent => "CONTINENT"
  | subRegion => "SUB_REGION"
  | country => "COUNTRY"
  | adm1 => "ADM1"
  | adm2 => "ADM2"
  | adm3 => "ADM3"
  | city => "CITY"
  | postalZone => "POSTAL_ZONE"

def allowedChildrenByType : ZoneType → List ZoneType
  | .continent => [.subRegion, .country]
  | .subRegion => [.country]
  | .country => [.adm1, .city, .postalZone]
  | .adm1 => [.adm2, .city, .postalZone]
  | .adm2 => [.adm3, .city, .postalZone]
  | .adm3 => [.city, .postalZone]
  | .city => [.postalZone]
  | .postalZone => []

/-- Ids are made by the database and never empty. -/
structure ZoneId where
  text : String
  text_ne : text ≠ ""
deriving DecidableEq

/-- `id || null`. -/
def ZoneId.ofText (text : String) : Option ZoneId :=
  if given : text ≠ "" then some ⟨text, given⟩ else none

structure Zone where
  id : ZoneId
  (code name : String)
  type : ZoneType
  parentId : Option ZoneId
  isActive : Bool
  (currency timezone postalCodeRegex : Option String)
deriving DecidableEq

abbrev Zones :=
  Table Zone Zone.id

inductive GeographyException
  | badRequest (message : String)
  | notFound (message : String)
  | conflict (message : String)
  /-- The walk from zone to parent goes round in a circle. -/
  | neverAnswers
deriving DecidableEq

structure CreateGeographicZoneDto where
  (code name : String)
  type : ZoneType
  (parentId currency timezone postalCodeRegex : Option String)

def CreateGeographicZoneDto.nextParentId (dto : CreateGeographicZoneDto) : Option ZoneId :=
  dto.parentId.bind ZoneId.ofText

/-- The zone that is made, with the id that the database gives it. -/
def CreateGeographicZoneDto.zone (dto : CreateGeographicZoneDto) (id : ZoneId) : Zone where
  id := id
  code := dto.code
  name := dto.name
  type := dto.type
  parentId := dto.nextParentId
  isActive := true
  currency := dto.currency
  timezone := dto.timezone
  postalCodeRegex := dto.postalCodeRegex

structure UpdateGeographicZoneDto where
  (code name : Option String)
  type : Option ZoneType
  (parentId currency timezone postalCodeRegex : Option String)

def UpdateGeographicZoneDto.nextParentId (dto : UpdateGeographicZoneDto) (zone : Zone) :
    Option ZoneId :=
  match dto.parentId with
  | some parentId => ZoneId.ofText parentId
  | none => zone.parentId

def UpdateGeographicZoneDto.nextType (dto : UpdateGeographicZoneDto) (zone : Zone) : ZoneType :=
  dto.type.getD zone.type

/-- What an update writes; `parentId` is there when it is written. -/
structure ZoneUpdate where
  (code name : Option String)
  type : Option ZoneType
  parentId : Option (Option ZoneId)
  (currency timezone postalCodeRegex : Option String)

def UpdateGeographicZoneDto.data (dto : UpdateGeographicZoneDto) : ZoneUpdate where
  code := dto.code
  name := dto.name
  type := dto.type
  parentId := dto.parentId.map ZoneId.ofText
  currency := dto.currency
  timezone := dto.timezone
  postalCodeRegex := dto.postalCodeRegex

def ZoneUpdate.apply (data : ZoneUpdate) (zone : Zone) : Zone where
  id := zone.id
  code := data.code.getD zone.code
  name := data.name.getD zone.name
  type := data.type.getD zone.type
  parentId := data.parentId.getD zone.parentId
  isActive := zone.isActive
  currency := data.currency.or zone.currency
  timezone := data.timezone.or zone.timezone
  postalCodeRegex := data.postalCodeRegex.or zone.postalCodeRegex

def Zone.withStatus (isActive : Bool) (zone : Zone) : Zone :=
  { zone with isActive := isActive }

def assertValidHierarchy (type : ZoneType) (parentType : Option ZoneType) :
    Except GeographyException Unit :=
  match parentType with
  | none =>
    if type ≠ .continent then
      .error (.badRequest "Only CONTINENT zones can be created without a parent")
    else .ok ()
  | some parentType =>
    if (allowedChildrenByType parentType).contains type then .ok ()
    else
      .error (.badRequest
        (type.text ++ " is not a valid child type under " ++ parentType.text))

section Store

variable (zones : Zones)

def parentOf (id : ZoneId) : Option ZoneId :=
  (zones.find? id).bind Zone.parentId

/-- The walk of `assertNoCircularParent` from zone to parent: whether it comes to the zone, or
`none` when it has not come to an end after so many zones. -/
def meetsZone (zoneId : ZoneId) : Nat → Option ZoneId → Option Bool
  | _, none => some false
  | 0, some _ => none
  | fuel + 1, some currentParentId =>
    if currentParentId = zoneId then some true
    else meetsZone zoneId fuel (parentOf zones currentParentId)

/-- A walk over more zones than there are never ends. -/
def assertNoCircularParent (zoneId candidateParentId : ZoneId) : Except GeographyException Unit :=
  match meetsZone zones zoneId (zones.rows.length + 1) (some candidateParentId) with
  | some false => .ok ()
  | some true => .error (.badRequest "Cannot assign a descendant as the parent of this zone")
  | none => .error .neverAnswers

def getZoneById (id : ZoneId) : Except GeographyException Zone :=
  match zones.find? id with
  | none => .error (.notFound "Geographic zone not found")
  | some zone => .ok zone

def findParent : Option ZoneId → Except GeographyException (Option Zone)
  | none => .ok none
  | some parentId =>
    match zones.find? parentId with
    | none => .error (.notFound "Parent geographic zone was not found")
    | some parent => .ok (some parent)

def buildCreateZoneData (id : ZoneId) (dto : CreateGeographicZoneDto) :
    Except GeographyException Zone := do
  let parent ← findParent zones dto.nextParentId
  assertValidHierarchy dto.type (parent.map Zone.type)
  pure (dto.zone id)

def buildUpdateZoneData (currentZoneId : ZoneId) (dto : UpdateGeographicZoneDto) :
    Except GeographyException ZoneUpdate := do
  let currentZone ← getZoneById zones currentZoneId
  let nextParentId := dto.nextParentId currentZone
  if nextParentId = some currentZoneId then
    .error (.badRequest "A zone cannot be its own parent")
  else do
    let parent ← findParent zones nextParentId
    assertValidHierarchy (dto.nextType currentZone) (parent.map Zone.type)
    match nextParentId with
    | some parentId => assertNoCircularParent zones currentZoneId parentId
    | none => pure ()
    pure dto.data

/-- The unique index on codes. -/
def isCodeFree (code : String) (id : ZoneId) : Bool :=
  zones.rows.all fun zone => zone.id = id || zone.code ≠ code

def setZone (id : ZoneId) (change : Zone → Zone) (keeps : ∀ zone, (change zone).id = zone.id) :
    Zones :=
  zones.updateWhere (fun zone => zone.id = id) change keeps

def codeTaken : GeographyException :=
  .conflict "A geographic zone with that code already exists"

/-- `create`, with the id that the database makes. -/
def createZone (id : ZoneId) (dto : CreateGeographicZoneDto) : Except GeographyException Zones := do
  let zone ← buildCreateZoneData zones id dto
  if isCodeFree zones zone.code id && (zones.find? id).isNone then .ok (zones.insert zone)
  else .error codeTaken

def updateZone (id : ZoneId) (dto : UpdateGeographicZoneDto) : Except GeographyException Zones := do
  let _ ← getZoneById zones id
  let data ← buildUpdateZoneData zones id dto
  if data.code.all fun code => isCodeFree zones code id then
    .ok (setZone zones id data.apply fun _ => rfl)
  else .error codeTaken

def setZoneStatus (id : ZoneId) (isActive : Bool) : Except GeographyException Zones := do
  let zone ← getZoneById zones id
  if !isActive && zones.rows.any fun child => child.parentId = some id && child.isActive then
    .error (.badRequest "Cannot deactivate a zone while it still has active child zones")
  else .ok (setZone zones zone.id (Zone.withStatus isActive) fun _ => rfl)

end Store

inductive ZoneOperation
  | createZone (id : ZoneId) (dto : CreateGeographicZoneDto)
  | updateZone (id : ZoneId) (dto : UpdateGeographicZoneDto)
  | setZoneStatus (id : ZoneId) (isActive : Bool)

def ZoneOperation.run (zones : Zones) : ZoneOperation → Except GeographyException Zones
  | createZone id dto => Geography.createZone zones id dto
  | updateZone id dto => Geography.updateZone zones id dto
  | setZoneStatus id isActive => Geography.setZoneStatus zones id isActive

/-- The zones after an operation: an exception changes nothing. -/
def ZoneOperation.next (zones : Zones) (operation : ZoneOperation) : Zones :=
  match operation.run zones with
  | .ok after => after
  | .error _ => zones

end Csms.Geography
