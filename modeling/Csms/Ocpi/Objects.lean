import Csms.Commands.Store

/-!
# Objects of roaming partners

The gateway passes on what partners push: tokens, tariffs, sessions, charge detail
records and locations.  The internal OCPI controller keeps each object as one row
under the columns that identify it, and every push of it is an upsert.  The tables
are one here, and a key says which table it is of.
-/

namespace Csms.Ocpi

open Js Commands

/-- The unique columns of tariffs, sessions, charge detail records and locations;
`id` is the column named after the object. -/
structure ObjectKey where
  (countryCode partyId id version : String)
  deriving DecidableEq

/-- The unique columns of `ocpi_tokens`. -/
structure TokenKey where
  (countryCode partyId tokenUid tokenType : String)
  deriving DecidableEq

/-- The unique columns of `ocpi_partner_tokens`. -/
structure PartnerTokenKey extends TokenKey where
  version : String
  deriving DecidableEq

/-- The tables, each with its unique columns. -/
inductive Key where
  | token (key : TokenKey)
  | partnerToken (key : PartnerTokenKey)
  | tariff (key : ObjectKey)
  | session (key : ObjectKey)
  | cdr (key : ObjectKey)
  | location (key : ObjectKey)
  deriving DecidableEq

structure PartnerObject where
  key : Key
  data : JsValue
  lastUpdated : Int
  /-- A column of `ocpi_tokens` alone. -/
  valid : Bool
  updatedAt : Int

/-- The rows of all tables. -/
abbrev Objects :=
  Table PartnerObject PartnerObject.key

/-- `parseDate`. -/
def parseDate (now : Int) (value : Option DateText) : Int :=
  (value.bind dateParse).getD now

/-- `findUnique` by the unique columns, and then `update` or `create`. -/
def upsert (objects : Objects) (key : Key) (data : Option JsValue → Except HttpException JsValue)
    (lastUpdated : Int) (valid : Bool) (now : Int) : Except HttpException Objects :=
  match objects.find? key with
  | some existing => do
    let merged ← data (some existing.data)
    return objects.updateWhere (fun object => object.key = key)
      (fun object => { object with data := merged, lastUpdated, valid, updatedAt := now })
      fun _ => rfl
  | none => do
    let created ← data none
    return objects.insert ⟨key, created, lastUpdated, valid, now⟩

/-- A tariff, a session, a charge detail record or a location. -/
structure ObjectUpsert where
  (countryCode partyId id : String)
  version : Option String
  data : JsRecord
  lastUpdated : Option DateText

def ObjectUpsert.key (payload : ObjectUpsert) : ObjectKey where
  countryCode := payload.countryCode
  partyId := payload.partyId
  id := payload.id
  version := (orText payload.version none).getD "2.2.1"

structure TokenUpsert where
  (countryCode partyId tokenUid : String)
  tokenType : Option String
  /-- Only partner tokens have it. -/
  version : Option String
  data : JsRecord
  lastUpdated : Option DateText
  valid : JsValue

def TokenUpsert.key (payload : TokenUpsert) : TokenKey where
  countryCode := payload.countryCode
  partyId := payload.partyId
  tokenUid := payload.tokenUid
  tokenType := (orText payload.tokenType none).getD "RFID"

def TokenUpsert.partnerKey (payload : TokenUpsert) : PartnerTokenKey where
  toTokenKey := payload.key
  version := (orText payload.version none).getD "2.2.1"

def TokenUpsert.isValid (payload : TokenUpsert) : Bool :=
  match payload.valid with
  | .undefined => true
  | valid => valid.isTruthy

/-- Which part of a location is pushed. -/
inductive ObjectType where
  | location
  | evse
  | connector
  deriving DecidableEq

structure LocationUpsert extends ObjectUpsert where
  objectType : Option ObjectType
  (evseUid connectorId : Option String)

def arrayItems : JsValue → List JsValue
  | .array items => items
  | _ => []

/-- `findIndex` of the item whose `field` has a text. -/
def indexOf (items : List JsValue) (field wanted : String) : Option Nat :=
  items.findIdx? fun item => extractString (ensureObject item) field = some wanted

def putItem (items : List JsValue) (index : Option Nat) (isPatch : Bool) (incoming : JsRecord) :
    List JsValue :=
  match index with
  | none => items ++ [.object incoming]
  | some index =>
    items.modify index fun item =>
      .object (if isPatch then (ensureObject item).spread incoming else incoming)

def mergeLocation (existing : JsRecord) (payload : LocationUpsert) (isPatch : Bool) : JsRecord :=
  let evses := arrayItems (existing "evses")
  match payload.objectType.getD .location with
  | .location => if isPatch then existing.spread payload.data else payload.data
  | .evse =>
    match orText payload.evseUid (extractString payload.data "uid") with
    | none => existing
    | some uid =>
      existing.with "evses" (.array (putItem evses (indexOf evses "uid" uid) isPatch payload.data))
  | .connector =>
    match orText payload.evseUid none, orText payload.connectorId none with
    | some evseUid, some connectorId =>
      match indexOf evses "uid" evseUid with
      | none => existing
      | some evseIndex =>
        existing.with "evses" (.array (evses.modify evseIndex fun evse =>
          let connectors := arrayItems (ensureObject evse "connectors")
          .object ((ensureObject evse).with "connectors" (.array
            (putItem connectors (indexOf connectors "id" connectorId) isPatch
              payload.data)))))
    | _, _ => existing

section Endpoints

variable (now : Int) (objects : Objects)

/-- A row whose data is replaced as a whole. -/
def upsertObject (key : Key) (payload : ObjectUpsert) : Except HttpException Objects :=
  upsert objects key (fun _ => .ok (.object payload.data)) (parseDate now payload.lastUpdated) true
    now

def upsertPartnerTariff (payload : ObjectUpsert) : Except HttpException Objects :=
  upsertObject now objects (.tariff payload.key) payload

def createSession (payload : ObjectUpsert) : Except HttpException Objects :=
  upsertObject now objects (.session payload.key) payload

def createCdr (payload : ObjectUpsert) : Except HttpException Objects :=
  upsertObject now objects (.cdr payload.key) payload

def upsertToken (payload : TokenUpsert) : Except HttpException Objects :=
  upsert objects (.token payload.key) (fun _ => .ok (.object payload.data))
    (parseDate now payload.lastUpdated) payload.isValid now

def upsertPartnerToken (payload : TokenUpsert) : Except HttpException Objects :=
  upsert objects (.partnerToken payload.partnerKey) (fun _ => .ok (.object payload.data))
    (parseDate now payload.lastUpdated) true now

/-- The data of a location after a push; a part of a location that is not there is
turned down. -/
def locationData (payload : LocationUpsert) (isPatch : Bool) :
    Option JsValue → Except HttpException JsValue
  | some existing => .ok (.object (mergeLocation (ensureObject existing) payload isPatch))
  | none =>
    if payload.objectType.getD .location ≠ .location then
      .error (.notFound "Location not found for EVSE/Connector update")
    else .ok (.object payload.data)

def upsertLocation (payload : LocationUpsert) (isPatch : Bool) : Except HttpException Objects :=
  upsert objects (.location payload.key) (locationData payload isPatch)
    (parseDate now payload.lastUpdated) true now

end Endpoints

section Upsert

variable {objects after : Objects} {key : Key} {lastUpdated now : Int} {valid : Bool}
  {data : Option JsValue → Except HttpException JsValue}

theorem upsert_of_ok {stored : JsValue}
    (accepted : data ((objects.find? key).map PartnerObject.data) = .ok stored) :
    ∃ after, upsert objects key data lastUpdated valid now = .ok after ∧
      ∀ wanted, after.find? wanted =
        if wanted = key then some ⟨key, stored, lastUpdated, valid, now⟩
        else objects.find? wanted := by
  rw [upsert]
  rcases found : objects.find? key with _ | existing
  · rw [found] at accepted
    change data none = .ok stored at accepted
    simp only [accepted]
    refine ⟨_, rfl, ?_⟩
    intro wanted
    rw [Table.find?_insert]
    by_cases isKey : wanted = key
    · subst isKey
      simp [found]
    · simp [isKey, Ne.symm isKey]
  · rw [found] at accepted
    change data (some existing.data) = .ok stored at accepted
    simp only [accepted]
    refine ⟨_, rfl, ?_⟩
    intro wanted
    rw [Table.find?_updateWhere]
    by_cases isKey : wanted = key
    · subst isKey
      rw [found, if_pos rfl]
      have sameKey := (Table.find?_eq_some_iff.mp found).2
      simp [sameKey]
    · rw [if_neg isKey]
      rcases isOther : objects.find? wanted with _ | other
      · rfl
      · have sameKey := (Table.find?_eq_some_iff.mp isOther).2
        simp [sameKey, isKey]

theorem upsert_of_error {error : HttpException}
    (refused : data ((objects.find? key).map PartnerObject.data) = .error error) :
    upsert objects key data lastUpdated valid now = .error error := by
  rw [upsert]
  rcases found : objects.find? key with _ | existing
  · rw [found] at refused
    change data none = .error error at refused
    simp only [refused]
    rfl
  · rw [found] at refused
    change data (some existing.data) = .error error at refused
    simp only [refused]
    rfl

end Upsert

end Csms.Ocpi
