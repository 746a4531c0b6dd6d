import Csms.EnergyManagement.Input

/-!
# Reading tariff calendars

`TariffsService` reads a calendar from an untyped request body: its bands, or one band
for a flat price, its currency, its dates and its status.
-/

namespace Csms.Tariffs

open Js
open EnergyManagement (readString readRecord readPositiveInt)

inductive CalendarStatus where
  | draft
  | active
  | archived
  deriving DecidableEq, Repr

structure TariffBand where
  (id label : String)
  daysOfWeek : List Int
  (startHour endHour : Int)
  pricePerKwh : ℚ
  currency : String
  deriving DecidableEq

def normalizeStatus (value : JsValue) : Option CalendarStatus :=
  match (readString value).map toUpperCase with
  | some "DRAFT" => some .draft
  | some "ACTIVE" => some .active
  | some "ARCHIVED" => some .archived
  | _ => none

def normalizeCurrency (value : JsValue) : Except HttpException String :=
  let currency := ((readString value).map toUpperCase).getD "USD"
  if length currency < 3 ∨ length currency > 4 then
    .error (.badRequest "currency must be a valid code")
  else .ok currency

section Numbers

variable (engine : Engine)

def readHour (value : JsValue) (fallback : Int) (fieldName : String) : Except HttpException Int :=
  match value with
  | .undefined | .null | .string "" => .ok fallback
  | other =>
    match engine.toNumber other with
    | .finite parsed =>
      if parsed < 0 ∨ parsed > 24 then
        .error (.badRequest s!"{fieldName} must be between 0 and 24")
      else .ok ⌊parsed⌋
    | _ => .error (.badRequest s!"{fieldName} must be between 0 and 24")

def readPrice (value : JsValue) (fieldName : String) : Except HttpException (Option ℚ) :=
  match value with
  | .undefined | .null | .string "" => .ok none
  | other =>
    match engine.toNumber other with
    | .finite parsed =>
      if parsed < 0 then .error (.badRequest s!"{fieldName} must be a non-negative number")
      else .ok (some (JsNumber.toFixed 4 parsed))
    | _ => .error (.badRequest s!"{fieldName} must be a non-negative number")

def readDate (value : JsValue) : Option Int :=
  match value with
  | .date milliseconds => milliseconds
  | .string "" => none
  | other => engine.toDate other

def dayNames : List String :=
  ["sun", "mon", "tue", "wed", "thu", "fri", "sat"]

def readDay (entry : JsValue) : Int :=
  match entry with
  | .number (.finite value) => if value.den = 1 then value.num else -1
  | .string text =>
    match engine.toNumber (.string text) with
    | .finite value => if value.den = 1 then value.num else namedDay text
    | _ => namedDay text
  | _ => -1
where
  namedDay (text : String) : Int :=
    match dayNames.idxOf? (toLowerCase (String.ofList ((trim text).toList.take 3))) with
    | some index => index
    | none => -1

def normalizeDaysOfWeek (value : JsValue) : List Int :=
  match value with
  | .array entries =>
    let days := (entries.map (readDay engine)).filter fun day => 0 ≤ day && day ≤ 6
    if days = [] then [0, 1, 2, 3, 4, 5, 6]
    else days.dedup.insertionSort fun left right => left ≤ right
  | _ => [0, 1, 2, 3, 4, 5, 6]

/-- One band; `number` counts from 1. -/
def normalizeBand (currency : String) (number : Nat) (value : JsValue) :
    Except HttpException TariffBand := do
  let record ← match readRecord value with
    | some record => .ok record
    | none => .error (.badRequest "Each tariff band must be an object")
  let startHour ← readHour engine (record "startHour") 0 "startHour"
  let endHour ← readHour engine (record "endHour") 24 "endHour"
  if endHour ≤ startHour then
    throw (.badRequest "endHour must be greater than startHour")
  let pricePerKwh ← readPrice engine ((record "pricePerKwh").nullish (record "price")) "pricePerKwh"
  let pricePerKwh ← match pricePerKwh with
    | some price => .ok price
    | none => .error (.badRequest "pricePerKwh is required")
  let bandCurrency ← normalizeCurrency ((record "currency").orElse (.string currency))
  return {
    id := (readString (record "id")).getD s!"band-{number}"
    label := (readString (record "label")).getD s!"Band {number}"
    daysOfWeek := normalizeDaysOfWeek engine (record "daysOfWeek")
    startHour
    endHour
    pricePerKwh
    currency := bandCurrency }

def normalizeBandList (currency : String) (number : Nat) :
    List JsValue → Except HttpException (List TariffBand)
  | [] => .ok []
  | value :: values => do
    let band ← normalizeBand engine currency number value
    let bands ← normalizeBandList currency (number + 1) values
    return band :: bands

def flatBand (currency : String) (price : ℚ) : TariffBand where
  id := "band-1"
  label := "Flat rate"
  daysOfWeek := [0, 1, 2, 3, 4, 5, 6]
  startHour := 0
  endHour := 24
  pricePerKwh := price
  currency := currency

def normalizeBands (value : JsValue) (currency : String) (legacyPriceValue : JsValue) :
    Except HttpException (List TariffBand) := do
  let normalized ← match value with
    | .array bands => normalizeBandList engine currency 1 bands
    | _ =>
      match legacyPriceValue with
      | .undefined => .ok []
      | legacyPriceValue => do
        let price ← readPrice engine legacyPriceValue "pricePerKwh"
        match price with
        | some price => .ok [flatBand currency price]
        | none => .error (.badRequest "pricePerKwh is required")
  if normalized = [] then
    throw (.badRequest "At least one tariff band or pricePerKwh is required")
  return normalized

/-- What `createCalendar` reads from its input, apart from the site. -/
structure CalendarDraft where
  (name currency timezone : String)
  effectiveFrom : Int
  effectiveTo : Option Int
  bands : List TariffBand
  version : Option Int
  status : CalendarStatus
  metadata : Option JsRecord

def readDraft (now : Int) (input : JsRecord) : Except HttpException CalendarDraft := do
  let name ← match readString (input "name") with
    | some name => .ok name
    | none => .error (.badRequest "name is required")
  let currency ← normalizeCurrency (input "currency")
  let effectiveFrom := (readDate engine (input "effectiveFrom")).getD now
  let effectiveTo := readDate engine (input "effectiveTo")
  if effectiveTo.any (· ≤ effectiveFrom) then
    throw (.badRequest "effectiveTo must be after effectiveFrom")
  let bands ← normalizeBands engine (input "bands") currency (input "pricePerKwh")
  return {
    name
    currency
    timezone := (readString (input "timezone")).getD "UTC"
    effectiveFrom
    effectiveTo
    bands
    version := readPositiveInt engine (input "version")
    status := (normalizeStatus (input "status")).getD .draft
    metadata := readRecord (input "metadata") }

end Numbers

end Csms.Tariffs
