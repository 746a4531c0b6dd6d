import Csms.Js.Value

/-!
# White-label configurations

The configuration of a tenant's portal as it is read from a request or from a column, with a
fallback for what is not given.  `new URL(..)`, dates and `toLowerCase` are parameters.
-/

namespace Csms.Branding

open Js

inductive BrandingException
  | badRequest (message : String)
  | forbidden (message : String)
  | notFound (message : String)
  /-- An error of the database. -/
  | internal
deriving DecidableEq

inductive WhiteLabelFontFamily
  | inter
  | roboto
  | outfit
  | plusJakartaSans
deriving DecidableEq

def WhiteLabelFontFamily.text : WhiteLabelFontFamily → String
  | inter => "Inter"
  | roboto => "Roboto"
  | outfit => "Outfit"
  | plusJakartaSans => "Plus Jakarta Sans"

def brandingFontOptions : List WhiteLabelFontFamily :=
  [.inter, .roboto, .outfit, .plusJakartaSans]

structure BrandingSection where
  (appName shortName : String)
  (logoUrl logoIconUrl faviconUrl : Option String)
deriving DecidableEq

structure ThemeSection where
  primaryColor : String
  accentColor : Option String
  borderRadiusPx : Int
  fontFamily : WhiteLabelFontFamily
deriving DecidableEq

structure LegalSection where
  (termsUrl privacyUrl supportUrl : Option String)
deriving DecidableEq

structure SupportSection where
  (email phone : Option String)
deriving DecidableEq

structure DomainSection where
  primaryDomain : Option String
  allowedOrigins : List String
deriving DecidableEq

structure MetadataSection where
  (lastEditedBy lastEditedAt : Option String)
deriving DecidableEq

/-- The schema version is a constant. -/
structure WhiteLabelConfigV1 where
  branding : BrandingSection
  theme : ThemeSection
  legal : LegalSection
  support : SupportSection
  domain : DomainSection
  metadata : MetadataSection
deriving DecidableEq

def whiteLabelSchemaVersion : Int :=
  1

def nullable : Option String → JsValue
  | some text => .string text
  | none => .null

def recordOf (fields : List (String × JsValue)) : JsValue :=
  .object fun name => (fields.lookup name).getD .undefined

def WhiteLabelConfigV1.toJson (config : WhiteLabelConfigV1) : JsValue :=
  recordOf
    [("schemaVersion", .number (.ofInt whiteLabelSchemaVersion)),
      ("branding", recordOf
        [("appName", .string config.branding.appName),
          ("shortName", .string config.branding.shortName),
          ("logoUrl", nullable config.branding.logoUrl),
          ("logoIconUrl", nullable config.branding.logoIconUrl),
          ("faviconUrl", nullable config.branding.faviconUrl)]),
      ("theme", recordOf
        [("primaryColor", .string config.theme.primaryColor),
          ("accentColor", nullable config.theme.accentColor),
          ("borderRadiusPx", .number (.ofInt config.theme.borderRadiusPx)),
          ("fontFamily", .string config.theme.fontFamily.text)]),
      ("legal", recordOf
        [("termsUrl", nullable config.legal.termsUrl),
          ("privacyUrl", nullable config.legal.privacyUrl),
          ("supportUrl", nullable config.legal.supportUrl)]),
      ("support", recordOf
        [("email", nullable config.support.email),
          ("phone", nullable config.support.phone)]),
      ("domain", recordOf
        [("primaryDomain", nullable config.domain.primaryDomain),
          ("allowedOrigins", .array (config.domain.allowedOrigins.map .string))]),
      ("metadata", recordOf
        [("lastEditedBy", nullable config.metadata.lastEditedBy),
          ("lastEditedAt", nullable config.metadata.lastEditedAt)])]

structure ParsedUrl where
  (protocol host href : String)

/-- What the language supplies. -/
structure Runtime where
  /-- `new URL(text)`, `none` when it throws. -/
  parseUrl : String → Option ParsedUrl
  /-- `new Date(text).getTime()`, `none` for an invalid date. -/
  parseDate : String → Option Int
  toISOString : Int → String
  toLowerCase : String → String

/-- `/^#[0-9a-fA-F]{6}$/`. -/
def isHexColor (text : String) : Bool :=
  match text.toList with
  | '#' :: digits =>
    digits.length = 6 &&
      digits.all fun c => c.isDigit || ('a' ≤ c && c ≤ 'f') || ('A' ≤ c && c ≤ 'F')
  | _ => false

/-- `/^[+0-9().\-\s]{5,40}$/`. -/
def isPhone (text : String) : Bool :=
  let characters := text.toList
  5 ≤ characters.length && characters.length ≤ 40 &&
    characters.all fun c => c.isDigit || "+().-".toList.contains c || isWhitespace c

def hasInnerDot (characters : List Char) : Bool :=
  (characters.drop 1).dropLast.contains '.'

/-- `/^[^\s@]+@[^\s@]+\.[^\s@]+$/`. -/
def isEmail (text : String) : Bool :=
  match text.toList.splitOn '@' with
  | [localPart, host] =>
    localPart ≠ [] && hasInnerDot host && !text.toList.any isWhitespace
  | _ => false

def isHostCharacter (c : Char) : Bool :=
  c.isLower || c.isDigit

/-- `[a-z0-9](?:[a-z0-9-]{0,61}[a-z0-9])?`. -/
def isHostLabel (label : List Char) : Bool :=
  label.length ≤ 63 && label.head?.any isHostCharacter && label.getLast?.any isHostCharacter &&
    label.all fun c => isHostCharacter c || c = '-'

/-- The labels of a host between dots; `localhost` is a label too. -/
def isHost (text : String) : Bool :=
  (text.toList.splitOn '.').all isHostLabel

def leadingDigits (characters : List Char) : Option Nat :=
  match characters.takeWhile Char.isDigit with
  | [] => none
  | digits => some (digits.foldl (fun value c => value * 10 + (c.toNat - '0'.toNat)) 0)

/-- `Number.parseInt(text.trim(), 10)`. -/
def parseInt (text : String) : Option Int :=
  match (trim text).toList with
  | '-' :: rest => (leadingDigits rest).map fun value => -(value : Int)
  | '+' :: rest => (leadingDigits rest).map Int.ofNat
  | characters => (leadingDigits characters).map Int.ofNat

section Fields

abbrev Checked (α : Type) :=
  Except BrandingException α

variable {α : Type}

def reject (message : String) : Checked α :=
  .error (.badRequest message)

def ensureRecord : JsValue → JsRecord
  | .object fields => fields
  -- a `Date` has none of the fields that are read
  | _ => .empty

/-- `value === undefined ? fallback : value`. -/
def given (record : JsRecord) (name : String) (fallback : JsValue) : JsValue :=
  match record name with
  | .undefined => fallback
  | value => value

def normalizeRequiredString (value : JsValue) (field : String) (maxLength : Nat) : Checked String :=
  match value with
  | .string text =>
    let normalized := trim text
    if normalized = "" then reject s!"{field} is required"
    else if maxLength < length normalized then
      reject s!"{field} must be at most {maxLength} characters"
    else .ok normalized
  | _ => reject s!"{field} must be a string"

def normalizeNullableShortString (value : JsValue) (field : String) (maxLength : Nat) :
    Checked (Option String) :=
  match value with
  | .undefined | .null => .ok none
  | .string text =>
    let normalized := trim text
    if normalized = "" then .ok none
    else if maxLength < length normalized then
      reject s!"{field} must be at most {maxLength} characters"
    else .ok (some normalized)
  | _ => reject s!"{field} must be a string"

def isHttp (url : ParsedUrl) : Bool :=
  url.protocol = "http:" || url.protocol = "https:"

def normalizeOptionalUrl (runtime : Runtime) (value : JsValue) (field : String) :
    Checked (Option String) :=
  match value with
  | .undefined | .null => .ok none
  | .string text =>
    if trim text = "" then .ok none
    else
      match runtime.parseUrl (trim text) with
      | none => reject s!"{field} must be a valid URL"
      | some url =>
        if isHttp url then .ok (some url.href) else reject s!"{field} must use http or https"
  | _ => reject s!"{field} must be a string URL"

def normalizeOptionalEmail (runtime : Runtime) (value : JsValue) (field : String) :
    Checked (Option String) := do
  match ← normalizeNullableShortString value field 200 with
  | none => return none
  | some normalized =>
    if isEmail normalized then return some (runtime.toLowerCase normalized)
    else reject s!"{field} must be a valid email"

def normalizeOptionalPhone (value : JsValue) (field : String) : Checked (Option String) := do
  match ← normalizeNullableShortString value field 40 with
  | none => return none
  | some normalized =>
    if isPhone normalized then return some normalized
    else reject s!"{field} must be a valid phone number"

def normalizeColor (value : JsValue) (field : String) : Checked String :=
  match value with
  | .string text =>
    if isHexColor (trim text) then .ok (toUpperCase (trim text))
    else reject s!"{field} must be a hex color like #14C78B"
  | _ => reject s!"{field} must be a color string"

def normalizeNullableColor (value : JsValue) (field : String) : Checked (Option String) :=
  match value with
  | .undefined | .null => .ok none
  | value => (normalizeColor value field).map some

def normalizeInteger (value : JsValue) (field : String) : Checked Int :=
  let parsed :=
    match value with
    | .number value => value.toColumn
    | .string text => parseInt text
    | _ => none
  match parsed with
  | some parsed => .ok parsed
  | none => reject s!"{field} must be an integer"

def normalizeIntegerInRange (value : JsValue) (field : String) (min max : Int) : Checked Int := do
  let normalized ← normalizeInteger value field
  if normalized < min || max < normalized then
    reject s!"{field} must be between {min} and {max}"
  else return normalized

def normalizeFontFamily (value : JsValue) : Checked WhiteLabelFontFamily :=
  match value with
  | .string text =>
    match brandingFontOptions.find? fun font => font.text = trim text with
    | some font => .ok font
    | none =>
      reject ("theme.fontFamily must be one of: " ++
        join ", " (brandingFontOptions.map WhiteLabelFontFamily.text))
  | _ => reject "theme.fontFamily must be a string"

def normalizeDomain (runtime : Runtime) (value : JsValue) : Checked (Option String) :=
  match value with
  | .undefined | .null => .ok none
  | .string text =>
    let trimmed := runtime.toLowerCase (trim text)
    if trimmed = "" then .ok none
    -- `://` has a slash
    else if trimmed.toList.contains '/' then
      reject "domain.primaryDomain must be a host without protocol or path"
    else if isHost trimmed then .ok (some trimmed)
    else reject "domain.primaryDomain is invalid"
  | _ => reject "domain.primaryDomain must be a string"

def normalizeOrigin (runtime : Runtime) (value : String) : Checked String :=
  if trim value = "" then reject "domain.allowedOrigins entries cannot be empty"
  else
    match runtime.parseUrl (trim value) with
    | none => reject ("domain.allowedOrigins entry \"" ++ value ++ "\" is not a valid URL")
    | some url =>
      if isHttp url then .ok (runtime.toLowerCase (url.protocol ++ "//" ++ url.host))
      else reject ("domain.allowedOrigins entry \"" ++ value ++ "\" must use http or https")

/-- The entries that remain, each once, after those that are `normalized` already. -/
def distinctOrigins (runtime : Runtime) (field : String) (allowDropInvalid : Bool)
    (normalized : List String) : List JsValue → Checked (List String)
  | [] => .ok normalized
  | .string entry :: entries =>
    match normalizeOrigin runtime entry with
    | .ok origin =>
      distinctOrigins runtime field allowDropInvalid
        (if origin ∈ normalized then normalized else normalized ++ [origin]) entries
    | .error error =>
      if allowDropInvalid then
        distinctOrigins runtime field allowDropInvalid normalized entries
      else .error error
  | _ :: entries =>
    if allowDropInvalid then distinctOrigins runtime field allowDropInvalid normalized entries
    else reject s!"{field} must contain only origin strings"

def maxAllowedOrigins : Nat :=
  20

def normalizeOrigins (runtime : Runtime) (value : JsValue) (field : String)
    (allowDropInvalid : Bool) : Checked (List String) :=
  match value with
  | .array entries => do
    let normalized ← distinctOrigins runtime field allowDropInvalid [] entries
    if maxAllowedOrigins < normalized.length then
      reject s!"{field} may contain at most {maxAllowedOrigins} origins"
    else return normalized
  | _ => reject s!"{field} must be an array"

def normalizeNullableTimestamp (runtime : Runtime) (value : JsValue) (field : String) :
    Checked (Option String) :=
  match value with
  | .undefined | .null => .ok none
  | .string text =>
    match runtime.parseDate text with
    | some time => .ok (some (runtime.toISOString time))
    | none => reject s!"{field} must be a valid ISO timestamp"
  | _ => reject s!"{field} must be an ISO timestamp"

end Fields

def normalizeConfig (runtime : Runtime) (rawConfig : JsValue) (fallback : WhiteLabelConfigV1)
    (lastEditedBy lastEditedAtIso : Option String) : Checked WhiteLabelConfigV1 := do
  let root := ensureRecord rawConfig
  let schemaVersion ←
    match root "schemaVersion" with
    | .undefined => pure whiteLabelSchemaVersion
    | value => normalizeInteger value "schemaVersion"
  if schemaVersion ≠ whiteLabelSchemaVersion then
    reject s!"Unsupported branding schema version {schemaVersion}"
  let branding := ensureRecord (root "branding")
  let theme := ensureRecord (root "theme")
  let legal := ensureRecord (root "legal")
  let support := ensureRecord (root "support")
  let domain := ensureRecord (root "domain")
  let metadata := ensureRecord (root "metadata")
  let appName ← normalizeRequiredString
    (given branding "appName" (.string fallback.branding.appName)) "branding.appName" 120
  let shortName ← normalizeRequiredString
    (given branding "shortName" (.string fallback.branding.shortName)) "branding.shortName" 48
  let primaryColor ← normalizeColor
    (given theme "primaryColor" (.string fallback.theme.primaryColor)) "theme.primaryColor"
  let accentColor ← normalizeNullableColor
    (given theme "accentColor" (nullable fallback.theme.accentColor)) "theme.accentColor"
  let borderRadiusPx ← normalizeIntegerInRange
    (given theme "borderRadiusPx" (.number (.ofInt fallback.theme.borderRadiusPx)))
    "theme.borderRadiusPx" 0 32
  let fontFamily ← normalizeFontFamily
    (given theme "fontFamily" (.string fallback.theme.fontFamily.text))
  let primaryDomain ← normalizeDomain runtime
    (given domain "primaryDomain" (nullable fallback.domain.primaryDomain))
  let allowedOrigins ← normalizeOrigins runtime
    (given domain "allowedOrigins" (.array (fallback.domain.allowedOrigins.map .string)))
    "domain.allowedOrigins" false
  let lastEditedBy ←
    match orText lastEditedBy none with
    | some editor => pure (some editor)
    | none =>
      normalizeNullableShortString
        (given metadata "lastEditedBy" (nullable fallback.metadata.lastEditedBy))
        "metadata.lastEditedBy" 120
  let lastEditedAt ←
    match orText lastEditedAtIso none with
    | some time => pure (some time)
    | none =>
      normalizeNullableTimestamp runtime
        (given metadata "lastEditedAt" (nullable fallback.metadata.lastEditedAt))
        "metadata.lastEditedAt"
  let logoUrl ← normalizeOptionalUrl runtime
    (given branding "logoUrl" (nullable fallback.branding.logoUrl)) "branding.logoUrl"
  let logoIconUrl ← normalizeOptionalUrl runtime
    (given branding "logoIconUrl" (nullable fallback.branding.logoIconUrl)) "branding.logoIconUrl"
  let faviconUrl ← normalizeOptionalUrl runtime
    (given branding "faviconUrl" (nullable fallback.branding.faviconUrl)) "branding.faviconUrl"
  let termsUrl ← normalizeOptionalUrl runtime
    (given legal "termsUrl" (nullable fallback.legal.termsUrl)) "legal.termsUrl"
  let privacyUrl ← normalizeOptionalUrl runtime
    (given legal "privacyUrl" (nullable fallback.legal.privacyUrl)) "legal.privacyUrl"
  let supportUrl ← normalizeOptionalUrl runtime
    (given legal "supportUrl" (nullable fallback.legal.supportUrl)) "legal.supportUrl"
  let email ← normalizeOptionalEmail runtime
    (given support "email" (nullable fallback.support.email)) "support.email"
  let phone ← normalizeOptionalPhone
    (given support "phone" (nullable fallback.support.phone)) "support.phone"
  return {
    branding := { appName, shortName, logoUrl, logoIconUrl, faviconUrl }
    theme := { primaryColor, accentColor, borderRadiusPx, fontFamily }
    legal := { termsUrl, privacyUrl, supportUrl }
    support := { email, phone }
    domain := { primaryDomain, allowedOrigins }
    metadata := { lastEditedBy, lastEditedAt } }

def buildEvzoneDefaultConfig : WhiteLabelConfigV1 where
  branding :=
    { appName := "EVzone CPO Central"
      shortName := "EVzone"
      logoUrl := none
      logoIconUrl := none
      faviconUrl := none }
  theme :=
    { primaryColor := "#14C78B"
      accentColor := some "#0EA672"
      borderRadiusPx := 8
      fontFamily := .inter }
  legal := { termsUrl := none, privacyUrl := none, supportUrl := none }
  support := { email := none, phone := none }
  domain := { primaryDomain := none, allowedOrigins := [] }
  metadata := { lastEditedBy := none, lastEditedAt := none }

theorem normalizeConfig_default (runtime : Runtime) (fallback : WhiteLabelConfigV1) :
    normalizeConfig runtime buildEvzoneDefaultConfig.toJson fallback none none =
      .ok buildEvzoneDefaultConfig :=
  rfl

end Csms.Branding
