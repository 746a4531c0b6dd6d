import Csms.Auth.Roles
import Csms.Branding.Config
import Csms.Commands.Core
import Csms.Database.Executed
import Csms.Table.Keyed

/-!
# Drafts and publications

The requests that save, publish and roll back the branding of a tenant.  A transaction reads before
it writes, so that each of its reads sees what is committed at that time, like a query outside of
transactions.  What it writes stays locked until its commit, and takes effect together then.
-/

namespace Csms.Branding

open Auth Database Js

structure BrandingUser where
  id : String
  role : UserRole

structure OrganizationMembership where
  (userId organizationId : String)
  status : MembershipStatus

structure TenantBrandingOrganizationRecord where
  (id name : String)
  (logoUrl tenantSubdomain primaryDomain : Option String)
  /-- `null` when it is not set. -/
  whiteLabelConfig : JsValue
  allowedOrigins : List String

inductive TenantBrandingRevisionStatus
  | draft
  | published
  | rolledBack
deriving DecidableEq

structure TenantBrandingRevision where
  (id organizationId : String)
  version : Int
  status : TenantBrandingRevisionStatus
  config : JsValue
  (publishedAt rolledBackFromVersion : Option Int)
  (createdBy updatedBy : Option String)
  (createdAt updatedAt : Int)

def TenantBrandingRevision.isDraft (row : TenantBrandingRevision) : Bool :=
  row.status = .draft

theorem TenantBrandingRevision.isDraft_eq_true_iff {row : TenantBrandingRevision} :
    row.isDraft = true ↔ row.status = .draft :=
  decide_eq_true_iff

structure Store where
  users : List BrandingUser
  memberships : List OrganizationMembership
  organizations : Table TenantBrandingOrganizationRecord TenantBrandingOrganizationRecord.id
  revisions : Table TenantBrandingRevision TenantBrandingRevision.id

namespace Store

variable (store : Store)

def isDraftOf (tenantId : String) (row : TenantBrandingRevision) : Bool :=
  row.organizationId = tenantId && row.isDraft

/-- The drafts, the one that was updated last first. -/
def draftsOf (tenantId : String) : List TenantBrandingRevision :=
  (store.revisions.rows.filter (isDraftOf tenantId)).insertionSort fun left right =>
    right.updatedAt < left.updatedAt ∨
      right.updatedAt = left.updatedAt ∧ right.createdAt ≤ left.createdAt

def latestDraft (tenantId : String) : Option TenantBrandingRevision :=
  newestOf TenantBrandingRevision.updatedAt (store.revisions.rows.filter (isDraftOf tenantId))

def latestVersion (tenantId : String) : Option Int :=
  ((store.revisions.rows.filter fun row => row.organizationId = tenantId).map
    TenantBrandingRevision.version).max?

def settledRevision (tenantId : String) (version : Int) : Option TenantBrandingRevision :=
  store.revisions.rows.find? fun row =>
    row.organizationId = tenantId && row.version = version && !row.isDraft

end Store

section Tenants

variable (runtime : Runtime)

def optionalTrimmed (value : Option String) : Option String :=
  (value.map trim).bind fun normalized => if normalized = "" then none else some normalized

def requiredTrimmed (value field : String) : Checked String :=
  if trim value = "" then reject s!"{field} is required" else .ok (trim value)

/-- `text.slice(0, limit)`, which counts UTF-16 code units. -/
def sliceTo (limit : Nat) (text : String) : String :=
  String.ofList (go limit text.toList)
where
  go (limit : Nat) : List Char → List Char
    | [] => []
    | c :: rest =>
      let units := if c.toNat < 0x10000 then 1 else 2
      if units ≤ limit then c :: go (limit - units) rest else []

def buildTenantDefaultConfig (organization : TenantBrandingOrganizationRecord) :
    Checked WhiteLabelConfigV1 := do
  let base := buildEvzoneDefaultConfig
  let tenantName := optionalTrimmed (some organization.name)
  let shortName := (tenantName.map (sliceTo 32)).getD base.branding.shortName
  let logoUrl ← normalizeOptionalUrl runtime (nullable organization.logoUrl) "logoUrl"
  let primaryDomain ← normalizeDomain runtime (nullable organization.primaryDomain)
  let allowedOrigins ← normalizeOrigins runtime
    (.array (organization.allowedOrigins.map .string)) "allowedOrigins" true
  return { base with
    branding := { base.branding with
      appName := tenantName.getD base.branding.appName
      shortName
      logoUrl }
    domain := { primaryDomain, allowedOrigins } }

def resolveActiveConfig (organization : TenantBrandingOrganizationRecord) :
    Checked WhiteLabelConfigV1 := do
  let fallback ← buildTenantDefaultConfig runtime organization
  if organization.whiteLabelConfig.isTruthy then
    match normalizeConfig runtime organization.whiteLabelConfig fallback none none with
    | .ok config => return config
    | .error _ => return fallback
  else return fallback

def normalizeVersion (value : JsNumber) : Checked Int :=
  match value.toColumn with
  | some version =>
    if version < 1 then reject "version must be a positive integer" else .ok version
  | none => reject "version must be a positive integer"

end Tenants

/-- The user of a request, its time, and the id of a row that it creates. -/
structure Call where
  actorId : String
  now : Int
  newId : String

/-- A transaction with what it has read. -/
inductive BrandingWrite
  | saveDraft (call : Call) (tenantId : String) (config : WhiteLabelConfigV1)
      (existingDrafts : List TenantBrandingRevision) (latestVersion : Option Int)
  | publishDraft (call : Call) (tenantId : String)
      (organization : TenantBrandingOrganizationRecord) (draft : TenantBrandingRevision)
  | rollback (call : Call) (tenantId : String) (organization : TenantBrandingOrganizationRecord)
      (targetRevision : TenantBrandingRevision) (version : Int) (latestVersion : Option Int)

/-- The configuration of a revision as it is published. -/
def normalizeRevision (runtime : Runtime) (call : Call)
    (organization : TenantBrandingOrganizationRecord) (revision : TenantBrandingRevision) :
    Checked WhiteLabelConfigV1 := do
  let fallback ← resolveActiveConfig runtime organization
  normalizeConfig runtime revision.config fallback (some call.actorId)
    (some (runtime.toISOString call.now))

def toOrganizationBrandingUpdate (config : WhiteLabelConfigV1)
    (organization : TenantBrandingOrganizationRecord) : TenantBrandingOrganizationRecord :=
  { organization with
    whiteLabelConfig := config.toJson
    logoUrl := config.branding.logoUrl
    primaryDomain := config.domain.primaryDomain
    allowedOrigins := config.domain.allowedOrigins }

theorem id_toOrganizationBrandingUpdate (config : WhiteLabelConfigV1)
    (organization : TenantBrandingOrganizationRecord) :
    (toOrganizationBrandingUpdate config organization).id = organization.id :=
  rfl

namespace TenantBrandingRevision

def saved (call : Call) (config : WhiteLabelConfigV1) (row : TenantBrandingRevision) :
    TenantBrandingRevision :=
  { row with config := config.toJson, updatedBy := some call.actorId, updatedAt := call.now }

theorem id_saved (call : Call) (config : WhiteLabelConfigV1) (row : TenantBrandingRevision) :
    (row.saved call config).id = row.id :=
  rfl

theorem config_saved (call : Call) (config : WhiteLabelConfigV1) (row : TenantBrandingRevision) :
    (row.saved call config).config = config.toJson :=
  rfl

def publish (call : Call) (config : WhiteLabelConfigV1) (row : TenantBrandingRevision) :
    TenantBrandingRevision :=
  { row with
    status := .published
    publishedAt := some call.now
    updatedBy := some call.actorId
    config := config.toJson
    updatedAt := call.now }

theorem id_publish (call : Call) (config : WhiteLabelConfigV1) (row : TenantBrandingRevision) :
    (row.publish call config).id = row.id :=
  rfl

theorem config_publish (call : Call) (config : WhiteLabelConfigV1) (row : TenantBrandingRevision) :
    (row.publish call config).config = config.toJson :=
  rfl

end TenantBrandingRevision

/-- The row that a transaction creates. -/
def Call.revision (call : Call) (tenantId : String) (config : WhiteLabelConfigV1)
    (latestVersion : Option Int) (status : TenantBrandingRevisionStatus)
    (publishedAt rolledBackFromVersion : Option Int) : TenantBrandingRevision where
  id := call.newId
  organizationId := tenantId
  version := latestVersion.getD 0 + 1
  status := status
  config := config.toJson
  publishedAt := publishedAt
  rolledBackFromVersion := rolledBackFromVersion
  createdBy := some call.actorId
  updatedBy := some call.actorId
  createdAt := call.now
  updatedAt := call.now

namespace Store

variable (store : Store)

def deleteRevisions (ids : List String) : Store :=
  { store with revisions := store.revisions.deleteWhere fun row => row.id ∈ ids }

/-- `none` when there is no such row. -/
def updateRevision (id : String) (change : TenantBrandingRevision → TenantBrandingRevision)
    (keeps : ∀ row, (change row).id = row.id) : Option Store :=
  (store.revisions.find? id).map fun _ =>
    { store with
      revisions := store.revisions.updateWhere (fun row => row.id = id) change keeps }

/-- `none` when the organization has a revision of that version. -/
def createRevision (row : TenantBrandingRevision) : Option Store :=
  if store.revisions.rows.any fun other =>
      other.organizationId = row.organizationId && other.version = row.version then none
  else (store.revisions.insert? row).map fun revisions => { store with revisions }

/-- `none` when there is no such row. -/
def updateOrganization (tenantId : String) (config : WhiteLabelConfigV1) : Option Store :=
  (store.organizations.find? tenantId).map fun _ =>
    { store with
      organizations := store.organizations.updateWhere (fun row => row.id = tenantId)
        (toOrganizationBrandingUpdate config) (id_toOrganizationBrandingUpdate config) }

end Store

namespace BrandingWrite

variable (runtime : Runtime)

/-- The configuration that a transaction makes active, with its tenant. -/
def activates : BrandingWrite → Option (String × WhiteLabelConfigV1)
  | saveDraft _ _ _ _ _ => none
  | publishDraft call tenantId organization draft =>
    (normalizeRevision runtime call organization draft).toOption.map (tenantId, ·)
  | rollback call tenantId organization targetRevision _ _ =>
    (normalizeRevision runtime call organization targetRevision).toOption.map (tenantId, ·)

def effect (write : BrandingWrite) (store : Store) : Option (Store × Unit) :=
  match write with
  | saveDraft call tenantId config existingDrafts latestVersion =>
    match existingDrafts with
    | activeDraft :: staleDrafts =>
      ((store.deleteRevisions (staleDrafts.map TenantBrandingRevision.id)).updateRevision
        activeDraft.id (·.saved call config) (TenantBrandingRevision.id_saved call config)).map
          (·, ())
    | [] =>
      (store.createRevision
        (call.revision tenantId config latestVersion .draft none none)).map (·, ())
  | publishDraft call tenantId organization draft =>
    match normalizeRevision runtime call organization draft with
    | .ok normalized => do
      let store ← store.updateOrganization tenantId normalized
      let store ← store.updateRevision draft.id (·.publish call normalized)
        (TenantBrandingRevision.id_publish call normalized)
      return (store, ())
    | .error _ => none
  | rollback call tenantId organization targetRevision version latestVersion =>
    match normalizeRevision runtime call organization targetRevision with
    | .ok normalized => do
      let store ← store.updateOrganization tenantId normalized
      let store ← store.createRevision (call.revision tenantId normalized latestVersion
        .rolledBack (some call.now) (some version))
      return (store, ())
    | .error _ => none

def body (write : BrandingWrite) : Tx Store Unit Unit :=
  .atomic (write.effect runtime)

theorem run_body (write : BrandingWrite) (store : Store) :
    (write.body runtime).run store = write.effect runtime store :=
  Tx.run_atomic _ store

theorem guarded (write : BrandingWrite) : (write.body runtime).Guarded (fun _ : Unit => ⊥) [] :=
  Tx.guarded_atomic _

end BrandingWrite

inductive BrandingQuery
  | user
  | membership
  | organization
  | drafts
  | draft
  | target
  | latestVersion

abbrev BrandingRequest (α : Type) :=
  Request Store BrandingQuery BrandingWrite (fun _ => Unit) BrandingException α

section Requests

variable (runtime : Runtime)

def requireOrganization (tenantId : Option String) :
    BrandingRequest TenantBrandingOrganizationRecord := do
  let found ← Request.read .organization fun store => tenantId.bind store.organizations.find?
  match found with
  | some organization => return organization
  | none => .throw (.notFound "Tenant not found")

def saveDraft (call : Call) (tenantId : String) (rawConfig : JsRecord) : BrandingRequest Unit := do
  let actorId ← Request.ofExcept (requiredTrimmed call.actorId "actorId")
  let organization ← requireOrganization (optionalTrimmed (some tenantId))
  let fallback ← Request.ofExcept (resolveActiveConfig runtime organization)
  let config ← Request.ofExcept (normalizeConfig runtime (.object rawConfig) fallback
    (some actorId) (some (runtime.toISOString call.now)))
  let existingDrafts ← Request.read .drafts fun store => store.draftsOf tenantId
  let latestVersion ← Request.read .latestVersion fun store => store.latestVersion tenantId
  Request.commit (.saveDraft { call with actorId } tenantId config existingDrafts latestVersion)
    (if existingDrafts = [] then
      .badRequest "Branding draft changed concurrently. Please retry."
    else .internal)

def publishDraft (call : Call) (tenantId : String) : BrandingRequest Unit := do
  let actorId ← Request.ofExcept (requiredTrimmed call.actorId "actorId")
  let organization ← requireOrganization (some tenantId)
  let found ← Request.read .draft fun store => store.latestDraft tenantId
  match found with
  | none => .throw (.badRequest "No draft branding configuration found to publish")
  | some draft =>
    let _ ← Request.ofExcept (normalizeRevision runtime { call with actorId } organization draft)
    Request.commit (.publishDraft { call with actorId } tenantId organization draft) .internal

def rollback (call : Call) (tenantId : String) (version : JsNumber) : BrandingRequest Unit := do
  let actorId ← Request.ofExcept (requiredTrimmed call.actorId "actorId")
  let version ← Request.ofExcept (normalizeVersion version)
  let organization ← requireOrganization (some tenantId)
  let found ← Request.read .target fun store => store.settledRevision tenantId version
  match found with
  | none => .throw (.notFound "Requested published branding version was not found")
  | some target =>
    let _ ← Request.ofExcept (normalizeRevision runtime { call with actorId } organization target)
    let latestVersion ← Request.read .latestVersion fun store => store.latestVersion tenantId
    Request.commit
      (.rollback { call with actorId } tenantId organization target version latestVersion)
      .internal

def isPlatformAdmin (role : UserRole) : Bool :=
  role = .superAdmin || role = .evzoneAdmin

def resolveTenantIdFromContext (context : Option TenantContext) : Checked String :=
  match orText (TenantContext.resolve context none) none with
  | some tenantId => .ok tenantId
  | none => reject "Active tenant context is required for branding operations"

def findUser (actorId : String) : BrandingRequest (Option BrandingUser) :=
  Request.read .user fun store => store.users.find? fun user => user.id = actorId

def assertTenantActor (actorId tenantId : String) : BrandingRequest Unit := do
  let actorId ← Request.ofExcept (requiredTrimmed actorId "actorId")
  let user ← findUser actorId
  let membership ← Request.read .membership fun store =>
    store.memberships.find? fun row => row.userId = actorId && row.organizationId = tenantId
  match user with
  | none => .throw (.forbidden "Authenticated user is not recognized")
  | some user =>
    if !isPlatformAdmin user.role &&
        membership.map OrganizationMembership.status ≠ some .active then
      .throw (.forbidden "User must be an active tenant member for branding operations")
    else return ()

def assertPlatformActor (actorId : String) : BrandingRequest Unit := do
  let actorId ← Request.ofExcept (requiredTrimmed actorId "actorId")
  let user ← findUser actorId
  if user.any fun user => isPlatformAdmin user.role then return ()
  else
    .throw (.forbidden "Platform admin role is required for cross-tenant branding operations")

inductive BrandingOperation
  | saveDraft (rawConfig : JsRecord)
  | publishDraft
  | rollback (version : JsNumber)

/-- For the tenant of the request, or by the platform for any. -/
inductive BrandingRoute
  | tenantActor (context : Option TenantContext)
  | platformActor (tenantId : String)

structure BrandingCall extends Call where
  route : BrandingRoute
  operation : BrandingOperation

def writingTenant (call : BrandingCall) : BrandingRequest String :=
  match call.route with
  | .tenantActor context => do
    let tenantId ← Request.ofExcept (resolveTenantIdFromContext context)
    assertTenantActor call.actorId tenantId
    return tenantId
  | .platformActor tenantId => do
    assertPlatformActor call.actorId
    let _ ← requireOrganization (optionalTrimmed (some tenantId))
    return tenantId

def program (call : BrandingCall) : BrandingRequest Unit := do
  let tenantId ← writingTenant call
  match call.operation with
  | .saveDraft rawConfig => saveDraft runtime call.toCall tenantId rawConfig
  | .publishDraft => publishDraft runtime call.toCall tenantId
  | .rollback version => rollback runtime call.toCall tenantId version

end Requests

/-- The requests and the database. -/
abbrev BrandingState :=
  ReadCommitted Store Unit BrandingQuery BrandingWrite (fun _ => Unit) BrandingException
    BrandingCall Unit

/-- Any requests of any tenants' actors, in any order and however they overlap. -/
abbrev BrandingState.Reachable (runtime : Runtime) (store : Store) (state : BrandingState) : Prop :=
  ReadCommitted.Reachable (BrandingWrite.body runtime) (program runtime) Conditions.none
    (ReadCommitted.initial store) state

end Csms.Branding
