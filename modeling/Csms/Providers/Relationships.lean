import Csms.Auth.Roles
import Csms.Database.Keeps
import Csms.Database.Sequential
import Csms.Database.Executed
import Csms.Providers.Compliance
import Csms.Table.Keyed
import Csms.Table.MarkedOnce

/-!
# Relationships of providers and owners

Each request looks the relationship up and checks its status, and then writes it by its id.
Other requests can come in between.
-/

namespace Csms.Providers

open Auth Database Js

inductive ProviderRelationshipStatus
  | requested
  | providerAccepted
  | docsPending
  | adminApproved
  | active
  | suspended
  | terminated
deriving DecidableEq

/-- A provider and an owner organization. -/
structure Pair where
  (providerId ownerOrgId : String)
deriving DecidableEq

structure ProviderRelationship extends Pair where
  id : String
  status : ProviderRelationshipStatus
  requestedBy : Option String
  (providerRespondedAt adminApprovedAt : Option Int)
  notes : Option String
  complianceMarkets : List String
  complianceProfile : JsValue

def ProviderRelationship.isOpen (row : ProviderRelationship) : Bool :=
  row.status ≠ .terminated

/-- A row of `users`. -/
structure ProviderActor where
  id : String
  role : UserRole
  (organizationId providerId : Option String)
deriving DecidableEq

/-- What the requests read and other services write. -/
structure Surroundings where
  users : Table ProviderActor ProviderActor.id
  providers : Table SwapProvider SwapProvider.id
  documents : List ProviderDocument
  policy : Option ProviderCompliancePolicyData

structure Store extends Surroundings where
  relationships : Table ProviderRelationship ProviderRelationship.id

namespace Store

variable (store : Store)

def findOpen (pair : Pair) : Option ProviderRelationship :=
  store.relationships.rows.find? fun row => row.toPair = pair && row.isOpen

def policyData : ProviderCompliancePolicyData :=
  store.policy.getD defaultPolicy

def documentsOfProvider (providerId : String) : List ProviderDocument :=
  store.documents.filter fun document => document.providerId = some providerId

def documentsOfRelationship (relationship : ProviderRelationship) : List ProviderDocument :=
  store.documents.filter fun document =>
    document.relationshipId = some relationship.id ||
      (document.providerId = some relationship.providerId &&
        document.ownerOrgId = some relationship.ownerOrgId)

end Store

/-- What an update writes: a column is there when it is written. -/
structure RelationshipUpdate where
  status : Option ProviderRelationshipStatus
  notes : Option (Option String)
  (providerRespondedAt adminApprovedAt : Option Int)
  complianceMarkets : Option (List String)
  complianceProfile : Option JsValue

def RelationshipUpdate.apply (data : RelationshipUpdate) (row : ProviderRelationship) :
    ProviderRelationship :=
  { row with
    status := data.status.getD row.status
    notes := data.notes.getD row.notes
    providerRespondedAt := data.providerRespondedAt.or row.providerRespondedAt
    adminApprovedAt := data.adminApprovedAt.or row.adminApprovedAt
    complianceMarkets := data.complianceMarkets.getD row.complianceMarkets
    complianceProfile := data.complianceProfile.getD row.complianceProfile }

theorem RelationshipUpdate.id_apply (data : RelationshipUpdate) (row : ProviderRelationship) :
    (data.apply row).id = row.id :=
  rfl

/-- A statement, with the actor of the request and, for an update, the row that it has found and
the time. -/
inductive RelationshipWrite
  | create (actor : ProviderActor) (row : ProviderRelationship)
  | update (actor : ProviderActor) (found : ProviderRelationship) (data : RelationshipUpdate)
      (now : Int)
  /-- What other services write. -/
  | elsewhere (change : Surroundings → Surroundings)

namespace RelationshipWrite

def effect : RelationshipWrite → Store → Option (Store × Unit)
  | create _ row, store =>
    (store.relationships.insert? row).map fun relationships =>
      ({ store with relationships }, ())
  | update _ found data _, store =>
    (store.relationships.find? found.id).map fun _ =>
      ({ store with
        relationships := store.relationships.updateWhere (fun row => row.id = found.id)
          data.apply data.id_apply }, ())
  | elsewhere change, store =>
    some ({ store with toSurroundings := change store.toSurroundings }, ())

def body (write : RelationshipWrite) : Tx Store Unit Unit :=
  .atomic write.effect

theorem run_body (write : RelationshipWrite) (store : Store) :
    write.body.run store = write.effect store :=
  Tx.run_atomic _ store

theorem guarded (write : RelationshipWrite) : write.body.Guarded (fun _ : Unit => ⊥) [] :=
  Tx.guarded_atomic _

end RelationshipWrite

inductive ProviderException
  | unauthorized (message : String)
  | notFound (message : String)
  | forbidden (message : String)
  | conflict (message : String)
  | unprocessable (message : String)
  /-- An error of the database. -/
  | internal
deriving DecidableEq

def isPlatformOps (role : UserRole) : Bool :=
  role = .superAdmin || role = .evzoneAdmin || role = .evzoneOperator

def isProviderRole (role : UserRole) : Bool :=
  role = .swapProviderAdmin || role = .swapProviderOperator

def isOwnerRole (role : UserRole) : Bool :=
  role = .stationOwner || role = .stationOperator

def requirePlatformOps (actor : ProviderActor) : Except ProviderException Unit :=
  if isPlatformOps actor.role then .ok ()
  else .error (.forbidden "This action is restricted to platform operations roles")

def assertProviderScope (actor : ProviderActor) (providerId : String) :
    Except ProviderException Unit :=
  if isPlatformOps actor.role then .ok ()
  else if !isProviderRole actor.role then
    .error (.forbidden "Only platform ops or provider users can perform this action")
  else if orText actor.providerId none ≠ some providerId then
    .error (.forbidden "Requested provider is outside your authenticated scope")
  else .ok ()

def assertOwnerOrgScope (actor : ProviderActor) (ownerOrgId : String) :
    Except ProviderException Unit :=
  if isPlatformOps actor.role then .ok ()
  else if !isOwnerRole actor.role then
    .error (.forbidden "Only station owner/operator users can perform this action")
  else if orText actor.organizationId none ≠ some ownerOrgId then
    .error (.forbidden "Requested owner organization is outside your authenticated scope")
  else .ok ()

def assertRelationshipScopedAccess (actor : ProviderActor) (pair : Pair) :
    Except ProviderException Unit :=
  if isPlatformOps actor.role then .ok ()
  else if isProviderRole actor.role && actor.providerId = some pair.providerId then .ok ()
  else if isOwnerRole actor.role && actor.organizationId = some pair.ownerOrgId then .ok ()
  else .error (.forbidden "Relationship is outside your authenticated scope")

def orNotFound {α : Type} (found : Option α) (message : String) : Except ProviderException α :=
  match found with
  | some value => .ok value
  | none => .error (.notFound message)

/-- `findUniqueOrThrow`. -/
def orInternal {α : Type} (found : Option α) : Except ProviderException α :=
  match found with
  | some value => .ok value
  | none => .error .internal

def assertStatus (allowed : Bool) (message : String) : Except ProviderException Unit :=
  if allowed then .ok () else .error (.unprocessable message)

inductive RelationshipQuery
  | actor
  | provider
  | openRelationship
  | relationship
  | relationshipOfOwner
  | documents
  | policy

abbrev RelationshipRequest (α : Type) :=
  Request Store RelationshipQuery RelationshipWrite (fun _ => Unit) ProviderException α

structure CreateProviderRelationshipDto where
  (providerId ownerOrgId : String)
  notes : Option String
  complianceMarkets : Option (List String)
  complianceProfile : Option JsValue

structure UpdateComplianceProfileDto where
  complianceMarkets : Option (List String)
  complianceProfile : Option JsValue

/-- The user of the request, its time, and the id of a row that it creates. -/
structure Call where
  actorId : Option String
  now : Int
  newId : String

def getActor (userId : Option String) : RelationshipRequest ProviderActor := do
  match orText userId none with
  | none => .throw (.unauthorized "Missing authenticated user context")
  | some userId =>
    let actor ← Request.read .actor fun store => store.users.find? userId
    Request.ofExcept (orNotFound actor "Authenticated user not found")

def findRelationship (id : String) : RelationshipRequest ProviderRelationship := do
  let relationship ← Request.read .relationship fun store => store.relationships.find? id
  Request.ofExcept (orNotFound relationship "Relationship not found")

def ensureProviderApproved (providerId : String) : RelationshipRequest Unit := do
  let found ← Request.read .provider fun store => store.providers.find? providerId
  let provider ← Request.ofExcept (orNotFound found "Provider not found")
  if provider.status ≠ .approved then
    .throw (.conflict "Provider is not approved for this operation")
  else pure ()

def requestRelationship (call : Call) (data : CreateProviderRelationshipDto) :
    RelationshipRequest Unit := do
  let actor ← getActor call.actorId
  Request.ofExcept (assertOwnerOrgScope actor data.ownerOrgId)
  ensureProviderApproved data.providerId
  let existingOpen ← Request.read .openRelationship fun store =>
    store.findOpen ⟨data.providerId, data.ownerOrgId⟩
  match existingOpen with
  | some _ =>
    .throw (.conflict
      "An active or pending relationship already exists for this owner/provider pair")
  | none =>
    Request.commit (.create actor
      { providerId := data.providerId
        ownerOrgId := data.ownerOrgId
        id := call.newId
        status := .requested
        requestedBy := some actor.id
        providerRespondedAt := none
        adminApprovedAt := none
        notes := data.notes
        complianceMarkets := data.complianceMarkets.getD []
        complianceProfile := data.complianceProfile.getD .null }) .internal

def statusUpdate (status : ProviderRelationshipStatus) (notes : Option String)
    (found : ProviderRelationship) : RelationshipUpdate where
  status := some status
  notes := some (notes.or found.notes)
  providerRespondedAt := none
  adminApprovedAt := none
  complianceMarkets := none
  complianceProfile := none

def respondToRelationship (call : Call) (id : String) (accept : Bool) (notes : Option String) :
    RelationshipRequest Unit := do
  let actor ← getActor call.actorId
  let relationship ← findRelationship id
  Request.ofExcept (assertRelationshipScopedAccess actor relationship.toPair)
  Request.ofExcept (assertStatus (relationship.status = .requested)
    "Only REQUESTED relationships can be responded to")
  let nextStatus := if accept then ProviderRelationshipStatus.docsPending else .terminated
  Request.commit (.update actor relationship
    { statusUpdate nextStatus notes relationship with providerRespondedAt := some call.now }
    call.now) .internal

def updateComplianceProfile (call : Call) (id : String) (body : UpdateComplianceProfileDto) :
    RelationshipRequest Unit := do
  let actor ← getActor call.actorId
  let relationship ← findRelationship id
  Request.ofExcept (assertRelationshipScopedAccess actor relationship.toPair)
  Request.commit (.update actor relationship
    { status := none
      notes := none
      providerRespondedAt := none
      adminApprovedAt := none
      complianceMarkets := body.complianceMarkets
      complianceProfile := body.complianceProfile } call.now) .internal

def RelationshipProfile.ofRow (row : ProviderRelationship) : RelationshipProfile :=
  ⟨row.complianceMarkets, row.complianceProfile⟩

section Compliance

variable (requirements : Requirements)

def assertProviderComplianceAccess (providerId : String) (actorId : Option String) :
    RelationshipRequest Unit := do
  let actor ← getActor actorId
  if isProviderRole actor.role then Request.ofExcept (assertProviderScope actor providerId)
  else if isOwnerRole actor.role then
    match orText actor.organizationId none with
    | none => .throw (.forbidden "Authenticated owner user has no organizationId")
    | some organizationId => do
      let isRelated ← Request.read .relationshipOfOwner fun store =>
        store.relationships.rows.any fun row => row.toPair = ⟨providerId, organizationId⟩
      if isRelated then pure ()
      else .throw (.forbidden "Provider is outside your authenticated organization scope")
  else if !isPlatformOps actor.role then
    .throw (.forbidden "You do not have access to provider compliance status")
  else pure ()

/-- The blockers of `getProviderComplianceStatus`. -/
def getProviderComplianceStatus (now : Int) (providerId : String) (actorId : Option String) :
    RelationshipRequest (List String) := do
  assertProviderComplianceAccess providerId actorId
  let found ← Request.read .provider fun store => store.providers.find? providerId
  let documents ← Request.read .documents fun store => store.documentsOfProvider providerId
  let policy ← Request.read .policy Store.policyData
  let provider ← Request.ofExcept (orInternal found)
  pure (blockerReasonCodes requirements .provider now provider none documents policy)

/-- The blockers of `getRelationshipComplianceStatus`. -/
def getRelationshipComplianceStatus (now : Int) (relationshipId : String)
    (actorId : Option String) : RelationshipRequest (List String) := do
  let actor ← getActor actorId
  let row ← Request.read .relationship fun store => store.relationships.find? relationshipId
  let relationship ← Request.ofExcept (orInternal row)
  Request.ofExcept (assertRelationshipScopedAccess actor relationship.toPair)
  let found ← Request.read .provider fun store => store.providers.find? relationship.providerId
  let documents ← Request.read .documents fun store => store.documentsOfRelationship relationship
  let policy ← Request.read .policy Store.policyData
  let provider ← Request.ofExcept (orInternal found)
  pure (blockerReasonCodes requirements .stationOwner now provider
    (some (RelationshipProfile.ofRow relationship)) documents policy)

def approveRelationship (call : Call) (id : String) (notes : Option String) :
    RelationshipRequest Unit := do
  let actor ← getActor call.actorId
  Request.ofExcept (requirePlatformOps actor)
  let relationship ← findRelationship id
  Request.ofExcept (assertStatus
    (relationship.status = .docsPending || relationship.status = .adminApproved)
    "Only DOCS_PENDING or ADMIN_APPROVED relationships can be approved")
  let providerBlockers ←
    getProviderComplianceStatus requirements call.now relationship.providerId (some actor.id)
  let relationshipBlockers ←
    getRelationshipComplianceStatus requirements call.now id (some actor.id)
  let blockers := providerBlockers ++ relationshipBlockers
  if blockers ≠ [] then
    .throw (.unprocessable ("Compliance blockers prevent relationship approval: " ++
      join ", " blockers.eraseDups))
  else
    Request.commit (.update actor relationship
      { statusUpdate .active notes relationship with adminApprovedAt := some call.now }
      call.now) .internal

end Compliance

def suspendRelationship (call : Call) (id : String) (reason : Option String) :
    RelationshipRequest Unit := do
  let actor ← getActor call.actorId
  Request.ofExcept (requirePlatformOps actor)
  let relationship ← findRelationship id
  Request.ofExcept (assertStatus (relationship.status = .active)
    "Only ACTIVE relationships can be suspended")
  Request.commit (.update actor relationship (statusUpdate .suspended reason relationship)
    call.now) .internal

def terminateRelationship (call : Call) (id : String) (reason : Option String) :
    RelationshipRequest Unit := do
  let actor ← getActor call.actorId
  let relationship ← findRelationship id
  Request.ofExcept (assertRelationshipScopedAccess actor relationship.toPair)
  Request.ofExcept (assertStatus relationship.isOpen "Relationship is already terminated")
  Request.commit (.update actor relationship (statusUpdate .terminated reason relationship)
    call.now) .internal

inductive RelationshipCall
  | request (call : Call) (data : CreateProviderRelationshipDto)
  | respond (call : Call) (id : String) (accept : Bool) (notes : Option String)
  | updateProfile (call : Call) (id : String) (body : UpdateComplianceProfileDto)
  | approve (call : Call) (id : String) (notes : Option String)
  | suspend (call : Call) (id : String) (reason : Option String)
  | terminate (call : Call) (id : String) (reason : Option String)
  /-- A request of another service. -/
  | elsewhere (change : Surroundings → Surroundings)

def program (requirements : Requirements) : RelationshipCall → RelationshipRequest Unit
  | .request call data => requestRelationship call data
  | .respond call id accept notes => respondToRelationship call id accept notes
  | .updateProfile call id body => updateComplianceProfile call id body
  | .approve call id notes => approveRelationship requirements call id notes
  | .suspend call id reason => suspendRelationship call id reason
  | .terminate call id reason => terminateRelationship call id reason
  | .elsewhere change => Request.commit (.elsewhere change) .internal

/-- The requests and the database. -/
abbrev RelationshipState :=
  ReadCommitted Store Unit RelationshipQuery RelationshipWrite (fun _ => Unit) ProviderException
    RelationshipCall Unit

/-- Any requests of any actors, in any order and however they overlap. -/
abbrev RelationshipState.Reachable (requirements : Requirements) (store : Store)
    (state : RelationshipState) : Prop :=
  ReadCommitted.Reachable RelationshipWrite.body (program requirements) Conditions.none
    (ReadCommitted.initial store) state

end Csms.Providers
