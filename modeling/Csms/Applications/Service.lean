import Csms.Applications.Store
import Csms.Billing.Requests

/-!
# Tenant onboarding

`ApplicationsService` with its controller, and what it uses of `CommerceService`,
`TenantProvisioningService` and `TenantRbacService`, as requests against the shared
database.  Each statement is a step of its own: nothing makes the steps of an operation
one transaction.
-/

namespace Csms.Applications

open Database Js
open Billing (Call CommerceException PaymentIntent PaymentSession orThrow)

/-- What `createPaymentIntent` of `CommerceService` is asked for. -/
structure CreatePaymentIntentDto where
  amount : JsNumber
  (currency paymentMethodId idempotencyKey : Option String)
  metadata : Option JsRecord

inductive OnboardingQuery where
  | billing (query : Billing.Query)
  | superAdminAssignment (userId : String)
  | userRole (userId : String)
  | application (id : String)
  /-- The second read of `findByIdOrThrow` for an update. -/
  | applicationId (id : String)
  | activeApplication (applicantId : String)
  | site (id : String)
  | activePricing (tierCode : String)
  | organizationBySubdomain (subdomain : String) (ignored : Option String)
  | organizationByDomain (domain : String) (ignored : Option String)
  /-- The lookup by idempotency key, for a payment that a user wants to make. -/
  | paymentIntentFor (userId : String) (dto : CreatePaymentIntentDto) (idempotencyKey : String)

abbrev OnboardingRequest (α : Type) :=
  Request Store OnboardingQuery OnboardingWrite OnboardingWrite.Result CommerceException α

/-- A statement; when it fails, the request fails. -/
def execute (write : OnboardingWrite) : OnboardingRequest write.Result :=
  Request.commit write .internal

/-- A request of the wallet and payment services. -/
def commerce {α : Type} (party : Party) (request : Billing.Commerce α) : OnboardingRequest α :=
  request.onPart Store.billing .billing (.billing party) fun _ result => result

namespace Store

variable (store : Store)

def isSuperAdmin (userId : String) : Bool :=
  trim userId ≠ "" ∧
    (trim userId ∈ store.superAdminAssignments ∨ trim userId ∈ store.superAdminRoles)

def activeApplication (applicantId : String) : Option TenantApplication :=
  store.onboarding.applications.rows.find? fun row =>
    row.applicantId = applicantId && row.onboardingStage.isNonTerminal

def activePricing (tierCode : String) : Option PlatformTierPricingVersion :=
  newestOf PlatformTierPricingVersion.version
    (store.pricing.filter fun pricing => pricing.tierCode = tierCode && pricing.status = "ACTIVE")

/-- An organization, other than the ignored one, with a text in a column that is compared
without regard to case. -/
def organizationWith (column : Organization → Option String) (text : String)
    (ignored : Option String) : Option Organization :=
  store.onboarding.organizations.rows.find? fun organization =>
    (column organization).map toLowerCase = some (toLowerCase text) &&
      ignored ≠ some organization.id

def paymentIntentOfKey (idempotencyKey : String) : Option PaymentIntent :=
  store.billing.paymentIntents.rows.find? fun intent => intent.idempotencyKey = idempotencyKey

end Store

def isPlatformSuperAdmin (userId : String) : OnboardingRequest Bool :=
  if trim userId = "" then pure false
  else do
    let isAssigned ← Request.read (.superAdminAssignment (trim userId)) fun store =>
      decide (trim userId ∈ store.superAdminAssignments)
    let isSuperAdmin ← Request.read (.userRole (trim userId)) fun store =>
      decide (trim userId ∈ store.superAdminRoles)
    return isAssigned || isSuperAdmin

def findByIdOrThrow (id : String) : OnboardingRequest TenantApplication := do
  let found ← Request.read (.application id) fun store => store.application? id
  Request.ofExcept (orThrow found (.notFound "Tenant application not found"))

/-- `findByIdOrThrow` with `forUpdate`, which reads the row a second time. -/
def findByIdForUpdate (id : String) : OnboardingRequest TenantApplication := do
  let application ← findByIdOrThrow id
  let _ ← Request.read (.applicationId id) fun store => (store.application? id).isSome
  return application

def assertApplicantOwnership (application : TenantApplication) (applicantId : String) :
    Except CommerceException Unit :=
  if application.applicantId = applicantId then .ok ()
  else .error (.forbidden "You do not have access to this tenant application")

def findOwn (id applicantId : String) : OnboardingRequest TenantApplication := do
  let current ← findByIdOrThrow id
  Request.ofExcept (assertApplicantOwnership current applicantId)
  return current

/-- The check for one of the two columns; `ignored` is an organization that may have it. -/
def assertFree (query : String → Option String → OnboardingQuery)
    (column : Organization → Option String) (name : String) (text ignored : Option String) :
    OnboardingRequest Unit :=
  match normalizeOptionalString text with
  | none => pure ()
  | some text => do
    let existing ← Request.read (query text (orText ignored none)) fun store =>
      store.organizationWith column text (orText ignored none)
    Request.ofExcept
      (if existing.isSome then .error (.badRequest s!"{name} \"{text}\" is already in use")
      else .ok ())

def assertDomainAvailability (subdomain domain ignoreOrganizationId : Option String) :
    OnboardingRequest Unit := do
  assertFree .organizationBySubdomain Organization.tenantSubdomain "Subdomain" subdomain
    ignoreOrganizationId
  assertFree .organizationByDomain Organization.primaryDomain "Domain" domain ignoreOrganizationId

def assertSite (siteId : Option String) : OnboardingRequest Unit :=
  match orText siteId none with
  | none => pure ()
  | some siteId => do
    let found ← Request.read (.site siteId) fun store => decide (siteId ∈ store.sites)
    Request.ofExcept (if found then .ok () else .error (.notFound "Site not found"))

/-- A stage in which the operation is refused, unless it `isAllowed`. -/
def assertStage (isAllowed : TenantOnboardingStage → Bool) (stage : TenantOnboardingStage)
    (refusal : String) : Except CommerceException Unit :=
  if isAllowed stage then .ok () else .error (.badRequest s!"{refusal} \"{stage.text}\"")

/-- `getPaymentIntent` of `CommerceService`. -/
def getPaymentIntent (call : Call) (id : String) : Billing.Commerce (Option PaymentIntent) := do
  let found ← Billing.findPaymentIntent id
  match found with
  | none => return none
  | some intent =>
    Request.ofExcept (Billing.assertIntentInScope call intent)
    return some intent

/-- The payment intent that `createPaymentIntent` of `CommerceService` inserts; there is a
session of a provider if payments are orchestrated. -/
def pendingIntent (call : Call) (userId : String) (wallet : Billing.Wallet)
    (paymentMethodId : Option String) (amount : ℚ≥0) (currency idempotencyKey : String)
    (metadata : Option JsRecord) (session : Option PaymentSession) : PaymentIntent where
  id := call.paymentIntentId
  userId := some userId
  organizationId := wallet.organizationId
  walletId := some wallet.id
  paymentMethodId := paymentMethodId
  amount := amount
  currency := currency
  status := .ongoing .pending
  provider := session.map PaymentSession.provider
  providerPaymentId := session.map PaymentSession.providerPaymentId
  providerReference := session.bind PaymentSession.providerReference
  idempotencyKey := idempotencyKey
  reconciliationState := .reconciling
  settledAt := none
  metadata := metadata
  createdAt := call.createdAt 0

/-- The session with a provider; `payment` is what payment orchestration makes of it. -/
def orchestrate (call : Call) (userId : String)
    (payment : Except CommerceException PaymentSession) :
    OnboardingRequest (Option PaymentSession) :=
  if Billing.isPaymentOrchestrationEnabled call then do
    let _ ← commerce (.user userId) (Billing.resolveUserForScope call userId)
    let session ← Request.ofExcept payment
    return some session
  else pure none

/-- `createPaymentIntent` of `CommerceService`. -/
def commerceCreatePaymentIntent (call : Call) (userId : String) (dto : CreatePaymentIntentDto)
    (payment : Except CommerceException PaymentSession) : OnboardingRequest PaymentIntent := do
  let wallet ← commerce (.user userId) (Billing.ensureWallet call call.walletId userId dto.currency)
  Request.ofExcept (Billing.assertWalletUnlocked wallet)
  let paymentMethodId ←
    commerce (.user userId) (Billing.loadPaymentMethodId userId dto.paymentMethodId)
  let idempotencyKey := Billing.normalizeIdempotencyKey dto.idempotencyKey call.keyUuid
  let existing ← Request.read (.paymentIntentFor userId dto idempotencyKey) fun store =>
    store.paymentIntentOfKey idempotencyKey
  match existing with
  | some intent => return intent
  | none =>
    let amount ← Request.ofExcept (Billing.normalizeAmount dto.amount "amount")
    let currency ← Request.ofExcept (Billing.normalizeCurrencyCode dto.currency wallet.currency)
    let session ← orchestrate call userId payment
    execute (.createPaymentIntent
      (pendingIntent call userId wallet paymentMethodId amount currency idempotencyKey
        dto.metadata session))

/-- What a request is answered with. -/
inductive OnboardingAnswer where
  | application (row : TenantApplication)
  | payment (row : TenantApplication) (intent : PaymentIntent)
  | billing (answer : Billing.BillingAnswer)

/-- The row that `create` inserts. -/
def newApplication (call : Call) (applicantId : String) (dto : CreateApplicationDto) :
    TenantApplication where
  id := call.uuid 7
  applicantId := applicantId
  tenantType := dto.tenantType.getD .company
  cpoType := dto.cpoType.getD .charge
  organizationName := trim dto.organizationName
  siteId := normalizeOptionalString dto.siteId
  applicantPreferredSubdomain := normalizeOptionalString dto.applicantPreferredSubdomain
  applicantPreferredDomain := normalizeOptionalString dto.applicantPreferredDomain
  confirmedSubdomain := none
  confirmedDomain := none
  status := stageToLegacyStatus .submitted
  onboardingStage := .submitted
  selectedTierCode := none
  selectedPricingVersion := none
  selectedBillingCycle := none
  pricingSnapshot := none
  tierConfirmedAt := none
  paymentIntentId := none
  paymentStatus := none
  paymentSettledAt := none
  enterpriseQuoteStatus := none
  enterpriseQuoteReference := none
  enterpriseContractSignedAt := none
  provisionedOrganizationId := none
  provisionedAt := none
  reviewerCanonicalRoleKey := none
  approvedAt := none
  rejectedAt := none
  activatedBy := none
  reviewedBy := none
  reviewedAt := none
  approvalNotes := none
  responseMessage := none
  completedAt := none

def create (call : Call) (applicantId : String) (dto : CreateApplicationDto) :
    OnboardingRequest TenantApplication := do
  let activeExisting ← Request.read (.activeApplication applicantId) fun store =>
    store.activeApplication applicantId
  Request.ofExcept
    (if activeExisting.isSome then
      .error (.badRequest "You already have an active onboarding application")
    else .ok ())
  assertSite dto.siteId
  execute (.createApplication (newApplication call applicantId dto))

def updateOwn (id applicantId : String) (dto : UpdateOwnApplicationDto) :
    OnboardingRequest TenantApplication := do
  let current ← findOwn id applicantId
  Request.ofExcept (assertStage TenantOnboardingStage.isEditable current.onboardingStage
    "Application cannot be updated from stage")
  assertSite dto.siteId
  execute (.updateApplication current (.updateOwn dto))

/-- The role a reviewer names must be one for tenants. -/
def reviewedRole (canonicalRoleKey current : Option String) :
    Except CommerceException (Option String) :=
  match orText canonicalRoleKey none with
  | some roleKey => (ensureTenantScopedRole roleKey).map some
  | none => .ok (orText current none)

def reviewChange (call : Call) (reviewerId : String) (dto : ReviewApplicationDto)
    (current : TenantApplication) : OnboardingRequest ApplicationChange :=
  match dto.action with
  | .underReview => pure (.startReview reviewerId dto.notes call.now)
  | .reject =>
    match normalizeOptionalString (orText dto.rejectionReason dto.notes) with
    | none => .throw (.badRequest "Rejection reason is required")
    | some rejectionReason => pure (.reject reviewerId dto.notes rejectionReason call.now)
  | .approve => do
    let canonicalRoleKey ← Request.ofExcept
      (reviewedRole dto.canonicalRoleKey current.reviewerCanonicalRoleKey)
    let confirmedSubdomain :=
      normalizeOptionalString (orText dto.confirmedSubdomain current.confirmedSubdomain)
    let confirmedDomain :=
      normalizeOptionalString (orText dto.confirmedDomain current.confirmedDomain)
    assertDomainAvailability confirmedSubdomain confirmedDomain current.provisionedOrganizationId
    return .approve reviewerId dto.notes canonicalRoleKey confirmedSubdomain confirmedDomain
      call.now

def review (call : Call) (id reviewerId : String) (dto : ReviewApplicationDto) :
    OnboardingRequest TenantApplication := do
  let current ← findByIdOrThrow id
  Request.ofExcept
    (if current.onboardingStage = .completed then
      .error (.badRequest "Completed applications cannot be reviewed")
    else .ok ())
  Request.ofExcept (assertStage TenantOnboardingStage.isReviewable current.onboardingStage
    "Application cannot be reviewed from stage")
  let change ← reviewChange call reviewerId dto current
  execute (.updateApplication current change)

def confirmTier (call : Call) (id applicantId : String) (dto : ConfirmTierSelectionDto) :
    OnboardingRequest TenantApplication := do
  let current ← findOwn id applicantId
  Request.ofExcept (assertStage (· = .approvedPendingTier) current.onboardingStage
    "Tier selection is not allowed in stage")
  let tierCode := toUpperCase (trim dto.tierCode)
  let found ← Request.read (.activePricing tierCode) fun store => store.activePricing tierCode
  let pricing ← Request.ofExcept
    (orThrow found (.notFound s!"No active pricing found for tier \"{tierCode}\""))
  let whiteLabelRequested := dto.requestWhiteLabel.getD false
  Request.ofExcept
    (assertPricingAvailable pricing tierCode current.tenantType whiteLabelRequested)
  let snapshot ← Request.ofExcept
    (pricingSnapshot pricing tierCode current.cpoType dto.billingCycle whiteLabelRequested)
  execute (.updateApplication current (.confirmTier tierCode dto.billingCycle snapshot call.now))

/-- The snapshot that the stored JSON is read as. -/
def TenantApplication.parsedSnapshot (application : TenantApplication) : Option PricingSnapshot :=
  parsePricingSnapshot (application.pricingSnapshot.map PricingSnapshot.toJson)

/-- The amount that is due now, if the price has one. -/
def payable (application : TenantApplication) : Except CommerceException (PricingSnapshot × ℚ) :=
  let refusal := CommerceException.badRequest "Payment is not available for this tier selection"
  match application.parsedSnapshot with
  | none => .error refusal
  | some snapshot =>
    if snapshot.isCustomPricing then .error refusal
    else
      match snapshot.dueNowAmount with
      | none => .error refusal
      | some amount => .ok (snapshot, amount)

/-- The payment intent that is linked already, if it can still be paid. -/
def linkedIntent (call : Call) (current : TenantApplication) :
    OnboardingRequest (Option PaymentIntent) :=
  match orText current.paymentIntentId none with
  | none => pure none
  | some intentId => do
    let existing ← commerce (.user current.applicantId) (getPaymentIntent call intentId)
    return existing.filter fun intent =>
      intent.status ≠ .final .failed ∧ intent.status ≠ .final .canceled ∧
        intent.status ≠ .final .expired

/-- What `createPaymentIntent` asks of `CommerceService`. -/
def intentDto (current : TenantApplication) (snapshot : PricingSnapshot) (amount : ℚ)
    (dto : CreateApplicationPaymentIntentDto) : CreatePaymentIntentDto where
  amount := .finite amount
  currency := some snapshot.currency
  paymentMethodId := none
  idempotencyKey :=
    orText dto.idempotencyKey
      (some s!"tenant-onboarding-{current.id}-{snapshot.pricingVersion}")
  metadata :=
    some (((JsRecord.empty.with "tenantApplicationId" (.string current.id)).with "tierCode"
      (.string snapshot.tierCode)).with "billingCycle"
        (jsonOptional (snapshot.billingCycle.map .string)))

def createPaymentIntent (call : Call) (id applicantId : String)
    (dto : CreateApplicationPaymentIntentDto) (payment : Except CommerceException PaymentSession) :
    OnboardingRequest (TenantApplication × PaymentIntent) := do
  let current ← findOwn id applicantId
  Request.ofExcept (assertStage (· = .tierConfirmedPendingPayment) current.onboardingStage
    "Payment intent creation is not allowed in stage")
  let (snapshot, amount) ← Request.ofExcept (payable current)
  let linked ← linkedIntent call current
  match linked with
  | some existingIntent => return (current, existingIntent)
  | none =>
    let intent ← commerceCreatePaymentIntent call current.applicantId
      (intentDto current snapshot amount dto) payment
    let updated ← (execute (.updateApplication current
      (.createPaymentIntent intent.id intent.status call.now)) :
        OnboardingRequest TenantApplication)
    return (updated, intent)

/-- `reconcilePaymentIntent` answers with the payment intent. -/
def reconciled : Billing.BillingAnswer → Except CommerceException PaymentIntent
  | .paymentIntent intent => .ok intent
  | _ => .error .internal

/-- The payment intent as `syncPaymentStatus` leaves it. -/
def syncedIntent (call : Call) (intentId : String) (dto : SyncApplicationPaymentDto) :
    Billing.Commerce PaymentIntent :=
  match orText dto.status none with
  | some status => do
    let answer ← Billing.reconcilePaymentIntent call intentId
      { status
        markSettled := dto.markSettled
        providerReference := dto.providerReference
        note := dto.note }
    Request.ofExcept (reconciled answer)
  | none => do
    let found ← getPaymentIntent call intentId
    Request.ofExcept (orThrow found (.notFound "Payment intent not found"))

/-- `party` is who makes the request, which the service is not told. -/
def syncPaymentStatus (call : Call) (party : Party) (id applicantId : String)
    (dto : SyncApplicationPaymentDto) : OnboardingRequest (TenantApplication × PaymentIntent) := do
  let current ← findOwn id applicantId
  let intentId ← Request.ofExcept
    (orThrow (orText dto.paymentIntentId (orText current.paymentIntentId none))
      (.badRequest "No payment intent is linked to this application"))
  let intent ← commerce party (syncedIntent call intentId dto)
  let updated ← (execute (.updateApplication current
    (.syncPaymentStatus intent.id intent.status call.now)) : OnboardingRequest TenantApplication)
  return (updated, intent)

def acceptEnterpriseQuote (call : Call) (id applicantId : String)
    (dto : AcceptEnterpriseQuoteDto) : OnboardingRequest TenantApplication := do
  let current ← findOwn id applicantId
  Request.ofExcept (assertStage (· = .quotePending) current.onboardingStage
    "Quote acceptance is not allowed in stage")
  execute (.updateApplication current
    (.acceptEnterpriseQuote dto.quoteReference dto.note call.now))

/-- The organization that `createTenant` inserts for an application. -/
def newOrganization (call : Call) (current : TenantApplication) (tierCode : String)
    (tenantTier : TenantTier) (confirmedSubdomain confirmedDomain : Option String) :
    Organization where
  id := call.uuid 8
  name := trim current.organizationName
  type := current.tenantType.text
  tenantSubdomain := confirmedSubdomain
  tenantTier := tenantTier
  tenantRoutingEnabled := tenantTier ≠ .shared
  primaryDomain := confirmedDomain
  whiteLabelConfig :=
    if current.parsedSnapshot.any PricingSnapshot.whiteLabelRequested then
      some ⟨"tenant_application", tierCode⟩
    else none
  billingPlanCode := normalizeOptionalString (some tierCode)
  billingStatus :=
    if current.onboardingStage = .paymentConfirmedPendingActivation then some "ACTIVE"
    else some "CONTRACT_ACCEPTED"

/-- The role under which memberships are stored in the control plane. -/
def membershipRole (roleKey : String) : Except CommerceException String :=
  orThrow (resolveStorageRole roleKey) (.badRequest s!"Invalid canonical role key \"{roleKey}\"")

/-- `assignMembership` of `TenantRbacService`, without a custom role. -/
def assignMembership (organizationId userId roleKey actorId : String) :
    OnboardingRequest Unit := do
  let role ← Request.ofExcept (membershipRole roleKey)
  let _ ← execute (.upsertOrganizationMembership
    { userId, organizationId, role, canonicalRoleKey := roleKey, invitedBy := actorId })
  let _ ← execute (.upsertTenantMembership
    { userId, organizationId, roleKey, createdBy := actorId, updatedBy := actorId })
  return ()

/-- The writes of `activate` in their order. -/
def provision (call : Call) (reviewerId : String) (current : TenantApplication)
    (organization : Organization) (canonicalRoleKey : String)
    (confirmedSubdomain confirmedDomain : Option String) :
    OnboardingRequest TenantApplication := do
  let created ← (execute (.createOrganization current organization) :
    OnboardingRequest Organization)
  assignMembership created.id current.applicantId canonicalRoleKey reviewerId
  let _ ← execute (.updateUser current.applicantId created.id)
  execute (.updateApplication current
    (.activate created.id reviewerId canonicalRoleKey confirmedSubdomain confirmedDomain call.now))

def activate (call : Call) (id reviewerId : String) (dto : ActivateApplicationDto) :
    OnboardingRequest TenantApplication := do
  let current ← findByIdForUpdate id
  Request.ofExcept (assertStage TenantOnboardingStage.isPendingActivation current.onboardingStage
    "Activation is not allowed in stage")
  let tierCode ← Request.ofExcept
    (orThrow (orText current.selectedTierCode none)
      (.badRequest "Tier must be selected before activation"))
  let canonicalRoleKey ← Request.ofExcept
    (ensureTenantScopedRole
      ((orText dto.canonicalRoleKey (orText current.reviewerCanonicalRoleKey none)).getD
        "TENANT_ADMIN"))
  let confirmedSubdomain := normalizeOptionalString
    (orText dto.confirmedSubdomain
      (orText current.confirmedSubdomain current.applicantPreferredSubdomain))
  let confirmedDomain := normalizeOptionalString
    (orText dto.confirmedDomain (orText current.confirmedDomain current.applicantPreferredDomain))
  assertDomainAvailability confirmedSubdomain confirmedDomain current.provisionedOrganizationId
  let tenantTier ← Request.ofExcept (toTierRoutingModel tierCode)
  provision call reviewerId current
    (newOrganization call current tierCode tenantTier confirmedSubdomain confirmedDomain)
    canonicalRoleKey confirmedSubdomain confirmedDomain

def assertSuperAdmin (userId : String) : OnboardingRequest Unit := do
  let isSuperAdmin ← isPlatformSuperAdmin userId
  Request.ofExcept
    (if isSuperAdmin then .ok ()
    else .error (.forbidden "Only platform super admins can perform this action"))

/-- For whom a payment is synchronised: a super admin acts for the applicant. -/
def resolvePaymentSyncActor (id userId : String) : OnboardingRequest String := do
  let isSuperAdmin ← isPlatformSuperAdmin userId
  if isSuperAdmin then do
    let application ← findByIdOrThrow id
    return application.applicantId
  else pure userId

/-- The requests, with the id of the user who makes each.  Other requests of billing run
next to those of onboarding. -/
inductive OnboardingAction where
  | create (call : Call) (userId : String) (dto : CreateApplicationDto)
  | updateOwn (userId id : String) (dto : UpdateOwnApplicationDto)
  | review (call : Call) (userId id : String) (dto : ReviewApplicationDto)
  | confirmTier (call : Call) (userId id : String) (dto : ConfirmTierSelectionDto)
  | createPaymentIntent (call : Call) (userId id : String)
      (dto : CreateApplicationPaymentIntentDto)
      (payment : Except CommerceException PaymentSession)
  | syncPaymentIntent (call : Call) (userId id : String) (dto : SyncApplicationPaymentDto)
  | acceptEnterpriseQuote (call : Call) (userId id : String) (dto : AcceptEnterpriseQuoteDto)
  | activate (call : Call) (userId id : String) (dto : ActivateApplicationDto)
  | billing (userId : String) (request : Billing.BillingRequest)

/-- Webhooks come from providers, the other requests from users. -/
def partyOf (userId : String) : Billing.BillingRequest → Party
  | .handleWebhook .. => .provider
  | _ => .user userId

def OnboardingAction.program (runtime : Billing.Webhooks.Runtime) :
    OnboardingAction → OnboardingRequest OnboardingAnswer
  | .create call userId dto => do
    let created ← Applications.create call userId dto
    return .application created
  | .updateOwn userId id dto => do
    let updated ← Applications.updateOwn id userId dto
    return .application updated
  | .review call userId id dto => do
    assertSuperAdmin userId
    let updated ← Applications.review call id userId dto
    return .application updated
  | .confirmTier call userId id dto => do
    let updated ← Applications.confirmTier call id userId dto
    return .application updated
  | .createPaymentIntent call userId id dto payment => do
    let (application, intent) ← Applications.createPaymentIntent call id userId dto payment
    return .payment application intent
  | .syncPaymentIntent call userId id dto => do
    let applicantId ← resolvePaymentSyncActor id userId
    let (application, intent) ← syncPaymentStatus call (.user userId) id applicantId dto
    return .payment application intent
  | .acceptEnterpriseQuote call userId id dto => do
    let updated ← Applications.acceptEnterpriseQuote call id userId dto
    return .application updated
  | .activate call userId id dto => do
    assertSuperAdmin userId
    let updated ← Applications.activate call id userId dto
    return .application updated
  | .billing userId request => do
    let answer ← commerce (partyOf userId request) (request.program runtime)
    return .billing answer

/-- The database with the sessions of onboarding requests. -/
abbrev OnboardingState :=
  ReadCommitted Store Store.Lock OnboardingQuery OnboardingWrite OnboardingWrite.Result
    CommerceException OnboardingAction OnboardingAnswer

/-- What can be reached from a store when no request has arrived. -/
def OnboardingState.Reachable (runtime : Billing.Webhooks.Runtime)
    (conditions : Conditions Store OnboardingQuery OnboardingWrite OnboardingAction)
    (store : Store) : OnboardingState → Prop :=
  ReadCommitted.Reachable OnboardingWrite.body (OnboardingAction.program runtime) conditions
    (ReadCommitted.initial store)

namespace Sample

def runtime : Billing.Webhooks.Runtime :=
  Billing.Sample.runtime

def pricing : PlatformTierPricingVersion where
  tierCode := "T1"
  tierLabel := "Starter"
  accountTypes := []
  currency := "USD"
  isCustomPricing := false
  monthlyPrice := some 100
  annualPrice := some 1000
  setupFee := some 50
  swapMonthlyAddon := none
  swapAnnualAddon := none
  swapSetupAddon := none
  hybridMonthlyAddon := none
  hybridAnnualAddon := none
  hybridSetupAddon := none
  whiteLabelAvailable := false
  whiteLabelMonthlyAddon := none
  whiteLabelSetupFee := none
  status := "ACTIVE"
  version := 1
  effectiveFrom := none
  publishedAt := none

def store : Store where
  billing := Billing.Sample.store
  onboarding := ⟨Table.empty, Table.empty, Table.empty, Table.empty⟩
  sites := []
  pricing := [pricing]
  superAdminAssignments := ["root"]
  superAdminRoles := []

def afterFrom (store : Store)
    (conditions : Conditions Store OnboardingQuery OnboardingWrite OnboardingAction)
    (events : List (DatabaseEvent OnboardingAction)) : Option OnboardingState :=
  events.foldlM
    (ReadCommitted.next OnboardingWrite.body (OnboardingAction.program runtime) conditions)
    (ReadCommitted.initial store)

def queries (id count : Nat) : List (DatabaseEvent OnboardingAction) :=
  List.replicate count (.query id)

def writes (id : Nat) : List (DatabaseEvent OnboardingAction) :=
  [.begin id, .statement id, .commit id]

def applicationId : String :=
  "new7"

def creates (id : Nat) : List (DatabaseEvent OnboardingAction) :=
  [.arrive (.create (Billing.Sample.call "new") "ada" ⟨none, none, "Ada", none, none, none⟩)] ++
    queries id 1 ++ writes id

def reviews (id : Nat) (action : ReviewAction) : List (DatabaseEvent OnboardingAction) :=
  [.arrive (.review (Billing.Sample.call "review") "root" applicationId
    ⟨action, some "seen", none, none, none, none⟩)] ++ queries id 3 ++ writes id

def confirmsTier (id : Nat) : List (DatabaseEvent OnboardingAction) :=
  [.arrive (.confirmTier (Billing.Sample.call "tier") "ada" applicationId
    ⟨"T1", some .monthly, none⟩)] ++ queries id 2 ++ writes id

def createsPaymentIntent (id : Nat) : List (DatabaseEvent OnboardingAction) :=
  [.arrive (.createPaymentIntent (Billing.Sample.call "pay") "ada" applicationId ⟨none⟩
    (.error .internal))] ++ queries id 3 ++ writes id ++ queries id 1 ++ writes id ++ writes id

def declares (userId status : String) : List (DatabaseEvent OnboardingAction) :=
  [.arrive (.syncPaymentIntent (Billing.Sample.call "sync") userId applicationId
    ⟨none, some status, none, none, none⟩)]

def declaresSettled (id : Nat) : List (DatabaseEvent OnboardingAction) :=
  declares "ada" "SETTLED" ++ queries id 5 ++ writes id ++ writes id

end Sample

end Csms.Applications
