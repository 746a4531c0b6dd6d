import Csms.Applications.Snapshot
import Csms.Billing.Guarded
import Csms.Database.Part
import Csms.Database.Executed

/-!
# The stored applications

The store of billing is a part of the store of tenant onboarding.  The other part has the
applications and what is provisioned for them.  Each statement of onboarding is committed
on its own; the transactions of billing are those of billing.
-/

namespace Csms.Applications

open Database Js
open Billing (PaymentIntentStatus)

structure TenantApplication where
  (id applicantId : String)
  tenantType : TenantAccountType
  cpoType : CpoServiceType
  organizationName : String
  (siteId applicantPreferredSubdomain applicantPreferredDomain confirmedSubdomain : Option String)
  confirmedDomain : Option String
  status : ApplicationStatus
  onboardingStage : TenantOnboardingStage
  selectedTierCode : Option String
  selectedPricingVersion : Option Int
  selectedBillingCycle : Option BillingCycle
  /-- A JSON column, with the snapshot whose `toJson` it holds. -/
  pricingSnapshot : Option PricingSnapshot
  tierConfirmedAt : Option Int
  paymentIntentId : Option String
  paymentStatus : Option PaymentIntentStatus
  paymentSettledAt : Option Int
  (enterpriseQuoteStatus enterpriseQuoteReference : Option String)
  enterpriseContractSignedAt : Option Int
  provisionedOrganizationId : Option String
  provisionedAt : Option Int
  reviewerCanonicalRoleKey : Option String
  (approvedAt rejectedAt : Option Int)
  (activatedBy reviewedBy : Option String)
  reviewedAt : Option Int
  (approvalNotes responseMessage : Option String)
  completedAt : Option Int
  deriving DecidableEq

structure WhiteLabelConfig where
  (source tierCode : String)
  deriving DecidableEq

structure Organization where
  (id name type : String)
  tenantSubdomain : Option String
  tenantTier : TenantTier
  tenantRoutingEnabled : Bool
  primaryDomain : Option String
  whiteLabelConfig : Option WhiteLabelConfig
  (billingPlanCode billingStatus : Option String)
  deriving DecidableEq

/-- A membership in the control plane. -/
structure OrganizationMembership where
  (userId organizationId role canonicalRoleKey invitedBy : String)
  deriving DecidableEq

/-- A membership in the database of the tenant. -/
structure TenantMembership where
  (userId organizationId roleKey createdBy updatedBy : String)
  deriving DecidableEq

def OrganizationMembership.key (row : OrganizationMembership) : String × String :=
  (row.userId, row.organizationId)

def TenantMembership.key (row : TenantMembership) : String × String :=
  (row.userId, row.organizationId)

/-- The tables that onboarding writes. -/
structure Onboarding where
  applications : Table TenantApplication TenantApplication.id
  organizations : Table Organization Organization.id
  organizationMemberships : Table OrganizationMembership OrganizationMembership.key
  tenantMemberships : Table TenantMembership TenantMembership.key

structure Store where
  billing : Billing.Store
  onboarding : Onboarding
  sites : List String
  pricing : List PlatformTierPricingVersion
  /-- The users with an active assignment of `PLATFORM_SUPER_ADMIN`. -/
  superAdminAssignments : List String
  /-- The users whose role is `SUPER_ADMIN`. -/
  superAdminRoles : List String

namespace Onboarding

def applicationTable : Component Onboarding TenantApplication.id where
  table := applications
  put store applications := { store with applications }
  table_put _ _ := rfl

def organizationTable : Component Onboarding Organization.id where
  table := organizations
  put store organizations := { store with organizations }
  table_put _ _ := rfl

def organizationMembershipTable : Component Onboarding OrganizationMembership.key where
  table := organizationMemberships
  put store organizationMemberships := { store with organizationMemberships }
  table_put _ _ := rfl

def tenantMembershipTable : Component Onboarding TenantMembership.key where
  table := tenantMemberships
  put store tenantMemberships := { store with tenantMemberships }
  table_put _ _ := rfl

def hasFreeSubdomain (store : Onboarding) (organization : Organization) : Bool :=
  store.organizations.rows.all fun other =>
    organization.tenantSubdomain.isNone || other.tenantSubdomain ≠ organization.tenantSubdomain

end Onboarding

namespace Store

def billingPart : Part Store Billing.Store where
  get := billing
  put store billing := { store with billing }
  get_put _ _ := rfl
  put_get _ := rfl
  put_put _ _ _ := rfl

def onboardingPart : Part Store Onboarding where
  get := onboarding
  put store onboarding := { store with onboarding }
  get_put _ _ := rfl
  put_get _ := rfl
  put_put _ _ _ := rfl

def application? (store : Store) (id : String) : Option TenantApplication :=
  store.onboarding.applications.find? id

/-- The locks of billing, and one for the statements of onboarding. -/
inductive Lock where
  | billing (lock : Billing.Store.Lock)
  | onboarding
  deriving DecidableEq

/-- Two stores look the same to the holder of the lock. -/
def protects : Lock → Setoid Store
  | .billing lock => (Billing.Store.protects lock).comap billing
  | .onboarding => Setoid.ker onboarding

theorem shares_billing : billingPart.Shares Lock.billing Billing.Store.protects protects where
  own _ := rfl
  others := by
    intro lock isOther store new
    cases lock with
    | billing lock => exact absurd rfl (isOther lock)
    | onboarding => rfl

theorem shares_onboarding :
    onboardingPart.Shares (fun _ : Unit => Lock.onboarding) (fun _ : Unit => ⊥) protects where
  own _ := rfl
  others := by
    intro lock isOther store new
    cases lock with
    | billing lock => exact (Billing.Store.protects lock).refl _
    | onboarding => exact absurd rfl (isOther ())

end Store

/-- A transaction of the database with applications. -/
abbrev OnboardingTx (α : Type) :=
  Tx Store Store.Lock α

/-- `data` of an update of an application, one constructor for each operation. -/
inductive ApplicationChange where
  | updateOwn (dto : UpdateOwnApplicationDto)
  | startReview (reviewerId : String) (notes : Option String) (now : Int)
  | reject (reviewerId : String) (notes : Option String) (rejectionReason : String) (now : Int)
  | approve (reviewerId : String) (notes canonicalRoleKey confirmedSubdomain
      confirmedDomain : Option String) (now : Int)
  | confirmTier (tierCode : String) (billingCycle : Option BillingCycle)
      (snapshot : PricingSnapshot) (now : Int)
  | createPaymentIntent (intentId : String) (status : PaymentIntentStatus) (now : Int)
  | syncPaymentStatus (intentId : String) (status : PaymentIntentStatus) (now : Int)
  | acceptEnterpriseQuote (quoteReference : String) (note : Option String) (now : Int)
  | activate (organizationId reviewerId canonicalRoleKey : String)
      (confirmedSubdomain confirmedDomain : Option String) (now : Int)

namespace ApplicationChange

def isSettled (status : PaymentIntentStatus) : Bool :=
  status = .final .settled

/-- The stage that an update of `current` sets. -/
def nextStage (current : TenantApplication) : ApplicationChange → Option TenantOnboardingStage
  | updateOwn _ => none
  | startReview .. => some .underReview
  | reject .. => some .rejected
  | approve .. => some .approvedPendingTier
  | confirmTier _ _ snapshot _ =>
    some (if snapshot.isCustomPricing then .quotePending else .tierConfirmedPendingPayment)
  | createPaymentIntent _ status _ =>
    some (if isSettled status then .paymentConfirmedPendingActivation
      else current.onboardingStage)
  | syncPaymentStatus _ status _ =>
    some (if isSettled status then .paymentConfirmedPendingActivation
      else .tierConfirmedPendingPayment)
  | acceptEnterpriseQuote .. => some .quoteAcceptedPendingActivation
  | activate .. => some .completed

/-- The columns other than the stage and the status. -/
def columns (change : ApplicationChange) (row : TenantApplication) : TenantApplication :=
  match change with
  | updateOwn dto =>
    { row with
      tenantType := dto.tenantType.getD row.tenantType
      cpoType := dto.cpoType.getD row.cpoType
      organizationName := (dto.organizationName.map trim).getD row.organizationName
      siteId :=
        (dto.siteId.map fun text => normalizeOptionalString (some text)).getD row.siteId
      applicantPreferredSubdomain :=
        (dto.applicantPreferredSubdomain.map fun text => normalizeOptionalString (some text)).getD
          row.applicantPreferredSubdomain
      applicantPreferredDomain :=
        (dto.applicantPreferredDomain.map fun text => normalizeOptionalString (some text)).getD
          row.applicantPreferredDomain }
  | startReview reviewerId notes now =>
    { row with
      reviewedBy := some reviewerId
      reviewedAt := some now
      approvalNotes := normalizeOptionalString notes }
  | reject reviewerId notes rejectionReason now =>
    { row with
      reviewedBy := some reviewerId
      reviewedAt := some now
      approvalNotes := normalizeOptionalString notes
      responseMessage := some rejectionReason
      rejectedAt := some now
      approvedAt := none }
  | approve reviewerId notes canonicalRoleKey confirmedSubdomain confirmedDomain now =>
    { row with
      reviewedBy := some reviewerId
      reviewedAt := some now
      approvalNotes := normalizeOptionalString notes
      reviewerCanonicalRoleKey := canonicalRoleKey
      confirmedSubdomain := confirmedSubdomain
      confirmedDomain := confirmedDomain
      approvedAt := some now
      rejectedAt := none }
  | confirmTier tierCode billingCycle snapshot now =>
    { row with
      selectedTierCode := some tierCode
      selectedPricingVersion := some snapshot.pricingVersion
      selectedBillingCycle := billingCycle
      pricingSnapshot := some snapshot
      tierConfirmedAt := some now
      paymentIntentId := none
      paymentStatus := if snapshot.isCustomPricing then none else some (.ongoing .pending)
      paymentSettledAt := none
      enterpriseQuoteStatus := if snapshot.isCustomPricing then some "PENDING" else none }
  | createPaymentIntent intentId status now | syncPaymentStatus intentId status now =>
    { row with
      paymentIntentId := some intentId
      paymentStatus := some status
      paymentSettledAt := if isSettled status then some now else none }
  | acceptEnterpriseQuote quoteReference note now =>
    { row with
      enterpriseQuoteStatus := some "ACCEPTED"
      enterpriseQuoteReference := some (trim quoteReference)
      enterpriseContractSignedAt := some now
      responseMessage := normalizeOptionalString note }
  | activate organizationId reviewerId canonicalRoleKey confirmedSubdomain confirmedDomain now =>
    { row with
      completedAt := some now
      provisionedOrganizationId := some organizationId
      provisionedAt := some now
      activatedBy := some reviewerId
      reviewerCanonicalRoleKey := some canonicalRoleKey
      confirmedSubdomain := confirmedSubdomain
      confirmedDomain := confirmedDomain }

/-- The row with the stage and its legacy status, if one is set. -/
def atStage (stage : Option TenantOnboardingStage) (row : TenantApplication) : TenantApplication :=
  match stage with
  | some stage => { row with onboardingStage := stage, status := stageToLegacyStatus stage }
  | none => row

/-- The updated row; `current` is the application as the operation has read it. -/
def apply (change : ApplicationChange) (current row : TenantApplication) : TenantApplication :=
  atStage (change.nextStage current) (change.columns row)

section

variable (change : ApplicationChange) (current row : TenantApplication)
include change current row

theorem id_apply : (change.apply current row).id = row.id := by
  cases change <;> rfl

theorem applicantId_apply : (change.apply current row).applicantId = row.applicantId := by
  cases change <;> rfl

theorem onboardingStage_apply : (change.apply current row).onboardingStage =
      (change.nextStage current).getD row.onboardingStage := by
  cases change <;> rfl

end

end ApplicationChange

/-- Who makes a billing request. -/
inductive Party where
  /-- A payment provider, by a webhook. -/
  | provider
  | user (id : String)
  deriving DecidableEq

inductive OnboardingWrite where
  /-- A transaction of billing. -/
  | billing (party : Party) (write : Billing.Write)
  /-- `prisma.paymentIntent.create` of `createPaymentIntent`. -/
  | createPaymentIntent (row : Billing.PaymentIntent)
  | createApplication (row : TenantApplication)
  /-- The statement has the id of `current`, the application as it was read, and does not
  look at its other columns. -/
  | updateApplication (current : TenantApplication) (change : ApplicationChange)
  /-- The organization is for `current`, the application as it was read. -/
  | createOrganization (current : TenantApplication) (row : Organization)
  | upsertOrganizationMembership (row : OrganizationMembership)
  | upsertTenantMembership (row : TenantMembership)
  | updateUser (id organizationId : String)

namespace OnboardingWrite

/-- What a statement hands back. -/
def Result : OnboardingWrite → Type
  | billing _ write => write.Result
  | createPaymentIntent _ => Billing.PaymentIntent
  | createApplication _ | updateApplication .. => TenantApplication
  | createOrganization .. => Organization
  | upsertOrganizationMembership _ | upsertTenantMembership _ | updateUser .. => Unit

/-- The update of an `upsert` for a member that is there. -/
def reassigned (row old : OrganizationMembership) : OrganizationMembership :=
  { old with
    role := row.role
    canonicalRoleKey := row.canonicalRoleKey
    invitedBy := row.invitedBy }

def reassignedTenant (row old : TenantMembership) : TenantMembership :=
  { old with
    roleKey := row.roleKey
    updatedBy := row.updatedBy }

theorem key_reassigned (row old : OrganizationMembership) : (reassigned row old).key = old.key :=
  rfl

theorem key_reassignedTenant (row old : TenantMembership) :
    (reassignedTenant row old).key = old.key :=
  rfl

section Upsert

variable {ρ κ : Type} {key : ρ → κ} [DecidableEq κ] (component : Component Onboarding key)

/-- `upsert` of the row under a key. -/
def upsert (row : ρ) (change : ρ → ρ) (keeps : ∀ old, key (change old) = key old)
    (store : Onboarding) : Onboarding :=
  match component.find? (key row) store with
  | some _ => component.update (key row) change keeps store
  | none => component.insert row store

end Upsert

/-- `data` of the user of a new organization. -/
def withOrganization (organizationId : String) (user : Billing.User) : Billing.User :=
  { user with organizationId := some organizationId }

theorem id_withOrganization (organizationId : String) (user : Billing.User) :
    (withOrganization organizationId user).id = user.id :=
  rfl

def userTable : Component Billing.Store Billing.User.id where
  table := Billing.Store.users
  put store users := { store with users }
  table_put _ _ := rfl

/-- A transaction of billing on the whole store. -/
def onBilling {α : Type} (tx : Billing.BillingTx α) : OnboardingTx α :=
  (tx.onPart Store.billingPart).relock Store.Lock.billing

/-- A statement on the tables of onboarding. -/
def onOnboarding {α : Type} (tx : Tx Onboarding Unit α) : OnboardingTx α :=
  (tx.onPart Store.onboardingPart).relock fun _ => Store.Lock.onboarding

def body : (write : OnboardingWrite) → OnboardingTx write.Result
  | billing _ write => onBilling write.body
  | createPaymentIntent row => onBilling (Billing.insertPaymentIntent row (.commit row))
  | createApplication row =>
    onOnboarding <| Tx.statement
      (fun store => (Onboarding.applicationTable.find? row.id store).isNone)
      (Onboarding.applicationTable.insert row) fun _ => row
  | updateApplication current change =>
    onOnboarding <| Tx.updateRow Onboarding.applicationTable [()] current.id
      (change.apply current) (change.id_apply current) .commit
  | createOrganization _ row =>
    onOnboarding <| Tx.statement
      (fun store =>
        (Onboarding.organizationTable.find? row.id store).isNone && store.hasFreeSubdomain row)
      (Onboarding.organizationTable.insert row) fun _ => row
  | upsertOrganizationMembership row =>
    onOnboarding <| Tx.statement (fun _ => true)
      (upsert Onboarding.organizationMembershipTable row (reassigned row) (key_reassigned row))
      fun _ => ()
  | upsertTenantMembership row =>
    onOnboarding <| Tx.statement (fun _ => true)
      (upsert Onboarding.tenantMembershipTable row (reassignedTenant row)
        (key_reassignedTenant row))
      fun _ => ()
  | updateUser id organizationId =>
    onBilling <| Tx.updateRow userTable [.user id] id (withOrganization organizationId)
      (id_withOrganization organizationId) fun _ => .commit ()

end OnboardingWrite

namespace OnboardingWrite

theorem guarded_onBilling {α : Type} {tx : Billing.BillingTx α}
    (guarded : tx.Guarded Billing.Store.protects []) : (onBilling tx).Guarded Store.protects [] :=
  guarded.onPart_relock Store.shares_billing

theorem guarded_onOnboarding {α : Type} (allowed : Onboarding → Bool)
    (change : Onboarding → Onboarding) (rest : Onboarding → Tx Onboarding Unit α) :
    (onOnboarding (.write [()] allowed change rest)).Guarded Store.protects [] :=
  (Tx.guarded_write_all allowed change rest).onPart_relock Store.shares_onboarding

theorem guarded_updateUser (id organizationId : String) :
    (Tx.updateRow userTable [Billing.Store.Lock.user id] id (withOrganization organizationId)
      (id_withOrganization organizationId) fun _ => Tx.commit ()).Guarded
        Billing.Store.protects [] := by
  apply Tx.guarded_updateRow_own Billing.Store.Lock.user
  · intro user
    rfl
  · intro lock isOther store table
    cases lock with
    | user user => exact absurd rfl (isOther user)
    | _ => rfl
  · exact fun _ => trivial

theorem guarded (write : OnboardingWrite) : write.body.Guarded Store.protects [] := by
  cases write with
  | billing party write => exact guarded_onBilling write.guarded
  | createPaymentIntent row =>
    exact guarded_onBilling (Billing.guarded_insertPaymentIntent (Billing.guarded_commit _))
  | updateUser id organizationId => exact guarded_onBilling (guarded_updateUser id organizationId)
  | _ => exact guarded_onOnboarding _ _ _

end OnboardingWrite

end Csms.Applications
