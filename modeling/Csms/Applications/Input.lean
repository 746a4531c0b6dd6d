import Csms.Billing.Input

/-!
# Tenant applications

What an application for a tenant says, what applicants and reviewers ask for, the roles
a tenant can give, and the price of a tier as it is confirmed.
-/

namespace Csms.Applications

open Billing (CommerceException)
open Js

inductive TenantOnboardingStage where
  | submitted
  | underReview
  | approvedPendingTier
  | rejected
  | tierConfirmedPendingPayment
  | quotePending
  | paymentConfirmedPendingActivation
  | quoteAcceptedPendingActivation
  | completed
  deriving DecidableEq, Repr

/-- The statuses of `ApplicationStatus` that belong to a stage. -/
inductive ApplicationStatus where
  | pendingReview
  | underReview
  | approved
  | rejected
  | awaitingDeposit
  | depositPaid
  | completed
  deriving DecidableEq, Repr

inductive TenantAccountType where
  | individual
  | company
  | state
  | organization
  deriving DecidableEq, Repr

inductive CpoServiceType where
  | charge
  | swap
  | hybrid
  deriving DecidableEq, Repr

inductive TenantTier where
  | shared
  | schema
  | dedicatedDb
  deriving DecidableEq, Repr

inductive BillingCycle where
  | monthly
  | annual
  deriving DecidableEq, Repr

inductive ReviewAction where
  | underReview
  | approve
  | reject
  deriving DecidableEq, Repr

namespace TenantOnboardingStage

def text : TenantOnboardingStage → String
  | submitted => "SUBMITTED"
  | underReview => "UNDER_REVIEW"
  | approvedPendingTier => "APPROVED_PENDING_TIER"
  | rejected => "REJECTED"
  | tierConfirmedPendingPayment => "TIER_CONFIRMED_PENDING_PAYMENT"
  | quotePending => "QUOTE_PENDING"
  | paymentConfirmedPendingActivation => "PAYMENT_CONFIRMED_PENDING_ACTIVATION"
  | quoteAcceptedPendingActivation => "QUOTE_ACCEPTED_PENDING_ACTIVATION"
  | completed => "COMPLETED"

/-- `NON_TERMINAL_STAGES`. -/
def isNonTerminal : TenantOnboardingStage → Bool
  | rejected | completed => false
  | _ => true

/-- `REVIEWABLE_STAGES`. -/
def isReviewable (stage : TenantOnboardingStage) : Bool :=
  stage = submitted ∨ stage = underReview

/-- `editableStages` of `updateOwn`. -/
def isEditable (stage : TenantOnboardingStage) : Bool :=
  stage = submitted ∨ stage = underReview ∨ stage = approvedPendingTier

/-- `activationStages` of `activate`. -/
def isPendingActivation (stage : TenantOnboardingStage) : Bool :=
  stage = paymentConfirmedPendingActivation ∨ stage = quoteAcceptedPendingActivation

end TenantOnboardingStage

def stageToLegacyStatus : TenantOnboardingStage → ApplicationStatus
  | .submitted => .pendingReview
  | .underReview => .underReview
  | .approvedPendingTier => .approved
  | .tierConfirmedPendingPayment | .quotePending => .awaitingDeposit
  | .paymentConfirmedPendingActivation | .quoteAcceptedPendingActivation => .depositPaid
  | .completed => .completed
  | .rejected => .rejected

def TenantAccountType.text : TenantAccountType → String
  | individual => "INDIVIDUAL"
  | company => "COMPANY"
  | state => "STATE"
  | organization => "ORGANIZATION"

def CpoServiceType.text : CpoServiceType → String
  | charge => "CHARGE"
  | swap => "SWAP"
  | hybrid => "HYBRID"

def BillingCycle.text : BillingCycle → String
  | monthly => "MONTHLY"
  | annual => "ANNUAL"

structure CreateApplicationDto where
  tenantType : Option TenantAccountType
  cpoType : Option CpoServiceType
  organizationName : String
  (siteId applicantPreferredSubdomain applicantPreferredDomain : Option String)

structure UpdateOwnApplicationDto where
  tenantType : Option TenantAccountType
  cpoType : Option CpoServiceType
  (organizationName siteId applicantPreferredSubdomain applicantPreferredDomain : Option String)

structure ReviewApplicationDto where
  action : ReviewAction
  (notes rejectionReason confirmedSubdomain confirmedDomain canonicalRoleKey : Option String)

structure ConfirmTierSelectionDto where
  tierCode : String
  billingCycle : Option BillingCycle
  requestWhiteLabel : Option Bool

structure CreateApplicationPaymentIntentDto where
  idempotencyKey : Option String

structure SyncApplicationPaymentDto where
  (paymentIntentId status providerReference note : Option String)
  markSettled : Option Bool

structure AcceptEnterpriseQuoteDto where
  quoteReference : String
  note : Option String

structure ActivateApplicationDto where
  (canonicalRoleKey confirmedSubdomain confirmedDomain : Option String)

/-- `normalizeOptionalString`. -/
def normalizeOptionalString (value : Option String) : Option String :=
  Billing.optionalTrimmed value

/-- What provisioning reads of a role definition. -/
structure CanonicalRole where
  key : String
  isTenantScoped : Bool
  defaultLegacyRole : String

/-- `CANONICAL_ROLE_DEFINITIONS`. -/
def canonicalRoles : List CanonicalRole :=
  [⟨"PLATFORM_SUPER_ADMIN", false, "SUPER_ADMIN"⟩,
    ⟨"PLATFORM_BILLING_ADMIN", false, "OWNER"⟩,
    ⟨"PLATFORM_NOC_LEAD", false, "EVZONE_OPERATOR"⟩,
    ⟨"TENANT_ADMIN", true, "STATION_ADMIN"⟩,
    ⟨"STATION_MANAGER", true, "MANAGER"⟩,
    ⟨"SITE_HOST", true, "SITE_OWNER"⟩,
    ⟨"ROAMING_MANAGER", true, "SWAP_PROVIDER_ADMIN"⟩,
    ⟨"FLEET_DISPATCHER", true, "OWNER"⟩,
    ⟨"FLEET_DRIVER", true, "DRIVER"⟩,
    ⟨"INSTALLER_AGENT", true, "TECHNICIAN_PUBLIC"⟩,
    ⟨"SMART_CHARGING_ENGINEER", true, "TECHNICIAN_ORG"⟩,
    ⟨"OPERATIONS_OPERATOR", true, "STATION_OPERATOR"⟩,
    ⟨"FIELD_TECHNICIAN", true, "TECHNICIAN_ORG"⟩,
    ⟨"TENANT_FINANCE_ANALYST", true, "OWNER"⟩,
    ⟨"EXTERNAL_PROVIDER_OPERATOR", true, "SWAP_PROVIDER_OPERATOR"⟩]

def findCanonicalRole (roleKey : String) : Option CanonicalRole :=
  canonicalRoles.find? fun role => role.key = roleKey

def ensureTenantScopedRole (roleKey : String) : Except CommerceException String :=
  match findCanonicalRole roleKey with
  | some role =>
    if role.isTenantScoped then .ok roleKey
    else .error (.badRequest s!"Canonical role \"{roleKey}\" is not tenant scoped")
  | none => .error (.badRequest s!"Invalid canonical role key \"{roleKey}\"")

/-- `resolveStorageRole` of a canonical role. -/
def resolveStorageRole (roleKey : String) : Option String :=
  (findCanonicalRole roleKey).map CanonicalRole.defaultLegacyRole

/-- A version of the price of a tier; dates are the texts of `toISOString`. -/
structure PlatformTierPricingVersion where
  (tierCode tierLabel : String)
  accountTypes : List String
  currency : String
  isCustomPricing : Bool
  (monthlyPrice annualPrice setupFee swapMonthlyAddon swapAnnualAddon swapSetupAddon : Option ℚ)
  (hybridMonthlyAddon hybridAnnualAddon hybridSetupAddon : Option ℚ)
  whiteLabelAvailable : Bool
  (whiteLabelMonthlyAddon whiteLabelSetupFee : Option ℚ)
  status : String
  version : Int
  (effectiveFrom publishedAt : Option String)
  deriving DecidableEq

structure PricingSnapshot where
  (tierCode tierLabel : String)
  pricingVersion : Int
  cpoType : CpoServiceType
  currency : String
  billingCycle : Option String
  isCustomPricing : Bool
  baseRecurringAmount : Option ℚ
  (baseSetupFee cpoRecurringAddon cpoSetupAddon : ℚ)
  (recurringAmount setupFee : Option ℚ)
  whiteLabelRequested : Bool
  (whiteLabelMonthlyAddon whiteLabelSetupFee dueNowAmount : Option ℚ)
  (publishedAt effectiveFrom : Option String)
  deriving DecidableEq

/-- `toMoneyNumber` of a decimal column. -/
def toMoneyNumber (value : Option ℚ) : Option ℚ :=
  value.map (JsNumber.toFixed 2)

def configuredAddons (name : String) (recurringAddon setupAddon : Option ℚ) :
    Except CommerceException (ℚ × ℚ) :=
  match toMoneyNumber recurringAddon, toMoneyNumber setupAddon with
  | some recurringAddon, some setupAddon => .ok (recurringAddon, setupAddon)
  | _, _ =>
    .error (.badRequest s!"{name} pricing add-ons are not configured for this tier")

def resolveCpoPricingAddons (pricing : PlatformTierPricingVersion) (cpoType : CpoServiceType)
    (billingCycle : BillingCycle) : Except CommerceException (ℚ × ℚ) :=
  match cpoType with
  | .charge => .ok (0, 0)
  | .swap =>
    configuredAddons "SWAP"
      (if billingCycle = .annual then pricing.swapAnnualAddon else pricing.swapMonthlyAddon)
      pricing.swapSetupAddon
  | .hybrid =>
    configuredAddons "HYBRID"
      (if billingCycle = .annual then pricing.hybridAnnualAddon else pricing.hybridMonthlyAddon)
      pricing.hybridSetupAddon

/-- The price may be asked for by this type of tenant, with or without a white label. -/
def assertPricingAvailable (pricing : PlatformTierPricingVersion) (tierCode : String)
    (tenantType : TenantAccountType) (whiteLabelRequested : Bool) : Except CommerceException Unit :=
  if pricing.accountTypes ≠ [] ∧ tenantType.text ∉ pricing.accountTypes then
    .error (.badRequest
      s!"Tier \"{tierCode}\" does not support tenant type \"{tenantType.text}\"")
  else if whiteLabelRequested ∧ ¬ pricing.whiteLabelAvailable then
    .error (.badRequest s!"Tier \"{tierCode}\" does not support white-label add-ons")
  else .ok ()

def standardSnapshot (pricing : PlatformTierPricingVersion) (tierCode : String)
    (cpoType : CpoServiceType) (billingCycle : Option BillingCycle) (whiteLabelRequested : Bool) :
    Except CommerceException PricingSnapshot :=
  match billingCycle with
  | none => .error (.badRequest "Billing cycle is required for non-custom pricing tiers")
  | some cycle =>
    match toMoneyNumber (if cycle = .annual then pricing.annualPrice else pricing.monthlyPrice) with
    | none =>
      .error (.badRequest s!"Tier \"{tierCode}\" is missing {toLowerCase cycle.text} pricing")
    | some baseRecurringAmount => do
      let (cpoRecurringAddon, cpoSetupAddon) ← resolveCpoPricingAddons pricing cpoType cycle
      let baseSetupFee := (toMoneyNumber pricing.setupFee).getD 0
      let whiteLabelMonthlyAddon :=
        if whiteLabelRequested then (toMoneyNumber pricing.whiteLabelMonthlyAddon).getD 0 else 0
      let whiteLabelSetupFee :=
        if whiteLabelRequested then (toMoneyNumber pricing.whiteLabelSetupFee).getD 0 else 0
      let recurringAmount :=
        JsNumber.toFixed 2 (baseRecurringAmount + cpoRecurringAddon + whiteLabelMonthlyAddon)
      let setupFee := JsNumber.toFixed 2 (baseSetupFee + cpoSetupAddon + whiteLabelSetupFee)
      return {
        tierCode
        tierLabel := pricing.tierLabel
        pricingVersion := pricing.version
        cpoType
        currency := pricing.currency
        billingCycle := some cycle.text
        isCustomPricing := false
        baseRecurringAmount := some baseRecurringAmount
        baseSetupFee
        cpoRecurringAddon
        cpoSetupAddon
        recurringAmount := some recurringAmount
        setupFee := some setupFee
        whiteLabelRequested
        whiteLabelMonthlyAddon := some whiteLabelMonthlyAddon
        whiteLabelSetupFee := some whiteLabelSetupFee
        dueNowAmount := some (JsNumber.toFixed 2 (recurringAmount + setupFee))
        publishedAt := pricing.publishedAt
        effectiveFrom := pricing.effectiveFrom }

def customSnapshot (pricing : PlatformTierPricingVersion) (tierCode : String)
    (cpoType : CpoServiceType) (billingCycle : Option BillingCycle) (whiteLabelRequested : Bool) :
    PricingSnapshot where
  tierCode := tierCode
  tierLabel := pricing.tierLabel
  pricingVersion := pricing.version
  cpoType := cpoType
  currency := pricing.currency
  billingCycle := billingCycle.map BillingCycle.text
  isCustomPricing := true
  baseRecurringAmount := none
  baseSetupFee := (toMoneyNumber pricing.setupFee).getD 0
  cpoRecurringAddon := 0
  cpoSetupAddon := 0
  recurringAmount := none
  setupFee := none
  whiteLabelRequested := whiteLabelRequested
  whiteLabelMonthlyAddon :=
    some (if whiteLabelRequested then (toMoneyNumber pricing.whiteLabelMonthlyAddon).getD 0 else 0)
  whiteLabelSetupFee :=
    some (if whiteLabelRequested then (toMoneyNumber pricing.whiteLabelSetupFee).getD 0 else 0)
  dueNowAmount := none
  publishedAt := pricing.publishedAt
  effectiveFrom := pricing.effectiveFrom

/-- The snapshot that `confirmTier` takes of a price. -/
def pricingSnapshot (pricing : PlatformTierPricingVersion) (tierCode : String)
    (cpoType : CpoServiceType) (billingCycle : Option BillingCycle) (whiteLabelRequested : Bool) :
    Except CommerceException PricingSnapshot :=
  if pricing.isCustomPricing ∨ tierCode = "T4" then
    .ok (customSnapshot pricing tierCode cpoType billingCycle whiteLabelRequested)
  else
    standardSnapshot pricing tierCode cpoType billingCycle whiteLabelRequested

def toTierRoutingModel (tierCode : String) : Except CommerceException TenantTier :=
  if tierCode = "T1" ∨ tierCode = "T2" then .ok .shared
  else if tierCode = "T3" ∨ tierCode = "T4" then .ok .dedicatedDb
  else .error (.badRequest s!"Unsupported tier code \"{tierCode}\"")

end Csms.Applications
