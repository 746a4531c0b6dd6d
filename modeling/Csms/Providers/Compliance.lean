import Csms.Js.Value

/-!
# Compliance of providers and of their relationships

Which requirements apply in the markets of a provider, which of them its documents meet, and what
blocks it.  The tables of requirements are a parameter, as are the numbers and texts that
JavaScript makes of the values of a profile.
-/

namespace Csms.Providers

open Js

inductive ProviderDocumentType
  | incorporation
  | taxCompliance
  | insurance
  | batterySafetyCertification
  | recyclingCompliance
  | technicalConformance
  | commercialAgreement
  | sopAcknowledgement
  | siteCompatibilityDeclaration
deriving DecidableEq

inductive ProviderDocumentStatus
  | pending
  | approved
  | rejected
deriving DecidableEq

structure ProviderDocument where
  id : String
  (providerId relationshipId ownerOrgId : Option String)
  type : ProviderDocumentType
  requirementCode : Option String
  expiryDate : Option Int
  coveredModels : List String
  status : ProviderDocumentStatus

inductive SwapProviderStatus
  | draft
  | pendingReview
  | approved
  | rejected
  | suspended
deriving DecidableEq

structure SwapProvider where
  id : String
  status : SwapProviderStatus
  standard : String
  (countries regions : List String)
  region : String
  (batteriesSupported complianceMarkets : List String)
  complianceProfile : JsValue

inductive Market
  | cn
  | hk
  | fi
deriving DecidableEq

structure ProviderCompliancePolicyData where
  /-- `effectiveDateMode === 'WARN_BEFORE_ENFORCE'`. -/
  (warnBeforeEnforce roadmapAllowedBeforeEffective : Bool)
  markets : List Market
  /-- `hk.dg.requireConfig`. -/
  requireConfig : Bool
  /-- `hk.dg.thresholdKwh`. -/
  thresholdKwh : Option ℚ
  /-- `hk.dg.class9aLabel`. -/
  class9aLabel : String

def defaultPolicy : ProviderCompliancePolicyData where
  warnBeforeEnforce := true
  roadmapAllowedBeforeEffective := true
  markets := [.cn, .hk, .fi]
  requireConfig := true
  thresholdKwh := none
  class9aLabel := "DG_CLASS_9A"

inductive ProviderComplianceGate
  | kyb
  | safety
  | operations
  | integration
deriving DecidableEq

def gateOrder : List ProviderComplianceGate :=
  [.kyb, .safety, .operations, .integration]

inductive ConditionOperator
  | eq
  | gte
  | lte
  | exists
  | includes
deriving DecidableEq

structure ProviderRequirementCondition where
  key : String
  operator : ConditionOperator
  value : JsValue

inductive ProviderRequirementScope
  | provider
  | stationOwner

structure ProviderRequirementDefinition where
  requirementCode : String
  gate : ProviderComplianceGate
  isCritical : Bool
  acceptedDocTypes : List ProviderDocumentType
  conditions : List ProviderRequirementCondition
  /-- `none` is `GLOBAL`. -/
  markets : List (Option Market)
  effectiveFrom : Option Int
  /-- `coverageMode === 'PER_MODEL'`. -/
  perModel : Bool
  policyDependency : Option String
  roadmapAllowedBeforeEffective : Option Bool

/-- The requirements, and what JavaScript makes of values. -/
structure Requirements where
  listForScope : ProviderRequirementScope → List ProviderRequirementDefinition
  /-- `Number(value)`. -/
  number : JsValue → JsNumber
  /-- `String(value)`. -/
  string : JsValue → String

/-- `text.includes(part)`. -/
def includes (text part : String) : Bool :=
  part.toList <:+: text.toList

/-- The markets of the countries, regions and markets that are given. -/
def mapComplianceMarkets (texts : List String) : List Market :=
  (texts.flatMap fun item =>
    let value := toUpperCase (trim item)
    (if value = "CN" || includes value "CHINA" then [Market.cn] else []) ++
      (if value = "HK" || includes value "HONG KONG" then [Market.hk] else []) ++
      (if value = "FI" || includes value "FINLAND" then [Market.fi] else [])).eraseDups

def SwapProvider.marketTexts (provider : SwapProvider) : List String :=
  provider.countries ++ provider.regions ++ [provider.region] ++ provider.complianceMarkets

def asObject : JsValue → JsRecord
  | .object fields => fields
  | _ => JsRecord.empty

def getProfileBoolean (profile : JsRecord) (key : String) : Bool :=
  match profile key with
  | .boolean value => value
  | .string text => text = "true"
  | .number value => value = .finite 1
  | _ => false

/-- `left === right`; two objects are never the same one here. -/
def strictEquals : JsValue → JsValue → Bool
  | .undefined, .undefined => true
  | .null, .null => true
  | .boolean left, .boolean right => left = right
  | .number left, .number right => left = right && left ≠ .nan
  | .string left, .string right => left = right
  | _, _ => false

section Evaluation

variable (requirements : Requirements)

def getProfileNumber (profile : JsRecord) (key : String) : Option JsNumber :=
  match profile key with
  | .number value => if value.isFinite then some value else none
  | .string text =>
    let parsed := requirements.number (.string text)
    if trim text ≠ "" && parsed ≠ .nan then some parsed else none
  | _ => none

def getProfileStringArray (profile : JsRecord) (key : String) : List String :=
  match profile key with
  | .array items => (items.map fun item => trim (requirements.string item)).filter (· ≠ "")
  | _ => []

def evaluateCondition (provider : SwapProvider) (profile : JsRecord)
    (condition : ProviderRequirementCondition) : Bool :=
  let asFlag (flag : Bool) : Bool :=
    if condition.operator = .eq then flag = condition.value.isTruthy else flag
  if condition.key = "crossBorderShipping" then
    asFlag (1 < provider.countries.length || 1 < provider.regions.length)
  else if condition.key = "supportsInteroperability" then
    asFlag (provider.standard = "Universal")
  else if condition.key = "supportsAirShipping" then
    asFlag (getProfileBoolean profile "supportsAirShipping")
  else
    let numericValue := getProfileNumber requirements profile condition.key
    match condition.operator, condition.value with
    | .gte, .number value => numericValue.any fun number => value.le number
    | .lte, .number value => numericValue.any fun number => number.le value
    | .includes, .string value =>
      (getProfileStringArray requirements profile condition.key).contains value
    | .exists, _ =>
      match profile condition.key with
      | .undefined | .null => false
      | _ => true
    | .eq, value => strictEquals (profile condition.key) value
    | _, _ => true

def requirementMatchesMarket (requirement : ProviderRequirementDefinition)
    (activeMarkets : List Market) : Bool :=
  requirement.markets.contains none ||
    requirement.markets.any fun market => market.any activeMarkets.contains

/-- Whether the rules for dangerous goods in Hong Kong apply. -/
def dangerousGoodsApply (profile : JsRecord) (markets : List Market)
    (policy : ProviderCompliancePolicyData) : Bool :=
  if !markets.contains .hk || (policy.requireConfig && policy.thresholdKwh.isNone) then false
  else
    let storedEnergyKwh := getProfileNumber requirements profile "storedEnergyKwh"
    let dgClassifications :=
      (getProfileStringArray requirements profile "dgClassifications").map toUpperCase
    let class9aLabel :=
      toUpperCase (if policy.class9aLabel = "" then "DG_CLASS_9A" else policy.class9aLabel)
    (policy.thresholdKwh.any fun threshold =>
        storedEnergyKwh.any fun stored => (JsNumber.finite threshold).le stored) ||
      dgClassifications.contains class9aLabel

def evaluateRequirementApplies (requirement : ProviderRequirementDefinition)
    (provider : SwapProvider) (profile : JsRecord) (markets : List Market)
    (policy : ProviderCompliancePolicyData) : Bool :=
  requirementMatchesMarket requirement markets &&
    (requirement.policyDependency ≠ some "HK_DG_THRESHOLD" ||
      dangerousGoodsApply requirements profile markets policy) &&
    requirement.conditions.all (evaluateCondition requirements provider profile)

end Evaluation

def isDocumentVerified (document : ProviderDocument) : Bool :=
  document.status = .approved

def documentMatches (requirement : ProviderRequirementDefinition) (document : ProviderDocument) :
    Bool :=
  match orText document.requirementCode none with
  | some code => code = requirement.requirementCode
  | none => requirement.acceptedDocTypes.contains document.type

def evaluateRequirementSatisfaction (requirement : ProviderRequirementDefinition)
    (documents : List ProviderDocument) (providerModels : List String) : Bool :=
  let matchingDocs := documents.filter fun document =>
    isDocumentVerified document && documentMatches requirement document
  !matchingDocs.isEmpty &&
    (!requirement.perModel ||
      providerModels.all fun model =>
        matchingDocs.any fun document => document.coveredModels.contains model)

/-- What the compliance of a relationship adds to that of its provider. -/
structure RelationshipProfile where
  complianceMarkets : List String
  complianceProfile : JsValue

/-- A requirement that applies. -/
structure RequirementEval where
  requirement : ProviderRequirementDefinition
  (downgradedPreEffective satisfied : Bool)

def RequirementEval.isEnforced (evaluation : RequirementEval) : Bool :=
  evaluation.requirement.isCritical && !evaluation.downgradedPreEffective

section Blockers

variable (requirements : Requirements) (scope : ProviderRequirementScope) (now : Int)
  (provider : SwapProvider) (relationship : Option RelationshipProfile)
  (documents : List ProviderDocument) (policy : ProviderCompliancePolicyData)

def activeMarkets : List Market :=
  let relationshipMarkets :=
    relationship.elim [] fun profile => mapComplianceMarkets profile.complianceMarkets
  (mapComplianceMarkets provider.marketTexts ++ relationshipMarkets).eraseDups.filter
    policy.markets.contains

def activeEvaluations : List RequirementEval :=
  let profile := (asObject provider.complianceProfile).spread
    (relationship.elim JsRecord.empty fun profile => asObject profile.complianceProfile)
  let markets := activeMarkets provider relationship policy
  let providerModels := provider.batteriesSupported.filter (· ≠ "")
  ((requirements.listForScope scope).filter fun requirement =>
      evaluateRequirementApplies requirements requirement provider profile markets policy).map
    fun requirement =>
      { requirement
        downgradedPreEffective :=
          requirement.effectiveFrom.any (fun effective => now < effective) &&
            policy.warnBeforeEnforce &&
            requirement.roadmapAllowedBeforeEffective.getD policy.roadmapAllowedBeforeEffective
        satisfied := evaluateRequirementSatisfaction requirement documents providerModels }

def missingCritical (evaluations : List RequirementEval) : List String :=
  (gateOrder.flatMap fun gate =>
    (evaluations.filter fun item =>
        item.requirement.gate = gate && !item.satisfied && item.isEnforced).map
      fun item => item.requirement.requirementCode).eraseDups

def expiredCritical (evaluations : List RequirementEval) : List ProviderDocument :=
  let matchedCriticalRequirementCodes :=
    (evaluations.filter RequirementEval.isEnforced).map fun item =>
      item.requirement.requirementCode
  documents.filter fun document =>
    isDocumentVerified document && document.expiryDate.any (fun expiry => expiry < now) &&
      evaluations.any fun item =>
        matchedCriticalRequirementCodes.contains item.requirement.requirementCode &&
          documentMatches item.requirement document

/-- The `blockerReasonCodes` of `buildCompliance`. -/
def blockerReasonCodes : List String :=
  let evaluations :=
    activeEvaluations requirements scope now provider relationship documents policy
  (missingCritical evaluations).map (fun code => "MISSING_" ++ code) ++
    (expiredCritical now documents evaluations).map fun document =>
      "DOC_EXPIRED_CRITICAL:" ++ document.id

end Blockers

end Csms.Providers
