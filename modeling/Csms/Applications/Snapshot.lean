import Csms.Applications.Input

/-!
# Stored price snapshots

The price of a confirmed tier is stored as JSON and decoded again when it is to be paid.
-/

namespace Csms.Applications

open Js

def jsonNumber (value : ℚ) : JsValue :=
  .number (.finite value)

def jsonOptional (value : Option JsValue) : JsValue :=
  value.getD .null

/-- The fields of the stored record. -/
def PricingSnapshot.fields (snapshot : PricingSnapshot) : List (String × JsValue) :=
  [("tierCode", .string snapshot.tierCode),
    ("tierLabel", .string snapshot.tierLabel),
    ("pricingVersion", jsonNumber snapshot.pricingVersion),
    ("cpoType", .string snapshot.cpoType.text),
    ("currency", .string snapshot.currency),
    ("billingCycle", jsonOptional (snapshot.billingCycle.map .string)),
    ("isCustomPricing", .boolean snapshot.isCustomPricing),
    ("baseRecurringAmount", jsonOptional (snapshot.baseRecurringAmount.map jsonNumber)),
    ("baseSetupFee", jsonNumber snapshot.baseSetupFee),
    ("cpoRecurringAddon", jsonNumber snapshot.cpoRecurringAddon),
    ("cpoSetupAddon", jsonNumber snapshot.cpoSetupAddon),
    ("recurringAmount", jsonOptional (snapshot.recurringAmount.map jsonNumber)),
    ("setupFee", jsonOptional (snapshot.setupFee.map jsonNumber)),
    ("whiteLabelRequested", .boolean snapshot.whiteLabelRequested),
    ("whiteLabelMonthlyAddon", jsonOptional (snapshot.whiteLabelMonthlyAddon.map jsonNumber)),
    ("whiteLabelSetupFee", jsonOptional (snapshot.whiteLabelSetupFee.map jsonNumber)),
    ("dueNowAmount", jsonOptional (snapshot.dueNowAmount.map jsonNumber)),
    ("publishedAt", jsonOptional (snapshot.publishedAt.map .string)),
    ("effectiveFrom", jsonOptional (snapshot.effectiveFrom.map .string))]

def PricingSnapshot.toJson (snapshot : PricingSnapshot) : JsValue :=
  .object fun name => (snapshot.fields.lookup name).getD .undefined

/-- The number of a field that holds one; stored numbers are finite. -/
def readNumber : JsValue → Option ℚ
  | .number (.finite value) => some value
  | _ => none

def readText : JsValue → Option String
  | .string text => some text
  | _ => none

def readBoolean : JsValue → Option Bool
  | .boolean value => some value
  | _ => none

/-- The version number of a price is an integer. -/
def readVersion : JsValue → Option Int
  | .number value => value.toColumn
  | _ => none

def readCpoType : JsValue → CpoServiceType
  | .string "SWAP" => .swap
  | .string "HYBRID" => .hybrid
  | _ => .charge

def storedRecord : JsValue → Option JsRecord
  | .object fields => some fields
  | _ => none

def parsePricingSnapshot (value : Option JsValue) : Option PricingSnapshot := do
  let candidate ← value.bind storedRecord
  let tierCode ← readText (candidate "tierCode")
  let tierLabel ← readText (candidate "tierLabel")
  let pricingVersion ← readVersion (candidate "pricingVersion")
  let currency ← readText (candidate "currency")
  let isCustomPricing ← readBoolean (candidate "isCustomPricing")
  let whiteLabelRequested ← readBoolean (candidate "whiteLabelRequested")
  let recurringAmount := readNumber (candidate "recurringAmount")
  let setupFee := readNumber (candidate "setupFee")
  return {
    tierCode
    tierLabel
    pricingVersion
    cpoType := readCpoType (candidate "cpoType")
    currency
    billingCycle := readText (candidate "billingCycle")
    isCustomPricing
    baseRecurringAmount := (readNumber (candidate "baseRecurringAmount")).or recurringAmount
    baseSetupFee := ((readNumber (candidate "baseSetupFee")).or setupFee).getD 0
    cpoRecurringAddon := (readNumber (candidate "cpoRecurringAddon")).getD 0
    cpoSetupAddon := (readNumber (candidate "cpoSetupAddon")).getD 0
    recurringAmount
    setupFee
    whiteLabelRequested
    whiteLabelMonthlyAddon := readNumber (candidate "whiteLabelMonthlyAddon")
    whiteLabelSetupFee := readNumber (candidate "whiteLabelSetupFee")
    dueNowAmount := readNumber (candidate "dueNowAmount")
    publishedAt := readText (candidate "publishedAt")
    effectiveFrom := readText (candidate "effectiveFrom") }

@[simp]
theorem readText_string (text : String) : readText (.string text) = some text :=
  rfl

@[simp]
theorem readBoolean_boolean (value : Bool) : readBoolean (.boolean value) = some value :=
  rfl

@[simp]
theorem readNumber_jsonNumber (value : ℚ) : readNumber (jsonNumber value) = some value :=
  rfl

@[simp]
theorem readNumber_jsonOptional (value : Option ℚ) :
    readNumber (jsonOptional (value.map jsonNumber)) = value := by
  cases value <;> rfl

@[simp]
theorem readText_jsonOptional (value : Option String) :
    readText (jsonOptional (value.map .string)) = value := by
  cases value <;> rfl

@[simp]
theorem readVersion_jsonNumber (version : Int) : readVersion (jsonNumber version) = some version := by
  simp [readVersion, jsonNumber, JsNumber.toColumn]

@[simp]
theorem readCpoType_text (cpoType : CpoServiceType) :
    readCpoType (.string cpoType.text) = cpoType := by
  cases cpoType <;> rfl

/-- The snapshot with a base for its recurring amount. -/
def PricingSnapshot.based (snapshot : PricingSnapshot) : PricingSnapshot :=
  { snapshot with
    baseRecurringAmount := snapshot.baseRecurringAmount.or snapshot.recurringAmount }

theorem parsePricingSnapshot_of_fields {snapshot : PricingSnapshot} {record : JsRecord}
    (holds : ∀ field ∈ snapshot.fields, record field.1 = field.2) :
    parsePricingSnapshot (some (.object record)) = some snapshot.based := by
  simp only [PricingSnapshot.fields, List.forall_mem_cons, List.not_mem_nil, false_implies,
    implies_true, and_true] at holds
  simp [parsePricingSnapshot, storedRecord, holds, PricingSnapshot.based]

theorem parsePricingSnapshot_toJson (snapshot : PricingSnapshot) :
    parsePricingSnapshot (some snapshot.toJson) = some snapshot.based := by
  apply parsePricingSnapshot_of_fields
  simp [PricingSnapshot.fields, List.lookup_cons]

/-- Where a recurring amount has a base, the snapshot itself is read. -/
theorem PricingSnapshot.based_eq {snapshot : PricingSnapshot}
    (hasBase : snapshot.baseRecurringAmount = none → snapshot.recurringAmount = none) :
    snapshot.based = snapshot := by
  have same : snapshot.baseRecurringAmount.or snapshot.recurringAmount =
      snapshot.baseRecurringAmount := by
    rcases found : snapshot.baseRecurringAmount with _ | amount
    · exact hasBase found
    · rfl
  rw [based, same]

section Priced

variable {pricing : PlatformTierPricingVersion} {tierCode : String} {cpoType : CpoServiceType}
  {billingCycle : Option BillingCycle} {whiteLabelRequested : Bool} {snapshot : PricingSnapshot}

theorem amounts_of_standardSnapshot
    (taken : standardSnapshot pricing tierCode cpoType billingCycle whiteLabelRequested =
      .ok snapshot) : (∃ base, snapshot.baseRecurringAmount = some base) ∧
      ∃ total, snapshot.dueNowAmount = some (JsNumber.toFixed 2 total) := by
  unfold standardSnapshot at taken
  split at taken
  · contradiction
  · split at taken
    · contradiction
    · rename_i cycle _ base _
      rcases addons : resolveCpoPricingAddons pricing cpoType cycle with refusal | ⟨recurring, setup⟩
      · rw [addons] at taken
        contradiction
      · rw [addons] at taken
        cases taken
        exact ⟨⟨base, rfl⟩, _, rfl⟩

section

variable
    (taken : pricingSnapshot pricing tierCode cpoType billingCycle whiteLabelRequested = .ok snapshot)
include taken

theorem dueNowAmount_of_pricingSnapshot {amount : ℚ} (isDue : snapshot.dueNowAmount = some amount) :
    ∃ total, amount = JsNumber.toFixed 2 total := by
  unfold pricingSnapshot at taken
  split at taken
  · cases taken
    contradiction
  · rcases amounts_of_standardSnapshot taken with ⟨_, total, isTotal⟩
    exact ⟨total, Option.some.inj (isDue.symm.trans isTotal)⟩

/-- What is stored of a price is read back. -/
theorem parsePricingSnapshot_of_pricingSnapshot :
    parsePricingSnapshot (some snapshot.toJson) = some snapshot := by
  rw [parsePricingSnapshot_toJson, PricingSnapshot.based_eq]
  unfold pricingSnapshot at taken
  split at taken
  · cases taken
    exact fun _ => rfl
  · rcases amounts_of_standardSnapshot taken with ⟨⟨base, isBase⟩, _⟩
    rw [isBase]
    exact nofun

end

end Priced

def BillingCycle.months : BillingCycle → ℚ
  | .monthly => 1
  | .annual => 12

def cents (column : Option ℚ) : ℚ :=
  (toMoneyNumber column).getD 0

namespace PlatformTierPricingVersion

def cpoRecurring (pricing : PlatformTierPricingVersion) : CpoServiceType → BillingCycle → Option ℚ
  | .charge, _ => none
  | .swap, .monthly => pricing.swapMonthlyAddon
  | .swap, .annual => pricing.swapAnnualAddon
  | .hybrid, .monthly => pricing.hybridMonthlyAddon
  | .hybrid, .annual => pricing.hybridAnnualAddon

def cpoSetup (pricing : PlatformTierPricingVersion) : CpoServiceType → Option ℚ
  | .charge => none
  | .swap => pricing.swapSetupAddon
  | .hybrid => pricing.hybridSetupAddon

def recurring (pricing : PlatformTierPricingVersion) : BillingCycle → Option ℚ
  | .monthly => pricing.monthlyPrice
  | .annual => pricing.annualPrice

/-- What the setup and a period cost, with `months` of the white label. -/
def cost (pricing : PlatformTierPricingVersion) (cpoType : CpoServiceType) (cycle : BillingCycle)
    (whiteLabelRequested : Bool) (months : ℚ) : ℚ :=
  cents (pricing.recurring cycle) + cents (pricing.cpoRecurring cpoType cycle) +
      (if whiteLabelRequested then months * cents pricing.whiteLabelMonthlyAddon else 0) +
    (cents pricing.setupFee + cents (pricing.cpoSetup cpoType) +
      if whiteLabelRequested then cents pricing.whiteLabelSetupFee else 0)

end PlatformTierPricingVersion

section Due

variable {pricing : PlatformTierPricingVersion} {tierCode : String} {cpoType : CpoServiceType}
  {cycle : BillingCycle} {whiteLabelRequested : Bool} {snapshot : PricingSnapshot}

theorem toFixed_cents (column : Option ℚ) : JsNumber.toFixed 2 (cents column) = cents column := by
  cases column with
  | none => exact @JsNumber.toFixed_of_scaled 2 0 0 (by norm_num)
  | some amount => exact JsNumber.toFixed_toFixed le_rfl amount

theorem configuredAddons_eq_ok {name : String} {recurringAddon setupAddon : Option ℚ}
    {addons : ℚ × ℚ} (configured : configuredAddons name recurringAddon setupAddon = .ok addons) :
    addons = (cents recurringAddon, cents setupAddon) := by
  unfold configuredAddons at configured
  split at configured
  · rename_i isRecurring isSetup
    cases configured
    rw [cents, cents, isRecurring, isSetup]
    rfl
  · contradiction

theorem resolveCpoPricingAddons_eq_ok {addons : ℚ × ℚ}
    (resolved : resolveCpoPricingAddons pricing cpoType cycle = .ok addons) :
    addons = (cents (pricing.cpoRecurring cpoType cycle), cents (pricing.cpoSetup cpoType)) := by
  cases cpoType with
  | charge =>
    cases resolved
    rfl
  | swap => cases cycle <;> exact configuredAddons_eq_ok resolved
  | hybrid => cases cycle <;> exact configuredAddons_eq_ok resolved

/-- What is due now is the setup and the period with one month of the white label. -/
theorem dueNowAmount_eq
    (taken : standardSnapshot pricing tierCode cpoType (some cycle) whiteLabelRequested =
      .ok snapshot) :
    snapshot.dueNowAmount = some (pricing.cost cpoType cycle whiteLabelRequested 1) := by
  have fixed (column : Option ℚ) : JsNumber.toFixed 2 (if whiteLabelRequested then cents column
      else 0) = if whiteLabelRequested then cents column else 0 := by
    split
    · exact toFixed_cents column
    · exact toFixed_cents none
  unfold standardSnapshot at taken
  split at taken
  · contradiction
  · rename_i same
    cases same
    split at taken
    · contradiction
    · rename_i base isBase
      rcases addons : resolveCpoPricingAddons pricing cpoType cycle with refusal | ⟨recurring, setup⟩
      · rw [addons] at taken
        contradiction
      · rw [addons] at taken
        cases resolveCpoPricingAddons_eq_ok addons
        have isPrice : base = cents (pricing.recurring cycle) := by
          cases cycle <;> exact congrArg (Option.getD · 0) isBase.symm
        cases taken
        refine congrArg some ?_
        rw [isPrice, JsNumber.toFixed_add_eq (JsNumber.toFixed_toFixed le_rfl _)
          (JsNumber.toFixed_toFixed le_rfl _)]
        simp only [PlatformTierPricingVersion.cost, one_mul]
        exact congrArg₂ (· + ·)
          (JsNumber.toFixed_add_eq (JsNumber.toFixed_add_eq (toFixed_cents _) (toFixed_cents _))
            (fixed _))
          (JsNumber.toFixed_add_eq (JsNumber.toFixed_add_eq (toFixed_cents _) (toFixed_cents _))
            (fixed _))

/-- The snapshot asks for each month of the period, and is read back as it was stored. -/
def ChargesPeriod (pricing : PlatformTierPricingVersion) (cpoType : CpoServiceType)
    (cycle : BillingCycle) (whiteLabelRequested : Bool) (snapshot : PricingSnapshot) : Prop :=
  snapshot.dueNowAmount = some (pricing.cost cpoType cycle whiteLabelRequested cycle.months) ∧
    parsePricingSnapshot (some snapshot.toJson) = some snapshot

/-- The whole period is charged unless it is a year with a white label that has a monthly price,
of which only one month is charged. -/
theorem chargesPeriod_iff (standard : snapshot.isCustomPricing = false)
    (taken : pricingSnapshot pricing tierCode cpoType (some cycle) whiteLabelRequested =
      .ok snapshot) :
    ChargesPeriod pricing cpoType cycle whiteLabelRequested snapshot ↔
      cycle = .monthly ∨ whiteLabelRequested = false ∨ cents pricing.whiteLabelMonthlyAddon = 0 := by
  have isDue : snapshot.dueNowAmount = some (pricing.cost cpoType cycle whiteLabelRequested 1) := by
    unfold pricingSnapshot at taken
    split at taken
    · cases taken
      contradiction
    · exact dueNowAmount_eq taken
  rw [ChargesPeriod, and_iff_left (parsePricingSnapshot_of_pricingSnapshot taken), isDue,
    Option.some.injEq]
  simp only [PlatformTierPricingVersion.cost, add_left_inj, add_right_inj, one_mul]
  cases cycle with
  | monthly => simp [BillingCycle.months]
  | annual =>
    cases whiteLabelRequested with
    | false => simp
    | true =>
      simp only [BillingCycle.months, if_true, reduceCtorEq, false_or]
      constructor <;> intro same <;> linarith

end Due

namespace Sample

def scale : PlatformTierPricingVersion where
  tierCode := "T3"
  tierLabel := "T3 Scale"
  accountTypes := ["COMPANY", "ORGANIZATION"]
  currency := "USD"
  isCustomPricing := false
  monthlyPrice := some 1490
  annualPrice := some 15198
  setupFee := some 2000
  swapMonthlyAddon := none
  swapAnnualAddon := none
  swapSetupAddon := none
  hybridMonthlyAddon := none
  hybridAnnualAddon := none
  hybridSetupAddon := none
  whiteLabelAvailable := true
  whiteLabelMonthlyAddon := some 350
  whiteLabelSetupFee := some 600
  status := "ACTIVE"
  version := 1
  effectiveFrom := none
  publishedAt := none

end Sample

open Sample

theorem chargesPeriod_iff_scale :
    ∃ snapshot, pricingSnapshot scale "T3" .charge (some .monthly) true = .ok snapshot ∧
      ChargesPeriod scale .charge .monthly true snapshot := by
  have taken : pricingSnapshot scale "T3" .charge (some .monthly) true = .ok _ := rfl
  exact ⟨_, taken, (chargesPeriod_iff rfl taken).mpr (Or.inl rfl)⟩

/-- A year of the tier with a white label is due with one month of the white label. -/
theorem label_is_charged_for_one_month :
    ∃ snapshot, pricingSnapshot scale "T3" .charge (some .annual) true = .ok snapshot ∧
      snapshot.isCustomPricing = false ∧ snapshot.dueNowAmount = some 18148 ∧
        ¬ ChargesPeriod scale .charge .annual true snapshot := by
  refine ⟨_, rfl, rfl, by decide +kernel, fun charges => ?_⟩
  exact absurd charges.1 (by decide +kernel)

end Csms.Applications
