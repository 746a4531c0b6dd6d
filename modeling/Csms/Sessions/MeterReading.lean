import Csms.Sessions.Store
import Csms.Table.Newest

/-!
# The meter reading of a transaction event

An event carries entries of one time each, and an entry carries samples of several measurands.
The session service takes the first sample of an energy register, whatever the times are.
-/

namespace Csms.Sessions

open Js

section

variable (engine : SessionEngine)

def meterEntries (payload : JsRecord) : List JsRecord :=
  (itemsOf (payload "meterValue")).filterMap readRecord

def samplesOf (entry : JsRecord) : List JsRecord :=
  (itemsOf (entry "sampledValue")).filterMap readRecord

def takenAt (entry : JsRecord) : WithBot Int :=
  toDate engine (entry "timestamp")

def measurandOf (sampled : JsRecord) : String :=
  toLowerCase (trim ((readString (sampled "measurand")).getD ""))

def unitOf (sampled : JsRecord) : String :=
  toLowerCase (trim (((readString (fieldOf (readRecord (sampled "unitOfMeasure")) "unit")).or
    (readString (sampled "unit"))).getD ""))

/-- The power of ten of the unit, 0 when none is given. -/
def multiplierOf (sampled : JsRecord) : Int :=
  match toFiniteNumber engine (fieldOf (readRecord (sampled "unitOfMeasure")) "multiplier") with
  | some value => if value.den = 1 then value.num else 0
  | none => 0

/-- The value in the unit that is named: Wh unless it is kWh. -/
def valueWh (sampled : JsRecord) : Option ℚ :=
  (toFiniteNumber engine (sampled "value")).map fun value =>
    if unitOf sampled = "kwh" then value * 1000 else value

def measuredWh (sampled : JsRecord) : Option ℚ :=
  (valueWh engine sampled).map (· * 10 ^ multiplierOf engine sampled)

/-- A sample of a register of energy, import by default. -/
def isRegister (sampled : JsRecord) : Bool :=
  (valueWh engine sampled).isSome &&
    (measurandOf sampled = "" || measurandOf sampled ∈ energyMeasurands)

def isImport (sampled : JsRecord) : Bool :=
  (valueWh engine sampled).isSome &&
    (measurandOf sampled = "" || measurandOf sampled = "energy.active.import.register")

/-- No entry with an import reading is later. -/
def IsLatest (payload entry : JsRecord) : Prop :=
  IsNewest (takenAt engine)
    ((meterEntries payload).filter fun entry => (samplesOf entry).any (isImport engine)) entry

/-- What is extracted was measured by an import sample of the latest entry that has one. -/
def ExtractsLatest (payload : JsRecord) : Prop :=
  ∃ entry, IsLatest engine payload entry ∧ ∃ sampled ∈ samplesOf entry,
    isImport engine sampled = true ∧
      extractMeterWhFromTransactionEvent engine payload = measuredWh engine sampled

/-- The register samples with their entries, in the order of the payload. -/
def registers (payload : JsRecord) : List (JsRecord × JsRecord) :=
  (meterEntries payload).flatMap fun entry =>
    ((samplesOf entry).filter (isRegister engine)).map (entry, ·)

variable {engine}

theorem sampledMeterWh_eq (sampled : JsRecord) : sampledMeterWh engine (.object sampled) =
      if isRegister engine sampled then valueWh engine sampled else none := by
  have unfolded : sampledMeterWh engine (.object sampled) =
      (toFiniteNumber engine (sampled "value")).bind fun value =>
        if measurandOf sampled ≠ "" ∧ measurandOf sampled ∉ energyMeasurands then none
        else some (if unitOf sampled = "kwh" then value * 1000 else value) := by
    rfl
  rw [unfolded, isRegister, valueWh, Option.isSome_map]
  cases toFiniteNumber engine (sampled "value") with
  | none => rfl
  | some value =>
    by_cases isNone : measurandOf sampled = "" <;>
      by_cases isEnergy : measurandOf sampled ∈ energyMeasurands <;>
        simp [isNone, isEnergy]

theorem findSome?_sampledMeterWh (values : List JsValue) :
    values.findSome? (sampledMeterWh engine) =
      ((values.filterMap readRecord).filter (isRegister engine)).head?.bind (valueWh engine) := by
  induction values with
  | nil => rfl
  | cons value values ih =>
    cases isRecord : readRecord value with
    | none =>
      have skipped : sampledMeterWh engine value = none := by rw [sampledMeterWh, isRecord]; rfl
      rw [List.findSome?_cons, skipped, ih, List.filterMap_cons_none isRecord]
    | some sampled =>
      have same : sampledMeterWh engine value = sampledMeterWh engine (.object sampled) := by
        rw [sampledMeterWh, sampledMeterWh, isRecord]; rfl
      rw [List.findSome?_cons, same, sampledMeterWh_eq, ih, List.filterMap_cons_some isRecord]
      cases register : isRegister engine sampled with
      | false => rw [List.filter_cons_of_neg (by simp [register])]; rfl
      | true =>
        have isSome := (Bool.and_eq_true_iff.mp register).1
        rw [List.filter_cons_of_pos register, if_pos rfl, List.head?_cons, Option.bind_some]
        cases isValue : valueWh engine sampled with
        | none => rw [isValue] at isSome; contradiction
        | some value => rfl

/-- The loops take the first register sample. -/
theorem extractMeterWh_eq (payload : JsRecord) : extractMeterWhFromTransactionEvent engine payload =
      (registers engine payload).head?.bind fun register => valueWh engine register.2 := by
  rw [extractMeterWhFromTransactionEvent, registers, meterEntries]
  induction itemsOf (payload "meterValue") with
  | nil => rfl
  | cons meterValue meterValues ih =>
    rw [List.findSome?_cons, ih]
    cases isRecord : readRecord meterValue with
    | none => rw [List.filterMap_cons_none isRecord]; rfl
    | some entry =>
      rw [List.filterMap_cons_some isRecord, List.flatMap_cons, Option.bind_some,
        findSome?_sampledMeterWh]
      rw [← samplesOf]
      cases ofEntry : (samplesOf entry).filter (isRegister engine) with
      | nil => rfl
      | cons sampled others =>
        have register := List.of_mem_filter (ofEntry ▸ List.mem_cons_self :
          sampled ∈ (samplesOf entry).filter (isRegister engine))
        obtain ⟨value, isValue⟩ :=
          Option.isSome_iff_exists.mp (Bool.and_eq_true_iff.mp register).1
        rw [List.head?_cons, Option.bind_some, isValue]
        exact isValue.symm

/-- An event is read right exactly when its first register sample is an import sample, without a
multiplier, of the latest entry that has one, or happens to have the value that such a sample
measured. -/
theorem extractsLatest_iff {payload : JsRecord} : ExtractsLatest engine payload ↔
      ∃ register, (registers engine payload).head? = some register ∧
        ((IsLatest engine payload register.1 ∧ isImport engine register.2 = true ∧
            multiplierOf engine register.2 = 0) ∨
          ∃ entry, IsLatest engine payload entry ∧ ∃ sampled ∈ samplesOf entry,
            isImport engine sampled = true ∧
              measuredWh engine sampled = valueWh engine register.2) := by
  rw [ExtractsLatest, extractMeterWh_eq]
  constructor
  · rintro ⟨entry, isLatest, sampled, isSample, isImported, extracted⟩
    obtain ⟨value, isValue⟩ :=
      Option.isSome_iff_exists.mp (Bool.and_eq_true_iff.mp isImported).1
    rw [measuredWh, isValue, Option.map_some] at extracted
    obtain ⟨register, isFirst, taken⟩ := Option.bind_eq_some_iff.mp extracted
    refine ⟨register, isFirst, Or.inr ⟨entry, isLatest, sampled, isSample, isImported, ?_⟩⟩
    rw [measuredWh, isValue, Option.map_some, taken]
  · rintro ⟨register, isFirst, ⟨isLatest, isImported, noMultiplier⟩ |
      ⟨entry, isLatest, sampled, isSample, isImported, same⟩⟩
    · obtain ⟨entry, -, ofEntry⟩ := List.mem_flatMap.mp (List.mem_of_mem_head? isFirst)
      obtain ⟨sampled, isSample, rfl⟩ := List.mem_map.mp ofEntry
      refine ⟨entry, isLatest, sampled, List.mem_of_mem_filter isSample, isImported, ?_⟩
      rw [isFirst, Option.bind_some, measuredWh, noMultiplier, zpow_zero]
      simp
    · exact ⟨entry, isLatest, sampled, isSample, isImported, by rw [isFirst, same]; rfl⟩

end

namespace Sample

def plainEngine : SessionEngine where
  localeCompare _ _ := 0
  parseDateText _ := none
  coerceNumber _ := .nan
  parseJson _ := none
  numberText _ := ""

def sampled (value : Int) : JsRecord := fun field =>
  if field = "value" then .number (.ofInt value) else .undefined

def entry (milliseconds value : Int) : JsRecord := fun field =>
  if field = "timestamp" then .number (.ofInt milliseconds)
  else if field = "sampledValue" then .array [.object (sampled value)]
  else .undefined

def ended : JsRecord := fun field =>
  if field = "meterValue" then .array [.object (entry 0 100), .object (entry 3600000 5100)]
  else .undefined

end Sample

open Sample

/-- The reading of the begin is taken, not that of the end. -/
theorem ended_not_extractsLatest :
    extractMeterWhFromTransactionEvent plainEngine ended = some 100 ∧
      (∃ entry ∈ meterEntries ended,
        (samplesOf entry).any (isImport plainEngine) = true) ∧
        ¬ExtractsLatest plainEngine ended := by
  have extracted : extractMeterWhFromTransactionEvent plainEngine ended = some 100 := by
    decide +kernel
  refine ⟨extracted, ⟨Sample.entry 0 100, List.mem_cons_self, by decide +kernel⟩, ?_⟩
  rintro ⟨found, isLatest, value, isSample, -, same⟩
  have isEntry : found ∈ [Sample.entry 0 100, Sample.entry 3600000 5100] :=
    (List.mem_filter.mp isLatest.mem).1
  rcases List.mem_pair.mp isEntry with rfl | rfl
  · have later : Sample.entry 3600000 5100 ∈ (meterEntries ended).filter fun entry =>
        (samplesOf entry).any (isImport plainEngine) :=
      List.mem_filter.mpr ⟨List.mem_cons_of_mem _ List.mem_cons_self, by decide +kernel⟩
    exact absurd (isLatest.newest _ later) (by decide +kernel)
  · obtain rfl : value = sampled 5100 := List.mem_singleton.mp isSample
    rw [extracted] at same
    exact absurd same (by decide +kernel)

end Csms.Sessions
