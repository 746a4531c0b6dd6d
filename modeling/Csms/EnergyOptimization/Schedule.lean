import Csms.Allocation.Cheapest
import Csms.Js.Value
import Mathlib.Data.List.Sort

/-!
# The schedule of an optimization plan

`generateSchedule` cuts a window into slots of an hour, prices each by the tariff band in force at
its start and charges in the cheapest ones until the target energy is met.  This file has the
schedule; that its slots partition the window; that the choice among them is optimal; and when a
slot's price is the one in force all through it.  Times are milliseconds since the epoch.
-/

namespace Csms.EnergyOptimization

open Allocation Js

structure TariffBand where
  (id label : String)
  (startHour endHour : Int)
  daysOfWeek : List Int
  pricePerKwh : ℚ
  deriving DecidableEq

/-- The argument of `generateSchedule`.  `dayHour` is `extractDayHour` in the timezone: the day
of the week and the hour of the day of an instant. -/
structure ScheduleInput where
  (windowStart windowEnd : Int)
  timezone : String
  dayHour : Int → Int × Int
  bands : List TariffBand
  (maxChargeAmps minChargeAmps targetEnergyKwh : ℚ)

structure Slot where
  (startAt endAt : Int)
  deriving DecidableEq

def hourMs : Int :=
  3600 * 1000

/-- The loop of `buildSlots` from a cursor on; each pass moves the cursor on by a millisecond at
least, so there are no more passes than milliseconds. -/
def buildSlotsFrom (windowEnd : Int) : Nat → Int → List Slot
  | 0, _ => []
  | passes + 1, cursor =>
    if cursor < windowEnd then
      let next := min (cursor + hourMs) windowEnd
      ⟨cursor, next⟩ :: buildSlotsFrom windowEnd passes next
    else []

def buildSlots (windowStart windowEnd : Int) : List Slot :=
  buildSlotsFrom windowEnd (windowEnd - windowStart).toNat windowStart

def bandAt (input : ScheduleInput) (instant : Int) : Option TariffBand :=
  let (day, hour) := input.dayHour instant
  input.bands.find? fun entry =>
    day ∈ entry.daysOfWeek ∧ entry.startHour ≤ hour ∧ hour < entry.endHour

def ampsToKw (amps : ℚ) : ℚ :=
  JsNumber.toFixed 4 (amps * 3 * 230 / 1000)

/-- A slot with its price; `⊤` is `Number.POSITIVE_INFINITY`. -/
structure PricedSlot where
  slotIndex : Nat
  (startAt endAt : Int)
  (slotHours energyKwh : ℚ)
  band : Option TariffBand
  pricePerKwh : WithTop ℚ

def pricedSlot (input : ScheduleInput) (index : Nat) (slot : Slot) : PricedSlot :=
  let band := bandAt input slot.startAt
  let slotHours : ℚ := (slot.endAt - slot.startAt : Int) / 3600000
  { slotIndex := index
    startAt := slot.startAt
    endAt := slot.endAt
    slotHours
    energyKwh := JsNumber.toFixed 4 (slotHours * ampsToKw input.maxChargeAmps)
    band
    pricePerKwh := band.elim ⊤ fun band => (band.pricePerKwh : WithTop ℚ) }

def pricedSlots (input : ScheduleInput) : List PricedSlot :=
  (buildSlots input.windowStart input.windowEnd).mapIdx (pricedSlot input)

/-- The comparator of `sort` does not put `right` first. -/
def ComesFirst (left right : PricedSlot) : Prop :=
  left.pricePerKwh < right.pricePerKwh ∨
    left.pricePerKwh = right.pricePerKwh ∧ left.startAt ≤ right.startAt

instance : DecidableRel ComesFirst :=
  fun _ _ => inferInstanceAs (Decidable (_ ∨ _))

def sortedForCharge (input : ScheduleInput) : List PricedSlot :=
  (pricedSlots input).insertionSort ComesFirst

/-- The slots of `chargeSlotSet` and the `remainingEnergy` of the loop that collects them. -/
def chargeSlots (input : ScheduleInput) : List PricedSlot × ℚ :=
  takeWhileShort PricedSlot.energyKwh (sortedForCharge input) input.targetEnergyKwh

inductive ScheduleAction where
  | charge
  | idle
  deriving DecidableEq

structure ScheduleEntry where
  (startAt endAt : Int)
  action : ScheduleAction
  (targetAmps projectedEnergyKwh projectedCost : ℚ)
  pricePerKwh : Option ℚ
  (tariffBandId tariffBandLabel : Option String)
  reason : String
  deriving DecidableEq

def costOf (energyKwh : ℚ) (pricePerKwh : Option ℚ) : ℚ :=
  pricePerKwh.elim 0 fun price => JsNumber.toFixed 4 (energyKwh * price)

def scheduleEntry (input : ScheduleInput) (slot : PricedSlot) : ScheduleEntry :=
  let shouldCharge := slot.slotIndex ∈ (chargeSlots input).1.map (·.slotIndex)
  let powerKw := ampsToKw (if shouldCharge then input.maxChargeAmps else input.minChargeAmps)
  let projectedEnergyKwh := JsNumber.toFixed 4 (slot.slotHours * powerKw)
  let pricePerKwh : Option ℚ := slot.pricePerKwh
  { startAt := slot.startAt
    endAt := slot.endAt
    action := if shouldCharge then .charge else .idle
    targetAmps := if shouldCharge then input.maxChargeAmps else input.minChargeAmps
    projectedEnergyKwh
    projectedCost := costOf projectedEnergyKwh pricePerKwh
    pricePerKwh
    tariffBandId := orText (slot.band.map (·.id)) none
    tariffBandLabel := orText (slot.band.map (·.label)) none
    reason :=
      if shouldCharge then
        if pricePerKwh = none then "No tariff band available; selected to satisfy energy target."
        else "Selected among lowest-cost tariff windows."
      else "Outside lowest-cost windows for this target energy." }

structure Schedule where
  entries : List ScheduleEntry
  (targetEnergyKwh projectedEnergyKwh projectedCost : ℚ)
  (chargeWindowCount totalWindowCount : Nat)
  (maxChargeAmps minChargeAmps : ℚ)
  timezone : String
  remainingEnergyKwh : ℚ
  hasMissingTariffSlots : Bool

def generateSchedule (input : ScheduleInput) : Schedule :=
  let entries := (pricedSlots input).map (scheduleEntry input)
  { entries
    targetEnergyKwh := input.targetEnergyKwh
    projectedEnergyKwh := JsNumber.toFixed 4 (entries.map (·.projectedEnergyKwh)).sum
    projectedCost := JsNumber.toFixed 4 (entries.map (·.projectedCost)).sum
    chargeWindowCount := (entries.filter (·.action = .charge)).length
    totalWindowCount := entries.length
    maxChargeAmps := input.maxChargeAmps
    minChargeAmps := input.minChargeAmps
    timezone := input.timezone
    remainingEnergyKwh := JsNumber.toFixed 4 (max 0 (chargeSlots input).2)
    hasMissingTariffSlots := entries.any (·.pricePerKwh = none) }

/-- The slots cover the window, each instant once, and nothing else. -/
structure PartitionsWindow (windowStart windowEnd : Int) (slots : List Slot) : Prop where
  within : ∀ slot ∈ slots,
    windowStart ≤ slot.startAt ∧ slot.startAt < slot.endAt ∧ slot.endAt ≤ windowEnd
  apart : slots.Pairwise fun earlier later => earlier.endAt ≤ later.startAt
  covers : ∀ instant, windowStart ≤ instant → instant < windowEnd →
    ∃ slot ∈ slots, slot.startAt ≤ instant ∧ instant < slot.endAt

variable {windowEnd cursor : Int}

theorem buildSlotsFrom_of_le (passes : Nat) (isOver : windowEnd ≤ cursor) :
    buildSlotsFrom windowEnd passes cursor = [] := by
  cases passes with
  | zero => rfl
  | succ passes => rw [buildSlotsFrom, if_neg (not_lt.mpr isOver)]

theorem partitionsWindow_buildSlotsFrom {passes : Nat}
    (enough : (windowEnd - cursor).toNat ≤ passes) :
    PartitionsWindow cursor windowEnd (buildSlotsFrom windowEnd passes cursor) := by
  induction passes generalizing cursor with
  | zero => exact ⟨by simp [buildSlotsFrom], by simp [buildSlotsFrom], fun _ _ _ => by omega⟩
  | succ passes ih =>
    rw [buildSlotsFrom]
    split
    · have hour : hourMs = 3600000 := rfl
      obtain ⟨within, apart, covers⟩ :=
        @ih (min (cursor + hourMs) windowEnd) (by omega)
      refine ⟨?_, List.pairwise_cons.mpr ⟨fun slot isSlot => (within slot isSlot).1, apart⟩, ?_⟩
      · rw [List.forall_mem_cons]
        refine ⟨⟨le_rfl, by dsimp only; omega, min_le_right _ _⟩, fun slot isSlot => ?_⟩
        have := within slot isSlot
        omega
      · intro instant after before
        rcases lt_or_ge instant (min (cursor + hourMs) windowEnd) with early | late
        · exact ⟨_, List.mem_cons_self, after, early⟩
        · obtain ⟨slot, isSlot, inside⟩ := covers instant late before
          exact ⟨slot, List.mem_cons_of_mem _ isSlot, inside⟩
    · exact ⟨by simp, List.Pairwise.nil, fun _ _ _ => by omega⟩

theorem partitionsWindow_buildSlots (windowStart windowEnd : Int) :
    PartitionsWindow windowStart windowEnd (buildSlots windowStart windowEnd) :=
  partitionsWindow_buildSlotsFrom le_rfl

theorem hour_of_mem_buildSlotsFrom {passes : Nat} {slot : Slot}
    (isSlot : slot ∈ buildSlotsFrom windowEnd passes cursor) :
    hourMs ∣ slot.startAt - cursor ∧ slot.endAt = min (slot.startAt + hourMs) windowEnd := by
  induction passes generalizing cursor with
  | zero => exact absurd isSlot List.not_mem_nil
  | succ passes ih =>
    rw [buildSlotsFrom] at isSlot
    split at isSlot
    · rcases List.mem_cons.mp isSlot with rfl | isLater
      · exact ⟨by simp, rfl⟩
      · obtain ⟨divides, isEnd⟩ := ih isLater
        refine ⟨?_, isEnd⟩
        rcases le_total (cursor + hourMs) windowEnd with full | partial_
        · rw [min_eq_left full] at divides
          have more := dvd_add divides (dvd_refl hourMs)
          rwa [sub_add_eq_sub_sub, sub_add_cancel] at more
        · -- the window is used up
          rw [min_eq_right partial_] at isLater
          rw [buildSlotsFrom_of_le passes le_rfl] at isLater
          exact absurd isLater List.not_mem_nil
    · exact absurd isSlot List.not_mem_nil

variable {slot : PricedSlot}

section Choice

variable (input : ScheduleInput)

theorem toFixed_mono {digits : Nat} {less more : ℚ} (nonneg : 0 ≤ less) (le : less ≤ more) :
    JsNumber.toFixed digits less ≤ JsNumber.toFixed digits more := by
  rw [JsNumber.toFixed, JsNumber.toFixed, if_neg (not_lt.mpr nonneg),
    if_neg (not_lt.mpr (nonneg.trans le))]
  gcongr

theorem toFixed_nonpos {digits : Nat} {value : ℚ} (nonpos : value ≤ 0) :
    JsNumber.toFixed digits value ≤ 0 := by
  rcases nonpos.eq_or_lt with rfl | negative
  · norm_num [JsNumber.toFixed]
  · have opposite := JsNumber.toFixed_nonneg digits (neg_pos.mpr negative).le
    rw [JsNumber.toFixed, if_neg (not_lt.mpr (neg_pos.mpr negative).le)] at opposite
    rw [JsNumber.toFixed, if_pos negative]
    exact neg_nonpos.mpr opposite

/-- The slots in the order of their price are by price, then by time. -/
theorem pairwise_sortedForCharge : (sortedForCharge input).Pairwise ComesFirst := by
  have : Std.Total ComesFirst := ⟨fun left right => by
    unfold ComesFirst
    rcases lt_trichotomy left.pricePerKwh right.pricePerKwh with less | same | more
    · exact Or.inl (Or.inl less)
    · rcases le_total left.startAt right.startAt with first | second
      · exact Or.inl (Or.inr ⟨same, first⟩)
      · exact Or.inr (Or.inr ⟨same.symm, second⟩)
    · exact Or.inr (Or.inl more)⟩
  have : IsTrans PricedSlot ComesFirst := ⟨fun first second third => by
    unfold ComesFirst
    rintro (less | ⟨same, before⟩) (less' | ⟨same', before'⟩)
    · exact Or.inl (less.trans less')
    · exact Or.inl (less.trans_eq same')
    · exact Or.inl (same.trans_lt less')
    · exact Or.inr ⟨same.trans same', before.trans before'⟩⟩
  exact List.pairwise_insertionSort ComesFirst _

variable {input}

theorem exists_of_mem_pricedSlots (isSlot : slot ∈ pricedSlots input) :
    ∃ index, ∃ plain ∈ buildSlots input.windowStart input.windowEnd,
      slot = pricedSlot input index plain := by
  obtain ⟨index, inside, isPriced⟩ := List.mem_mapIdx.mp isSlot
  exact ⟨index, _, List.getElem_mem inside, isPriced.symm⟩

theorem slotHours_of_mem_pricedSlots (isSlot : slot ∈ pricedSlots input) :
    slot.slotHours = (min hourMs (input.windowEnd - slot.startAt) : Int) / 3600000 ∧
      0 ≤ slot.slotHours ∧
        slot.energyKwh = JsNumber.toFixed 4 (slot.slotHours * ampsToKw input.maxChargeAmps) := by
  obtain ⟨index, plain, isPlain, rfl⟩ := exists_of_mem_pricedSlots isSlot
  have isEnd := (hour_of_mem_buildSlotsFrom isPlain).2
  have inside := (partitionsWindow_buildSlots _ _).within plain isPlain
  have duration : plain.endAt - plain.startAt = min hourMs (input.windowEnd - plain.startAt) := by
    rw [isEnd]
    omega
  refine ⟨?_, ?_, rfl⟩
  · rw [pricedSlot, duration]
  · rw [pricedSlot]
    have : (0 : ℚ) ≤ (plain.endAt - plain.startAt : Int) := by exact_mod_cast by omega
    positivity

/-- Of slots of one price no later one takes more energy. -/
theorem pairwise_energy_sortedForCharge (nonneg : 0 ≤ ampsToKw input.maxChargeAmps) :
    (sortedForCharge input).Pairwise fun earlier later =>
      earlier.pricePerKwh ≤ later.pricePerKwh ∧
        (earlier.pricePerKwh = later.pricePerKwh → later.energyKwh ≤ earlier.energyKwh) := by
  refine (pairwise_sortedForCharge input).imp_of_mem
    fun {earlier later} isEarlier isLater first => ?_
  have priced {slot : PricedSlot} (isSlot : slot ∈ sortedForCharge input) :=
    slotHours_of_mem_pricedSlots ((List.perm_insertionSort _ _).mem_iff.mp isSlot)
  refine ⟨first.elim le_of_lt fun same => same.1.le, fun same => ?_⟩
  have before : earlier.startAt ≤ later.startAt :=
    first.elim (fun less => absurd same less.ne) And.right
  obtain ⟨earlierHours, -, earlierEnergy⟩ := priced isEarlier
  obtain ⟨laterHours, laterNonneg, laterEnergy⟩ := priced isLater
  have shorter : later.slotHours ≤ earlier.slotHours := by
    rw [laterHours, earlierHours]
    gcongr
  rw [laterEnergy, earlierEnergy]
  exact toFixed_mono (mul_nonneg laterNonneg nonneg) (mul_le_mul_of_nonneg_right shorter nonneg)

theorem nodup_slotIndex_pricedSlots : ((pricedSlots input).map (·.slotIndex)).Nodup := by
  rw [pricedSlots, List.mapIdx_eq_zipIdx_map, List.map_map]
  change (List.map Prod.snd _).Nodup
  rw [List.zipIdx_map_snd]
  exact List.nodup_range'

/-- The loop's set of indexes holds those of the slots it took. -/
theorem slotIndex_mem_iff (isSlot : slot ∈ pricedSlots input) :
    slot.slotIndex ∈ (chargeSlots input).1.map (·.slotIndex) ↔ slot ∈ (chargeSlots input).1 := by
  constructor
  · intro isIndex
    obtain ⟨taken, isTaken, same⟩ := List.mem_map.mp isIndex
    have isPriced := (List.perm_insertionSort _ _).mem_iff.mp
      ((takeWhileShort_isFront _ _ _).subset isTaken)
    rwa [List.inj_on_of_nodup_map nodup_slotIndex_pricedSlots isPriced isSlot same] at isTaken
  · exact fun isTaken => List.mem_map_of_mem isTaken

theorem perm_chargeSlots : ((pricedSlots input).filter fun slot =>
      slot.slotIndex ∈ (chargeSlots input).1.map (·.slotIndex)).Perm (chargeSlots input).1 := by
  have priced := List.perm_insertionSort ComesFirst (pricedSlots input)
  have distinct : (pricedSlots input).Nodup := nodup_slotIndex_pricedSlots.of_map
  have taken := (takeWhileShort_isFront PricedSlot.energyKwh (sortedForCharge input)
    input.targetEnergyKwh).sublist
  refine (List.perm_ext_iff_of_nodup (distinct.filter _)
    ((priced.nodup_iff.mpr distinct).sublist taken)).mpr fun slot => ?_
  rw [List.mem_filter, decide_eq_true_iff]
  constructor
  · exact fun ⟨isSlot, isCharged⟩ => (slotIndex_mem_iff isSlot).mp isCharged
  · intro isTaken
    exact ⟨priced.mem_iff.mp (taken.subset isTaken), List.mem_map_of_mem isTaken⟩

end Choice

def ScheduleEntry.price (entry : ScheduleEntry) : WithTop ℚ :=
  entry.pricePerKwh

def Schedule.chargedEntries (schedule : Schedule) : List ScheduleEntry :=
  schedule.entries.filter (·.action = .charge)

def Schedule.chargedEnergyKwh (schedule : Schedule) : ℚ :=
  (schedule.chargedEntries.map (·.projectedEnergyKwh)).sum

/-- The slots partition the window, none left idle is cheaper than one that charges, and those
that charge meet the target, or are all there are, and none of the dearest can be spared. -/
structure OptimalSchedule (input : ScheduleInput) (schedule : Schedule) : Prop where
  partition : PartitionsWindow input.windowStart input.windowEnd
    (schedule.entries.map fun entry => ⟨entry.startAt, entry.endAt⟩)
  cheapest : ∀ charged ∈ schedule.chargedEntries, ∀ idle ∈ schedule.entries,
    idle.action = .idle → charged.price ≤ idle.price
  delivers : input.targetEnergyKwh ≤ schedule.chargedEnergyKwh ∨
    ∀ entry ∈ schedule.entries, entry.action = .charge
  minimal : ∀ dearest ∈ schedule.chargedEntries,
    (∀ other ∈ schedule.chargedEntries, other.price ≤ dearest.price) →
      schedule.chargedEnergyKwh - dearest.projectedEnergyKwh < input.targetEnergyKwh

section Optimal

variable {input : ScheduleInput}

theorem slots_generateSchedule :
    (generateSchedule input).entries.map (fun entry => Slot.mk entry.startAt entry.endAt) =
      buildSlots input.windowStart input.windowEnd := by
  rw [generateSchedule, pricedSlots, List.map_map, List.mapIdx_eq_zipIdx_map, List.map_map]
  exact List.zipIdx_map_fst _ _

theorem action_scheduleEntry (isSlot : slot ∈ pricedSlots input) :
    (scheduleEntry input slot).action = .charge ↔ slot ∈ (chargeSlots input).1 := by
  rw [← slotIndex_mem_iff isSlot, scheduleEntry]
  split <;> simp_all

theorem energy_scheduleEntry (isTaken : slot ∈ (chargeSlots input).1)
    (isSlot : slot ∈ pricedSlots input) :
    (scheduleEntry input slot).projectedEnergyKwh = slot.energyKwh := by
  rw [(slotHours_of_mem_pricedSlots isSlot).2.2, scheduleEntry]
  simp only [(slotIndex_mem_iff isSlot).mpr isTaken, if_true]

theorem chargedEntries_generateSchedule : (generateSchedule input).chargedEntries =
      ((pricedSlots input).filter fun slot =>
        slot.slotIndex ∈ (chargeSlots input).1.map (·.slotIndex)).map (scheduleEntry input) := by
  rw [Schedule.chargedEntries, generateSchedule, List.filter_map]
  refine congrArg _ (List.filter_congr fun slot _ => ?_)
  rw [Function.comp_apply, scheduleEntry]
  split <;> simp_all

theorem mem_chargedEntries_iff {entry : ScheduleEntry} :
    entry ∈ (generateSchedule input).chargedEntries ↔ ∃ slot ∈ (chargeSlots input).1,
        slot ∈ pricedSlots input ∧ scheduleEntry input slot = entry := by
  rw [chargedEntries_generateSchedule, (perm_chargeSlots.map _).mem_iff, List.mem_map]
  refine exists_congr fun slot => and_congr_right fun isTaken => ?_
  have isSlot := (List.mem_filter.mp (perm_chargeSlots.mem_iff.mpr isTaken)).1
  exact (and_iff_right isSlot).symm

theorem chargedEnergyKwh_generateSchedule :
    (generateSchedule input).chargedEnergyKwh = ((chargeSlots input).1.map (·.energyKwh)).sum := by
  rw [Schedule.chargedEnergyKwh, chargedEntries_generateSchedule, List.map_map,
    ((perm_chargeSlots.map _).sum_eq)]
  refine congrArg List.sum (List.map_congr_left fun slot isTaken => ?_)
  exact energy_scheduleEntry isTaken
    (List.mem_filter.mp (perm_chargeSlots.mem_iff.mpr isTaken)).1

end Optimal

def priceAt (input : ScheduleInput) (instant : Int) : Option ℚ :=
  (bandAt input instant).map (·.pricePerKwh)

/-- Every entry has the price in force at each instant of its slot, and the cost at that price. -/
def PricedThroughout (input : ScheduleInput) (schedule : Schedule) : Prop :=
  ∀ entry ∈ schedule.entries, ∀ instant, entry.startAt ≤ instant → instant < entry.endAt →
    entry.pricePerKwh = priceAt input instant ∧
      entry.projectedCost = costOf entry.projectedEnergyKwh (priceAt input instant)

/-- Within the window the price changes only whole hours after its start. -/
def ChangesOnTheHour (input : ScheduleInput) : Prop :=
  ∀ instant, input.windowStart < instant → instant < input.windowEnd →
    priceAt input (instant - 1) ≠ priceAt input instant → hourMs ∣ instant - input.windowStart

theorem price_scheduleEntry {input : ScheduleInput} (isSlot : slot ∈ pricedSlots input) :
    (scheduleEntry input slot).pricePerKwh = priceAt input slot.startAt := by
  obtain ⟨index, plain, -, rfl⟩ := exists_of_mem_pricedSlots isSlot
  change (pricedSlot input index plain).pricePerKwh = priceAt input plain.startAt
  rw [pricedSlot, priceAt]
  cases bandAt input plain.startAt <;> rfl

/-- For every window and band set the entries are priced by the tariff in force all through their
slots exactly when the price changes on the hour, counted from the window's start. -/
theorem pricedThroughout_iff (input : ScheduleInput) :
    PricedThroughout input (generateSchedule input) ↔ ChangesOnTheHour input := by
  constructor
  · intro priced instant after before changes
    obtain ⟨slot, isSlot, starts, ends⟩ :=
      (partitionsWindow_buildSlots _ _).covers instant after.le before
    rcases starts.eq_or_lt with isStart | inside
    · exact isStart ▸ (hour_of_mem_buildSlotsFrom isSlot).1
    · rw [← slots_generateSchedule] at isSlot
      obtain ⟨entry, isEntry, rfl⟩ := List.mem_map.mp isSlot
      have earlier := (priced entry isEntry (instant - 1) (Int.le_sub_one_of_lt inside)
        ((sub_one_lt instant).trans ends)).1
      exact absurd (earlier.symm.trans (priced entry isEntry instant starts ends).1) changes
  · intro onTheHour entry isEntry instant starts ends
    obtain ⟨slot, isSlot, rfl⟩ := List.mem_map.mp isEntry
    have same : priceAt input slot.startAt = priceAt input instant := by
      obtain ⟨index, plain, isPlain, rfl⟩ := exists_of_mem_pricedSlots isSlot
      obtain ⟨divides, isEnd⟩ := hour_of_mem_buildSlotsFrom isPlain
      have inside := (partitionsWindow_buildSlots _ _).within plain isPlain
      change plain.startAt ≤ instant at starts
      change instant < plain.endAt at ends
      change priceAt input plain.startAt = _
      induction instant, starts using Int.leInduction with
      | base => rfl
      | succ instant starts ih =>
        rw [ih (by omega)]
        by_contra changes
        have onHour := onTheHour (instant + 1) (by omega) (by omega) (by simpa using changes)
        rw [show hourMs = 3600000 from rfl] at divides isEnd onHour
        omega
    have isPrice := (price_scheduleEntry isSlot).trans same
    exact ⟨isPrice, congrArg (costOf _) isPrice⟩

/-- An hour from half past midnight, with a dearer band from one o'clock on. -/
def Sample.halfPast : ScheduleInput where
  windowStart := 1800000
  windowEnd := 5400000
  timezone := "UTC"
  dayHour instant := ((instant / 86400000 + 4) % 7, instant / 3600000 % 24)
  bands := [⟨"night", "Night", 0, 1, [0, 1, 2, 3, 4, 5, 6], 1⟩,
    ⟨"day", "Day", 1, 24, [0, 1, 2, 3, 4, 5, 6], 2⟩]
  maxChargeAmps := 32
  minChargeAmps := 6
  targetEnergyKwh := 10

/-- The half hour after one o'clock is charged at the night price. -/
theorem halfPast_not_pricedThroughout :
    ¬PricedThroughout Sample.halfPast (generateSchedule Sample.halfPast) := by
  intro priced
  have straddles : ∃ entry ∈ (generateSchedule Sample.halfPast).entries,
      entry.startAt ≤ 3600000 ∧ 3600000 < entry.endAt ∧
        entry.pricePerKwh ≠ priceAt Sample.halfPast 3600000 := by decide +kernel
  obtain ⟨entry, isEntry, starts, ends, differs⟩ := straddles
  exact differs (priced entry isEntry 3600000 starts ends).1

end Csms.EnergyOptimization
