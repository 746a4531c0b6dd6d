import Csms.EnergyOptimization.Schedule
import Csms.Service.Program
import Csms.Tariffs.Input

/-!
# Tariff bands of calendars and of the optimizer

The tariffs service normalises bands, stores them and reads them back; the energy optimizer reads
the stored bands with a reader of its own.  Both check that no two bands cover one hour.  This
file compares the two checks, and says when what is stored is read back unchanged.
-/

/-! ## Intervals in the order of their start -/

namespace Csms.Allocation

universe u

variable {ι : Type u} {start stop : ι → Int}

/-- Intervals in the order of their start that do not meet their successor do not meet at all:
no point is in two of them. -/
theorem isChain_iff_length_filter_le {intervals : List ι}
    (sorted : intervals.Pairwise fun earlier later => start earlier ≤ start later)
    (nonempty : ∀ interval ∈ intervals, start interval < stop interval) :
    intervals.IsChain (fun earlier later => stop earlier ≤ start later) ↔
      ∀ point, (intervals.filter fun interval =>
        start interval ≤ point ∧ point < stop interval).length ≤ 1 := by
  induction intervals with
  | nil => simp
  | cons first rest ih =>
    obtain ⟨before, sortedRest⟩ := List.pairwise_cons.mp sorted
    obtain ⟨firstNonempty, restNonempty⟩ := List.forall_mem_cons.mp nonempty
    have apart : (first :: rest).IsChain (fun earlier later => stop earlier ≤ start later) ↔
        (∀ later ∈ rest, stop first ≤ start later) ∧
          rest.IsChain fun earlier later => stop earlier ≤ start later := by
      cases rest with
      | nil => simp
      | cons second rest =>
        rw [List.isChain_cons_cons]
        refine and_congr_left fun _ => ⟨fun meets later isLater => ?_, fun all =>
          all second List.mem_cons_self⟩
        rcases List.mem_cons.mp isLater with rfl | isLater
        · exact meets
        · exact meets.trans ((List.pairwise_cons.mp sortedRest).1 later isLater)
    rw [apart, ih sortedRest restNonempty]
    constructor
    · rintro ⟨afterFirst, once⟩ point
      by_cases inFirst : start first ≤ point ∧ point < stop first
      · rw [List.filter_cons, if_pos (by simpa using inFirst), List.filter_eq_nil_iff.mpr]
        · simp
        · intro later isLater inLater
          have := afterFirst later isLater
          have := (of_decide_eq_true inLater).1
          omega
      · rw [List.filter_cons, if_neg (by simpa using inFirst)]
        exact once point
    · intro once
      constructor
      · intro later isLater
        by_contra meets
        have isFirst : start first ≤ start later ∧ start later < stop first :=
          ⟨before later isLater, not_le.mp meets⟩
        have twice := once (start later)
        rw [List.filter_cons, if_pos (by simpa using isFirst), List.length_cons] at twice
        have isOther : later ∈ rest.filter fun interval =>
            start interval ≤ start later ∧ start later < stop interval :=
          List.mem_filter.mpr ⟨isLater, by simpa using restNonempty later isLater⟩
        have isTwo := List.length_pos_of_mem isOther
        omega
      · intro point
        refine le_trans ?_ (once point)
        exact ((List.sublist_cons_self first rest).filter _).length_le

end Csms.Allocation

/-! ## The checks -/

namespace Csms.Tariffs

open Allocation

section Days

variable {β : Type} (daysOfWeek : β → List Int) (startHour endHour : β → Int)

/-- The bands of one day by their start; `sort` is stable. -/
def bandsOfDay (bands : List β) (day : Int) : List β :=
  (bands.filter fun band => day ∈ daysOfWeek band).insertionSort fun left right =>
    startHour left ≤ startHour right

/-- No hour of a day is covered by two bands. -/
def CoveredOnce (bands : List β) : Prop :=
  ∀ day hour : Int, (bands.filter fun band =>
    day ∈ daysOfWeek band ∧ startHour band ≤ hour ∧ hour < endHour band).length ≤ 1

variable {daysOfWeek startHour endHour}

theorem forall_isChain_bandsOfDay_iff {bands : List β}
    (nonempty : ∀ band ∈ bands, startHour band < endHour band)
    (isDay : ∀ band ∈ bands, ∀ day ∈ daysOfWeek band, 0 ≤ day ∧ day ≤ 6) :
    (∀ day ∈ List.range 7, (bandsOfDay daysOfWeek startHour bands day).IsChain
      fun earlier later => endHour earlier ≤ startHour later) ↔
      CoveredOnce daysOfWeek startHour endHour bands := by
  have ofDay (day : Int) : (bandsOfDay daysOfWeek startHour bands day).IsChain
        (fun earlier later => endHour earlier ≤ startHour later) ↔
      ∀ hour : Int, (bands.filter fun band =>
        day ∈ daysOfWeek band ∧ startHour band ≤ hour ∧ hour < endHour band).length ≤ 1 := by
    have perm := List.perm_insertionSort (fun left right => startHour left ≤ startHour right)
      (bands.filter fun band => day ∈ daysOfWeek band)
    have total : Std.Total fun left right => startHour left ≤ startHour right :=
      ⟨fun left right => le_total _ _⟩
    have trans : IsTrans β fun left right => startHour left ≤ startHour right :=
      ⟨fun _ _ _ => le_trans⟩
    refine (isChain_iff_length_filter_le (List.pairwise_insertionSort _ _) fun band isBand =>
      nonempty band (List.mem_filter.mp (perm.mem_iff.mp isBand)).1).trans ?_
    refine forall_congr' fun hour => ?_
    rw [(perm.filter _).length_eq, List.filter_filter]
    refine iff_of_eq (congrArg (fun kept : List β => kept.length ≤ 1)
      (List.filter_congr fun band _ => ?_))
    simp only [Bool.decide_and, Bool.and_comm, Bool.and_assoc]
  constructor
  · intro chains day
    by_cases inWeek : 0 ≤ day ∧ day ≤ 6
    · have isChain := chains day.toNat (List.mem_range.mpr (by omega))
      rw [Int.toNat_of_nonneg inWeek.1] at isChain
      exact (ofDay day).mp isChain
    · intro hour
      rw [List.filter_eq_nil_iff.mpr fun band isBand covers =>
        inWeek (isDay band isBand day (of_decide_eq_true covers).1)]
      exact Nat.zero_le 1
  · exact fun once day _ => (ofDay day).mpr (once day)

end Days

/-- What a check of bands answers. -/
structure BandCheck where
  isConsistent : Bool
  issues : List String

def BandCheck.of (issues : List String) : BandCheck :=
  ⟨issues = [], issues⟩

def hourIssues (day : Nat) (current : TariffBand) : List String :=
  let label := current.label
  let dayName := dayNames.getD day ""
  if current.startHour < 0 ∨ current.endHour > 24 then
    [s!"Band {label} has out-of-range hours for {dayName}"]
  else []

def overlapIssues (day : Nat) (previous current : TariffBand) : List String :=
  let first := previous.label
  let second := current.label
  let dayName := dayNames.getD day ""
  if previous.endHour > current.startHour then
    [s!"Bands overlap on {dayName} between {first} and {second}"]
  else []

/-- The inner loop of `evaluateBandIntegrity`, after the band before. -/
def integrityIssues (day : Nat) : Option TariffBand → List TariffBand → List String
  | _, [] => []
  | previous, current :: rest =>
    hourIssues day current ++
      (previous.elim [] fun previous => overlapIssues day previous current) ++
        integrityIssues day (some current) rest

def evaluateBandIntegrity (bands : List TariffBand) : BandCheck :=
  .of ((List.range 7).flatMap fun day =>
    integrityIssues day none (bandsOfDay TariffBand.daysOfWeek TariffBand.startHour bands day))

/-- What `normalizeBands` makes of a band, its currency aside. -/
structure TariffBand.IsNormalized (band : TariffBand) : Prop where
  id : EnergyManagement.readString (.string band.id) = some band.id
  label : EnergyManagement.readString (.string band.label) = some band.label
  someDay : band.daysOfWeek ≠ []
  sorted : band.daysOfWeek.Pairwise (· < ·)
  isDay : ∀ day ∈ band.daysOfWeek, 0 ≤ day ∧ day ≤ 6
  hours : 0 ≤ band.startHour ∧ band.startHour < band.endHour ∧ band.endHour ≤ 24
  price : 0 ≤ band.pricePerKwh ∧ Js.JsNumber.toFixed 4 band.pricePerKwh = band.pricePerKwh

theorem integrityIssues_eq_nil_iff {day : Nat} {previous : Option TariffBand}
    {bands : List TariffBand} (normalized : ∀ band ∈ bands, band.IsNormalized) :
    integrityIssues day previous bands = [] ↔
      (previous.toList ++ bands).IsChain fun earlier later =>
        earlier.endHour ≤ later.startHour := by
  induction bands generalizing previous with
  | nil => cases previous <;> simp [integrityIssues]
  | cons current rest ih =>
    obtain ⟨isCurrent, others⟩ := List.forall_mem_cons.mp normalized
    have inRange : hourIssues day current = [] :=
      if_neg (by have := isCurrent.hours; omega)
    rw [integrityIssues, inRange, List.nil_append, List.append_eq_nil_iff, ih others]
    cases previous with
    | none => simp
    | some previous => simp [overlapIssues, List.isChain_cons_cons]

theorem isConsistent_evaluateBandIntegrity_iff {bands : List TariffBand}
    (normalized : ∀ band ∈ bands, band.IsNormalized) :
    (evaluateBandIntegrity bands).isConsistent = true ↔
      CoveredOnce TariffBand.daysOfWeek TariffBand.startHour TariffBand.endHour bands := by
  rw [← forall_isChain_bandsOfDay_iff (fun band isBand => (normalized band isBand).hours.2.1)
    fun band isBand => (normalized band isBand).isDay]
  rw [evaluateBandIntegrity, BandCheck.of, decide_eq_true_iff, List.flatMap_eq_nil_iff]
  refine forall₂_congr fun day _ => integrityIssues_eq_nil_iff fun band isBand => normalized band ?_
  exact (List.mem_filter.mp ((List.perm_insertionSort _ _).mem_iff.mp isBand)).1

end Csms.Tariffs

namespace Csms.EnergyOptimization

open Tariffs (BandCheck CoveredOnce bandsOfDay)

/-- The inner loop of `evaluateBandConsistency`. -/
def consistencyIssues (day : Nat) : List TariffBand → List String
  | previous :: current :: rest =>
    let first := previous.label
    let second := current.label
    (if previous.endHour > current.startHour then
      [s!"Bands {first} and {second} overlap on day {day}"] else []) ++
      consistencyIssues day (current :: rest)
  | _ => []

def evaluateBandConsistency (bands : List TariffBand) : BandCheck :=
  if bands = [] then .of ["No valid tariff bands were found"]
  else .of ((List.range 7).flatMap fun day =>
    consistencyIssues day (bandsOfDay TariffBand.daysOfWeek TariffBand.startHour bands day))

theorem consistencyIssues_eq_nil_iff {day : Nat} {bands : List TariffBand} :
    consistencyIssues day bands = [] ↔
      bands.IsChain fun earlier later => earlier.endHour ≤ later.startHour := by
  induction bands with
  | nil => simp [consistencyIssues]
  | cons previous rest ih =>
    cases rest with
    | nil => simp [consistencyIssues]
    | cons current rest =>
      rw [consistencyIssues, List.append_eq_nil_iff, ih, List.isChain_cons_cons]
      simp

def ofCalendar (band : Tariffs.TariffBand) : TariffBand where
  id := band.id
  label := band.label
  startHour := band.startHour
  endHour := band.endHour
  daysOfWeek := band.daysOfWeek
  pricePerKwh := band.pricePerKwh

/-- Both checks call bands consistent exactly when no hour is covered twice; only the empty list
is one that the optimizer refuses all the same. -/
theorem bandChecks_iff {bands : List Tariffs.TariffBand}
    (normalized : ∀ band ∈ bands, band.IsNormalized) :
    ((Tariffs.evaluateBandIntegrity bands).isConsistent = true ↔
      CoveredOnce Tariffs.TariffBand.daysOfWeek Tariffs.TariffBand.startHour
        Tariffs.TariffBand.endHour bands) ∧
    (bands ≠ [] → ((evaluateBandConsistency (bands.map ofCalendar)).isConsistent = true ↔
      CoveredOnce Tariffs.TariffBand.daysOfWeek Tariffs.TariffBand.startHour
        Tariffs.TariffBand.endHour bands)) := by
  refine ⟨Tariffs.isConsistent_evaluateBandIntegrity_iff normalized, fun isGiven => ?_⟩
  have once : CoveredOnce TariffBand.daysOfWeek TariffBand.startHour TariffBand.endHour
        (bands.map ofCalendar) ↔
      CoveredOnce Tariffs.TariffBand.daysOfWeek Tariffs.TariffBand.startHour
        Tariffs.TariffBand.endHour bands := by
    refine forall₂_congr fun day hour => ?_
    rw [List.filter_map, List.length_map]
    rfl
  rw [← once, ← Tariffs.forall_isChain_bandsOfDay_iff, evaluateBandConsistency,
    if_neg (by simpa using isGiven), BandCheck.of, decide_eq_true_iff, List.flatMap_eq_nil_iff]
  · exact forall₂_congr fun day _ => consistencyIssues_eq_nil_iff
  · rintro _ member
    obtain ⟨band, isBand, rfl⟩ := List.mem_map.mp member
    exact (normalized band isBand).hours.2.1
  · rintro _ member
    obtain ⟨band, isBand, rfl⟩ := List.mem_map.mp member
    exact (normalized band isBand).isDay

/-- Two bands that share an hour of the week's first day. -/
def Sample.late : List Tariffs.TariffBand :=
  [⟨"early", "Early", [0, 1], 0, 8, 1, "USD"⟩, ⟨"late", "Late", [0], 7, 24, 2, "USD"⟩]

theorem bandChecks_iff_late : (Tariffs.evaluateBandIntegrity Sample.late).isConsistent = false ∧
      ((Tariffs.evaluateBandIntegrity Sample.late).isConsistent = true ↔
        CoveredOnce Tariffs.TariffBand.daysOfWeek Tariffs.TariffBand.startHour
          Tariffs.TariffBand.endHour Sample.late) := by
  refine ⟨by decide +kernel, (bandChecks_iff fun band isBand => ?_).1⟩
  simp only [Sample.late, List.mem_cons, List.not_mem_nil, or_false] at isBand
  rcases isBand with rfl | rfl <;> constructor <;> decide +kernel

/-- The checks do not agree on the empty list. -/
theorem bandChecks_nil : (Tariffs.evaluateBandIntegrity []).isConsistent = true ∧
      (evaluateBandConsistency []).isConsistent = false := by
  decide

end Csms.EnergyOptimization

/-! ## Storing bands and reading them back -/

namespace Csms.Tariffs

open Js
open EnergyManagement (readString readRecord readString_readString)

def TariffBand.stored (band : TariffBand) : JsValue :=
  .object fun field =>
    if field = "id" then .string band.id
    else if field = "label" then .string band.label
    else if field = "daysOfWeek" then
      .array (band.daysOfWeek.map fun day => .number (.ofInt day))
    else if field = "startHour" then .number (.ofInt band.startHour)
    else if field = "endHour" then .number (.ofInt band.endHour)
    else if field = "pricePerKwh" then .number (.finite band.pricePerKwh)
    else if field = "currency" then .string band.currency
    else .undefined

def storedBands (bands : List TariffBand) : JsValue :=
  .array (bands.map (·.stored))

section Reading

variable (engine : Engine)

/-- One entry of the loop of `coerceStoredBands`; `number` counts from 1. -/
def coerceStoredBand (currency : String) (number : Nat) (value : JsValue) :
    Except HttpException (Option TariffBand) :=
  match readRecord value with
  | none => .ok none
  | some record => do
    let startHour ← readHour engine (record "startHour") 0 "hour"
    let endHour ← readHour engine (record "endHour") 24 "hour"
    match ← readPrice engine ((record "pricePerKwh").nullish (record "price")) "price" with
    | none => return none
    | some pricePerKwh =>
      let bandCurrency ← normalizeCurrency ((record "currency").orElse (.string currency))
      return some {
        id := (readString (record "id")).getD s!"band-{number}"
        label := (readString (record "label")).getD s!"Band {number}"
        daysOfWeek := normalizeDaysOfWeek engine (record "daysOfWeek")
        startHour
        endHour
        pricePerKwh
        currency := bandCurrency }

def coerceStoredBandList (currency : String) (number : Nat) :
    List JsValue → Except HttpException (List TariffBand)
  | [] => .ok []
  | value :: values => do
    let band ← coerceStoredBand engine currency number value
    let bands ← coerceStoredBandList currency (number + 1) values
    return band.toList ++ bands

def coerceStoredBands (value : JsValue) (currency : String) :
    Except HttpException (List TariffBand) :=
  match value with
  | .array values => coerceStoredBandList engine currency 1 values
  | _ => .ok []

/-- The currency is one that `normalizeCurrency` leaves as it is. -/
def IsCurrency (currency : String) : Prop :=
  normalizeCurrency (.string currency) = .ok currency

variable {value : JsValue}

theorem isCurrency_of_normalizeCurrency {currency : String}
    (accepted : normalizeCurrency value = .ok currency) : IsCurrency currency := by
  have isRead : (readString value).map toUpperCase = none ∨
      ∃ text, readString value = some text ∧ trim text = text := by
    cases read : readString value with
    | none => exact Or.inl rfl
    | some text =>
      have again := readString_readString read
      rw [readString] at again
      split at again
      · contradiction
      · exact Or.inr ⟨text, rfl, Option.some.inj again⟩
  dsimp only [normalizeCurrency] at accepted
  split at accepted
  · contradiction
  · rename_i isLong
    obtain rfl := Except.ok.inj accepted
    rcases isRead with isNone | ⟨text, isText, trimmed⟩
    · rw [isNone]
      rfl
    · rw [isText, Option.map_some, Option.getD_some] at isLong ⊢
      have upperTrimmed := trim_toUpperCase trimmed
      have notEmpty : toUpperCase text ≠ "" := by
        rintro isEmpty
        rw [isEmpty] at isLong
        exact isLong (Or.inl (by decide))
      rw [IsCurrency, normalizeCurrency, readString, upperTrimmed, if_neg notEmpty, Option.map_some,
        Option.getD_some, toUpperCase_toUpperCase, if_neg isLong]

theorem ne_empty_of_isCurrency {currency : String} (isCurrency : IsCurrency currency) :
    currency ≠ "" := by
  rintro rfl
  rw [IsCurrency] at isCurrency
  exact absurd isCurrency (by decide +kernel)

theorem normalizeCurrency_orElse_iff {currency fallback : String} :
    normalizeCurrency ((JsValue.string currency).orElse (.string fallback)) = .ok currency ↔
      IsCurrency currency := by
  refine ⟨isCurrency_of_normalizeCurrency, fun isCurrency => ?_⟩
  have truthy : (JsValue.string currency).orElse (.string fallback) = .string currency :=
    if_pos (decide_eq_true (ne_empty_of_isCurrency isCurrency))
  rw [truthy, isCurrency]

theorem readString_eq_some_of {text : String} {first last : Char} {middle : List Char}
    (split : text.toList = first :: middle ++ [last]) (firstKept : isWhitespace first = false)
    (lastKept : isWhitespace last = false) : readString (.string text) = some text := by
  have notEmpty : text ≠ "" := by
    rintro rfl
    cases split
  rw [readString, trim_eq_self split firstKept lastKept, if_neg notEmpty]

/-- A name that is made up for a band is read as it is. -/
theorem readString_numbered {start : String} {first : Char} {others : List Char}
    (isStart : start.toList = first :: others) (visible : isWhitespace first = false)
    (number : Nat) :
    readString (.string (start ++ toString number)) = some (start ++ toString number) := by
  have digits : (toString number).toList = Nat.toDigits 10 number := by simp [toString, Nat.repr]
  obtain ⟨front, last, isConcat⟩ := (List.eq_nil_or_concat' (Nat.toDigits 10 number)).resolve_left
    Nat.toDigits_ne_nil
  refine @readString_eq_some_of _ first last (others ++ front) ?_ visible ?_
  · rw [String.toList_append, isStart, digits, isConcat]
    simp
  · have isDigit := Nat.isDigit_of_mem_toDigits (by decide) (by decide)
      (isConcat ▸ List.mem_append_right front (List.mem_singleton_self last) :
        last ∈ Nat.toDigits 10 number)
    have visible : ∀ code < 58, (Char.ofNat code).isDigit = true →
        isWhitespace (Char.ofNat code) = false := by decide
    have small : last.toNat < 58 := by
      have upTo : last.val ≤ 57 := (Bool.and_eq_true_iff.mp isDigit).2 |> of_decide_eq_true
      exact Nat.lt_succ_of_le upTo
    rw [← Char.ofNat_toNat last] at isDigit ⊢
    exact visible last.toNat small isDigit

theorem insertionSort_dedup_spec {days : List Int} (someDay : days ≠ []) :
    days.dedup.insertionSort (fun left right => left ≤ right) ≠ [] ∧
      (days.dedup.insertionSort fun left right => left ≤ right).Pairwise (· < ·) ∧
        ∀ day ∈ days.dedup.insertionSort (fun left right => left ≤ right), day ∈ days := by
  have perm := List.perm_insertionSort (fun left right : Int => left ≤ right) days.dedup
  refine ⟨?_, ?_, fun day isDay => List.mem_dedup.mp (perm.mem_iff.mp isDay)⟩
  · intro isEmpty
    obtain ⟨day, isDay⟩ := List.exists_mem_of_ne_nil days someDay
    have kept := perm.mem_iff.mpr (List.mem_dedup.mpr isDay)
    rw [isEmpty] at kept
    exact absurd kept List.not_mem_nil
  · refine ((List.pairwise_insertionSort _ _).and
      (perm.nodup_iff.mpr (List.nodup_dedup _))).imp fun ordered => ?_
    exact lt_of_le_of_ne ordered.1 ordered.2

theorem readString_getD {fallback : String}
    (isFallback : readString (.string fallback) = some fallback) :
    readString (.string ((readString value).getD fallback)) =
      some ((readString value).getD fallback) := by
  cases read : readString value with
  | none => exact isFallback
  | some text => exact readString_readString read

theorem normalizeDaysOfWeek_spec (value : JsValue) : normalizeDaysOfWeek engine value ≠ [] ∧
      (normalizeDaysOfWeek engine value).Pairwise (· < ·) ∧
        ∀ day ∈ normalizeDaysOfWeek engine value, 0 ≤ day ∧ day ≤ 6 := by
  have allDays : ([0, 1, 2, 3, 4, 5, 6] : List Int) ≠ [] ∧
      ([0, 1, 2, 3, 4, 5, 6] : List Int).Pairwise (· < ·) ∧
        ∀ day ∈ ([0, 1, 2, 3, 4, 5, 6] : List Int), 0 ≤ day ∧ day ≤ 6 := by
    decide
  unfold normalizeDaysOfWeek
  split
  · dsimp only
    split
    · exact allDays
    · rename_i someDay
      obtain ⟨notEmpty, sorted, isOne⟩ := insertionSort_dedup_spec someDay
      refine ⟨notEmpty, sorted, fun day isDay => ?_⟩
      simpa using (List.mem_filter.mp (isOne day isDay)).2
  · exact allDays

theorem normalizeDaysOfWeek_stored {days : List Int} (someDay : days ≠ [])
    (sorted : days.Pairwise (· < ·)) (isDay : ∀ day ∈ days, 0 ≤ day ∧ day ≤ 6) :
    normalizeDaysOfWeek engine (.array (days.map fun day => .number (.ofInt day))) = days := by
  have isRead : (days.map fun day => JsValue.number (.ofInt day)).map (readDay engine) = days := by
    rw [List.map_map]
    refine (List.map_congr_left fun day _ => ?_).trans (List.map_id _)
    simp [readDay, JsNumber.ofInt]
  have inWeek : days.filter (fun day => decide (0 ≤ day) && decide (day ≤ 6)) = days :=
    List.filter_eq_self.mpr fun day member => by simpa using isDay day member
  have inOrder : days.dedup.insertionSort (fun left right => left ≤ right) = days := by
    rw [List.dedup_eq_self.mpr (sorted.imp ne_of_lt)]
    exact (sorted.imp le_of_lt).insertionSort_eq
  simp only [normalizeDaysOfWeek, isRead, inWeek, if_neg someDay, inOrder]

variable {engine}

theorem readHour_within {fallback hour : Int} {fieldName : String}
    (within : 0 ≤ fallback ∧ fallback ≤ 24)
    (accepted : readHour engine value fallback fieldName = .ok hour) : 0 ≤ hour ∧ hour ≤ 24 := by
  unfold readHour at accepted
  split at accepted
  · exact Except.ok.inj accepted ▸ within
  · exact Except.ok.inj accepted ▸ within
  · exact Except.ok.inj accepted ▸ within
  · split at accepted
    · split at accepted
      · contradiction
      · rename_i inRange
        rw [not_or, not_lt, not_lt] at inRange
        rw [← Except.ok.inj accepted]
        exact ⟨Int.floor_nonneg.mpr inRange.1, Int.floor_le_iff.mpr (by push_cast; linarith)⟩
    · contradiction

theorem readPrice_spec {fieldName : String} {price : ℚ}
    (accepted : readPrice engine value fieldName = .ok (some price)) :
    0 ≤ price ∧ JsNumber.toFixed 4 price = price := by
  unfold readPrice at accepted
  split at accepted
  · cases accepted
  · cases accepted
  · cases accepted
  · split at accepted
    · split at accepted
      · contradiction
      · rename_i nonneg
        rw [← Option.some.inj (Except.ok.inj accepted)]
        exact ⟨JsNumber.toFixed_nonneg 4 (not_lt.mp nonneg), JsNumber.toFixed_toFixed le_rfl _⟩
    · contradiction

theorem isNormalized_of_normalizeBand {currency : String} {number : Nat} {band : TariffBand}
    (accepted : normalizeBand engine currency number value = .ok band) :
    band.IsNormalized ∧ IsCurrency band.currency := by
  unfold normalizeBand at accepted
  split at accepted
  · obtain ⟨record, -, readStart⟩ := Service.bind_eq_ok_iff.mp accepted
    obtain ⟨startHour, isStart, readEnd⟩ := Service.bind_eq_ok_iff.mp readStart
    obtain ⟨endHour, isEnd, compared⟩ := Service.bind_eq_ok_iff.mp readEnd
    split at compared
    · cases compared
    · rename_i inOrder
      obtain ⟨found, isFound, priced⟩ := Service.bind_eq_ok_iff.mp compared
      split at priced
      · rename_i price
        obtain ⟨_, ⟨⟩, readCurrency⟩ := Service.bind_eq_ok_iff.mp priced
        obtain ⟨bandCurrency, isBandCurrency, ⟨⟩⟩ := Service.bind_eq_ok_iff.mp readCurrency
        obtain ⟨someDay, sorted, isDay⟩ := normalizeDaysOfWeek_spec engine (record "daysOfWeek")
        have startWithin := readHour_within (by decide) isStart
        have endWithin := readHour_within (by decide) isEnd
        exact ⟨{
          id := readString_getD (@readString_numbered "band-" _ _ rfl rfl number)
          label := readString_getD (@readString_numbered "Band " _ _ rfl rfl number)
          someDay, sorted, isDay
          hours := ⟨startWithin.1, not_le.mp inOrder, endWithin.2⟩
          price := readPrice_spec isFound }, isCurrency_of_normalizeCurrency isBandCurrency⟩
      · cases priced
  · cases accepted

theorem normalizeBandList_spec {currency : String} {number : Nat} {values : List JsValue}
    {bands : List TariffBand}
    (accepted : normalizeBandList engine currency number values = .ok bands) :
    ∀ band ∈ bands, band.IsNormalized ∧ IsCurrency band.currency := by
  induction values generalizing number bands with
  | nil =>
    cases accepted
    exact fun _ isBand => absurd isBand List.not_mem_nil
  | cons value values ih =>
    obtain ⟨band, isBand, rest⟩ := Service.bind_eq_ok_iff.mp accepted
    obtain ⟨others, areOthers, ⟨⟩⟩ := Service.bind_eq_ok_iff.mp rest
    exact List.forall_mem_cons.mpr ⟨isNormalized_of_normalizeBand isBand, ih areOthers⟩

theorem readHour_stored {hour : Int} (within : 0 ≤ hour ∧ hour ≤ 24) (fallback : Int)
    (fieldName : String) :
    readHour engine (.number (.ofInt hour)) fallback fieldName = .ok hour := by
  have inRange : ¬((hour : ℚ) < 0 ∨ (hour : ℚ) > 24) := by
    rw [not_or, not_lt, not_lt]
    exact_mod_cast within
  simp only [readHour, Engine.toNumber, JsNumber.ofInt, if_neg inRange, Int.floor_intCast]

theorem coerceStoredBand_stored {band : TariffBand} (normalized : band.IsNormalized)
    (currency : String) (number : Nat) : coerceStoredBand engine currency number band.stored =
      (normalizeCurrency ((JsValue.string band.currency).orElse (.string currency))).map
        fun currency => some { band with currency } := by
  obtain ⟨id, label, someDay, sorted, isDay, hours, price⟩ := normalized
  have isStart := @readHour_stored engine _ ⟨hours.1, hours.2.1.le.trans hours.2.2⟩ 0 "hour"
  have isEnd := @readHour_stored engine _ ⟨hours.1.trans hours.2.1.le, hours.2.2⟩ 24 "hour"
  have isPrice : readPrice engine (.number (.finite band.pricePerKwh)) "price" =
      .ok (some band.pricePerKwh) := by
    simp only [readPrice, Engine.toNumber, if_neg (not_lt.mpr price.1), price.2]
  have days := normalizeDaysOfWeek_stored engine someDay sorted isDay
  simp only [coerceStoredBand, TariffBand.stored, readRecord, String.reduceEq, if_true, if_false,
    isStart, isEnd, JsValue.nullish, isPrice, days, id, label, Option.getD_some, bind, Except.bind]
  cases normalizeCurrency ((JsValue.string band.currency).orElse (.string currency)) <;> rfl

theorem coerceStoredBandList_stored {bands : List TariffBand}
    (normalized : ∀ band ∈ bands, band.IsNormalized ∧ IsCurrency band.currency)
    (currency : String) (number : Nat) :
    coerceStoredBandList engine currency number (bands.map (·.stored)) = .ok bands := by
  induction bands generalizing number with
  | nil => rfl
  | cons band bands ih =>
    obtain ⟨⟨isNormalized, isCurrency⟩, others⟩ := List.forall_mem_cons.mp normalized
    rw [List.map_cons, coerceStoredBandList, coerceStoredBand_stored isNormalized,
      normalizeCurrency_orElse_iff.mpr isCurrency, ih others]
    rfl

/-- The bands that an update of a calendar stores: the currency of the request is not made a code
first. -/
def updatedBands (engine : Engine) (calendarCurrency : String) (input : JsRecord) :
    Except HttpException (List TariffBand) :=
  normalizeBands engine (input "bands") ((readString (input "currency")).getD calendarCurrency)
    (input "pricePerKwh")

end Reading

end Csms.Tariffs

namespace Csms.EnergyOptimization

open Js
open EnergyManagement (readString readRecord readNonNegativeInt readPositiveInt)
open Tariffs (storedBands coerceStoredBands normalizeBands IsCurrency)

section Reading

variable (engine : Engine)

def readNonNegativeNumber (value : JsValue) : Option ℚ :=
  match value with
  | .undefined | .null | .string "" => none
  | other =>
    match engine.toNumber other with
    | .finite parsed => if parsed < 0 then none else some (JsNumber.toFixed 4 parsed)
    | _ => none

/-- One entry of the days, -1 when it is none: a name is lowered before it is cut. -/
def readDay (entry : JsValue) : Int :=
  match entry with
  | .number (.finite value) => if value.den = 1 then value.num else -1
  | .string text =>
    let key := String.ofList ((toLowerCase (trim text)).toList.take 3)
    let named : Int := ((Tariffs.dayNames.idxOf? key).map Int.ofNat).getD (-1)
    match engine.toNumber (.string text) with
    | .finite value => if value.den = 1 then value.num else named
    | _ => named
  | _ => -1

def normalizeDaysOfWeek (value : JsValue) : List Int :=
  match value with
  | .array entries =>
    let days := (entries.map (readDay engine)).filter fun day => 0 ≤ day ∧ day ≤ 6
    if days = [] then [0, 1, 2, 3, 4, 5, 6]
    else days.dedup.insertionSort fun left right => left ≤ right
  | _ => [0, 1, 2, 3, 4, 5, 6]

/-- One entry of the loop of `parseTariffBands`; `number` counts from 1. -/
def parseTariffBand (number : Nat) (value : JsValue) : Option TariffBand := do
  let record ← readRecord value
  let startHour ← readNonNegativeInt engine (record "startHour")
  let endHour ← readPositiveInt engine (record "endHour")
  let pricePerKwh ← readNonNegativeNumber engine ((record "pricePerKwh").nullish (record "price"))
  if endHour ≤ startHour then none
  else some {
    id := (readString (record "id")).getD s!"band-{number}"
    label := (readString (record "label")).getD s!"Band {number}"
    startHour
    endHour
    daysOfWeek := normalizeDaysOfWeek engine (record "daysOfWeek")
    pricePerKwh }

def parseTariffBandList (number : Nat) : List JsValue → List TariffBand
  | [] => []
  | value :: values =>
    (parseTariffBand engine number value).toList ++ parseTariffBandList (number + 1) values

def parseTariffBands : JsValue → List TariffBand
  | .array values => parseTariffBandList engine 1 values
  | _ => []

def ReadBack (currency : String) (bands : List Tariffs.TariffBand) : Prop :=
  coerceStoredBands engine (storedBands bands) currency = .ok bands ∧
    parseTariffBands engine (storedBands bands) = bands.map ofCalendar

variable {engine}

/-- Numbers name the same days to both services. -/
theorem normalizeDaysOfWeek_stored (days : List Int) :
    normalizeDaysOfWeek engine (.array (days.map fun day => .number (.ofInt day))) =
      Tariffs.normalizeDaysOfWeek engine (.array (days.map fun day => .number (.ofInt day))) := by
  have sameDays : (days.map fun day => JsValue.number (.ofInt day)).map (readDay engine) =
      (days.map fun day => JsValue.number (.ofInt day)).map (Tariffs.readDay engine) := by
    rw [List.map_map, List.map_map]
    rfl
  simp only [normalizeDaysOfWeek, Tariffs.normalizeDaysOfWeek, sameDays, Bool.decide_and]

theorem parseTariffBandList_stored {bands : List Tariffs.TariffBand}
    (normalized : ∀ band ∈ bands, band.IsNormalized) (number : Nat) :
    parseTariffBandList engine number (bands.map (·.stored)) = bands.map ofCalendar := by
  induction bands generalizing number with
  | nil => rfl
  | cons band bands ih =>
    obtain ⟨⟨id, label, someDay, sorted, isDay, hours, price⟩, others⟩ :=
      List.forall_mem_cons.mp normalized
    have isStart := EnergyManagement.readNonNegativeInt_ofInt engine hours.1
    have isEnd : readPositiveInt engine (.number (.ofInt band.endHour)) = some band.endHour := by
      simp [readPositiveInt, EnergyManagement.readNumber, Engine.toNumber, JsNumber.ofInt,
        hours.1.trans_lt hours.2.1]
    have isPrice : readNonNegativeNumber engine (.number (.finite band.pricePerKwh)) =
        some band.pricePerKwh := by
      simp only [readNonNegativeNumber, Engine.toNumber, if_neg (not_lt.mpr price.1), price.2]
    have days := (normalizeDaysOfWeek_stored band.daysOfWeek).trans
      (Tariffs.normalizeDaysOfWeek_stored engine someDay sorted isDay)
    rw [List.map_cons, parseTariffBandList, ih others]
    simp only [parseTariffBand, Tariffs.TariffBand.stored, readRecord, String.reduceEq, if_true,
      if_false, isStart, isEnd, JsValue.nullish, isPrice, days, id, label, Option.getD_some,
      Option.bind_eq_bind, Option.bind_some, if_neg (not_le.mpr hours.2.1)]
    rfl

theorem isNormalized_flatBand {currency : String} {price : ℚ}
    (isPrice : 0 ≤ price ∧ JsNumber.toFixed 4 price = price) :
    (Tariffs.flatBand currency price).IsNormalized where
  id := (by decide +kernel : readString (.string "band-1") = some "band-1")
  label := (by decide +kernel : readString (.string "Flat rate") = some "Flat rate")
  someDay := List.cons_ne_nil 0 _
  sorted := (by decide : [0, 1, 2, 3, 4, 5, 6].Pairwise fun earlier later : Int => earlier < later)
  isDay := (by decide : ∀ day ∈ ([0, 1, 2, 3, 4, 5, 6] : List Int), 0 ≤ day ∧ day ≤ 6)
  hours := ⟨le_refl (0 : Int), (by decide : (0 : Int) < 24), le_refl (24 : Int)⟩
  price := isPrice

theorem coerceStoredBands_flatBand_iff {currency calendarCurrency : String} {price : ℚ}
    (isPrice : 0 ≤ price ∧ JsNumber.toFixed 4 price = price) :
    coerceStoredBands engine (storedBands [Tariffs.flatBand currency price]) calendarCurrency =
      .ok [Tariffs.flatBand currency price] ↔ IsCurrency currency := by
  rw [← @Tariffs.normalizeCurrency_orElse_iff currency calendarCurrency, storedBands,
    List.map_singleton, coerceStoredBands, Tariffs.coerceStoredBandList,
    Tariffs.coerceStoredBand_stored (isNormalized_flatBand isPrice)]
  change (Except.map _ (Tariffs.normalizeCurrency
    ((JsValue.string currency).orElse (.string calendarCurrency))) >>= _) = _ ↔ _
  cases Tariffs.normalizeCurrency
      ((JsValue.string currency).orElse (.string calendarCurrency)) with
  | error denied => exact iff_of_false (fun read => nomatch read) fun read => nomatch read
  | ok code =>
    constructor
    · intro read
      exact congrArg Except.ok (congrArg Tariffs.TariffBand.currency
        (List.cons.inj (Except.ok.inj read)).1)
    · intro isCode
      obtain rfl := Except.ok.inj isCode
      rfl

/-- Bands of a list are normalised and in currencies; a flat price is a band of its own. -/
theorem normalizeBands_cases {value legacyPriceValue : JsValue} {currency : String}
    {bands : List Tariffs.TariffBand}
    (accepted : normalizeBands engine value currency legacyPriceValue = .ok bands) :
    ((∃ items, value = .array items) ∧
      ∀ band ∈ bands, band.IsNormalized ∧ IsCurrency band.currency) ∨
    ((¬∃ items, value = .array items) ∧ ∃ price, bands = [Tariffs.flatBand currency price] ∧
      0 ≤ price ∧ JsNumber.toFixed 4 price = price) := by
  have isChecked {normalized : List Tariffs.TariffBand} (checked :
      (do
        if normalized = [] then
          throw (.badRequest "At least one tariff band or pricePerKwh is required")
        return normalized) = (.ok bands : Except HttpException _)) : normalized = bands := by
    split at checked
    · cases checked
    · exact Except.ok.inj checked
  unfold normalizeBands at accepted
  split at accepted
  · obtain ⟨normalized, isRead, checked⟩ := Service.bind_eq_ok_iff.mp accepted
    obtain rfl := isChecked checked
    exact Or.inl ⟨⟨_, rfl⟩, Tariffs.normalizeBandList_spec isRead⟩
  · rename_i notArray
    refine Or.inr ⟨fun ⟨items, isArray⟩ => notArray items isArray, ?_⟩
    split at accepted
    · cases accepted
    · obtain ⟨found, isFound, priced⟩ := Service.bind_eq_ok_iff.mp accepted
      split at priced
      · rename_i price
        obtain ⟨_, ⟨⟩, checked⟩ := Service.bind_eq_ok_iff.mp priced
        exact ⟨price, (isChecked checked).symm, Tariffs.readPrice_spec isFound⟩
      · cases priced

/-- Whatever is accepted and stored is read back as it is exactly when bands were given, or the
currency of the flat price is a code. -/
theorem readBack_iff {value legacyPriceValue : JsValue} {currency : String}
    {bands : List Tariffs.TariffBand}
    (accepted : normalizeBands engine value currency legacyPriceValue = .ok bands)
    (calendarCurrency : String) : ReadBack engine calendarCurrency bands ↔
      (∃ items, value = .array items) ∨ IsCurrency currency := by
  rcases normalizeBands_cases accepted with ⟨isArray, normalized⟩ | ⟨notArray, price, rfl, isPrice⟩
  · refine iff_of_true ⟨?_, ?_⟩ (Or.inl isArray)
    · exact Tariffs.coerceStoredBandList_stored normalized calendarCurrency 1
    · exact parseTariffBandList_stored (fun band isBand => (normalized band isBand).1) 1
  · rw [or_iff_right notArray, ReadBack, coerceStoredBands_flatBand_iff isPrice]
    refine and_iff_left (parseTariffBandList_stored (fun band isBand => ?_) 1)
    rw [List.mem_singleton.mp isBand]
    exact isNormalized_flatBand isPrice

end Reading

namespace Sample

def engine : Engine where
  localeCompare _ _ := 0
  parseDateText _ := none
  coerceNumber _ := .nan

def flatPrice (currency : String) : JsRecord := fun field =>
  if field = "currency" then .string currency
  else if field = "pricePerKwh" then .number (.finite (3 / 10))
  else .undefined

end Sample

open Sample

theorem readBack_iff_flatPrice : ReadBack engine "EUR" [Tariffs.flatBand "USD" (3 / 10)] ↔
      (∃ items, flatPrice "USD" "bands" = .array items) ∨ IsCurrency "USD" :=
  @readBack_iff engine _ (flatPrice "USD" "pricePerKwh") _ _
    (by decide +kernel : normalizeBands engine (flatPrice "USD" "bands") "USD"
      (flatPrice "USD" "pricePerKwh") = .ok [Tariffs.flatBand "USD" (3 / 10)]) "EUR"

/-- An update with a flat price in `usd` stores a band that the calendar reads back in `USD`. -/
theorem updatedBands_not_readBack :
    Tariffs.updatedBands engine "EUR" (flatPrice "usd") =
        .ok [Tariffs.flatBand "usd" (3 / 10)] ∧
      ¬ReadBack engine "USD" [Tariffs.flatBand "usd" (3 / 10)] := by
  refine ⟨by decide +kernel, fun readBack => ?_⟩
  have isRead : coerceStoredBands engine (storedBands [Tariffs.flatBand "usd" (3 / 10)])
      "USD" ≠ .ok [Tariffs.flatBand "usd" (3 / 10)] := by
    decide +kernel
  exact isRead readBack.1

end Csms.EnergyOptimization
