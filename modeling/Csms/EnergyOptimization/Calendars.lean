import Csms.EnergyManagement.Store
import Csms.Tariffs.Calendars
import Mathlib.Data.Prod.Lex

/-!
# The tariff calendar of a station

The tariffs service and the energy optimizer each look up the calendar that is in force for a
station.  Both prefer the calendars of the station's site to those of the whole tenant, but leave
the site out of their query when the station has none.
-/

namespace Csms.Tariffs

open EnergyManagement (Station)
open Js

/-- A row of the calendars, with the time of its last update. -/
structure StampedCalendar extends TariffCalendar where
  updatedAt : Int

namespace StampedCalendar

/-- By which a query orders: the version and the last update. -/
def stamp (calendar : StampedCalendar) : Int ×ₗ Int :=
  toLex (calendar.version, calendar.updatedAt)

/-- The calendar is one of a station at the site, or of the whole tenant. -/
def IsWithin (siteId : Option String) (calendar : StampedCalendar) : Prop :=
  calendar.siteId = none ∨ calendar.siteId = siteId

def inForce (tenantId : String) (instant : Int) (calendar : StampedCalendar) : Bool :=
  calendar.tenantId = tenantId && calendar.status = .active && calendar.effectiveFrom ≤ instant &&
    calendar.effectiveTo.all (instant ≤ ·)

/-- What `where` asks of a calendar: of its site only when the station has one. -/
def isAsked (tenantId : String) (siteId : Option String) (instant : Int)
    (calendar : StampedCalendar) : Bool :=
  calendar.inForce tenantId instant &&
    (orText siteId none).all fun siteId =>
      calendar.siteId = some siteId || calendar.siteId.isNone

def siteScore (siteId : Option String) (calendar : StampedCalendar) : Int :=
  if (orText calendar.siteId none).isSome ∧ calendar.siteId = siteId then 1 else 0

/-- The order of the rows in memory. -/
def compare (siteId : Option String) (left right : StampedCalendar) : Int :=
  if left.siteScore siteId ≠ right.siteScore siteId then
    right.siteScore siteId - left.siteScore siteId
  else if left.version ≠ right.version then right.version - left.version
  else right.updatedAt - left.updatedAt

end StampedCalendar

/-- `findMany`: the calendars asked for, newest first; those of one stamp in the order of the
rows, which can be any. -/
def findCalendars (tenantId : String) (siteId : Option String) (instant : Int)
    (rows : List StampedCalendar) : List StampedCalendar :=
  (rows.filter (·.isAsked tenantId siteId instant)).insertionSort fun left right =>
    right.stamp ≤ left.stamp

/-- The sort in memory, which is stable. -/
def sortCalendars (siteId : Option String) (rows : List StampedCalendar) : List StampedCalendar :=
  rows.insertionSort fun left right => left.compare siteId right ≤ 0

/-- `findUnique` of a station and the check of its tenant. -/
def loadStationOrThrow (stations : List Station) (tenantId stationId : String) :
    Except HttpException Station :=
  match stations.find? (·.id = stationId) with
  | none => .error (.notFound "Station not found")
  | some station =>
    if (orText station.orgId (orText station.siteOrganizationId none)).any (· ≠ tenantId) then
      .error (.notFound "Station not found")
    else .ok station

/-- The station has a site, or no newest calendar in force is that of a site. -/
def ForemostIsWithin (calendars : List StampedCalendar) (tenantId : String)
    (siteId : Option String) (instant : Int) : Prop :=
  (orText siteId none).isSome ∨
    ∀ calendar, IsNewest StampedCalendar.stamp (calendars.filter (·.inForce tenantId instant))
      calendar → calendar.IsWithin siteId

def resolveEffectiveCalendarForStation (stations : List Station)
    (calendars : List StampedCalendar) (tenantId stationId : String) (instant : Int) :
    Except HttpException (Option StampedCalendar) := do
  let station ← loadStationOrThrow stations tenantId stationId
  let rows := findCalendars tenantId station.siteId instant calendars
  return (sortCalendars station.siteId rows).head?

section Foremost

variable {calendars rows : List StampedCalendar} {calendar : StampedCalendar}
  {tenantId : String} {siteId : Option String} {instant : Int}

namespace StampedCalendar

/-- What the sort in memory compares. -/
def rank (siteId : Option String) (calendar : StampedCalendar) : Int ×ₗ Int ×ₗ Int :=
  toLex (calendar.siteScore siteId, calendar.stamp)

theorem compare_nonpos_iff {left right : StampedCalendar} :
    left.compare siteId right ≤ 0 ↔ right.rank siteId ≤ left.rank siteId := by
  simp only [compare, rank, stamp, Prod.Lex.toLex_le_toLex]
  split_ifs <;> omega

theorem siteScore_of_isNone (noSite : (orText siteId none).isSome = false) :
    siteScore siteId = fun _ => 0 := by
  funext calendar
  refine if_neg fun ⟨isGiven, same⟩ => ?_
  rw [same, noSite] at isGiven
  contradiction

theorem siteScore_orText : siteScore (orText siteId none) = siteScore siteId := by
  funext calendar
  cases siteId with
  | none => rfl
  | some text =>
    by_cases isEmpty : text = ""
    · subst isEmpty
      rw [@siteScore_of_isNone (some "") rfl, siteScore_of_isNone rfl]
    · rw [orText, if_neg isEmpty]

theorem isAsked_of_isNone (noSite : (orText siteId none).isSome = false) :
    isAsked tenantId siteId instant = inForce tenantId instant := by
  funext calendar
  rw [isAsked, Option.isSome_eq_false_iff.mp noSite |> Option.isNone_iff_eq_none.mp]
  exact Bool.and_true _

theorem isWithin_of_isAsked (hasSite : (orText siteId none).isSome)
    (asked : calendar.isAsked tenantId siteId instant = true) : calendar.IsWithin siteId := by
  obtain ⟨text, isSite⟩ := Option.isSome_iff_exists.mp hasSite
  have same : siteId = some text := by
    unfold orText at isSite
    split at isSite
    · split at isSite
      · cases isSite
      · exact isSite
    · cases isSite
  have isOwn := (Bool.and_eq_true_iff.mp asked).2
  rw [isSite, Option.all_some, Bool.or_eq_true, decide_eq_true_iff, Option.isNone_iff_eq_none,
    ← same] at isOwn
  exact isOwn.symm

end StampedCalendar

open StampedCalendar

theorem sortCalendars_orText : sortCalendars (orText siteId none) = sortCalendars siteId := by
  have same : StampedCalendar.compare (orText siteId none) = StampedCalendar.compare siteId := by
    funext left right
    simp only [StampedCalendar.compare, siteScore_orText]
  funext rows
  rw [sortCalendars, sortCalendars, same]

/-- What is resolved was asked for, and nothing asked for ranks above it. -/
theorem isNewest_of_resolved
    (resolved : (sortCalendars siteId (findCalendars tenantId siteId instant rows)).head? =
      some calendar) :
    IsNewest (rank siteId) (rows.filter (·.isAsked tenantId siteId instant)) calendar := by
  simp only [sortCalendars, compare_nonpos_iff] at resolved
  obtain ⟨member, newest⟩ := isNewest_of_head?_insertionSort resolved
  have perm := List.perm_insertionSort (fun left right : StampedCalendar =>
    right.stamp ≤ left.stamp) (rows.filter (·.isAsked tenantId siteId instant))
  exact ⟨perm.mem_iff.mp member, fun other isOther => newest other (perm.mem_iff.mpr isOther)⟩

/-- The first row is resolved when nothing asked for ranks above it. -/
theorem resolved_cons_of_isNewest (noSite : (orText siteId none).isSome = false)
    (newest : IsNewest stamp ((calendar :: rows).filter (·.inForce tenantId instant)) calendar) :
    (sortCalendars siteId (findCalendars tenantId siteId instant (calendar :: rows))).head? =
      some calendar := by
  have isFirst := (List.mem_filter.mp newest.mem).2
  have ranked {other : StampedCalendar} (isOther : other ∈ rows.filter
      (·.inForce tenantId instant)) : other.stamp ≤ calendar.stamp := by
    refine newest.newest other ?_
    rw [List.filter_cons_of_pos isFirst]
    exact List.mem_cons_of_mem _ isOther
  rw [findCalendars, isAsked_of_isNone noSite, List.filter_cons_of_pos isFirst,
    List.insertionSort_cons_of_forall_rel _ fun other isOther => ranked isOther]
  simp only [sortCalendars, compare_nonpos_iff]
  rw [List.insertionSort_cons_of_forall_rel, List.head?_cons]
  intro other isOther
  rw [rank, rank, siteScore_of_isNone noSite]
  exact Prod.Lex.toLex_le_toLex.mpr
    (Or.inr ⟨rfl, ranked ((List.perm_insertionSort _ _).mem_iff.mp isOther)⟩)

/-- Whatever the order of the rows, what is resolved is the site's own or the tenant's exactly when
the station has a site or the newest calendars in force are the tenant's. -/
theorem forall_resolved_isWithin_iff :
    (∀ rows : List StampedCalendar, rows.Perm calendars → ∀ calendar,
      (sortCalendars siteId (findCalendars tenantId siteId instant rows)).head? = some calendar →
        calendar.IsWithin siteId) ↔ ForemostIsWithin calendars tenantId siteId instant := by
  cases hasSite : (orText siteId none).isSome with
  | true =>
    refine iff_of_true (fun rows _ calendar resolved => ?_) (Or.inl hasSite)
    exact isWithin_of_isAsked hasSite
      (List.mem_filter.mp (isNewest_of_resolved resolved).mem).2
  | false =>
    rw [ForemostIsWithin, hasSite, or_iff_right Bool.false_ne_true]
    constructor
    · intro within calendar newest
      obtain ⟨before, after, rfl⟩ := List.append_of_mem (List.mem_filter.mp newest.mem).1
      have perm : (calendar :: (before ++ after)).Perm (before ++ calendar :: after) :=
        List.perm_middle.symm
      refine within _ perm calendar (resolved_cons_of_isNewest hasSite ⟨?_, ?_⟩)
      · exact (perm.filter _).mem_iff.mpr newest.mem
      · exact fun other isOther => newest.newest other ((perm.filter _).mem_iff.mp isOther)
    · intro within rows perm calendar resolved
      obtain ⟨member, isNewest⟩ := isNewest_of_resolved resolved
      rw [isAsked_of_isNone hasSite] at member isNewest
      refine within calendar ⟨(perm.filter _).mem_iff.mp member, fun other isOther => ?_⟩
      have ranked := isNewest other ((perm.filter _).mem_iff.mpr isOther)
      rw [rank, rank, siteScore_of_isNone hasSite, Prod.Lex.toLex_le_toLex] at ranked
      exact ranked.resolve_left (lt_irrefl _) |>.2

end Foremost

end Csms.Tariffs

namespace Csms.EnergyOptimization

open EnergyManagement (Station)
open Js
open Tariffs (StampedCalendar findCalendars sortCalendars loadStationOrThrow)

def resolveTariffCalendar (calendars : List StampedCalendar) (tenantId : String)
    (stationSiteId calendarId : Option String) (instant : Int) :
    Except HttpException (Option StampedCalendar) :=
  match orText calendarId none with
  | some calendarId =>
    match calendars.find? (·.id = calendarId) with
    | none => .error (.notFound "Tariff calendar not found")
    | some explicit =>
      if explicit.tenantId ≠ tenantId then .error (.notFound "Tariff calendar not found")
      else .ok (some explicit)
  | none =>
    let rows := findCalendars tenantId stationSiteId instant calendars
    .ok (sortCalendars (orText stationSiteId none) rows).head?

/-- `generatePlan` as far as its calendar goes. -/
def resolveForPlan (stations : List Station) (calendars : List StampedCalendar)
    (tenantId stationId : String) (calendarId : Option String) (instant : Int) :
    Except HttpException (Option StampedCalendar) := do
  let station ← loadStationOrThrow stations tenantId stationId
  resolveTariffCalendar calendars tenantId station.siteId calendarId instant

/-- The calendar that a plan names, or else the newest ones in force. -/
def ChosenIsWithin (calendars : List StampedCalendar) (tenantId : String)
    (siteId calendarId : Option String) (instant : Int) : Prop :=
  match orText calendarId none with
  | some calendarId => ∀ calendar ∈ calendars, calendar.id = calendarId →
      calendar.tenantId = tenantId → calendar.IsWithin siteId
  | none => Tariffs.ForemostIsWithin calendars tenantId siteId instant

/-- Only the tenant of a calendar that is named is checked. -/
theorem forall_explicit_isWithin_iff {calendars : List StampedCalendar}
    {tenantId named : String} {siteId calendarId : Option String}
    (isNamed : orText calendarId none = some named) (instant : Int) :
    (∀ rows : List StampedCalendar, rows.Perm calendars → ∀ calendar,
      resolveTariffCalendar rows tenantId siteId calendarId instant = .ok (some calendar) →
        calendar.IsWithin siteId) ↔
      ∀ calendar ∈ calendars, calendar.id = named → calendar.tenantId = tenantId →
        calendar.IsWithin siteId := by
  simp only [resolveTariffCalendar, isNamed]
  constructor
  · intro within calendar member isOne isTenant
    obtain ⟨before, after, rfl⟩ := List.append_of_mem member
    refine within (calendar :: (before ++ after)) List.perm_middle.symm calendar ?_
    have isFound : (calendar :: (before ++ after)).find? (fun row => row.id = named) =
        some calendar :=
      List.find?_cons_of_pos (by simpa using isOne)
    rw [isFound]
    exact if_neg (not_not.mpr isTenant)
  · intro within rows perm calendar resolved
    split at resolved
    · cases resolved
    · rename_i explicit found
      split at resolved
      · cases resolved
      · rename_i isTenant
        obtain rfl := Option.some.inj (Except.ok.inj resolved)
        exact within explicit (perm.mem_iff.mp (List.mem_of_find?_eq_some found))
          (by simpa using List.find?_some found) (not_not.mp isTenant)

/-- Both services resolve calendars of the station's own site or of its tenant, whatever the order
of the rows, exactly when the station has a site or no site's calendar is a newest one; and the
optimizer's answer to a plan that names a calendar is one exactly when that calendar is. -/
theorem resolvedCalendars_iff {stations : List Station} {station : Station}
    {tenantId stationId : String}
    (found : loadStationOrThrow stations tenantId stationId = .ok station)
    (calendars : List StampedCalendar) (calendarId : Option String) (instant : Int) :
    ((∀ rows : List StampedCalendar, rows.Perm calendars → ∀ calendar,
        Tariffs.resolveEffectiveCalendarForStation stations rows tenantId stationId instant =
          .ok (some calendar) → calendar.IsWithin station.siteId) ↔
      Tariffs.ForemostIsWithin calendars tenantId station.siteId instant) ∧
    ((∀ rows : List StampedCalendar, rows.Perm calendars → ∀ calendar,
        resolveForPlan stations rows tenantId stationId calendarId instant =
          .ok (some calendar) → calendar.IsWithin station.siteId) ↔
      ChosenIsWithin calendars tenantId station.siteId calendarId instant) := by
  constructor
  · simp only [Tariffs.resolveEffectiveCalendarForStation, found, bind, Except.bind, pure,
      Except.pure, Except.ok.injEq]
    exact Tariffs.forall_resolved_isWithin_iff
  · simp only [resolveForPlan, found, bind, Except.bind]
    unfold ChosenIsWithin
    split
    · rename_i named isNamed
      exact forall_explicit_isWithin_iff isNamed instant
    · rename_i unnamed
      simp only [resolveTariffCalendar, unnamed, Except.ok.injEq, Tariffs.sortCalendars_orText]
      exact Tariffs.forall_resolved_isWithin_iff

namespace Sample

def calendar (id : String) (siteId : Option String) (version : Int) : StampedCalendar where
  id := id
  tenantId := "tenant"
  siteId := siteId
  name := id
  version := version
  currency := "USD"
  timezone := "UTC"
  status := .active
  effectiveFrom := 0
  effectiveTo := none
  bands := []
  metadata := none
  createdBy := none
  approvedBy := none
  approvedAt := none
  updatedAt := 0

def calendars : List StampedCalendar :=
  [calendar "everywhere" none 1, calendar "depot" (some "depot") 2]

def station (siteId : Option String) : Station where
  id := "station"
  siteId := siteId
  orgId := some "tenant"
  siteOrganizationId := none
  createdAt := 0

end Sample

theorem resolvedCalendars_iff_mall :
    (∀ rows : List StampedCalendar, rows.Perm Sample.calendars → ∀ calendar,
      Tariffs.resolveEffectiveCalendarForStation [Sample.station (some "mall")] rows "tenant"
        "station" 1 = .ok (some calendar) → calendar.IsWithin (some "mall")) ↔
      Tariffs.ForemostIsWithin Sample.calendars "tenant" (some "mall") 1 :=
  (@resolvedCalendars_iff [Sample.station (some "mall")] (Sample.station (some "mall")) "tenant"
    "station" (by rfl) Sample.calendars none 1).1

/-- A station without a site is given the depot's calendar by both services. -/
theorem resolvedCalendars_not_isWithin : ∃ calendar, calendar.siteId = some "depot" ∧
      ¬calendar.IsWithin (Sample.station none).siteId ∧
      Tariffs.resolveEffectiveCalendarForStation [Sample.station none] Sample.calendars "tenant"
        "station" 1 = .ok (some calendar) ∧
      resolveForPlan [Sample.station none] Sample.calendars "tenant" "station" none 1 =
        .ok (some calendar) := by
  refine ⟨Sample.calendar "depot" (some "depot") 2, rfl, ?_, rfl, rfl⟩
  rintro (isNone | isNone) <;> cases isNone

end Csms.EnergyOptimization
