import Csms.Database.Rows
import Csms.Database.Executed
import Csms.Tariffs.Input

/-!
# Tariff calendars

A calendar becomes active by one statement and takes the other active calendars of its
scope, that is of its tenant and site, out of force by a second one.  Other requests can
come in between.
-/

namespace Csms.Tariffs

open Database Js

/-- Calendars that compete: at most one of them is to be active. -/
structure Scope where
  tenantId : String
  siteId : Option String
  deriving DecidableEq

structure TariffCalendar extends Scope where
  (id name : String)
  version : Int
  (currency timezone : String)
  status : CalendarStatus
  effectiveFrom : Int
  effectiveTo : Option Int
  bands : List TariffBand
  metadata : Option JsRecord
  (createdBy approvedBy : Option String)
  approvedAt : Option Int

structure Site where
  id : String
  organizationId : Option String
  deriving DecidableEq

structure Store where
  calendars : Table TariffCalendar TariffCalendar.id
  sites : Table Site Site.id

namespace Store

def calendarTable : Component Store TariffCalendar.id where
  table := calendars
  put store calendars := { store with calendars }
  table_put _ _ := rfl

variable (store : Store)

/-- The unique columns; a calendar without a site is unlike any other. -/
def isFree (row : TariffCalendar) : Bool :=
  store.calendars.rows.all fun other =>
    row.siteId.isNone ||
      !(other.tenantId = row.tenantId && other.siteId = row.siteId && other.name = row.name &&
        other.version = row.version)

def latestVersion (scope : Scope) (name : String) : Option Int :=
  (newestOf TariffCalendar.version
    (store.calendars.rows.filter fun calendar =>
      calendar.toScope = scope && calendar.name = name)).map TariffCalendar.version

/-- The calendar is in force. -/
def IsActive (scope : Scope) (id : String) : Prop :=
  ∃ calendar, calendarTable.find? id store = some calendar ∧ calendar.toScope = scope ∧
    calendar.status = .active

end Store

inductive TariffWrite where
  | activate (id : String) (approvedBy : Option String) (approvedAt : Int)
  | create (row : TariffCalendar)
  /-- `updateMany` of `ensureSingleActiveCalendar`. -/
  | demoteSiblings (active : TariffCalendar)

namespace TariffWrite

/-- What a statement hands back. -/
def Result : TariffWrite → Type
  | .demoteSiblings .. => Unit
  | _ => TariffCalendar

def isSibling (active calendar : TariffCalendar) : Bool :=
  calendar.toScope = active.toScope && calendar.id ≠ active.id && calendar.status = .active

def activated (approvedBy : Option String) (approvedAt : Int) (calendar : TariffCalendar) :
    TariffCalendar :=
  { calendar with
    status := .active
    approvedBy := approvedBy
    approvedAt := some approvedAt }

def demoted (calendar : TariffCalendar) : TariffCalendar :=
  { calendar with status := .draft }

theorem id_activated (approvedBy : Option String) (approvedAt : Int)
    (calendar : TariffCalendar) : (activated approvedBy approvedAt calendar).id = calendar.id :=
  rfl

theorem id_demoted (calendar : TariffCalendar) : (demoted calendar).id = calendar.id := rfl

def body : (write : TariffWrite) → Tx Store Unit write.Result
  | .activate id approvedBy approvedAt =>
    Tx.updateRow Store.calendarTable [()] id (activated approvedBy approvedAt)
      (id_activated approvedBy approvedAt) .commit
  | .create row =>
    Tx.statement
      (fun store => (Store.calendarTable.find? row.id store).isNone && store.isFree row)
      (Store.calendarTable.insert row) fun _ => row
  | .demoteSiblings active =>
    Tx.statement (fun _ => true)
      (fun store =>
        { store with
          calendars := store.calendars.updateWhere (isSibling active) demoted id_demoted })
      fun _ => ()

end TariffWrite

inductive TariffQuery where
  | calendar (id : String)
  | site (id : String)
  | latestVersion (scope : Scope) (name : String)
  deriving DecidableEq

abbrev TariffRequest (α : Type) :=
  Request Store TariffQuery TariffWrite TariffWrite.Result HttpException α

/-- A statement; when it fails, the request fails. -/
def execute (write : TariffWrite) : TariffRequest write.Result :=
  Request.commit write .internal

def findCalendar (id : String) : TariffRequest (Option TariffCalendar) :=
  Request.read (.calendar id) fun store => store.calendars.find? id

def findSite (id : String) : TariffRequest (Option Site) :=
  Request.read (.site id) fun store => store.sites.find? id

def findLatestVersion (scope : Scope) (name : String) : TariffRequest (Option Int) :=
  Request.read (.latestVersion scope name) fun store => store.latestVersion scope name

/-- What a request gets besides its body: who acts, for whom, and the clocks. -/
structure TariffCall where
  engine : Engine
  context : Option TenantContext
  actorId : Option String
  /-- The id that the database chooses for a new row. -/
  newId : String
  (now approvedAt : Int)

def resolveTenantId (call : TariffCall) : Except HttpException String :=
  match orText (TenantContext.resolve call.context none) none with
  | some tenantId => .ok tenantId
  | none => .error (.badRequest "Tenant context is required")

def ofTenant (tenantId : String) (row : Option TariffCalendar) :
    Except HttpException TariffCalendar :=
  match row with
  | some row =>
    if row.tenantId = tenantId then .ok row
    else .error (.notFound "Tariff calendar not found")
  | none => .error (.notFound "Tariff calendar not found")

def getCalendar (call : TariffCall) (id : String) : TariffRequest TariffCalendar := do
  let tenantId ← Request.ofExcept (resolveTenantId call)
  let row ← findCalendar id
  Request.ofExcept (ofTenant tenantId row)

def loadCalendarOrThrow (id tenantId : String) : TariffRequest TariffCalendar := do
  let row ← findCalendar id
  Request.ofExcept (ofTenant tenantId row)

/-- The site that was found, if the tenant may use it. -/
def siteOfTenant (tenantId : String) (site : Option Site) : Except HttpException Unit :=
  match site with
  | some site =>
    match orText site.organizationId none with
    | some organizationId =>
      if organizationId ≠ tenantId then .error (.notFound "Site not found") else .ok ()
    | none => .ok ()
  | none => .error (.notFound "Site not found")

def assertSiteBelongsToTenant (siteId : Option String) (tenantId : String) : TariffRequest Unit :=
  match siteId with
  | some siteId => do
    let site ← findSite siteId
    Request.ofExcept (siteOfTenant tenantId site)
  | none => pure ()

def activateCalendar (call : TariffCall) (id : String) : TariffRequest TariffCalendar := do
  let tenantId ← Request.ofExcept (resolveTenantId call)
  let current ← loadCalendarOrThrow id tenantId
  let active ← execute (.activate current.id (orText call.actorId current.approvedBy)
    call.approvedAt)
  let _ ← execute (.demoteSiblings active)
  getCalendar call active.id

/-- The row that `createCalendar` inserts. -/
def newCalendar (call : TariffCall) (scope : Scope) (draft : CalendarDraft) (version : Int) :
    TariffCalendar where
  toScope := scope
  id := call.newId
  name := draft.name
  version := version
  currency := draft.currency
  timezone := draft.timezone
  status := draft.status
  effectiveFrom := draft.effectiveFrom
  effectiveTo := draft.effectiveTo
  bands := draft.bands
  metadata := draft.metadata
  createdBy := orText call.actorId none
  approvedBy := if draft.status = .active then orText call.actorId none else none
  approvedAt := if draft.status = .active then some call.approvedAt else none

def versionOf (scope : Scope) (draft : CalendarDraft) : TariffRequest Int :=
  match draft.version with
  | some version => pure version
  | none => do
    let latest ← findLatestVersion scope draft.name
    return latest.getD 0 + 1

def createCalendar (call : TariffCall) (input : JsRecord) : TariffRequest TariffCalendar := do
  let tenantId ← Request.ofExcept (resolveTenantId call)
  let siteId := EnergyManagement.readOptionalString (input "siteId")
  assertSiteBelongsToTenant siteId tenantId
  let draft ← Request.ofExcept (readDraft call.engine call.now input)
  let version ← versionOf ⟨tenantId, siteId⟩ draft
  let row := newCalendar call ⟨tenantId, siteId⟩ draft version
  if draft.status = .active then do
    let created ← execute (.create row)
    let _ ← execute (.demoteSiblings created)
    getCalendar call created.id
  else do
    let created ← execute (.create row)
    getCalendar call created.id

/-- An activation, or the creation of a calendar. -/
inductive TariffAction where
  | activate (call : TariffCall) (id : String)
  | create (call : TariffCall) (input : JsRecord)

def TariffAction.program : TariffAction → TariffRequest TariffCalendar
  | .activate call id => activateCalendar call id
  | .create call input => createCalendar call input

namespace TariffWrite

theorem guarded (write : TariffWrite) : write.body.Guarded (fun _ : Unit => ⊥) [] := by
  cases write <;> exact Tx.guarded_write_all _ _ _

variable {store after : Store}

/-- An activation makes one calendar active. -/
theorem isActive_activate {id : String} {approvedBy : Option String} {approvedAt : Int}
    {active : TariffCalendar}
    (run : (activate id approvedBy approvedAt).body.run store = some (after, active)) :
    active.id = id ∧ ∀ scope other, after.IsActive scope other ↔
        store.IsActive scope other ∨ other = id ∧ active.toScope = scope := by
  rcases Tx.run_updateRow_eq_some_iff.mp run with ⟨calendar, found, isAfter⟩
  cases isAfter
  refine ⟨(Table.find?_eq_some_iff.mp found).2, ?_⟩
  intro scope other
  unfold Store.IsActive
  rw [Component.find?_update]
  by_cases isIt : other = id
  · subst isIt
    rw [if_pos rfl, found]
    constructor
    · rintro ⟨_, ⟨⟩, ofScope, _⟩
      exact Or.inr ⟨rfl, ofScope⟩
    · rintro (⟨row, isRow, ofScope, _⟩ | ⟨_, ofScope⟩)
      · cases isRow
        exact ⟨_, rfl, ofScope, rfl⟩
      · exact ⟨_, rfl, ofScope, rfl⟩
  · rw [if_neg isIt]
    simp only [isIt, false_and, or_false]

theorem isActive_create {row created : TariffCalendar}
    (run : (create row).body.run store = some (after, created)) : created = row ∧ ∀ scope other,
      after.IsActive scope other ↔ store.IsActive scope other ∨
        other = row.id ∧ row.toScope = scope ∧ row.status = .active := by
  rcases Tx.run_statement_eq_some_iff.mp run with ⟨allowed, isAfter⟩
  cases isAfter
  refine ⟨rfl, ?_⟩
  intro scope other
  have free := Option.isNone_iff_eq_none.mp (Bool.and_eq_true_iff.mp allowed).1
  unfold Store.IsActive
  rw [Component.find?_insert]
  by_cases isIt : other = row.id
  · subst isIt
    rw [free, if_pos rfl, Option.none_or]
    constructor
    · rintro ⟨_, ⟨⟩, ofScope, isActive⟩
      exact Or.inr ⟨rfl, ofScope, isActive⟩
    · rintro (⟨calendar, isRow, _⟩ | ⟨_, ofScope, isActive⟩)
      · contradiction
      · exact ⟨row, rfl, ofScope, isActive⟩
  · rw [if_neg (Ne.symm isIt), Option.or_none]
    simp only [isIt, false_and, or_false]

theorem isActive_demoteSiblings {active : TariffCalendar} {result : Unit}
    (run : (demoteSiblings active).body.run store = some (after, result)) :
    ∀ scope other, after.IsActive scope other ↔
      store.IsActive scope other ∧ (active.toScope = scope → other = active.id) := by
  rcases Tx.run_statement_eq_some_iff.mp run with ⟨_, isAfter⟩
  cases isAfter
  intro scope other
  have rows : Store.calendarTable.find? other
      { store with
        calendars := store.calendars.updateWhere (isSibling active) demoted id_demoted } =
        (Store.calendarTable.find? other store).map fun calendar =>
          if isSibling active calendar then demoted calendar else calendar :=
    Table.find?_updateWhere store.calendars (isSibling active) demoted id_demoted other
  unfold Store.IsActive
  rw [rows]
  rcases found : Store.calendarTable.find? other store with _ | calendar
  · simp
  · obtain rfl := (Table.find?_eq_some_iff.mp found).2
    by_cases sibling : isSibling active calendar = true
    · simp only [Option.map_some, sibling, if_true]
      simp only [isSibling, Bool.and_eq_true, decide_eq_true_eq] at sibling
      rcases sibling with ⟨⟨sameScope, other⟩, _⟩
      constructor
      · rintro ⟨_, ⟨⟩, _, isActive⟩
        contradiction
      · rintro ⟨⟨_, ⟨⟩, ofScope, _⟩, isItself⟩
        exact absurd (isItself (sameScope.symm.trans ofScope)) (by simpa using other)
    · simp only [Option.map_some, sibling, Bool.false_eq_true, if_false]
      constructor
      · rintro ⟨_, ⟨⟩, ofScope, isActive⟩
        refine ⟨⟨_, rfl, ofScope, isActive⟩, ?_⟩
        intro sameScope
        by_contra isOther
        apply sibling
        simp [isSibling, ofScope, sameScope, isOther, isActive]
      · rintro ⟨isActive, _⟩
        exact isActive

end TariffWrite

end Csms.Tariffs
