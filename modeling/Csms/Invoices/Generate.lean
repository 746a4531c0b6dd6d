import Csms.Commands.Core
import Csms.Sessions.Store
import Mathlib.Data.Prod.Lex

/-!
# Invoices

`BillingService.generateInvoice` bills a user for the sessions that start in a
period.  A request with a correlation id that an invoice of the user carries is
answered with that invoice; any other request selects the sessions by their start,
adds up what each costs and stores one more invoice.
-/

namespace Csms.Invoices

open Js Commands Service
open Sessions (Session)

structure User where
  id : String
  organizationId : Option String
  deriving DecidableEq

structure TariffCalendar where
  (tenantId status : String)
  effectiveFrom : Int
  effectiveTo : Option Int
  (version updatedAt : Int)
  bands : JsValue

structure Invoice where
  (id userId : String)
  totalAmount : ℚ
  (currency status settlementStatus : String)
  (dueDate issuedAt : Int)
  (billingPeriodFrom billingPeriodTo : Option Int)
  sourceSessionCount : Nat
  correlationId : Option String
  deriving DecidableEq

structure Store where
  users : Table User User.id
  tariffCalendars : List TariffCalendar
  sessions : Table Session Session.id
  /-- In the order of their creation. -/
  invoices : List Invoice

abbrev InvoiceHandler (α : Type) :=
  EStateM HttpException Store α

structure GenerateInvoiceDto where
  userId : String
  billingPeriodFrom : Option DateText := none
  billingPeriodTo : Option DateText := none
  currency : Option String := none
  dueInDays : Option Int := none
  correlationId : Option String := none

/-- The id that the database chooses, and the clock each time it is read. -/
structure InvoiceCall where
  newId : String
  (periodNow dueNow issuedNow : Int)

/-- A period with both ends included. -/
structure BillingPeriod where
  (periodFrom periodTo : Int)
  before : periodFrom < periodTo
  deriving DecidableEq

def BillingPeriod.covers (period : BillingPeriod) (time : Int) : Bool :=
  period.periodFrom ≤ time ∧ time ≤ period.periodTo

/-- The time value of `new Date(milliseconds)`. -/
def timeClip (milliseconds : Int) : Option Int :=
  if |milliseconds| ≤ 8640000000000000 then some milliseconds else none

def billingPeriod (call : InvoiceCall) (dto : GenerateInvoiceDto) :
    Except HttpException BillingPeriod :=
  let periodTo := dto.billingPeriodTo.elim (some call.periodNow) dateParse
  let periodFrom := dto.billingPeriodFrom.elim
    (periodTo.bind fun time => timeClip (time - 30 * 24 * 3600 * 1000)) dateParse
  match periodFrom, periodTo with
  | some periodFrom, some periodTo =>
    if before : periodFrom < periodTo then .ok ⟨periodFrom, periodTo, before⟩
    else .error (.badRequest "billingPeriodFrom must be before billingPeriodTo")
  | _, _ => .error (.badRequest "Invalid billing period supplied")

def normalizeCurrency (value : Option String) : Except HttpException String :=
  let normalized := toUpperCase (trim ((orText value none).getD "USD"))
  if length normalized < 3 ∨ length normalized > 4 then
    .error (.badRequest "currency must be a valid code")
  else .ok normalized

/-- The price of one band, if it is a number or the text of one and not negative. -/
def bandRate (engine : Engine) : JsValue → Option ℚ
  | .object entry =>
    match entry "pricePerKwh" with
    | .number (.finite value) => if 0 ≤ value then some value else none
    | .string text =>
      match engine.toNumber (.string text) with
      | .finite parsed => if 0 ≤ parsed then some parsed else none
      | _ => none
    | _ => none
  | _ => none

/-- One round of the loop over the bands: the sum and the count. -/
def addBand (engine : Engine) (acc : ℚ × Nat) (entry : JsValue) : ℚ × Nat :=
  (bandRate engine entry).elim acc fun value => (acc.1 + value, acc.2 + 1)

def readTariffRate (engine : Engine) : JsValue → ℚ
  | .array bands =>
    let (sum, count) := bands.foldl (addBand engine) (0, 0)
    if count = 0 then 0 else JsNumber.toFixed 4 (sum / count)
  | _ => 0

namespace Store

variable (store : Store)

def activeCalendar (tenantId : String) (time : Int) : Option TariffCalendar :=
  newestOf (fun calendar => toLex (calendar.version, calendar.updatedAt))
    (store.tariffCalendars.filter fun calendar =>
      calendar.tenantId = tenantId ∧ calendar.status = "ACTIVE" ∧ calendar.effectiveFrom ≤ time ∧
        calendar.effectiveTo.all (time ≤ ·))

def resolveFallbackTariffRate (engine : Engine) (userId : String) (time : Int) : ℚ :=
  (orText ((store.users.find? userId).bind User.organizationId) none).elim 0 fun organizationId =>
    (store.activeCalendar organizationId time).elim 0 fun calendar =>
      readTariffRate engine calendar.bands

def sessionsIn (userId : String) (period : BillingPeriod) : List Session :=
  store.sessions.rows.filter fun session =>
    session.userId = some userId ∧ period.covers session.startTime

/-- The newest invoice with the correlation id of a request. -/
def duplicateOf (dto : GenerateInvoiceDto) : Option Invoice :=
  (optionalTrimmed dto.correlationId).bind fun correlationId =>
    (store.invoices.filter fun invoice =>
      invoice.userId = dto.userId ∧ invoice.correlationId = some correlationId).getLast?

end Store

/-- One round of the loop over the sessions. -/
def addSession (tariffRate sum : ℚ) (session : Session) : ℚ :=
  if 0 < session.amount then sum + session.amount
  else if 0 < tariffRate ∧ 0 < session.totalEnergy then sum + session.totalEnergy * tariffRate
  else sum

/-- `prisma.invoice.create`: the user has to exist. -/
def createInvoice (invoice : Invoice) : InvoiceHandler Invoice := fun store =>
  if (store.users.find? invoice.userId).isSome then
    .ok invoice { store with invoices := store.invoices ++ [invoice] }
  else .error .internal store

def dueInDays (dto : GenerateInvoiceDto) : Int :=
  match dto.dueInDays with
  | some days => if 0 < days then days else 7
  | none => 7

/-- The `data` of a new invoice. -/
def Store.newInvoice (store : Store) (engine : Engine) (call : InvoiceCall)
    (dto : GenerateInvoiceDto) (period : BillingPeriod) (currency : String) : Invoice :=
  let sessions := store.sessionsIn dto.userId period
  let tariffRate := store.resolveFallbackTariffRate engine dto.userId period.periodTo
  let totalAmount := JsNumber.toFixed 4 (sessions.foldl (addSession tariffRate) 0)
  { id := call.newId
    userId := dto.userId
    totalAmount := totalAmount
    currency := currency
    status := if 0 < totalAmount then "ISSUED" else "DRAFT"
    settlementStatus := if 0 < totalAmount then "RECONCILING" else "RECONCILED"
    dueDate := call.dueNow + dueInDays dto * 24 * 3600 * 1000
    issuedAt := call.issuedNow
    billingPeriodFrom := some period.periodFrom
    billingPeriodTo := some period.periodTo
    sourceSessionCount := sessions.length
    correlationId := optionalTrimmed dto.correlationId }

def generateInvoice (engine : Engine) (call : InvoiceCall) (dto : GenerateInvoiceDto) :
    InvoiceHandler Invoice := do
  let period ← orThrow (billingPeriod call dto)
  let store ← get
  match store.duplicateOf dto with
  | some duplicate => pure duplicate
  | none =>
    let currency ← orThrow (normalizeCurrency dto.currency)
    createInvoice (store.newInvoice engine call dto period currency)

/-- What one session adds to an invoice. -/
def billedAmount (tariffRate : ℚ) (session : Session) : ℚ :=
  addSession tariffRate 0 session

theorem addSession_eq (tariffRate sum : ℚ) (session : Session) :
    addSession tariffRate sum session = sum + billedAmount tariffRate session := by
  rw [billedAmount, addSession, addSession]
  split
  · rw [zero_add]
  · split
    · rw [zero_add]
    · rw [add_zero]

theorem foldl_addSession (tariffRate sum : ℚ) (sessions : List Session) :
    sessions.foldl (addSession tariffRate) sum =
      sum + (sessions.map (billedAmount tariffRate)).sum := by
  induction sessions generalizing sum with
  | nil => simp
  | cons session sessions ih =>
    rw [List.foldl_cons, ih, addSession_eq, List.map_cons, List.sum_cons, add_assoc]

theorem addBand_nonneg (engine : Engine) {acc : ℚ × Nat} (nonneg : 0 ≤ acc.1) (entry : JsValue) :
    0 ≤ (addBand engine acc entry).1 := by
  rw [addBand]
  rcases read : bandRate engine entry with _ | value
  · exact nonneg
  · have atLeastZero : 0 ≤ value := by
      unfold bandRate at read
      split at read
      · split at read
        · split at read
          · cases read
            assumption
          · cases read
        · split at read
          · split at read
            · cases read
              assumption
            · cases read
          · cases read
        · cases read
      · cases read
    exact add_nonneg nonneg atLeastZero

theorem foldl_addBand_nonneg (engine : Engine) {acc : ℚ × Nat} (nonneg : 0 ≤ acc.1)
    (bands : List JsValue) : 0 ≤ (bands.foldl (addBand engine) acc).1 := by
  induction bands generalizing acc with
  | nil => exact nonneg
  | cons entry bands ih => exact ih (addBand_nonneg engine nonneg entry)

theorem readTariffRate_nonneg (engine : Engine) (bands : JsValue) :
    0 ≤ readTariffRate engine bands := by
  unfold readTariffRate
  split
  · rename_i entries
    have sumNonneg : 0 ≤ (entries.foldl (addBand engine) (0, 0)).1 :=
      foldl_addBand_nonneg engine le_rfl entries
    simp only
    split
    · exact le_rfl
    · exact JsNumber.toFixed_nonneg 4 (div_nonneg sumNonneg (Nat.cast_nonneg _))
  · exact le_rfl

theorem Store.tariffRate_nonneg (store : Store) (engine : Engine) (userId : String) (time : Int) :
    0 ≤ store.resolveFallbackTariffRate engine userId time := by
  rw [resolveFallbackTariffRate]
  rcases orText ((store.users.find? userId).bind User.organizationId) none with _ | organizationId
  · exact le_rfl
  · rw [Option.elim_some]
    rcases store.activeCalendar organizationId time with _ | calendar
    · exact le_rfl
    · exact readTariffRate_nonneg engine calendar.bands

/-- A user, and a period to bill. -/
structure Window where
  userId : String
  period : BillingPeriod
  deriving DecidableEq

/-- The rate per kWh of an invoice for the window. -/
def Window.tariffRate (engine : Engine) (store : Store) (window : Window) : ℚ :=
  store.resolveFallbackTariffRate engine window.userId window.period.periodTo

def Window.sessions (store : Store) (window : Window) : List Session :=
  store.sessionsIn window.userId window.period

/-- What a request creates an invoice for: nothing when it is refused, or answered with
an earlier invoice. -/
def Store.windowOf (store : Store) (call : InvoiceCall) (dto : GenerateInvoiceDto) :
    Option Window :=
  match billingPeriod call dto, normalizeCurrency dto.currency with
  | .ok period, .ok _ =>
    if (store.duplicateOf dto).isNone ∧ (store.users.find? dto.userId).isSome then
      some ⟨dto.userId, period⟩
    else none
  | _, _ => none

/-- The invoice bills the sessions of the window. -/
structure Bills (engine : Engine) (store : Store) (window : Window) (invoice : Invoice) :
    Prop where
  user : invoice.userId = window.userId
  starts : invoice.billingPeriodFrom = some window.period.periodFrom
  ends : invoice.billingPeriodTo = some window.period.periodTo
  counted : invoice.sourceSessionCount = (window.sessions store).length
  totalled : invoice.totalAmount =
    JsNumber.toFixed 4 ((window.sessions store).map (billedAmount (window.tariffRate engine store))).sum

theorem bills_newInvoice (engine : Engine) (call : InvoiceCall) (dto : GenerateInvoiceDto)
    (store : Store) (period : BillingPeriod) (currency : String) :
    Bills engine store ⟨dto.userId, period⟩ (store.newInvoice engine call dto period currency) := by
  constructor
  · rfl
  · rfl
  · rfl
  · rfl
  · rw [Store.newInvoice, foldl_addSession, zero_add]
    rfl

section

variable {engine : Engine} {call : InvoiceCall} {dto : GenerateInvoiceDto} {store : Store}

theorem get_bind {α : Type} (rest : Store → InvoiceHandler α) (store : Store) :
    (get >>= rest) store = rest store store :=
  rfl

theorem generateInvoice_of_invalid {error : HttpException}
    (invalid : billingPeriod call dto = .error error) :
    generateInvoice engine call dto store = .error error store := by
  rw [generateInvoice, invalid]
  rfl

theorem generateInvoice_of_valid {period : BillingPeriod}
    (valid : billingPeriod call dto = .ok period) : generateInvoice engine call dto store =
      match store.duplicateOf dto, normalizeCurrency dto.currency with
      | some duplicate, _ => .ok duplicate store
      | none, .error error => .error error store
      | none, .ok currency =>
        createInvoice (store.newInvoice engine call dto period currency) store := by
  rw [generateInvoice, valid, bind_of_ok (orThrow_ok period store), get_bind]
  rcases store.duplicateOf dto with _ | duplicate
  · rcases normalizeCurrency dto.currency with error | currency
    · rfl
    · rfl
  · rfl

/-- Without a window the request changes nothing. -/
theorem after_of_noWindow (absent : store.windowOf call dto = none) :
    after (generateInvoice engine call dto) store = store := by
  rw [after]
  rcases valid : billingPeriod call dto with error | period
  · rw [generateInvoice_of_invalid valid]
  · rw [generateInvoice_of_valid valid]
    rcases duplicate : store.duplicateOf dto with _ | earlier
    · rcases accepted : normalizeCurrency dto.currency with error | currency
      · rfl
      · rcases known : store.users.find? dto.userId with _ | user
        · simp [createInvoice, Store.newInvoice, known]
        · simp [Store.windowOf, valid, accepted, duplicate, known] at absent
    · rfl

theorem generateInvoice_of_window {window : Window}
    (isWindow : store.windowOf call dto = some window) :
    ∃ invoice, Bills engine store window invoice ∧ generateInvoice engine call dto store =
        .ok invoice { store with invoices := store.invoices ++ [invoice] } := by
  unfold Store.windowOf at isWindow
  split at isWindow
  · rename_i period currency valid accepted
    split at isWindow
    · rename_i guards
      rcases guards with ⟨unanswered, known⟩
      cases isWindow
      refine ⟨store.newInvoice engine call dto period currency, bills_newInvoice .., ?_⟩
      rw [generateInvoice_of_valid valid, Option.isNone_iff_eq_none.mp unanswered, accepted]
      exact if_pos known
    · cases isWindow
  · cases isWindow

end

end Csms.Invoices
