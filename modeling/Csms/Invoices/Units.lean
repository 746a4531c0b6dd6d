import Csms.Invoices.Generate
import Csms.Sessions.Runs

/-!
# The units of an invoice

The session service stores energy in Wh: what was delivered is the difference of the
two meter columns.  An invoice multiplies the stored energy by a rate per kWh, so a
completed session without an amount costs a thousand times its energy.
-/

namespace Csms.Invoices

open Js Service
open Sessions (Session SessionEngine SessionChange SessionOp Delivery NewSession)

/-- The energy in Wh between the start and the stop of a session. -/
def deliveredWh (session : Session) : ℚ :=
  max 0 (session.meterStop - session.meterStart)

/-- A completed session has the energy that its meters say. -/
def IsMetered (session : Session) : Prop :=
  session.status = "COMPLETED" → session.totalEnergy = deliveredWh session

theorem isMetered_apply (change : SessionChange) (session : Session) :
    IsMetered (change.apply session) := by
  intro completed
  cases change with
  | telemetry meterWh => rfl
  | stop meterStop endTime => rfl
  | finish meterStop endTime => rfl
  | deliver energyDelivered endTime =>
    change "STOPPED" = "COMPLETED" at completed
    simp at completed

def AllMetered (store : Sessions.Store) : Prop :=
  ∀ session ∈ store.sessions.rows, IsMetered session

section

variable {store : Sessions.Store} (metered : AllMetered store)
include metered

theorem AllMetered.changeSession {session : Session} (member : session ∈ store.sessions.rows)
    (change : SessionChange) : AllMetered (store.changeSession session change) := by
  intro row inRows
  rw [Sessions.Store.rows_changeSession] at inRows
  rcases List.mem_map.mp inRows with ⟨old, wasThere, rfl⟩
  rw [Sessions.Store.changed]
  split
  · rename_i sameId
    obtain rfl := store.sessions.eq_of_key_eq wasThere member sameId
    exact isMetered_apply change old
  · exact metered old wasThere

theorem AllMetered.create (newId : String) (new : NewSession) (stationId : String) :
    AllMetered (store.create newId { new with stationId := stationId }) := by
  by_cases accepted : store.accepts newId { new with stationId := stationId } = true
  · intro row inRows
    rw [Sessions.Store.rows_create store accepted] at inRows
    rcases List.mem_append.mp inRows with wasThere | isNew
    · exact metered row wasThere
    · obtain rfl := List.mem_singleton.mp isNew
      intro completed
      change "ACTIVE" = "COMPLETED" at completed
      simp at completed
  · rw [Sessions.Store.create, if_neg accepted]
    exact metered

theorem AllMetered.apply (newId : String) (op : SessionOp) : AllMetered (op.apply newId store) := by
  cases op with
  | ignore => exact metered
  | start tenantId new =>
    rw [SessionOp.apply]
    rcases store.startable tenantId new with _ | chargePoint
    · exact metered
    · exact metered.create newId new chargePoint.stationId
  | change tenantId txId step =>
    rw [SessionOp.apply]
    rcases found : store.changeable tenantId txId with _ | session
    · exact metered
    · have member := store.mem_of_sessionOf (Sessions.changeable_eq_some found)
      exact metered.changeSession member step

end

theorem AllMetered.nextAll {engine : SessionEngine} {store : Sessions.Store}
    (metered : AllMetered store) (deliveries : List Delivery) :
    AllMetered (Delivery.nextAll engine store deliveries) := by
  apply Transition.forall_mem_states _ metered deliveries
  · exact Transition.final_mem_states _ _ _
  · intro store delivery metered
    rw [Delivery.next_eq]
    exact metered.apply _ _

theorem billedAmount_of_noAmount {tariffRate : ℚ} (rateNonneg : 0 ≤ tariffRate) {session : Session}
    (noAmount : ¬ 0 < session.amount) (energyNonneg : 0 ≤ session.totalEnergy) :
    billedAmount tariffRate session = session.totalEnergy * tariffRate := by
  rw [billedAmount, addSession, if_neg noAmount]
  split
  · rw [zero_add]
  · rename_i notBoth
    rcases rateNonneg.eq_or_lt with isZero | ratePos
    · rw [← isZero, mul_zero]
    · rcases energyNonneg.eq_or_lt with isZero | energyPos
      · rw [← isZero, zero_mul]
      · exact absurd ⟨ratePos, energyPos⟩ notBoth

/-- A factor of a thousand is seen unless there is nothing to multiply. -/
theorem wh_mul_eq_kwh_mul_iff (energyWh tariffRate : ℚ) :
    energyWh * tariffRate = energyWh / 1000 * tariffRate ↔ energyWh = 0 ∨ tariffRate = 0 := by
  constructor
  · intro same
    have product : energyWh * tariffRate = 0 := by linarith
    exact mul_eq_zero.mp product
  · rintro (rfl | rfl)
    · rw [zero_div]
    · rw [mul_zero, mul_zero]

section Billing

variable {engine : SessionEngine} {start : Sessions.Store} {deliveries : List Delivery}
  {store : Store} {call : InvoiceCall} {dto : GenerateInvoiceDto} {window : Window}

/-- The columns of a session that the session service computes. -/
def metering (session : Session) : String × ℚ × ℚ × ℚ :=
  (session.status, session.meterStart, session.meterStop, session.totalEnergy)

/-- Whatever messages wrote the meters of the sessions, an invoice bills a completed
session without an amount for its energy in kWh exactly when there is no energy, or no
rate. -/
theorem billsKwh_iff_nothing (fresh : start.sessions.rows = [])
    (written : ∀ session ∈ store.sessions.rows,
      ∃ row ∈ (Delivery.nextAll engine start deliveries).sessions.rows,
        metering session = metering row) (isWindow : store.windowOf call dto = some window) :
    ∃ invoice, generateInvoice engine.toEngine call dto store =
          .ok invoice { store with invoices := store.invoices ++ [invoice] } ∧
      Bills engine.toEngine store window invoice ∧
      ∀ session ∈ window.sessions store, session.status = "COMPLETED" → ¬ 0 < session.amount →
        (billedAmount (window.tariffRate engine.toEngine store) session =
            deliveredWh session / 1000 * window.tariffRate engine.toEngine store ↔
          deliveredWh session = 0 ∨ window.tariffRate engine.toEngine store = 0) := by
  rcases @generateInvoice_of_window engine.toEngine call dto store window isWindow with
    ⟨invoice, bills, creates⟩
  refine ⟨invoice, creates, bills, ?_⟩
  intro session selected completed noAmount
  rcases written session (List.mem_filter.mp selected).1 with ⟨row, member, same⟩
  rw [metering, metering, Prod.mk.injEq, Prod.mk.injEq, Prod.mk.injEq] at same
  rcases same with ⟨sameStatus, sameStart, sameStop, sameEnergy⟩
  have startMetered : AllMetered start := by
    intro session inRows
    rw [fresh] at inRows
    cases inRows
  have energy : session.totalEnergy = deliveredWh session := by
    rw [sameEnergy, deliveredWh, sameStart, sameStop]
    exact startMetered.nextAll deliveries row member (sameStatus ▸ completed)
  have energyNonneg : 0 ≤ session.totalEnergy := by
    rw [energy]
    exact le_max_left _ _
  have rateNonneg : 0 ≤ window.tariffRate engine.toEngine store := store.tariffRate_nonneg _ _ _
  rw [billedAmount_of_noAmount rateNonneg noAmount energyNonneg, energy]
  exact wh_mul_eq_kwh_mul_iff _ _

end Billing

namespace Sample

def start : Sessions.Store where
  chargePoints := ⟨[⟨"CP-A", "station"⟩], by decide⟩
  sessions := Table.empty
  tenantsOf _ := ["tenant"]

def started : Delivery where
  message := .chargerTransactionStarted "v1/tenant/station"
    { chargerId := "CP-A", transactionId := "2001", userId := some "user", rfidTag := none
      startTime := some 1000, endTime := none, energyDelivered := 0, status := .started }
  handling := ⟨"session", 1000⟩

def reading (value : ℚ) : JsValue :=
  .array [.object (JsRecord.empty.with "sampledValue" (.array [.object
    ((JsRecord.empty.with "value" (.number (.finite value))).with "unit" (.string "kWh"))]))]

def ended (value : ℚ) : Delivery :=
  Sessions.Sample.event "" "Ended" 5000 (reading value)

def store (rate : ℚ) (deliveries : List Delivery) : Store where
  users := ⟨[⟨"user", some "tenant"⟩], by decide⟩
  tariffCalendars := [{ tenantId := "tenant", status := "ACTIVE", effectiveFrom := 0
                        effectiveTo := none, version := 1, updatedAt := 0
                        bands := .array [.object
                          (JsRecord.empty.with "pricePerKwh" (.number (.finite rate)))] }]
  sessions := (Delivery.nextAll Sessions.Sample.engine start deliveries).sessions
  invoices := []

def call : InvoiceCall :=
  ⟨"invoice", 10000, 10000, 10000⟩

def dto : GenerateInvoiceDto where
  userId := "user"
  billingPeriodFrom := some (some 0)
  billingPeriodTo := some (some 10000)

def window : Window :=
  ⟨"user", 0, 10000, by decide⟩

end Sample

open Sample

/-- A transaction of 5 kWh without a rate is billed for its energy, which costs nothing. -/
theorem billsKwh_iff_nothing_free :
    ∃ session ∈ window.sessions (store 0 [started, ended 5]),
      deliveredWh session = 5000 ∧
        billedAmount (window.tariffRate Sessions.Sample.engine.toEngine
            (store 0 [started, ended 5])) session =
          deliveredWh session / 1000 * window.tariffRate Sessions.Sample.engine.toEngine
            (store 0 [started, ended 5]) := by
  rcases @billsKwh_iff_nothing Sessions.Sample.engine start [started, ended 5]
    (store 0 [started, ended 5]) call dto window
    rfl (fun session member => ⟨session, member, rfl⟩)
    (by decide +kernel) with ⟨_, _, _, costs⟩
  have completed : ∃ session ∈
      window.sessions (store 0 [started, ended 5]),
      deliveredWh session = 5000 ∧ session.status = "COMPLETED" ∧ ¬ 0 < session.amount := by
    decide +kernel
  rcases completed with ⟨session, selected, delivered, isCompleted, noAmount⟩
  refine ⟨session, selected, delivered, ?_⟩
  exact (costs session selected isCompleted noAmount).mpr (Or.inr (by decide +kernel))

/-- A transaction of 5 kWh at half a unit of the currency per kWh costs 2500 units. -/
theorem energy_is_billed_thousandfold :
    ((store (1 / 2) [started, ended 5]).sessions.rows.map fun session =>
        (session.status, session.amount, deliveredWh session)) = [("COMPLETED", 0, 5000)] ∧
      (after (generateInvoice Sessions.Sample.engine.toEngine call dto)
          (store (1 / 2) [started, ended 5])).invoices.map
        Invoice.totalAmount = [2500] := by
  decide +kernel

end Csms.Invoices
