import Csms.Invoices.Units

/-!
# The periods of invoices

A period includes both of its ends and sessions are not marked as billed, so a session
is billed once for every invoice of its user whose period it starts in.  This file
follows runs of requests: what their invoices bill, and when no session is billed twice.
-/

namespace Csms.Invoices

open Js Service
open Sessions (Session)

/-- A request to generate an invoice, and how it is handled. -/
structure Generation where
  call : InvoiceCall
  dto : GenerateInvoiceDto

section Runs

variable (engine : Engine)

def Generation.next (store : Store) (generation : Generation) : Store :=
  after (generateInvoice engine generation.call generation.dto) store

/-- The store after requests, one after another. -/
def generateAll (store : Store) (generations : List Generation) : Store :=
  Transition.final (Generation.next engine) store generations

/-- The invoices that requests add. -/
def newInvoices (store : Store) (generations : List Generation) : List Invoice :=
  (generateAll engine store generations).invoices.drop store.invoices.length

/-- The windows of the requests that create an invoice. -/
def windows (store : Store) : List Generation → List Window
  | [] => []
  | generation :: generations =>
    (store.windowOf generation.call generation.dto).toList ++
      windows (generation.next engine store) generations

end Runs

/-- The sessions that an invoice bills: those of its user that start in its period. -/
def Store.billedBy (store : Store) (invoice : Invoice) : List Session :=
  store.sessions.rows.filter fun session =>
    session.userId = some invoice.userId ∧
      invoice.billingPeriodFrom.any (· ≤ session.startTime) ∧
      invoice.billingPeriodTo.any (session.startTime ≤ ·)

/-- No session of the user starts in both periods. -/
def Window.Apart (store : Store) (left right : Window) : Prop :=
  left.userId = right.userId → ∀ session ∈ store.sessions.rows,
    session.userId = some left.userId →
      ¬ (max left.period.periodFrom right.period.periodFrom ≤ session.startTime ∧
        session.startTime ≤ min left.period.periodTo right.period.periodTo)

instance (store : Store) : DecidableRel (Window.Apart store) := fun left right =>
  inferInstanceAs (Decidable (left.userId = right.userId → ∀ session ∈ store.sessions.rows,
    session.userId = some left.userId → ¬ (_ ≤ _ ∧ _ ≤ _)))

section

variable {engine : Engine} {store : Store} {window : Window} {invoice : Invoice}

theorem Bills.billedBy_eq (bills : Bills engine store window invoice) :
    store.billedBy invoice = window.sessions store := by
  rw [Store.billedBy, bills.user, bills.starts, bills.ends]
  apply List.filter_congr
  intro session _
  simp [BillingPeriod.covers]

theorem disjoint_sessions_iff {left right : Window} :
    List.Disjoint (left.sessions store) (right.sessions store) ↔ left.Apart store right := by
  constructor
  · rintro disjoint sameUser session member isUser ⟨starts, ends⟩
    rw [max_le_iff] at starts
    rw [le_min_iff] at ends
    have inLeft : session ∈ left.sessions store :=
      List.mem_filter.mpr ⟨member, by simp [isUser, BillingPeriod.covers, starts.1, ends.1]⟩
    have inRight : session ∈ right.sessions store :=
      List.mem_filter.mpr
        ⟨member, by simp [isUser, ← sameUser, BillingPeriod.covers, starts.2, ends.2]⟩
    exact disjoint inLeft inRight
  · rintro apart session inLeft inRight
    rcases List.mem_filter.mp inLeft with ⟨member, isLeft⟩
    rcases List.mem_filter.mp inRight with ⟨_, isRight⟩
    simp only [BillingPeriod.covers, decide_eq_true_eq] at isLeft isRight
    rcases isLeft with ⟨ofLeft, leftStarts, leftEnds⟩
    rcases isRight with ⟨ofRight, rightStarts, rightEnds⟩
    have sameUser := Option.some.inj (ofLeft.symm.trans ofRight)
    exact apart sameUser session member ofLeft
      ⟨max_le leftStarts rightStarts, le_min leftEnds rightEnds⟩

theorem Generation.sessions_next (generation : Generation) :
    (generation.next engine store).sessions = store.sessions := by
  rcases isWindow : store.windowOf generation.call generation.dto with _ | window
  · rw [next, after_of_noWindow isWindow]
  · rcases @generateInvoice_of_window engine _ _ _ _ isWindow with ⟨invoice, _, creates⟩
    rw [next, after, creates]

/-- A request adds an invoice for its window, if it has one. -/
theorem Generation.invoices_next (generation : Generation) :
    ∃ added : List Invoice, (generation.next engine store).invoices = store.invoices ++ added ∧
      List.Forall₂ (Bills engine store)
        (store.windowOf generation.call generation.dto).toList added := by
  rcases isWindow : store.windowOf generation.call generation.dto with _ | window
  · refine ⟨[], ?_, .nil⟩
    rw [next, after_of_noWindow isWindow, List.append_nil]
  · rcases @generateInvoice_of_window engine _ _ _ _ isWindow with ⟨invoice, bills, creates⟩
    refine ⟨[invoice], ?_, .cons bills .nil⟩
    rw [next, after, creates]

end

section

variable {engine : Engine}

section

variable {store later : Store} (same : later.sessions = store.sessions)
include same

theorem Bills.billedBy_eq_of_sessions {window : Window} {invoice : Invoice}
    (bills : Bills engine later window invoice) :
    store.billedBy invoice = window.sessions store := by
  have billed := bills.billedBy_eq
  rw [Store.billedBy, Window.sessions, Store.sessionsIn, same] at billed
  exact billed

theorem map_billedBy_of_bills {found : List Window} {added : List Invoice}
    (bills : List.Forall₂ (Bills engine later) found added) :
    added.map store.billedBy = found.map (Window.sessions store) := by
  induction bills with
  | nil => rfl
  | cons isBilled _ ih =>
    rw [List.map_cons, List.map_cons, ih, isBilled.billedBy_eq_of_sessions same]

/-- The invoices that requests add bill the sessions of the windows. -/
theorem invoices_generateAll (generations : List Generation) :
    ∃ added : List Invoice, (generateAll engine later generations).invoices =
        later.invoices ++ added ∧ added.map store.billedBy =
        (windows engine later generations).map (Window.sessions store) := by
  induction generations generalizing later with
  | nil => exact ⟨[], (List.append_nil _).symm, rfl⟩
  | cons generation generations ih =>
    rcases @Generation.invoices_next engine later generation with ⟨first, isFirst, bills⟩
    rcases ih ((@Generation.sessions_next engine later generation).trans same) with ⟨rest, isRest, billed⟩
    refine ⟨first ++ rest, ?_, ?_⟩
    · change (generateAll engine (generation.next engine later) generations).invoices = _
      rw [isRest, isFirst, List.append_assoc]
    · rw [windows, List.map_append, List.map_append, billed, map_billedBy_of_bills same bills]

end

theorem billedBy_newInvoices (engine : Engine) (store : Store) (generations : List Generation) :
    (newInvoices engine store generations).map store.billedBy =
      (windows engine store generations).map (Window.sessions store) := by
  rcases @invoices_generateAll engine store store rfl generations with ⟨added, isAdded, billed⟩
  rw [newInvoices, isAdded, List.drop_left]
  exact billed

/-- No session is billed by two of the invoices that a run of requests adds exactly when
no two requests that create an invoice are for one user with a session of the user
starting in both periods. -/
theorem billedOnce_iff_apart (engine : Engine) (store : Store) (generations : List Generation) :
    (newInvoices engine store generations).Pairwise
        (fun left right => List.Disjoint (store.billedBy left) (store.billedBy right)) ↔
      (windows engine store generations).Pairwise (Window.Apart store) := by
  rw [← List.pairwise_map (f := store.billedBy) (R := List.Disjoint), billedBy_newInvoices,
    List.pairwise_map]
  simp only [disjoint_sessions_iff]

end

def periodRequest (call : InvoiceCall) (userId : String) (periodFrom periodTo : Int) :
    Generation where
  call := call
  dto :=
    { userId := userId
      billingPeriodFrom := some (toISOString periodFrom)
      billingPeriodTo := some (toISOString periodTo) }

namespace Sample

def meetingStore : Store :=
  store (1 / 2) [started, ended 5]

end Sample

/-- A session is billed by both of the periods that meet at its start, and again when a
period is repeated without a correlation id. -/
theorem sessions_are_billed_twice : (newInvoices Sessions.Sample.engine.toEngine Sample.meetingStore
        [periodRequest Sample.call "user" 0 1000, periodRequest Sample.call "user" 1000 2000]).map
        (fun invoice => (Sample.meetingStore.billedBy invoice).map Session.id) =
      [["session"], ["session"]] ∧
    (newInvoices Sessions.Sample.engine.toEngine Sample.meetingStore
        [periodRequest Sample.call "user" 0 2000, periodRequest Sample.call "user" 0 2000]).map
        (fun invoice => (Sample.meetingStore.billedBy invoice).map Session.id) =
      [["session"], ["session"]] := by
  decide +kernel

end Csms.Invoices
