import Csms.Billing.Requests
import Csms.Ledger.Total

/-!
# Balances and the ledger

A wallet caches the sum of its posted transactions.  Every transaction of the
database moves balances and postings by the same amounts, so in every reachable
state each balance is what the ledger says.
-/

namespace Csms.Billing

open Database

/-- What a transaction contributes to the balance of its wallet. -/
def Transaction.posting (transaction : Transaction) : ℚ :=
  match transaction.status, transaction.type with
  | .posted, .debit => -transaction.amount
  | .posted, _ => transaction.amount
  | _, _ => 0

namespace Store

def postedSum (store : Store) (walletId : String) (types : List TransactionType) : ℚ :=
  ((store.transactions.rows.filter fun row =>
    row.walletId = walletId && row.status = .posted && decide (row.type ∈ types)).map
      fun row => (row.amount : ℚ)).sum

/-- The balances of all wallets; zero where there is no wallet. -/
def balances (store : Store) : String → ℚ :=
  Ledger.total Wallet.id Wallet.balance store.wallets.rows

/-- What the posted transactions say about all wallets. -/
def postings (store : Store) : String → ℚ :=
  Ledger.total Transaction.walletId Transaction.posting store.transactions.rows

/-- Every balance is what the posted transactions say. -/
def Balanced (store : Store) : Prop :=
  store.balances = store.postings

theorem balances_of_mem {store : Store} {wallet : Wallet} (member : wallet ∈ store.wallets.rows) :
    store.balances wallet.id = wallet.balance :=
  Ledger.total_key_eq store.wallets Wallet.balance member

/-- Postings are credits and refunds less debits. -/
theorem postings_eq (store : Store) (walletId : String) : store.postings walletId =
      store.postedSum walletId [.credit, .refund] - store.postedSum walletId [.debit] := by
  rw [postings, postedSum, postedSum]
  induction store.transactions.rows with
  | nil => simp
  | cons row rows ih =>
    rw [Ledger.total_cons, Pi.add_apply, ih, List.filter_cons, List.filter_cons]
    by_cases isWallet : row.walletId = walletId
    · subst isWallet
      rcases isStatus : row.status with _ | _ | _
      · simp [Transaction.posting, isStatus]
      · rcases isType : row.type with _ | _ | _
        · simp [Transaction.posting, isStatus, isType, add_sub_assoc]
        · simp only [Transaction.posting, isStatus, isType, Pi.single_eq_same, decide_true,
            Bool.and_true, List.mem_cons, List.not_mem_nil, reduceCtorEq, or_false, decide_false,
            Bool.and_false, Bool.false_eq_true, if_false, if_true, List.map_cons, List.sum_cons]
          abel
        · simp [Transaction.posting, isStatus, isType, add_sub_assoc]
      · simp [Transaction.posting, isStatus]
    · simp [isWallet]

section Changes

variable {store : Store} {id : String} {wallet : Wallet}

theorem mem_of_find? (found : walletTable.find? id store = some wallet) :
    wallet ∈ store.wallets.rows ∧ wallet.id = id :=
  Table.find?_eq_some_iff.mp found

theorem balances_update {change : Wallet → Wallet} {amount : ℚ}
    (keeps : ∀ wallet, (change wallet).id = wallet.id)
    (found : walletTable.find? id store = some wallet)
    (moves : (change wallet).balance = wallet.balance + amount) :
    (walletTable.update id change keeps store).balances = store.balances + Pi.single id amount := by
  obtain ⟨member, rfl⟩ := mem_of_find? found
  have moved := Ledger.total_update store.wallets Wallet.id Wallet.balance keeps member
    (keeps wallet)
  rw [moves, add_sub_cancel_left] at moved
  exact moved

theorem balances_post (amount : ℚ) (found : walletTable.find? id store = some wallet) :
    (store.post id amount).balances = store.balances + Pi.single id amount :=
  balances_update _ found rfl

theorem balances_postIn (amount : ℚ) (currency : String)
    (found : walletTable.find? id store = some wallet) :
    (store.postIn id amount currency).balances = store.balances + Pi.single id amount :=
  balances_update _ found rfl

theorem balances_update_of_same {change : Wallet → Wallet}
    (keeps : ∀ wallet, (change wallet).id = wallet.id)
    (sameBalance : ∀ wallet, (change wallet).balance = wallet.balance) :
    (walletTable.update id change keeps store).balances = store.balances := by
  apply Ledger.total_map
  · intro row _
    by_cases isRow : row.id = id <;> simp [isRow, keeps]
  · intro row _
    by_cases isRow : row.id = id <;> simp [isRow, sameBalance]

theorem balances_setOwner (organizationId : Option String) (currency : String) :
    (store.setOwner id organizationId currency).balances = store.balances :=
  balances_update_of_same _ fun _ => by exact rfl

theorem balances_setLock (isLocked : Bool) (lockReason : Option String) (lockedAt : Option Int) :
    (store.setLock id isLocked lockReason lockedAt).balances = store.balances :=
  balances_update_of_same _ fun _ => by exact rfl

theorem balances_insert {row : Wallet} (free : walletTable.find? row.id store = none)
    (isEmpty : row.balance = 0) : (walletTable.insert row store).balances = store.balances := by
  have rows := Component.rows_insert free
  change Ledger.total Wallet.id Wallet.balance
    (walletTable.table (walletTable.insert row store)).rows = _
  rw [rows, Ledger.total_append_singleton, isEmpty, Pi.single_zero, add_zero]
  rfl

variable {row : Transaction}

theorem postings_insert (free : transactionTable.find? row.id store = none) :
    (transactionTable.insert row store).postings =
      store.postings + Pi.single row.walletId row.posting := by
  have rows := Component.rows_insert free
  change Ledger.total Transaction.walletId Transaction.posting
    (transactionTable.table (transactionTable.insert row store)).rows = _
  rw [rows, Ledger.total_append_singleton]
  rfl

theorem statusChange_posting {intentId : String} {status : TransactionStatus}
    {reconciliationState : ReconciliationState} {reference : Option String}
    (ofIntent : row.paymentIntentId = some intentId) :
    (statusChange intentId status reconciliationState reference row).posting =
      ({ row with status } : Transaction).posting := by
  rw [statusChange, if_pos ofIntent]
  rfl

theorem postings_setStatus {intentId : String} (status : TransactionStatus)
    (reconciliationState : ReconciliationState) (reference : Option String)
    (member : row ∈ store.transactions.rows) (ofIntent : row.paymentIntentId = some intentId)
    (notPosted : row.status ≠ .posted) :
    (store.setStatus intentId row.id status reconciliationState reference).postings =
      store.postings + Pi.single row.walletId ({ row with status } : Transaction).posting := by
  have sameWallet :
      (statusChange intentId status reconciliationState reference row).walletId = row.walletId := by
    obtain ⟨_, _, _, changed⟩ :=
      statusChange_keeps intentId status reconciliationState reference row
    rw [changed]
  have nothing : row.posting = 0 := by
    rcases isStatus : row.status with _ | _ | _
    · simp [Transaction.posting, isStatus]
    · exact absurd isStatus notPosted
    · simp [Transaction.posting, isStatus]
  have moved := Ledger.total_update store.transactions Transaction.walletId Transaction.posting
    (id_statusChange intentId status reconciliationState reference) member sameWallet
  rw [nothing, sub_zero, statusChange_posting ofIntent] at moved
  exact moved

end Changes

end Store

def creditConcerned (existing : PaymentIntent) (input : ApplyFinalStatusInput) (now : Int)
    (store : Store) : Option Transaction :=
  (Store.paymentIntentTable.find? existing.id store).bind fun intent =>
    openCredit store (finalStatusChange existing input now intent)

theorem creditConcerned_eq {existing : PaymentIntent} {input : ApplyFinalStatusInput} {now : Int}
    {store : Store} {intent : PaymentIntent}
    (found : Store.paymentIntentTable.find? existing.id store = some intent) :
    creditConcerned existing input now store =
      openCredit store (finalStatusChange existing input now intent) := by
  rw [creditConcerned, found, Option.bind_some]

/-- What a transaction adds to each balance. -/
def Write.moved (store : Store) : Write → String → ℚ
  | .topUpSettled input => Pi.single input.wallet.id (input.amount : ℚ)
  | .debit input => Pi.single input.wallet.id (-(input.amount : ℚ))
  | .refund input => Pi.single input.wallet.id (input.amount : ℚ)
  | .transfer input =>
    Pi.single input.sourceWallet.id (-(input.amount : ℚ)) +
      Pi.single input.targetWallet.id (input.amount : ℚ)
  | .applyFinalStatus existing input now =>
    match creditConcerned existing input now store with
    | some creditTx =>
      if input.status = .settled then Pi.single creditTx.walletId (creditTx.amount : ℚ) else 0
    | none => 0
  | _ => 0

variable {creditTx : Transaction}

section Moved

variable {existing : PaymentIntent} {input : ApplyFinalStatusInput} {now : Int} {store : Store}
  {intent : PaymentIntent} (found : Store.paymentIntentTable.find? existing.id store = some intent)
include found

theorem moved_of_noCredit
    (noCredit : openCredit store (finalStatusChange existing input now intent) = none) :
    (Write.applyFinalStatus existing input now).moved store = 0 := by
  simp only [Write.moved, creditConcerned_eq found, noCredit]

section

variable (credit : openCredit store (finalStatusChange existing input now intent) = some creditTx)
include credit

theorem moved_of_settled (isSettled : input.status = .settled) :
    (Write.applyFinalStatus existing input now).moved store =
      Pi.single creditTx.walletId (creditTx.amount : ℚ) := by
  simp only [Write.moved, creditConcerned_eq found, credit, isSettled, if_true]

theorem moved_of_failed (notSettled : input.status ≠ .settled) :
    (Write.applyFinalStatus existing input now).moved store = 0 := by
  simp only [Write.moved, creditConcerned_eq found, credit, notSettled, if_false]

end

end Moved

theorem Effect.balances {write : Write} {store after : Store} (effect : Effect write store after) :
    after.balances = store.balances + write.moved store := by
  cases effect with
  | createWallet id userId organizationId currency store free _ =>
    exact (Store.balances_insert free rfl).trans (add_zero _).symm
  | updateWalletOwner id organizationId currency wallet store found =>
    exact (Store.balances_setOwner organizationId currency).trans (add_zero _).symm
  | lockWallet id lockReason now wallet store found =>
    exact (Store.balances_setLock true (some lockReason) (some now)).trans (add_zero _).symm
  | unlockWallet id wallet store found =>
    exact (Store.balances_setLock false none none).trans (add_zero _).symm
  | topUpSettled input wallet store _ _ found _ => exact Store.balances_postIn _ _ found
  | topUpPending | reconcile | createWebhookEvent => exact (add_zero _).symm
  | debit _ _ _ found | refund _ _ _ found => exact Store.balances_post _ found
  | transfer input source target store sourceFound targetFound _ _ =>
    have moved := Store.balances_post (input.amount : ℚ) targetFound
    rw [Store.balances_post _ sourceFound, add_assoc] at moved
    exact moved
  | finalStatus existing input now intent store found noCredit =>
    rw [moved_of_noCredit found noCredit, add_zero]
    rfl
  | settled existing input now intent creditTx wallet store found credit isSettled walletFound =>
    rw [moved_of_settled found credit isSettled]
    exact Store.balances_post _ walletFound
  | markedAsFailed existing input now intent creditTx store found credit notSettled =>
    rw [moved_of_failed found credit notSettled, add_zero]
    rfl
  | markEventStatus id status paymentIntentId errorMessage event store _ =>
    exact (add_zero _).symm

theorem of_openCredit {store : Store} {intent : PaymentIntent}
    (found : openCredit store intent = some creditTx) :
    creditTx ∈ store.transactions.rows ∧ creditTx.paymentIntentId = some intent.id ∧
      creditTx.type = .credit ∧ creditTx.status ≠ .posted := by
  rcases openCredit_eq_some_iff.mp found with ⟨walletId, -, isCredit, notPosted⟩
  obtain ⟨member, ofIntent, -, isType⟩ := of_creditTransaction isCredit
  exact ⟨member, ofIntent, isType, notPosted⟩

theorem of_openCredit_finalStatusChange {existing : PaymentIntent} {input : ApplyFinalStatusInput}
    {now : Int} {store : Store} {intent : PaymentIntent}
    (found : Store.paymentIntentTable.find? existing.id store = some intent)
    (credit : openCredit store (finalStatusChange existing input now intent) = some creditTx) :
    creditTx ∈ store.transactions.rows ∧ creditTx.paymentIntentId = some existing.id ∧
      creditTx.type = .credit ∧ creditTx.status ≠ .posted := by
  have isExisting : intent.id = existing.id := (Table.find?_eq_some_iff.mp found).2
  have facts := of_openCredit credit
  rw [id_finalStatusChange, isExisting] at facts
  exact facts

theorem Effect.postings {write : Write} {store after : Store} (effect : Effect write store after) :
    after.postings = store.postings + write.moved store := by
  cases effect with
  | topUpSettled _ _ _ _ _ _ free | debit _ _ _ _ free | refund _ _ _ _ free => exact Store.postings_insert free
  | topUpPending input orchestration store _ _ free =>
    have nothing : input.pendingCredit.posting = 0 := rfl
    have moved := Store.postings_insert free
    rw [nothing, Pi.single_zero] at moved
    exact moved
  | transfer input source target store _ _ debitFree creditFree =>
    have moved := Store.postings_insert creditFree
    rw [Store.postings_insert debitFree, add_assoc] at moved
    exact moved
  | finalStatus existing input now intent store found noCredit =>
    rw [moved_of_noCredit found noCredit, add_zero]
    rfl
  | settled existing input now intent creditTx wallet store found credit isSettled _ =>
    rw [moved_of_settled found credit isSettled]
    obtain ⟨member, ofIntent, isType, notPosted⟩ :=
      of_openCredit_finalStatusChange found credit
    have amount : ({ creditTx with status := .posted } : Transaction).posting =
        creditTx.amount := by
      simp [Transaction.posting, isType]
    rw [← amount]
    exact Store.postings_setStatus .posted .reconciled _ member ofIntent notPosted
  | markedAsFailed existing input now intent creditTx store found credit notSettled =>
    rw [moved_of_failed found credit notSettled, add_zero]
    obtain ⟨member, ofIntent, isType, notPosted⟩ :=
      of_openCredit_finalStatusChange found credit
    have nothing : ({ creditTx with status := .failed } : Transaction).posting = 0 := rfl
    have moved := Store.postings_setStatus .failed .disputed creditTx.reference member ofIntent
      notPosted
    rw [nothing, Pi.single_zero, add_zero] at moved
    exact moved
  | _ => exact (add_zero _).symm

theorem Effect.balanced {write : Write} {store after : Store} (effect : Effect write store after)
    (balanced : store.Balanced) : after.Balanced := by
  rw [Store.Balanced, effect.balances, effect.postings, balanced]

theorem balanced_opening (users : Table User User.id)
    (paymentMethods : Table PaymentMethod PaymentMethod.id) :
    (Store.opening users paymentMethods).Balanced :=
  rfl

/-- In every reachable state of the wallet and payment operations, each wallet's
balance is the sum of its posted credits and refunds less its posted debits. -/
theorem balance_eq_postedSum (runtime : Webhooks.Runtime)
    (conditions : Conditions Store Query Write BillingRequest) (users : Table User User.id)
    (paymentMethods : Table PaymentMethod PaymentMethod.id) {state : BillingState}
    (reachable : state.Reachable runtime conditions (Store.opening users paymentMethods))
    {wallet : Wallet} (member : wallet ∈ state.shared.store.wallets.rows) : wallet.balance =
      state.shared.store.postedSum wallet.id [.credit, .refund] -
        state.shared.store.postedSum wallet.id [.debit] := by
  have balanced : state.shared.store.Balanced := by
    apply ReadCommitted.Reachable.shared_invariant Write.guarded
      (fun shared => shared.store.Balanced) _ _ reachable
    · exact balanced_opening users paymentMethods
    · intro shared id write after result before succeeds
      exact (Write.effect_of_run succeeds).balanced before
  rw [← Store.postings_eq, ← balanced, Store.balances_of_mem member]

theorem balance_eq_postedSum_toppedUp :
    ∃ state : BillingState, state.shared.store.wallets.rows.map Wallet.balance = [10] ∧
      ∀ wallet ∈ state.shared.store.wallets.rows, wallet.balance =
          state.shared.store.postedSum wallet.id [.credit, .refund] -
            state.shared.store.postedSum wallet.id [.debit] := by
  have run : (Sample.after (Sample.toppedUp 0 "a" "ada" 10)).map
      (fun state => state.shared.store.wallets.rows.map Wallet.balance) = some [10] := by
    decide +kernel
  rcases Option.map_eq_some_iff.mp run with ⟨state, reached, balances⟩
  refine ⟨state, balances, ?_⟩
  intro wallet member
  exact balance_eq_postedSum Sample.runtime Conditions.none Sample.users Table.empty
    (Transition.reachable_of_foldlM reached) member

end Csms.Billing
