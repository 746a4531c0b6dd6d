import Csms.Billing.Balances

/-!
# Wallets below zero

`debit` and `transfer` compare the amount with a balance they read before their
transaction, and the transaction decrements without looking again.  All balances
of a run stay at or above zero exactly when each of these transactions still
finds enough when it commits.
-/

namespace Csms.Billing

open Database

/-- No wallet is below zero. -/
def Store.Solvent (store : Store) : Prop :=
  ∀ wallet ∈ store.wallets.rows, 0 ≤ wallet.balance

/-- The wallet that pays has enough when the transaction commits; a transfer to
oneself needs nothing. -/
def Write.Covered (store : Store) : Write → Prop
  | .debit input => input.amount ≤ store.balances input.wallet.id
  | .transfer input =>
    input.sourceWallet.id = input.targetWallet.id ∨
      input.amount ≤ store.balances input.sourceWallet.id
  | _ => True

theorem Store.solvent_iff {store : Store} : store.Solvent ↔ ∀ id, 0 ≤ store.balances id := by
  constructor
  · intro solvent id
    apply List.sum_nonneg
    intro balance member
    obtain ⟨wallet, selected, rfl⟩ := List.mem_map.mp member
    exact solvent wallet (List.mem_filter.mp selected).1
  · intro nonneg wallet member
    exact Store.balances_of_mem member ▸ nonneg wallet.id

section Deposits

variable {balances : String → ℚ} (nonneg : ∀ id, 0 ≤ balances id)
include nonneg

/-- What is added does not bring a balance below zero. -/
theorem nonneg_add_single (walletId : String) (amount : ℚ≥0) :
    ∀ id, 0 ≤ (balances + Pi.single walletId (amount : ℚ) : String → ℚ) id := by
  intro id
  by_cases isWallet : id = walletId
  · subst isWallet
    rw [Pi.add_apply, Pi.single_eq_same]
    exact add_nonneg (nonneg id) amount.cast_nonneg
  · rw [Pi.add_apply, Pi.single_eq_of_ne isWallet, add_zero]
    exact nonneg id

/-- What is taken away is covered. -/
theorem nonneg_sub_single_iff (walletId : String) (amount : ℚ≥0) :
    (∀ id, 0 ≤ (balances + Pi.single walletId (-(amount : ℚ)) : String → ℚ) id) ↔
      amount ≤ balances walletId := by
  constructor
  · intro after
    have here := after walletId
    rw [Pi.add_apply, Pi.single_eq_same] at here
    linarith
  · intro covered id
    by_cases isWallet : id = walletId
    · subst isWallet
      rw [Pi.add_apply, Pi.single_eq_same]
      linarith
    · rw [Pi.add_apply, Pi.single_eq_of_ne isWallet, add_zero]
      exact nonneg id

/-- A transfer takes from one wallet and adds to another. -/
theorem nonneg_transfer_iff {source target : String} (differ : source ≠ target) (amount : ℚ≥0) :
    (∀ id, 0 ≤ (balances + (Pi.single source (-(amount : ℚ)) + Pi.single target (amount : ℚ)) :
      String → ℚ) id) ↔ amount ≤ balances source := by
  rw [← nonneg_sub_single_iff nonneg, ← add_assoc]
  constructor
  · intro after id
    by_cases isTarget : id = target
    · subst isTarget
      rw [Pi.add_apply, Pi.single_eq_of_ne' differ, add_zero]
      exact nonneg id
    · have here := after id
      rwa [Pi.add_apply, Pi.single_eq_of_ne isTarget, add_zero] at here
  · intro taken
    exact nonneg_add_single taken target amount

end Deposits

/-- A transaction leaves no wallet below zero exactly when it is covered. -/
theorem Effect.solvent_iff {write : Write} {store after : Store} (effect : Effect write store after)
    (solvent : store.Solvent) : after.Solvent ↔ write.Covered store := by
  rw [Store.solvent_iff] at solvent
  rw [Store.solvent_iff, effect.balances]
  cases write with
  | topUpSettled input =>
    exact iff_of_true (nonneg_add_single solvent _ _) trivial
  | debit input => exact nonneg_sub_single_iff solvent _ _
  | refund input => exact iff_of_true (nonneg_add_single solvent _ _) trivial
  | transfer input =>
    by_cases toOneself : input.sourceWallet.id = input.targetWallet.id
    · refine iff_of_true ?_ (Or.inl toOneself)
      rw [Write.moved, toOneself, ← Pi.single_add, neg_add_cancel, Pi.single_zero, add_zero]
      exact solvent
    · rw [Write.Covered, or_iff_right toOneself]
      exact nonneg_transfer_iff solvent toOneself input.amount
  | applyFinalStatus existing input now =>
    refine iff_of_true ?_ trivial
    rw [Write.moved]
    split
    · split
      · exact nonneg_add_single solvent _ _
      · rw [add_zero]
        exact solvent
    · rw [add_zero]
      exact solvent
  | _ =>
    simp only [Write.moved, Write.Covered, add_zero, iff_true]
    exact solvent

/-- All balances of a run stay at or above zero exactly when each debit and each
transfer finds enough in the paying wallet when it commits. -/
theorem solvent_iff_covered (runtime : Webhooks.Runtime)
    (conditions : Conditions Store Query Write BillingRequest) {store : Store}
    (initially : store.Solvent) {state : BillingState}
    (reachable : state.Reachable runtime conditions store) :
    (state.shared.store.Solvent ∧ ∀ commit ∈ state.shared.commits, commit.before.Solvent) ↔
      ∀ commit ∈ state.shared.commits, commit.label.Covered commit.before :=
  reachable.good_iff Write.guarded
    (fun _ _ _ _ solvent succeeds => (Write.effect_of_run succeeds).solvent_iff solvent) initially

theorem solvent_sample : Sample.store.Solvent := by
  intro wallet member
  contradiction

/-- One debit of everything. -/
theorem solvent_iff_covered_debit :
    ∃ state : BillingState, state.shared.store.wallets.rows.map Wallet.balance = [0] ∧
      ((state.shared.store.Solvent ∧ ∀ commit ∈ state.shared.commits, commit.before.Solvent) ↔
        ∀ commit ∈ state.shared.commits, commit.label.Covered commit.before) := by
  have run : (Sample.after (Sample.toppedUp 0 "a" "ada" 10 ++
      [.arrive (Sample.debit "b" "ada" 10)] ++ Sample.debitChecks 1 ++ Sample.debitWrites 1)).map
        (fun state => state.shared.store.wallets.rows.map Wallet.balance) = some [0] := by
    decide +kernel
  rcases Option.map_eq_some_iff.mp run with ⟨state, reached, balances⟩
  exact ⟨state, balances, solvent_iff_covered Sample.runtime Conditions.none solvent_sample
    (Transition.reachable_of_foldlM reached)⟩

/-- Two debits of everything that check before either writes. -/
theorem concurrent_debits_overdraw :
    ∃ state : BillingState, state.Reachable Sample.runtime Conditions.none Sample.store ∧
      Sample.store.Solvent ∧ state.shared.store.wallets.rows.map Wallet.balance = [-10] := by
  have run : (Sample.after (Sample.toppedUp 0 "a" "ada" 10 ++
      [.arrive (Sample.debit "b" "ada" 10), .arrive (Sample.debit "c" "ada" 10)] ++
        Sample.debitChecks 1 ++ Sample.debitChecks 2 ++ Sample.debitWrites 1 ++
          Sample.debitWrites 2)).map
        (fun state => state.shared.store.wallets.rows.map Wallet.balance) = some [-10] := by
    decide +kernel
  rcases Option.map_eq_some_iff.mp run with ⟨state, reached, balances⟩
  exact ⟨state, Transition.reachable_of_foldlM reached, solvent_sample, balances⟩

end Csms.Billing
