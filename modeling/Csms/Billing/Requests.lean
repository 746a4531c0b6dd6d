import Csms.Billing.Guarded
import Csms.Billing.Effects
import Csms.Billing.Webhooks.Handle
import Csms.Database.ReadCommitted

/-!
# Billing under concurrency

All requests of the wallet and payment operations against one database with read
committed isolation, statement by statement.
-/

namespace Csms.Billing

open Database

inductive BillingRequest where
  | topUp (call : Call) (userId : String) (dto : WalletTopUpDto)
      (payment : Except CommerceException PaymentSession)
  | debit (call : Call) (userId : String) (dto : WalletPostingDto)
  | refund (call : Call) (userId : String) (dto : WalletPostingDto)
  | transfer (call : Call) (userId : String) (dto : WalletTransferDto)
  | lockWallet (call : Call) (userId : String) (reason : Option String)
  | unlockWallet (call : Call) (userId : String)
  | reconcilePaymentIntent (call : Call) (intentId : String) (dto : ReconcilePaymentIntentDto)
  | applyFinalStatus (call : Call) (input : ApplyFinalStatusInput)
  | handleWebhook (call : Call) (delivery : Webhooks.Delivery)

def BillingRequest.program (runtime : Webhooks.Runtime) : BillingRequest → Commerce BillingAnswer
  | topUp call userId dto payment => Billing.topUp call userId dto payment
  | debit call userId dto => Billing.debit call userId dto
  | refund call userId dto => Billing.refund call userId dto
  | transfer call userId dto => Billing.transfer call userId dto
  | lockWallet call userId reason => Billing.lockWallet call userId reason
  | unlockWallet call userId => Billing.unlockWallet call userId
  | reconcilePaymentIntent call intentId dto => Billing.reconcilePaymentIntent call intentId dto
  | applyFinalStatus call input => do
    let updated ← Billing.applyFinalStatus call input
    return .paymentIntent updated
  | handleWebhook call delivery => Webhooks.handleWebhook runtime call delivery

/-- The database with the sessions of billing requests. -/
abbrev BillingState :=
  ReadCommitted Store Store.Lock Query Write Write.Result CommerceException BillingRequest
    BillingAnswer

/-- What can be reached from a store when no request has arrived. -/
def BillingState.Reachable (runtime : Webhooks.Runtime)
    (conditions : Conditions Store Query Write BillingRequest) (store : Store) :
    BillingState → Prop :=
  ReadCommitted.Reachable Write.body (BillingRequest.program runtime) conditions
    (ReadCommitted.initial store)

namespace Sample

def runtime : Webhooks.Runtime where
  parseJson _ := none
  digest _ := ""
  engine :=
    { localeCompare := fun _ _ => 0
      parseDateText := fun _ => none
      coerceNumber := fun _ => .nan }

def users : Table User User.id where
  rows := [⟨"ada", none⟩, ⟨"bob", none⟩]
  nodup := by decide

def store : Store :=
  Store.opening users Table.empty

def call (name : String) : Call where
  context := none
  now := 0
  uuid index := s!"{name}{index}"
  createdAt index := index
  paymentOrchestrationEnabled := none

def afterUnder (conditions : Conditions Store Query Write BillingRequest)
    (events : List (DatabaseEvent BillingRequest)) : Option BillingState :=
  events.foldlM (ReadCommitted.next Write.body (BillingRequest.program runtime) conditions)
    (ReadCommitted.initial store)

def after (events : List (DatabaseEvent BillingRequest)) : Option BillingState :=
  afterUnder Conditions.none events

def topUp (name userId : String) (amount : ℚ) : BillingRequest :=
  .topUp (call name) userId ⟨.finite amount, none, none, none, none⟩ (.error .internal)

def toppedUp (id : Nat) (name userId : String) (amount : ℚ) : List (DatabaseEvent BillingRequest) :=
  [.arrive (topUp name userId amount), .query id, .query id, .begin id, .statement id, .commit id,
    .query id, .begin id, .statement id, .statement id, .statement id, .commit id]

def debit (name userId : String) (amount : ℚ) : BillingRequest :=
  .debit (call name) userId ⟨.finite amount, none, none, none⟩

def debitChecks (id : Nat) : List (DatabaseEvent BillingRequest) :=
  [.query id, .query id, .query id]

def debitWrites (id : Nat) : List (DatabaseEvent BillingRequest) :=
  [.begin id, .statement id, .statement id, .commit id]

end Sample

end Csms.Billing
