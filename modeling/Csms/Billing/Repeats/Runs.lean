import Csms.Billing.Repeats.Keeping

/-!
# Repeats under concurrency

Debits, refunds and transfers from their lookup to their posting, and the law of repeats
in every run.
-/

namespace Csms.Billing

open Database Js

/-! ## Debits, refunds and transfers -/

section Programs

variable {users : Table User User.id} {requestOf : Nat → Option BillingRequest}
  {request : BillingRequest} {id : Nat} {shared : Shared Store Write}

/-- The checks of a debit or refund that do not depend on the wallet. -/
def Accepted (users : Table User User.id) : BillingRequest → Prop
  | .debit call userId dto | .refund call userId dto =>
    HasCaller users call userId ∧ ∃ amount, normalizeAmount dto.amount "amount" = .ok amount
  | _ => True

/-- The outcome of a request: its posting, or a refusal of what was not posted when it
arrived. -/
structure Answers (users : Table User User.id) (request : BillingRequest)
    (before : List (Commit Store Write)) (outcome : Except CommerceException BillingAnswer)
    (later : Shared Store Write) : Prop where
  answered : ∀ answer key, outcome = .ok answer → request.postingKey = some key →
    Accepted users request ∧ IsPostedAs key answer.transactionIds later.commits = true
  refused : ∀ error, outcome = .error error → Accepted users request →
    request.isPosted before = false

theorem answers_error {before : List (Commit Store Write)} {later : Shared Store Write}
    (error : CommerceException)
    (refused : Accepted users request → request.isPosted before = true → False) :
    Answers users request before (.error error) later :=
  ⟨fun _ _ isOk => (nomatch isOk), fun _ _ isAccepted =>
    Bool.eq_false_of_not_eq_true (refused isAccepted)⟩

theorem posts_answered {before : List (Commit Store Write)} {answer : BillingAnswer}
    {key : PostingKey} (isKey : request.postingKey = some key) (isAccepted : Accepted users request)
    (posted : IsPostedAs key answer.transactionIds shared.commits = true) :
    (pure answer : Commerce BillingAnswer).Posts users requestOf request id
      (Answers users request before) shared := by
  refine (meets_pure _).mpr ?_
  intro later onward _
  refine ⟨?_, fun _ isError => (nomatch isError)⟩
  rintro answer other ⟨rfl⟩ isOther
  obtain rfl := Option.some.inj (isKey.symm.trans isOther)
  exact ⟨isAccepted, isPostedAs_mono onward.subset posted⟩

theorem posts_posting {α : Type} (write : Write) {posting : Posting}
    (isRequest : requestOf id = some request) (isKind : write.kind ∈ request.kinds)
    (places : ∀ store, write.Places users store) (isPosting : write.posting = some posting)
    (isKey : request.postingKey = some posting.key)
    (isWallet : shared.store.IsWalletOf posting.key.userId posting.walletId)
    {next : write.Result → Commerce α}
    {post : Except CommerceException α → Shared Store Write → Prop}
    (failed : ∀ later, post (.error .internal) later)
    (rest : ∀ (before : Shared Store Write) (after : Store) (result : write.Result),
      write.body.run before.store = some (after, result) →
      IsPostedAs posting.key posting.transactionIds (before.commit id write after).commits = true →
        (next result).Posts users requestOf request id post (before.commit id write after)) :
    (execute write >>= next).Posts users requestOf request id post shared := by
  refine (Request.meets_commit_bind _ _ _).mpr ?_
  intro before onward kept
  refine ⟨fun later _ _ => failed later, ?_⟩
  intro isAdmitted after result succeeds
  have isNew : IsPosted posting.key before.commits = false := by
    simpa [repeatsAdmitted, isPosting] using isAdmitted
  have mayPost (other : Posting) (isOther : write.posting = some other) :
      MayPost request before other := by
    obtain rfl := Option.some.inj (isPosting.symm.trans isOther)
    exact ⟨isKey, isNew, onward.walletOf _ _ isWallet⟩
  obtain ⟨step, stillKept⟩ := kept.commit isRequest isKind (places _) mayPost
    (Write.effect_of_run succeeds)
  refine ⟨step, stillKept, rest before after result succeeds ?_⟩
  exact isPostedAs_iff.mpr
    ⟨_, before.mem_commits_commit id write after, posting, isPosting, rfl, rfl⟩

theorem posts_lookup (call : Call) (userId walletId idempotencyKey : String) {kind : PostingKind}
    {start : Shared Store Write} {committed : Commerce BillingAnswer}
    (isRequest : requestOf id = some request) (isUpkeep : .upkeep ∈ request.kinds)
    (isKey : request.postingKey = some ⟨kind, userId, idempotencyKey⟩)
    (isAccepted : Accepted users request) (hasCaller : HasCaller users call userId)
    (onward : Onward start shared) (isWallet : shared.store.IsWalletOf userId walletId)
    (commits : ∀ later, Onward shared later → request.isPosted start.commits = false →
      committed.Posts users requestOf request id (Answers users request start.commits) later) :
    (do
      let existing ← findTransactionByKey walletId idempotencyKey none
      match existing with
      | some transaction =>
        let current ← ensureWallet call call.walletId userId none
        return .posted current transaction.id
      | none => committed : Commerce BillingAnswer).Posts users requestOf request id
        (Answers users request start.commits) shared := by
  refine (meets_read_bind _ _ _).mpr ?_
  intro read onwardRead kept isOwn
  rcases found : read.store.transactionByKey walletId idempotencyKey none with _ | transaction
  · apply commits read onwardRead
    rw [← Bool.not_eq_true]
    intro posted
    have readPosted := BillingRequest.isPosted_later (onward.trans onwardRead).subset posted
    obtain ⟨key, sameKey, readPosted⟩ := BillingRequest.isPosted_iff.mp readPosted
    obtain rfl := Option.some.inj (isKey.symm.trans sameKey)
    obtain ⟨other, isOther, records⟩ := kept.of_isPosted readPosted
    obtain rfl := isWalletOf_inj isOther (onwardRead.walletOf _ _ isWallet)
    exact records.ne_none found
  · have posted : IsPostedAs ⟨kind, userId, idempotencyKey⟩ [transaction.id] read.commits = true := by
      simpa [repeatsAdmitted, found, isKey] using isOwn
    obtain ⟨other, isOther, -⟩ := kept.of_isPosted (isPosted_of_isPostedAs posted)
    refine posts_bind (posts_ensureWallet isRequest isUpkeep kept call _ _ _) kept ?_ ?_
    · intro current ensured onwardEnsured _ _
      exact posts_answered isKey isAccepted (isPostedAs_mono onwardEnsured.subset posted)
    · intro error later _ ensured
      exact absurd hasCaller (ensured.found error other rfl rfl isOther)

theorem assertWalletUnlocked_eq_ok {wallet : Wallet} (unlocked : wallet.isLocked = false) :
    assertWalletUnlocked wallet = .ok () := by
  rw [assertWalletUnlocked, unlocked]
  rfl

theorem assertSufficientBalance_eq_ok {wallet : Wallet} {amount : ℚ≥0}
    (covers : (amount : ℚ) ≤ wallet.balance) : assertSufficientBalance wallet amount = .ok () :=
  if_neg (not_lt.mpr covers)

/-- A debit or refund up to the checks of its amount: what was posted for it passes them. -/
theorem posts_checked (call : Call) (userId idempotencyKey : String) {kind : PostingKind}
    (value : JsNumber) {next : Wallet → ℚ≥0 → Commerce BillingAnswer}
    (isRequest : requestOf id = some request) (isUpkeep : .upkeep ∈ request.kinds)
    (isKey : request.postingKey = some ⟨kind, userId, idempotencyKey⟩)
    (accepts : Accepted users request ↔
      HasCaller users call userId ∧ ∃ amount, normalizeAmount value "amount" = .ok amount)
    (unlocked : ∀ wallet, request.admits wallet = true → wallet.isLocked = false)
    (kept : Kept users requestOf shared)
    (rest : ∀ wallet amount later, Onward shared later → wallet.userId = userId →
      later.store.IsWalletOf userId wallet.id → normalizeAmount value "amount" = .ok amount →
      HasCaller users call userId → Accepted users request →
      (request.isPosted shared.commits = true → request.admits wallet = true) →
        (next wallet amount).Posts users requestOf request id
          (Answers users request shared.commits) later) :
    (do
      let wallet ← ensureWallet call call.walletId userId none
      Request.ofExcept (assertWalletUnlocked wallet)
      let amount ← Request.ofExcept (normalizeAmount value "amount")
      next wallet amount : Commerce BillingAnswer).Posts users requestOf request id
        (Answers users request shared.commits) shared := by
  -- what was posted was posted to the wallet of the user
  have hadWallet (posted : request.isPosted shared.commits = true) :
      ∃ walletId, shared.store.IsWalletOf userId walletId := by
    obtain ⟨key, sameKey, isPosted⟩ := BillingRequest.isPosted_iff.mp posted
    obtain rfl := Option.some.inj (isKey.symm.trans sameKey)
    obtain ⟨walletId, isWallet, -⟩ := kept.of_isPosted isPosted
    exact ⟨walletId, isWallet⟩
  refine posts_bind (posts_ensureWallet isRequest isUpkeep kept call _ _ _) kept ?_ ?_
  · intro wallet ensured onward _ isEnsured
    obtain ⟨ofUser, hasCaller, isWallet⟩ := isEnsured.isWallet wallet rfl
    have admits (posted : request.isPosted shared.commits = true) :
        request.admits wallet = true := by
      obtain ⟨walletId, hadIt⟩ := hadWallet posted
      exact isEnsured.admitted wallet walletId rfl rfl hadIt posted
    refine meets_ofExcept_bind ?_ ?_
    · intro _ _
      refine meets_ofExcept_bind ?_ ?_
      · intro amount isAmount
        have isAccepted := accepts.mpr ⟨hasCaller, amount, isAmount⟩
        exact rest wallet amount ensured onward ofUser isWallet isAmount hasCaller isAccepted admits
      · intro error isRejected later _ _
        apply answers_error
        intro isAccepted _
        obtain ⟨-, amount, isAmount⟩ := accepts.mp isAccepted
        rw [isAmount] at isRejected
        contradiction
    · intro error isLocked later _ _
      apply answers_error
      intro _ posted
      rw [assertWalletUnlocked_eq_ok (unlocked wallet (admits posted))] at isLocked
      contradiction
  · intro error later _ isEnsured
    apply answers_error
    intro isAccepted posted
    obtain ⟨walletId, hadIt⟩ := hadWallet posted
    exact isEnsured.found error walletId rfl rfl hadIt (accepts.mp isAccepted).1

theorem id_of_run_debit {input : WalletPosting} {before after : Store} {result : Wallet × String}
    (succeeds : (Write.debit input).body.run before = some (after, result)) :
    result.2 = input.debitTransaction.id := by
  change (postDebit input).run before = some (after, result) at succeeds
  obtain ⟨_, -, -, done⟩ := run_postToWallet succeeds
  obtain ⟨-, rfl⟩ := Prod.mk.inj done
  rfl

theorem id_of_run_refund {input : WalletPosting} {before after : Store} {result : Wallet × String}
    (succeeds : (Write.refund input).body.run before = some (after, result)) :
    result.2 = input.refundTransaction.id := by
  change (postRefund input).run before = some (after, result) at succeeds
  obtain ⟨_, -, -, done⟩ := run_postToWallet succeeds
  obtain ⟨-, rfl⟩ := Prod.mk.inj done
  rfl

theorem ids_of_run_transfer {input : WalletTransfer} {before after : Store}
    {result : WalletTransferred}
    (succeeds : (Write.transfer input).body.run before = some (after, result)) :
    result.debitId = input.debitTransaction.id ∧ result.creditId = input.creditTransaction.id := by
  obtain ⟨_, -, more⟩ := run_updateWallet (fun _ => by exact ⟨rfl, rfl⟩) succeeds
  obtain ⟨_, -, evenMore⟩ := run_updateWallet (fun _ => by exact ⟨rfl, rfl⟩) more
  obtain ⟨-, nearly⟩ := run_insertTransaction evenMore
  obtain ⟨-, done⟩ := run_insertTransaction nearly
  obtain ⟨-, rfl⟩ := Prod.mk.inj (Option.some.inj done)
  exact ⟨rfl, rfl⟩

theorem posts_debit (call : Call) (userId : String) (dto : WalletPostingDto)
    (isRequest : requestOf id = some (.debit call userId dto))
    (kept : Kept users requestOf shared) :
    (debit call userId dto).Posts users requestOf (.debit call userId dto) id
      (Answers users (.debit call userId dto) shared.commits) shared := by
  have isUpkeep : Write.Kind.upkeep ∈ (BillingRequest.debit call userId dto).kinds := by
    simp [BillingRequest.kinds]
  refine posts_checked call userId _ dto.amount isRequest isUpkeep rfl Iff.rfl ?_ kept ?_
  · intro wallet admits
    rw [BillingRequest.admits, Bool.and_eq_true, Bool.not_eq_true'] at admits
    exact admits.1
  · intro wallet amount checked onward ofUser isWallet isAmount hasCaller isAccepted admits
    refine meets_ofExcept_bind ?_ ?_
    · intro _ _
      refine posts_lookup call userId wallet.id _ isRequest isUpkeep rfl isAccepted hasCaller onward
        isWallet ?_
      intro later further notPosted
      have isKind : Write.Kind.posting ∈ (BillingRequest.debit call userId dto).kinds := by
        simp [BillingRequest.kinds]
      subst ofUser
      refine posts_posting (.debit _) isRequest isKind (fun _ => trivial) rfl rfl
        (further.walletOf _ _ isWallet)
        (fun later => answers_error _ fun _ posted => absurd posted (notPosted ▸ Bool.false_ne_true))
        ?_
      rintro before after ⟨updatedWallet, transactionId⟩ succeeds posted
      have isId := id_of_run_debit succeeds
      subst isId
      exact posts_answered rfl isAccepted posted
    · intro error insufficient later _ _
      apply answers_error
      intro _ posted
      have covers : (amount : ℚ) ≤ wallet.balance := by
        have both := admits posted
        simp only [BillingRequest.admits, isAmount, Bool.and_eq_true, decide_eq_true_eq] at both
        exact both.2
      rw [assertSufficientBalance_eq_ok covers] at insufficient
      contradiction

theorem posts_refund (call : Call) (userId : String) (dto : WalletPostingDto)
    (isRequest : requestOf id = some (.refund call userId dto))
    (kept : Kept users requestOf shared) :
    (refund call userId dto).Posts users requestOf (.refund call userId dto) id
      (Answers users (.refund call userId dto) shared.commits) shared := by
  have isUpkeep : Write.Kind.upkeep ∈ (BillingRequest.refund call userId dto).kinds := by
    simp [BillingRequest.kinds]
  have isKind : Write.Kind.posting ∈ (BillingRequest.refund call userId dto).kinds := by
    simp [BillingRequest.kinds]
  refine posts_checked call userId _ dto.amount isRequest isUpkeep rfl Iff.rfl ?_ kept ?_
  · intro wallet admits
    rwa [BillingRequest.admits, Bool.not_eq_true'] at admits
  · intro wallet amount checked onward ofUser isWallet isAmount hasCaller isAccepted _
    refine posts_lookup call userId wallet.id _ isRequest isUpkeep rfl isAccepted hasCaller onward
      isWallet ?_
    intro later further notPosted
    subst ofUser
    refine posts_posting (.refund _) isRequest isKind (fun _ => trivial) rfl rfl
      (further.walletOf _ _ isWallet)
      (fun later => answers_error _ fun _ posted => absurd posted (notPosted ▸ Bool.false_ne_true))
      ?_
    rintro before after ⟨updatedWallet, transactionId⟩ succeeds posted
    have isId := id_of_run_refund succeeds
    subst isId
    exact posts_answered rfl isAccepted posted

theorem not_isPostedAs_transfer {userId idempotencyKey transactionId : String}
    {commits : List (Commit Store Write)} :
    ¬ IsPostedAs ⟨.transfer, userId, idempotencyKey⟩ [transactionId] commits = true := by
  intro posted
  obtain ⟨⟨_, write, _, _⟩, -, posting, isPosting, isKey, isId⟩ := isPostedAs_iff.mp posted
  cases write with
  | debit | refund =>
    obtain rfl := Option.some.inj isPosting
    exact absurd (congrArg PostingKey.kind isKey) nofun
  | transfer input =>
    obtain rfl := Option.some.inj isPosting
    exact absurd (congrArg List.length isId) nofun
  | _ => contradiction

theorem posts_transfer (call : Call) (userId : String) (dto : WalletTransferDto)
    (isRequest : requestOf id = some (.transfer call userId dto))
    (kept : Kept users requestOf shared)
    (notPosted : (BillingRequest.transfer call userId dto).isPosted shared.commits = false) :
    (transfer call userId dto).Posts users requestOf (.transfer call userId dto) id
      (Answers users (.transfer call userId dto) shared.commits) shared := by
  have isUpkeep : Write.Kind.upkeep ∈ (BillingRequest.transfer call userId dto).kinds := by
    simp [BillingRequest.kinds]
  have isKind : Write.Kind.posting ∈ (BillingRequest.transfer call userId dto).kinds := by
    simp [BillingRequest.kinds]
  have refused (error : CommerceException) (later : Shared Store Write) :
      Answers users (.transfer call userId dto) shared.commits (.error error) later :=
    answers_error error fun _ posted => absurd posted (notPosted ▸ Bool.false_ne_true)
  refine posts_bind (posts_ensureWallet isRequest isUpkeep kept call _ _ _) kept ?_
    fun error later _ _ => refused error later
  intro sourceWallet source _ sourceKept isSource
  obtain ⟨ofUser, -, isWallet⟩ := isSource.isWallet sourceWallet rfl
  refine meets_ofExcept_bind ?_ fun error _ later _ _ => refused error later
  intro _ _
  refine posts_bind (posts_resolveUserForScope call dto.targetUserId) sourceKept ?_
    fun error later _ _ => refused error later
  intro targetUser resolved toResolved resolvedKept _
  refine posts_bind (posts_ensureWallet isRequest isUpkeep resolvedKept call _ _ _) resolvedKept ?_
    fun error later _ _ => refused error later
  intro targetWallet target toTarget targetKept _
  refine meets_ofExcept_bind ?_ fun error _ later _ _ => refused error later
  intro _ _
  refine meets_ofExcept_bind ?_ fun error _ later _ _ => refused error later
  intro amount _
  refine meets_ofExcept_bind ?_ fun error _ later _ _ => refused error later
  intro _ _
  refine (meets_read_bind _ _ _).mpr ?_
  intro read toRead _ isOwn
  rcases found : read.store.transactionByKey sourceWallet.id
    (normalizeIdempotencyKey dto.idempotencyKey call.keyUuid) (some .debit) with _ | transaction
  · subst ofUser
    have isRead := ((toResolved.trans toTarget).trans toRead).walletOf _ _ isWallet
    refine posts_posting (.transfer _) isRequest isKind (fun _ => trivial) rfl rfl isRead
      (fun later => refused _ later) ?_
    rintro before after ⟨updatedSource, updatedTarget, debitId, creditId⟩ succeeds posted
    obtain ⟨isDebit, isCredit⟩ := ids_of_run_transfer succeeds
    subst isDebit isCredit
    exact posts_answered rfl trivial posted
  · have posted : IsPostedAs ⟨.transfer, userId,
        normalizeIdempotencyKey dto.idempotencyKey call.keyUuid⟩ [transaction.id] read.commits =
          true := by
      simpa [repeatsAdmitted, found, BillingRequest.postingKey] using isOwn
    exact absurd posted not_isPostedAs_transfer

theorem posts_program (runtime : Webhooks.Runtime) (isRequest : requestOf id = some request)
    (kept : Kept users requestOf shared)
    (arrives : repeatsAdmitted.onArrive request shared = true) :
    (request.program runtime).Posts users requestOf request id
      (Answers users request shared.commits) shared := by
  have others (postsNothing : request.postingKey = none) {program : Commerce BillingAnswer}
      (posts : program.Posts users requestOf request id (fun _ _ => True) shared) :
      program.Posts users requestOf request id (Answers users request shared.commits) shared := by
    apply posts.imp
    intro outcome later _
    constructor
    · intro answer key _ isKey
      exact nomatch postsNothing.symm.trans isKey
    · intro _ _ _
      rw [BillingRequest.isPosted, postsNothing, Option.any_none]
  have settles (without : .upkeep ∉ request.kinds ∧ .posting ∉ request.kinds) :
      (request.program runtime).Posts users requestOf request id (fun _ _ => True) shared := by
    apply posts_of_transacts isRequest
    apply (request.transacts_program runtime).imp
    intro write isKind
    exact ⟨isKind, fun same => without.1 (same ▸ isKind), fun same => without.2 (same ▸ isKind)⟩
  cases request with
  | topUp call userId dto payment =>
    exact others rfl (posts_topUp call userId dto payment isRequest kept)
  | debit call userId dto => exact posts_debit call userId dto isRequest kept
  | refund call userId dto => exact posts_refund call userId dto isRequest kept
  | transfer call userId dto =>
    apply posts_transfer call userId dto isRequest kept
    simpa [repeatsAdmitted] using arrives
  | lockWallet call userId reason =>
    exact others rfl (posts_lockWallet call userId reason isRequest kept)
  | unlockWallet call userId => exact others rfl (posts_unlockWallet call userId isRequest kept)
  | reconcilePaymentIntent call intentId dto =>
    exact others rfl (settles (by simp [BillingRequest.kinds]))
  | applyFinalStatus | handleWebhook => exact others rfl (settles (by simp [BillingRequest.kinds]))

end Programs

/-! ## Runs -/

section Same

variable {request repeated : BillingRequest}

theorem normalizeIdempotencyKey_of_some {idempotencyKey : Option String}
    (carried : (optionalTrimmed idempotencyKey).isSome) (uuid other : String) :
    normalizeIdempotencyKey idempotencyKey uuid = normalizeIdempotencyKey idempotencyKey other := by
  obtain ⟨key, isKey⟩ := Option.isSome_iff_exists.mp carried
  rw [normalizeIdempotencyKey, normalizeIdempotencyKey, isKey]
  rfl

theorem SameRequest.postingKey_eq (same : SameRequest request repeated) :
    repeated.postingKey = request.postingKey := by
  cases same with
  | debit call call' _ _ carried | refund call call' _ _ carried
  | transfer call call' _ _ carried =>
    simp only [BillingRequest.postingKey,
      normalizeIdempotencyKey_of_some carried call'.keyUuid call.keyUuid]

theorem SameRequest.exists_key (same : SameRequest request repeated) :
    ∃ key, request.postingKey = some key := by
  cases same <;> exact ⟨_, rfl⟩

theorem SameRequest.kinds_eq (same : SameRequest request repeated) :
    request.kinds = [.upkeep, .posting] ∧ repeated.kinds = [.upkeep, .posting] := by
  cases same <;> exact ⟨rfl, rfl⟩

theorem SameRequest.accepted_iff {users : Table User User.id} (same : SameRequest request repeated) :
    Accepted users repeated ↔ Accepted users request := by
  have scope {call call' : Call} (sameContext : call.context = call'.context) (user : User) :
      assertUserInScope call' user = assertUserInScope call user := by
    rw [assertUserInScope, assertUserInScope, resolveTenantId, resolveTenantId, sameContext]
  cases same with
  | debit _ _ _ _ _ sameContext | refund _ _ _ _ _ sameContext =>
    simp only [Accepted, HasCaller, scope sameContext]
  | transfer => exact Iff.rfl

end Same

/-- A transaction of a posting request that posts nothing moves no money. -/
theorem sameMoney_of_upkeep {runtime : Webhooks.Runtime}
    {conditions : Conditions Store Query Write BillingRequest} {store : Store}
    {state : BillingState} (reachable : state.Reachable runtime conditions store)
    {commit : Commit Store Write} (member : commit ∈ state.shared.commits)
    (isUpkeep : commit.label.kind = .upkeep) : SameMoney commit.before commit.after := by
  obtain ⟨result, succeeds⟩ :=
    ReadCommitted.Reachable.commit_run Write.guarded reachable commit member
  exact (Write.effect_of_run succeeds).sameMoney isUpkeep

theorem exists_posting {write : Write} (isPosting : write.kind = .posting) :
    ∃ posting, write.posting = some posting := by
  cases write with
  | debit | refund | transfer => exact ⟨_, rfl⟩
  | _ => contradiction

theorem posting_eq {commits : List (Commit Store Write)} (once : commits.Pairwise PostApart)
    {first second : Commit Store Write} (firstMem : first ∈ commits) (secondMem : second ∈ commits)
    {posting other : Posting} (isPosting : first.label.posting = some posting)
    (isOther : second.label.posting = some other) (sameKey : posting.key = other.key) :
    posting = other := by
  have symm : Std.Symm PostApart := ⟨fun _ _ apart posting other isPosting isOther sameKey =>
    apart other posting isOther isPosting sameKey.symm⟩
  by_cases same : first = second
  · subst same
    exact Option.some.inj (isPosting.symm.trans isOther)
  · exact absurd sameKey
      (once.forall firstMem secondMem same posting other isPosting isOther)

theorem kept_opening (users : Table User User.id)
    (paymentMethods : Table PaymentMethod PaymentMethod.id)
    (requestOf : Nat → Option BillingRequest) :
    Kept users requestOf (Shared.initial (Store.opening users paymentMethods)) where
  users_eq := rfl
  inOrganization := fun _ member => absurd member List.not_mem_nil
  once := List.Pairwise.nil
  owned := fun _ member => absurd member List.not_mem_nil
  recorded := fun _ member => absurd member List.not_mem_nil

/-- In every run in which the checks and lookups of repeats are what they should be, and
nothing is posted between a lookup and the posting, repeating a request is like not
repeating it. -/
theorem idempotent_of_repeatsAdmitted (runtime : Webhooks.Runtime)
    (users : Table User User.id) (paymentMethods : Table PaymentMethod PaymentMethod.id)
    {state : BillingState} (reachable :
      state.Reachable runtime repeatsAdmitted (Store.opening users paymentMethods)) :
    state.Idempotent := by
  have meets := ReadCommitted.Reachable.meets_of_expected Write.guarded
    (fun id request => (state.sessions[id]?).map Connection.request = some request)
    (Kept users fun id => (state.sessions[id]?).map Connection.request) Onward
    (fun request _ arrived outcome shared =>
      Answers users request (shared.commits.take arrived) outcome shared)
    onward_refl (fun _ _ _ => Onward.trans) (kept_opening users paymentMethods _) ?_ reachable ?_
  · obtain ⟨kept, answers, refuses⟩ := meets
    have answered {request : BillingRequest} {answer : BillingAnswer} {key : PostingKey}
        (isAnswered : state.Answered request answer) (isKey : request.postingKey = some key) :
        Accepted users request ∧
          IsPostedAs key answer.transactionIds state.shared.commits = true := by
      obtain ⟨id, arrived, found⟩ := isAnswered
      exact (answers id request arrived answer found).answered answer key rfl isKey
    refine ⟨?_, ?_, ?_, ?_⟩
    · intro request repeated answer again same isAnswered isAgain
      obtain ⟨key, isKey⟩ := same.exists_key
      obtain ⟨first, firstMem, posting, isPosting, hasKey, isFirst⟩ :=
        isPostedAs_iff.mp (answered isAnswered isKey).2
      obtain ⟨second, secondMem, other, isOther, otherKey, isSecond⟩ :=
        isPostedAs_iff.mp (answered isAgain (same.postingKey_eq.trans isKey)).2
      rw [← isFirst, ← isSecond, posting_eq kept.once firstMem secondMem isPosting isOther
        (hasKey.trans otherKey.symm)]
    · intro request key answer isKey isAnswered
      exact (answered isAnswered isKey).2
    · intro request repeated key answer arrived same isKey isAnswered isRefused
      obtain ⟨id, error, found⟩ := isRefused
      have isAccepted := same.accepted_iff.mpr (answered isAnswered isKey).1
      have notPosted := (refuses id repeated arrived error found).refused error rfl isAccepted
      rw [← Bool.not_eq_true]
      intro posted
      rw [BillingRequest.isPosted, same.postingKey_eq, isKey, Option.any_some,
        isPosted_of_isPostedAs posted] at notPosted
      contradiction
    · apply kept.once.imp_of_mem
      rintro first second firstMem secondMem apart request repeated ⟨_, _, isFirst⟩
        ⟨_, _, isSecond⟩ same
      obtain ⟨firstKind, firstKey⟩ :=
        kept.owned first firstMem request (by rw [isFirst, Option.map_some])
      obtain ⟨secondKind, secondKey⟩ :=
        kept.owned second secondMem repeated (by rw [isSecond, Option.map_some])
      rw [same.kinds_eq.1, List.mem_pair] at firstKind
      rw [same.kinds_eq.2, List.mem_pair] at secondKind
      rcases firstKind with firstUpkeep | firstPosting
      · exact Or.inl (sameMoney_of_upkeep reachable firstMem firstUpkeep)
      · rcases secondKind with secondUpkeep | secondPosting
        · exact Or.inr (sameMoney_of_upkeep reachable secondMem secondUpkeep)
        · obtain ⟨posting, isPosting⟩ := exists_posting firstPosting
          obtain ⟨other, isOther⟩ := exists_posting secondPosting
          have sameKey := (firstKey posting isPosting).symm.trans
            (same.postingKey_eq.symm.trans (secondKey other isOther))
          exact absurd (Option.some.inj sameKey) (apart posting other isPosting isOther)
  · intro request id shared isRequest kept arrives
    have posts := Request.Meets.frame (Onward shared) (fun _ _ step onward => onward.trans step)
      (posts_program runtime isRequest kept arrives) (onward_refl shared)
    apply posts.imp
    rintro outcome later ⟨answers, onward⟩
    rwa [← List.prefix_iff_eq_take.mp onward.commits]
  · intro id session found
    rw [found, Option.map_some]

namespace Sample

def keyedDebit (name : String) (amount : ℚ) : BillingRequest :=
  .debit (call name) "ada" ⟨.finite amount, some "k", none, none⟩

def debited (amount : ℚ) : List (DatabaseEvent BillingRequest) :=
  toppedUp 0 "a" "ada" 100 ++ [.arrive (keyedDebit "b" amount)] ++ debitChecks 1 ++ debitWrites 1

def repeated : List (DatabaseEvent BillingRequest) :=
  debited 30 ++ [.arrive (keyedDebit "c" 30)] ++ debitChecks 2 ++ [.query 2, .query 2]

def drained : List (DatabaseEvent BillingRequest) :=
  debited 100 ++ [.arrive (keyedDebit "c" 100), .query 2, .query 2]

def answeredWith (state : BillingState) : List (Option (List String)) :=
  state.sessions.map fun session =>
    match session.progress with
    | .outside (.answer answer) => some answer.transactionIds
    | _ => none

def refusedFrom (state : BillingState) : List (Option Nat) :=
  state.sessions.map fun session =>
    match session.progress with
    | .outside (.throw _) => some session.arrived
    | _ => none

variable {state : BillingState} {requests : List BillingRequest} {id : Nat}
  {request : BillingRequest}

theorem answered_of_answeredWith {transactionIds : List String}
    (requestsOf : state.sessions.map Connection.request = requests)
    (isRequest : requests[id]? = some request)
    (isAnswered : (answeredWith state)[id]? = some (some transactionIds)) :
    ∃ answer, state.Answered request answer ∧ answer.transactionIds = transactionIds := by
  rw [← requestsOf, List.getElem?_map, Option.map_eq_some_iff] at isRequest
  obtain ⟨⟨_, arrived, progress⟩, found, rfl⟩ := isRequest
  rw [answeredWith, List.getElem?_map, found, Option.map_some, Option.some.injEq] at isAnswered
  split at isAnswered
  · rename_i answer isProgress
    obtain rfl : progress = _ := isProgress
    exact ⟨answer, ⟨id, arrived, found⟩, Option.some.inj isAnswered⟩
  · contradiction

theorem refused_of_refusedFrom {arrived : Nat}
    (requestsOf : state.sessions.map Connection.request = requests)
    (isRequest : requests[id]? = some request)
    (isRefused : (refusedFrom state)[id]? = some (some arrived)) :
    state.Refused request arrived := by
  rw [← requestsOf, List.getElem?_map, Option.map_eq_some_iff] at isRequest
  obtain ⟨⟨_, arrivedAt, progress⟩, found, rfl⟩ := isRequest
  rw [refusedFrom, List.getElem?_map, found, Option.map_some, Option.some.injEq] at isRefused
  split at isRefused
  · rename_i error isProgress
    obtain rfl : progress = _ := isProgress
    obtain rfl := Option.some.inj isRefused
    exact ⟨id, error, found⟩
  · contradiction

end Sample

/-- A repeat finds the transaction of the debit it repeats. -/
theorem idempotent_of_repeatsAdmitted_repeated : ∃ state : BillingState,
      Sample.answeredWith state = [some [], some ["b4"], some ["b4"]] ∧ state.Idempotent := by
  have run : (Sample.afterUnder repeatsAdmitted Sample.repeated).map Sample.answeredWith =
      some [some [], some ["b4"], some ["b4"]] := by
    decide +kernel
  rcases Option.map_eq_some_iff.mp run with ⟨state, reached, answers⟩
  exact ⟨state, answers, idempotent_of_repeatsAdmitted Sample.runtime Sample.users Table.empty
    (Transition.reachable_of_foldlM reached)⟩

/-- A debit that has emptied the wallet is refused when it is repeated. -/
theorem drained_debit_is_refused :
    ∃ state : BillingState, state.Reachable Sample.runtime Conditions.none
      (Store.opening Sample.users Table.empty) ∧ ¬ state.Idempotent := by
  have run : (Sample.after Sample.drained).map (fun state => (Sample.answeredWith state,
      Sample.refusedFrom state,
      IsPostedAs ⟨.debit, "ada", "k"⟩ ["b4"] (state.shared.commits.take 3))) =
        some ([some [], some ["b4"], none], [none, none, some 3], true) := by
    decide +kernel
  rcases Option.map_eq_some_iff.mp run with ⟨state, reached, outcome⟩
  simp only [Prod.mk.injEq] at outcome
  obtain ⟨answers, refusals, posted⟩ := outcome
  have requests : state.sessions.map Connection.request =
      [Sample.topUp "a" "ada" 100, Sample.keyedDebit "b" 100, Sample.keyedDebit "c" 100] :=
    ReadCommitted.requests_of_foldlM reached
  refine ⟨state, Transition.reachable_of_foldlM reached, ?_⟩
  intro idempotent
  obtain ⟨answer, isAnswered, ids⟩ := Sample.answered_of_answeredWith requests
    (show _ = some (Sample.keyedDebit "b" 100) from rfl)
    (show (Sample.answeredWith state)[1]? = some (some ["b4"]) by rw [answers]; rfl)
  have isRefused := Sample.refused_of_refusedFrom requests
    (show _ = some (Sample.keyedDebit "c" 100) from rfl)
    (show (Sample.refusedFrom state)[2]? = some (some 3) by rw [refusals]; rfl)
  have same : SameRequest (Sample.keyedDebit "b" 100) (Sample.keyedDebit "c" 100) :=
    .debit _ _ _ _ (by decide) rfl
  have notPosted := idempotent.notRefused _ _ ⟨.debit, "ada", "k"⟩ _ _ same (by decide +kernel)
    isAnswered isRefused
  rw [ids, posted] at notPosted
  contradiction

end Csms.Billing
