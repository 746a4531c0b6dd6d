import Csms.Billing.Repeats.Law

/-!
# What requests keep

Every request keeps what is known of all commits.  `ensureWallet` gives the wallet of the
user, and where the user has one already, as long as nothing else is asked for, the
wallet as it is.
-/

namespace Csms.Billing

open Database Js

/-- A request that keeps what is known of all commits, and ends with the postcondition. -/
abbrev Commerce.Posts {α : Type} (users : Table User User.id)
    (requestOf : Nat → Option BillingRequest) (request : BillingRequest) (id : Nat)
    (post : Except CommerceException α → Shared Store Write → Prop) (program : Commerce α)
    (shared : Shared Store Write) : Prop :=
  program.Meets (fun write => write.body.run) repeatsAdmitted (Kept users requestOf) Onward request
    id post shared

def HasCaller (users : Table User User.id) (call : Call) (userId : String) : Prop :=
  ∃ user, ownerOf users userId = some user ∧ assertUserInScope call user = .ok ()

section Programs

variable {users : Table User User.id} {requestOf : Nat → Option BillingRequest}
  {request : BillingRequest} {id : Nat} {shared : Shared Store Write}

theorem posts_pure {α : Type} (value : α) :
    (pure value : Commerce α).Posts users requestOf request id (fun _ _ => True) shared :=
  (meets_pure value).mpr fun _ _ _ => trivial

/-- The rest of a request knows how it got here. -/
theorem posts_bind {α γ : Type} {program : Commerce α} {next : α → Commerce γ}
    {middle : Except CommerceException α → Shared Store Write → Prop}
    {post : Except CommerceException γ → Shared Store Write → Prop}
    (first : program.Posts users requestOf request id middle shared)
    (kept : Kept users requestOf shared)
    (rest : ∀ value later, Onward shared later → Kept users requestOf later →
      middle (.ok value) later → (next value).Posts users requestOf request id post later)
    (failed : ∀ error later, Onward shared later → middle (.error error) later →
      post (.error error) later) :
    (program >>= next).Posts users requestOf request id post shared := by
  have framed := Request.Meets.frame (Onward shared) (fun _ _ step onward => onward.trans step)
    first (onward_refl shared)
  apply Request.Meets.bind onward_refl framed kept
  · rintro value later laterKept ⟨isMiddle, onward⟩
    exact rest value later onward laterKept isMiddle
  · rintro error later ⟨isMiddle, onward⟩
    exact failed error later onward isMiddle

/-- The same where the postcondition says nothing. -/
theorem posts_bind_trivial {α γ : Type} {program : Commerce α} {next : α → Commerce γ}
    {middle : Except CommerceException α → Shared Store Write → Prop}
    (first : program.Posts users requestOf request id middle shared)
    (kept : Kept users requestOf shared) (rest : ∀ value later, Kept users requestOf later →
      (next value).Posts users requestOf request id (fun _ _ => True) later) :
    (program >>= next).Posts users requestOf request id (fun _ _ => True) shared :=
  posts_bind first kept (fun value later _ laterKept _ => rest value later laterKept)
    fun _ _ _ _ => trivial

theorem posts_resolveUserForScope (call : Call) (userId : String) :
    (resolveUserForScope call userId).Posts users requestOf request id
      (fun outcome _ => match outcome with
        | .ok user => ownerOf users userId = some user ∧ assertUserInScope call user = .ok ()
        | .error _ => ¬ HasCaller users call userId) shared := by
  refine meets_ofExcept_bind ?_ ?_
  · intro normalizedUserId isNormalized
    refine (meets_read_bind _ _ _).mpr ?_
    intro read _ kept _
    have owner : ownerOf users userId = read.store.users.find? normalizedUserId := by
      rw [ownerOf, isNormalized, kept.users_eq]
    refine meets_ofExcept_bind ?_ ?_
    · intro user isFound
      have isOwner : ownerOf users userId = some user := by
        rw [owner]
        rcases found : read.store.users.find? normalizedUserId with _ | other
        · rw [found] at isFound
          contradiction
        · rw [found] at isFound
          rw [Except.ok.inj isFound]
      refine meets_ofExcept_bind ?_ ?_
      · intro _ inScope
        refine (meets_pure _).mpr ?_
        intro _ _ _
        exact ⟨isOwner, inScope⟩
      · rintro error outOfScope later _ _ ⟨other, isOther, inScope⟩
        obtain rfl := Option.some.inj (isOwner.symm.trans isOther)
        rw [inScope] at outOfScope
        contradiction
    · rintro error notFound later _ _ ⟨other, isOther, -⟩
      rw [← owner, isOther] at notFound
      contradiction
  · rintro error isMissing later _ _ ⟨other, isOther, -⟩
    rw [ownerOf, isMissing] at isOther
    contradiction

/-- What `ensureWallet` gives: the wallet of the user, and where there has been one, the
wallet as it is. -/
structure Ensured (users : Table User User.id) (request : BillingRequest) (call : Call)
    (userId : String) (currencyHint : Option String) (start : Shared Store Write)
    (outcome : Except CommerceException Wallet) (later : Shared Store Write) : Prop where
  isWallet : ∀ wallet, outcome = .ok wallet → wallet.userId = userId ∧
    HasCaller users call userId ∧ later.store.IsWalletOf userId wallet.id
  admitted : ∀ wallet walletId, outcome = .ok wallet → currencyHint = none →
    start.store.IsWalletOf userId walletId → request.isPosted start.commits = true →
      request.admits wallet = true
  found : ∀ error walletId, outcome = .error error → currencyHint = none →
    start.store.IsWalletOf userId walletId → ¬ HasCaller users call userId

theorem BillingRequest.isPosted_iff {commits : List (Commit Store Write)} :
    request.isPosted commits = true ↔
      ∃ key, request.postingKey = some key ∧ IsPosted key commits = true := by
  rw [isPosted, Option.any_eq_true]

theorem BillingRequest.isPosted_later {commits more : List (Commit Store Write)}
    (included : commits ⊆ more) (posted : request.isPosted commits = true) :
    request.isPosted more = true := by
  obtain ⟨key, isKey, isPosted⟩ := isPosted_iff.mp posted
  exact isPosted_iff.mpr ⟨key, isKey, isPosted_mono included isPosted⟩

/-- A transaction that posts nothing is kept. -/
theorem posts_execute (write : Write) (isRequest : requestOf id = some request)
    (isKind : write.kind ∈ request.kinds) (postsNothing : write.posting = none)
    (places : ∀ later, Onward shared later → Kept users requestOf later →
      write.Places users later.store)
    {post : Except CommerceException write.Result → Shared Store Write → Prop}
    (failed : ∀ later, post (.error .internal) later)
    (committed : ∀ before after result later, Onward shared before →
      write.body.run before.store = some (after, result) →
      Onward (before.commit id write after) later → Onward shared later → post (.ok result) later) :
    (execute write).Posts users requestOf request id post shared := by
  refine (meets_commit _ _).mpr ?_
  intro before onward kept
  refine ⟨fun later _ _ => failed later, ?_⟩
  intro _ after result succeeds
  obtain ⟨step, stillKept⟩ := kept.commit isRequest isKind (places before onward kept)
    (fun posting isPosting => nomatch postsNothing.symm.trans isPosting)
    (Write.effect_of_run succeeds)
  exact ⟨step, stillKept, fun later further _ =>
    committed before after result later onward succeeds further
      (onward.trans (step.trans further))⟩

variable {store : Store}

theorem isWalletOf_inj {userId walletId other : String}
    (isWallet : store.IsWalletOf userId walletId) (isOther : store.IsWalletOf userId other) :
    walletId = other := by
  obtain ⟨wallet, found, rfl⟩ := isWallet
  obtain ⟨wallet', found', rfl⟩ := isOther
  rw [Option.some.inj (found.symm.trans found')]

/-- The wallet that `findUnique` gives is one of the user. -/
theorem of_walletOf {userId : String} {wallet : Wallet}
    (found : store.walletOf userId = some wallet) :
    wallet ∈ store.wallets.rows ∧ wallet.userId = userId :=
  ⟨List.mem_of_find?_eq_some found, by simpa using List.find?_some found⟩

theorem userId_of_isWalletOf {userId walletId : String} {row : Wallet}
    (isWallet : store.IsWalletOf userId walletId)
    (found : Store.walletTable.find? walletId store = some row) : row.userId = userId := by
  obtain ⟨wallet, isFound, rfl⟩ := isWallet
  obtain ⟨member, ofUser⟩ := of_walletOf isFound
  have same : Store.walletTable.find? wallet.id store = some wallet :=
    Table.find?_eq_some_iff.mpr ⟨member, rfl⟩
  rw [Option.some.inj (found.symm.trans same), ofUser]

theorem walletOf_insert {row : Wallet} (free : Store.walletTable.find? row.id store = none)
    (hasNone : store.hasWalletOf row.userId = false) :
    (Store.walletTable.insert row store).walletOf row.userId = some row := by
  have rows := Component.rows_insert free
  change (Store.walletTable.insert row store).wallets.rows = _ at rows
  have none : List.find? (fun wallet : Wallet => decide (wallet.userId = row.userId))
      (Store.walletTable.table store).rows = Option.none := by
    rw [Store.hasWalletOf, List.any_eq_false] at hasNone
    exact List.find?_eq_none.mpr hasNone
  rw [Store.walletOf, rows, List.find?_append, none]
  simp

theorem posts_ensureWallet (isRequest : requestOf id = some request)
    (isUpkeep : .upkeep ∈ request.kinds) (kept : Kept users requestOf shared) (call : Call)
    (newId userId : String) (currencyHint : Option String) :
    (ensureWallet call newId userId currencyHint).Posts users requestOf request id
      (Ensured users request call userId currencyHint shared) shared := by
  have refused (error : CommerceException) (later : Shared Store Write)
      (without : currencyHint = none → ∀ walletId, shared.store.IsWalletOf userId walletId →
        ¬ HasCaller users call userId) :
      Ensured users request call userId currencyHint shared (.error error) later :=
    ⟨nofun, nofun, fun _ walletId _ noHint isWallet => without noHint walletId isWallet⟩
  refine posts_bind (posts_resolveUserForScope call userId) kept ?_
    fun error later _ noCaller => refused error later fun _ _ _ => noCaller
  rintro user resolved onward resolvedKept ⟨isOwner, inScope⟩
  have hasCaller : HasCaller users call userId := ⟨user, isOwner, inScope⟩
  refine (meets_read_bind _ _ _).mpr ?_
  intro read onwardRead readKept isAdmitted
  have toRead := onward.trans onwardRead
  rcases found : read.store.walletOf userId with _ | current
  · -- a wallet is created; the user had none when the operation began
    have hadNone (walletId : String) : ¬ shared.store.IsWalletOf userId walletId := by
      intro isWallet
      obtain ⟨wallet, isFound, -⟩ := toRead.walletOf _ _ isWallet
      rw [found] at isFound
      contradiction
    refine meets_ofExcept_bind ?_ fun error _ later _ _ =>
      refused error later fun _ walletId isWallet => absurd isWallet (hadNone walletId)
    intro currency _
    apply posts_execute (.createWallet newId userId user.organizationId currency) isRequest
      isUpkeep rfl
    · intro later _ _ other isOther
      rw [Option.some.inj (isOwner.symm.trans isOther)]
    · exact fun later => refused _ later fun _ walletId isWallet =>
        absurd isWallet (hadNone walletId)
    · intro before after created later _ succeeds step _
      obtain ⟨free, hasNone, done⟩ := run_insertWallet succeeds
      obtain ⟨rfl, rfl⟩ := Prod.mk.inj (Option.some.inj done)
      refine ⟨?_, fun _ walletId _ _ isWallet => absurd isWallet (hadNone walletId), nofun⟩
      rintro wallet ⟨rfl⟩
      exact ⟨rfl, hasCaller, step.walletOf _ _ ⟨_, walletOf_insert free hasNone, rfl⟩⟩
  · have isWallet : read.store.IsWalletOf userId current.id := ⟨current, found, rfl⟩
    obtain ⟨member, ofUser⟩ := of_walletOf found
    have placed := readKept.inOrganization current member user (ofUser ▸ isOwner)
    refine meets_ofExcept_bind ?_ ?_
    · intro currency isPreferred
      have unchanged (noHint : currencyHint = none) : currency = current.currency := by
        subst noHint
        exact (Except.ok.inj isPreferred).symm
      refine meets_ite ?_ ?_
      · -- the organisation is right, so it is the currency that changes, after a hint
        intro differs
        have hasHint : currencyHint ≠ none := fun noHint =>
          differs.elim (fun other => other placed) fun other => other (unchanged noHint)
        apply posts_execute (.updateWalletOwner current.id user.organizationId currency) isRequest
          isUpkeep rfl
        · intro later step _ wallet isFound other isOther
          rw [userId_of_isWalletOf (step.walletOf _ _ isWallet) isFound] at isOther
          rw [Option.some.inj (isOwner.symm.trans isOther)]
        · exact fun later => refused _ later fun noHint => absurd noHint hasHint
        · intro before after updated later step succeeds _ toLater
          obtain ⟨row, isFound, done⟩ := run_updateWallet (fun _ => by exact ⟨rfl, rfl⟩) succeeds
          obtain ⟨rfl, rfl⟩ := Prod.mk.inj (Option.some.inj done)
          refine ⟨?_, fun _ _ _ noHint => absurd noHint hasHint, nofun⟩
          rintro wallet ⟨rfl⟩
          have isRow : row.id = current.id := (Table.find?_eq_some_iff.mp isFound).2
          have isUsers : row.userId = userId :=
            userId_of_isWalletOf (step.walletOf _ _ isWallet) isFound
          exact ⟨isUsers, hasCaller, isRow ▸ toLater.walletOf _ _ isWallet⟩
      · intro _
        refine (meets_pure _).mpr ?_
        intro later step _
        refine ⟨?_, ?_, nofun⟩
        · rintro wallet ⟨rfl⟩
          exact ⟨ofUser, hasCaller, step.walletOf _ _ isWallet⟩
        · rintro wallet walletId ⟨rfl⟩ _ _ posted
          have readPosted := BillingRequest.isPosted_later toRead.subset posted
          simpa [repeatsAdmitted, readPosted, found] using isAdmitted
    · intro error isRejected later _ _
      refine refused error later fun noHint => ?_
      subst noHint
      contradiction

/-- Transactions that are no upkeep and post nothing are kept, whatever they read. -/
theorem posts_of_transacts {α : Type} {program : Commerce α}
    (isRequest : requestOf id = some request) (transacts : program.Transacts fun write =>
      write.kind ∈ request.kinds ∧ write.kind ≠ .upkeep ∧ write.kind ≠ .posting) :
    program.Posts users requestOf request id (fun _ _ => True) shared := by
  apply transacts.meets
  rintro shared write after result kept ⟨isKind, noUpkeep, noPosting⟩ _ succeeds
  apply kept.commit isRequest isKind _ _ (Write.effect_of_run succeeds)
  · cases write with
    | createWallet | updateWalletOwner => exact absurd rfl noUpkeep
    | _ => trivial
  · intro posting isPosting
    cases write with
    | debit | refund | transfer => exact absurd rfl noPosting
    | _ => contradiction

theorem posts_other (write : Write) (isRequest : requestOf id = some request)
    (isKind : write.kind ∈ request.kinds) (noUpkeep : write.kind ≠ .upkeep)
    (noPosting : write.kind ≠ .posting) :
    (execute write).Posts users requestOf request id (fun _ _ => True) shared :=
  posts_of_transacts isRequest (transacts_execute ⟨isKind, noUpkeep, noPosting⟩)

theorem posts_topUp (call : Call) (userId : String) (dto : WalletTopUpDto)
    (payment : Except CommerceException PaymentSession)
    (isRequest : requestOf id = some (.topUp call userId dto payment))
    (kept : Kept users requestOf shared) :
    (topUp call userId dto payment).Posts users requestOf (.topUp call userId dto payment) id
      (fun _ _ => True) shared := by
  have isUpkeep : Write.Kind.upkeep ∈ (BillingRequest.topUp call userId dto payment).kinds := by
    simp [BillingRequest.kinds]
  apply posts_bind_trivial (posts_ensureWallet isRequest isUpkeep kept call _ _ _) kept
  intro wallet ensured ensuredKept
  refine meets_ofExcept_bind ?_ fun _ _ _ _ _ => trivial
  intro _ _
  apply posts_bind_trivial
    (posts_of_transacts isRequest (transacts_loadPaymentMethodId userId dto.paymentMethodId))
    ensuredKept
  intro paymentMethodId loaded loadedKept
  refine meets_ofExcept_bind ?_ fun _ _ _ _ _ => trivial
  intro amount _
  refine meets_ofExcept_bind ?_ fun _ _ _ _ _ => trivial
  intro currency _
  refine (meets_read_bind _ _ _).mpr ?_
  intro read _ readKept _
  generalize Option.map _ (List.find? _ read.store.paymentIntents.rows) = existing
  cases existing with
  | some found =>
    exact posts_bind_trivial (posts_ensureWallet isRequest isUpkeep readKept call _ _ _) readKept
      fun _ _ _ => posts_pure _
  | none =>
    refine meets_ite ?_ ?_
    · intro _
      apply posts_bind_trivial
        (posts_of_transacts isRequest (transacts_resolveUserForScope call userId)) readKept
      intro _ resolved resolvedKept
      refine meets_ofExcept_bind ?_ fun _ _ _ _ _ => trivial
      intro orchestration _
      apply posts_bind_trivial (posts_other (.topUpPending _ orchestration) isRequest
        (by simp [BillingRequest.kinds, Write.kind]) (by rintro ⟨⟩) (by rintro ⟨⟩)) resolvedKept
      rintro ⟨intent, transactionId⟩ created createdKept
      exact posts_bind_trivial (posts_ensureWallet isRequest isUpkeep createdKept call _ _ _)
        createdKept fun _ _ _ => posts_pure _
    · intro _
      exact posts_bind_trivial (posts_other (.topUpSettled _) isRequest
        (by simp [BillingRequest.kinds, Write.kind]) (by rintro ⟨⟩) (by rintro ⟨⟩)) readKept
        fun _ _ _ => posts_pure _

theorem posts_lockWallet (call : Call) (userId : String) (reason : Option String)
    (isRequest : requestOf id = some (.lockWallet call userId reason))
    (kept : Kept users requestOf shared) :
    (lockWallet call userId reason).Posts users requestOf (.lockWallet call userId reason) id
      (fun _ _ => True) shared := by
  apply posts_bind_trivial
    (posts_ensureWallet isRequest (by simp [BillingRequest.kinds]) kept call _ _ _) kept
  intro wallet ensured ensuredKept
  exact posts_bind_trivial (posts_other (.lockWallet _ _ _) isRequest
    (by simp [BillingRequest.kinds, Write.kind]) (by rintro ⟨⟩) (by rintro ⟨⟩)) ensuredKept
    fun _ _ _ => posts_pure _

theorem posts_unlockWallet (call : Call) (userId : String)
    (isRequest : requestOf id = some (.unlockWallet call userId))
    (kept : Kept users requestOf shared) :
    (unlockWallet call userId).Posts users requestOf (.unlockWallet call userId) id
      (fun _ _ => True) shared := by
  apply posts_bind_trivial
    (posts_ensureWallet isRequest (by simp [BillingRequest.kinds]) kept call _ _ _) kept
  intro wallet ensured ensuredKept
  exact posts_bind_trivial (posts_other (.unlockWallet _) isRequest
    (by simp [BillingRequest.kinds, Write.kind]) (by rintro ⟨⟩) (by rintro ⟨⟩)) ensuredKept
    fun _ _ _ => posts_pure _

end Programs

end Csms.Billing
