import Csms.Database.ReadCommitted

/-!
# What a session has executed

A session that is at some point of its request has made some of its queries, on
stores that were committed at the time, and committed some of its transactions,
in the order of its program.  The commits of one session in the history of a run
are those, so what a request has done so far can be read off its program.
-/

namespace Csms.Database

variable {σ κ τ ε ι α γ ρ ℓ : Type} {β : τ → Type}

/-- The request has executed up to `rest`, committed the transactions in between,
and its queries have seen stores that are `seen`. -/
inductive Request.Executed (seen : σ → Prop) :
    Request σ κ τ β ε α → List τ → Request σ κ τ β ε α → Prop
  | refl (request : Request σ κ τ β ε α) : Executed seen request [] request
  | query (name : κ) (rest : σ → Request σ κ τ β ε α) (store : σ) (labels : List τ)
      (last : Request σ κ τ β ε α) :
      seen store → Executed seen (rest store) labels last →
      Executed seen (.query name rest) labels last
  | commit (label : τ) (rest : Option (β label) → Request σ κ τ β ε α) (result : β label)
      (labels : List τ) (last : Request σ κ τ β ε α) :
      Executed seen (rest (some result)) labels last →
      Executed seen (.transact label rest) (label :: labels) last
  | abort (label : τ) (rest : Option (β label) → Request σ κ τ β ε α)
      (labels : List τ) (last : Request σ κ τ β ε α) :
      Executed seen (rest none) labels last →
      Executed seen (.transact label rest) labels last

section Executed

variable {seen : σ → Prop} {labels : List τ}

theorem Request.Executed.trans {first middle last : Request σ κ τ β ε α} {more : List τ}
    (before : first.Executed seen labels middle) (after : middle.Executed seen more last) :
    first.Executed seen (labels ++ more) last := by
  induction before with
  | refl request => exact after
  | query name rest store labels last isSeen _ ih => exact .query name rest store _ _ isSeen (ih after)
  | commit label rest result labels last _ ih => exact .commit label rest result _ _ (ih after)
  | abort label rest labels last _ ih => exact .abort label rest _ _ (ih after)

theorem Request.Executed.imp {more : σ → Prop} (implies : ∀ store, seen store → more store)
    {first last : Request σ κ τ β ε α} (executed : first.Executed seen labels last) :
    first.Executed more labels last := by
  induction executed with
  | refl request => exact .refl request
  | query name rest store labels last isSeen _ ih =>
    exact .query name rest store labels last (implies store isSeen) ih
  | commit label rest result labels last _ ih => exact .commit label rest result labels last ih
  | abort label rest labels last _ ih => exact .abort label rest labels last ih

theorem Request.Executed.forall_mem {allowed : τ → Prop} {first last : Request σ κ τ β ε α}
    (executed : first.Executed seen labels last) (transacts : first.Transacts allowed) :
    ∀ label ∈ labels, allowed label := by
  induction executed with
  | refl request => exact fun _ member => absurd member List.not_mem_nil
  | query name rest store labels last _ _ ih =>
    cases transacts with
    | query _ _ onward => exact ih (onward store)
  | commit label rest result labels last _ ih =>
    cases transacts with
    | transact _ _ isAllowed onward =>
      exact List.forall_mem_cons.mpr ⟨isAllowed, ih (onward (some result))⟩
  | abort label rest labels last _ ih =>
    cases transacts with
    | transact _ _ _ onward => exact ih (onward none)

theorem executed_pure_iff {value : α} {last : Request σ κ τ β ε α} :
    (pure value : Request σ κ τ β ε α).Executed seen labels last ↔
      labels = [] ∧ last = .answer value := by
  constructor
  · intro executed
    cases executed with
    | refl => exact ⟨rfl, rfl⟩
  · rintro ⟨rfl, rfl⟩
    exact .refl _

theorem executed_throw_iff {error : ε} {last : Request σ κ τ β ε α} :
    (Request.throw error : Request σ κ τ β ε α).Executed seen labels last ↔
      labels = [] ∧ last = .throw error := by
  constructor
  · intro executed
    cases executed with
    | refl => exact ⟨rfl, rfl⟩
  · rintro ⟨rfl, rfl⟩
    exact .refl _

variable {next : α → Request σ κ τ β ε γ} {last : Request σ κ τ β ε γ}

theorem executed_read_bind_iff {name : κ} {find : σ → α} :
    (Request.read name find >>= next).Executed seen labels last ↔
      (labels = [] ∧ last = Request.read name find >>= next) ∨
        ∃ store, seen store ∧ (next (find store)).Executed seen labels last := by
  constructor
  · intro executed
    cases executed with
    | refl => exact Or.inl ⟨rfl, rfl⟩
    | query _ _ store _ _ isSeen further => exact Or.inr ⟨store, isSeen, further⟩
  · rintro (⟨rfl, rfl⟩ | ⟨store, isSeen, further⟩)
    · exact .refl _
    · exact .query name _ store labels last isSeen further

theorem executed_ofExcept_bind {found : Except ε α}
    (executed : (Request.ofExcept found >>= next).Executed seen labels last) :
    (∃ value, found = .ok value ∧ (next value).Executed seen labels last) ∨
      ∃ error, found = .error error ∧ labels = [] ∧ last = .throw error := by
  cases found with
  | ok value => exact Or.inl ⟨value, rfl, executed⟩
  | error error => exact Or.inr ⟨error, rfl, executed_throw_iff.mp executed⟩

/-- What follows a transaction that throws when it is rolled back. -/
theorem executed_commit_bind_iff {label : τ} {failure : ε} {next : β label → Request σ κ τ β ε γ} :
    (Request.commit label failure >>= next).Executed seen labels last ↔
      (labels = [] ∧ (last = Request.commit label failure >>= next ∨ last = .throw failure)) ∨
        ∃ result later, labels = label :: later ∧ (next result).Executed seen later last := by
  constructor
  · intro executed
    cases executed with
    | refl => exact Or.inl ⟨rfl, Or.inl rfl⟩
    | commit _ _ result later _ further => exact Or.inr ⟨result, later, rfl, further⟩
    | abort _ _ _ _ further =>
      have ended : labels = [] ∧ last = .throw failure := executed_throw_iff.mp further
      exact Or.inl ⟨ended.1, Or.inr ended.2⟩
  · rintro (⟨rfl, rfl | rfl⟩ | ⟨result, later, rfl, further⟩)
    · exact .refl _
    · exact .abort label _ [] _ (.refl _)
    · exact .commit label _ result later last further

/-- A program that has come to its answer has come through its first part. -/
theorem exists_of_executed_bind {first : Request σ κ τ β ε α} {value : γ}
    (executed : (first >>= next).Executed seen labels (.answer value)) :
    ∃ middle earlier later, labels = earlier ++ later ∧
      first.Executed seen earlier (.answer middle) ∧
      (next middle).Executed seen later (.answer value) := by
  induction first generalizing labels with
  | answer middle => exact ⟨middle, [], labels, rfl, .refl _, executed⟩
  | throw error =>
    have ended := executed_throw_iff.mp executed
    cases ended.2
  | query name rest ih =>
    cases executed with
    | query _ _ store labels _ isSeen further =>
      rcases ih store further with ⟨middle, earlier, later, same, before, after⟩
      exact ⟨middle, earlier, later, same, .query name rest store _ _ isSeen before, after⟩
  | transact label rest ih =>
    cases executed with
    | commit _ _ result labels _ further =>
      rcases ih (some result) further with ⟨middle, earlier, later, same, before, after⟩
      exact ⟨middle, label :: earlier, later, congrArg (List.cons label) same,
        .commit label rest result _ _ before, after⟩
    | abort _ _ labels _ further =>
      rcases ih none further with ⟨middle, earlier, later, same, before, after⟩
      exact ⟨middle, earlier, later, same, .abort label rest _ _ before, after⟩

end Executed

/-- The request can come to the answer when its queries see stores that are `seen`, whatever
becomes of its transactions. -/
def Request.Answers (seen : σ → Prop) (request : Request σ κ τ β ε α) (value : α) : Prop :=
  ∃ labels, request.Executed seen labels (.answer value)

variable {store : σ}

section Answers

variable {seen : σ → Prop} {value : α}

theorem answers_pure_iff {answer : α} :
    (pure answer : Request σ κ τ β ε α).Answers seen value ↔ value = answer := by
  constructor
  · rintro ⟨labels, executed⟩
    cases (executed_pure_iff.mp executed).2
    rfl
  · rintro rfl
    exact ⟨[], .refl _⟩

theorem not_answers_throw {error : ε} :
    ¬ (Request.throw error : Request σ κ τ β ε α).Answers seen value := by
  rintro ⟨labels, executed⟩
  cases (executed_throw_iff.mp executed).2

theorem Request.Answers.of_read {name : κ} {find : σ → α}
    (answers : (Request.read name find : Request σ κ τ β ε α).Answers seen value) :
    ∃ store, seen store ∧ find store = value := by
  rcases answers with ⟨labels, executed⟩
  cases executed with
  | query _ _ store _ _ isSeen further =>
    cases further with
    | refl => exact ⟨store, isSeen, rfl⟩

theorem Request.Answers.of_ofExcept {found : Except ε α}
    (answers : (Request.ofExcept found : Request σ κ τ β ε α).Answers seen value) :
    found = .ok value := by
  cases found with
  | ok first =>
    rw [answers_pure_iff.mp answers]
  | error error => exact absurd answers not_answers_throw

theorem Request.Answers.of_bind {first : Request σ κ τ β ε γ} {next : γ → Request σ κ τ β ε α}
    (answers : (first >>= next).Answers seen value) :
    ∃ middle, first.Answers seen middle ∧ (next middle).Answers seen value := by
  rcases answers with ⟨labels, executed⟩
  rcases exists_of_executed_bind executed with ⟨middle, earlier, later, _, before, after⟩
  exact ⟨middle, ⟨earlier, before⟩, later, after⟩

theorem Request.Answers.of_ite {condition : Prop} [Decidable condition]
    {left right : Request σ κ τ β ε α}
    (answers : (if condition then left else right).Answers seen value) :
    condition ∧ left.Answers seen value ∨ ¬ condition ∧ right.Answers seen value := by
  split at answers
  · exact Or.inl ⟨‹_›, answers⟩
  · exact Or.inr ⟨‹_›, answers⟩

/-- The answer of a request that runs alone, if all its queries see stores of the kind. -/
def Request.aloneAnswer (effect : (label : τ) → σ → Option (σ × β label)) (seen : σ → Bool) :
    Request σ κ τ β ε α → σ → Option α
  | .answer value, _ => some value
  | .throw _, _ => none
  | .query _ rest, store => if seen store then (rest store).aloneAnswer effect seen store else none
  | .transact label rest, store =>
    match effect label store with
    | some (after, result) => (rest (some result)).aloneAnswer effect seen after
    | none => (rest none).aloneAnswer effect seen store

theorem answers_of_aloneAnswer {effect : (label : τ) → σ → Option (σ × β label)}
    {seen : σ → Bool} {request : Request σ κ τ β ε α}
    (answers : request.aloneAnswer effect seen store = some value) :
    request.Answers (seen · = true) value := by
  induction request generalizing store with
  | answer answer =>
    cases answers
    exact ⟨[], .refl _⟩
  | throw error => contradiction
  | query name rest ih =>
    rw [Request.aloneAnswer] at answers
    split at answers
    · rename_i isSeen
      rcases ih store answers with ⟨labels, executed⟩
      exact ⟨labels, .query name rest store labels _ isSeen executed⟩
    · contradiction
  | transact label rest ih =>
    rw [Request.aloneAnswer] at answers
    rcases happens : effect label store with _ | ⟨after, result⟩
    · rw [happens] at answers
      rcases ih none answers with ⟨labels, executed⟩
      exact ⟨labels, .abort label rest labels _ executed⟩
    · rw [happens] at answers
      rcases ih (some result) answers with ⟨labels, executed⟩
      exact ⟨label :: labels, .commit label rest result labels _ executed⟩

/-- Among others, a request that keeps what has to be kept ends with one of its answers. -/
theorem meets_answers {ι : Type} {effect : (label : τ) → σ → Option (σ × β label)}
    {conditions : Conditions σ κ τ ι} {invariant : Shared σ τ → Prop}
    {rely : Shared σ τ → Shared σ τ → Prop} {arrived : ι} {id : Nat}
    (keeps : ∀ (shared : Shared σ τ) (label : τ) (after : σ) (result : β label), invariant shared →
      conditions.onCommit arrived label shared = true →
        effect label shared.store = some (after, result) →
          rely shared (shared.commit id label after) ∧ invariant (shared.commit id label after))
    (request : Request σ κ τ β ε α) (shared : Shared σ τ) :
    request.Meets effect conditions invariant rely arrived id
      (fun outcome _ => ∀ value, outcome = .ok value → request.Answers (fun _ => True) value)
      shared := by
  induction request generalizing shared with
  | answer answer =>
    refine (meets_pure answer).mpr fun later _ _ value isAnswer => ?_
    cases isAnswer
    exact ⟨[], .refl _⟩
  | throw error => exact (meets_throw error).mpr fun later _ _ value isAnswer => by cases isAnswer
  | query name rest ih =>
    refine (meets_read_bind name (fun store => store) rest).mpr fun later _ _ _ => ?_
    refine (ih later.store later).imp fun outcome _ answers value isAnswer => ?_
    rcases answers value isAnswer with ⟨labels, executed⟩
    exact ⟨labels, .query name rest later.store labels _ trivial executed⟩
  | transact label rest ih =>
    refine meets_transact.mpr fun later _ holds => ⟨?_, ?_⟩
    · refine (ih none later).imp fun outcome _ answers value isAnswer => ?_
      rcases answers value isAnswer with ⟨labels, executed⟩
      exact ⟨labels, .abort label rest labels _ executed⟩
    · intro allowed after result happens
      rcases keeps later label after result holds allowed happens with ⟨kept, stillHolds⟩
      refine ⟨kept, stillHolds, (ih (some result) _).imp fun outcome _ answers value isAnswer => ?_⟩
      rcases answers value isAnswer with ⟨labels, executed⟩
      exact ⟨label :: labels, .commit label rest result labels _ executed⟩

end Answers

/-- The transactions that a session has committed. -/
def Shared.labelsOf (shared : Shared σ τ) (id : Nat) : List τ :=
  (shared.commits.filter fun commit => commit.session = id).map Commit.label

theorem Shared.labelsOf_commit (shared : Shared σ τ) (session : Nat) (label : τ) (after : σ)
    (id : Nat) : (shared.commit session label after).labelsOf id =
      shared.labelsOf id ++ if session = id then [label] else [] := by
  rw [labelsOf, commits_commit, List.filter_append, List.map_append]
  by_cases isSession : session = id <;> simp [labelsOf, isSession]

theorem Shared.mem_labelsOf {shared : Shared σ τ} {id : Nat} {label : τ} :
    label ∈ shared.labelsOf id ↔
      ∃ commit ∈ shared.commits, commit.session = id ∧ commit.label = label := by
  simp [labelsOf, and_assoc]

/-- Every session has executed its request up to where it is, or up to where it
stopped, and the history has its commits. -/
def System.AllExecuted (program : ι → Request σ κ τ β ε ρ) (grows : σ → σ → Prop)
    (system : System σ κ τ β ε ι ρ) : Prop :=
  ∀ (id : Nat) (session : Session σ κ τ β ε ι ρ), system.sessions[id]? = some session →
    ∃ last, (program session.request).Executed (grows · system.shared.store)
        (system.shared.labelsOf id) last ∧
      ∀ current, session.rest = some current → last = current

section Runs

variable {effect : (label : τ) → σ → Option (σ × β label)} {program : ι → Request σ κ τ β ε ρ}
  {conditions : Conditions σ κ τ ι} {grows : σ → σ → Prop}

/-- One session moves on; what the others have executed is what it was. -/
theorem System.AllExecuted.moveOn {system : System σ κ τ β ε ι ρ}
    (executed : system.AllExecuted program grows) {shared : Shared σ τ} {id : Nat}
    (later : ∀ store, grows store system.shared.store → grows store shared.store)
    (others : ∀ other, other ≠ id → shared.labelsOf other = system.shared.labelsOf other)
    {moved : Option (Request σ κ τ β ε ρ)}
    (onward : ∀ session last, system.sessions[id]? = some session →
      (∀ current, session.rest = some current → last = current) →
        (program session.request).Executed (grows · shared.store) (system.shared.labelsOf id) last →
        ∃ next, (program session.request).Executed (grows · shared.store) (shared.labelsOf id)
            next ∧ ∀ current, moved = some current → next = current) :
    System.AllExecuted program grows { shared, sessions := system.moveOn id moved } := by
  rintro other ⟨request, arrived, rest⟩ found
  rcases System.getElem?_moveOn found with ⟨isOther, stays⟩ | ⟨same, isMoved, before, stored⟩
  · rcases executed other _ stays with ⟨last, upTo, isLast⟩
    rw [others other isOther.symm]
    exact ⟨last, upTo.imp later, isLast⟩
  · subst same isMoved
    rcases executed id _ stored with ⟨last, upTo, isLast⟩
    exact onward ⟨request, arrived, before⟩ last stored isLast (upTo.imp later)

/-- Where a session is, and what it has committed, follows from its request. -/
theorem System.Reachable.executed (refl : ∀ store, grows store store)
    (trans : ∀ first second third, grows first second → grows second third → grows first third)
    (commits : ∀ label store after result, effect label store = some (after, result) → grows store after)
    {system : System σ κ τ β ε ι ρ}
    (reachable : System.Reachable effect program conditions (System.initial store) system) :
    system.AllExecuted program grows ∧
      ∀ commit ∈ system.shared.commits, commit.session < system.sessions.length := by
  induction reachable with
  | refl =>
    constructor
    · intro id session found
      simp [System.initial] at found
    · intro commit member
      simp [System.initial, Shared.initial] at member
  | @tail middle _ _ step ih =>
    rcases ih with ⟨executed, known⟩
    cases step with
    | arrive request allowed =>
      constructor
      · intro id session found
        rcases Transition.getElem?_append_singleton_eq_some_iff.mp found with
          old | ⟨rfl, rfl⟩
        · exact executed id session old
        · -- nothing was committed under the new number
          have none : middle.shared.labelsOf middle.sessions.length = [] := by
            rw [Shared.labelsOf, List.map_eq_nil_iff, List.filter_eq_nil_iff]
            intro commit member isNew
            have isKnown := known commit member
            rw [of_decide_eq_true isNew] at isKnown
            exact lt_irrefl _ isKnown
          refine ⟨program request, ?_, fun _ same => Option.some.inj same⟩
          rw [none]
          exact .refl _
      · intro commit member
        rw [List.length_append]
        exact Nat.lt_add_right _ (known commit member)
    | query id request arrived name rest found allowed =>
      refine ⟨executed.moveOn (fun _ seen => seen) (fun _ _ => rfl) ?_, ?_⟩
      · intro session last stored isLast upTo
        rw [found] at stored
        obtain rfl := Option.some.inj stored
        obtain rfl := isLast _ rfl
        have further := upTo.trans (.query name rest middle.shared.store [] _ (refl _) (.refl _))
        rw [List.append_nil] at further
        exact ⟨_, further, fun _ same => Option.some.inj same⟩
      · simpa [System.moveOn] using known
    | commit id request arrived label rest after result found allowed happens =>
      have grown := commits label _ after result happens
      refine ⟨executed.moveOn (fun seen isSeen => trans _ _ _ isSeen grown) ?_ ?_, ?_⟩
      · intro other isOther
        rw [Shared.labelsOf_commit, if_neg isOther.symm, List.append_nil]
      · intro session last stored isLast upTo
        rw [found] at stored
        obtain rfl := Option.some.inj stored
        obtain rfl := isLast _ rfl
        rw [Shared.labelsOf_commit, if_pos rfl]
        exact ⟨_, upTo.trans (.commit label rest result [] _ (.refl _)),
          fun _ same => Option.some.inj same⟩
      · intro commit member
        simp only [System.moveOn, List.length_modify]
        rw [Shared.commits_commit, List.mem_append, List.mem_singleton] at member
        rcases member with old | rfl
        · exact known commit old
        · exact (List.getElem?_eq_some_iff.mp found).1
    | abort id request arrived label rest found =>
      refine ⟨executed.moveOn (fun _ seen => seen) (fun _ _ => rfl) ?_, ?_⟩
      · intro session last stored isLast upTo
        rw [found] at stored
        obtain rfl := Option.some.inj stored
        obtain rfl := isLast _ rfl
        have further := upTo.trans (.abort label rest [] _ (.refl _))
        rw [List.append_nil] at further
        exact ⟨_, further, fun _ same => Option.some.inj same⟩
      · simpa [System.moveOn] using known
    | stop id =>
      refine ⟨executed.moveOn (fun _ seen => seen) (fun _ _ => rfl) ?_, ?_⟩
      · intro session last _ _ upTo
        exact ⟨last, upTo, fun _ same => absurd same (by simp)⟩
      · simpa [System.moveOn] using known

section

variable [DecidableEq ℓ] {protects : ℓ → Setoid σ} {body : (label : τ) → Tx σ ℓ (β label)}
    (guarded : ∀ label, (body label).Guarded protects [])
include guarded

/-- With statements that interleave: where a connection is, unless it has stopped,
its session has come by what it has committed. -/
theorem ReadCommitted.Reachable.executed (refl : ∀ store, grows store store)
    (trans : ∀ first second third, grows first second → grows second third → grows first third)
    (commits : ∀ label store after result, (body label).run store = some (after, result) → grows store after)
    {state : ReadCommitted σ ℓ κ τ β ε ι ρ}
    (reachable : ReadCommitted.Reachable body program conditions (initial store) state) {id : Nat}
    {connection : Connection σ ℓ κ τ β ε ι ρ} (found : state.sessions[id]? = some connection) :
    ∃ last, (program connection.request).Executed (grows · state.shared.store)
        (state.shared.labelsOf id) last ∧
      ∀ current, connection.progress.abstract = some current → last = current :=
  ((reachable.abstract guarded).executed refl trans commits).1 id _ (abstract_getElem? found)

theorem ReadCommitted.Reachable.session_of_commit {state : ReadCommitted σ ℓ κ τ β ε ι ρ}
    (reachable : ReadCommitted.Reachable body program conditions (initial store) state)
    {commit : Commit σ τ} (member : commit ∈ state.shared.commits) :
    ∃ connection, state.sessions[commit.session]? = some connection := by
  have known := ((reachable.abstract guarded).executed (fun _ => trivial)
    (fun _ _ _ _ _ => trivial) fun _ _ _ _ _ => trivial).2 commit member
  rw [ReadCommitted.abstract, List.length_map] at known
  exact ⟨_, List.getElem?_eq_getElem known⟩

end

end Runs

/-! ## Statements outside of transactions

A client that does not open a transaction commits each statement on its own, and a
statement takes effect at once.  Such statements are transactions of one write that
locks everything, so what is known about guarded transactions holds for them.
-/

namespace Tx

/-- A writing statement on its own, with a result that is read from the store it
leaves. -/
def statement (allowed : σ → Bool) (change : σ → σ) (result : σ → α) : Tx σ Unit α :=
  .write [()] allowed change fun store => .commit (result store)

theorem run_statement_eq_some_iff {allowed : σ → Bool} {change : σ → σ} {result : σ → α}
    {store : σ} {outcome : σ × α} : (statement allowed change result).run store = some outcome ↔
      allowed store = true ∧ outcome = (change store, result (change store)) := by
  rw [statement, run_write_eq_some_iff, run_commit, Option.some.injEq, eq_comm (a := outcome)]

/-- Whoever has the lock on everything may do anything. -/
theorem guarded_of_locked (transaction : Tx σ Unit α) {held : List Unit} (locked : () ∈ held) :
    transaction.Guarded (fun _ : Unit => ⊥) held := by
  have unlocked (lock : Unit) (free : lock ∉ held) : False := free locked
  have same {left right : σ} (agree : Agree (fun _ : Unit => ⊥) held left right) : left = right :=
    agree () locked
  induction transaction generalizing held with
  | commit result => trivial
  | rollback => trivial
  | read rest ih =>
    refine ⟨?_, fun view => ih view locked unlocked same⟩
    intro left right agree
    rw [same agree]
  | write rows allowed change rest ih =>
    have stillLocked : () ∈ rows ++ held := List.mem_append_right _ locked
    refine ⟨fun lock free => absurd stillLocked free, ?_, ?_⟩
    · intro left right agree
      have equal : left = right := agree () stillLocked
      subst equal
      exact ⟨rfl, Agree.refl _ _, rfl⟩
    · intro view
      exact ih view stillLocked (fun lock free => free stillLocked) fun agree =>
        agree () stillLocked

/-- A transaction that begins with the lock on everything is guarded. -/
theorem guarded_write_all (allowed : σ → Bool) (change : σ → σ) (rest : σ → Tx σ Unit α) :
    (write [()] allowed change rest).Guarded (fun _ : Unit => ⊥) [] := by
  have locked : () ∈ [()] ++ ([] : List Unit) := List.mem_singleton_self _
  refine ⟨fun lock free => absurd locked free, ?_, fun view => guarded_of_locked _ locked⟩
  intro left right agree
  have same : left = right := agree () locked
  subst same
  exact ⟨rfl, Agree.refl _ _, rfl⟩

/-- A transaction that has everything to itself: it locks everything, and then does what
it does to the store it finds. -/
def atomic (effect : σ → Option (σ × α)) : Tx σ Unit α :=
  .write [()] (fun _ => true) id fun store =>
    match effect store with
    | some (after, result) => .write [()] (fun _ => true) (fun _ => after) fun _ => .commit result
    | none => .rollback

theorem run_atomic (effect : σ → Option (σ × α)) (store : σ) :
    (atomic effect).run store = effect store := by
  rw [atomic, run_write, if_pos rfl, id_eq]
  rcases effect store with _ | ⟨after, result⟩ <;> rfl

theorem guarded_atomic (effect : σ → Option (σ × α)) :
    (atomic effect).Guarded (fun _ : Unit => ⊥) [] :=
  guarded_write_all _ _ _

end Tx

end Csms.Database
