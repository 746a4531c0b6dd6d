import Csms.Database.Executed
import Mathlib.Data.List.Basic

/-!
# What a request still owes

Some writes are only half of what a request does: it has to follow them up.  A request
is dutiful when the follow-up is the very next thing after such a write.  Other sessions
can come in between, but when a request has been answered, its duties are done.
-/

namespace Csms.Database

variable {σ κ τ ε ι α ρ : Type} {β : τ → Type}

/-- After each transaction with a duty, the request goes on with it, and throws when
that fails. -/
inductive Request.Dutiful (duty : (label : τ) → β label → Option τ) :
    Request σ κ τ β ε α → Prop
  | answer (value : α) : Dutiful duty (.answer value)
  | throw (error : ε) : Dutiful duty (.throw error)
  | query (name : κ) (rest : σ → Request σ κ τ β ε α) :
      (∀ store, Dutiful duty (rest store)) → Dutiful duty (.query name rest)
  | transact (label : τ) (rest : Option (β label) → Request σ κ τ β ε α) :
      (∀ result, Dutiful duty (rest result)) →
      (∀ value next, duty label value = some next →
        ∃ more error, rest (some value) = .transact next more ∧ more none = .throw error) →
      Dutiful duty (.transact label rest)

section Programs

variable {duty : (label : τ) → β label → Option τ} {γ : Type}

theorem dutiful_pure (value : α) : (pure value : Request σ κ τ β ε α).Dutiful duty :=
  .answer value

/-- Reads, checks and transactions without a duty may come first. -/
theorem Request.Transacts.dutiful_bind {first : Request σ κ τ β ε α}
    {next : α → Request σ κ τ β ε γ}
    (transacts : first.Transacts fun label => ∀ value, duty label value = none)
    (onward : ∀ value, (next value).Dutiful duty) : (first >>= next).Dutiful duty := by
  induction transacts with
  | answer value => exact onward value
  | throw error => exact .throw error
  | query name rest _ ih => exact .query name _ ih
  | transact label rest isFree _ ih =>
    refine .transact label _ ih ?_
    intro value other isDuty
    rw [isFree value] at isDuty
    contradiction

theorem Request.Transacts.dutiful {request : Request σ κ τ β ε α}
    (transacts : request.Transacts fun label => ∀ value, duty label value = none) :
    request.Dutiful duty := by
  rw [← bind_pure request]
  exact transacts.dutiful_bind dutiful_pure

/-- A transaction followed by its duty. -/
theorem dutiful_commit_bind_commit {label : τ} {failure failure' : ε}
    {next : β label → τ} {more : (value : β label) → β (next value) → Request σ κ τ β ε γ}
    (isDuty : ∀ value, duty label value = some (next value))
    (free : ∀ value result, duty (next value) result = none)
    (onward : ∀ value result, (more value result).Dutiful duty) :
    (Request.commit label failure >>= fun value =>
      Request.commit (next value) failure' >>= more value).Dutiful duty := by
  refine .transact label _ ?_ ?_
  · rintro (_ | value)
    · exact .throw failure
    · exact (Request.transacts_commit failure' (free value)).dutiful_bind (onward value)
  · intro value other isOther
    rw [isDuty] at isOther
    cases isOther
    exact ⟨_, failure', rfl, rfl⟩

end Programs

variable {duty : (label : τ) → β label → Option τ}
  {effect : (label : τ) → σ → Option (σ × β label)} {program : ι → Request σ κ τ β ε ρ}
  {conditions : Conditions σ κ τ ι}

/-- Where a session is that has not done its duty yet. -/
inductive Owing (next : τ) : Option (Request σ κ τ β ε α) → Prop
  | stopped : Owing next none
  | failed (error : ε) : Owing next (some (.throw error))
  | due (more : Option (β next) → Request σ κ τ β ε α) (error : ε) :
      more none = .throw error → Owing next (some (.transact next more))

/-- What becomes of the duty of a commit: it is done later in the history, or its
session still owes it. -/
def System.Owes (system : System σ κ τ β ε ι ρ) (session : Nat) (next : τ)
    (later : List (Commit σ τ)) : Prop :=
  (∃ commit ∈ later, commit.session = session ∧ commit.label = next) ∨
    ∃ request arrived rest,
      system.sessions[session]? = some ⟨request, arrived, rest⟩ ∧ Owing next rest

/-- All commits with duties, and all sessions with what they still do. -/
structure System.KeepsDuties (duty : (label : τ) → β label → Option τ)
    (effect : (label : τ) → σ → Option (σ × β label)) (system : System σ κ τ β ε ι ρ) : Prop where
  owes : ∀ earlier commit later, system.shared.commits = earlier ++ commit :: later →
    ∀ result next, effect commit.label commit.before = some (commit.after, result) →
      duty commit.label result = some next → system.Owes commit.session next later
  dutiful : ∀ (id : Nat) (request : ι) (arrived : Nat) (rest : Request σ κ τ β ε ρ),
    system.sessions[id]? = some ⟨request, arrived, some rest⟩ → rest.Dutiful duty

section Steps

variable {system target : System σ κ τ β ε ι ρ} {session : Nat} {next : τ}
  {later : List (Commit σ τ)}

theorem System.Owes.moveOn (owes : system.Owes session next later) {shared : Shared σ τ}
    {id : Nat} {request : ι} {arrived : Nat} {before : Option (Request σ κ τ β ε ρ)}
    (found : system.sessions[id]? = some ⟨request, arrived, before⟩)
    {moved : Option (Request σ κ τ β ε ρ)} {more : List (Commit σ τ)}
    (onward : id = session → Owing next before →
      (∃ commit ∈ more, commit.session = session ∧ commit.label = next) ∨ Owing next moved) :
    System.Owes { shared, sessions := system.moveOn id moved } session next (later ++ more) := by
  rcases owes with ⟨commit, member, done⟩ | ⟨request', arrived', rest, same, owing⟩
  · exact Or.inl ⟨commit, List.mem_append_left _ member, done⟩
  · by_cases isIt : id = session
    · subst isIt
      rw [found] at same
      obtain ⟨rfl, rfl, rfl⟩ := same
      rcases onward rfl owing with ⟨commit, member, done⟩ | stillOwing
      · exact Or.inl ⟨commit, List.mem_append_right _ member, done⟩
      · exact Or.inr ⟨request, arrived, moved, getElem?_moveOn_self found moved, stillOwing⟩
    · right
      refine ⟨request', arrived', rest, ?_, owing⟩
      simpa [System.moveOn, List.getElem?_modify, isIt] using same

theorem System.Owes.step (owes : system.Owes session next later)
    (step : System.Step effect program conditions system target) :
    ∃ more, target.shared.commits = system.shared.commits ++ more ∧
      target.Owes session next (later ++ more) := by
  cases step with
  | arrive request allowed =>
    refine ⟨[], (List.append_nil _).symm, ?_⟩
    rw [List.append_nil]
    rcases owes with done | ⟨request, arrived, rest, found, owing⟩
    · exact Or.inl done
    · exact Or.inr ⟨request, arrived, rest,
        Transition.getElem?_append_singleton_eq_some_iff.mpr (Or.inl found), owing⟩
  | query id request arrived name rest found allowed =>
    refine ⟨[], (List.append_nil _).symm, owes.moveOn found ?_⟩
    intro _ owing
    cases owing
  | commit id request arrived label rest after result found allowed happens =>
    refine ⟨[_], Shared.commits_commit _ _ _ _, owes.moveOn found ?_⟩
    intro isIt owing
    left
    cases owing
    exact ⟨_, List.mem_singleton_self _, isIt, rfl⟩
  | abort id request arrived label rest found =>
    refine ⟨[], (List.append_nil _).symm, owes.moveOn found ?_⟩
    intro _ owing
    right
    cases owing with
    | due _ error fails =>
      rw [fails]
      exact .failed error
  | stop id =>
    refine ⟨[], (List.append_nil _).symm, ?_⟩
    rcases missing : system.sessions[id]? with _ | ⟨request, arrived, before⟩
    · have unmoved : system.moveOn id none = system.sessions := by
        apply List.ext_getElem?
        intro other
        rw [System.moveOn, List.getElem?_modify]
        by_cases isIt : id = other
        · subst isIt
          simp [missing]
        · simp [isIt]
      rw [List.append_nil, unmoved]
      exact owes
    · exact owes.moveOn missing fun _ _ => Or.inr .stopped

theorem System.KeepsDuties.dutiful_step (keeps : system.KeepsDuties duty effect)
    (programs : ∀ request, (program request).Dutiful duty)
    (step : System.Step effect program conditions system target) (id : Nat) (request : ι)
    (arrived : Nat) (rest : Request σ κ τ β ε ρ)
    (found : target.sessions[id]? = some ⟨request, arrived, some rest⟩) : rest.Dutiful duty := by
  cases step with
  | arrive added allowed =>
    rcases Transition.getElem?_append_singleton_eq_some_iff.mp found with old | ⟨_, new⟩
    · exact keeps.dutiful id request arrived rest old
    · cases new
      exact programs _
  | query other request' arrived' name onward isFound allowed =>
    rcases System.getElem?_moveOn found with ⟨_, stays⟩ | ⟨rfl, isRest, before, stored⟩
    · exact keeps.dutiful id request arrived rest stays
    · cases isRest
      cases keeps.dutiful _ _ _ _ isFound with
      | query _ _ onwards => exact onwards _
  | commit _ _ _ _ _ _ _ isFound | abort _ _ _ _ _ isFound =>
    rcases System.getElem?_moveOn found with ⟨_, stays⟩ | ⟨rfl, isRest, before, stored⟩
    · exact keeps.dutiful id request arrived rest stays
    · cases isRest
      cases keeps.dutiful _ _ _ _ isFound with
      | transact _ _ onwards _ => exact onwards _
  | stop other =>
    rcases System.getElem?_moveOn found with ⟨_, stays⟩ | ⟨rfl, isRest, before, stored⟩
    · exact keeps.dutiful id request arrived rest stays
    · contradiction

/-- A commit leaves its session owing its duty. -/
theorem System.KeepsDuties.owes_new (keeps : system.KeepsDuties duty effect) {id : Nat}
    {request : ι} {arrived : Nat} {label : τ} {rest : Option (β label) → Request σ κ τ β ε ρ}
    (found : system.sessions[id]? = some ⟨request, arrived, some (.transact label rest)⟩)
    {after : σ} {result : β label} (isDuty : duty label result = some next) : System.Owes
      { shared := system.shared.commit id label after
        sessions := system.moveOn id (some (rest (some result))) } id next [] := by
  cases keeps.dutiful _ _ _ _ found with
  | transact _ _ _ follows =>
    rcases follows result next isDuty with ⟨more, error, isNext, fails⟩
    refine Or.inr ⟨request, arrived, _, getElem?_moveOn_self found _, ?_⟩
    rw [isNext]
    exact .due more error fails

theorem append_singleton_eq_append_cons {log earlier later : List α} {new entry : α}
    (same : log ++ [new] = earlier ++ entry :: later) :
    (later = [] ∧ entry = new) ∨ ∃ rest, later = rest ++ [new] ∧ log = earlier ++ entry :: rest := by
  rcases List.eq_nil_or_concat' later with rfl | ⟨rest, last, rfl⟩
  · have isLast := List.append_inj_right' same rfl
    cases isLast
    exact Or.inl ⟨rfl, rfl⟩
  · rw [← List.cons_append, ← List.append_assoc] at same
    have isLast := List.append_inj_right' same rfl
    cases isLast
    exact Or.inr ⟨rest, rfl, List.append_inj_left' same rfl⟩

theorem System.KeepsDuties.step (keeps : system.KeepsDuties duty effect)
    (programs : ∀ request, (program request).Dutiful duty)
    (step : System.Step effect program conditions system target) :
    target.KeepsDuties duty effect := by
  refine ⟨?_, keeps.dutiful_step programs step⟩
  intro earlier commit later isCommit result next happened isDuty
  have old (rest : List (Commit σ τ)) (isOld : system.shared.commits = earlier ++ commit :: rest) :
      target.Owes commit.session next later := by
    have owes := keeps.owes earlier commit rest isOld result next happened isDuty
    rcases owes.step step with ⟨more, isMore, still⟩
    rw [isOld, isCommit, List.append_assoc, List.append_cancel_left_eq, List.cons_append,
      List.cons.injEq] at isMore
    rw [isMore.2]
    exact still
  cases step with
  | commit id request arrived label rest after value found allowed happens =>
    rw [Shared.commits_commit] at isCommit
    rcases append_singleton_eq_append_cons isCommit with ⟨rfl, rfl⟩ | ⟨rest, _, isOld⟩
    · have sameResult := happened.symm.trans happens
      cases sameResult
      exact keeps.owes_new found isDuty
    · exact old rest isOld
  | arrive | query | abort | stop => exact old later isCommit

end Steps

theorem System.Reachable.keepsDuties (programs : ∀ request, (program request).Dutiful duty)
    {store : σ} {system : System σ κ τ β ε ι ρ}
    (reachable : System.Reachable effect program conditions (System.initial store) system) :
    system.KeepsDuties duty effect := by
  induction reachable with
  | refl =>
    constructor
    · intro earlier commit later isCommit
      simp [System.initial, Shared.initial] at isCommit
    · intro id request arrived rest found
      simp [System.initial] at found
  | tail _ step ih => exact ih.step programs step

/-- The duty of a commit whose request was answered is done. -/
theorem System.KeepsDuties.done {system : System σ κ τ β ε ι ρ}
    (keeps : system.KeepsDuties duty effect) {earlier later : List (Commit σ τ)}
    {commit : Commit σ τ} (isCommit : system.shared.commits = earlier ++ commit :: later)
    {result : β commit.label} {next : τ}
    (happened : effect commit.label commit.before = some (commit.after, result))
    (isDuty : duty commit.label result = some next) {request : ι} {arrived : Nat} {value : ρ}
    (answered : system.sessions[commit.session]? = some ⟨request, arrived, some (.answer value)⟩) :
    ∃ other ∈ later, other.session = commit.session ∧ other.label = next := by
  rcases keeps.owes earlier commit later isCommit result next happened isDuty with
    done | ⟨request', arrived', rest, found, owing⟩
  · exact done
  · rw [answered] at found
    cases found
    cases owing

/-- A view of the store shows what it showed after a commit, or in the beginning, unless
a later commit has changed it. -/
def Shared.ShowsLast {γ : Type} (view : σ → γ) (store : σ) (shared : Shared σ τ) : Prop :=
  ((∀ commit ∈ shared.commits, view commit.after = view commit.before) →
      view shared.store = view store) ∧
    ∀ (earlier : List (Commit σ τ)) (commit : Commit σ τ) (later : List (Commit σ τ)),
      shared.commits = earlier ++ commit :: later →
        (∀ other ∈ later, view other.after = view other.before) →
          view shared.store = view commit.after

theorem System.Reachable.showsLast {γ : Type} (view : σ → γ) {store : σ}
    {system : System σ κ τ β ε ι ρ}
    (reachable : System.Reachable effect program conditions (System.initial store) system) :
    system.shared.ShowsLast view store := by
  apply reachable.shared_invariant fun shared => shared.ShowsLast view store
  · refine ⟨fun _ => rfl, ?_⟩
    intro earlier commit later isCommit
    simp [Shared.initial] at isCommit
  · rintro shared id label after result ⟨sinceStart, sinceCommit⟩ happens
    rw [Shared.ShowsLast, Shared.commits_commit, Shared.store_commit]
    constructor
    · intro unchanged
      rcases List.forall_mem_append.mp unchanged with ⟨old, new⟩
      exact (List.forall_mem_singleton.mp new).trans (sinceStart old)
    · intro earlier commit later isCommit unchanged
      rcases append_singleton_eq_append_cons isCommit with ⟨rfl, rfl⟩ | ⟨rest, rfl, isOld⟩
      · rfl
      · rcases List.forall_mem_append.mp unchanged with ⟨old, new⟩
        exact (List.forall_mem_singleton.mp new).trans (sinceCommit earlier commit rest isOld old)

theorem find?_reverse_eq_some_iff {log : List α} {property : α → Bool} {entry : α} :
    log.reverse.find? property = some entry ↔
      property entry = true ∧ ∃ earlier later, log = earlier ++ entry :: later ∧
        ∀ other ∈ later, property other = false := by
  rw [List.find?_eq_some_iff_append]
  constructor
  · rintro ⟨isEntry, later, earlier, reversed, others⟩
    refine ⟨isEntry, earlier.reverse, later.reverse, ?_, ?_⟩
    · rw [← List.reverse_reverse log, reversed]
      simp
    · intro other member
      simpa using others other (List.mem_reverse.mp member)
  · rintro ⟨isEntry, earlier, later, rfl, others⟩
    refine ⟨isEntry, later.reverse, earlier.reverse, by simp, ?_⟩
    intro other member
    simp [others other (List.mem_reverse.mp member)]

end Csms.Database
