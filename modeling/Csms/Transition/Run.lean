import Mathlib.Data.List.Chain
import Mathlib.Logic.Relation

/-!
# Runs of deterministic and of guarded systems

A service that answers one request after another is a total step function on
its stored state; a concurrent object is a guarded one, where an event that is
not enabled has no successor.  This file packages the two inductions both need:
an invariant that every step preserves holds along every run, and a property
that each step preserves exactly under a condition on the state before it holds
along a run exactly when every step of the run meets that condition.
-/

namespace Csms.Transition

universe u v

section Total

variable {σ : Type u} {ε : Type v}

/-- The states a run visits, the starting state first. -/
def states (next : σ → ε → σ) (state : σ) : List ε → List σ
  | [] => [state]
  | event :: events => state :: states next (next state event) events

/-- The state a run ends in. -/
def final (next : σ → ε → σ) (state : σ) (events : List ε) : σ :=
  events.foldl next state

/-- Every event of the run meets `condition` in the state it is handled in. -/
def StepsMeet (next : σ → ε → σ) (condition : σ → ε → Prop) (state : σ) : List ε → Prop
  | [] => True
  | event :: events =>
    condition state event ∧ StepsMeet next condition (next state event) events

@[simp]
theorem states_nil (next : σ → ε → σ) (state : σ) : states next state [] = [state] :=
  rfl

@[simp]
theorem states_cons (next : σ → ε → σ) (state : σ) (event : ε) (events : List ε) :
    states next state (event :: events) = state :: states next (next state event) events :=
  rfl

theorem mem_states_self (next : σ → ε → σ) (state : σ) (events : List ε) :
    state ∈ states next state events := by
  cases events <;> simp

theorem final_mem_states (next : σ → ε → σ) (state : σ) (events : List ε) :
    final next state events ∈ states next state events := by
  induction events generalizing state with
  | nil => simp [final]
  | cons event events ih =>
    exact List.mem_cons_of_mem _ (ih (next state event))

theorem StepsMeet.imp {next : σ → ε → σ} {condition other : σ → ε → Prop}
    (implies : ∀ state event, condition state event → other state event) {state : σ}
    {events : List ε} (met : StepsMeet next condition state events) :
    StepsMeet next other state events := by
  induction events generalizing state with
  | nil => trivial
  | cons event events ih => exact ⟨implies state event met.1, ih met.2⟩

theorem stepsMeet_of_forall {next : σ → ε → σ} {condition : σ → ε → Prop}
    (always : ∀ state event, condition state event) (state : σ) (events : List ε) :
    StepsMeet next condition state events := by
  induction events generalizing state with
  | nil => trivial
  | cons event events ih => exact ⟨always state event, ih (next state event)⟩

theorem stepsMeet_congr {next : σ → ε → σ} {condition other : σ → ε → Prop}
    (agree : ∀ state event, condition state event ↔ other state event) (state : σ)
    (events : List ε) : StepsMeet next condition state events ↔ StepsMeet next other state events :=
  ⟨fun met => met.imp fun state event => (agree state event).mp,
    fun met => met.imp fun state event => (agree state event).mpr⟩

theorem stepsMeet_and {next : σ → ε → σ} {condition other : σ → ε → Prop} (state : σ)
    (events : List ε) :
    StepsMeet next (fun state event => condition state event ∧ other state event) state events ↔
      StepsMeet next condition state events ∧ StepsMeet next other state events := by
  induction events generalizing state with
  | nil => simp [StepsMeet]
  | cons event events ih =>
    unfold StepsMeet
    rw [ih]
    exact and_and_and_comm

theorem pairwise_states_of_stepsMeet {next : σ → ε → σ} {relation : σ → σ → Prop}
    (trans : ∀ first second third, relation first second → relation second third →
      relation first third) {state : σ} {events : List ε}
    (steps : StepsMeet next (fun state event => relation state (next state event)) state events) :
    (states next state events).Pairwise relation := by
  induction events generalizing state with
  | nil => exact List.pairwise_singleton relation state
  | cons event events ih =>
    obtain ⟨first, later⟩ := steps
    have rest := ih later
    rw [states_cons, List.pairwise_cons]
    refine ⟨?_, rest⟩
    intro reached member
    cases events with
    | nil =>
      rw [states_nil, List.mem_singleton] at member
      rwa [member]
    | cons second events =>
      rw [states_cons, List.pairwise_cons] at rest
      rw [states_cons] at member
      rcases List.mem_cons.mp member with rfl | further
      · exact first
      · exact trans _ _ _ first (rest.1 reached further)

/-- What holds between all states of a run holds between those of each step. -/
theorem stepsMeet_of_pairwise_states {next : σ → ε → σ} {relation : σ → σ → Prop} {state : σ}
    {events : List ε} (pairwise : (states next state events).Pairwise relation) :
    StepsMeet next (fun state event => relation state (next state event)) state events := by
  induction events generalizing state with
  | nil => trivial
  | cons event events ih =>
    rw [states_cons, List.pairwise_cons] at pairwise
    exact ⟨pairwise.1 _ (mem_states_self next _ events), ih pairwise.2⟩

theorem forall_mem_states {next : σ → ε → σ} {property : σ → Prop}
    (preserved : ∀ state event, property state → property (next state event))
    {state : σ} (initial : property state) (events : List ε) :
    ∀ reached ∈ states next state events, property reached := by
  induction events generalizing state with
  | nil => simpa using initial
  | cons event events ih =>
    intro reached member
    rcases List.mem_cons.mp member with rfl | member
    · exact initial
    · exact ih (preserved state event initial) reached member

/-- A property that each step preserves exactly when it meets `condition` holds
in every state of a run exactly when every step of the run meets it.  The
auxiliary invariant `sound` is what the steps keep in any case. -/
theorem forall_mem_states_iff_stepsMeet {next : σ → ε → σ} (sound : σ → Prop)
    {property : σ → Prop} {condition : σ → ε → Prop}
    (keeps : ∀ state event, sound state → sound (next state event))
    (exact : ∀ state event, sound state → property state →
      (property (next state event) ↔ condition state event))
    {state : σ} (isSound : sound state) (initial : property state) (events : List ε) :
    (∀ reached ∈ states next state events, property reached) ↔
      StepsMeet next condition state events := by
  induction events generalizing state with
  | nil => simpa [StepsMeet] using initial
  | cons event events ih =>
    have step := exact state event isSound initial
    simp only [states_cons, List.forall_mem_cons, StepsMeet, initial, true_and]
    constructor
    · intro later
      have first : property (next state event) :=
        later _ (mem_states_self next _ events)
      exact ⟨step.mp first, (ih (keeps state event isSound) first).mp later⟩
    · rintro ⟨first, later⟩
      exact (ih (keeps state event isSound) (step.mpr first)).mpr later

/-- Without an auxiliary invariant, and with the start as part of what is
characterised. -/
theorem forall_mem_states_iff {next : σ → ε → σ} {property : σ → Prop} {condition : σ → ε → Prop}
    (exact : ∀ state event, property state → (property (next state event) ↔ condition state event))
    (state : σ) (events : List ε) : (∀ reached ∈ states next state events, property reached) ↔
      property state ∧ StepsMeet next condition state events := by
  constructor
  · intro always
    have initial := always state (mem_states_self next state events)
    exact ⟨initial, (forall_mem_states_iff_stepsMeet (fun _ => True)
      (fun _ _ _ => trivial) (fun state event _ => exact state event) trivial initial
      events).mp always⟩
  · rintro ⟨initial, met⟩
    exact (forall_mem_states_iff_stepsMeet (fun _ => True)
      (fun _ _ _ => trivial) (fun state event _ => exact state event) trivial initial
      events).mpr met

end Total

theorem getElem?_append_singleton_eq_some_iff {α : Type u} {log : List α} {new found : α}
    {index : Nat} : (log ++ [new])[index]? = some found ↔
      log[index]? = some found ∨ index = log.length ∧ found = new := by
  rcases Nat.lt_trichotomy index log.length with old | rfl | beyond
  · rw [List.getElem?_append_left old]
    simp [Nat.ne_of_lt old]
  · simp [eq_comm]
  · rw [List.getElem?_eq_none (by simpa using Nat.succ_le_of_lt beyond),
      List.getElem?_eq_none (Nat.le_of_lt beyond)]
    simp [Nat.ne_of_gt beyond]

section Guarded

variable {σ : Type u} {ε : Type v}

/-- One enabled event leads from `source` to `target`. -/
def Step (next : σ → ε → Option σ) (source target : σ) : Prop :=
  ∃ event, next source event = some target

/-- Finitely many enabled events lead from `source` to `target`. -/
def Reachable (next : σ → ε → Option σ) : σ → σ → Prop :=
  Relation.ReflTransGen (Step next)

theorem Reachable.invariant {next : σ → ε → Option σ} {invariant : σ → Prop}
    (preserved : ∀ source event target, invariant source →
      next source event = some target → invariant target)
    {source target : σ} (initial : invariant source)
    (reachable : Reachable next source target) : invariant target := by
  induction reachable with
  | refl => exact initial
  | tail _ step ih =>
    obtain ⟨event, taken⟩ := step
    exact preserved _ event _ ih taken

theorem reachable_of_foldlM {next : σ → ε → Option σ} {source target : σ} {events : List ε}
    (run : events.foldlM next source = some target) : Reachable next source target := by
  induction events generalizing source with
  | nil =>
    obtain rfl := Option.some.inj run
    exact Relation.ReflTransGen.refl
  | cons event events ih =>
    rw [List.foldlM_cons] at run
    rcases Option.bind_eq_some_iff.mp run with ⟨middle, first, rest⟩
    exact Relation.ReflTransGen.head ⟨event, first⟩ (ih rest)

/-- However the allowed events follow one another, a state with `goal` is
reached, and they do not run out before. -/
inductive Inevitable (next : σ → ε → Option σ) (allowed : ε → Prop) (goal : σ → Prop) :
    σ → Prop
  | reached {state : σ} : goal state → Inevitable next allowed goal state
  | later {state : σ} :
      (∃ event target, allowed event ∧ next state event = some target) →
      (∀ event target, allowed event → next state event = some target →
        Inevitable next allowed goal target) →
      Inevitable next allowed goal state

/-- A goal is inevitable when some allowed event is enabled short of it, and
every allowed event keeps the invariant and decreases a measure. -/
theorem inevitable_of_measure {next : σ → ε → Option σ} {allowed : ε → Prop}
    {goal : σ → Prop} (invariant : σ → Prop) (measure : σ → Nat)
    (enabled : ∀ state, invariant state → ¬ goal state →
      ∃ event target, allowed event ∧ next state event = some target)
    (progress : ∀ source event target, invariant source → allowed event →
      next source event = some target → invariant target ∧ measure target < measure source)
    {state : σ} (initial : invariant state) : Inevitable next allowed goal state := by
  induction bound : measure state using Nat.strongRecOn generalizing state with
  | ind size ih =>
    by_cases done : goal state
    · exact .reached done
    · apply Inevitable.later (enabled state initial done)
      intro event target isAllowed step
      rcases progress state event target initial isAllowed step with ⟨kept, smaller⟩
      exact ih (measure target) (bound ▸ smaller) kept rfl

end Guarded

/-! ## Relations without cycles

A relation without cycles stays so when steps are taken away, and when the steps from one place
are redirected to a place from which it cannot be reached.  A path in it visits no place twice.
-/

variable {α : Type u} {step changed : α → α → Prop}

/-- No path leads back to where it starts. -/
def Acyclic (step : α → α → Prop) : Prop :=
  ∀ place, ¬Relation.TransGen step place place

theorem Acyclic.mono (acyclic : Acyclic step) (fewer : ∀ first second, changed first second →
    step first second) : Acyclic changed :=
  fun place cycle => acyclic place (Relation.TransGen.mono fewer _ _ cycle)

/-- Steps that lower a rank form no cycle. -/
theorem acyclic_of_rank (rank : α → Nat)
    (lowers : ∀ first second, step first second → rank second < rank first) : Acyclic step := by
  have below {first second : α} (path : Relation.TransGen step first second) :
      rank second < rank first := by
    induction path with
    | single one => exact lowers _ _ one
    | tail _ last ih => exact (lowers _ _ last).trans ih
  exact fun place cycle => lt_irrefl _ (below cycle)

section Redirect

variable {source target : α}
  (redirected : ∀ first second, changed first second →
    first = source ∧ second = target ∨ first ≠ source ∧ step first second)
include redirected

/-- Where the source cannot be reached from, the changed steps are the old ones. -/
theorem reflTransGen_of_redirected {first second : α}
    (apart : ¬Relation.ReflTransGen step first source)
    (path : Relation.ReflTransGen changed first second) :
    Relation.ReflTransGen step first second := by
  induction path with
  | refl => exact .refl
  | tail _ last ih =>
    rcases redirected _ _ last with ⟨rfl, _⟩ | ⟨_, isStep⟩
    · exact absurd ih apart
    · exact ih.tail isStep

theorem transGen_of_redirected {first second : α} (path : Relation.TransGen changed first second) :
    Relation.TransGen step first second ∨ Relation.ReflTransGen changed target second := by
  induction path with
  | single one =>
    rcases redirected _ _ one with ⟨_, rfl⟩ | ⟨_, isStep⟩
    · exact Or.inr .refl
    · exact Or.inl (.single isStep)
  | tail _ last ih =>
    rcases redirected _ _ last with ⟨_, rfl⟩ | ⟨_, isStep⟩
    · exact Or.inr .refl
    · rcases ih with old | onward
      · exact Or.inl (old.tail isStep)
      · exact Or.inr (onward.tail last)

theorem Acyclic.redirect (acyclic : Acyclic step)
    (apart : ¬Relation.ReflTransGen step target source) : Acyclic changed := by
  intro place cycle
  rcases transGen_of_redirected redirected cycle with old | fromTarget
  · exact acyclic place old
  · have reached := reflTransGen_of_redirected redirected apart fromTarget
    have apartHere : ¬Relation.ReflTransGen step place source := fun path =>
      apart (reached.trans path)
    obtain ⟨next, first, rest⟩ := Relation.TransGen.head'_iff.mp cycle
    rcases redirected _ _ first with ⟨rfl, _⟩ | ⟨_, isStep⟩
    · exact apartHere .refl
    · have apartNext : ¬Relation.ReflTransGen step next source := fun path =>
        apartHere (path.head isStep)
      exact acyclic place (Relation.TransGen.head'_iff.mpr
        ⟨next, isStep, reflTransGen_of_redirected redirected apartNext rest⟩)

end Redirect

theorem Acyclic.nodup (acyclic : Acyclic step) {path : List α} (isPath : path.IsChain step) :
    path.Nodup := by
  have ordered : path.Pairwise (Relation.TransGen step) :=
    (isPath.imp fun _ _ => Relation.TransGen.single).pairwise
  refine ordered.imp ?_
  rintro first second reaches rfl
  exact acyclic first reaches

end Csms.Transition
