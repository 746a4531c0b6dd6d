import Csms.Providers.Lifecycle

/-!
# When the relationships of a run are lawful

All commits of a run are lawful exactly when each statement finds the relationship as its request
has found it, and is entitled.  A request that is alone finds it so.
-/

namespace Csms.Providers

open Auth Database Js

variable {requirements : Requirements} {store : Store}

def PairsStay (first second : Store) : Prop :=
  ∀ id row, first.relationships.find? id = some row →
    ∃ later, second.relationships.find? id = some later ∧ later.toPair = row.toPair

theorem PairsStay.refl (store : Store) : PairsStay store store :=
  fun _ row found => ⟨row, found, rfl⟩

theorem PairsStay.trans (first second third : Store) (stay : PairsStay first second)
    (stayOn : PairsStay second third) : PairsStay first third := by
  intro id row found
  obtain ⟨later, isLater, same⟩ := stay id row found
  obtain ⟨last, isLast, sameLast⟩ := stayOn id later isLater
  exact ⟨last, isLast, sameLast.trans same⟩

theorem pairsStay_of_effect {write : RelationshipWrite} {after : Store}
    (happens : write.effect store = some (after, ())) : PairsStay store after := by
  intro id row found
  cases write with
  | create actor created =>
    obtain ⟨_, _, find⟩ := create_eq_some happens
    exact ⟨row, by rw [find, found, Option.some_or], rfl⟩
  | update actor before data now =>
    obtain ⟨_, _, find⟩ := update_eq_some happens
    refine ⟨_, by rw [find, found, Option.map_some], ?_⟩
    split <;> rfl
  | elsewhere change => exact ⟨row, elsewhere_eq_some happens ▸ found, rfl⟩

def AllChecked (shared : Shared Store RelationshipWrite) : Prop :=
  ∀ commit ∈ shared.commits, Checked commit.label commit.before

/-- The other requests leave relationships with their pairs. -/
def Stay (first second : Shared Store RelationshipWrite) : Prop :=
  PairsStay first.store second.store

/-- The request commits only what is checked, whatever others do. -/
abbrev KeepsChecked {α : Type} (call : RelationshipCall) (id : Nat)
    (program : RelationshipRequest α) : Prop :=
  program.Keeps (fun label => (RelationshipWrite.body label).run) Conditions.none AllChecked Stay
    call id

theorem checked_commit {shared : Shared Store RelationshipWrite} {id : Nat}
    {write : RelationshipWrite} {after : Store} {result : Unit} (all : AllChecked shared)
    (checked : Checked write shared.store)
    (happens : write.body.run shared.store = some (after, result)) :
    Stay shared (shared.commit id write after) ∧ AllChecked (shared.commit id write after) := by
  rw [RelationshipWrite.run_body] at happens
  refine ⟨pairsStay_of_effect happens, ?_⟩
  simp only [AllChecked, Shared.commits_commit, List.forall_mem_append,
    List.forall_mem_singleton]
  exact ⟨all, checked⟩

section Keeps

variable {call : RelationshipCall} {id : Nat} {α γ : Type}

theorem keepsChecked_of_transacts {program : RelationshipRequest α}
    (transacts : program.Transacts fun write => ∀ store, Checked write store) :
    KeepsChecked call id program :=
  transacts.keeps fun shared _ _ _ all checked _ happens =>
    checked_commit all (checked shared.store) happens

theorem keepsChecked_silent {program : RelationshipRequest α}
    (silent : program.Transacts fun _ => False) : KeepsChecked call id program :=
  keepsChecked_of_transacts (silent.imp fun _ impossible => impossible.elim)

theorem KeepsChecked.bind {first : RelationshipRequest α} {next : α → RelationshipRequest γ}
    (keeps : KeepsChecked call id first) (onward : ∀ value, KeepsChecked call id (next value)) :
    KeepsChecked call id (first >>= next) :=
  Request.Keeps.bind (fun shared => PairsStay.refl shared.store) keeps onward

/-- An update of the row that was found, accepted in its scope only. -/
def UpdatesFound (found : ProviderRelationship) (write : RelationshipWrite) : Prop :=
  ∃ actor data now, write = .update actor found data now ∧
    (data.status = some .docsPending →
      ActsForProvider actor found ∨ isOwnerRole actor.role = true)

theorem keepsChecked_findRelationship_bind {relationshipId : String}
    {rest : ProviderRelationship → RelationshipRequest Unit}
    (transacts : ∀ found, (rest found).Transacts (UpdatesFound found)) :
    KeepsChecked call id (findRelationship relationshipId >>= rest) := by
  intro origin _
  rw [findRelationship, bind_assoc]
  apply (meets_read_bind _ _ _).mpr
  intro later _ _ _
  apply meets_ofExcept_bind
  · intro found isFound
    have isThere : later.store.relationships.find? relationshipId = some found := by
      unfold orNotFound at isFound
      split at isFound
      · rename_i row isRow
        rw [isRow, Except.ok.inj isFound]
      · cases isFound
    obtain ⟨_, rfl⟩ := Table.find?_eq_some_iff.mp isThere
    refine (transacts found).meets_of_fact (fun shared => PairsStay later.store shared.store)
      (fun first second step stay => PairsStay.trans _ first.store second.store stay step) ?_
      (PairsStay.refl later.store)
    rintro shared _ after result stay all ⟨actor, data, now, rfl, inScope⟩ _ happens
    refine checked_commit all ⟨?_, inScope⟩ happens
    -- the row that was found is still one of its pair
    intro row isRow
    obtain ⟨current, isCurrent, samePair⟩ := stay found.id found isThere
    rwa [← Option.some.inj (isCurrent.symm.trans isRow)]
  · exact fun _ _ _ _ _ => trivial

end Keeps

section Transacts

variable {allowed : RelationshipWrite → Prop}

theorem transacts_getActor (userId : Option String) : (getActor userId).Transacts allowed := by
  unfold getActor
  split
  · exact .throw _
  · exact (transacts_read _ _).bind fun _ => transacts_ofExcept _

theorem transacts_ensureProviderApproved (providerId : String) :
    (ensureProviderApproved providerId).Transacts allowed :=
  (transacts_read _ _).bind fun _ =>
    (transacts_ofExcept _).bind fun _ => .ite (.throw _) (.answer _)

theorem transacts_assertProviderComplianceAccess (providerId : String) (actorId : Option String) :
    (assertProviderComplianceAccess providerId actorId).Transacts allowed := by
  refine (transacts_getActor actorId).bind fun actor => .ite (transacts_ofExcept _) ?_
  refine .ite ?_ (.ite (.throw _) (.answer _))
  split
  · exact .throw _
  · exact (transacts_read _ _).bind fun _ => .ite (.answer _) (.throw _)

theorem transacts_getProviderComplianceStatus (now : Int) (providerId : String)
    (actorId : Option String) :
    (getProviderComplianceStatus requirements now providerId actorId).Transacts allowed :=
  (transacts_assertProviderComplianceAccess providerId actorId).bind fun _ =>
    (transacts_read _ _).bind fun _ => (transacts_read _ _).bind fun _ =>
      (transacts_read _ _).bind fun _ => (transacts_ofExcept _).bind fun _ =>
        .answer _

theorem transacts_getRelationshipComplianceStatus (now : Int) (relationshipId : String)
    (actorId : Option String) :
    (getRelationshipComplianceStatus requirements now relationshipId actorId).Transacts allowed :=
  (transacts_getActor actorId).bind fun _ => (transacts_read _ _).bind fun _ =>
    (transacts_ofExcept _).bind fun _ => (transacts_ofExcept _).bind fun _ =>
      (transacts_read _ _).bind fun _ => (transacts_read _ _).bind fun _ =>
        (transacts_read _ _).bind fun _ => (transacts_ofExcept _).bind fun _ =>
          .answer _

end Transacts

theorem scope_of_access {actor : ProviderActor} {found : ProviderRelationship}
    (access : assertRelationshipScopedAccess actor found.toPair = .ok ()) :
    ActsForProvider actor found ∨ isOwnerRole actor.role = true := by
  unfold assertRelationshipScopedAccess at access
  split at access
  · exact Or.inl (Or.inl ‹_›)
  · split at access
    · rename_i own
      rw [Bool.and_eq_true, decide_eq_true_eq] at own
      exact Or.inl (Or.inr own)
    · split at access
      · rename_i own
        rw [Bool.and_eq_true] at own
        exact Or.inr own.1
      · cases access

theorem updatesFound_of_status {found : ProviderRelationship} {actor : ProviderActor}
    {data : RelationshipUpdate} {now : Int} (other : data.status ≠ some .docsPending) :
    UpdatesFound found (.update actor found data now) :=
  ⟨actor, data, now, rfl, fun same => absurd same other⟩

theorem keepsChecked_program (call : RelationshipCall) (id : Nat) :
    KeepsChecked call id (program requirements call) := by
  cases call with
  | request call data =>
    refine keepsChecked_of_transacts ?_
    refine (transacts_getActor _).bind fun actor => (transacts_ofExcept _).bind fun _ =>
      (transacts_ensureProviderApproved _).bind fun _ =>
        (transacts_read _ _).bind fun existing => ?_
    split
    · exact .throw _
    · exact Request.transacts_commit _ fun _ => rfl
  | respond call relationshipId accept notes =>
    refine (keepsChecked_silent (transacts_getActor _)).bind fun actor => ?_
    refine keepsChecked_findRelationship_bind fun found => ?_
    refine transacts_ofExcept_bind fun _ access => ?_
    refine (transacts_ofExcept _).bind fun _ => Request.transacts_commit _ ?_
    exact ⟨actor, _, _, rfl, fun _ => scope_of_access access⟩
  | updateProfile call relationshipId body =>
    refine (keepsChecked_silent (transacts_getActor _)).bind fun actor => ?_
    refine keepsChecked_findRelationship_bind fun found => ?_
    refine (transacts_ofExcept _).bind fun _ => Request.transacts_commit _ ?_
    exact updatesFound_of_status (by simp)
  | approve call relationshipId notes =>
    refine (keepsChecked_silent (transacts_getActor _)).bind fun actor => ?_
    refine (keepsChecked_silent (transacts_ofExcept _)).bind fun _ => ?_
    refine keepsChecked_findRelationship_bind fun found => ?_
    refine (transacts_ofExcept _).bind fun _ =>
      (transacts_getProviderComplianceStatus _ _ _).bind fun _ =>
        (transacts_getRelationshipComplianceStatus _ _ _).bind fun _ => .ite (.throw _) ?_
    exact Request.transacts_commit _ (updatesFound_of_status (by simp [statusUpdate]))
  | suspend call relationshipId reason =>
    refine (keepsChecked_silent (transacts_getActor _)).bind fun actor => ?_
    refine (keepsChecked_silent (transacts_ofExcept _)).bind fun _ => ?_
    refine keepsChecked_findRelationship_bind fun found => ?_
    refine (transacts_ofExcept _).bind fun _ => Request.transacts_commit _ ?_
    exact updatesFound_of_status (by simp [statusUpdate])
  | terminate call relationshipId reason =>
    refine (keepsChecked_silent (transacts_getActor _)).bind fun actor => ?_
    refine keepsChecked_findRelationship_bind fun found => ?_
    refine (transacts_ofExcept _).bind fun _ =>
      (transacts_ofExcept _).bind fun _ => Request.transacts_commit _ ?_
    exact updatesFound_of_status (by simp [statusUpdate])
  | elsewhere change =>
    exact keepsChecked_of_transacts (Request.transacts_commit _ fun _ => trivial)

variable {state : RelationshipState}

theorem allChecked_of_reachable (reachable : RelationshipState.Reachable requirements store state) :
    AllChecked state.shared := by
  refine reachable.keeps RelationshipWrite.guarded (fun shared => PairsStay.refl shared.store)
    (fun first second third => PairsStay.trans first.store second.store third.store)
    keepsChecked_program ?_
  intro commit member
  simp [Shared.initial] at member

/-- The laws of all commits, and what their statements need. -/
theorem lawful_iff_of_checked (oneOpen : OneOpen store)
    (reachable : RelationshipState.Reachable requirements store state) :
    (∀ commit ∈ state.shared.commits, Lawful requirements commit) ↔
      ∀ commit ∈ state.shared.commits, KeepsLaws requirements commit.label commit.before := by
  have inRun := reachable.shared_invariant RelationshipWrite.guarded
    (fun shared => AllChecked shared →
      ((∀ commit ∈ shared.commits, Lawful requirements commit) ↔
        ∀ commit ∈ shared.commits, KeepsLaws requirements commit.label commit.before) ∧
      ((∀ commit ∈ shared.commits, Lawful requirements commit) → OneOpen shared.store))
    (fun _ => ⟨by simp [Shared.initial], fun _ => oneOpen⟩) ?_
  · exact (inRun (allChecked_of_reachable reachable)).1
  · intro shared id write after result before happens all
    rw [RelationshipWrite.run_body] at happens
    simp only [AllChecked, Shared.commits_commit, List.forall_mem_append,
      List.forall_mem_singleton] at all
    obtain ⟨same, opens⟩ := before all.1
    simp only [Shared.commits_commit, List.forall_mem_append, List.forall_mem_singleton,
      Shared.store_commit]
    constructor
    · rw [← same]
      exact and_congr_right fun lawful => lawful_iff_keepsLaws (opens lawful) all.2 happens
    · rintro ⟨_, lawful⟩
      exact lawful.oneOpen

section Alone

variable {α : Type} {condition : RelationshipWrite → Store → Prop} {limit : Option Nat}

theorem commitsMeet_getActor_bind {userId : Option String}
    {next : ProviderActor → RelationshipRequest α}
    (onward : ∀ actor, (next actor).CommitsMeet RelationshipWrite.effect condition limit store) :
    (getActor userId >>= next).CommitsMeet RelationshipWrite.effect condition limit store := by
  unfold getActor
  split
  · trivial
  · rw [bind_assoc, commitsMeet_read_bind, commitsMeet_ofExcept_bind]
    exact fun actor _ => onward actor

theorem eq_some_of_orNotFound {found : Option α} {message : String} {value : α}
    (isFound : orNotFound found message = .ok value) : found = some value := by
  unfold orNotFound at isFound
  split at isFound
  · rw [Except.ok.inj isFound]
  · cases isFound

theorem eq_some_of_orInternal {found : Option α} {value : α}
    (isFound : orInternal found = .ok value) : found = some value := by
  unfold orInternal at isFound
  split at isFound
  · rw [Except.ok.inj isFound]
  · cases isFound

theorem commitsMeet_findRelationship_bind {id : String}
    {next : ProviderRelationship → RelationshipRequest α}
    (onward : ∀ found, store.relationships.find? id = some found →
      (next found).CommitsMeet RelationshipWrite.effect condition limit store) :
    (findRelationship id >>= next).CommitsMeet RelationshipWrite.effect condition limit store := by
  rw [findRelationship, bind_assoc, commitsMeet_read_bind,
    commitsMeet_ofExcept_bind]
  exact fun found isFound => onward found (eq_some_of_orNotFound isFound)

variable {providerId : String}

theorem commitsMeet_ensureProviderApproved_bind {next : Unit → RelationshipRequest α}
    (onward : (next ()).CommitsMeet RelationshipWrite.effect condition limit store) :
    (ensureProviderApproved providerId >>= next).CommitsMeet RelationshipWrite.effect condition
      limit store := by
  rw [ensureProviderApproved, bind_assoc, commitsMeet_read_bind, bind_assoc,
    commitsMeet_ofExcept_bind]
  intro provider _
  split
  · trivial
  · exact onward

variable {actorId : Option String}

theorem commitsMeet_assertProviderComplianceAccess_bind {next : Unit → RelationshipRequest α}
    (onward : (next ()).CommitsMeet RelationshipWrite.effect condition limit store) :
    (assertProviderComplianceAccess providerId actorId >>= next).CommitsMeet
      RelationshipWrite.effect condition limit store := by
  rw [assertProviderComplianceAccess, bind_assoc]
  refine commitsMeet_getActor_bind fun actor => ?_
  split
  · rw [commitsMeet_ofExcept_bind]
    exact fun _ _ => onward
  · split
    · split
      · trivial
      · rw [bind_assoc, commitsMeet_read_bind]
        split
        · exact onward
        · trivial
    · split
      · trivial
      · exact onward

theorem commitsMeet_getProviderComplianceStatus_bind {now : Int}
    {next : List String → RelationshipRequest α}
    (onward : ∀ provider, store.providers.find? providerId = some provider → (next (blockerReasonCodes requirements .provider now provider none (store.documentsOfProvider providerId) store.policyData)).CommitsMeet RelationshipWrite.effect condition limit store) :
    (getProviderComplianceStatus requirements now providerId actorId >>= next).CommitsMeet
      RelationshipWrite.effect condition limit store := by
  rw [getProviderComplianceStatus, bind_assoc]
  apply commitsMeet_assertProviderComplianceAccess_bind
  rw [bind_assoc, commitsMeet_read_bind, bind_assoc, commitsMeet_read_bind,
    bind_assoc, commitsMeet_read_bind, bind_assoc, commitsMeet_ofExcept_bind]
  exact fun provider isFound => onward provider (eq_some_of_orInternal isFound)

theorem commitsMeet_getRelationshipComplianceStatus_bind {now : Int} {relationshipId : String}
    {next : List String → RelationshipRequest α}
    (onward : ∀ row provider, store.relationships.find? relationshipId = some row → store.providers.find? row.providerId = some provider → (next (blockerReasonCodes requirements .stationOwner now provider (some (RelationshipProfile.ofRow row)) (store.documentsOfRelationship row) store.policyData)).CommitsMeet RelationshipWrite.effect condition limit store) :
    (getRelationshipComplianceStatus requirements now relationshipId actorId >>= next).CommitsMeet
      RelationshipWrite.effect condition limit store := by
  rw [getRelationshipComplianceStatus, bind_assoc]
  refine commitsMeet_getActor_bind fun actor => ?_
  rw [bind_assoc, commitsMeet_read_bind, bind_assoc, commitsMeet_ofExcept_bind]
  intro row isRow
  rw [bind_assoc, commitsMeet_ofExcept_bind]
  intro _ _
  rw [bind_assoc, commitsMeet_read_bind, bind_assoc, commitsMeet_read_bind,
    bind_assoc, commitsMeet_read_bind, bind_assoc, commitsMeet_ofExcept_bind]
  exact fun provider isFound =>
    onward row provider (eq_some_of_orInternal isRow) (eq_some_of_orInternal isFound)

end Alone

/-- A request that is alone finds everything as it is when it commits. -/
theorem undisturbed_alone (call : RelationshipCall) (limit : Option Nat) (store : Store) :
    (program requirements call).CommitsMeet RelationshipWrite.effect (Undisturbed requirements)
      limit store := by
  cases call with
  | request call data =>
    refine commitsMeet_getActor_bind fun actor => ?_
    rw [commitsMeet_ofExcept_bind]
    intro _ _
    apply commitsMeet_ensureProviderApproved_bind
    rw [commitsMeet_read_bind]
    split
    · trivial
    · rename_i noneOpen
      apply commitsMeet_commit
      intro other member samePair
      have notFound := List.find?_eq_none.mp noneOpen other member
      simpa [samePair] using notFound
  | respond call id accept notes =>
    refine commitsMeet_getActor_bind fun actor => ?_
    refine commitsMeet_findRelationship_bind fun found isFound => ?_
    rw [commitsMeet_ofExcept_bind]
    intro _ _
    rw [commitsMeet_ofExcept_bind]
    intro _ isRequested
    apply commitsMeet_commit
    have requested : found.status = .requested := by
      simpa [assertStatus] using isRequested
    obtain ⟨_, rfl⟩ := Table.find?_eq_some_iff.mp isFound
    intro status isStatus row isRow
    obtain rfl := Option.some.inj (isFound.symm.trans isRow)
    refine ⟨fun _ => by simp [ProviderRelationship.isOpen, requested], ?_⟩
    rintro rfl
    cases accept <;> simp [statusUpdate] at isStatus
  | updateProfile call id body =>
    refine commitsMeet_getActor_bind fun actor => ?_
    refine commitsMeet_findRelationship_bind fun found isFound => ?_
    rw [commitsMeet_ofExcept_bind]
    intro _ _
    apply commitsMeet_commit
    intro status isStatus
    simp at isStatus
  | approve call id notes =>
    refine commitsMeet_getActor_bind fun actor => ?_
    rw [commitsMeet_ofExcept_bind]
    intro _ _
    refine commitsMeet_findRelationship_bind fun found isFound => ?_
    rw [commitsMeet_ofExcept_bind]
    intro _ isApprovable
    refine commitsMeet_getProviderComplianceStatus_bind fun provider isProvider => ?_
    refine commitsMeet_getRelationshipComplianceStatus_bind fun row provider' isRow isOf => ?_
    obtain rfl := Option.some.inj (isFound.symm.trans isRow)
    obtain rfl := Option.some.inj (isProvider.symm.trans isOf)
    dsimp only
    split
    · trivial
    · rename_i noBlockers
      rw [ne_eq, not_not, List.append_eq_nil_iff] at noBlockers
      apply commitsMeet_commit
      obtain ⟨_, rfl⟩ := Table.find?_eq_some_iff.mp isFound
      intro status isStatus current isCurrent
      obtain rfl := Option.some.inj (isFound.symm.trans isCurrent)
      have isOpen : found.isOpen = true := by
        rcases statuses : found.status <;>
          simp [ProviderRelationship.isOpen, statuses, assertStatus] at isApprovable ⊢
      exact ⟨fun _ => isOpen, fun _ _ => ⟨provider, isProvider, noBlockers.1, noBlockers.2⟩⟩
  | suspend call id reason =>
    refine commitsMeet_getActor_bind fun actor => ?_
    rw [commitsMeet_ofExcept_bind]
    intro _ _
    refine commitsMeet_findRelationship_bind fun found isFound => ?_
    rw [commitsMeet_ofExcept_bind]
    intro _ isActive
    apply commitsMeet_commit
    have active : found.status = .active := by
      simpa [assertStatus] using isActive
    obtain ⟨_, rfl⟩ := Table.find?_eq_some_iff.mp isFound
    intro status isStatus row isRow
    obtain rfl := Option.some.inj (isFound.symm.trans isRow)
    exact ⟨fun _ => by simp [ProviderRelationship.isOpen, active],
      fun _ notActive => absurd active notActive⟩
  | terminate call id reason =>
    refine commitsMeet_getActor_bind fun actor => ?_
    refine commitsMeet_findRelationship_bind fun found isFound => ?_
    rw [commitsMeet_ofExcept_bind]
    intro _ _
    rw [commitsMeet_ofExcept_bind]
    intro _ _
    apply commitsMeet_commit
    intro status isStatus
    obtain rfl : ProviderRelationshipStatus.terminated = status := by
      simpa [statusUpdate] using isStatus
    exact fun _ _ => ⟨fun other => absurd rfl other, by rintro ⟨⟩⟩
  | elsewhere change => exact commitsMeet_commit _ _ trivial

/-- The commits of a run are lawful exactly when each statement finds things as its request has
found them and is entitled; those of a request that is alone find them so. -/
theorem lawful_iff (oneOpen : OneOpen store) {state : RelationshipState}
    (reachable : RelationshipState.Reachable requirements store state) :
    ((∀ commit ∈ state.shared.commits, Lawful requirements commit) ↔
        ∀ commit ∈ state.shared.commits, Undisturbed requirements commit.label commit.before ∧
            Entitled commit.label commit.before) ∧
      ∀ call limit other, (program requirements call).CommitsMeet RelationshipWrite.effect
        (Undisturbed requirements) limit other :=
  ⟨lawful_iff_of_checked oneOpen reachable, undisturbed_alone⟩

namespace Sample

def noRequirements : Requirements where
  listForScope _ := []
  number _ := .nan
  string _ := ""

def owner : ProviderActor :=
  ⟨"ann", .stationOwner, some "acme", none⟩

def swapProvider : SwapProvider where
  id := "swap"
  status := .approved
  standard := "Universal"
  countries := []
  regions := []
  region := ""
  batteriesSupported := []
  complianceMarkets := []
  complianceProfile := .null

def marketplace : Store where
  users := { rows := [owner], nodup := by decide }
  providers := { rows := [swapProvider], nodup := by decide }
  documents := []
  policy := none
  relationships := Table.empty

def requests (newId : String) : RelationshipCall :=
  .request ⟨some "ann", 1, newId⟩ ⟨"swap", "acme", none, none, none⟩

def alone : List (DatabaseEvent RelationshipCall) :=
  [.arrive (requests "first"), .query 0, .query 0, .query 0, .begin 0, .statement 0, .statement 0,
    .commit 0]

def overlapping : List (DatabaseEvent RelationshipCall) :=
  [.arrive (requests "first"), .arrive (requests "second"), .query 0, .query 0, .query 0,
    .query 1, .query 1, .query 1, .begin 0, .statement 0, .statement 0, .commit 0, .begin 1,
    .statement 1, .statement 1, .commit 1]

def acceptedByOwner : List (DatabaseEvent RelationshipCall) :=
  alone ++ [.arrive (.respond ⟨some "ann", 2, ""⟩ "first" true none), .query 1, .query 1, .begin 1,
    .statement 1, .statement 1, .commit 1]

def after (events : List (DatabaseEvent RelationshipCall)) : Option RelationshipState :=
  events.foldlM (ReadCommitted.next RelationshipWrite.body (program noRequirements)
    Conditions.none) (ReadCommitted.initial marketplace)

theorem oneOpen_marketplace : OneOpen marketplace := by
  intro first member
  simp [marketplace, Table.empty] at member

end Sample

open Sample

/-- Two requests that overlap leave two open relationships, and an owner brings its own request to
`DOCS_PENDING`. -/
theorem overlapping_leaves_two_open : OneOpen marketplace ∧
      (∃ state, RelationshipState.Reachable noRequirements marketplace state ∧
        ¬OneOpen state.shared.store) ∧
      ∃ state, RelationshipState.Reachable noRequirements marketplace state ∧
        state.shared.commits.map (fun commit => (commit.label.actor?,
            commit.after.relationships.rows.map ProviderRelationship.status)) =
          [(some owner, [.requested]), (some owner, [.docsPending])] ∧
        isOwnerRole owner.role = true := by
  have twoOpen : (after overlapping).map (fun state =>
      decide (MarkedOnce ProviderRelationship.id ProviderRelationship.isOpen
        ProviderRelationship.toPair state.shared.store.relationships.rows)) = some false := by
    decide +kernel
  have accepted : (after acceptedByOwner).map (fun state =>
      state.shared.commits.map (fun commit => (commit.label.actor?,
        commit.after.relationships.rows.map ProviderRelationship.status))) =
      some [(some owner, [.requested]), (some owner, [.docsPending])] := by
    decide +kernel
  obtain ⟨both, reachedBoth, isFalse⟩ := Option.map_eq_some_iff.mp twoOpen
  obtain ⟨own, reachedOwn, isCommits⟩ := Option.map_eq_some_iff.mp accepted
  have notOneOpen : ¬OneOpen both.shared.store := by
    simpa only [OneOpen] using of_decide_eq_false isFalse
  exact ⟨oneOpen_marketplace,
    ⟨both, Transition.reachable_of_foldlM reachedBoth, notOneOpen⟩,
    own, Transition.reachable_of_foldlM reachedOwn, isCommits, rfl⟩

theorem lawful_of_request_alone :
    ∃ state, RelationshipState.Reachable noRequirements marketplace state ∧
      state.shared.commits.length = 1 ∧
        ∀ commit ∈ state.shared.commits, Lawful noRequirements commit := by
  have run : (after alone).map (fun state => (state.shared.commits.length,
      state.shared.commits.all fun commit => commit.before.relationships.rows.isEmpty &&
        commit.label.now?.isNone)) = some (1, true) := by
    decide +kernel
  obtain ⟨state, reached, observed⟩ := Option.map_eq_some_iff.mp run
  obtain ⟨isOne, isFirst⟩ := Prod.mk.inj observed
  have reachable := Transition.reachable_of_foldlM reached
  refine ⟨state, reachable, isOne, (lawful_iff oneOpen_marketplace reachable).1.mpr ?_⟩
  intro commit member
  have first := List.all_eq_true.mp isFirst commit member
  rw [Bool.and_eq_true, List.isEmpty_iff] at first
  cases isWrite : commit.label with
  | create actor row =>
    refine ⟨?_, trivial⟩
    intro other otherMem
    simp [first.1] at otherMem
  | update actor found data now => simp [isWrite, RelationshipWrite.now?] at first
  | elsewhere change => exact ⟨trivial, trivial⟩

end Csms.Providers
