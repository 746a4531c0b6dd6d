import Csms.Providers.Relationships

/-!
# The life of a relationship

What the relationships of a run should keep to, and when they do: a statement must find the
relationship as its request has found it, an owner must not accept a request of an owner, and the
provider must be approved when a relationship becomes active.
-/

namespace Csms.Providers

open Auth Database

variable {requirements : Requirements} {store after : Store}

/-- At most one relationship of a provider and an owner is not terminated. -/
def OneOpen (store : Store) : Prop :=
  MarkedOnce ProviderRelationship.id ProviderRelationship.isOpen ProviderRelationship.toPair
    store.relationships.rows

def ProviderApproved (providerId : String) (store : Store) : Prop :=
  ∃ provider, store.providers.find? providerId = some provider ∧ provider.status = .approved

/-- Neither evaluation of the relationship's compliance has blockers. -/
def NoBlockers (requirements : Requirements) (now : Int) (row : ProviderRelationship)
    (store : Store) : Prop :=
  ∃ provider, store.providers.find? row.providerId = some provider ∧
    blockerReasonCodes requirements .provider now provider none
        (store.documentsOfProvider row.providerId) store.policyData = [] ∧
      blockerReasonCodes requirements .stationOwner now provider
        (some (RelationshipProfile.ofRow row)) (store.documentsOfRelationship row)
        store.policyData = []

def RelationshipWrite.actor? : RelationshipWrite → Option ProviderActor
  | create actor _ => some actor
  | update actor _ _ _ => some actor
  | elsewhere _ => none

def RelationshipWrite.now? : RelationshipWrite → Option Int
  | update _ _ _ now => some now
  | _ => none

def ActsForProvider (actor : ProviderActor) (row : ProviderRelationship) : Prop :=
  isPlatformOps actor.role = true ∨
    isProviderRole actor.role = true ∧ actor.providerId = some row.providerId

/-- A commit that keeps to the laws of relationships. -/
structure Lawful (requirements : Requirements) (commit : Commit Store RelationshipWrite) :
    Prop where
  oneOpen : OneOpen commit.after
  created : ∀ id later, commit.before.relationships.find? id = none →
    commit.after.relationships.find? id = some later → later.status = .requested
  terminated : ∀ id row, commit.before.relationships.find? id = some row →
    row.status = .terminated →
      ∃ later, commit.after.relationships.find? id = some later ∧ later.status = .terminated
  accepted : ∀ id row later, commit.before.relationships.find? id = some row →
    commit.after.relationships.find? id = some later → row.status = .requested →
      later.status = .docsPending →
        ∃ actor, commit.label.actor? = some actor ∧ ActsForProvider actor row
  activated : ∀ id row later, commit.before.relationships.find? id = some row →
    commit.after.relationships.find? id = some later → row.status ≠ .active →
      later.status = .active →
        ∃ now, commit.label.now? = some now ∧ ProviderApproved row.providerId commit.before ∧
          NoBlockers requirements now row commit.before

/-- What the request has found is still so: there is no open relationship of the pair, the
relationship is not terminated, and nothing blocks it. -/
def Undisturbed (requirements : Requirements) (write : RelationshipWrite) (store : Store) : Prop :=
  match write with
  | .create _ row => ∀ other ∈ store.relationships.rows, other.toPair = row.toPair →
      other.isOpen = false
  | .update _ found data now => ∀ status, data.status = some status →
      ∀ row, store.relationships.find? found.id = some row →
        (status ≠ .terminated → row.isOpen = true) ∧
          (status = .active → row.status ≠ .active → NoBlockers requirements now row store)
  | .elsewhere _ => True

/-- What no request looks at: an owner does not accept, and an approval finds an approved
provider. -/
def Entitled (write : RelationshipWrite) (store : Store) : Prop :=
  match write with
  | .update actor found data _ => ∀ row, store.relationships.find? found.id = some row →
      (data.status = some .docsPending → row.status = .requested →
        isOwnerRole actor.role = false) ∧
      (data.status = some .active → row.status ≠ .active → ProviderApproved row.providerId store)
  | _ => True

/-- What is known of each commit: a new relationship is requested, and one is accepted within
its scope. -/
def Checked (write : RelationshipWrite) (store : Store) : Prop :=
  match write with
  | .create _ row => row.status = .requested
  | .update actor found data _ =>
    (∀ row, store.relationships.find? found.id = some row → row.toPair = found.toPair) ∧
      (data.status = some .docsPending →
        ActsForProvider actor found ∨ isOwnerRole actor.role = true)
  | .elsewhere _ => True

variable {actor : ProviderActor} {row : ProviderRelationship}

theorem not_owner_of_actsForProvider (acts : ActsForProvider actor row) :
    isOwnerRole actor.role = false := by
  have disjoint : ∀ role : UserRole, isPlatformOps role = true ∨ isProviderRole role = true →
      isOwnerRole role = false := by
    intro role
    cases role <;> decide
  exact disjoint actor.role (acts.imp_right And.left)

theorem actsForProvider_of_pair_eq {row found : ProviderRelationship}
    (same : row.toPair = found.toPair) (acts : ActsForProvider actor found) :
    ActsForProvider actor row := by
  have sameProvider : row.providerId = found.providerId := congrArg Pair.providerId same
  rwa [ActsForProvider, sameProvider]

theorem create_eq_some
    (happens : (RelationshipWrite.create actor row).effect store = some (after, ())) :
    store.relationships.find? row.id = none ∧
      after.relationships.rows = store.relationships.rows ++ [row] ∧
      ∀ id, after.relationships.find? id =
        (store.relationships.find? id).or (if row.id = id then some row else none) := by
  obtain ⟨relationships, inserted, same⟩ := Option.map_eq_some_iff.mp happens
  obtain ⟨fresh, rows⟩ := Table.insert?_eq_some_iff.mp inserted
  obtain rfl := congrArg Prod.fst same
  refine ⟨Table.find?_eq_none_iff.mpr fresh, rows, ?_⟩
  intro id
  change relationships.find? id = _
  rw [Table.find?, rows, List.find?_append]
  by_cases isNew : row.id = id <;> simp [Table.find?, isNew]

theorem update_eq_some {found : ProviderRelationship} {data : RelationshipUpdate} {now : Int}
    (happens : (RelationshipWrite.update actor found data now).effect store = some (after, ())) :
    (∃ row, store.relationships.find? found.id = some row) ∧
      after.relationships.rows = store.relationships.rows.map
        (fun row => if row.id = found.id then data.apply row else row) ∧
      ∀ id, after.relationships.find? id = (store.relationships.find? id).map
        fun row => if row.id = found.id then data.apply row else row := by
  obtain ⟨row, isThere, same⟩ := Option.map_eq_some_iff.mp happens
  obtain rfl := congrArg Prod.fst same
  refine ⟨⟨row, isThere⟩, ?_, ?_⟩
  · simp only [Table.rows_updateWhere, decide_eq_true_eq]
  · intro id
    rw [Table.find?_updateWhere]
    simp only [decide_eq_true_eq]

theorem elsewhere_eq_some {change : Surroundings → Surroundings}
    (happens : (RelationshipWrite.elsewhere change).effect store = some (after, ())) :
    after.relationships = store.relationships := by
  obtain rfl := congrArg Prod.fst (Option.some.inj happens)
  rfl

variable {session : Nat}

theorem lawful_create_iff (oneOpen : OneOpen store) (isRequested : row.status = .requested)
    (happens : (RelationshipWrite.create actor row).effect store = some (after, ())) :
    Lawful requirements ⟨session, .create actor row, store, after⟩ ↔
      Undisturbed requirements (.create actor row) store := by
  obtain ⟨free, rows, find⟩ := create_eq_some happens
  have isOpen : row.isOpen = true := by simp [ProviderRelationship.isOpen, isRequested]
  have keptRow {id : String} {old : ProviderRelationship}
      (found : store.relationships.find? id = some old) :
      after.relationships.find? id = some old := by
    rw [find, found, Option.some_or]
  have alone : OneOpen after ↔ Undisturbed requirements (.create actor row) store := by
    rw [OneOpen, rows, markedOnce_append_singleton_iff oneOpen]
    constructor
    · intro unique other member samePair
      by_contra otherOpen
      rw [Bool.not_eq_false] at otherOpen
      have sameId := unique isOpen other member otherOpen samePair
      exact Table.find?_eq_none_iff.mp free (sameId ▸ List.mem_map_of_mem member)
    · intro noneOpen _ other member otherOpen samePair
      simp [noneOpen other member samePair] at otherOpen
  refine ⟨fun lawful => alone.mp lawful.oneOpen, fun undisturbed => ⟨alone.mpr undisturbed, ?_, ?_,
    ?_, ?_⟩⟩
  · intro id later missing isLater
    rw [find, missing, Option.none_or] at isLater
    split at isLater
    · exact Option.some.inj isLater ▸ isRequested
    · cases isLater
  · intro id old found terminated
    exact ⟨old, keptRow found, terminated⟩
  · intro id old later found isLater requested pending
    obtain rfl := Option.some.inj ((keptRow found).symm.trans isLater)
    simp [requested] at pending
  · intro id old later found isLater notActive active
    obtain rfl := Option.some.inj ((keptRow found).symm.trans isLater)
    exact absurd active notActive

theorem lawful_elsewhere (oneOpen : OneOpen store) {change : Surroundings → Surroundings}
    (happens : (RelationshipWrite.elsewhere change).effect store = some (after, ())) :
    Lawful requirements ⟨session, .elsewhere change, store, after⟩ := by
  have same := elsewhere_eq_some happens
  refine ⟨?_, ?_, ?_, ?_, ?_⟩
  · change MarkedOnce _ _ _ after.relationships.rows
    rwa [same]
  · intro id later missing isLater
    rw [same, missing] at isLater
    cases isLater
  · intro id row found terminated
    exact ⟨row, same ▸ found, terminated⟩
  · intro id row later found isLater requested pending
    rw [same, found] at isLater
    obtain rfl := Option.some.inj isLater
    simp [requested] at pending
  · intro id row later found isLater notActive active
    rw [same, found] at isLater
    obtain rfl := Option.some.inj isLater
    exact absurd active notActive

theorem lawful_update_iff (oneOpen : OneOpen store) {found : ProviderRelationship}
    {data : RelationshipUpdate} {now : Int} (checked : Checked (.update actor found data now) store)
    (happens : (RelationshipWrite.update actor found data now).effect store = some (after, ())) :
    Lawful requirements ⟨session, .update actor found data now, store, after⟩ ↔
      Undisturbed requirements (.update actor found data now) store ∧
        Entitled (.update actor found data now) store := by
  obtain ⟨⟨row, isRow⟩, rows, find⟩ := update_eq_some happens
  obtain ⟨samePair, acceptedInScope⟩ := checked
  have rowId : row.id = found.id := (Table.find?_eq_some_iff.mp isRow).2
  have isUpdated : after.relationships.find? found.id = some (data.apply row) := by
    rw [find, isRow, Option.map_some, if_pos rowId]
  constructor
  · intro lawful
    refine ⟨?_, ?_⟩
    · intro status isStatus row' isRow'
      obtain rfl := Option.some.inj (isRow.symm.trans isRow')
      have isNext : (data.apply row).status = status := by
        simp [RelationshipUpdate.apply, isStatus]
      refine ⟨?_, ?_⟩
      · intro notTerminated
        by_contra closed
        have terminated : row.status = .terminated := by
          simpa [ProviderRelationship.isOpen] using closed
        obtain ⟨later, isLater, stays⟩ := lawful.terminated found.id row isRow terminated
        obtain rfl := Option.some.inj (isUpdated.symm.trans isLater)
        exact notTerminated (isNext.symm.trans stays)
      · rintro rfl notActive
        obtain ⟨_, isNow, _, none⟩ :=
          lawful.activated found.id row _ isRow isUpdated notActive isNext
        obtain rfl := Option.some.inj isNow
        exact none
    · intro row' isRow'
      obtain rfl := Option.some.inj (isRow.symm.trans isRow')
      refine ⟨?_, ?_⟩
      · intro accepts requested
        obtain ⟨_, isActor, acts⟩ := lawful.accepted found.id row _ isRow isUpdated requested
          (by simp [RelationshipUpdate.apply, accepts])
        obtain rfl := Option.some.inj isActor
        exact not_owner_of_actsForProvider acts
      · intro activates notActive
        obtain ⟨_, _, approved, _⟩ := lawful.activated found.id row _ isRow isUpdated notActive
          (by simp [RelationshipUpdate.apply, activates])
        exact approved
  · rintro ⟨undisturbed, entitled⟩
    have oneRow {id : String} {old later : ProviderRelationship}
        (isOld : store.relationships.find? id = some old)
        (isLater : after.relationships.find? id = some later) :
        later = old ∨ id = found.id ∧ old = row ∧ later = data.apply row := by
      rw [find, isOld, Option.map_some] at isLater
      split at isLater
      · rename_i isFound
        obtain rfl := (Table.find?_eq_some_iff.mp isOld).2
        rw [isFound] at isOld ⊢
        obtain rfl := Option.some.inj (isOld.symm.trans isRow)
        exact Or.inr ⟨rfl, rfl, (Option.some.inj isLater).symm⟩
      · exact Or.inl (Option.some.inj isLater).symm
    refine ⟨?_, ?_, ?_, ?_, ?_⟩
    · change MarkedOnce _ _ _ after.relationships.rows
      rw [rows]
      apply oneOpen.map_of_unmarks
      · intro row
        split <;> rfl
      · intro row
        split <;> rfl
      · intro other member isOpen
        split at isOpen
        · rename_i isFound
          have isOther : store.relationships.find? found.id = some other :=
            Table.find?_eq_some_iff.mpr ⟨member, isFound⟩
          cases isStatus : data.status with
          | none => simpa [ProviderRelationship.isOpen, RelationshipUpdate.apply, isStatus] using
              isOpen
          | some status =>
            apply (undisturbed status isStatus other isOther).1
            simpa [ProviderRelationship.isOpen, RelationshipUpdate.apply, isStatus] using isOpen
        · exact isOpen
    · intro id later missing isLater
      simp [find, missing] at isLater
    · intro id old isOld terminated
      obtain ⟨later, isLater⟩ : ∃ later, after.relationships.find? id = some later :=
        ⟨_, by rw [find, isOld, Option.map_some]⟩
      refine ⟨later, isLater, ?_⟩
      rcases oneRow isOld isLater with rfl | ⟨rfl, rfl, rfl⟩
      · exact terminated
      · -- an update that reopens the relationship would have disturbed it
        cases isStatus : data.status with
        | none => simpa [RelationshipUpdate.apply, isStatus] using terminated
        | some status =>
          by_contra revived
          have notTerminated : status ≠ .terminated := by
            simpa [RelationshipUpdate.apply, isStatus] using revived
          have isOpen := (undisturbed status isStatus old isOld).1 notTerminated
          simp [ProviderRelationship.isOpen, terminated] at isOpen
    · intro id old later isOld isLater requested pending
      rcases oneRow isOld isLater with rfl | ⟨rfl, rfl, rfl⟩
      · simp [requested] at pending
      · have accepts : data.status = some .docsPending := by
          cases isStatus : data.status with
          | none => simp [RelationshipUpdate.apply, isStatus, requested] at pending
          | some status => simpa [RelationshipUpdate.apply, isStatus] using pending
        refine ⟨actor, rfl, ?_⟩
        rcases acceptedInScope accepts with acts | isOwner
        · exact actsForProvider_of_pair_eq (samePair old isOld) acts
        · rw [(entitled old isOld).1 accepts requested] at isOwner
          cases isOwner
    · intro id old later isOld isLater notActive active
      rcases oneRow isOld isLater with rfl | ⟨rfl, rfl, rfl⟩
      · exact absurd active notActive
      · have activates : data.status = some .active := by
          cases isStatus : data.status with
          | none =>
            exact absurd (by simpa [RelationshipUpdate.apply, isStatus] using active) notActive
          | some status => simpa [RelationshipUpdate.apply, isStatus] using active
        exact ⟨now, rfl, (entitled old isOld).2 activates notActive,
          (undisturbed .active activates old isOld).2 rfl notActive⟩

/-- What the statement of a commit needs for it to be lawful. -/
def KeepsLaws (requirements : Requirements) (write : RelationshipWrite) (store : Store) : Prop :=
  Undisturbed requirements write store ∧ Entitled write store

theorem lawful_iff_keepsLaws (oneOpen : OneOpen store) {write : RelationshipWrite}
    (checked : Checked write store) (happens : write.effect store = some (after, ())) :
    Lawful requirements ⟨session, write, store, after⟩ ↔ KeepsLaws requirements write store := by
  cases write with
  | create actor row =>
    rw [lawful_create_iff oneOpen checked happens]
    exact (and_iff_left trivial).symm
  | update actor found data now => exact lawful_update_iff oneOpen checked happens
  | elsewhere change => exact iff_of_true (lawful_elsewhere oneOpen happens) ⟨trivial, trivial⟩

end Csms.Providers
