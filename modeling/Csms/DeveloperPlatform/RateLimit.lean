import Csms.Database.Keeps
import Csms.DeveloperPlatform.Service

/-!
# The rate limit of a key

Requests are counted before the counts are summed up.  So the sum that a request reads has all
requests of its window that were counted before it, and itself; those that are admitted are among
the first ones, as many as the limit allows.
-/

namespace Csms.DeveloperPlatform

open Database

namespace UsageWrite

/-- The row in which a request is counted. -/
def countedKey : UsageWrite → Option UsageKey
  | countRequest key .. => some key
  | _ => none

/-- The row in which a request is counted as denied. -/
def deniedKey : UsageWrite → Option UsageKey
  | denyRequest key => some key
  | _ => none

def countsIn (apiKeyId : String) (windowStart : Int) (write : UsageWrite) : Bool :=
  write.countedKey.any fun key => key.apiKeyId = apiKeyId ∧ key.windowStart = windowStart

end UsageWrite

section Effects

variable {write : UsageWrite} {store after : Store}

section

variable (happens : write.effect store = some (after, ()))
include happens

theorem requestCountOf_of_effect (key : UsageKey) : after.requestCountOf key =
      store.requestCountOf key + if write.countedKey = some key then 1 else 0 := by
  cases write with
  | countRequest counted appId organizationId windowEnd =>
    cases happens
    rw [Store.requestCountOf, Table.find?_upsert]
    by_cases isKey : key = counted
    · subst isKey
      rw [if_pos rfl, UsageWrite.countedKey, if_pos rfl, Store.requestCountOf]
      cases store.usage.find? key <;> simp
    · rw [if_neg isKey, UsageWrite.countedKey,
        if_neg fun same => isKey (Option.some.inj same).symm]
      rfl
  | denyRequest denied =>
    obtain ⟨_, _, done⟩ := Option.map_eq_some_iff.mp happens
    cases done
    rw [Store.requestCountOf, Table.find?_updateWhere, Store.requestCountOf]
    cases store.usage.find? key with
    | none => rfl
    | some row =>
      by_cases isDenied : row.key = denied <;> simp [isDenied, UsageWrite.countedKey]
  | touchApiKey apiKeyId usedAt =>
    obtain ⟨_, _, done⟩ := Option.map_eq_some_iff.mp happens
    cases done
    rfl

theorem deniedCountOf_of_effect (key : UsageKey) : after.deniedCountOf key =
      store.deniedCountOf key + if write.deniedKey = some key then 1 else 0 := by
  cases write with
  | countRequest counted appId organizationId windowEnd =>
    cases happens
    rw [Store.deniedCountOf, Table.find?_upsert]
    by_cases isKey : key = counted
    · subst isKey
      rw [if_pos rfl, Store.deniedCountOf]
      cases store.usage.find? key <;> rfl
    · rw [if_neg isKey]
      rfl
  | denyRequest denied =>
    obtain ⟨_, isThere, done⟩ := Option.map_eq_some_iff.mp happens
    cases done
    rw [Store.deniedCountOf, Table.find?_updateWhere, Store.deniedCountOf]
    by_cases isKey : denied = key
    · subst isKey
      have sameKey := (Table.find?_eq_some_iff.mp isThere).2
      simp [isThere, sameKey, UsageWrite.deniedKey]
    · cases found : store.usage.find? key with
      | none => simp [UsageWrite.deniedKey, isKey]
      | some row =>
        have sameKey := (Table.find?_eq_some_iff.mp found).2
        simp [sameKey, UsageWrite.deniedKey, isKey, Ne.symm isKey]
  | touchApiKey apiKeyId usedAt =>
    obtain ⟨_, _, done⟩ := Option.map_eq_some_iff.mp happens
    cases done
    rfl

theorem requestsInWindow_of_effect (apiKeyId : String) (windowStart : Int) :
    after.requestsInWindow apiKeyId windowStart = store.requestsInWindow apiKeyId windowStart +
        if write.countsIn apiKeyId windowStart then 1 else 0 := by
  cases write with
  | countRequest key appId organizationId windowEnd =>
    cases happens
    rw [Store.requestsInWindow, Table.sum_upsert]
    · simp [UsageWrite.countsIn, UsageWrite.countedKey, Store.requestsInWindow]
    · rintro old sameKey
      simp only [sameKey]
      split <;> rfl
  | denyRequest denied =>
    obtain ⟨_, _, done⟩ := Option.map_eq_some_iff.mp happens
    cases done
    rw [Store.requestsInWindow, Table.map_updateWhere]
    · rfl
    · intro row
      rfl
  | touchApiKey usedId usedAt =>
    obtain ⟨_, _, done⟩ := Option.map_eq_some_iff.mp happens
    cases done
    rfl

theorem rateLimitOf?_of_effect (apiKeyId : String) :
    after.rateLimitOf? apiKeyId = store.rateLimitOf? apiKeyId := by
  cases write with
  | countRequest key appId organizationId windowEnd =>
    cases happens
    rfl
  | denyRequest denied =>
    obtain ⟨_, _, done⟩ := Option.map_eq_some_iff.mp happens
    cases done
    rfl
  | touchApiKey usedId usedAt =>
    obtain ⟨_, _, done⟩ := Option.map_eq_some_iff.mp happens
    cases done
    rw [Store.rateLimitOf?, Table.find?_updateWhere, Option.map_map, Store.rateLimitOf?]
    congr 1
    funext row
    by_cases isUsed : row.id = usedId <;> simp [isUsed]

end

end Effects

/-- The sessions whose requests were counted, in this order. -/
def sessionsIn (apiKeyId : String) (windowStart : Int) (shared : Shared Store UsageWrite) :
    List Nat :=
  (shared.commits.filter fun commit => commit.label.countsIn apiKeyId windowStart).map
    Commit.session

/-- What the counts are since the store. -/
structure Counted (store : Store) (shared : Shared Store UsageWrite) : Prop where
  requests : ∀ key, shared.store.requestCountOf key = store.requestCountOf key +
    shared.commits.countP fun commit => commit.label.countedKey = some key
  denied : ∀ key, shared.store.deniedCountOf key = store.deniedCountOf key +
    shared.commits.countP fun commit => commit.label.deniedKey = some key
  inWindow : ∀ apiKeyId windowStart,
    shared.store.requestsInWindow apiKeyId windowStart =
      store.requestsInWindow apiKeyId windowStart +
        (sessionsIn apiKeyId windowStart shared).length
  limits : ∀ apiKeyId, shared.store.rateLimitOf? apiKeyId = store.rateLimitOf? apiKeyId

def Grows (before after : Shared Store UsageWrite) : Prop :=
  before.commits.IsPrefix after.commits

section Runs

variable {store : Store} {shared later : Shared Store UsageWrite} {write : UsageWrite}
  {after : Store} {id : Nat} {apiKeyId : String} {windowStart : Int}

theorem sessionsIn_commit : sessionsIn apiKeyId windowStart (shared.commit id write after) =
      sessionsIn apiKeyId windowStart shared ++
        if write.countsIn apiKeyId windowStart then [id] else [] := by
  rw [sessionsIn, Shared.commits_commit, List.filter_append, List.map_append]
  by_cases counts : write.countsIn apiKeyId windowStart = true <;> simp [sessionsIn, counts]

theorem Counted.commit (counted : Counted store shared)
    (happens : write.effect shared.store = some (after, ())) :
    Counted store (shared.commit id write after) := by
  constructor
  · intro key
    rw [Shared.store_commit, requestCountOf_of_effect happens, counted.requests, Nat.add_assoc,
      Shared.commits_commit, List.countP_append, List.countP_singleton]
    simp
  · intro key
    rw [Shared.store_commit, deniedCountOf_of_effect happens, counted.denied, Nat.add_assoc,
      Shared.commits_commit, List.countP_append, List.countP_singleton]
    simp
  · intro apiKeyId windowStart
    rw [Shared.store_commit, requestsInWindow_of_effect happens, counted.inWindow, Nat.add_assoc,
      sessionsIn_commit, List.length_append]
    split <;> rfl
  · intro apiKeyId
    rw [Shared.store_commit, rateLimitOf?_of_effect happens, counted.limits]

theorem counted_initial (store : Store) : Counted store (Shared.initial store) := by
  constructor <;> intros <;> rfl

theorem grows_commit : Grows shared (shared.commit id write after) := by
  rw [Grows, Shared.commits_commit]
  exact List.prefix_append _ _

/-- The session is among those that the limit of the key allows in the window. -/
def IsAmongFirst (store : Store) (apiKeyId : String) (windowStart : Int) (id : Nat)
    (shared : Shared Store UsageWrite) : Prop :=
  ∃ limit, store.rateLimitOf? apiKeyId = some limit ∧
    id ∈ (sessionsIn apiKeyId windowStart shared).take limit.toNat

theorem sessionsIn_prefix_of_grows (grows : Grows shared later) :
    (sessionsIn apiKeyId windowStart shared).IsPrefix (sessionsIn apiKeyId windowStart later) := by
  obtain ⟨more, isMore⟩ := grows
  rw [sessionsIn, sessionsIn, ← isMore, List.filter_append, List.map_append]
  exact List.prefix_append _ _

theorem IsAmongFirst.mono (isAmong : IsAmongFirst store apiKeyId windowStart id shared)
    (grows : Grows shared later) : IsAmongFirst store apiKeyId windowStart id later := by
  obtain ⟨limit, isLimit, member⟩ := isAmong
  exact ⟨limit, isLimit, ((sessionsIn_prefix_of_grows grows).take _).subset member⟩

theorem isAmongFirst_of_sum {limit : Int} (counted : Counted store shared)
    (isLimit : store.rateLimitOf? apiKeyId = some limit)
    (member : id ∈ sessionsIn apiKeyId windowStart shared)
    (isBelow : ¬ limit < shared.store.requestsInWindow apiKeyId windowStart) :
    IsAmongFirst store apiKeyId windowStart id shared := by
  refine ⟨limit, isLimit, ?_⟩
  have isSum := counted.inWindow apiKeyId windowStart
  rwa [List.take_of_length_le (by omega)]

end Runs

section Requests

variable {hashSecret : String → String → String} {call : ApiKeyCall} {store : Store}
  {shared : Shared Store UsageWrite} {id : Nat}

theorem apiKeyOf?_of_checkApiKey {secret : String}
    {found : Option (DeveloperApiKey × DeveloperApp)} {apiKey : DeveloperApiKey}
    (isChecked : checkApiKey hashSecret secret found = .ok apiKey) :
    ∃ app, found = some (apiKey, app) := by
  rcases found with _ | ⟨stored, app⟩
  · contradiction
  · rw [checkApiKey] at isChecked
    split at isChecked
    · contradiction
    split at isChecked
    · contradiction
    split at isChecked
    · contradiction
    cases isChecked
    exact ⟨app, rfl⟩

theorem rateLimitOf?_of_apiKeyOf? {keyPrefix : String} {apiKey : DeveloperApiKey}
    {app : DeveloperApp} (found : store.apiKeyOf? keyPrefix = some (apiKey, app)) :
    store.rateLimitOf? apiKey.id = some apiKey.rateLimitPerMin := by
  obtain ⟨stored, isStored, found⟩ := Option.bind_eq_some_iff.mp found
  obtain ⟨_, _, done⟩ := Option.bind_eq_some_iff.mp found
  cases done
  rw [Store.rateLimitOf?,
    Table.find?_eq_some_iff.mpr ⟨List.mem_of_find?_eq_some isStored, rfl⟩, Option.map_some]

/-- A request that goes on is among those that the limit allows. -/
theorem meets_enforceRateLimit {apiKey : DeveloperApiKey}
    (isLimit : store.rateLimitOf? apiKey.id = some apiKey.rateLimitPerMin) :
    (enforceRateLimit call apiKey).Meets (fun write => write.body.run)
      (Conditions.none : Conditions Store UsageQuery UsageWrite ApiKeyCall) (Counted store) Grows
      call id (fun outcome later => ∀ value, outcome = .ok value →
        IsAmongFirst store apiKey.id (floorToMinute call.now) id later) shared := by
  refine (Request.meets_commit_bind _ _ _).mpr fun before _ counted => ⟨fun _ _ _ => nofun, ?_⟩
  intro _ after result happens
  rw [UsageWrite.run_body] at happens
  refine ⟨grows_commit, counted.commit happens, ?_⟩
  refine (meets_read_bind _ _ _).mpr fun summed grows countedThen _ => ?_
  refine meets_ite (fun _ => ?_) fun isBelow => ?_
  · refine (Request.meets_commit_bind _ _ _).mpr fun later _ counted => ⟨fun _ _ _ => nofun, ?_⟩
    intro _ after result happens
    rw [UsageWrite.run_body] at happens
    exact ⟨grows_commit, counted.commit happens, (meets_throw _).mpr fun _ _ _ => nofun⟩
  · have isCounted : id ∈ sessionsIn apiKey.id (floorToMinute call.now) summed := by
      refine (sessionsIn_prefix_of_grows grows).subset ?_
      rw [sessionsIn_commit]
      simp [UsageWrite.countsIn, UsageWrite.countedKey]
    refine (meets_pure _).mpr fun later growsOn _ _ _ => ?_
    exact (isAmongFirst_of_sum countedThen isLimit isCounted isBelow).mono growsOn

theorem meets_authenticateApiKey :
    (authenticateApiKey hashSecret call).Meets (fun write => write.body.run)
      (Conditions.none : Conditions Store UsageQuery UsageWrite ApiKeyCall) (Counted store) Grows
      call id (fun outcome later => ∀ context, outcome = .ok context →
        IsAmongFirst store context.apiKeyId (floorToMinute call.now) id later) shared := by
  refine meets_ofExcept_bind (fun parsed _ => ?_) fun _ _ _ _ _ => nofun
  refine (meets_read_bind _ _ _).mpr fun read _ counted _ => ?_
  refine meets_ofExcept_bind (fun apiKey isChecked => ?_) fun _ _ _ _ _ => nofun
  obtain ⟨app, isFound⟩ := apiKeyOf?_of_checkApiKey isChecked
  have isLimit : store.rateLimitOf? apiKey.id = some apiKey.rateLimitPerMin :=
    (counted.limits apiKey.id).symm.trans (rateLimitOf?_of_apiKeyOf? isFound)
  refine Request.Meets.bind (fun _ => List.prefix_rfl) (meets_enforceRateLimit isLimit) counted
    (fun _ later _ isAmong => ?_) fun _ _ _ => nofun
  refine (Request.meets_commit_bind _ _ _).mpr fun before grows counted =>
    ⟨fun _ _ _ => nofun, ?_⟩
  intro _ after result happens
  rw [UsageWrite.run_body] at happens
  refine ⟨grows_commit, counted.commit happens, (meets_pure _).mpr ?_⟩
  rintro last growsOn _ _ ⟨⟩
  exact (isAmong () rfl).mono (grows.trans (grows_commit.trans growsOn))

theorem unauthorized_of_parseApiKey {rawApiKey : String} {exception : ApiKeyException}
    (fails : parseApiKey rawApiKey = .error exception) :
    ∃ message, exception = .unauthorized message := by
  simp only [parseApiKey] at fails
  split at fails
  · cases fails
    exact ⟨_, rfl⟩
  split at fails
  · cases fails
    exact ⟨_, rfl⟩
  split at fails
  · cases fails
    exact ⟨_, rfl⟩
  · contradiction

theorem unauthorized_of_checkApiKey {secret : String}
    {found : Option (DeveloperApiKey × DeveloperApp)} {exception : ApiKeyException}
    (fails : checkApiKey hashSecret secret found = .error exception) :
    ∃ message, exception = .unauthorized message := by
  rcases found with _ | ⟨apiKey, app⟩
  · cases fails
    exact ⟨_, rfl⟩
  rw [checkApiKey] at fails
  split at fails
  · cases fails
    exact ⟨_, rfl⟩
  split at fails
  · cases fails
    exact ⟨_, rfl⟩
  split at fails
  · cases fails
    exact ⟨_, rfl⟩
  · contradiction

def ApiKeyCall.counting (call : ApiKeyCall) (apiKeyId appId organizationId : String) : UsageWrite :=
  .countRequest ⟨apiKeyId, call.route, call.method, floorToMinute call.now⟩ appId organizationId
    (floorToMinute call.now + 60000)

/-- How a request is counted that is admitted or denied. -/
theorem labels_of_executed {seen : Store → Prop} {labels : List UsageWrite}
    {last : UsageRequest DeveloperApiKeyContext}
    (executed : (authenticateApiKey hashSecret call).Executed seen labels last) :
    (∀ context, last = .answer context →
      labels = [call.counting context.apiKeyId context.appId context.organizationId,
        .touchApiKey context.apiKeyId call.usedAt]) ∧
    ∀ message, last = .throw (.tooManyRequests message) → ∃ apiKeyId appId organizationId,
      labels = [call.counting apiKeyId appId organizationId,
        .denyRequest ⟨apiKeyId, call.route, call.method, floorToMinute call.now⟩] := by
  simp only [authenticateApiKey, enforceRateLimit, bind_assoc] at executed
  rcases executed_ofExcept_bind executed with ⟨parsed, _, executed⟩ | ⟨_, fails, _, rfl⟩
  swap
  · obtain ⟨_, rfl⟩ := unauthorized_of_parseApiKey fails
    exact ⟨nofun, nofun⟩
  rcases executed_read_bind_iff.mp executed with ⟨_, rfl⟩ | ⟨read, _, executed⟩
  · exact ⟨nofun, nofun⟩
  rcases executed_ofExcept_bind executed with ⟨apiKey, _, executed⟩ | ⟨_, fails, _, rfl⟩
  swap
  · obtain ⟨_, rfl⟩ := unauthorized_of_checkApiKey fails
    exact ⟨nofun, nofun⟩
  rcases executed_commit_bind_iff.mp executed with
    ⟨_, rfl | rfl⟩ | ⟨_, _, rfl, counted⟩
  · exact ⟨nofun, nofun⟩
  · exact ⟨nofun, nofun⟩
  rcases executed_read_bind_iff.mp counted with ⟨_, rfl⟩ | ⟨_, _, summed⟩
  · exact ⟨nofun, nofun⟩
  split at summed
  · simp only [bind_assoc] at summed
    rcases executed_commit_bind_iff.mp summed with ⟨_, rfl | rfl⟩ | ⟨_, _, rfl, denied⟩
    · exact ⟨nofun, nofun⟩
    · exact ⟨nofun, nofun⟩
    obtain ⟨rfl, rfl⟩ := executed_throw_iff.mp denied
    exact ⟨nofun, fun _ _ => ⟨apiKey.id, apiKey.appId, apiKey.organizationId, rfl⟩⟩
  · rw [pure_bind] at summed
    rcases executed_commit_bind_iff.mp summed with ⟨_, rfl | rfl⟩ | ⟨_, _, rfl, touched⟩
    · exact ⟨nofun, nofun⟩
    · exact ⟨nofun, nofun⟩
    obtain ⟨rfl, rfl⟩ := executed_pure_iff.mp touched
    refine ⟨?_, nofun⟩
    rintro _ ⟨⟩
    rfl

end Requests

def UsageState.isAdmitted (state : UsageState) (apiKeyId : String) (windowStart : Int) (id : Nat) :
    Bool :=
  match state.sessions[id]? with
  | some ⟨call, _, .outside (.answer context)⟩ =>
    context.apiKeyId = apiKeyId && floorToMinute call.now = windowStart
  | _ => false

def UsageState.admitted (state : UsageState) (apiKeyId : String) (windowStart : Int) : List Nat :=
  (List.range state.sessions.length).filter fun id => state.isAdmitted apiKeyId windowStart id

/-- The limits are kept, every request that is admitted or denied has been counted once, and the
rows have these counts. -/
structure RateLimited (store : Store) (state : UsageState) : Prop where
  limited : ∀ apiKeyId windowStart limit, store.rateLimitOf? apiKeyId = some limit →
    (state.admitted apiKeyId windowStart).length ≤ limit.toNat
  known : ∀ apiKeyId windowStart, store.rateLimitOf? apiKeyId = none →
    state.admitted apiKeyId windowStart = []
  admitted : ∀ (id : Nat) call arrived context,
    state.sessions[id]? = some ⟨call, arrived, .outside (.answer context)⟩ →
      state.shared.labelsOf id =
        [call.counting context.apiKeyId context.appId context.organizationId,
          .touchApiKey context.apiKeyId call.usedAt]
  denied : ∀ (id : Nat) call arrived message,
    state.sessions[id]? = some ⟨call, arrived, .outside (.throw (.tooManyRequests message))⟩ →
      ∃ apiKeyId appId organizationId, state.shared.labelsOf id =
        [call.counting apiKeyId appId organizationId,
          .denyRequest ⟨apiKeyId, call.route, call.method, floorToMinute call.now⟩]
  counts : Counted store state.shared

section All

variable {hashSecret : String → String → String} {store : Store} {state : UsageState}

theorem mem_admitted {apiKeyId : String} {windowStart : Int} {id : Nat}
    (member : id ∈ state.admitted apiKeyId windowStart) : ∃ call arrived context,
      state.sessions[id]? = some ⟨call, arrived, .outside (.answer context)⟩ ∧
        context.apiKeyId = apiKeyId ∧ floorToMinute call.now = windowStart := by
  have isAdmitted := (List.mem_filter.mp member).2
  unfold UsageState.isAdmitted at isAdmitted
  split at isAdmitted
  · rename_i found
    rw [Bool.and_eq_true, decide_eq_true_eq, decide_eq_true_eq] at isAdmitted
    exact ⟨_, _, _, found, isAdmitted⟩
  · contradiction

end All

/-- In every run, from whatever there was in the database. -/
theorem rateLimited_of_reachable {hashSecret : String → String → String} {store : Store}
    {state : UsageState} (reachable : state.Reachable hashSecret store) :
    RateLimited store state := by
  let post (call : ApiKeyCall) (id _ : Nat)
      (outcome : Except ApiKeyException DeveloperApiKeyContext) (later : Shared Store UsageWrite) :
      Prop :=
    ∀ context, outcome = .ok context →
      IsAmongFirst store context.apiKeyId (floorToMinute call.now) id later
  obtain ⟨counted, each⟩ := ReadCommitted.Reachable.meets UsageWrite.guarded (Counted store) Grows
    post (fun _ => List.prefix_rfl) (fun _ _ _ => List.IsPrefix.trans) (counted_initial store)
    (fun _ _ _ _ _ => meets_authenticateApiKey) reachable
  have isAmong {apiKeyId : String} {windowStart : Int} {id : Nat}
      (member : id ∈ state.admitted apiKeyId windowStart) :
      IsAmongFirst store apiKeyId windowStart id state.shared := by
    obtain ⟨call, arrived, context, found, rfl, rfl⟩ := mem_admitted member
    exact each id call arrived context found context rfl
  have labels {id : Nat} {call : ApiKeyCall} {arrived : Nat}
      {last : UsageRequest DeveloperApiKeyContext}
      (found : state.sessions[id]? = some ⟨call, arrived, .outside last⟩) :
      ∃ seen, (authenticateApiKey hashSecret call).Executed seen (state.shared.labelsOf id) last := by
    obtain ⟨ended, executed, isEnded⟩ := ReadCommitted.Reachable.executed UsageWrite.guarded
      (fun _ => trivial) (fun _ _ _ _ _ => trivial) (fun _ _ _ _ _ => trivial) reachable found
    rw [isEnded last rfl] at executed
    exact ⟨_, executed⟩
  refine ⟨?_, ?_, ?_, ?_, counted⟩
  · intro apiKeyId windowStart limit isLimit
    have distinct : (state.admitted apiKeyId windowStart).Nodup := List.nodup_range.filter _
    have isFirst : state.admitted apiKeyId windowStart ⊆
        (sessionsIn apiKeyId windowStart state.shared).take limit.toNat := by
      intro id member
      obtain ⟨other, isOther, isFirst⟩ := isAmong member
      cases isLimit.symm.trans isOther
      exact isFirst
    exact (List.subperm_of_subset distinct isFirst).length_le.trans (List.length_take_le _ _)
  · intro apiKeyId windowStart unknown
    refine List.eq_nil_iff_forall_not_mem.mpr fun id member => ?_
    obtain ⟨limit, isLimit, _⟩ := isAmong member
    rw [unknown] at isLimit
    contradiction
  · intro id call arrived context found
    obtain ⟨seen, executed⟩ := labels found
    exact (labels_of_executed executed).1 context rfl
  · intro id call arrived message found
    obtain ⟨seen, executed⟩ := labels found
    exact (labels_of_executed executed).2 message rfl

namespace Sample

def hashSecret (secret _ : String) : String :=
  secret

def store : Store where
  apps := { rows := [⟨"app", "ACTIVE"⟩], nodup := by decide }
  apiKeys :=
    { rows := [⟨"key", "app", "acme", "evz_1", "secret", "salt", .null, 1, "ACTIVE", none⟩]
      nodup := by decide }
  usage := Table.empty

def call (route : String) : ApiKeyCall :=
  ⟨"evz_1.secret", route, "GET", 1000, 1001⟩

def writes (id : Nat) : List (DatabaseEvent ApiKeyCall) :=
  [.begin id, .statement id, .statement id, .commit id]

def concurrent : List (DatabaseEvent ApiKeyCall) :=
  [.arrive (call "/a"), .query 0] ++ writes 0 ++ [.query 0] ++
    [.arrive (call "/b"), .query 1] ++ writes 1 ++ [.query 1] ++ writes 0 ++ writes 1

def after (events : List (DatabaseEvent ApiKeyCall)) : Option UsageState :=
  events.foldlM (ReadCommitted.next UsageWrite.body (authenticateApiKey hashSecret)
    Conditions.none) (ReadCommitted.initial store)

end Sample

/-- One of two requests is admitted, and the other one is counted as denied. -/
theorem rateLimited_of_reachable_concurrent : ∃ state : UsageState, state.admitted "key" 0 = [0] ∧
      state.shared.store.deniedCountOf ⟨"key", "/b", "GET", 0⟩ = 1 ∧
      RateLimited Sample.store state := by
  have run : (Sample.after Sample.concurrent).map (fun state =>
      (state.admitted "key" 0, state.shared.store.deniedCountOf ⟨"key", "/b", "GET", 0⟩)) =
      some ([0], 1) := by decide +kernel
  obtain ⟨state, reached, observed⟩ := Option.map_eq_some_iff.mp run
  obtain ⟨isAdmitted, isDenied⟩ := Prod.mk.inj observed
  exact ⟨state, isAdmitted, isDenied,
    rateLimited_of_reachable (Transition.reachable_of_foldlM reached)⟩

end Csms.DeveloperPlatform
