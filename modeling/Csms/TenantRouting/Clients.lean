import Csms.Js.Text
import Csms.Service.Program
import Csms.Table.Keyed
import Csms.Table.Newest
import Csms.Transition.Run

/-!
# Clients of tenants

The service resolves a routing hint to a target, and keeps a client for each key of a target.  A
target has a schema, but the client is made from its connection string alone: clients act on the
tables of their targets as long as these do not differ in their schemas only.
-/

namespace Csms.TenantRouting

open Js Service

structure ConnectionUrl where
  (protocol hostname : String)
  /-- User, port and path. -/
  rest : String
  searchParams : List (String × String)
deriving DecidableEq

namespace ConnectionUrl

def get (url : ConnectionUrl) (name : String) : Option String :=
  url.searchParams.lookup name

def delete (url : ConnectionUrl) (name : String) : ConnectionUrl :=
  { url with searchParams := url.searchParams.filter fun param => param.1 ≠ name }

/-- The first value is replaced, and the others are deleted. -/
def set (url : ConnectionUrl) (name value : String) : ConnectionUrl :=
  { url with searchParams := go url.searchParams }
where
  go : List (String × String) → List (String × String)
    | [] => [(name, value)]
    | param :: params =>
      if param.1 = name then (name, value) :: params.filter fun other => other.1 ≠ name
      else param :: go params

end ConnectionUrl

/-- A text, as `new URL(..)` takes it. -/
inductive ConnectionString
  | url (parsed : ConnectionUrl)
  | malformed (text : String)
deriving DecidableEq

/-- Where the pool of a connection string connects to, and the schema of an adapter that is not
given one. -/
structure Library (δ : Type) where
  database : ConnectionUrl → δ
  defaultSchema : String
  ignores_schema : ∀ url schema, database (url.set "schema" schema) = database url
  ignores_sslmode : ∀ url, database (url.delete "sslmode") = database url

inductive TenantRoutingTier
  | shared
  | schema
  | dedicatedDb
deriving DecidableEq

structure TenantRoutingHint where
  organizationId : Option String
  routingEnabled : Option Bool
  tier : Option TenantRoutingTier
  schema : Option String
deriving DecidableEq

inductive TenantRoutingSelection
  | shared
  | schema
  | dedicatedDb
deriving DecidableEq

structure TenantRoutingTarget where
  key : String
  selection : TenantRoutingSelection
  connectionString : ConnectionString
  (organizationId schema : Option String)

/-- An `Error` with its message. -/
structure RoutingError where
  message : String
deriving DecidableEq

/-- The environment of the process. -/
structure Environment where
  databaseUrl : ConnectionString
  getDedicatedDbUrlForOrganization : String → Option ConnectionString
  clientCacheMax : Nat
  (isProduction databaseTls rejectUnauthorized : Bool)
  caPath : Option String
  existsSync : String → Bool

section Routing

variable (environment : Environment)

def fail {α : Type} (message : String) : Except RoutingError α :=
  .error ⟨message⟩

/-- `/^[A-Za-z_][A-Za-z0-9_]*$/`. -/
def isSchemaName (text : String) : Bool :=
  text.toList.head?.any (fun c => c.isAlpha || c = '_') &&
    text.toList.all fun c => c.isAlphanum || c = '_'

def withSchema (baseUrl : ConnectionString) (schema : String) :
    Except RoutingError ConnectionString :=
  match baseUrl with
  | .url url => .ok (.url (url.set "schema" schema))
  | .malformed _ => fail "Invalid URL"

def sharedTarget : TenantRoutingTarget where
  key := "shared"
  selection := .shared
  connectionString := environment.databaseUrl
  organizationId := none
  schema := none

def resolveTarget (routing : Option TenantRoutingHint) : Except RoutingError TenantRoutingTarget :=
  match routing with
  | none => .ok (sharedTarget environment)
  | some routing =>
    match orText routing.organizationId none with
    | none => .ok (sharedTarget environment)
    | some organizationId =>
      if !routing.routingEnabled.getD false then .ok (sharedTarget environment)
      else
        match routing.tier.getD .shared with
        | .shared => .ok (sharedTarget environment)
        | .schema =>
          let schema := trim (routing.schema.getD "")
          if schema = "" then
            fail s!"Tenant schema is required for SCHEMA tier organization {organizationId}"
          else if !isSchemaName schema then
            fail ("Invalid tenant schema name \"" ++ schema ++ "\" for organization " ++
              organizationId)
          else do
            let connectionString ← withSchema environment.databaseUrl schema
            return {
              key := "schema:" ++ schema
              selection := .schema
              connectionString
              organizationId := some organizationId
              schema := some schema }
        | .dedicatedDb =>
          match environment.getDedicatedDbUrlForOrganization organizationId with
          | none =>
            fail ("Missing dedicated database URL mapping for organization " ++
              organizationId)
          | some dedicatedDbUrl =>
            .ok {
              key := "dedicated:" ++ organizationId
              selection := .dedicatedDb
              connectionString := dedicatedDbUrl
              organizationId := some organizationId
              schema := none }

structure Pool where
  connection : ConnectionUrl
  tls : Bool
  caPath : Option String
deriving DecidableEq

/-- A client on an adapter, with the schema that the adapter is given. -/
structure PrismaClient where
  pool : Pool
  adapterSchema : Option String
deriving DecidableEq

/-- The numbers of an IPv4 address; parts of one to three digits. -/
def ipv4Of (hostname : String) : Option (List Nat) :=
  let parts := hostname.toList.splitOn '.'
  if parts.length = 4 &&
      parts.all fun part => 1 ≤ part.length && part.length ≤ 3 && part.all Char.isDigit then
    some (parts.map fun part => part.foldl (fun value c => value * 10 + (c.toNat - '0'.toNat)) 0)
  else none

def isPrivateIp (hostname : String) : Bool :=
  match ipv4Of hostname with
  | some (a :: b :: _) =>
    a = 10 || (a = 172 && 16 ≤ b && b ≤ 31) || (a = 192 && b = 168)
  | _ => false

def validateDatabaseUrl (connectionString : ConnectionString) : Except RoutingError ConnectionUrl :=
  match connectionString with
  | .malformed _ => fail "Invalid database URL: Invalid URL"
  | .url parsedUrl =>
    if parsedUrl.protocol ≠ "postgresql:" && parsedUrl.protocol ≠ "postgres:" then
      fail ("Invalid database URL: " ++
        "Invalid database protocol. Only postgresql:// is allowed")
    else if ["localhost", "127.0.0.1", "::1"].contains parsedUrl.hostname &&
        environment.isProduction then
      fail ("Invalid database URL: " ++
        "Localhost database connections not allowed in production")
    else if isPrivateIp parsedUrl.hostname && environment.isProduction then
      fail "Invalid database URL: Private IP ranges not allowed in production"
    else .ok parsedUrl

def createClient (connectionString : ConnectionString) : Except RoutingError PrismaClient := do
  let urlObj ← validateDatabaseUrl environment connectionString
  let sslmode := toLowerCase ((urlObj.get "sslmode").getD "")
  let tlsEnabled :=
    environment.databaseTls || ["require", "verify-ca", "verify-full"].contains sslmode
  if tlsEnabled && !environment.rejectUnauthorized then
    fail "DATABASE_TLS_REJECT_UNAUTHORIZED=false is not allowed"
  match orText environment.caPath none with
  | some caPath =>
    if !environment.existsSync caPath then fail ("DATABASE_TLS_CA_PATH not found: " ++ caPath)
  | none => pure ()
  let pool : Pool :=
    { connection := urlObj.delete "sslmode"
      tls := tlsEnabled
      caPath := if tlsEnabled then orText environment.caPath none else none }
  return { pool, adapterSchema := none }

structure CachedClient where
  key : String
  selection : TenantRoutingSelection
  (organizationId schema : Option String)
  client : PrismaClient
  lastUsedAt : Int

def createCachedClient (target : TenantRoutingTarget) (now : Int) :
    Except RoutingError CachedClient := do
  let client ← createClient environment target.connectionString
  return {
    key := target.key
    selection := target.selection
    organizationId := target.organizationId
    schema := target.schema
    client
    lastUsedAt := now }

/-- The clients in the order in which they were made. -/
structure TenantPrismaRoutingService where
  sharedEntry : CachedClient
  clients : Table CachedClient CachedClient.key

def CachedClient.use (now : Int) (entry : CachedClient) : CachedClient :=
  { entry with lastUsedAt := now }

theorem CachedClient.key_use (now : Int) (entry : CachedClient) : (entry.use now).key = entry.key :=
  rfl

namespace TenantPrismaRoutingService

def start (now : Int) : Except RoutingError TenantPrismaRoutingService := do
  let sharedEntry ← createCachedClient environment (sharedTarget environment) now
  return { sharedEntry, clients := Table.empty }

variable (service : TenantPrismaRoutingService)

def evictIfNeeded : TenantPrismaRoutingService :=
  if service.clients.rows.length < environment.clientCacheMax then service
  else
    match oldestOf CachedClient.lastUsedAt service.clients.rows with
    | none => service
    | some oldest =>
      { service with clients := service.clients.deleteWhere fun entry => entry.key = oldest.key }

def getClientForRouting (routing : Option TenantRoutingHint) (now : Int) :
    TenantPrismaRoutingService × Except RoutingError PrismaClient :=
  match resolveTarget environment routing with
  | .error error => (service, .error error)
  | .ok target =>
    if target.selection = .shared then
      ({ service with sharedEntry := service.sharedEntry.use now },
        .ok service.sharedEntry.client)
    else
      match service.clients.find? target.key with
      | some cached =>
        ({ service with
          clients := service.clients.updateWhere (fun entry => entry.key = target.key)
            (CachedClient.use now) (CachedClient.key_use now) },
          .ok cached.client)
      | none =>
        let service := service.evictIfNeeded environment
        match createCachedClient environment target now with
        | .error error => (service, .error error)
        | .ok cached =>
          ({ service with clients := service.clients.insert cached }, .ok cached.client)

end TenantPrismaRoutingService

/-- A call with its time, or an eviction. -/
inductive RoutingEvent
  | getClient (routing : Option TenantRoutingHint) (now : Int)
  | evict

/-- The service and the clients that calls have got. -/
structure RoutingState where
  service : TenantPrismaRoutingService
  answers : List (Option TenantRoutingHint × PrismaClient)

def RoutingState.next (state : RoutingState) : RoutingEvent → RoutingState
  | .getClient routing now =>
    match state.service.getClientForRouting environment routing now with
    | (service, .ok client) => ⟨service, state.answers ++ [(routing, client)]⟩
    | (service, .error _) => { state with service }
  | .evict => { state with service := state.service.evictIfNeeded environment }

end Routing

section Tables

variable {δ : Type} (library : Library δ)

/-- The database and the schema in which a client acts. -/
def PrismaClient.tables (client : PrismaClient) : δ × String :=
  (library.database client.pool.connection, client.adapterSchema.getD library.defaultSchema)

def TenantRoutingTarget.database (target : TenantRoutingTarget) : Option δ :=
  match target.connectionString with
  | .url url => some (library.database url)
  | .malformed _ => none

def TenantRoutingTarget.tables (target : TenantRoutingTarget) : Option δ × String :=
  (target.database library, target.schema.getD library.defaultSchema)

/-- Clients act on the same tables exactly when their targets are the same. -/
def Isolated (environment : Environment)
    (first second : Option TenantRoutingHint × PrismaClient) : Prop :=
  ∀ one two, resolveTarget environment first.1 = .ok one →
    resolveTarget environment second.1 = .ok two →
      (first.2.tables library = second.2.tables library ↔ one.tables library = two.tables library)

/-- Targets in one database have one schema. -/
def SchemasAgree (environment : Environment)
    (first second : Option TenantRoutingHint × PrismaClient) : Prop :=
  ∀ one two, resolveTarget environment first.1 = .ok one →
    resolveTarget environment second.1 = .ok two →
      one.database library = two.database library →
        one.schema.getD library.defaultSchema = two.schema.getD library.defaultSchema

end Tables

variable {routing : Option TenantRoutingHint} {target : TenantRoutingTarget} {client : PrismaClient}

section Keeps

variable {environment : Environment}

theorem resolveTarget_eq_ok (resolved : resolveTarget environment routing = .ok target) :
    target = sharedTarget environment ∨ (∃ organizationId schema connectionString,
        withSchema environment.databaseUrl schema = .ok connectionString ∧
        target = ⟨"schema:" ++ schema, .schema, connectionString, some organizationId,
          some schema⟩) ∨ ∃ organizationId dedicatedDbUrl,
        environment.getDedicatedDbUrlForOrganization organizationId = some dedicatedDbUrl ∧
        target = ⟨"dedicated:" ++ organizationId, .dedicatedDb, dedicatedDbUrl,
          some organizationId, none⟩ := by
  unfold resolveTarget at resolved
  split at resolved
  · exact Or.inl (Except.ok.inj resolved).symm
  split at resolved
  · exact Or.inl (Except.ok.inj resolved).symm
  split at resolved
  · exact Or.inl (Except.ok.inj resolved).symm
  split at resolved
  · exact Or.inl (Except.ok.inj resolved).symm
  · dsimp only at resolved
    split at resolved
    · cases resolved
    split at resolved
    · cases resolved
    obtain ⟨connectionString, isSet, rest⟩ := bind_eq_ok_iff.mp resolved
    exact Or.inr (Or.inl ⟨_, _, connectionString, isSet, (Except.ok.inj rest).symm⟩)
  · split at resolved
    · cases resolved
    · rename_i dedicatedDbUrl isMapped
      exact Or.inr (Or.inr ⟨_, dedicatedDbUrl, isMapped, (Except.ok.inj resolved).symm⟩)

theorem connectionString_eq_of_key_eq {first second : Option TenantRoutingHint}
    {one two : TenantRoutingTarget} (isOne : resolveTarget environment first = .ok one)
    (isTwo : resolveTarget environment second = .ok two) (same : one.key = two.key) :
    one.connectionString = two.connectionString := by
  have start := congrArg (fun key => key.toList.take 3) same
  rcases resolveTarget_eq_ok isOne with
      rfl | ⟨_, schema, _, isSet, rfl⟩ | ⟨id, _, isMapped, rfl⟩ <;>
    rcases resolveTarget_eq_ok isTwo with
      rfl | ⟨_, schema', _, isSet', rfl⟩ | ⟨id', _, isMapped', rfl⟩
  · rfl
  · simp [sharedTarget] at start
  · simp [sharedTarget] at start
  · simp [sharedTarget] at start
  · have sameSchema : schema = schema' := by simpa using same
    rw [sameSchema, isSet'] at isSet
    exact (Except.ok.inj isSet).symm
  · simp at start
  · simp [sharedTarget] at start
  · simp at start
  · have sameId : id = id' := by simpa using same
    rw [sameId, isMapped'] at isMapped
    exact (Option.some.inj isMapped).symm

theorem createClient_eq_ok {connectionString : ConnectionString}
    (created : createClient environment connectionString = .ok client) :
    ∃ url, connectionString = .url url ∧ client.pool.connection = url.delete "sslmode" ∧
      client.adapterSchema = none := by
  obtain ⟨urlObj, isValid, rest⟩ := bind_eq_ok_iff.mp created
  have isUrl : connectionString = .url urlObj := by
    unfold validateDatabaseUrl at isValid
    split at isValid
    · cases isValid
    · split at isValid
      · cases isValid
      split at isValid
      · cases isValid
      split at isValid
      · cases isValid
      · rw [Except.ok.inj isValid]
  refine ⟨urlObj, isUrl, ?_⟩
  dsimp only at rest
  split at rest
  · cases rest
  · split at rest
    · split at rest
      · cases rest
      · obtain rfl := Except.ok.inj rest
        exact ⟨rfl, rfl⟩
    · obtain rfl := Except.ok.inj rest
      exact ⟨rfl, rfl⟩

theorem createCachedClient_eq_ok {now : Int} {cached : CachedClient}
    (created : createCachedClient environment target now = .ok cached) : cached.key = target.key ∧
      createClient environment target.connectionString = .ok cached.client := by
  obtain ⟨client, isClient, rest⟩ := bind_eq_ok_iff.mp created
  obtain rfl := Except.ok.inj rest
  exact ⟨rfl, isClient⟩

/-- The client is one for the target of the hint. -/
def IsFor (environment : Environment) (routing : Option TenantRoutingHint)
    (client : PrismaClient) : Prop :=
  ∃ target, resolveTarget environment routing = .ok target ∧
    createClient environment target.connectionString = .ok client

/-- Every client has been made for a target under its key, and each call has got one for its
hint. -/
structure Sound (environment : Environment) (state : RoutingState) : Prop where
  shared : createClient environment environment.databaseUrl = .ok state.service.sharedEntry.client
  cached : ∀ entry ∈ state.service.clients.rows, ∃ routing target,
    resolveTarget environment routing = .ok target ∧ target.key = entry.key ∧
      createClient environment target.connectionString = .ok entry.client
  answered : ∀ answer ∈ state.answers, IsFor environment answer.1 answer.2

section Steps

variable {state : RoutingState}

section

variable (sound : Sound environment state)
include sound

theorem Sound.evict :
    Sound environment { state with service := state.service.evictIfNeeded environment } := by
  unfold TenantPrismaRoutingService.evictIfNeeded
  split
  · exact sound
  · split
    · exact sound
    · refine ⟨sound.shared, fun entry member => ?_, sound.answered⟩
      exact sound.cached entry (List.mem_filter.mp member).1

theorem Sound.answer (isFor : IsFor environment routing client) :
    Sound environment { state with answers := state.answers ++ [(routing, client)] } := by
  refine ⟨sound.shared, sound.cached, ?_⟩
  simp only [List.forall_mem_append, List.forall_mem_singleton]
  exact ⟨sound.answered, isFor⟩

/-- A client that is used is still there, and a new one is added. -/
theorem Sound.keep {service : TenantPrismaRoutingService}
    (shared : service.sharedEntry.client = state.service.sharedEntry.client)
    (clients : ∀ entry ∈ service.clients.rows, (∃ old ∈ state.service.clients.rows, old.key = entry.key ∧ old.client = entry.client) ∨ ∃ routing target, resolveTarget environment routing = .ok target ∧ target.key = entry.key ∧ createClient environment target.connectionString = .ok entry.client) :
    Sound environment { state with service } := by
  refine ⟨shared ▸ sound.shared, fun entry member => ?_, sound.answered⟩
  rcases clients entry member with ⟨old, isOld, sameKey, sameClient⟩ | isNew
  · rw [← sameKey, ← sameClient]
    exact sound.cached old isOld
  · exact isNew

theorem Sound.getClientForRouting (routing : Option TenantRoutingHint) (now : Int) :
    Sound environment { state with
        service := (state.service.getClientForRouting environment routing now).1 } ∧
      ∀ client, (state.service.getClientForRouting environment routing now).2 = .ok client →
        IsFor environment routing client := by
  unfold TenantPrismaRoutingService.getClientForRouting
  split
  · exact ⟨sound, by rintro _ ⟨⟩⟩
  · rename_i target isTarget
    split
    · rename_i isShared
      refine ⟨sound.keep rfl fun entry member => Or.inl ⟨entry, member, rfl, rfl⟩, ?_⟩
      rintro client ⟨⟩
      have isSharedTarget : target = sharedTarget environment := by
        rcases resolveTarget_eq_ok isTarget with same | ⟨_, _, _, _, rfl⟩ | ⟨_, _, _, rfl⟩
        · exact same
        · contradiction
        · contradiction
      exact ⟨target, isTarget, isSharedTarget ▸ sound.shared⟩
    · split
      · rename_i cached isCached
        obtain ⟨member, isKey⟩ := Table.find?_eq_some_iff.mp isCached
        refine ⟨sound.keep rfl fun entry isEntry => Or.inl ?_, ?_⟩
        · rw [Table.mem_updateWhere] at isEntry
          obtain ⟨old, isOld, ⟨_, rfl⟩ | ⟨_, rfl⟩⟩ := isEntry
          · exact ⟨old, isOld, rfl, rfl⟩
          · exact ⟨entry, isOld, rfl, rfl⟩
        · rintro client ⟨⟩
          obtain ⟨other, made, isMade, sameKey, created⟩ := sound.cached cached member
          rw [connectionString_eq_of_key_eq isMade isTarget (sameKey.trans isKey)] at created
          exact ⟨target, isTarget, created⟩
      · dsimp only
        split
        · exact ⟨sound.evict, by rintro _ ⟨⟩⟩
        · rename_i cached isCreated
          obtain ⟨isKey, created⟩ := createCachedClient_eq_ok isCreated
          refine ⟨sound.evict.keep rfl fun entry isEntry => ?_, ?_⟩
          · rcases Table.mem_insert isEntry with isOld | rfl
            · exact Or.inl ⟨entry, isOld, rfl, rfl⟩
            · exact Or.inr ⟨routing, target, isTarget, isKey.symm, created⟩
          · rintro client ⟨⟩
            exact ⟨target, isTarget, created⟩

theorem Sound.next (event : RoutingEvent) : Sound environment (state.next environment event) := by
  cases event with
  | getClient routing now =>
    obtain ⟨kept, isFor⟩ := sound.getClientForRouting routing now
    rw [RoutingState.next]
    split
    · rename_i service client isAnswer
      rw [isAnswer] at kept isFor
      exact kept.answer (isFor client rfl)
    · rename_i service error isAnswer
      rw [isAnswer] at kept
      exact kept
  | evict => exact sound.evict

end

end Steps

end Keeps

/-- A service that has started, and then any calls and evictions. -/
def runOf (environment : Environment) (service : TenantPrismaRoutingService)
    (events : List RoutingEvent) : RoutingState :=
  Transition.final (RoutingState.next environment) ⟨service, []⟩ events

theorem sound_runOf {environment : Environment} {service : TenantPrismaRoutingService} {now : Int}
    (started : TenantPrismaRoutingService.start environment now = .ok service)
    (events : List RoutingEvent) : Sound environment (runOf environment service events) := by
  have initially : Sound environment ⟨service, []⟩ := by
    obtain ⟨sharedEntry, isCreated, rest⟩ := bind_eq_ok_iff.mp started
    obtain rfl := Except.ok.inj rest
    exact ⟨(createCachedClient_eq_ok isCreated).2, nofun, nofun⟩
  exact Transition.forall_mem_states (fun _ event sound => sound.next event) initially events _
    (Transition.final_mem_states _ _ events)

/-- A client acts in the database of its target, and in the default schema. -/
theorem tables_of_isFor {δ : Type} (library : Library δ) {environment : Environment}
    (isFor : IsFor environment routing client)
    (isTarget : resolveTarget environment routing = .ok target) :
    target.database library = some (client.tables library).1 ∧
      (client.tables library).2 = library.defaultSchema := by
  obtain ⟨made, isMade, created⟩ := isFor
  obtain rfl := Except.ok.inj (isTarget.symm.trans isMade)
  obtain ⟨url, isUrl, isConnection, noSchema⟩ := createClient_eq_ok created
  rw [TenantRoutingTarget.database, isUrl, PrismaClient.tables, isConnection, noSchema,
    library.ignores_sslmode]
  exact ⟨rfl, rfl⟩

/-- In every run, the clients of two calls are isolated exactly when the targets of the calls do
not differ in their schemas only. -/
theorem isolated_iff {δ : Type} (library : Library δ) {environment : Environment}
    {service : TenantPrismaRoutingService} {now : Int}
    (started : TenantPrismaRoutingService.start environment now = .ok service)
    (events : List RoutingEvent) : ∀ first ∈ (runOf environment service events).answers,
      ∀ second ∈ (runOf environment service events).answers,
        (Isolated library environment first second ↔
          SchemasAgree library environment first second) := by
  intro first isFirst second isSecond
  have sound := sound_runOf started events
  have firstFor := sound.answered first isFirst
  have secondFor := sound.answered second isSecond
  have same (one two : TenantRoutingTarget) (isOne : resolveTarget environment first.1 = .ok one)
      (isTwo : resolveTarget environment second.1 = .ok two) :
      first.2.tables library = second.2.tables library ↔
        one.database library = two.database library := by
    obtain ⟨oneDatabase, oneSchema⟩ := tables_of_isFor library firstFor isOne
    obtain ⟨twoDatabase, twoSchema⟩ := tables_of_isFor library secondFor isTwo
    rw [Prod.ext_iff, oneSchema, twoSchema, and_iff_left rfl, oneDatabase, twoDatabase,
      Option.some.injEq]
  refine forall₄_congr fun one two isOne isTwo => ?_
  rw [same one two isOne isTwo, TenantRoutingTarget.tables, TenantRoutingTarget.tables,
    Prod.mk.injEq]
  exact ⟨fun iff isDatabase => (iff.mp isDatabase).2, fun agree =>
    ⟨fun isDatabase => ⟨isDatabase, agree isDatabase⟩, And.left⟩⟩

namespace Sample

def postgres : Library (String × String) where
  database url := (url.hostname, url.rest)
  defaultSchema := "public"
  ignores_schema _ _ := rfl
  ignores_sslmode _ := rfl

def databaseUrl (name : String) : ConnectionString :=
  .url ⟨"postgresql:", "db.example", "app:5432/" ++ name, [("sslmode", "require")]⟩

def production : Environment where
  databaseUrl := databaseUrl "evzone"
  getDedicatedDbUrlForOrganization organizationId :=
    if organizationId = "large" then some (databaseUrl "large") else none
  clientCacheMax := 1
  isProduction := true
  databaseTls := false
  rejectUnauthorized := true
  caPath := none
  existsSync _ := false

def hint (organizationId : String) (tier : TenantRoutingTier) (schema : Option String) :
    Option TenantRoutingHint :=
  some ⟨some organizationId, some true, some tier, schema⟩

def acme : Option TenantRoutingHint :=
  hint "acme" .schema (some "tenant_acme")

def best : Option TenantRoutingHint :=
  hint "best" .schema (some "tenant_best")

def large : Option TenantRoutingHint :=
  hint "large" .dedicatedDb none

def clientOf (name : String) (searchParams : List (String × String)) : PrismaClient where
  pool :=
    { connection := ⟨"postgresql:", "db.example", "app:5432/" ++ name, searchParams⟩
      tls := true
      caPath := none }
  adapterSchema := none

def service : TenantPrismaRoutingService where
  sharedEntry :=
    { key := "shared"
      selection := .shared
      organizationId := none
      schema := none
      client := clientOf "evzone" []
      lastUsedAt := 0 }
  clients := Table.empty

theorem start_production : TenantPrismaRoutingService.start production 0 = .ok service :=
  rfl

def calls : List RoutingEvent :=
  [.getClient acme 1, .getClient best 2, .getClient large 3]

theorem answers_calls : (runOf production service calls).answers =
    [(acme, clientOf "evzone" [("schema", "tenant_acme")]),
      (best, clientOf "evzone" [("schema", "tenant_best")]), (large, clientOf "large" [])] := by
  decide +kernel

end Sample

open Sample

/-- The clients of a tenant with a schema and of one with a database. -/
theorem isolated_of_databases : Isolated postgres production
      (acme, clientOf "evzone" [("schema", "tenant_acme")])
      (Sample.large, clientOf "large" []) := by
  refine (isolated_iff postgres start_production calls _ ?_ _ ?_).mpr ?_
  · simp [answers_calls]
  · simp [answers_calls]
  · rintro _ _ ⟨⟩ ⟨⟩ sameDatabase
    exact absurd sameDatabase (by decide)

/-- The clients of two tenants with a schema each act on the same tables. -/
theorem schemas_share_tables :
    ∃ first ∈ (runOf production service calls).answers,
      ∃ second ∈ (runOf production service calls).answers,
        first.1 = acme ∧ second.1 = best ∧
          first.2.tables postgres = second.2.tables postgres ∧
          ¬Isolated postgres production first second := by
  rw [answers_calls]
  refine ⟨_, List.mem_cons_self, _, List.mem_cons_of_mem _ List.mem_cons_self, rfl, rfl, rfl, ?_⟩
  intro isolated
  have same := (isolated _ _ rfl rfl).mp rfl
  exact absurd same (by decide)

end Csms.TenantRouting
