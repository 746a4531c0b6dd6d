import Csms.Branding.Revisions

/-!
# Custom domains

Which tenant a request host belongs to.  A publication or a rollback writes the domain that its
configuration asks for; hosts keep belonging to one tenant exactly as long as no other tenant has
that domain.
-/

namespace Csms.Branding

open Database Js

inductive ResolvedBy
  | hostCustomDomain
  | hostSubdomain
  | default
deriving DecidableEq

structure PublicBrandingResponse where
  tenantId : Option String
  tenantName : String
  resolvedBy : ResolvedBy
  config : WhiteLabelConfigV1
deriving DecidableEq

/-- `equals` with `mode: 'insensitive'`. -/
def equalsInsensitive (runtime : Runtime) (left right : String) : Bool :=
  runtime.toLowerCase left = runtime.toLowerCase right

def stripPort (host : String) : String :=
  let reversed := host.toList.reverse
  match reversed.takeWhile Char.isDigit, reversed.dropWhile Char.isDigit with
  | _ :: _, ':' :: rest => String.ofList rest.reverse
  | _, _ => host

def normalizeHost (runtime : Runtime) (value : Option String) : Option String :=
  (orText value none).bind fun value =>
    let first := runtime.toLowerCase (trim (String.ofList (value.toList.takeWhile (· ≠ ','))))
    if first = "" then none else some (stripPort first)

/-- The text before the first dot, if it is a name. -/
def firstLabel (runtime : Runtime) (characters : List Char) : Option String :=
  let first := runtime.toLowerCase (trim (String.ofList (characters.takeWhile (· ≠ '.'))))
  if first ≠ "" && first.toList.all fun c => isHostCharacter c || c = '-' then some first else none

def resolveTenantSubdomain (runtime : Runtime) (host : String) : List String → Option String
  | [] =>
    if ".localhost".toList.isSuffixOf host.toList then firstLabel runtime host.toList else none
  | root :: configuredRoots =>
    if root = "" then resolveTenantSubdomain runtime host configuredRoots
    else
      let normalizedRoot := runtime.toLowerCase root
      let suffix := '.' :: normalizedRoot.toList
      if host = normalizedRoot then none
      else if !suffix.isSuffixOf host.toList then
        resolveTenantSubdomain runtime host configuredRoots
      else
        match host.toList.take (host.toList.length - suffix.length) with
        | [] => none
        | characters => firstLabel runtime characters

def isSet (record : JsRecord) (name : String) : Bool :=
  match record name with
  | .undefined => false
  | _ => true

def hasCompleteRuntimeConfigShape (rawConfig : JsValue) : Bool :=
  let root := ensureRecord rawConfig
  let fields (name : String) := isSet (ensureRecord (root name))
  (match root "schemaVersion" with
    | .number value => value = .ofInt whiteLabelSchemaVersion
    | _ => false) &&
  ["appName", "shortName", "logoUrl", "logoIconUrl", "faviconUrl"].all (fields "branding") &&
  ["primaryColor", "accentColor", "borderRadiusPx", "fontFamily"].all (fields "theme") &&
  ["termsUrl", "privacyUrl", "supportUrl"].all (fields "legal") &&
  ["email", "phone"].all (fields "support") &&
  ["primaryDomain", "allowedOrigins"].all (fields "domain") &&
  ["lastEditedBy", "lastEditedAt"].all (fields "metadata")

def resolveRuntimeConfig (runtime : Runtime) (organization : TenantBrandingOrganizationRecord) :
    WhiteLabelConfigV1 :=
  if organization.whiteLabelConfig.isTruthy &&
      hasCompleteRuntimeConfigShape organization.whiteLabelConfig then
    match normalizeConfig runtime organization.whiteLabelConfig buildEvzoneDefaultConfig none
        none with
    | .ok config => config
    | .error _ => buildEvzoneDefaultConfig
  else buildEvzoneDefaultConfig

def buildDefaultPublicBranding : PublicBrandingResponse where
  tenantId := none
  tenantName := "EVzone"
  resolvedBy := .default
  config := buildEvzoneDefaultConfig

def publicBranding (runtime : Runtime) (resolvedBy : ResolvedBy)
    (organization : TenantBrandingOrganizationRecord) : PublicBrandingResponse where
  tenantId := some organization.id
  tenantName := organization.name
  resolvedBy := resolvedBy
  config := resolveRuntimeConfig runtime organization

namespace TenantBrandingOrganizationRecord

def hasDomain (runtime : Runtime) (host : String)
    (organization : TenantBrandingOrganizationRecord) : Bool :=
  organization.primaryDomain.any fun domain => equalsInsensitive runtime domain host

def hasSubdomain (runtime : Runtime) (subdomain : String)
    (organization : TenantBrandingOrganizationRecord) : Bool :=
  organization.tenantSubdomain.any fun name => equalsInsensitive runtime name subdomain

end TenantBrandingOrganizationRecord

/-- What a request brings, and the hosts of the platform. -/
structure PublicRequest where
  (host resolvedTenantId : Option String)
  platformHosts : List String

def PublicRequest.hostName (runtime : Runtime) (request : PublicRequest) : Option String :=
  orText (normalizeHost runtime request.host) none

section Answers

variable (runtime : Runtime) (lookUp : FindFirst TenantBrandingOrganizationRecord) (store : Store)

def findOrganizationByPrimaryDomain (host : String) : Option TenantBrandingOrganizationRecord :=
  lookUp.find (·.hasDomain runtime host) store.organizations.rows

def findOrganizationBySubdomain (subdomain : String) : Option TenantBrandingOrganizationRecord :=
  lookUp.find (·.hasSubdomain runtime subdomain) store.organizations.rows

def getPublicRuntimeBranding (request : PublicRequest) : PublicBrandingResponse :=
  let byHost : Option PublicBrandingResponse :=
    (request.hostName runtime).bind fun host =>
      ((findOrganizationByPrimaryDomain runtime lookUp store host).map
        (publicBranding runtime .hostCustomDomain)).or
      ((resolveTenantSubdomain runtime host request.platformHosts).bind fun subdomain =>
        (findOrganizationBySubdomain runtime lookUp store subdomain).map
          (publicBranding runtime .hostSubdomain))
  let byContext : Option PublicBrandingResponse :=
    ((optionalTrimmed request.resolvedTenantId).bind store.organizations.find?).map
      (publicBranding runtime .hostSubdomain)
  (byHost.or byContext).getD buildDefaultPublicBranding

end Answers

variable {runtime : Runtime} {store after : Store}

/-- No two organizations have one domain. -/
def UniqueDomains (runtime : Runtime) (store : Store) : Prop :=
  MarkedOnce TenantBrandingOrganizationRecord.id (·.primaryDomain.isSome)
    (·.primaryDomain.map runtime.toLowerCase) store.organizations.rows

def UniqueSubdomains (runtime : Runtime) (store : Store) : Prop :=
  MarkedOnce TenantBrandingOrganizationRecord.id (·.tenantSubdomain.isSome)
    (·.tenantSubdomain.map runtime.toLowerCase) store.organizations.rows

instance : Decidable (UniqueDomains runtime store) :=
  inferInstanceAs (Decidable (MarkedOnce _ _ _ _))

instance : Decidable (UniqueSubdomains runtime store) :=
  inferInstanceAs (Decidable (MarkedOnce _ _ _ _))

/-- Whatever order the database looks in, a request belongs to one tenant at most. -/
def ResolvesOnce (runtime : Runtime) (store : Store) : Prop :=
  ∀ first second request, getPublicRuntimeBranding runtime first store request =
    getPublicRuntimeBranding runtime second store request

/-- The custom domains of the other tenants belong to them, as before. -/
def DomainsStay (runtime : Runtime) (tenantId : String) (before after : Store) : Prop :=
  ∀ organization ∈ before.organizations.rows, organization.id ≠ tenantId →
    ∀ lookUp request host, request.hostName runtime = some host →
      organization.hasDomain runtime host = true →
        (getPublicRuntimeBranding runtime lookUp before request).tenantId = some organization.id ∧
          (getPublicRuntimeBranding runtime lookUp after request).tenantId = some organization.id

def BrandingWrite.tenantId : BrandingWrite → String
  | saveDraft _ tenantId _ _ _ => tenantId
  | publishDraft _ tenantId _ _ => tenantId
  | rollback _ tenantId _ _ _ _ => tenantId

/-- No other organization has the domain that becomes active, up to the case of its letters. -/
def BrandingWrite.FindsDomainFree (runtime : Runtime) (write : BrandingWrite) (store : Store) :
    Prop :=
  ∀ config, write.activates runtime = some (write.tenantId, config) →
    ∀ domain, config.domain.primaryDomain = some domain →
      ∀ other ∈ store.organizations.rows, other.id ≠ write.tenantId →
        other.hasDomain runtime domain = false

section LookUps

variable {lookUp : FindFirst TenantBrandingOrganizationRecord}

theorem eq_of_equalsInsensitive {field : TenantBrandingOrganizationRecord → Option String}
    (unique : MarkedOnce TenantBrandingOrganizationRecord.id (fun row => (field row).isSome)
      (fun row => (field row).map runtime.toLowerCase) store.organizations.rows) {text : String}
    {first second : TenantBrandingOrganizationRecord}
    (firstMem : first ∈ store.organizations.rows) (secondMem : second ∈ store.organizations.rows)
    (firstHas : (field first).any (equalsInsensitive runtime · text) = true)
    (secondHas : (field second).any (equalsInsensitive runtime · text) = true) :
    first = second := by
  obtain ⟨one, isOne, sameOne⟩ := (Option.any_eq_true _ _).mp firstHas
  obtain ⟨two, isTwo, sameTwo⟩ := (Option.any_eq_true _ _).mp secondHas
  rw [equalsInsensitive, decide_eq_true_eq] at sameOne sameTwo
  refine store.organizations.eq_of_key_eq firstMem secondMem
    (unique first firstMem second secondMem (by simp [isOne]) (by simp [isTwo]) ?_)
  simp [isOne, isTwo, sameOne, sameTwo]

theorem resolvesOnce_of_unique (domains : UniqueDomains runtime store)
    (subdomains : UniqueSubdomains runtime store) : ResolvesOnce runtime store := by
  intro first second request
  have sameDomain (host : String) : findOrganizationByPrimaryDomain runtime first store host =
      findOrganizationByPrimaryDomain runtime second store host :=
    first.find_eq_find_of_unique second fun _ firstMem _ secondMem firstHas secondHas =>
      eq_of_equalsInsensitive domains firstMem secondMem firstHas secondHas
  have sameSubdomain (name : String) : findOrganizationBySubdomain runtime first store name =
      findOrganizationBySubdomain runtime second store name :=
    first.find_eq_find_of_unique second fun _ firstMem _ secondMem firstHas secondHas =>
      eq_of_equalsInsensitive subdomains firstMem secondMem firstHas secondHas
  simp only [getPublicRuntimeBranding, sameDomain, sameSubdomain]

/-- The owner of a custom domain is found. -/
theorem tenantId_of_hasDomain (domains : UniqueDomains runtime store)
    {organization : TenantBrandingOrganizationRecord}
    (member : organization ∈ store.organizations.rows) {request : PublicRequest} {host : String}
    (isHost : request.hostName runtime = some host)
    (has : organization.hasDomain runtime host = true) :
    (getPublicRuntimeBranding runtime lookUp store request).tenantId = some organization.id := by
  have isFound : findOrganizationByPrimaryDomain runtime lookUp store host = some organization :=
    lookUp.find_eq_some_of_unique member has fun other isOther otherHas =>
      eq_of_equalsInsensitive domains isOther member otherHas has
  simp [getPublicRuntimeBranding, isHost, isFound, publicBranding]

end LookUps

variable {write : BrandingWrite}

/-- The organization of the transaction gets a configuration, if it makes one active. -/
theorem organizations_of_effect (happens : write.effect runtime store = some (after, ())) :
    (write.activates runtime = none ∧ after.organizations = store.organizations) ∨
      ∃ config, write.activates runtime = some (write.tenantId, config) ∧
        (∃ row ∈ store.organizations.rows, row.id = write.tenantId) ∧
        after.organizations.rows = store.organizations.rows.map fun row =>
          if row.id = write.tenantId then toOrganizationBrandingUpdate config row else row := by
  cases does_of_effect happens with
  | created _ _ _ _ _ _ organizations | saved _ _ _ _ _ _ _ organizations =>
    exact Or.inl ⟨rfl, organizations⟩
  | published _ tenantId _ _ config isConfig isTenant _ _ organizations
  | rolledBack _ tenantId _ _ _ _ config isConfig isTenant _ _ organizations =>
    exact Or.inr ⟨config, by simp [BrandingWrite.activates, isConfig, BrandingWrite.tenantId,
      Except.toOption], isTenant, organizations⟩

section Updates

variable {config : WhiteLabelConfigV1} {tenantId : String}

theorem uniqueDomains_update_iff (domains : UniqueDomains runtime store)
    (isTenant : ∃ row ∈ store.organizations.rows, row.id = tenantId)
    (organizations : after.organizations.rows = store.organizations.rows.map fun row =>
      if row.id = tenantId then toOrganizationBrandingUpdate config row else row) :
    UniqueDomains runtime after ↔
      ∀ domain, config.domain.primaryDomain = some domain →
        ∀ other ∈ store.organizations.rows, other.id ≠ tenantId →
          other.hasDomain runtime domain = false := by
  have isOther {row : TenantBrandingOrganizationRecord} (member : row ∈ store.organizations.rows)
      (notIt : row.id ≠ tenantId) : row ∈ after.organizations.rows := by
    rw [organizations]
    exact List.mem_map.mpr ⟨row, member, if_neg notIt⟩
  obtain ⟨tenant, tenantMem, isIt⟩ := isTenant
  have isUpdated : toOrganizationBrandingUpdate config tenant ∈ after.organizations.rows := by
    rw [organizations]
    exact List.mem_map.mpr ⟨tenant, tenantMem, if_pos isIt⟩
  constructor
  · intro unique domain isDomain other otherMem notIt
    by_contra has
    rw [Bool.not_eq_false, TenantBrandingOrganizationRecord.hasDomain, Option.any_eq_true] at has
    obtain ⟨theirs, isTheirs, same⟩ := has
    rw [equalsInsensitive, decide_eq_true_eq] at same
    have sameId := unique _ isUpdated other (isOther otherMem notIt)
      (by simp [toOrganizationBrandingUpdate, isDomain]) (by simp [isTheirs])
      (by simp [toOrganizationBrandingUpdate, isDomain, isTheirs, same])
    exact notIt (sameId.symm.trans isIt)
  · intro isFree
    -- an organization that has a domain apart from the one that is updated
    have apart {first second : TenantBrandingOrganizationRecord}
        (secondMem : second ∈ store.organizations.rows) (notIt : second.id ≠ tenantId)
        (marked : (toOrganizationBrandingUpdate config first).primaryDomain.isSome = true) :
        (toOrganizationBrandingUpdate config first).primaryDomain.map runtime.toLowerCase ≠
          second.primaryDomain.map runtime.toLowerCase := by
      obtain ⟨domain, isDomain⟩ := Option.isSome_iff_exists.mp marked
      intro same
      rw [isDomain] at same
      obtain ⟨theirs, isTheirs, sameLower⟩ := Option.map_eq_some_iff.mp same.symm
      have notTheirs := isFree domain isDomain second secondMem notIt
      simp [TenantBrandingOrganizationRecord.hasDomain, isTheirs, equalsInsensitive,
        sameLower] at notTheirs
    intro first firstMem second secondMem firstMarked secondMarked same
    rw [organizations] at firstMem secondMem
    obtain ⟨one, oneMem, rfl⟩ := List.mem_map.mp firstMem
    obtain ⟨two, twoMem, rfl⟩ := List.mem_map.mp secondMem
    by_cases firstIt : one.id = tenantId
    · by_cases secondIt : two.id = tenantId
      · rw [if_pos firstIt, if_pos secondIt]
        exact firstIt.trans secondIt.symm
      · rw [if_pos firstIt] at firstMarked same
        rw [if_neg secondIt] at same
        exact absurd same (apart twoMem secondIt firstMarked)
    · by_cases secondIt : two.id = tenantId
      · rw [if_pos secondIt] at secondMarked same
        rw [if_neg firstIt] at same
        exact absurd same.symm (apart oneMem firstIt secondMarked)
      · rw [if_neg firstIt] at firstMarked same ⊢
        rw [if_neg secondIt] at secondMarked same ⊢
        exact domains one oneMem two twoMem firstMarked secondMarked same

theorem uniqueSubdomains_update (subdomains : UniqueSubdomains runtime store)
    (organizations : after.organizations.rows = store.organizations.rows.map fun row =>
      if row.id = tenantId then toOrganizationBrandingUpdate config row else row) :
    UniqueSubdomains runtime after := by
  rw [UniqueSubdomains, organizations]
  have keeps {α : Type} (project : TenantBrandingOrganizationRecord → α)
      (kept : ∀ row, project (toOrganizationBrandingUpdate config row) = project row)
      (row : TenantBrandingOrganizationRecord) :
      project (if row.id = tenantId then toOrganizationBrandingUpdate config row else row) =
        project row := by
    split
    · exact kept row
    · rfl
  refine MarkedOnce.map_of_unmarks (keeps _ (id_toOrganizationBrandingUpdate config))
    (keeps (fun row => row.tenantSubdomain.map runtime.toLowerCase) fun _ => rfl) subdomains
    fun row _ marked => ?_
  rwa [keeps (fun row => row.tenantSubdomain.isSome) fun _ => rfl] at marked

end Updates

theorem uniqueDomains_iff (domains : UniqueDomains runtime store)
    (happens : write.effect runtime store = some (after, ())) :
    UniqueDomains runtime after ↔ write.FindsDomainFree runtime store := by
  rcases organizations_of_effect happens with ⟨isNone, same⟩ | ⟨config, isConfig, isTenant, rows⟩
  · rw [BrandingWrite.FindsDomainFree, isNone, UniqueDomains, same]
    exact iff_of_true domains fun _ isSome => by simp at isSome
  · rw [uniqueDomains_update_iff domains isTenant rows, BrandingWrite.FindsDomainFree, isConfig]
    simp only [Option.some.injEq, Prod.mk.injEq, true_and, forall_eq']

theorem uniqueSubdomains_of_effect (subdomains : UniqueSubdomains runtime store)
    (happens : write.effect runtime store = some (after, ())) : UniqueSubdomains runtime after := by
  rcases organizations_of_effect happens with ⟨_, same⟩ | ⟨config, _, _, rows⟩
  · rwa [UniqueSubdomains, same]
  · exact uniqueSubdomains_update subdomains rows

theorem domainsStay_of_effect (domains : UniqueDomains runtime store)
    (unique : UniqueDomains runtime after) (happens : write.effect runtime store = some (after, ())) :
    DomainsStay runtime write.tenantId store after := by
  intro organization member notIt lookUp request host isHost has
  refine ⟨tenantId_of_hasDomain domains member isHost has,
    tenantId_of_hasDomain unique ?_ isHost has⟩
  rcases organizations_of_effect happens with ⟨_, same⟩ | ⟨config, _, _, rows⟩
  · rwa [same]
  · rw [rows]
    exact List.mem_map.mpr ⟨organization, member, if_neg notIt⟩

/-- In a state and at all commits before, each domain is of one tenant, and the transactions of
one tenant leave those of the others alone. -/
structure KeptDomains (runtime : Runtime) (shared : Shared Store BrandingWrite) : Prop where
  unique : UniqueDomains runtime shared.store
  resolves : ResolvesOnce runtime shared.store
  earlier : ∀ commit ∈ shared.commits, UniqueDomains runtime commit.before
  stay : ∀ commit ∈ shared.commits,
    DomainsStay runtime commit.label.tenantId commit.before commit.after

theorem subdomains_of_reachable (subdomains : UniqueSubdomains runtime store)
    {state : BrandingState} (reachable : BrandingState.Reachable runtime store state) :
    UniqueSubdomains runtime state.shared.store := by
  apply reachable.shared_invariant (BrandingWrite.guarded runtime) fun shared =>
    UniqueSubdomains runtime shared.store
  · exact subdomains
  · intro shared id write after result before happens
    rw [BrandingWrite.run_body] at happens
    exact uniqueSubdomains_of_effect before happens

/-- However the transactions of all tenants interleave, a domain is of one tenant exactly as long
as each configuration that becomes active asks for a domain that no other tenant has. -/
theorem keptDomains_iff (domains : UniqueDomains runtime store)
    (subdomains : UniqueSubdomains runtime store) {state : BrandingState}
    (reachable : BrandingState.Reachable runtime store state) : KeptDomains runtime state.shared ↔
      ∀ commit ∈ state.shared.commits, commit.label.FindsDomainFree runtime commit.before := by
  have exact := reachable.good_iff (BrandingWrite.guarded runtime)
    (fun write store after result unique happens =>
      uniqueDomains_iff unique ((BrandingWrite.run_body runtime write store).symm.trans happens))
    domains
  constructor
  · exact fun kept => exact.mp ⟨kept.unique, kept.earlier⟩
  · intro areFree
    obtain ⟨unique, earlier⟩ := exact.mpr areFree
    refine ⟨unique, resolvesOnce_of_unique unique (subdomains_of_reachable subdomains reachable),
      earlier, fun commit member => ?_⟩
    obtain ⟨_, happens⟩ := reachable.commit_run (BrandingWrite.guarded runtime) commit member
    rw [BrandingWrite.run_body] at happens
    exact domainsStay_of_effect (earlier commit member)
      ((uniqueDomains_iff (earlier commit member) happens).mpr (areFree commit member)) happens

namespace Sample

def domainDraft (actorId tenantId newId : String) : BrandingCall :=
  request actorId tenantId newId (.saveDraft fun name =>
    if name = "domain" then recordOf [("primaryDomain", .string "Shop.Example")] else .undefined)

def publishes (session : Nat) (actorId tenantId newId : String) :
    List (DatabaseEvent BrandingCall) :=
  .arrive (domainDraft actorId tenantId newId) ::
      (List.replicate 5 (.query session) ++ commits session) ++
    .arrive (request actorId tenantId "" .publishDraft) ::
      (List.replicate 4 (.query (session + 1)) ++ commits (session + 1))

def taken : List (DatabaseEvent BrandingCall) :=
  publishes 0 "ann" "acme" "first" ++ publishes 2 "bob" "best" "second"

def visit : PublicRequest where
  host := some "shop.example:443"
  resolvedTenantId := none
  platformHosts := []

def domains (state : BrandingState) : List (Option String) :=
  state.shared.store.organizations.rows.map TenantBrandingOrganizationRecord.primaryDomain

theorem unique_tenants : UniqueDomains epoch tenants ∧ UniqueSubdomains epoch tenants := by
  decide

end Sample

open Sample

/-- A tenant publishes a domain that nobody has. -/
theorem keptDomains_of_publication : ∃ state : BrandingState, state.shared.commits.length = 2 ∧
      domains state = [some "shop.example", none] ∧
      KeptDomains epoch state.shared := by
  have run : (outcome (publishes 0 "ann" "acme" "first")).map (fun state =>
      (state.shared.commits.length, domains state, state.shared.commits.all fun commit =>
        commit.before.organizations.rows.all fun row => row.primaryDomain.isNone)) =
      some (2, [some "shop.example", none], true) := by
    decide +kernel
  obtain ⟨state, reached, observed⟩ := Option.map_eq_some_iff.mp run
  simp only [Prod.mk.injEq] at observed
  obtain ⟨isTwo, isDomains, areNone⟩ := observed
  refine ⟨state, isTwo, isDomains, (keptDomains_iff unique_tenants.1
    unique_tenants.2 (Transition.reachable_of_foldlM reached)).mpr ?_⟩
  intro commit member config _ domain _ other otherMem _
  have isNone := List.all_eq_true.mp (List.all_eq_true.mp areNone commit member) other otherMem
  rw [Option.isNone_iff_eq_none] at isNone
  simp [TenantBrandingOrganizationRecord.hasDomain, isNone]

/-- Two tenants publish one domain: which of them it belongs to is up to the database. -/
theorem taken_domain_of_two_tenants :
    (UniqueDomains epoch tenants ∧ UniqueSubdomains epoch tenants) ∧
      ∃ state, BrandingState.Reachable epoch tenants state ∧
        domains state = [some "shop.example", some "shop.example"] ∧
        (getPublicRuntimeBranding epoch .front state.shared.store visit).tenantId =
          some "acme" ∧
        (getPublicRuntimeBranding epoch .back state.shared.store visit).tenantId =
          some "best" ∧ ¬KeptDomains epoch state.shared := by
  have run : (outcome taken).map (fun state => (domains state,
      (getPublicRuntimeBranding epoch .front state.shared.store visit).tenantId,
      (getPublicRuntimeBranding epoch .back state.shared.store visit).tenantId)) =
      some ([some "shop.example", some "shop.example"], some "acme", some "best") := by
    decide +kernel
  obtain ⟨state, reached, observed⟩ := Option.map_eq_some_iff.mp run
  simp only [Prod.mk.injEq] at observed
  obtain ⟨isDomains, isFront, isBack⟩ := observed
  refine ⟨unique_tenants, state, Transition.reachable_of_foldlM reached, isDomains, isFront,
    isBack, fun kept => ?_⟩
  have same := kept.resolves .front .back visit
  rw [same, isBack] at isFront
  exact absurd isFront (by decide)

end Csms.Branding
