import Csms.Js.Text
import Mathlib.Data.List.Dedup
import Mathlib.Data.List.Sort
import Mathlib.Data.String.Basic

/-!
# Roles

The roles of users and memberships, the canonical roles with their permissions, and how one
resolves to the other.
-/

namespace Csms.Auth

/-- A role as the database stores it, the `LegacyRoleKey` of the domain. -/
inductive UserRole
  | superAdmin
  | evzoneAdmin
  | evzoneOperator
  | swapProviderAdmin
  | swapProviderOperator
  | siteOwner
  | stationOwner
  | owner
  | stationOperator
  | stationAdmin
  | manager
  | attendant
  | cashier
  | technicianOrg
  | technicianPublic
  | driver
deriving DecidableEq

inductive CanonicalRoleKey
  | platformSuperAdmin
  | platformBillingAdmin
  | platformNocLead
  | tenantAdmin
  | stationManager
  | siteHost
  | roamingManager
  | fleetDispatcher
  | fleetDriver
  | installerAgent
  | smartChargingEngineer
  | operationsOperator
  | fieldTechnician
  | tenantFinanceAnalyst
  | externalProviderOperator
deriving DecidableEq

inductive AccessScopeType
  | platform
  | tenant
  | site
  | station
  | fleetGroup
  | device
  | temporary
  | provider
deriving DecidableEq

inductive AccessRoleFamily
  | platform
  | tenant
  | operations
  | finance
  | fleet
  | technical
  | provider
deriving DecidableEq

inductive PermissionScope
  | platform
  | tenant
deriving DecidableEq

structure CanonicalRoleDefinition where
  key : CanonicalRoleKey
  label : String
  family : AccessRoleFamily
  scopeType : AccessScopeType
  permissionScope : PermissionScope
  customizable : Bool
  defaultLegacyRole : UserRole
  permissions : List String

def platformBillingPermissions : List String :=
  ["platform.billing.read", "platform.billing.write", "platform.subscriptions.read",
   "platform.subscriptions.write", "platform.tenants.read", "platform.tenants.write",
   "platform.audit.read"]

def platformNocPermissions : List String :=
  ["platform.health.read", "platform.audit.read", "platform.ocpp_logs.read",
   "platform.integrations.read", "stations.read", "charge_points.read", "charge_points.command",
   "sessions.read", "incidents.read", "incidents.write", "alerts.read",
   "maintenance.dispatch.read", "maintenance.dispatch.write", "maintenance.diagnostics.read"]

def tenantAdminPermissions : List String :=
  ["tenant.users.read", "tenant.users.write", "tenant.memberships.read",
   "tenant.memberships.write", "tenant.roles.read", "tenant.roles.write", "tenant.branding.read",
   "tenant.branding.write", "tenant.settings.read", "tenant.settings.write",
   "tenant.tariffs.read", "tenant.tariffs.write", "sites.read", "sites.write", "stations.read",
   "stations.write", "charge_points.read", "charge_points.write", "charge_points.command",
   "charge_points.security.write", "sessions.read", "sessions.write", "incidents.read",
   "incidents.write", "alerts.read", "commands.read", "commands.write", "smart_charging.read",
   "smart_charging.write", "load_profiles.read", "load_profiles.write", "battery_inventory.read",
   "battery_inventory.write", "ocpi.partners.read", "ocpi.partners.write", "ocpi.sessions.read",
   "ocpi.cdrs.read", "ocpi.commands.read", "ocpi.commands.write", "finance.billing.read",
   "finance.payouts.read", "finance.settlement.read", "finance.revenue_reports.read",
   "documents.read", "documents.write"]

def stationManagerPermissions : List String :=
  ["sites.read", "stations.read", "stations.write", "charge_points.read", "charge_points.write",
   "charge_points.command", "sessions.read", "incidents.read", "incidents.write", "alerts.read",
   "commands.read", "commands.write", "maintenance.dispatch.read", "maintenance.dispatch.write",
   "maintenance.diagnostics.read", "smart_charging.read", "load_profiles.read"]

def siteHostPermissions : List String :=
  ["sites.read", "stations.read", "charge_points.read", "sessions.read",
   "finance.revenue_reports.read", "incidents.read", "alerts.read"]

def roamingManagerPermissions : List String :=
  ["ocpi.partners.read", "ocpi.partners.write", "ocpi.sessions.read", "ocpi.cdrs.read",
   "ocpi.commands.read", "ocpi.commands.write"]

def fleetDispatcherPermissions : List String :=
  ["fleet.vehicles.read", "fleet.vehicles.write", "fleet.groups.read", "fleet.groups.write",
   "fleet.dispatch.read", "fleet.dispatch.write", "sessions.read", "stations.read",
   "charge_points.read", "finance.reports.read"]

def fleetDriverPermissions : List String :=
  ["fleet.driver.session.start", "fleet.driver.session.stop", "fleet.vehicles.read"]

def installerAgentPermissions : List String :=
  ["stations.read", "charge_points.read", "charge_points.write", "devices.commission",
   "devices.handshake.write", "devices.tests.write"]

def smartChargingEngineerPermissions : List String :=
  ["sites.read", "stations.read", "charge_points.read", "smart_charging.read",
   "smart_charging.write", "load_profiles.read", "load_profiles.write", "commands.read"]

def operationsOperatorPermissions : List String :=
  ["stations.read", "charge_points.read", "charge_points.command", "sessions.read",
   "incidents.read", "incidents.write", "alerts.read", "commands.read", "commands.write"]

def fieldTechnicianPermissions : List String :=
  ["stations.read", "charge_points.read", "incidents.read", "maintenance.dispatch.read",
   "maintenance.dispatch.write", "maintenance.diagnostics.read", "charge_points.command"]

def externalProviderOperatorPermissions : List String :=
  ["ocpi.partners.read", "ocpi.sessions.read", "ocpi.cdrs.read", "ocpi.commands.read",
   "ocpi.commands.write"]

def tenantFinanceAnalystPermissions : List String :=
  ["finance.billing.read", "finance.payouts.read", "finance.settlement.read",
   "finance.revenue_reports.read", "tenant.tariffs.read", "sites.read", "stations.read",
   "sessions.read"]

/-- `Array.from(new Set(permissions)).sort()`. -/
def sortedSet (permissions : List String) : List String :=
  permissions.dedup.insertionSort (· ≤ ·)

def dedupe (groups : List (List String)) : List String :=
  sortedSet groups.flatten

@[simp]
theorem mem_sortedSet {permissions : List String} {permission : String} :
    permission ∈ sortedSet permissions ↔ permission ∈ permissions := by
  rw [sortedSet, List.mem_insertionSort, List.mem_dedup]

namespace CanonicalRoleKey

/-- `CANONICAL_ROLE_DEFINITIONS`. -/
def definition : CanonicalRoleKey → CanonicalRoleDefinition
  | platformSuperAdmin =>
    { key := platformSuperAdmin
      label := "Platform Super-Admin"
      family := .platform
      scopeType := .platform
      permissionScope := .platform
      customizable := false
      defaultLegacyRole := .superAdmin
      permissions := dedupe [platformBillingPermissions, platformNocPermissions,
        tenantAdminPermissions, stationManagerPermissions, siteHostPermissions,
        roamingManagerPermissions, fleetDispatcherPermissions, fleetDriverPermissions,
        installerAgentPermissions, smartChargingEngineerPermissions,
        operationsOperatorPermissions, fieldTechnicianPermissions,
        externalProviderOperatorPermissions,
        ["platform.api_keys.read", "platform.api_keys.write"]] }
  | platformBillingAdmin =>
    { key := platformBillingAdmin
      label := "Platform Billing Admin"
      family := .platform
      scopeType := .platform
      permissionScope := .platform
      customizable := false
      defaultLegacyRole := .owner
      permissions := dedupe [platformBillingPermissions] }
  | platformNocLead =>
    { key := platformNocLead
      label := "Network Operations Center Lead"
      family := .platform
      scopeType := .platform
      permissionScope := .platform
      customizable := false
      defaultLegacyRole := .evzoneOperator
      permissions := dedupe [platformNocPermissions] }
  | tenantAdmin =>
    { key := tenantAdmin
      label := "Tenant Admin"
      family := .tenant
      scopeType := .tenant
      permissionScope := .tenant
      customizable := true
      defaultLegacyRole := .stationAdmin
      permissions := dedupe [tenantAdminPermissions] }
  | stationManager =>
    { key := stationManager
      label := "Station Manager"
      family := .operations
      scopeType := .station
      permissionScope := .tenant
      customizable := true
      defaultLegacyRole := .manager
      permissions := dedupe [stationManagerPermissions] }
  | siteHost =>
    { key := siteHost
      label := "Site Host"
      family := .tenant
      scopeType := .site
      permissionScope := .tenant
      customizable := true
      defaultLegacyRole := .siteOwner
      permissions := dedupe [siteHostPermissions] }
  | roamingManager =>
    { key := roamingManager
      label := "Roaming Manager"
      family := .provider
      scopeType := .provider
      permissionScope := .tenant
      customizable := true
      defaultLegacyRole := .swapProviderAdmin
      permissions := dedupe [roamingManagerPermissions] }
  | fleetDispatcher =>
    { key := fleetDispatcher
      label := "Fleet Dispatcher"
      family := .fleet
      scopeType := .fleetGroup
      permissionScope := .tenant
      customizable := true
      defaultLegacyRole := .owner
      permissions := dedupe [fleetDispatcherPermissions] }
  | fleetDriver =>
    { key := fleetDriver
      label := "Fleet Driver"
      family := .fleet
      scopeType := .fleetGroup
      permissionScope := .tenant
      customizable := true
      defaultLegacyRole := .driver
      permissions := dedupe [fleetDriverPermissions] }
  | installerAgent =>
    { key := installerAgent
      label := "Installer / Commissioning Agent"
      family := .technical
      scopeType := .temporary
      permissionScope := .tenant
      customizable := true
      defaultLegacyRole := .technicianPublic
      permissions := dedupe [installerAgentPermissions] }
  | smartChargingEngineer =>
    { key := smartChargingEngineer
      label := "Smart Charging Engineer"
      family := .technical
      scopeType := .site
      permissionScope := .tenant
      customizable := true
      defaultLegacyRole := .technicianOrg
      permissions := dedupe [smartChargingEngineerPermissions] }
  | operationsOperator =>
    { key := operationsOperator
      label := "Operations Operator"
      family := .operations
      scopeType := .station
      permissionScope := .tenant
      customizable := true
      defaultLegacyRole := .stationOperator
      permissions := dedupe [operationsOperatorPermissions] }
  | fieldTechnician =>
    { key := fieldTechnician
      label := "Field Technician"
      family := .technical
      scopeType := .device
      permissionScope := .tenant
      customizable := true
      defaultLegacyRole := .technicianOrg
      permissions := dedupe [fieldTechnicianPermissions] }
  | tenantFinanceAnalyst =>
    { key := tenantFinanceAnalyst
      label := "Tenant Finance Analyst"
      family := .finance
      scopeType := .tenant
      permissionScope := .tenant
      customizable := true
      defaultLegacyRole := .owner
      permissions := dedupe [tenantFinanceAnalystPermissions] }
  | externalProviderOperator =>
    { key := externalProviderOperator
      label := "External Provider Operator"
      family := .provider
      scopeType := .provider
      permissionScope := .tenant
      customizable := true
      defaultLegacyRole := .swapProviderOperator
      permissions := dedupe [externalProviderOperatorPermissions] }

/-- `CANONICAL_ROLE_KEYS`. -/
def all : List CanonicalRoleKey :=
  [platformSuperAdmin, platformBillingAdmin, platformNocLead, tenantAdmin, stationManager,
   siteHost, roamingManager, fleetDispatcher, fleetDriver, installerAgent,
   smartChargingEngineer, operationsOperator, fieldTechnician, tenantFinanceAnalyst,
   externalProviderOperator]

def text : CanonicalRoleKey → String
  | platformSuperAdmin => "PLATFORM_SUPER_ADMIN"
  | platformBillingAdmin => "PLATFORM_BILLING_ADMIN"
  | platformNocLead => "PLATFORM_NOC_LEAD"
  | tenantAdmin => "TENANT_ADMIN"
  | stationManager => "STATION_MANAGER"
  | siteHost => "SITE_HOST"
  | roamingManager => "ROAMING_MANAGER"
  | fleetDispatcher => "FLEET_DISPATCHER"
  | fleetDriver => "FLEET_DRIVER"
  | installerAgent => "INSTALLER_AGENT"
  | smartChargingEngineer => "SMART_CHARGING_ENGINEER"
  | operationsOperator => "OPERATIONS_OPERATOR"
  | fieldTechnician => "FIELD_TECHNICIAN"
  | tenantFinanceAnalyst => "TENANT_FINANCE_ANALYST"
  | externalProviderOperator => "EXTERNAL_PROVIDER_OPERATOR"

/-- The key with the text, where there is one: `isCanonicalRoleKey`. -/
def ofText (value : String) : Option CanonicalRoleKey :=
  all.find? fun roleKey => roleKey.text = value

end CanonicalRoleKey

namespace UserRole

/-- `LEGACY_ROLE_KEYS`. -/
def all : List UserRole :=
  [superAdmin, evzoneAdmin, evzoneOperator, swapProviderAdmin, swapProviderOperator, siteOwner,
   stationOwner, owner, stationOperator, stationAdmin, manager, attendant, cashier,
   technicianOrg, technicianPublic, driver]

def text : UserRole → String
  | superAdmin => "SUPER_ADMIN"
  | evzoneAdmin => "EVZONE_ADMIN"
  | evzoneOperator => "EVZONE_OPERATOR"
  | swapProviderAdmin => "SWAP_PROVIDER_ADMIN"
  | swapProviderOperator => "SWAP_PROVIDER_OPERATOR"
  | siteOwner => "SITE_OWNER"
  | stationOwner => "STATION_OWNER"
  | owner => "OWNER"
  | stationOperator => "STATION_OPERATOR"
  | stationAdmin => "STATION_ADMIN"
  | manager => "MANAGER"
  | attendant => "ATTENDANT"
  | cashier => "CASHIER"
  | technicianOrg => "TECHNICIAN_ORG"
  | technicianPublic => "TECHNICIAN_PUBLIC"
  | driver => "DRIVER"

def ofText (value : String) : Option UserRole :=
  all.find? fun role => role.text = value

/-- `LEGACY_ROLE_TO_CANONICAL_ROLE`. -/
def canonicalRole : UserRole → CanonicalRoleKey
  | superAdmin => .platformSuperAdmin
  | evzoneAdmin => .platformSuperAdmin
  | evzoneOperator => .platformNocLead
  | swapProviderAdmin => .roamingManager
  | swapProviderOperator => .externalProviderOperator
  | siteOwner => .siteHost
  | stationOwner => .tenantAdmin
  | owner => .siteHost
  | stationOperator => .operationsOperator
  | stationAdmin => .tenantAdmin
  | manager => .stationManager
  | attendant => .operationsOperator
  | cashier => .operationsOperator
  | technicianOrg => .fieldTechnician
  | technicianPublic => .fieldTechnician
  | driver => .fleetDriver

end UserRole

def resolveCanonicalRoleKey (role : UserRole) : Option CanonicalRoleKey :=
  some role.canonicalRole

def resolveStorageRole (roleKey : CanonicalRoleKey) : Option UserRole :=
  some roleKey.definition.defaultLegacyRole

def isTenantScopedPermission (permission : String) : Bool :=
  !"platform.".toList.isPrefixOf permission.toList

/-! ## Rows of users and their access

Users, memberships, custom roles and station assignments, as far as the services of
authentication and of the team read and write them.
-/

inductive MembershipStatus
  | invited
  | active
  | suspended
  | revoked
deriving DecidableEq

inductive CustomRoleStatus
  | draft
  | active
  | suspended
  | archived
deriving DecidableEq

inductive AttendantRoleMode
  | fixed
  | mobile
deriving DecidableEq

inductive StationOwnerCapability
  | charge
  | swap
  | both
deriving DecidableEq

structure User where
  (id name : String)
  (email phone passwordHash : Option String)
  role : UserRole
  status : String
  ownerCapability : Option StationOwnerCapability
  twoFactorSecret : Option String
  (twoFactorEnabled mfaRequired mustChangePassword : Bool)
  otpCode : Option String
  (otpExpiresAt emailVerifiedAt : Option Int)
  (organizationId providerId lastStationAssignmentId : Option String)
deriving DecidableEq

structure Organization where
  (id name : String)
deriving DecidableEq

/-- A membership on the control plane. -/
structure OrganizationMembership where
  (userId organizationId : String)
  role : UserRole
  canonicalRoleKey : Option CanonicalRoleKey
  (customRoleId customRoleName : Option String)
  ownerCapability : Option StationOwnerCapability
  status : MembershipStatus
  invitedBy : Option String
deriving DecidableEq

/-- A membership in the database of the tenant. -/
structure TenantMembership where
  (userId organizationId : String)
  roleKey : CanonicalRoleKey
  customRoleId : Option String
  status : MembershipStatus
deriving DecidableEq

structure PlatformRoleAssignment where
  userId : String
  roleKey : CanonicalRoleKey
  status : MembershipStatus
deriving DecidableEq

structure TenantCustomRole where
  (id organizationId key name : String)
  baseRoleKey : CanonicalRoleKey
  status : CustomRoleStatus
  permissions : List String
deriving DecidableEq

structure Station where
  (id name : String)
  orgId : Option String
deriving DecidableEq

structure StationTeamAssignment where
  (id userId stationId : String)
  role : UserRole
  (isPrimary isActive : Bool)
  attendantMode : Option AttendantRoleMode
  (shiftStart shiftEnd timezone : Option String)
deriving DecidableEq

/-- What an attendant sees of a station assignment. -/
structure AttendantAssignment where
  (id userId stationId : String)
  roleMode : AttendantRoleMode
  (shiftStart shiftEnd timezone : String)
  isActive : Bool
deriving DecidableEq

end Csms.Auth
