import Csms.EnergyManagement.Logic.Limit
import Csms.EnergyManagement.Sending.InForce
import Csms.EnergyManagement.Telemetry.Age
import Csms.EnergyManagement.Telemetry.NonEvLoad
import Csms.EnergyManagement.Sending.Ceiling
import Csms.EnergyManagement.Schedules.OneActive
import Csms.EnergyManagement.Locking.Serial
import Csms.Billing.Webhooks.EventIds
import Csms.Billing.Solvency
import Csms.Billing.Currency
import Csms.Billing.Agreement
import Csms.Billing.Webhooks.Completed
import Csms.Billing.Repeats.Runs
import Csms.Commands.Enqueue.OneCommand
import Csms.Commands.Publishing.Accepted
import Csms.Sessions.Isolation
import Csms.Sessions.Ordering
import Csms.Sessions.Energy
import Csms.Invoices.Periods
import Csms.Bookings.OwnBooking
import Csms.Commands.BookingSync
import Csms.Ocpi.Arrivals
import Csms.Ocpi.Isolation
import Csms.Tariffs.OneCalendar
import Csms.Telemetry.CommandWebhooks
import Csms.Telemetry.Faults
import Csms.Applications.Activation
import Csms.Applications.Confirmed
import Csms.Auth.Admission
import Csms.Auth.Team.TenantMemberships
import Csms.Auth.Team.CustomRoles
import Csms.Auth.Attempts
import Csms.Auth.Credentials.SecondFactors
import Csms.Auth.Credentials.OneUse
import Csms.Auth.Credentials.Revocation
import Csms.Webhooks.Deliveries
import Csms.Webhooks.Isolation
import Csms.Provisioning.LostUpdates
import Csms.DeveloperPlatform.RateLimit
import Csms.TierPricing.OneActive
import Csms.Sessions.Completion
import Csms.Ocpi.TokenSync
import Csms.Applications.SharedKeys
import Csms.Auth.Team.Scope
import Csms.EnergyManagement.Logic.Fair
import Csms.EnergyManagement.Logic.Strict
import Csms.Geography.Upkeep
import Csms.Pnc.Certificates
import Csms.Providers.Laws
import Csms.Branding.Retraction
import Csms.Branding.Domains
import Csms.TenantRouting.Clients
import Csms.Provisioning.Projections
import Csms.EnergyManagement.Groups.Requests
import Csms.EnergyOptimization.Bands
import Csms.EnergyOptimization.Calendars
import Csms.Sessions.MeterReading
import Csms.Billing.PaymentMethods
import Csms.Commands.Callback
import Csms.Provisioning.Firmware
import Csms.Fleet.Loyalty
import Csms.Ocpi.Locations
import Csms.Auth.ServiceTokens
import Csms.Auth.Team.Expiry
import Csms.Auth.Team.Primary
import Csms.Adapters.LegacyEvse
import Csms.Providers.Gates
import Csms.Attendant.Sync
