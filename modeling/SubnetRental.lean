import SubnetRental.Foundation.TransitionSystem
import SubnetRental.Foundation.TreeMapTotals
import SubnetRental.Foundation.GuardedCalls
import SubnetRental.Foundation.CompletedCalls
import SubnetRental.Foundation.RankedCalls
import SubnetRental.Foundation.ExclusiveRegistry
import SubnetRental.Foundation.MachineInteger
import SubnetRental.Foundation.Rounding
import SubnetRental.Foundation.KeyedLogs
import SubnetRental.Foundation.FundedDeadline
import SubnetRental.Canister.Types
import SubnetRental.Canister.CanisterState
import SubnetRental.Canister.Calls
import SubnetRental.Canister.Pricing
import SubnetRental.Canister.Requests
import SubnetRental.Canister.Agreements
import SubnetRental.Canister.Queries
import SubnetRental.Canister.Machine
import SubnetRental.Lifecycle.Effects
import SubnetRental.Lifecycle.Burning
import SubnetRental.Lifecycle.Consistency
import SubnetRental.Lifecycle.Guards
import SubnetRental.Lifecycle.Knowledge
import SubnetRental.Lifecycle.Discipline
import SubnetRental.Lifecycle.Steps
import SubnetRental.Lifecycle.Commits
import SubnetRental.Lifecycle.Exclusivity
import SubnetRental.Lifecycle.Locks
import SubnetRental.Lifecycle.SubnetAdmins
import SubnetRental.Lifecycle.Unwraps
import SubnetRental.Lifecycle.Progress
import SubnetRental.Lifecycle.Registry
import SubnetRental.Lifecycle.Tenancy
import SubnetRental.Locking.Snapshot
import SubnetRental.Locking.Conditions
import SubnetRental.Locking.Records
import SubnetRental.Locking.Passes
import SubnetRental.Locking.Schedule
import SubnetRental.Cycles.AgreementSteps
import SubnetRental.Cycles.Account
import SubnetRental.Cycles.BurnPass
import SubnetRental.Cycles.PaidTime
import SubnetRental.Cycles.Deadlines
import SubnetRental.Cycles.Repricing
import SubnetRental.Cycles.Solvency
import SubnetRental.Cycles.Status
import SubnetRental.Icp.Ledger
import SubnetRental.Icp.Books
import SubnetRental.Icp.Cancellation
import SubnetRental.Icp.Conversions
import SubnetRental.Icp.Creation
import SubnetRental.Icp.Payment
import SubnetRental.Icp.Reconciliation
import SubnetRental.Icp.Sequential
import SubnetRental.Icp.Authority
import SubnetRental.Icp.Alone
import SubnetRental.Icp.Rental
import SubnetRental.Rates.Cache
import SubnetRental.Rates.Estimate
import SubnetRental.Rates.Exactness
import SubnetRental.Rates.Midnight
import SubnetRental.Rates.Price
import SubnetRental.Rates.RoundTrip
import SubnetRental.History.Pages
import SubnetRental.History.Booking
import SubnetRental.History.Migration
import SubnetRental.History.Determined
import SubnetRental.History.Outcomes
