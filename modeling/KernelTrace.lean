import KernelTrace.Main
import KernelTrace.Visibility.Filters
import KernelTrace.Hook.Journal
import KernelTrace.Query.Selector
import KernelTrace.Query.Scan
import KernelTrace.Session.Collections
import KernelTrace.Session.Refilter
import KernelTrace.Trace.Script
import KernelTrace.Timeline
import KernelTrace.Proofs.Merge
import KernelTrace.Proofs.Delivery
import KernelTrace.Proofs.Hooks
import KernelTrace.Proofs.Lanes
import KernelTrace.Proofs.Registry
import KernelTrace.Proofs.Collections
import KernelTrace.Proofs.Refilter
import KernelTrace.Proofs.Actions
import KernelTrace.Proofs.Sound
import KernelTrace.Proofs.Loads
import KernelTrace.Proofs.Tapes
import KernelTrace.Proofs.Visibility
import KernelTrace.Proofs.Indexes
import KernelTrace.Proofs.Alike
import KernelTrace.Proofs.LoadAll
import KernelTrace.Proofs.Recompute
import KernelTrace.Proofs.Lookups
import KernelTrace.Proofs.Snapshots
import KernelTrace.Proofs.Interruption
import KernelTrace.Proofs.Failures
import KernelTrace.Proofs.PartialLoads
import KernelTrace.Proofs.Appends
import KernelTrace.Proofs.Handles
import KernelTrace.Proofs.Lifetimes
import KernelTrace.Proofs.Cursors
import KernelTrace.Proofs.Recalls
import KernelTrace.Proofs.Isolation
import KernelTrace.Proofs.Ingests
import KernelTrace.Proofs.Ledger
import KernelTrace.Proofs.Listings
import KernelTrace.Proofs.Commands
import KernelTrace.Proofs.Statistics
import KernelTrace.Proofs.Selections
import KernelTrace.Proofs.Timelines
import KernelTrace.Proofs.Dumps
import KernelTrace.Proofs.Runs
import KernelTrace.Proofs.Spellings
import KernelTrace.Proofs.Printing
import KernelTrace.Proofs.Decoding
import KernelTrace.Proofs.RoundTrips
import KernelTrace.Proofs.Replies
import KernelTrace.Proofs.Modifications
import KernelTrace.Proofs.Swaps
import KernelTrace.Proofs.Spoilt
import KernelTrace.Proofs.Panics
import KernelTrace.Proofs.Rules
import KernelTrace.Proofs.Rounds
import KernelTrace.Proofs.Dispatch
import KernelTrace.Proofs.Outcomes
import KernelTrace.Proofs.Shifts
import KernelTrace.Proofs.Interchange
import KernelTrace.Proofs.Places
