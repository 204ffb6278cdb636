import GranuleMonitor.Benchmark.Suite
import GranuleMonitor.Concurrent.Creation
import GranuleMonitor.Concurrent.Crowd
import GranuleMonitor.Concurrent.Section
import GranuleMonitor.Layout
import GranuleMonitor.Main
import GranuleMonitor.Registry
import GranuleMonitor.Session.Run
import GranuleMonitor.Stress.Interleaving
import GranuleMonitor.Stress.Report
import GranuleMonitor.Proofs.Locking.Collection
import GranuleMonitor.Proofs.Locking.AllOrNothing
import GranuleMonitor.Custody
import GranuleMonitor.Proofs.Locking.Acquisition
import GranuleMonitor.Proofs.Custody.Effect
import GranuleMonitor.Proofs.Custody.Soundness
import GranuleMonitor.Proofs.Custody.Tidiness
import GranuleMonitor.Proofs.Custody.References
import GranuleMonitor.Proofs.Locking.Expectation
import GranuleMonitor.Proofs.Crowd.Exclusion
import GranuleMonitor.Proofs.Crowd.Deadlock
import GranuleMonitor.Proofs.Crowd.Alone
import GranuleMonitor.Proofs.Custody.Sessions
import GranuleMonitor.Proofs.Custody.Roles
import GranuleMonitor.Proofs.Section.Outcome
import GranuleMonitor.Proofs.Section.Serialization
import GranuleMonitor.Proofs.Backing
import GranuleMonitor.Proofs.Stress.Attempt
import GranuleMonitor.Proofs.Stress.Effect
import GranuleMonitor.Proofs.Stress.Ledger
import GranuleMonitor.Proofs.Stress.Floor
import GranuleMonitor.Proofs.Stress.Release
import GranuleMonitor.Proofs.Stress.Safety
import GranuleMonitor.Proofs.Stress.Draw
import GranuleMonitor.Proofs.Stress.Sequential
import GranuleMonitor.Proofs.Benchmark.Selection
import GranuleMonitor.Proofs.Region.Bounds
import GranuleMonitor.Proofs.Region.Lookup
import GranuleMonitor.Proofs.Zeroing
import GranuleMonitor.Proofs.Locality
import GranuleMonitor.Proofs.Custody.Independence
import GranuleMonitor.Proofs.Window.Bookkeeping
import GranuleMonitor.Proofs.Memory.Content
import GranuleMonitor.Proofs.Memory.Coverage
import GranuleMonitor.Proofs.Creation
import GranuleMonitor.Proofs.Benchmark.Suite
import GranuleMonitor.Proofs.Locking.Unreferenced
import GranuleMonitor.Proofs.Locking.Diagnosis
import GranuleMonitor.Proofs.Memory.Erasure
import GranuleMonitor.Proofs.Benchmark.Preservation
import GranuleMonitor.Proofs.Benchmark.Transition
import GranuleMonitor.Proofs.Benchmark.Recording
import GranuleMonitor.Proofs.Benchmark.LockableSet
import GranuleMonitor.Proofs.Benchmark.Statistics
import GranuleMonitor.Proofs.Benchmark.Lookup
