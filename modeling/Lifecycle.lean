import Lifecycle.Config.Document
import Lifecycle.Proofs.Concurrent.EvictionRaces
import Lifecycle.Proofs.Concurrent.SingleResolution
import Lifecycle.Proofs.Resolution.Isolation
import Lifecycle.Scenario.Race
import Lifecycle.Scenario.Session
import Lifecycle.Proofs.Concurrent.Freshness
import Lifecycle.Proofs.Concurrent.Renewal
import Lifecycle.Proofs.Nesting.Course
import Lifecycle.Proofs.Nesting.Calls
import Lifecycle.Proofs.Nesting.Coherence
import Lifecycle.Proofs.Nesting.Unwinding
import Lifecycle.Proofs.Nesting.Replay
import Lifecycle.Proofs.Nesting.Agreement
import Lifecycle.Proofs.Nesting.Panics
import Lifecycle.Proofs.Routing.Recording
import Lifecycle.Proofs.Routing.Hooks
import Lifecycle.Proofs.Routing.Router
import Lifecycle.Proofs.Chronicle.Attendance
import Lifecycle.Proofs.Chronicle.Occurrences
import Lifecycle.Proofs.Chronicle.Unfolding
import Lifecycle.Proofs.Chronicle.Calls
import Lifecycle.Proofs.Chronicle.Accounting
import Lifecycle.Proofs.Chronicle.Audit
import Lifecycle.Proofs.Strictness.Hardening
import Lifecycle.Proofs.Strictness.Unawareness
import Lifecycle.Proofs.Strictness.Rejections
import Lifecycle.Proofs.Strictness.Reporting
import Lifecycle.Proofs.Strictness.Runs
import Lifecycle.Proofs.Documents.Reading
import Lifecycle.Proofs.Documents.RoundTrip
import Lifecycle.Proofs.Routing.Writes
import Lifecycle.Proofs.Factories.Identity
import Lifecycle.Proofs.Factories.Runs
import Lifecycle.Proofs.Concurrent.Halves
import Lifecycle.Proofs.Concurrent.TwoTables
import Lifecycle.Proofs.Concurrent.CacheAgreement
import Lifecycle.Proofs.Packages.Membership
import Lifecycle.Proofs.Publishing.Delivery
import Lifecycle.Proofs.Quieting.Immunity
import Lifecycle.Proofs.Documents.Completeness
import Lifecycle.Proofs.Documents.Members
import Lifecycle.Proofs.Documents.Meaning
import Lifecycle.Proofs.Packages.Validity
import Lifecycle.Proofs.Names.Kinds
import Lifecycle.Proofs.Names.Types
