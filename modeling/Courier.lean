import Courier.Files.Disk
import Courier.Main
import Courier.Proofs.Assertions
import Courier.Proofs.Schedules
import Courier.Rehearsal.Desk
import Courier.Rehearsal.Exchange
import Courier.Proofs.Completions
import Courier.Proofs.Lines
import Courier.Proofs.Octets
import Courier.Proofs.Splitting
import Courier.Proofs.Renderings
import Courier.Proofs.Republishing
import Courier.Proofs.Slices
import Courier.Proofs.Slots
import Courier.Proofs.Lifecycle
import Courier.Proofs.Fleet
import Courier.Proofs.Exchanges
import Courier.Proofs.Balance
import Courier.Proofs.Pauses
import Courier.Proofs.Promptness
import Courier.Proofs.Resumption
import Courier.Proofs.Naming
import Courier.Proofs.Disks
import Courier.Proofs.Sinks
import Courier.Proofs.Overlaps
import Courier.Proofs.Cells
import Courier.Proofs.Acceptance
import Courier.Proofs.Declining
import Courier.Proofs.Visits
import Courier.Proofs.Progress
import Courier.Proofs.Candidates
import Courier.Proofs.Assembly
import Courier.Proofs.Counts
import Courier.Proofs.Keys
import Courier.Proofs.Checks
import Courier.Proofs.Blanks
import Courier.Proofs.Casing
import Courier.Proofs.Overrides
