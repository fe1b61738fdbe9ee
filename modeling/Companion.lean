import Companion.Files.Tree
import Companion.Json.Encode
import Companion.Main
import Companion.Proofs.Candidates.Extraction
import Companion.Proofs.Candidates.Reading
import Companion.Proofs.Directories.Children
import Companion.Proofs.Directories.Loading
import Companion.Proofs.Directories.Reports
import Companion.Proofs.Directories.Retries
import Companion.Proofs.Json.RoundTrip
import Companion.Proofs.Memo.Counting
import Companion.Proofs.Memo.Placeholders
import Companion.Proofs.Memo.Repetition
import Companion.Proofs.Memo.Shapes
import Companion.Proofs.Memo.Stability
import Companion.Proofs.Memo.Statistics
import Companion.Proofs.Memo.Transparency
import Companion.Proofs.Passes.Accounting
import Companion.Proofs.Passes.Cancellation
import Companion.Proofs.Passes.Collisions
import Companion.Proofs.Passes.Isolation
import Companion.Proofs.Passes.Ledgers
import Companion.Proofs.Passes.MissingTemplates
import Companion.Proofs.Passes.Orders
import Companion.Proofs.Passes.Separation
import Companion.Proofs.Settings.Layers
import Companion.Proofs.Templates.Cursors
import Companion.Proofs.Templates.Leftovers
import Companion.Proofs.Templates.Scanning
import Companion.Proofs.Templates.Segments
import Companion.Proofs.Templates.ShippedBodies
