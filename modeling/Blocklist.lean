import Blocklist.Main
import Blocklist.Proofs.Erasure
import Blocklist.Proofs.Fallible
import Blocklist.Proofs.Limits
import Blocklist.Proofs.Numbering
import Blocklist.Proofs.Outcomes
import Blocklist.Proofs.Provenance
import Blocklist.Proofs.Conservation
import Blocklist.Proofs.Integrity
import Blocklist.Proofs.Composition
import Blocklist.Proofs.Merging
import Blocklist.Proofs.Json.Documents
import Blocklist.Proofs.Json.Records
import Blocklist.Proofs.RoundTrip
import Blocklist.Proofs.Building
import Blocklist.Proofs.Lineage
import Blocklist.Proofs.Removals
import Blocklist.Proofs.WellFormed
import Blocklist.Proofs.Admission
import Blocklist.Proofs.Assembly
import Blocklist.Proofs.Twins
import Blocklist.Proofs.Policies
import Blocklist.Proofs.Loading
import Blocklist.Proofs.Conditions
import Blocklist.Proofs.Directives
import Blocklist.Proofs.Parameters
import Blocklist.Proofs.FileChanges
import Blocklist.Proofs.Statistics
import Blocklist.Proofs.Footprint
import Blocklist.Proofs.Spacing
import Blocklist.Proofs.Scope
import Blocklist.Proofs.Domains
import Blocklist.Proofs.Initiators
import Blocklist.Proofs.Redirects
import Blocklist.Proofs.Partition
import Blocklist.Proofs.Reports
