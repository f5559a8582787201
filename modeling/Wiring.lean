import Wiring.Form.Report
import Wiring.Form.Tree
import Wiring.Lifecycle.Owned
import Wiring.Lifecycle.Sequence
import Wiring.Outer.Json.Printer
import Wiring.Outer.Layers
import Wiring.Outer.Readers
import Wiring.Proofs.Composition.Outline
import Wiring.Proofs.Form.Setup
import Wiring.Proofs.Graph.Conflicts
import Wiring.Proofs.Graph.Names
import Wiring.Proofs.Lifecycle.Slot
import Wiring.Proofs.Registry.Capabilities
import Wiring.Proofs.Registry.ExactTags
import Wiring.Proofs.Registry.Scan
import Wiring.Proofs.Resolver.Appending
import Wiring.Proofs.Resolver.Arena
import Wiring.Proofs.Resolver.Closedness
import Wiring.Proofs.Resolver.CollectedOnce
import Wiring.Proofs.Resolver.Collections
import Wiring.Proofs.Resolver.Completeness
import Wiring.Proofs.Resolver.CycleFlags
import Wiring.Proofs.Resolver.DepthLimit
import Wiring.Proofs.Resolver.Descriptions
import Wiring.Proofs.Resolver.Freshness
import Wiring.Proofs.Resolver.Isolation
import Wiring.Proofs.Resolver.MemberOrder
import Wiring.Proofs.Resolver.Memory
import Wiring.Proofs.Resolver.Metadata
import Wiring.Proofs.Resolver.Ownership
import Wiring.Proofs.Resolver.Plans
import Wiring.Proofs.Resolver.Promises
import Wiring.Proofs.Resolver.Records
import Wiring.Proofs.Resolver.Restoring
import Wiring.Proofs.Resolver.Selection
import Wiring.Proofs.Resolver.Sharing
import Wiring.Proofs.Resolver.Unanswered
import Wiring.Proofs.Resolver.UnusedRules
import Wiring.Proofs.Resolver.Validity
import Wiring.Proofs.Setup.Expand
import Wiring.Proofs.TypeExpr.Notation
import Wiring.Proofs.TypeExpr.Refusal
