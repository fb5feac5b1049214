import TemplateEngine.Node.Walk
import TemplateEngine.Store.Handles
import TemplateEngine.Template
import TemplateEngine.Value.Equality
import TemplateEngine.Proofs.Comparison
import TemplateEngine.Proofs.Correspondence
import TemplateEngine.Proofs.Correspondence.Evaluation
import TemplateEngine.Proofs.Correspondence.Rendering
import TemplateEngine.Proofs.Clean
import TemplateEngine.Proofs.Contents
import TemplateEngine.Proofs.Correspondence.Interpretation
import TemplateEngine.Proofs.Depth
import TemplateEngine.Proofs.Escaping
import TemplateEngine.Proofs.Frames
import TemplateEngine.Proofs.Likeness
import TemplateEngine.Proofs.Likeness.Stores
import TemplateEngine.Proofs.Loading
import TemplateEngine.Proofs.Rebinding
import TemplateEngine.Proofs.References
import TemplateEngine.Proofs.Strictness
import TemplateEngine.Proofs.Super
import TemplateEngine.Proofs.Termination
import TemplateEngine.Proofs.Printing.Roundtrip
import TemplateEngine.Proofs.Strays
import TemplateEngine.Proofs.Truncation
import TemplateEngine.Proofs.ScopeTree
import TemplateEngine.Proofs.Covering
import TemplateEngine.Proofs.Matching.Pairings
import TemplateEngine.Proofs.Matching.Stores
import TemplateEngine.Proofs.Matching
import TemplateEngine.Proofs.Retention
import TemplateEngine.Proofs.Isolation
import TemplateEngine.Proofs.Extending
import TemplateEngine.Proofs.Forwarding.Blocks
import TemplateEngine.Proofs.Forwarding.Simulation
import TemplateEngine.Proofs.Forwarding
import TemplateEngine.Proofs.Gaps
import TemplateEngine.Proofs.Whitespace
import TemplateEngine.Proofs.Lifetime.Ledger
import TemplateEngine.Proofs.Lifetime.Sessions
import TemplateEngine.Proofs.Capturing
import TemplateEngine.Proofs.Extending.Asking
import TemplateEngine.Proofs.Ancestry
import TemplateEngine.Proofs.Absence
import TemplateEngine.Proofs.Defining
import TemplateEngine.Proofs.Importing
import TemplateEngine.Proofs.Parameters
import TemplateEngine.Proofs.Vouching
import TemplateEngine.Proofs.Whole
import TemplateEngine.Proofs.Iterating
import TemplateEngine.Proofs.Evaluating
import TemplateEngine.Proofs.Matching.Twins
import TemplateEngine.Proofs.Filtering
import TemplateEngine.Proofs.Indexing
import TemplateEngine.Proofs.Joining
import TemplateEngine.Proofs.Closing
import TemplateEngine.Proofs.Equality
import TemplateEngine.Proofs.Surfacing
import TemplateEngine.Proofs.Completing
import TemplateEngine.Proofs.Delimiting
import TemplateEngine.Proofs.Entities
import TemplateEngine.Proofs.Repeating
import TemplateEngine.Proofs.Shallower
