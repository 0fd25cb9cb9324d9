import MaterialSearch.Entry.Download
import MaterialSearch.Predicate.Negation
import MaterialSearch.Proofs.Attribute.Encoding
import MaterialSearch.Proofs.Attribute.Kinds
import MaterialSearch.Proofs.Attribute.Lists
import MaterialSearch.Proofs.Attribute.Sampling
import MaterialSearch.Proofs.Attribute.Scalars
import MaterialSearch.Proofs.Entry.Brackets
import MaterialSearch.Proofs.Entry.Globbing
import MaterialSearch.Proofs.Entry.Loading
import MaterialSearch.Proofs.Entry.Location
import MaterialSearch.Proofs.Json.Printing
import MaterialSearch.Proofs.Json.Tokens
import MaterialSearch.Proofs.Page.Coordinates
import MaterialSearch.Proofs.Page.Numbering
import MaterialSearch.Proofs.Page.RecordKey
import MaterialSearch.Proofs.Predicate.Binding
import MaterialSearch.Proofs.Predicate.Built
import MaterialSearch.Proofs.Predicate.Combination
import MaterialSearch.Proofs.Predicate.Containment
import MaterialSearch.Proofs.Predicate.Distribution
import MaterialSearch.Proofs.Predicate.Folding
import MaterialSearch.Proofs.Predicate.Grammar
import MaterialSearch.Proofs.Predicate.Joining
import MaterialSearch.Proofs.Predicate.Rendering
import MaterialSearch.Proofs.Predicate.Scanning
import MaterialSearch.Proofs.Predicate.Settling
import MaterialSearch.Proofs.Predicate.Shape
import MaterialSearch.Proofs.Predicate.Texts
import MaterialSearch.Proofs.Predicate.Toggling
import MaterialSearch.Proofs.Predicate.Written
import MaterialSearch.Proofs.Query.Assembly
import MaterialSearch.Proofs.Query.Configuration
import MaterialSearch.Proofs.Query.Discipline
import MaterialSearch.Proofs.Query.Failures
import MaterialSearch.Proofs.Query.Fetches
import MaterialSearch.Proofs.Query.Finalized
import MaterialSearch.Proofs.Query.Independence
import MaterialSearch.Proofs.Query.Items
import MaterialSearch.Proofs.Query.Lifecycle
import MaterialSearch.Proofs.Query.Lookup
import MaterialSearch.Proofs.Query.Moves
import MaterialSearch.Proofs.Query.Pagination
import MaterialSearch.Proofs.Query.Pass
import MaterialSearch.Proofs.Query.Persistence
import MaterialSearch.Proofs.Query.Positions
import MaterialSearch.Proofs.Query.Preloading
import MaterialSearch.Proofs.Query.Progress
import MaterialSearch.Proofs.Query.Reversal
import MaterialSearch.Proofs.Query.Runs
import MaterialSearch.Proofs.Query.Selection
import MaterialSearch.Proofs.Query.Served
import MaterialSearch.Proofs.Query.SizeHint
import MaterialSearch.Proofs.Query.Skipping
import MaterialSearch.Proofs.Query.Steady
import MaterialSearch.Proofs.Query.Visiting
import MaterialSearch.Proofs.Transport.Directive
import MaterialSearch.Query.Family
import MaterialSearch.Transport.Canned
