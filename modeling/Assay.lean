import Assay.Main
import Assay.Proofs.Command.Arguments
import Assay.Proofs.Command.Concatenation
import Assay.Proofs.Command.DepthLimit
import Assay.Proofs.Command.Failing
import Assay.Proofs.Command.Inputs
import Assay.Proofs.Command.Lines
import Assay.Proofs.Command.Loading
import Assay.Proofs.Command.Report
import Assay.Proofs.Command.SchemaFile
import Assay.Proofs.Decimal.Digits
import Assay.Proofs.Except
import Assay.Proofs.Filter.Approximation
import Assay.Proofs.Filter.Bounds
import Assay.Proofs.Filter.Elements
import Assay.Proofs.Filter.Evaluation
import Assay.Proofs.Filter.Text
import Assay.Proofs.Json.Compact
import Assay.Proofs.Json.Composition
import Assay.Proofs.Json.Containers
import Assay.Proofs.Json.Encoding
import Assay.Proofs.Json.Extension
import Assay.Proofs.Json.Induction
import Assay.Proofs.Json.Integer
import Assay.Proofs.Json.Lookahead
import Assay.Proofs.Json.Mirroring
import Assay.Proofs.Json.Pointer
import Assay.Proofs.Json.Pretty
import Assay.Proofs.Json.Printable
import Assay.Proofs.Json.Progress
import Assay.Proofs.Json.Reading
import Assay.Proofs.Json.Settled
import Assay.Proofs.Json.Success
import Assay.Proofs.Rejection.Category
import Assay.Proofs.Rejection.Induction
import Assay.Proofs.Rejection.Path
import Assay.Proofs.Rejection.Texts
import Assay.Proofs.Rendering
import Assay.Proofs.Schema.Document.Depth
import Assay.Proofs.Schema.Document.Grammar
import Assay.Proofs.Schema.Document.Members
import Assay.Proofs.Schema.Document.Misnamed
import Assay.Proofs.Schema.Document.Nesting
import Assay.Proofs.Schema.Document.Root
import Assay.Proofs.Schema.Document.RoundTrip
import Assay.Proofs.Schema.Document.Sources
import Assay.Proofs.Schema.Document.Spelling
import Assay.Proofs.Schema.Document.Trailing
import Assay.Proofs.Schema.Document.ValuesOrder
import Assay.Proofs.Schema.Expression
import Assay.Proofs.Schema.Induction
import Assay.Proofs.Validation.Blame
import Assay.Proofs.Validation.Checks
import Assay.Proofs.Validation.Conformance
import Assay.Proofs.Validation.DepthLimit
import Assay.Proofs.Validation.Flattening
import Assay.Proofs.Validation.Integers
import Assay.Proofs.Validation.Location
import Assay.Proofs.Validation.Lookalike
import Assay.Proofs.Validation.Relaxation
import Assay.Proofs.Validation.Sequence
import Assay.Proofs.Validation.Silence
import Assay.Proofs.Validation.Undeclared
import Assay.Proofs.Validation.Union
