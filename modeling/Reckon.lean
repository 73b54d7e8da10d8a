import Reckon.Abort
import Reckon.Alias.Data
import Reckon.Alias.File
import Reckon.Alias.Path
import Reckon.Alias.Store
import Reckon.Arithmetic
import Reckon.Builtin
import Reckon.Catalog
import Reckon.Context
import Reckon.Decimal.Binary
import Reckon.Decimal.Layout
import Reckon.Decimal.Nearest
import Reckon.Decimal.Reading
import Reckon.Decimal.Shortest
import Reckon.Decimal.Significant
import Reckon.Diagnostic
import Reckon.Document
import Reckon.Error
import Reckon.Kind
import Reckon.Line
import Reckon.Node
import Reckon.Node.Dump
import Reckon.Operator
import Reckon.Proofs.Alias.File
import Reckon.Proofs.Alias.Snapshot
import Reckon.Proofs.Arithmetic
import Reckon.Proofs.Builtin
import Reckon.Proofs.Catalog
import Reckon.Proofs.Context
import Reckon.Proofs.Decimal.Bits
import Reckon.Proofs.Decimal.Literal
import Reckon.Proofs.Diagnostic
import Reckon.Proofs.Document.Agreement
import Reckon.Proofs.Document.Independence
import Reckon.Proofs.Document.Inert
import Reckon.Proofs.FirstBy
import Reckon.Proofs.Grammar
import Reckon.Proofs.Grammar.Complete
import Reckon.Proofs.Grammar.Fault
import Reckon.Proofs.Grammar.Lookahead
import Reckon.Proofs.Grammar.Place
import Reckon.Proofs.Grammar.Position
import Reckon.Proofs.Grammar.Reading
import Reckon.Proofs.Grammar.Sentence
import Reckon.Proofs.Grammar.Sound
import Reckon.Proofs.Grammar.Viable
import Reckon.Proofs.Node
import Reckon.Proofs.Node.Dump
import Reckon.Proofs.Print
import Reckon.Proofs.Print.Parse
import Reckon.Proofs.Print.Scan
import Reckon.Proofs.Scalar
import Reckon.Proofs.Session.Atomic
import Reckon.Proofs.Session.Bare
import Reckon.Proofs.Session.CallLimit
import Reckon.Proofs.Session.Caller
import Reckon.Proofs.Session.Deeds
import Reckon.Proofs.Session.Dependence
import Reckon.Proofs.Session.Depth
import Reckon.Proofs.Session.Escape
import Reckon.Proofs.Session.Evaluation
import Reckon.Proofs.Session.Finite
import Reckon.Proofs.Session.Frames
import Reckon.Proofs.Session.Genuine
import Reckon.Proofs.Session.Guarantee
import Reckon.Proofs.Session.History
import Reckon.Proofs.Session.Inline
import Reckon.Proofs.Session.Magnitude
import Reckon.Proofs.Session.Memory
import Reckon.Proofs.Session.Outline
import Reckon.Proofs.Session.Overshadowed
import Reckon.Proofs.Session.Purity
import Reckon.Proofs.Session.Reach
import Reckon.Proofs.Session.Soundness
import Reckon.Proofs.Session.Spelling
import Reckon.Proofs.Session.Tables
import Reckon.Proofs.Session.Termination
import Reckon.Proofs.Session.Traceless
import Reckon.Proofs.Shape
import Reckon.Proofs.Table
import Reckon.Proofs.Text.Classes
import Reckon.Proofs.Text.Fold
import Reckon.Proofs.Text.Lines
import Reckon.Proofs.Text.Quoted
import Reckon.Proofs.Text.Rows
import Reckon.Proofs.Token.Cover
import Reckon.Proofs.Token.Locality
import Reckon.Proofs.Token.Number
import Reckon.Proofs.Token.Spacing
import Reckon.Proofs.Token.Unexpected
import Reckon.Proofs.Token.Word
import Reckon.Proofs.Unit.Alike
import Reckon.Proofs.Unit.Casing
import Reckon.Proofs.Unit.Composition
import Reckon.Proofs.Unit.Degree
import Reckon.Proofs.Unit.Inquiry
import Reckon.Proofs.Unit.Kind
import Reckon.Proofs.Unit.Lookup
import Reckon.Proofs.Unit.Naming
import Reckon.Proofs.Unit.Powers
import Reckon.Proofs.Unit.Recollection
import Reckon.Proofs.Unit.Report
import Reckon.Proofs.Unit.Resolution
import Reckon.Proofs.Unit.Suggestion
import Reckon.Proofs.Unit.Vector
import Reckon.Scalar
import Reckon.Session
import Reckon.Span
import Reckon.Statement
import Reckon.Table
import Reckon.Text.Blank
import Reckon.Text.CodeRange
import Reckon.Text.Fold
import Reckon.Text.Letter
import Reckon.Text.Numeral
import Reckon.Text.Printable
import Reckon.Text.Quoted
import Reckon.Token
import Reckon.Token.Scan
import Reckon.Unit
import Reckon.Unit.Conversion
import Reckon.Unit.Dimension
import Reckon.Unit.Expression
import Reckon.Unit.Known
import Reckon.Unit.Lookup
import Reckon.Unit.Memory
import Reckon.Unit.Powers
import Reckon.Unit.Registry
import Reckon.Unit.Term
import Reckon.Unit.Token
import Reckon.Unit.Wording
import Reckon.Value
import Reckon.Version
