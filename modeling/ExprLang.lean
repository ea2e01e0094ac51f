import ExprLang.Engine.Basic
import ExprLang.Engine.Cache
import ExprLang.Engine.Options
import ExprLang.Error.Basic
import ExprLang.Error.Drawing
import ExprLang.Error.Excerpt
import ExprLang.Error.Kind
import ExprLang.Error.Span
import ExprLang.Eval.Evaluate
import ExprLang.Eval.Event
import ExprLang.Eval.Failure
import ExprLang.Eval.Operators
import ExprLang.Eval.Run
import ExprLang.Eval.Scope
import ExprLang.Function.Error
import ExprLang.Function.Host
import ExprLang.Function.Library
import ExprLang.Function.Registry
import ExprLang.Grammar.Attempts
import ExprLang.Grammar.Blank
import ExprLang.Grammar.Language
import ExprLang.Grammar.Match
import ExprLang.Grammar.Pattern
import ExprLang.Grammar.Rule
import ExprLang.Grammar.Token
import ExprLang.Literal.Escape
import ExprLang.Number.Binary
import ExprLang.Number.Int32
import ExprLang.Number.Layout
import ExprLang.Number.Numeral
import ExprLang.Number.Shortest
import ExprLang.Proofs.Engine.Coherence
import ExprLang.Proofs.Engine.Expressions
import ExprLang.Proofs.Engine.LeastRecent
import ExprLang.Proofs.Engine.Outcomes
import ExprLang.Proofs.Engine.Recency
import ExprLang.Proofs.Engine.Recompiling
import ExprLang.Proofs.Engine.Sequencing
import ExprLang.Proofs.Error.Boundaries
import ExprLang.Proofs.Error.Excerpts
import ExprLang.Proofs.Error.Rows
import ExprLang.Proofs.Eval.Agreement
import ExprLang.Proofs.Eval.Assembly
import ExprLang.Proofs.Eval.Captures
import ExprLang.Proofs.Eval.Chaining
import ExprLang.Proofs.Eval.Conditions
import ExprLang.Proofs.Eval.Constants
import ExprLang.Proofs.Eval.Coupling
import ExprLang.Proofs.Eval.Effects
import ExprLang.Proofs.Eval.Events
import ExprLang.Proofs.Eval.Exchange
import ExprLang.Proofs.Eval.Matches
import ExprLang.Proofs.Eval.Origins
import ExprLang.Proofs.Eval.Reads
import ExprLang.Proofs.Eval.Selections
import ExprLang.Proofs.Eval.Tracing
import ExprLang.Proofs.Eval.Writes
import ExprLang.Proofs.Grammar.Accepts
import ExprLang.Proofs.Grammar.Blanks
import ExprLang.Proofs.Grammar.Carries
import ExprLang.Proofs.Grammar.Crossing
import ExprLang.Proofs.Grammar.Flow
import ExprLang.Proofs.Grammar.Gaps
import ExprLang.Proofs.Grammar.Joint
import ExprLang.Proofs.Grammar.Lexemes
import ExprLang.Proofs.Grammar.Locality
import ExprLang.Proofs.Grammar.OwnLines
import ExprLang.Proofs.Grammar.Settled
import ExprLang.Proofs.Grammar.Shapes
import ExprLang.Proofs.Grammar.Steps
import ExprLang.Proofs.Grammar.Takes
import ExprLang.Proofs.Literal.Escapes
import ExprLang.Proofs.Literal.Slashes
import ExprLang.Proofs.Number.Bits
import ExprLang.Proofs.Number.Comparing
import ExprLang.Proofs.Number.Int32
import ExprLang.Proofs.Number.Magnitudes
import ExprLang.Proofs.Number.Notation
import ExprLang.Proofs.Number.Order
import ExprLang.Proofs.Number.Radix
import ExprLang.Proofs.Number.ReadBack
import ExprLang.Proofs.Number.Reading
import ExprLang.Proofs.Number.Rounding
import ExprLang.Proofs.Number.Shortest
import ExprLang.Proofs.Number.Sums
import ExprLang.Proofs.Number.Truncation
import ExprLang.Proofs.Number.WholeNumbers
import ExprLang.Proofs.Source.Blanks
import ExprLang.Proofs.Source.Brackets
import ExprLang.Proofs.Source.Comments
import ExprLang.Proofs.Source.Language
import ExprLang.Proofs.Source.Lockstep
import ExprLang.Proofs.Source.Nesting
import ExprLang.Proofs.Source.Pass
import ExprLang.Proofs.Source.Place
import ExprLang.Proofs.Source.Words
import ExprLang.Proofs.Text.Collation
import ExprLang.Proofs.Text.Occurrences
import ExprLang.Proofs.Text.Slices
import ExprLang.Proofs.Tree.Alike
import ExprLang.Proofs.Tree.Around
import ExprLang.Proofs.Tree.Atoms
import ExprLang.Proofs.Tree.Blame
import ExprLang.Proofs.Tree.Built
import ExprLang.Proofs.Tree.Compositional
import ExprLang.Proofs.Tree.Data
import ExprLang.Proofs.Tree.Faults
import ExprLang.Proofs.Tree.Frames
import ExprLang.Proofs.Tree.Grouping
import ExprLang.Proofs.Tree.Headlines
import ExprLang.Proofs.Tree.Height
import ExprLang.Proofs.Tree.Joined
import ExprLang.Proofs.Tree.Layout
import ExprLang.Proofs.Tree.Leaves
import ExprLang.Proofs.Tree.Limits
import ExprLang.Proofs.Tree.Moved
import ExprLang.Proofs.Tree.Numbers
import ExprLang.Proofs.Tree.Numerals
import ExprLang.Proofs.Tree.Outlines
import ExprLang.Proofs.Tree.Parens
import ExprLang.Proofs.Tree.Phrase
import ExprLang.Proofs.Tree.Provenance
import ExprLang.Proofs.Tree.Regexps
import ExprLang.Proofs.Tree.RoundTrip
import ExprLang.Proofs.Tree.Runs
import ExprLang.Proofs.Tree.Several
import ExprLang.Proofs.Tree.Shape
import ExprLang.Proofs.Tree.Signs
import ExprLang.Proofs.Tree.Single
import ExprLang.Proofs.Tree.Spelling
import ExprLang.Proofs.Tree.Starred
import ExprLang.Proofs.Tree.Statements
import ExprLang.Proofs.Tree.Tokens
import ExprLang.Proofs.Tree.Words
import ExprLang.Proofs.Tree.Writable
import ExprLang.Proofs.Value.Bitwise
import ExprLang.Proofs.Value.Comparison
import ExprLang.Proofs.Value.Congruence
import ExprLang.Proofs.Value.Contents
import ExprLang.Proofs.Value.Display
import ExprLang.Proofs.Value.Entries
import ExprLang.Proofs.Value.Equality
import ExprLang.Proofs.Value.Indexing
import ExprLang.Proofs.Value.Literals
import ExprLang.Proofs.Value.Membership
import ExprLang.Proofs.Value.Numbers
import ExprLang.Proofs.Value.Pointwise
import ExprLang.Proofs.Value.Splitting
import ExprLang.RegExp.Basic
import ExprLang.RegExp.CharSet.Age
import ExprLang.RegExp.CharSet.Basic
import ExprLang.RegExp.CharSet.Bounds
import ExprLang.RegExp.CharSet.Break
import ExprLang.RegExp.CharSet.Category
import ExprLang.RegExp.CharSet.Folding
import ExprLang.RegExp.CharSet.Named
import ExprLang.RegExp.CharSet.Property
import ExprLang.RegExp.CharSet.Script
import ExprLang.RegExp.Pattern
import ExprLang.RegExp.Program
import ExprLang.RegExp.Reading
import ExprLang.RegExp.Search
import ExprLang.RegExp.Size
import ExprLang.Source.Nesting
import ExprLang.Source.Position
import ExprLang.Text.Alphanumeric
import ExprLang.Text.Case
import ExprLang.Text.CaseRun
import ExprLang.Text.CaseTable
import ExprLang.Text.CharClass
import ExprLang.Text.Collation
import ExprLang.Text.Quoted
import ExprLang.Text.Search
import ExprLang.Text.Visible
import ExprLang.Text.Whitespace
import ExprLang.Text.Width
import ExprLang.Tree.Build
import ExprLang.Tree.Node
import ExprLang.Tree.Operator
import ExprLang.Tree.Outline
import ExprLang.Tree.Parse
import ExprLang.Tree.ParseError
import ExprLang.Tree.Precedence
import ExprLang.Value.Basic
import ExprLang.Value.Conversion
import ExprLang.Value.Display
import ExprLang.Value.Document
import ExprLang.Value.Entries
import ExprLang.Value.Equality
import ExprLang.Value.Property
import ExprLang.Value.TypePair
