import LexicalAutomata.Abbreviations
import LexicalAutomata.Ascending
import LexicalAutomata.Automaton.Acceptance
import LexicalAutomata.Automaton.Basic
import LexicalAutomata.Automaton.KeyTable
import LexicalAutomata.Automaton.Length
import LexicalAutomata.Automaton.OfGraph
import LexicalAutomata.Automaton.Pruning
import LexicalAutomata.Automaton.Scan
import LexicalAutomata.Boundary.Basic
import LexicalAutomata.Boundary.Surroundings
import LexicalAutomata.CodePoint
import LexicalAutomata.CodePointSet.Basic
import LexicalAutomata.CodePointSet.Folding
import LexicalAutomata.Error
import LexicalAutomata.Expression.Basic
import LexicalAutomata.Expression.Class
import LexicalAutomata.Expression.Cursor
import LexicalAutomata.Expression.Escape
import LexicalAutomata.Expression.Number
import LexicalAutomata.Expression.Parser
import LexicalAutomata.Expression.Scanner
import LexicalAutomata.Fault
import LexicalAutomata.Glob
import LexicalAutomata.Graph.Basic
import LexicalAutomata.Graph.Closure
import LexicalAutomata.Graph.Fragment
import LexicalAutomata.Graph.OfExpression
import LexicalAutomata.Label.Basic
import LexicalAutomata.Label.ClassText
import LexicalAutomata.Label.Entry
import LexicalAutomata.Lexer.Basic
import LexicalAutomata.Lexer.Builder
import LexicalAutomata.Lexer.Stream
import LexicalAutomata.Matcher
import LexicalAutomata.NamedClass.Ascii
import LexicalAutomata.NamedClass.Basic
import LexicalAutomata.NamedClass.Property
import LexicalAutomata.Options
import LexicalAutomata.Proofs.Abbreviations
import LexicalAutomata.Proofs.Automaton.Bisimulation
import LexicalAutomata.Proofs.Automaton.Construction
import LexicalAutomata.Proofs.Automaton.DeadEnds
import LexicalAutomata.Proofs.Automaton.Distances
import LexicalAutomata.Proofs.Automaton.Domination
import LexicalAutomata.Proofs.Automaton.Embedding
import LexicalAutomata.Proofs.Automaton.FixedLength
import LexicalAutomata.Proofs.Automaton.Following
import LexicalAutomata.Proofs.Automaton.Indifference
import LexicalAutomata.Proofs.Automaton.KeyTable
import LexicalAutomata.Proofs.Automaton.Length
import LexicalAutomata.Proofs.Automaton.Liveness
import LexicalAutomata.Proofs.Automaton.Longest
import LexicalAutomata.Proofs.Automaton.MatchLengths
import LexicalAutomata.Proofs.Automaton.OfGraph
import LexicalAutomata.Proofs.Automaton.Partition
import LexicalAutomata.Proofs.Automaton.PostOrder
import LexicalAutomata.Proofs.Automaton.Priority
import LexicalAutomata.Proofs.Automaton.Pruning
import LexicalAutomata.Proofs.Automaton.Renumbering
import LexicalAutomata.Proofs.Automaton.Resolutions
import LexicalAutomata.Proofs.Automaton.Runs
import LexicalAutomata.Proofs.Automaton.SameEdges
import LexicalAutomata.Proofs.Automaton.ScanLengths
import LexicalAutomata.Proofs.Automaton.Segments
import LexicalAutomata.Proofs.Automaton.Simulation
import LexicalAutomata.Proofs.Automaton.Splitting
import LexicalAutomata.Proofs.Automaton.Standing
import LexicalAutomata.Proofs.Automaton.TokensBelow
import LexicalAutomata.Proofs.Automaton.Words
import LexicalAutomata.Proofs.Automaton.Worklist
import LexicalAutomata.Proofs.CodePointSet.Canonical
import LexicalAutomata.Proofs.Expression.CaseInsensitive
import LexicalAutomata.Proofs.Expression.Composition
import LexicalAutomata.Proofs.Expression.Correspondence
import LexicalAutomata.Proofs.Expression.Digits
import LexicalAutomata.Proofs.Expression.EmbeddedClass
import LexicalAutomata.Proofs.Expression.EmbeddedText
import LexicalAutomata.Proofs.Expression.Embedding
import LexicalAutomata.Proofs.Expression.Ender
import LexicalAutomata.Proofs.Expression.FoldedClass
import LexicalAutomata.Proofs.Expression.Folding
import LexicalAutomata.Proofs.Expression.Matching
import LexicalAutomata.Proofs.Expression.Parser
import LexicalAutomata.Proofs.Expression.Pieces
import LexicalAutomata.Proofs.Expression.Safety
import LexicalAutomata.Proofs.Expression.ScannedClass
import LexicalAutomata.Proofs.Expression.ScannedEscape
import LexicalAutomata.Proofs.Expression.ScannedText
import LexicalAutomata.Proofs.Expression.Scanning
import LexicalAutomata.Proofs.Expression.Steps
import LexicalAutomata.Proofs.Expression.Suffix
import LexicalAutomata.Proofs.Expression.Visits
import LexicalAutomata.Proofs.Expression.WellFormed
import LexicalAutomata.Proofs.Expression.Words
import LexicalAutomata.Proofs.Glob
import LexicalAutomata.Proofs.Graph.Adding
import LexicalAutomata.Proofs.Graph.Assembly
import LexicalAutomata.Proofs.Graph.Beside
import LexicalAutomata.Proofs.Graph.Combinators
import LexicalAutomata.Proofs.Graph.Contest
import LexicalAutomata.Proofs.Graph.Copies
import LexicalAutomata.Proofs.Graph.Embedding
import LexicalAutomata.Proofs.Graph.Fragments
import LexicalAutomata.Proofs.Graph.Isolation
import LexicalAutomata.Proofs.Graph.OfExpression
import LexicalAutomata.Proofs.Graph.Patterns
import LexicalAutomata.Proofs.Graph.Rearrangement
import LexicalAutomata.Proofs.Graph.Record
import LexicalAutomata.Proofs.Graph.Relocation
import LexicalAutomata.Proofs.Graph.Renumbering
import LexicalAutomata.Proofs.Graph.Route
import LexicalAutomata.Proofs.Graph.SameEdges
import LexicalAutomata.Proofs.Graph.Seclusion
import LexicalAutomata.Proofs.Graph.Simulation
import LexicalAutomata.Proofs.Graph.Spread
import LexicalAutomata.Proofs.Graph.Terminals
import LexicalAutomata.Proofs.Graph.Walk
import LexicalAutomata.Proofs.Graph.Words
import LexicalAutomata.Proofs.Label.Assembly
import LexicalAutomata.Proofs.Label.ClassText
import LexicalAutomata.Proofs.Label.Counting
import LexicalAutomata.Proofs.Lexer.Ambiguity
import LexicalAutomata.Proofs.Lexer.Blocks
import LexicalAutomata.Proofs.Lexer.Following
import LexicalAutomata.Proofs.Lexer.MaximalMunch
import LexicalAutomata.Proofs.Lexer.Order
import LexicalAutomata.Proofs.Lexer.Passes
import LexicalAutomata.Proofs.Lexer.Patterns
import LexicalAutomata.Proofs.Lexer.Refusals
import LexicalAutomata.Proofs.Lexer.Retention
import LexicalAutomata.Proofs.Lexer.Retrial
import LexicalAutomata.Proofs.Lexer.Stream
import LexicalAutomata.Proofs.Matcher
import LexicalAutomata.Proofs.Matcher.Pieces
import LexicalAutomata.Proofs.Regex.Compile
import LexicalAutomata.Proofs.Regex.Completion
import LexicalAutomata.Proofs.Regex.Escape
import LexicalAutomata.Proofs.Regex.Interruption
import LexicalAutomata.Proofs.Regex.Labels
import LexicalAutomata.Proofs.Regex.Match
import LexicalAutomata.Proofs.Regex.Search
import LexicalAutomata.Proofs.Regex.Seek
import LexicalAutomata.Proofs.Regex.Split
import LexicalAutomata.Proofs.Regex.Stream
import LexicalAutomata.Proofs.Result
import LexicalAutomata.Proofs.StateSet.Calls
import LexicalAutomata.Proofs.StateSet.Members
import LexicalAutomata.Proofs.StateSet.Reachability
import LexicalAutomata.Proofs.Stream.Drain
import LexicalAutomata.Proofs.Stream.Failing
import LexicalAutomata.Proofs.Stream.Place
import LexicalAutomata.Proofs.Stream.Reader
import LexicalAutomata.Proofs.Stream.Scan
import LexicalAutomata.Proofs.Stream.Sink
import LexicalAutomata.Proofs.Stream.Source
import LexicalAutomata.Proofs.Stream.Tape
import LexicalAutomata.Proofs.Stream.Utf8
import LexicalAutomata.Proofs.Stream.ValidPrefix
import LexicalAutomata.Proofs.Text.Boundary
import LexicalAutomata.Proofs.Text.Place
import LexicalAutomata.Proofs.Text.Seek
import LexicalAutomata.Regex.Basic
import LexicalAutomata.Regex.Escape
import LexicalAutomata.Regex.Match
import LexicalAutomata.Regex.Split
import LexicalAutomata.Regex.Stream
import LexicalAutomata.StateSet
import LexicalAutomata.Stream.Fault
import LexicalAutomata.Stream.Reader
import LexicalAutomata.Stream.Remaining
import LexicalAutomata.Stream.Scan
import LexicalAutomata.Stream.Sink
import LexicalAutomata.Stream.Source
import LexicalAutomata.Stream.Utf8
import LexicalAutomata.Text.Offset
import LexicalAutomata.Text.Place
import LexicalAutomata.Text.Quoted
import LexicalAutomata.Text.Slice
import LexicalAutomata.Unicode.Alphanumeric
import LexicalAutomata.Unicode.Block
import LexicalAutomata.Unicode.Case
import LexicalAutomata.Unicode.Case.Letterform
import LexicalAutomata.Unicode.Case.Mapping
import LexicalAutomata.Unicode.Category
import LexicalAutomata.Unicode.Category.Control
import LexicalAutomata.Unicode.Category.Letter
import LexicalAutomata.Unicode.Category.Mark
import LexicalAutomata.Unicode.Category.Number
import LexicalAutomata.Unicode.Category.Punctuation
import LexicalAutomata.Unicode.Category.Separator
import LexicalAutomata.Unicode.Category.Symbol
import LexicalAutomata.Unicode.DefaultIgnorable
import LexicalAutomata.Unicode.GraphemeExtend
import LexicalAutomata.Unicode.Mirrored
import LexicalAutomata.Unicode.Property
import LexicalAutomata.Unicode.RunTable
import LexicalAutomata.Unicode.WhiteSpace
