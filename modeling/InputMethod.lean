import InputMethod.Candidate
import InputMethod.Stream.Basic
import InputMethod.Menu
import InputMethod.Segmentation.Segment
import InputMethod.Segmentation.Basic
import InputMethod.Decimal.Shortest
import InputMethod.Decimal.Text
import InputMethod.Json.Value
import InputMethod.Json.Reader
import InputMethod.Text.Escaped
import InputMethod.Text.Quoted
import InputMethod.Candidate.Describe
import InputMethod.Context
import InputMethod.Text.Lines
import InputMethod.Files
import InputMethod.Conversion.Error
import InputMethod.Conversion.Dictionary
import InputMethod.Conversion.Converter
import InputMethod.Decimal.Integer
import InputMethod.Grammar.Bigram
import InputMethod.Grammar.Binary
import InputMethod.Grammar.Scoring
import InputMethod.Filter.Ranking
import InputMethod.Unicode.Data
import InputMethod.Unicode.CharSet
import InputMethod.Unicode.Property
import InputMethod.Pattern.Ast
import InputMethod.Pattern.Nesting
import InputMethod.Pattern.Error
import InputMethod.Pattern.Parser
import InputMethod.Pattern.Hir
import InputMethod.Pattern.Program
import InputMethod.Pattern.Footprint
import InputMethod.Pattern.Machine
import InputMethod.Pattern.Regex
import InputMethod.Projection
import InputMethod.Toml.Value
import InputMethod.Toml.Error
import InputMethod.Toml.Document
import InputMethod.Toml.Scan
import InputMethod.Toml.Parser
import InputMethod.Toml.Decode
import InputMethod.Schema.Basic
import InputMethod.Schema.Sections
import InputMethod.Filter.Ticket
import InputMethod.Random
import InputMethod.Json.Decode
import InputMethod.Conversion.Config
import InputMethod.Conversion.Engine
import InputMethod.Conversion.Registry
import InputMethod.Filter.Simplifier
import InputMethod.Filter.Chain
import InputMethod.Decimal.Read
import InputMethod.CodeTable
import InputMethod.Session
import InputMethod.Proofs.Stream.Playback
import InputMethod.Proofs.Ranking.Reranking
import InputMethod.Proofs.Conversion.WordForms
import InputMethod.Proofs.Filter.Simplification
import InputMethod.Proofs.Segmentation.Cover
import InputMethod.Proofs.Text.Splitting
import InputMethod.Proofs.Conversion.TextForm
import InputMethod.Proofs.Stream.Calls
import InputMethod.Proofs.Stream.Union
import InputMethod.Proofs.Ranking.Debounce
import InputMethod.Proofs.KeyedLists
import InputMethod.Proofs.Context.Machine
import InputMethod.Proofs.Grammar.Counts
import InputMethod.Proofs.Session.Steps
import InputMethod.Proofs.Session.AutoContext
import InputMethod.Proofs.Stream.Spans
import InputMethod.Proofs.Session.Tiling
import InputMethod.Proofs.Conversion.Groups
import InputMethod.Proofs.Conversion.Segmenting
import InputMethod.Proofs.Conversion.Loading
import InputMethod.Proofs.Conversion.Sharing
import InputMethod.Proofs.Menu.Caching
import InputMethod.Proofs.CodeTable.Layout
import InputMethod.Proofs.Grammar.Scores
import InputMethod.Proofs.Filter.Presentation
import InputMethod.Proofs.Segmentation.Revision
import InputMethod.Proofs.Conversion.Drawing
import InputMethod.Proofs.Projection.Grammar
import InputMethod.Proofs.Conversion.Lossless
