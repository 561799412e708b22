import CodeReview.Analysis.Basic
import CodeReview.Analysis.Complexity
import CodeReview.Analysis.Security
import CodeReview.Analysis.Smells
import CodeReview.Assist.Adviser
import CodeReview.Assist.Assistant
import CodeReview.Assist.Outlet
import CodeReview.Assist.Prompt
import CodeReview.Assist.Vendor
import CodeReview.Bytes
import CodeReview.Command.Arguments
import CodeReview.Command.Run
import CodeReview.Command.Usage
import CodeReview.Digest.Basic
import CodeReview.Digest.Named
import CodeReview.Digest.Older
import CodeReview.Digest.Sha2
import CodeReview.Entries
import CodeReview.Failure
import CodeReview.Files.Disk
import CodeReview.Files.Encoding
import CodeReview.Files.Glob
import CodeReview.Files.Inspect
import CodeReview.Files.Path
import CodeReview.Fingerprint.Basic
import CodeReview.Fingerprint.Sample
import CodeReview.Forge.Comment
import CodeReview.Forge.Discussion
import CodeReview.Forge.GitHub
import CodeReview.Forge.GitLab
import CodeReview.Forge.Web
import CodeReview.Issue
import CodeReview.Json.Printer
import CodeReview.Json.Reader
import CodeReview.Likeness.Duplicates
import CodeReview.Likeness.Normal
import CodeReview.Likeness.Similarity
import CodeReview.Main
import CodeReview.Metrics
import CodeReview.Number.Basic
import CodeReview.Number.Binary
import CodeReview.Number.Shortest
import CodeReview.Pattern.Basic
import CodeReview.Pattern.Reader
import CodeReview.Report.Basic
import CodeReview.Report.Data
import CodeReview.Report.Markdown
import CodeReview.Report.Page
import CodeReview.Report.Reporter
import CodeReview.Report.Style
import CodeReview.Report.Terminal
import CodeReview.Result
import CodeReview.Result.Reader
import CodeReview.Review
import CodeReview.Review.Paths
import CodeReview.Review.Pool
import CodeReview.Rules.Basic
import CodeReview.Rules.Draft
import CodeReview.Rules.Standard
import CodeReview.SelfCheck.Basic
import CodeReview.SelfCheck.Program
import CodeReview.SelfCheck.Reviews
import CodeReview.SelfCheck.Rules
import CodeReview.SelfCheck.Services
import CodeReview.SelfCheck.Sources
import CodeReview.Service.Line
import CodeReview.Settings.Basic
import CodeReview.Settings.File
import CodeReview.Settings.Reader
import CodeReview.Severity
import CodeReview.Source.Comment
import CodeReview.Source.Description
import CodeReview.Source.Docstring
import CodeReview.Source.Fault
import CodeReview.Source.Form
import CodeReview.Source.Grammar.Expression
import CodeReview.Source.Grammar.Formatted
import CodeReview.Source.Grammar.Goal
import CodeReview.Source.Grammar.Parameters
import CodeReview.Source.Grammar.Pattern
import CodeReview.Source.Grammar.Statement
import CodeReview.Source.Language
import CodeReview.Source.Literal
import CodeReview.Source.Node
import CodeReview.Source.Outline
import CodeReview.Source.Parse
import CodeReview.Source.Parser
import CodeReview.Source.Render
import CodeReview.Source.Tally
import CodeReview.Source.Token
import CodeReview.Source.Uncommented
import CodeReview.Source.Walk
import CodeReview.Text.Basic
import CodeReview.Text.Blank
import CodeReview.Text.Case
import CodeReview.Text.CaseTable
import CodeReview.Text.Caseless
import CodeReview.Text.CharacterName
import CodeReview.Text.CharacterNameTable
import CodeReview.Text.Chunk
import CodeReview.Text.Identifier
import CodeReview.Text.IdentifierTable
import CodeReview.Text.Layout
import CodeReview.Text.Normal
import CodeReview.Text.NormalTable
import CodeReview.Text.Printable
import CodeReview.Text.PrintableTable
import CodeReview.Text.Quoted
import CodeReview.Text.Ranges
import CodeReview.Text.Word
import CodeReview.Text.WordTable
import CodeReview.Value
import CodeReview.Proofs.Entries
import CodeReview.Proofs.Steps
import CodeReview.Proofs.Summary
import CodeReview.Proofs.Score
import CodeReview.Proofs.Pool
import CodeReview.Proofs.Arrival
import CodeReview.Proofs.Analyzers
import CodeReview.Proofs.Findings
import CodeReview.Proofs.Gates
import CodeReview.Proofs.Masking
import CodeReview.Proofs.Marks
import CodeReview.Proofs.Pieces
import CodeReview.Proofs.Markup
import CodeReview.Proofs.Threshold
import CodeReview.Proofs.Limits
import CodeReview.Proofs.Traversal
import CodeReview.Proofs.Commands
import CodeReview.Proofs.Presets
import CodeReview.Proofs.Paths
import CodeReview.Proofs.Exclusion
import CodeReview.Proofs.Location
import CodeReview.Proofs.Faulty
import CodeReview.Proofs.Quick
import CodeReview.Proofs.Placement
import CodeReview.Proofs.Scanning
import CodeReview.Proofs.Keeping
import CodeReview.Proofs.Grammar.Basic
import CodeReview.Proofs.Grammar.Formatted
import CodeReview.Proofs.Grammar.Expression
import CodeReview.Proofs.Grammar.Pattern
import CodeReview.Proofs.Grammar.Statement
import CodeReview.Proofs.Lines
import CodeReview.Proofs.Walking
import CodeReview.Proofs.Cyclomatic
import CodeReview.Proofs.Loosening
import CodeReview.Proofs.Calls
import CodeReview.Proofs.Nesting
import CodeReview.Proofs.Excess
import CodeReview.Proofs.Unused
import CodeReview.Proofs.Constants
import CodeReview.Proofs.Queries
import CodeReview.Proofs.Hashes
import CodeReview.Proofs.Substitution
import CodeReview.Proofs.Quotes
import CodeReview.Proofs.Scanners
import CodeReview.Proofs.Writing
import CodeReview.Proofs.Docstrings
import CodeReview.Proofs.Tallies
import CodeReview.Proofs.Chunks
import CodeReview.Proofs.Layout.Basic
import CodeReview.Proofs.Layout.Expression
import CodeReview.Proofs.Layout.Statement
import CodeReview.Proofs.Tokens
import CodeReview.Proofs.Uncommenting
import CodeReview.Proofs.Boundaries
import CodeReview.Proofs.Trimming
import CodeReview.Proofs.Stripping.Within
import CodeReview.Proofs.Stripping.Line
import CodeReview.Proofs.Comments
import CodeReview.Proofs.Dangling
import CodeReview.Proofs.Tidying
import CodeReview.Proofs.Indentation
import CodeReview.Proofs.Respacing
import CodeReview.Proofs.Duplicates
import CodeReview.Proofs.Reordering
import CodeReview.Proofs.Coverage
import CodeReview.Proofs.Utf8
import CodeReview.Proofs.ByteOrder
import CodeReview.Proofs.Declarations
import CodeReview.Proofs.Reading
import CodeReview.Proofs.Details
import CodeReview.Proofs.Colors
import CodeReview.Proofs.Ranking
import CodeReview.Proofs.Conversations
import CodeReview.Proofs.Fixes
import CodeReview.Proofs.Posting
import CodeReview.Proofs.Spacing
