import SuiteAudit.Audit.Analysis
import SuiteAudit.Audit.Batch
import SuiteAudit.Audit.Cache
import SuiteAudit.Classify
import SuiteAudit.Config.Basic
import SuiteAudit.Config.Error
import SuiteAudit.Config.Read
import SuiteAudit.Content
import SuiteAudit.Decimal.Binary64
import SuiteAudit.Decimal.Numeral
import SuiteAudit.Decimal.Rounded
import SuiteAudit.Decimal.Shortest
import SuiteAudit.Decimal.Written
import SuiteAudit.Digest.Sha256
import SuiteAudit.Directive
import SuiteAudit.Issue
import SuiteAudit.Json.Parser
import SuiteAudit.Json.Printer
import SuiteAudit.Json.Value
import SuiteAudit.Policy.Penalties
import SuiteAudit.Policy.SmellLimits
import SuiteAudit.Policy.Weights
import SuiteAudit.Proofs.Accepted
import SuiteAudit.Proofs.Bounds
import SuiteAudit.Proofs.Breakdowns
import SuiteAudit.Proofs.CacheKey
import SuiteAudit.Proofs.Contributions
import SuiteAudit.Proofs.Exact
import SuiteAudit.Proofs.Fairness
import SuiteAudit.Proofs.Findings
import SuiteAudit.Proofs.Monotone
import SuiteAudit.Proofs.Raws
import SuiteAudit.Proofs.SharedCache
import SuiteAudit.Proofs.Transparency
import SuiteAudit.Proofs.Utf8
import SuiteAudit.Rule.Assertions
import SuiteAudit.Rule.Basic
import SuiteAudit.Rule.Inputs
import SuiteAudit.Rule.Lines
import SuiteAudit.Rule.Markers
import SuiteAudit.Rule.Mocks
import SuiteAudit.Rule.Names
import SuiteAudit.Rule.Registry
import SuiteAudit.Rule.Source
import SuiteAudit.Rule.State
import SuiteAudit.Rule.Tests
import SuiteAudit.Score.Category
import SuiteAudit.Score.Fault
import SuiteAudit.Score.Number
import SuiteAudit.Score.Ranking
import SuiteAudit.Score.Total
import SuiteAudit.SourceFacts
import SuiteAudit.SourceFacts.Functions
import SuiteAudit.SourceFacts.OfTree
import SuiteAudit.Strength
import SuiteAudit.Suite.Assertion
import SuiteAudit.Suite.Basic
import SuiteAudit.Suite.Block
import SuiteAudit.Suite.Body
import SuiteAudit.Suite.Chain
import SuiteAudit.Suite.Imports
import SuiteAudit.Suite.Literal
import SuiteAudit.Suite.NameIntent
import SuiteAudit.Suite.OfTree
import SuiteAudit.Suite.Outline
import SuiteAudit.Suite.Span
import SuiteAudit.Suite.TestCase
import SuiteAudit.Syntax.Access
import SuiteAudit.Syntax.Grammar
import SuiteAudit.Syntax.Listing
import SuiteAudit.Syntax.Located
import SuiteAudit.Syntax.Node
import SuiteAudit.Syntax.Spelling
import SuiteAudit.Text.Basic
import SuiteAudit.Text.Case
import SuiteAudit.Text.Character
import SuiteAudit.Text.Chars
import SuiteAudit.Text.CodePoint
import SuiteAudit.Text.Lines
import SuiteAudit.Text.Path
import SuiteAudit.Text.Pattern
import SuiteAudit.Text.Quoted
import SuiteAudit.Text.Table.Alphanumeric
import SuiteAudit.Text.Table.Case
import SuiteAudit.Text.Table.Digit
import SuiteAudit.Text.Table.Title
import SuiteAudit.Text.Table.Unprintable
import SuiteAudit.Text.Utf8
import SuiteAudit.Vocabulary
import SuiteAudit.Proofs.ScoringChannel
import SuiteAudit.Proofs.Inert
import SuiteAudit.Proofs.Lending
import SuiteAudit.Proofs.WithoutSource
import SuiteAudit.Proofs.DoubleScores
import SuiteAudit.Proofs.Numerals
import SuiteAudit.Proofs.Outcomes
import SuiteAudit.Proofs.DocumentOrder
import SuiteAudit.Proofs.Silences
import SuiteAudit.Proofs.LineNumbers
import SuiteAudit.Proofs.FailedRules
import SuiteAudit.Proofs.UnrunTests
import SuiteAudit.Proofs.CommentedFacts
import SuiteAudit.Proofs.CacheAccounts
import SuiteAudit.Proofs.Fingerprint
import SuiteAudit.Proofs.TestScores
import SuiteAudit.Proofs.Redistribution
import SuiteAudit.Proofs.CoveredThrows
import SuiteAudit.Proofs.SpareTests
import SuiteAudit.Proofs.PatternEnds
import SuiteAudit.Proofs.DirectiveWords
import SuiteAudit.Proofs.EnabledRules
import SuiteAudit.Proofs.NamedErrors
import SuiteAudit.Proofs.FileFindings
import SuiteAudit.Proofs.SharedLines
import SuiteAudit.Proofs.LiteralWords
import SuiteAudit.Proofs.SharedMethodNames
import SuiteAudit.Proofs.FactSites
import SuiteAudit.Proofs.SharedVariables
import SuiteAudit.Proofs.NumberFaults
import SuiteAudit.Proofs.WrittenWeights
import SuiteAudit.Proofs.BlockScopes
import SuiteAudit.Proofs.Openings
import SuiteAudit.Proofs.Unfocused
import SuiteAudit.Proofs.SkippedTests
import SuiteAudit.Proofs.AwaitFixes
import SuiteAudit.Proofs.AlikeReadings
import SuiteAudit.Proofs.Moves
import SuiteAudit.Proofs.WrappedChains
import SuiteAudit.Proofs.RepeatedInputs
import SuiteAudit.Proofs.MockedModules
import SuiteAudit.Proofs.TestIndices
import SuiteAudit.Proofs.PlainNumerals
import SuiteAudit.Proofs.LiteralSpellings
import SuiteAudit.Proofs.Attribution
import SuiteAudit.Proofs.ChainLinks
