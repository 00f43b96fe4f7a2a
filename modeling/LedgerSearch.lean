import LedgerSearch.Cli.Arguments
import LedgerSearch.Cli.Basic
import LedgerSearch.Cli.Report
import LedgerSearch.Cli.Style
import LedgerSearch.Cli.Table
import LedgerSearch.Config.Basic
import LedgerSearch.Config.Load
import LedgerSearch.Config.Sections
import LedgerSearch.Config.Source
import LedgerSearch.Decimal.Places
import LedgerSearch.Decimal.Shortest
import LedgerSearch.FileSystem.Basic
import LedgerSearch.FileSystem.Path
import LedgerSearch.FileSystem.Tree
import LedgerSearch.Json.Printer
import LedgerSearch.Json.Reader
import LedgerSearch.Json.Token
import LedgerSearch.Ledger.CategoryTree
import LedgerSearch.Ledger.Json
import LedgerSearch.Main
import LedgerSearch.Proofs.Ledger.References
import LedgerSearch.Proofs.Query.Canonical
import LedgerSearch.Proofs.Query.Grammar
import LedgerSearch.Proofs.Query.Lexer
import LedgerSearch.Proofs.Query.Parser
import LedgerSearch.Proofs.Query.Reading
import LedgerSearch.Proofs.Text.LowerCase
import LedgerSearch.Query.Parser
import LedgerSearch.Search.Basic
import LedgerSearch.Text.Blank
import LedgerSearch.Text.Bytes
import LedgerSearch.Text.Contains
import LedgerSearch.Text.Escape
import LedgerSearch.Text.LowerCase
import LedgerSearch.Text.Width
import LedgerSearch.Toml.Printer
import LedgerSearch.Toml.Reader
import LedgerSearch.Toml.Scalar
import LedgerSearch.Toml.Text
import LedgerSearch.Toml.Token
import LedgerSearch.Proofs.Search.Satisfaction
import LedgerSearch.Proofs.Search.Explanation
import LedgerSearch.Proofs.Query.Tiling
import LedgerSearch.Proofs.Query.Expectation
import LedgerSearch.Proofs.Query.Failure
import LedgerSearch.Proofs.Query.Faults
import LedgerSearch.Proofs.Query.ErrorKind
import LedgerSearch.Proofs.Query.Subquery
import LedgerSearch.Proofs.Search.Composition
import LedgerSearch.Proofs.Query.Spelling
import LedgerSearch.Proofs.Query.Alike
import LedgerSearch.Proofs.Query.Position
import LedgerSearch.Proofs.Text.LetterCase
import LedgerSearch.Proofs.Text.LowerForm
import LedgerSearch.Proofs.Search.PlainWords
import LedgerSearch.Proofs.Query.LetterCase
import LedgerSearch.Proofs.Search.LetterCase
import LedgerSearch.Proofs.Text.FinalSigma
import LedgerSearch.Proofs.Search.Substring
import LedgerSearch.Proofs.Ledger.CategoryWalk
import LedgerSearch.Proofs.Ledger.CategoryTree
import LedgerSearch.Proofs.Search.SameReferences
import LedgerSearch.Proofs.Config.RootFile
import LedgerSearch.Proofs.Cli.JsonReport
import LedgerSearch.Proofs.Cli.QueryWords
import LedgerSearch.Proofs.Query.ImplicitAnd
import LedgerSearch.Proofs.FileSystem.Path
import LedgerSearch.Proofs.Config.Discovery
import LedgerSearch.Proofs.Toml.Quoted
import LedgerSearch.Proofs.Toml.Comment
import LedgerSearch.Proofs.Config.Printed
import LedgerSearch.Proofs.Cli.ShowConfig
import LedgerSearch.Proofs.Query.EndOfQuery
import LedgerSearch.Proofs.Search.MatchedFields
import LedgerSearch.Proofs.Search.WordTerms
import LedgerSearch.Proofs.Search.AddedText
import LedgerSearch.Proofs.Query.Caret
import LedgerSearch.Proofs.Text.Escape
import LedgerSearch.Proofs.Query.Listing
import LedgerSearch.Proofs.Query.Machine
