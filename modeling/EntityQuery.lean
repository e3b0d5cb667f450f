import EntityQuery.Text.Ranges
import EntityQuery.Text.Blank
import EntityQuery.Text.Word
import EntityQuery.Text.Quoted
import EntityQuery.Number.Binary64
import EntityQuery.Number.Shortest
import EntityQuery.Number.Numeral
import EntityQuery.Number.Decimal
import EntityQuery.Value
import EntityQuery.Literal
import EntityQuery.Literal.Reader
import EntityQuery.Error
import EntityQuery.Path
import EntityQuery.Path.SortKey
import EntityQuery.Operator
import EntityQuery.RawText
import EntityQuery.Expr
import EntityQuery.Expr.Render
import EntityQuery.Expr.NormalForm
import EntityQuery.Expr.Equality
import EntityQuery.Predicate
import EntityQuery.Fields
import EntityQuery.Criterion
import EntityQuery.Statement.Rows
import EntityQuery.Statement.Select
import EntityQuery.Statement.Bulk
import EntityQuery.Statement.Insert
import EntityQuery.Statement
import EntityQuery.Session
import EntityQuery.Session.Run
import EntityQuery.Session.Scripted
import EntityQuery.Json
import EntityQuery.Json.Fault
import EntityQuery.Json.Number
import EntityQuery.Json.Reader
import EntityQuery.Inspect
import EntityQuery.CommandLine.Input
import EntityQuery.CommandLine.Request
import EntityQuery.CommandLine.Arguments
import EntityQuery.CommandLine
import EntityQuery.Main
import EntityQuery.Proofs.Meaning
import EntityQuery.Proofs.NormalForm
import EntityQuery.Proofs.Built
import EntityQuery.Proofs.CanonicalTrees
import EntityQuery.Proofs.Criteria
import EntityQuery.Proofs.Rendering
import EntityQuery.Proofs.Grouping
import EntityQuery.Proofs.Contexts
import EntityQuery.Proofs.EmptyTerms
import EntityQuery.Proofs.Words
import EntityQuery.Proofs.Names
import EntityQuery.Proofs.Patterns
import EntityQuery.Proofs.Wildcards
import EntityQuery.Proofs.Literals
import EntityQuery.Proofs.Tidy
import EntityQuery.Proofs.EmptyBrackets
import EntityQuery.Proofs.Grammar
import EntityQuery.Proofs.UniqueReading
import EntityQuery.Proofs.Saying
import EntityQuery.Proofs.Reading
import EntityQuery.Proofs.NestedGrammar
import EntityQuery.Proofs.Conditions
import EntityQuery.Proofs.TypedFilters
import EntityQuery.Proofs.Tokens
import EntityQuery.Proofs.FreeSpacing
import EntityQuery.Proofs.Pieces
import EntityQuery.Proofs.Injection
import EntityQuery.Proofs.Listings
import EntityQuery.Proofs.Sections
import EntityQuery.Proofs.Summaries
import EntityQuery.Proofs.Decoding
import EntityQuery.Proofs.Watching
import EntityQuery.Proofs.BulkRuns
import EntityQuery.Proofs.AutoPopulation
import EntityQuery.Proofs.Failures
import EntityQuery.Proofs.Assignments
import EntityQuery.Proofs.Spellings
import EntityQuery.Proofs.EqualTrees
import EntityQuery.Proofs.EqualRuns
import EntityQuery.Proofs.BuilderCalls
import EntityQuery.Proofs.Unions
import EntityQuery.Proofs.DeMorgan
import EntityQuery.Proofs.Brackets
import EntityQuery.Proofs.LastValues
import EntityQuery.Proofs.TypePaths
import EntityQuery.Proofs.FindOrCreate
import EntityQuery.Proofs.Backtracking
import EntityQuery.Proofs.FilterGrammar
import EntityQuery.Proofs.SortTexts
import EntityQuery.Proofs.OrderKeys
import EntityQuery.Proofs.Memberships
import EntityQuery.Proofs.StoredValues
import EntityQuery.Proofs.Reversals
import EntityQuery.Proofs.ShownQueries
import EntityQuery.Proofs.UniqueLookups
import EntityQuery.Proofs.RefusedArguments
import EntityQuery.Proofs.TypedValues
import EntityQuery.Proofs.BlankTexts
import EntityQuery.Proofs.QuotedTexts
import EntityQuery.Proofs.PathTexts
