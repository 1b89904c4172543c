import EntitySearch.Text.Blank
import EntitySearch.Text.Substring
import EntitySearch.Text.Numeral
import EntitySearch.Text.Upper
import EntitySearch.Decimal.Layout
import EntitySearch.Calendar.Pattern
import EntitySearch.Value
import EntitySearch.Fragment
import EntitySearch.Bindings
import EntitySearch.Snippet
import EntitySearch.Alias
import EntitySearch.Entity.FieldType
import EntitySearch.Error
import EntitySearch.Entity
import EntitySearch.Search.Operator
import EntitySearch.Search
import EntitySearch.Correction
import EntitySearch.Dialect
import EntitySearch.Pagination
import EntitySearch.Condition
import EntitySearch.Resolution
import EntitySearch.Text.Quoted
import EntitySearch.Json.ReadError
import EntitySearch.Json.Number
import EntitySearch.Json.Quoted
import EntitySearch.Json.Reader
import EntitySearch.Json.Record
import EntitySearch.Json.Document
import EntitySearch.Json.Forms
import EntitySearch.Request
import EntitySearch.Settings
import EntitySearch.ReadFailure
import EntitySearch.CommandLine
import EntitySearch.Main
import EntitySearch.Proofs.Snippet.Scan
import EntitySearch.Proofs.Snippet.Resolve
import EntitySearch.Proofs.Snippet.Splicing
import EntitySearch.Proofs.Snippet.Grammar
import EntitySearch.Proofs.Snippet.Remainder
import EntitySearch.Proofs.Snippet.Templates
import EntitySearch.Proofs.Assembly
import EntitySearch.Proofs.Placeholders
import EntitySearch.Proofs.Numerals
import EntitySearch.Proofs.BalancedPieces
import EntitySearch.Proofs.BindingOrder
import EntitySearch.Proofs.FreeNames
import EntitySearch.Proofs.LeastFreeNames
import EntitySearch.Proofs.GeneratedNames
import EntitySearch.Proofs.DerivedTables
import EntitySearch.Proofs.SeparateStatements
import EntitySearch.Proofs.WellFormedEntities
import EntitySearch.Proofs.UnmappedFields
import EntitySearch.Proofs.AggregatedRows
import EntitySearch.Proofs.PageWindows
import EntitySearch.Proofs.Blankness
import EntitySearch.Proofs.ValueIndependence
import EntitySearch.Proofs.Calendar.Order
import EntitySearch.Proofs.Calendar.Reading
import EntitySearch.Proofs.DayBounds
import EntitySearch.Proofs.Calendar.Instants
import EntitySearch.Proofs.Calendar.Remainder
import EntitySearch.Proofs.Calendar.Forms
import EntitySearch.Proofs.WhereClause.Token
import EntitySearch.Proofs.WhereClause.Formula
import EntitySearch.Proofs.WhereClause.Reader
import EntitySearch.Proofs.WhereClause.SelfContained
import EntitySearch.Proofs.WhereClause.Conditions
import EntitySearch.Proofs.WhereClause.Meaning
import EntitySearch.Proofs.IdleFilters
import EntitySearch.Proofs.CompositeOperators
import EntitySearch.Proofs.SortedLists
import EntitySearch.Proofs.UpperCase
import EntitySearch.Proofs.LikePatterns
import EntitySearch.Proofs.CaseFolding
import EntitySearch.Proofs.ClauseTexts
import EntitySearch.Proofs.OverlookedBindings
import EntitySearch.Proofs.SelectedFields
import EntitySearch.Proofs.ImplicitColumns
import EntitySearch.Proofs.GrowingDrafts
import EntitySearch.Proofs.Decimal.Rounding
import EntitySearch.Proofs.Json.Literals
import EntitySearch.Proofs.Json.Integers
