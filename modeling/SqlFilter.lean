import SqlFilter.Document.Json
import SqlFilter.Filter.Reading
import SqlFilter.Query.Render
import SqlFilter.Statement.Scanner
import SqlFilter.Value.Send
import SqlFilter.Value.Wire
import SqlFilter.Proofs.Checks
import SqlFilter.Proofs.Outcome
import SqlFilter.Proofs.Atomicity
import SqlFilter.Proofs.Binding
import SqlFilter.Proofs.Reachable
import SqlFilter.Proofs.Matching
import SqlFilter.Proofs.Emitted
import SqlFilter.Proofs.ParamNames
import SqlFilter.Proofs.Fragment
import SqlFilter.Proofs.LexicalSafety
import SqlFilter.Proofs.Numbering
import SqlFilter.Proofs.Pieces
import SqlFilter.Proofs.Positional
import SqlFilter.Proofs.ParamBag
import SqlFilter.Proofs.LocalRule
import SqlFilter.Proofs.Noninterference
import SqlFilter.Proofs.History
import SqlFilter.Proofs.Fields
import SqlFilter.Proofs.Precedence
import SqlFilter.Proofs.Requirements
import SqlFilter.Proofs.ValueTypes
import SqlFilter.Proofs.Predicate
import SqlFilter.Proofs.SelectedRows
import SqlFilter.Proofs.Growth
import SqlFilter.Proofs.Plan
import SqlFilter.Proofs.Companion
import SqlFilter.Proofs.Places
import SqlFilter.Proofs.Independence
import SqlFilter.Proofs.Separators
import SqlFilter.Proofs.Conjunction
import SqlFilter.Proofs.LikePattern
import SqlFilter.Proofs.ColumnGrammar
import SqlFilter.Proofs.Paging
import SqlFilter.Proofs.FlagBits
import SqlFilter.Proofs.Bounds
import SqlFilter.Proofs.TakenPlaces
import SqlFilter.Proofs.NamerLogs
import SqlFilter.Proofs.Renumbering
import SqlFilter.Proofs.FreeText
import SqlFilter.Proofs.CustomRules
import SqlFilter.Proofs.FoldedLists
import SqlFilter.Proofs.ParamOrder
import SqlFilter.Proofs.Collecting
import SqlFilter.Proofs.Sanitizing
import SqlFilter.Proofs.WireReader
import SqlFilter.Proofs.WireDecimal
import SqlFilter.Proofs.WireLibrary
import SqlFilter.Proofs.WireRoundTrip
import SqlFilter.Proofs.Slices
import SqlFilter.Proofs.Scanning
import SqlFilter.Proofs.ScannedSpans
