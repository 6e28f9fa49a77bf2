import Phrasebook.Catalog.Basic
import Phrasebook.Catalog.Extraction
import Phrasebook.Catalog.Folder
import Phrasebook.Catalog.Validation
import Phrasebook.CommandLine.Arguments
import Phrasebook.CommandLine.NoteFilter
import Phrasebook.CommandLine.NoteRule
import Phrasebook.CommandLine.Notes
import Phrasebook.CommandLine.Run
import Phrasebook.Date.Basic
import Phrasebook.Date.Text
import Phrasebook.Domain
import Phrasebook.Error
import Phrasebook.FileTree.Basic
import Phrasebook.Json.Basic
import Phrasebook.Json.Numeral
import Phrasebook.Json.Reader
import Phrasebook.Json.Text
import Phrasebook.Json.Token
import Phrasebook.Json.Writer
import Phrasebook.Language.Basic
import Phrasebook.Language.Chain
import Phrasebook.Language.Standard
import Phrasebook.Main
import Phrasebook.Metrics
import Phrasebook.Number.Basic
import Phrasebook.Number.Decimal
import Phrasebook.Number.Rank
import Phrasebook.Number.Reader
import Phrasebook.Pattern.Basic
import Phrasebook.Pattern.Key
import Phrasebook.Pattern.Rendering
import Phrasebook.Placeholder
import Phrasebook.Proofs.First
import Phrasebook.Proofs.Language.Chain
import Phrasebook.Proofs.Language.Nearest
import Phrasebook.Proofs.Language.Resolution
import Phrasebook.Proofs.Pattern.Faults
import Phrasebook.Proofs.Pattern.Filling
import Phrasebook.Proofs.Pattern.Identity
import Phrasebook.Proofs.Pattern.Keys
import Phrasebook.Proofs.Pattern.Reading
import Phrasebook.Proofs.Pattern.Selection
import Phrasebook.Proofs.Pattern.Transfer
import Phrasebook.Proofs.Placeholder.Tag
import Phrasebook.Proofs.Registry.Coverage
import Phrasebook.Proofs.Registry.Decision
import Phrasebook.Proofs.Registry.DomainReach
import Phrasebook.Proofs.Registry.Extending
import Phrasebook.Proofs.Registry.Outcome
import Phrasebook.Proofs.Registry.TextReach
import Phrasebook.Proofs.Registry.Untranslated
import Phrasebook.Proofs.Text.Segmentation
import Phrasebook.Registry.Basic
import Phrasebook.Registry.Rendering
import Phrasebook.RegularExpression.Atom
import Phrasebook.RegularExpression.CharClass
import Phrasebook.RegularExpression.Height
import Phrasebook.RegularExpression.Mode
import Phrasebook.RegularExpression.Reader
import Phrasebook.Settings.Basic
import Phrasebook.Settings.VariableFile
import Phrasebook.Source.Call
import Phrasebook.Source.Codebase
import Phrasebook.Text.Blank
import Phrasebook.Text.CharRange
import Phrasebook.Text.Digits
import Phrasebook.Text.Hidden
import Phrasebook.Text.Occurrence
import Phrasebook.Text.Place
import Phrasebook.Text.Quoted
import Phrasebook.Text.Reserved
import Phrasebook.Text.Segment
import Phrasebook.Text.Sorted
import Phrasebook.Text.Word
import Phrasebook.Value
import Phrasebook.Proofs.Catalog.Merge
import Phrasebook.Proofs.Catalog.Validation
import Phrasebook.Proofs.Language.Built
import Phrasebook.Proofs.Registry.Operation
import Phrasebook.Proofs.Registry.Representation
import Phrasebook.Proofs.FileTree.Writing
import Phrasebook.Proofs.Json.Reading
import Phrasebook.Proofs.Catalog.File
import Phrasebook.Proofs.Catalog.Extraction
import Phrasebook.Proofs.Source.Extraction
import Phrasebook.Proofs.Registry.Loading
import Phrasebook.Proofs.Registry.Workflow
import Phrasebook.Proofs.Language.Walk
import Phrasebook.Proofs.Registry.Growth
import Phrasebook.Proofs.Placeholder.Form
import Phrasebook.Proofs.Registry.UnknownCode
import Phrasebook.Proofs.Registry.Accounting
import Phrasebook.Proofs.Text.ByteOrder
import Phrasebook.Proofs.Catalog.RoundTrip
import Phrasebook.Proofs.Language.Limit
import Phrasebook.Proofs.Pattern.Substitution
import Phrasebook.Proofs.FileTree.Directories
import Phrasebook.Proofs.CommandLine.Reextraction
import Phrasebook.Proofs.Text.Fragment
import Phrasebook.Proofs.Pattern.Acceptance
import Phrasebook.Proofs.Pattern.Relevance
import Phrasebook.Proofs.Catalog.Pairing
import Phrasebook.Proofs.Catalog.DerivedKey
import Phrasebook.Proofs.Source.Literal
import Phrasebook.Proofs.Source.Search
import Phrasebook.Proofs.Date.Reading
import Phrasebook.Proofs.Language.Dates
import Phrasebook.Proofs.Pattern.Ambiguity
import Phrasebook.Proofs.Registry.ChainLoading
import Phrasebook.Proofs.CommandLine.Effect
import Phrasebook.Proofs.Number.Rank
import Phrasebook.Proofs.Number.Decimal
import Phrasebook.Proofs.Number.Whole
import Phrasebook.Proofs.Json.Numeral
import Phrasebook.Proofs.Language.Numbers
import Phrasebook.Proofs.Registry.Numbers
import Phrasebook.Proofs.Text.StrayBrace
import Phrasebook.Proofs.Catalog.Errors
import Phrasebook.Proofs.CommandLine.Checking
