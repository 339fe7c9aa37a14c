import ContextFree.Decimal.Binary64
import ContextFree.Decimal.Layout
import ContextFree.Decimal.Shortest
import ContextFree.Derivation
import ContextFree.EmptyWord
import ContextFree.Enumeration
import ContextFree.Grammar.Basic
import ContextFree.Grammar.Label
import ContextFree.Grammar.Listing
import ContextFree.Grammar.Transform
import ContextFree.Grammar.Variable
import ContextFree.Host.Address
import ContextFree.Host.Composition
import ContextFree.Host.Folding
import ContextFree.Host.Label
import ContextFree.Host.Punycode
import ContextFree.Host.Repertoire
import ContextFree.Json.Document
import ContextFree.Json.Printer
import ContextFree.Json.Token
import ContextFree.Json.Value
import ContextFree.NormalForm.Conversion
import ContextFree.NormalForm.Pair
import ContextFree.NormalForm.Standalone
import ContextFree.OrderedMap
import ContextFree.OrderedSet
import ContextFree.Reading.Entry
import ContextFree.Reading.Error
import ContextFree.Reading.Line
import ContextFree.Reading.Spelling
import ContextFree.Recognition
import ContextFree.Sampling
import ContextFree.Saturation
import ContextFree.Service.Authority
import ContextFree.Service.Reference
import ContextFree.Service.Request
import ContextFree.Service.Route
import ContextFree.Service.Session
import ContextFree.Service.Target
import ContextFree.Simplification
import ContextFree.Symbol
import ContextFree.Text.Blank
import ContextFree.Text.Capital
import ContextFree.Text.CodeRange
import ContextFree.Text.Digits
import ContextFree.Text.Encoding
import ContextFree.Text.Percent
import ContextFree.Text.Printable
import ContextFree.Text.Quoted
import ContextFree.Text.Uppercase
import ContextFree.UnitRules
import ContextFree.UsefulSymbols
import ContextFree.Proofs.Rules
import ContextFree.Proofs.RuleEdits
import ContextFree.Proofs.Derivation
import ContextFree.Proofs.WellFormed
import ContextFree.Proofs.EmptyWord
import ContextFree.Proofs.UsefulSymbols
import ContextFree.Proofs.Outcome
import ContextFree.Proofs.UnitRules
import ContextFree.Proofs.UnitClosure
import ContextFree.Proofs.UnitConvergence
import ContextFree.Proofs.Siblings
import ContextFree.Proofs.FreshLabel
import ContextFree.Proofs.Simplification
import ContextFree.Proofs.Standalone
import ContextFree.Proofs.StartSymbol
import ContextFree.Proofs.LabelBound
import ContextFree.Proofs.Recording
import ContextFree.Proofs.LabelDraws
import ContextFree.Proofs.Workspace
import ContextFree.Proofs.Contract
import ContextFree.Proofs.Evolution
import ContextFree.Proofs.Abbreviation
import ContextFree.Proofs.Sharing
import ContextFree.Proofs.Conversion
import ContextFree.Proofs.RuleReplacement
import ContextFree.Proofs.Reading
import ContextFree.Proofs.Operations
import ContextFree.Proofs.Recognition
import ContextFree.Proofs.Height
import ContextFree.Proofs.Enumeration
import ContextFree.Proofs.Sampling
import ContextFree.Proofs.SampledTrees
import ContextFree.Proofs.NormalForm
import ContextFree.Proofs.Rewriting
import ContextFree.Proofs.Emptiness
import ContextFree.Proofs.Usefulness
import ContextFree.Proofs.FixedPoints
import ContextFree.Proofs.Spelling
import ContextFree.Proofs.Labels
import ContextFree.Proofs.LineCuts
import ContextFree.Proofs.RuleLines
import ContextFree.Proofs.TwoReaders
import ContextFree.Proofs.Requests
import ContextFree.Proofs.Printing
import ContextFree.Proofs.NullableTrees
import ContextFree.Proofs.LabelSequence
import ContextFree.Proofs.LoadedRules
import ContextFree.Proofs.Processing
import ContextFree.Proofs.TableReading
import ContextFree.Proofs.ListingReading
