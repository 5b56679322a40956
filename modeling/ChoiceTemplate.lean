import ChoiceTemplate.Diagnostic
import ChoiceTemplate.Main
import ChoiceTemplate.Proofs.Defaults
import ChoiceTemplate.Proofs.Splitting
import ChoiceTemplate.Proofs.Resolution
import ChoiceTemplate.Proofs.RoundTrip
import ChoiceTemplate.Proofs.Concatenation
import ChoiceTemplate.Proofs.Redundancy
import ChoiceTemplate.Proofs.Filling
import ChoiceTemplate.Proofs.LetterCase
import ChoiceTemplate.Proofs.Literal
import ChoiceTemplate.Proofs.Linting
import ChoiceTemplate.Proofs.UppercaseWarning
import ChoiceTemplate.Proofs.Folding
import ChoiceTemplate.Proofs.UppercaseEscapes
import ChoiceTemplate.Proofs.Separators
import ChoiceTemplate.Proofs.JoinedTemplates
import ChoiceTemplate.Proofs.NumberLiterals
import ChoiceTemplate.Proofs.IgnoringCase
import ChoiceTemplate.Proofs.Descent
import ChoiceTemplate.Proofs.SkippedPatterns
import ChoiceTemplate.Proofs.ComparisonBounds
import ChoiceTemplate.Proofs.LinePositions
import ChoiceTemplate.Proofs.ExactIntegers
import ChoiceTemplate.Proofs.Numerals
import ChoiceTemplate.Proofs.SelectorForms
import ChoiceTemplate.Proofs.Counts
import ChoiceTemplate.Proofs.Bands
import ChoiceTemplate.Proofs.OutsideReferences
import ChoiceTemplate.Proofs.LongestLiteral
import ChoiceTemplate.Proofs.NearestNumber
import ChoiceTemplate.Proofs.IntegerReader
import ChoiceTemplate.Proofs.SelectorGrammar
import ChoiceTemplate.Proofs.ShadowedDefaults
import ChoiceTemplate.Proofs.ReportShape
import ChoiceTemplate.Proofs.Quotes
import ChoiceTemplate.Proofs.Checking
import ChoiceTemplate.Proofs.Edits
import ChoiceTemplate.Proofs.EditTable
import ChoiceTemplate.Proofs.KeywordTypos
import ChoiceTemplate.Proofs.SymbolSplitting
import ChoiceTemplate.Proofs.PushedPairs
import ChoiceTemplate.Proofs.KeywordTemplates
import ChoiceTemplate.Proofs.ByteOrder
import ChoiceTemplate.Proofs.LastValues
import ChoiceTemplate.Proofs.ValueSources
import ChoiceTemplate.Proofs.UnescapedLetters
