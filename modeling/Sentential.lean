import Sentential.Main
import Sentential.Inline.Parse
import Sentential.Formula.Stored
import Sentential.Proofs.Compilation
import Sentential.Proofs.Grammar
import Sentential.Proofs.Characters
import Sentential.Proofs.Lexemes
import Sentential.Proofs.Respelling
import Sentential.Proofs.Canonical
import Sentential.Proofs.Reading
import Sentential.Proofs.Writing
import Sentential.Proofs.Rendering
import Sentential.Proofs.RoundTrip
import Sentential.Proofs.Substitution
import Sentential.Proofs.Variables
import Sentential.Proofs.Valuation
import Sentential.Proofs.Tabulation
import Sentential.Proofs.Validity
import Sentential.Proofs.Equivalence
import Sentential.Proofs.Unwrapping
import Sentential.Proofs.Composition
import Sentential.Proofs.Enumeration
import Sentential.Proofs.Queries
import Sentential.Proofs.Construction
import Sentential.Proofs.Shape
import Sentential.Proofs.Sharing
import Sentential.Proofs.Tokens
import Sentential.Proofs.Phrases
import Sentential.Proofs.Chains
import Sentential.Proofs.Descent
import Sentential.Proofs.Notations
import Sentential.Proofs.Constituents
import Sentential.Proofs.Results
import Sentential.Proofs.History
import Sentential.Proofs.Presentation
import Sentential.Proofs.Spacing
import Sentential.Proofs.Passes
import Sentential.Proofs.Stability
import Sentential.Proofs.NormalForm
import Sentential.Proofs.Balance
import Sentential.Proofs.Names
import Sentential.Proofs.Meaning
import Sentential.Proofs.Admission
import Sentential.Proofs.Lines
import Sentential.Proofs.Printing
import Sentential.Proofs.Requests
import Sentential.Proofs.Outcome
import Sentential.Proofs.Comparisons
import Sentential.Formula.Bytes
import Sentential.Table.Bytes
import Sentential.Proofs.Nesting
import Sentential.Proofs.Enclosure
import Sentential.Proofs.Evaluation
import Sentential.Proofs.Filling
import Sentential.Proofs.Congruence
import Sentential.Proofs.Representatives
import Sentential.Rows.Odometer
import Sentential.Proofs.Progress
import Sentential.Proofs.Parentheses
import Sentential.Proofs.Headers
import Sentential.Proofs.Rereading
import Sentential.Proofs.Fragments
import Sentential.Assignment.Bytes
import Sentential.Proofs.Distinct
import Sentential.Proofs.Writes
import Sentential.Proofs.Occurrences
import Sentential.Proofs.Alignment
