import VectorCalc.Text.Blank
import VectorCalc.Text.Lowercase
import VectorCalc.Text.Quoted
import VectorCalc.Decimal.Shortest
import VectorCalc.Decimal.Read
import VectorCalc.Numeral
import VectorCalc.Token
import VectorCalc.Node.Text
import VectorCalc.Token.Scan
import VectorCalc.Grammar
import VectorCalc.Evaluation
import VectorCalc.Shell
import VectorCalc.Folder
import VectorCalc.CommandLine
import VectorCalc.Main
import VectorCalc.Proofs.Expectation
import VectorCalc.Proofs.Reading
import VectorCalc.Proofs.Acceptance
import VectorCalc.Proofs.Formation
import VectorCalc.Proofs.Doubles
import VectorCalc.Proofs.Operands
import VectorCalc.Proofs.Preservation
import VectorCalc.Proofs.Session
import VectorCalc.Proofs.Dependence
import VectorCalc.Proofs.Frame
import VectorCalc.Proofs.Scanning
import VectorCalc.Proofs.LongestMatch
import VectorCalc.Proofs.Tiling
import VectorCalc.Proofs.Spelling
import VectorCalc.Proofs.ReadBack
import VectorCalc.Proofs.Image
import VectorCalc.Proofs.Commutation
import VectorCalc.Proofs.Nesting
import VectorCalc.Proofs.Reset
import VectorCalc.Proofs.Unplaced
import VectorCalc.Proofs.Layout
import VectorCalc.Proofs.Completion
import VectorCalc.Proofs.TreeLines
import VectorCalc.Proofs.Wrapping
import VectorCalc.Proofs.Pointwise
import VectorCalc.Proofs.Comparisons
import VectorCalc.Proofs.Grounding
import VectorCalc.Proofs.Provenance
import VectorCalc.Proofs.Recursion
import VectorCalc.Proofs.Separation
import VectorCalc.Proofs.Rendering
import VectorCalc.Proofs.Numerals
import VectorCalc.Proofs.Containment
import VectorCalc.Proofs.IntegerTexts
import VectorCalc.Proofs.TreeTexts
import VectorCalc.Proofs.OneLine
import VectorCalc.Proofs.Walk
import VectorCalc.Proofs.Progress
import VectorCalc.Proofs.Breakdowns
import VectorCalc.Proofs.CallLimit
