import CellCalc.Evaluation.Session
import CellCalc.Expr.Outline
import CellCalc.Expr.Printer
import CellCalc.Proofs.CellIds
import CellCalc.Proofs.EditHistory
import CellCalc.Proofs.Finding
import CellCalc.Proofs.Grammar
import CellCalc.Proofs.ParserExact
import CellCalc.Proofs.Lookahead
import CellCalc.Proofs.ViablePrefixes
import CellCalc.Proofs.Lexemes
import CellCalc.Proofs.DecimalValue
import CellCalc.Proofs.LexerExact
import CellCalc.Proofs.FormedTrees
import CellCalc.Proofs.FormulaRoundTrip
import CellCalc.Proofs.Footprint
import CellCalc.Proofs.IdSpellings
import CellCalc.Proofs.RegularTrees
import CellCalc.Proofs.Renderings
import CellCalc.Proofs.PrintedTrees
import CellCalc.Proofs.EvaluationFailures
import CellCalc.Proofs.ParseFailures
import CellCalc.Proofs.FormulaSafety
import CellCalc.Proofs.CellOutcomes
import CellCalc.Proofs.Numberless
import CellCalc.Proofs.SheetTables
import CellCalc.Proofs.EvaluationLog
import CellCalc.Proofs.FailureKinds
import CellCalc.Proofs.CaseVariants
import CellCalc.Proofs.ParserRuns
import CellCalc.Proofs.ResumedReadings
import CellCalc.Proofs.ArithmeticTrees
import CellCalc.Proofs.EditEffect
import CellCalc.Proofs.ColumnCodes
import CellCalc.Proofs.Rectangles
import CellCalc.Proofs.SheetReadings
import CellCalc.Proofs.Aggregates
import CellCalc.Proofs.Extremes
import CellCalc.Proofs.RangeCuts
import CellCalc.Proofs.SeparateBatches
import CellCalc.Proofs.LatestEntries
import CellCalc.Proofs.SessionAnswers
import CellCalc.Proofs.Registrations
import CellCalc.Proofs.DistinctOutlines
import CellCalc.Proofs.ColumnOrder
import CellCalc.Proofs.Respelling
import CellCalc.Proofs.LeadingNumbers
import CellCalc.Proofs.SpacedTexts

/-!
# CellCalc — formulas over the cells of a sheet

A formula is read into lexemes, the lexemes into a tree, and the tree is evaluated over a source of
cells. Here nothing limits how deeply a formula is nested, nor the size of texts, trees, numbers and
ranges, but for the digits of integers that are read or written. The stack and the memory of a host
do have limits, and what it does at them is left out.
-/
