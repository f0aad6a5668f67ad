import EquationTutor.Main
import EquationTutor.Proofs.Session.History
import EquationTutor.Proofs.Exact.Numbers
import EquationTutor.Proofs.Exact.Relations
import EquationTutor.Proofs.Exact.QuadraticInequality
import EquationTutor.Proofs.Pattern.Takes
import EquationTutor.Proofs.Reading.ExponentTexts
import EquationTutor.Proofs.Polynomial.Faithful
import EquationTutor.Proofs.Verification.Confidence
import EquationTutor.Proofs.Verification.Soundness
import EquationTutor.Proofs.Exact.Residual
import EquationTutor.Proofs.Exact.Strategies
import EquationTutor.Proofs.Verification.Agreement
import EquationTutor.Proofs.Solution.WellFormed
import EquationTutor.Proofs.Exact.Ascending
import EquationTutor.Proofs.Exact.GrowthInverse
import EquationTutor.Proofs.RoundTrip.FirstStep
import EquationTutor.Proofs.Teaching.Decoration
import EquationTutor.Proofs.Finite.Answers
import EquationTutor.Proofs.Solution.Explained
import EquationTutor.Proofs.Problem.LastWriter
import EquationTutor.Proofs.Reading.Spacing
import EquationTutor.Proofs.Json.Solutions
import EquationTutor.Proofs.Teaching.Direction
import EquationTutor.Proofs.Double.IntegerOrder
import EquationTutor.Proofs.Factoring.WordSearch
import EquationTutor.Proofs.Factoring.IntegerQuadratics
import EquationTutor.Proofs.Double.Linear
import EquationTutor.Proofs.Inequality.Cells
import EquationTutor.Proofs.Inequality.Canonical
import EquationTutor.Proofs.Teaching.Phrases
import EquationTutor.Proofs.Exact.RootSums
import EquationTutor.Proofs.Exponential.Relations
import EquationTutor.Proofs.Exponential.Quadratics
import EquationTutor.Proofs.Double.IntegerArithmetic
import EquationTutor.Proofs.Solution.IntegerSystems
import EquationTutor.Proofs.Exact.PositiveRoots
import EquationTutor.Proofs.Reading.Scripts
import EquationTutor.Proofs.Canonical.Coefficients
import EquationTutor.Proofs.Canonical.Endings
import EquationTutor.Proofs.Canonical.Quadratics
import EquationTutor.Proofs.Canonical.Systems
import EquationTutor.Proofs.Canonical.LinearRelations
import EquationTutor.Proofs.Exact.LinearInequality
import EquationTutor.Proofs.Exact.Vertex
import EquationTutor.Proofs.Exact.Projectile
import EquationTutor.Proofs.Reading.Idempotence
import EquationTutor.Proofs.Reading.CatalogOrder
import EquationTutor.Proofs.Reading.Amounts
import EquationTutor.Proofs.Reading.Money
import EquationTutor.Proofs.Teaching.PlainWords
import EquationTutor.Proofs.Reading.TimeUnits
import EquationTutor.Proofs.CommandLine.Parameters
import EquationTutor.Proofs.Inequality.SamplePoints
import EquationTutor.Proofs.Verification.OutsidePoint
import EquationTutor.Proofs.Double.Overflow
import EquationTutor.Proofs.Numeric.NormalForm
import EquationTutor.Proofs.Double.Decimals
import EquationTutor.Proofs.Numeric.FiniteCoefficients
