import EquationTutor.Problem.Basic
import EquationTutor.Solve.CompletingSquare
import EquationTutor.Solve.Exponential
import EquationTutor.Solve.Factoring
import EquationTutor.Solve.Growth
import EquationTutor.Solve.Linear
import EquationTutor.Solve.Projectile
import EquationTutor.Solve.Vertex

namespace EquationTutor

variable {α : Type} [Scalar α]

open Solve

def solveKind (kind : Kind) (p : Params α) : Except (Failure α) (Solution α) :=
  match kind with
  | .standardQuadratic | .quadraticFormula => solveQuadratic kind p
  | .factoringQuadratic => solveFactoring p
  | .completingSquare => solveCompletingSquare p
  | .quadraticInequality => solveQuadraticInequality p
  | .projectileMotion => solveProjectile p
  | .quadraticOptimization => solveVertex p
  | .linearInequality => solveLinearInequality p
  | .exponentialInequality => solveExponentialInequality p
  | .exponentialQuadratic => solveExponentialQuadratic p
  | .simpleExponential => solveSimpleExponential p
  | .naturalExponential => solveNaturalExponential p
  | .logarithmicEquation => solveLogarithmic p
  | .compoundInterest | .exponentialGrowth | .exponentialDecay => solveGrowth kind p
  | .halfLife => solveHalfLife p
  | .simpleLinear => solveLinear p
  | .linearSystem => solveSystem p

def Problem.solve (problem : Problem α) : Except (Failure α) (Solution α) :=
  solveKind problem.kind problem.parameters

end EquationTutor
