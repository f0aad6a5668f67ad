import EquationTutor.Problem.Basic
import EquationTutor.Step.Exponential
import EquationTutor.Step.Growth
import EquationTutor.Step.Linear

namespace EquationTutor

variable {α : Type} [Scalar α]

/-- The steps of the method that gave the solution. -/
def Solution.outline (s : Solution α) (kind : Kind) : List Step :=
  match s.detail with
  | .quadratic d => Step.ofQuadratic d s.set
  | .factoring d => Step.ofFactoring d s.set
  | .completingSquare d => Step.ofSquare d s.set
  | .quadraticInequality d => Step.ofQuadraticInequality d s.label
  | .projectile d => Step.ofProjectile d
  | .vertexAnalysis d => Step.ofVertex d
  | .linearInequality d => Step.ofLinearInequality d s.label
  | .exponentialInequality d => Step.ofExponentialInequality d s.label
  | .exponentialQuadratic d => Step.ofExponentialQuadratic d s.set
  | .exponential d => Step.ofExponential d s.set
  | .logarithmic d => Step.ofLogarithmic d s.set
  | .growth d => Step.ofGrowth kind d
  | .halfLife d => Step.ofHalfLife d
  | .linear d => Step.ofLinear d s
  | .system d => Step.ofSystem d s

/-- The worked solution of a problem of the given kind. -/
def Solution.steps (s : Solution α) (kind : Kind) : List Step :=
  Step.numberFrom 1 (s.outline kind)

end EquationTutor
