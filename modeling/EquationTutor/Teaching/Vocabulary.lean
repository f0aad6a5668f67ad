import EquationTutor.Pattern.Search
import EquationTutor.Teaching.Level

namespace EquationTutor.Teaching

/-- The terms replaced at a level, in the order of replacement. Scaffolded
explanations are for the same reader as basic ones. -/
def replacements : Level → List (String × String)
  | .basic | .scaffolded =>
    [("discriminant", "number that tells us about solutions"),
     ("coefficients", "numbers in front of the terms"),
     ("coefficient", "number in front"),
     ("quadratic", "x-squared"),
     ("logarithm", "log (the undo button for powers)"),
     ("exponential", "repeated-multiplication"),
     ("conjugates", "mirror-image pairs"),
     ("determinant", "cross-multiplication number"),
     ("interval notation", "range notation"),
     ("critical points", "boundary points")]
  | .intermediate =>
    [("critical points", "critical points (where the expression equals zero)")]
  | .detailed =>
    [("discriminant", "discriminant (Δ = b² - 4ac)"),
     ("quadratic formula", "quadratic formula x = (-b ± √Δ) / 2a"),
     ("zero product property", "zero product property (AB = 0 ⇒ A = 0 or B = 0)"),
     ("perfect square", "perfect square trinomial"),
     ("determinant", "determinant D = a₁b₂ - a₂b₁"),
     ("power rule", "power rule ln(aⁿ) = n·ln(a)")]

def termPattern (term : String) : Pattern :=
  .cat [.boundary, .word term, .boundary]

def replaceTerm (text : String) (entry : String × String) : String :=
  (termPattern entry.1).replaceAll entry.2 text

def rephrase (level : Level) (text : String) : String :=
  (replacements level).foldl replaceTerm text

end EquationTutor.Teaching
