import EquationTutor.Problem.Basic
import EquationTutor.Reading.Extract
import EquationTutor.Reading.Normalize

namespace EquationTutor.Reading

structure Question (α : Type) where
  equation : Option String
  scenario : Option String
  kindName : Option String
  parameters : Option (Params α)
  context : Option String

variable {α : Type} [Scalar α]

/-- Classifies the question and reads its parameters; those given outright
override what the text says. -/
def parseProblem (q : Question α) : Except (Failure α) (Problem α) :=
  let input := q.equation.getD ""
  let normalized := normalize input
  let scenario := (q.scenario.map normalize).filter fun s => !s.isEmpty
  let given := q.parameters.getD .empty
  (classify normalized scenario q.kindName given).map fun c =>
    { input := input
      normalized := normalized
      kind := c.kind
      scenario := scenario
      parameters := (extract c.kind normalized scenario).merge given
      context := q.context }

end EquationTutor.Reading
