import EquationTutor.Step.Move

namespace EquationTutor

structure Step where
  number : Nat
  /-- The title of the move. -/
  name : String
  description : String
  expression : Option String
  /-- What the step starts from, when it transforms an expression. -/
  before : Option String
  after : Option String
  operation : Option String
  reasoning : String
  rule : Option String
  hint : Option String
  formula : Option String
  isFinal : Bool
  deriving DecidableEq

namespace Step

/-- A step that says no more than what is done. -/
def of (m : Move) (description : String) : Step :=
  ⟨0, m.title, description, none, none, none, none, "", none, none, none, false⟩

def withExpression (s : Step) (text : String) : Step :=
  { s with expression := some text }

def transform (s : Step) (before after : String) : Step :=
  { s with before := some before, after := some after }

def withOperation (s : Step) (text : String) : Step :=
  { s with operation := some text }

def withReasoning (s : Step) (text : String) : Step :=
  { s with reasoning := text }

def withRule (s : Step) (text : String) : Step :=
  { s with rule := some text }

def withHint (s : Step) (text : String) : Step :=
  { s with hint := some text }

def withFormula (s : Step) (text : String) : Step :=
  { s with formula := some text }

/-- What the step arrives at. -/
def result (s : Step) : Option String :=
  s.after.orElse fun _ => s.expression

/-- The steps counted from `n`, the last of them marked as final. -/
def numberFrom (n : Nat) : List Step → List Step
  | [] => []
  | [s] => [{ s with number := n, isFinal := true }]
  | s :: ss => { s with number := n, isFinal := false } :: numberFrom (n + 1) ss

end Step

end EquationTutor
