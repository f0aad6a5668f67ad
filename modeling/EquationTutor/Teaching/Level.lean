import EquationTutor.Text.Blank
import EquationTutor.Text.Lowercase

namespace EquationTutor.Teaching

inductive Level where
  | basic
  | intermediate
  | detailed
  | scaffolded
  deriving DecidableEq

namespace Level

def all : List Level :=
  [basic, intermediate, detailed, scaffolded]

def name : Level → String
  | basic => "basic"
  | intermediate => "intermediate"
  | detailed => "detailed"
  | scaffolded => "scaffolded"

def ofName? (s : String) : Option Level :=
  all.find? fun l => l.name = s

/-- Reads a level, in either case and with blanks around it. -/
def ofText? (s : String) : Option Level :=
  ofName? (Text.lowercaseAscii (Text.trim s))

def unknownText (s : String) : String :=
  s!"unknown explanation level '{s}'"

/-- Whether the main idea of each step is highlighted. -/
def highlights : Level → Bool
  | detailed | scaffolded => true
  | basic | intermediate => false

end Level

end EquationTutor.Teaching
