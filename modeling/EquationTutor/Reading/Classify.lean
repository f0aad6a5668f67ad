import EquationTutor.Failure
import EquationTutor.Problem.Basic
import EquationTutor.Reading.Recognizers
import EquationTutor.Reading.Shape
/-!
Which kind of problem a text states. A kind that is named outright is taken;
else the first recognizer of the catalog that matches decides, and where none
does the names of the parameters may tell.
-/

namespace EquationTutor.Reading

inductive Source where
  | explicit
  /-- The recognizer at `index` matched, on the scenario if not on the text. -/
  | recognizer (index : Nat) (onScenario : Bool)
  | parameters
  deriving DecidableEq

structure Classification where
  kind : Kind
  source : Source
  deriving DecidableEq

def Recognizer.classify? (r : Recognizer) (text : String) (scenario : Option String) :
    Option Classification :=
  if !text.isEmpty && r.pattern.occursIn text then some ⟨r.kind, .recognizer r.index false⟩
  else if scenario.any r.pattern.occursIn then some ⟨r.kind, .recognizer r.index true⟩
  else none

variable {α : Type} [Scalar α]

def baseValue (s : String) : α :=
  if Text.trim s = "e" then Scalar.euler else parseCoefficient s

variable (α) in
/-- The two bases of an exponential quadratic when they are different numbers. -/
def mixedBases (text : String) : Option (String × String) :=
  match Shape.exponentialQuadratic.find? text with
  | none => none
  | some m =>
    let first := m.group 2
    let second := m.group 4
    if Scalar.isZero (baseValue first - baseValue second : α) then none
    else some (first, second)

/-- The kind that the names of the parameters point to. -/
def kindOfParams? (p : Params α) : Option Kind :=
  if !p.hasNumbers then none
  else if p.contains "a1" then some .linearSystem
  else if p.contains "initial_velocity" || p.contains "initial_height" then
    some .projectileMotion
  else if p.contains "principal" then some .compoundInterest
  else if p.contains "base" then some .simpleExponential
  else if p.contains "m" then some .simpleLinear
  else if ["a", "b", "c"].any p.contains then some .standardQuadratic
  else none

def recognize (text : String) (scenario : Option String) (p : Params α) :
    Except (Failure α) Classification :=
  match catalog.findSome? fun r => r.classify? text scenario with
  | some c =>
    if c.kind = .exponentialQuadratic && (mixedBases α text).isSome then
      .error (.unrecognized text)
    else .ok c
  | none =>
    match kindOfParams? p with
    | some kind => .ok ⟨kind, .parameters⟩
    | none => .error (.unrecognized (if text.isEmpty then scenario.getD "" else text))

def classify (text : String) (scenario : Option String) (kindName : Option String)
    (p : Params α) : Except (Failure α) Classification :=
  let name := Text.trim (kindName.getD "")
  if name.isEmpty then recognize text scenario p
  else
    match Kind.ofName? name with
    | some kind => .ok ⟨kind, .explicit⟩
    | none => .error (.unknownKind name)

end EquationTutor.Reading
