import EquationTutor.Reading.Classify
import EquationTutor.Text.Lowercase

namespace EquationTutor.Reading

variable {α : Type} [Scalar α]

/-- The coefficient in a group; a group that took no part is a unit. -/
def coefficientAt (m : Match) (i : Nat) : α :=
  parseCoefficient (m.group i)

/-- The coefficient of an optional term in a group. -/
def termAt (m : Match) (i : Nat) : α :=
  parseTerm (m.group? i)

/-- The parameters read by `f` from the first match of a shape. -/
def fromShape (shape : Pattern) (text : String) (f : Match → Params α) : Params α :=
  match shape.find? text with
  | some m => f m
  | none => .empty

/-- Sets the relation, which equations leave out. -/
def insertRelation (p : Params α) (operator : String) : Params α :=
  if operator = "=" then p else p.insertText "operator" operator

def insertCoefficient (p : Params α) (group : Option String) : Params α :=
  match group with
  | some k => p.insertNumber "coefficient" (parseCoefficient k)
  | none => p

def quadratic (text : String) : Params α :=
  fromShape Shape.quadratic text fun m =>
    insertRelation
      (((Params.empty.insertNumber "a" (coefficientAt m 1)).insertNumber "b"
        (termAt m 2)).insertNumber "c" (termAt m 3 - coefficientAt m 5))
      (m.group 4)

def wordProblem (text : String) (scenario : Option String) : String :=
  match scenario with
  | some s => if text.isEmpty then s else s!"{text} {s}"
  | none => text

/-- The function, or else an equation in standard form, with the goal that is
stated anywhere in the problem. -/
def quadraticFunction (text : String) (scenario : Option String) : Params α :=
  let p : Params α :=
    match Shape.quadraticFunction.find? text with
    | some m =>
      ((Params.empty.insertNumber "a" (coefficientAt m 1)).insertNumber "b"
        (termAt m 2)).insertNumber "c" (termAt m 3)
    | none => quadratic text
  match Shape.optimizationGoal.find? (wordProblem text scenario) with
  | some m =>
    p.insertText "goal"
      (if Text.lowercaseAscii (m.group 1) = "minim" then "minimize" else "maximize")
  | none => p

def eitherGroup (m : Match) : Option α :=
  ((m.group? 1).orElse fun _ => m.group? 2).map parseCoefficient

def insertNumber? (p : Params α) (key : String) : Option α → Params α
  | some v => p.insertNumber key v
  | none => p

/-- Launch data from the height function, or else from the words. -/
def launch (text words : String) : Params α :=
  match Shape.heightFunction.find? text with
  | some m =>
    ((Params.empty.insertNumber "gravity" (-coefficientAt m 1)).insertNumber
      "initial_velocity" (termAt m 2)).insertNumber "initial_height" (termAt m 3)
  | none =>
    insertNumber?
      (insertNumber? .empty "initial_velocity"
        ((Shape.initialVelocity.find? words).bind eitherGroup))
      "initial_height" ((Shape.initialHeight.find? words).bind eitherGroup)

/-- The height that is asked about; the ground is at height 0. -/
def targetHeight (words : String) : Option α :=
  match Shape.targetHeight.find? words with
  | some m => some (coefficientAt m 1)
  | none => if Shape.hitsGround.occursIn words then some 0 else none

def projectile (text : String) (scenario : Option String) : Params α :=
  let words := wordProblem text scenario
  (insertNumber? (launch text words) "target_height" (targetHeight words)).insertText "units"
    (if Shape.metricUnits.occursIn words then "metric" else "imperial")

def exponentialInequality (text : String) : Params α :=
  fromShape Shape.exponentialInequality text fun m =>
    insertCoefficient
      (((Params.empty.insertNumber "base" (baseValue (m.group 2))).insertText "operator"
        (m.group 3)).insertNumber "bound" (coefficientAt m 4))
      (m.group? 1)

def exponentialQuadratic (text : String) : Params α :=
  fromShape Shape.exponentialQuadratic text fun m =>
    (((Params.empty.insertNumber "a" (coefficientAt m 1)).insertNumber "base"
      (baseValue (m.group 2))).insertNumber "b" (coefficientAt m 3)).insertNumber "c"
      (termAt m 5 - coefficientAt m 6)

def naturalExponential (text : String) : Params α :=
  fromShape Shape.naturalExponential text fun m =>
    insertCoefficient
      ((Params.empty.insertNumber "rate" (coefficientAt m 2)).insertNumber "result"
        (coefficientAt m 3))
      (m.group? 1)

def simpleExponential (text : String) : Params α :=
  fromShape Shape.simpleExponential text fun m =>
    insertCoefficient
      ((Params.empty.insertNumber "base" (coefficientAt m 2)).insertNumber "result"
        (coefficientAt m 3))
      (m.group? 1)

def logarithm (text : String) : Params α :=
  match Shape.naturalLogarithm.find? text with
  | some m =>
    (Params.empty.insertText "base" "e").insertNumber "result" (coefficientAt m 1)
  | none =>
    fromShape Shape.logarithm text fun m =>
      (Params.empty.insertNumber "base" (((m.group? 1).map parseCoefficient).getD 10)).insertNumber
        "result" (coefficientAt m 2)

def linear (text : String) : Params α :=
  fromShape Shape.linear text fun m =>
    insertRelation
      (((Params.empty.insertNumber "m" (coefficientAt m 1)).insertNumber "b"
        (termAt m 2)).insertNumber "c" (coefficientAt m 4))
      (m.group 3)

/-- The coefficients of the first two equations, numbered. -/
def system (text : String) : Params α :=
  ((Shape.linearTwoVariables.findAll text).take 2).zipIdx.foldl
    (fun p e =>
      ((p.insertNumber s!"a{e.2 + 1}" (coefficientAt e.1 1)).insertNumber s!"b{e.2 + 1}"
        (coefficientAt e.1 2)).insertNumber s!"c{e.2 + 1}" (coefficientAt e.1 3))
    .empty

def rate (words : String) : Option α :=
  (Shape.percent.find? words).map fun m => coefficientAt m 1 / 100

def time (words : String) : Option α :=
  (Shape.duration.find? words).map fun m => coefficientAt m 1

def insertRateAndTime (p : Params α) (words : String) : Params α :=
  insertNumber? (insertNumber? p "rate" (rate words)) "time" (time words)

def insertFrequency (p : Params α) (w : String) : Params α :=
  if w = "annually" || w = "yearly" then p.insertNumber "frequency" 1
  else if w = "semiannually" || w = "semi-annually" then p.insertNumber "frequency" 2
  else if w = "quarterly" then p.insertNumber "frequency" 4
  else if w = "monthly" then p.insertNumber "frequency" 12
  else if w = "weekly" then p.insertNumber "frequency" 52
  else if w = "daily" then p.insertNumber "frequency" 365
  else p.insertText "compounding" "continuous"

/-- The first amount that is reached. -/
def targetAmount (words : String) : Option Capture :=
  (Shape.targetMoney.find? words).bind fun m => m.capture? 1

/-- The first amount at another place than the one that is reached. -/
def principalAmount (words : String) : Option Capture :=
  let target := (targetAmount words).map Capture.offset
  ((Shape.money.findAll words).filterMap fun m => m.capture? 1).find? fun c =>
    some c.offset ≠ target

def compoundInterest (text : String) (scenario : Option String) : Params α :=
  let words := wordProblem text scenario
  let amountOf (c : Option Capture) : Option α := c.map fun c => parseAmount c.text
  let p :=
    insertRateAndTime
      (insertNumber? (insertNumber? .empty "final_amount" (amountOf (targetAmount words)))
        "principal" (amountOf (principalAmount words)))
      words
  match Shape.frequency.find? words with
  | some m => insertFrequency p (Text.lowercaseAscii (m.group 1))
  | none => p

def initialAmount (words : String) : Option α :=
  (Shape.initialAmount.find? words).map fun m => parseAmount (m.group 1)

def growth (text : String) (scenario : Option String) : Params α :=
  let words := wordProblem text scenario
  let p := insertRateAndTime (insertNumber? .empty "initial" (initialAmount words)) words
  if Shape.continuous.occursIn words then p.insertText "model" "continuous" else p

def halfLife (text : String) (scenario : Option String) : Params α :=
  let words := wordProblem text scenario
  let p : Params α :=
    match Shape.halfLife.find? words with
    | some m => Params.empty.insertNumber "half_life" (coefficientAt m 1)
    | none =>
      fromShape Shape.doublingTime words fun m =>
        Params.empty.insertNumber "doubling_time" (coefficientAt m 1)
  insertNumber? (insertNumber? p "initial" (initialAmount words)) "time" (time words)

def extract (kind : Kind) (text : String) (scenario : Option String) : Params α :=
  match kind with
  | .quadraticInequality | .factoringQuadratic | .completingSquare | .quadraticFormula
  | .standardQuadratic => quadratic text
  | .projectileMotion => projectile text scenario
  | .quadraticOptimization => quadraticFunction text scenario
  | .exponentialInequality => exponentialInequality text
  | .exponentialQuadratic => exponentialQuadratic text
  | .naturalExponential => naturalExponential text
  | .simpleExponential => simpleExponential text
  | .logarithmicEquation => logarithm text
  | .compoundInterest => compoundInterest text scenario
  | .exponentialGrowth | .exponentialDecay => growth text scenario
  | .halfLife => halfLife text scenario
  | .linearInequality | .simpleLinear => linear text
  | .linearSystem => system text

end EquationTutor.Reading
