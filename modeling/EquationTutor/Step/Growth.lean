import EquationTutor.Solution.Basic
import EquationTutor.Step.Basic

namespace EquationTutor.Step

variable {α : Type} [Scalar α]

def quantities : List Quantity :=
  [.principal, .finalAmount, .rate, .time]

def compoundingText : GrowthLaw α → List String
  | .periodic n => if n == 1 then [] else [s!"n = {shown n}"]
  | .continuous => ["compounded continuously"]

def knownText (d : GrowthDetail α) : String :=
  let known := quantities.filter fun q => q ≠ d.solvedFor
  ", ".intercalate
    ((known.map fun q => s!"{q.symbol} = {shown (d.valueOf q)}") ++ compoundingText d.law)

/-- A quantity in the formula: its symbol if it is the unknown. -/
def substituted (d : GrowthDetail α) (q : Quantity) : String :=
  if q = d.solvedFor then q.symbol else shown (d.valueOf q)

/-- The formula with the known values in place. -/
def substitutedFormula (kind : Kind) (d : GrowthDetail α) : String :=
  let p := substituted d .principal
  let a := substituted d .finalAmount
  let r := substituted d .rate
  let t := substituted d .time
  let sign := match d.trend with
    | .growth => "+"
    | .decay => "-"
  match d.law with
  | .continuous =>
    let minus := if d.trend = .decay then "-" else ""
    s!"{a} = {p}·e^({minus}{r}·{t})"
  | .periodic n =>
    if kind = .compoundInterest then
      s!"{a} = {p}(1 {sign} {r}/{shown n})^({shown n}·{t})"
    else s!"{a} = {p}(1 {sign} {r})^{t}"

def growthMethod (d : GrowthDetail α) : String :=
  match d.solvedFor, d.law with
  | .finalAmount, _ => "evaluate the formula"
  | .principal, _ => "divide the final amount by the growth factor"
  | .time, .continuous => "t = ln(A/P) / r"
  | .time, .periodic _ => "t = ln(A/P) / (n·ln(1 ± r/n))"
  | .rate, .continuous => "r = ln(A/P) / t"
  | .rate, .periodic _ => "r = n·((A/P)^(1/(nt)) - 1)"

def unknownStep (d : GrowthDetail α) (substitution : String) : Step :=
  let q := d.solvedFor
  let opening :=
    if q = .finalAmount then of .calculate "Evaluate the formula"
    else of .solveForUnknown s!"Solve for the {q.label}"
  let step :=
    opening
      |>.transform substitution s!"{q.symbol} = {shown (d.valueOf q)}"
      |>.withOperation (growthMethod d)
  let withInterest :=
    match d.interest with
    | some i => step.withReasoning s!"Interest earned: {shown i}"
    | none => step
  match d.characteristicTime with
  | some time =>
    let label := match d.trend with
      | .growth => "Doubling time"
      | .decay => "Half-life"
    withInterest.withHint s!"{label}: {shown time}"
  | none => withInterest

def ofGrowth (kind : Kind) (d : GrowthDetail α) : List Step :=
  let substitution := substitutedFormula kind d
  [of .identifyGiven "List the known quantities"
    |>.withExpression (knownText d)
    |>.withReasoning s!"The unknown is the {d.solvedFor.label}",
   of .chooseFormula s!"Use the {d.trend.label} model"
    |>.withExpression d.formula
    |>.withFormula d.formula,
   of .substituteValues "Put the known values into the formula"
    |>.transform d.formula substitution,
   unknownStep d substitution]

def characteristicName : Trend → String × String
  | .decay => ("half-life", "h")
  | .growth => ("doubling time", "d")

def halfLifeGiven (d : HalfLifeDetail α) : List String :=
  let (label, symbol) := characteristicName d.trend
  [s!"{label} {symbol} = {shown d.characteristicTime}"] ++
    (d.initial.map fun p => s!"A₀ = {shown p}").toList ++
    (d.time.map fun t => s!"t = {shown t}").toList

def remainingStep (d : HalfLifeDetail α) (initial time amount : α) : Step :=
  let minus := if d.trend = .decay then "-" else ""
  of .computeRemaining s!"Apply the continuous {d.trend.label} law"
    |>.withFormula s!"A = A₀·e^({minus}kt)"
    |>.transform s!"A = {shown initial}·e^({minus}{shown d.k}·{shown time})" s!"A = {shown amount}"
    |>.withReasoning
      (s!"t covers {shown (time / d.characteristicTime)} periods of length " ++
        shown d.characteristicTime)

def ofHalfLife (d : HalfLifeDetail α) : List Step :=
  let (label, symbol) := characteristicName d.trend
  [of .identifyGiven "List the known quantities"
    |>.withExpression (", ".intercalate (halfLifeGiven d)),
   of .computeDecayConstant s!"The rate constant follows from the {label}"
    |>.withFormula s!"k = ln 2 / {symbol}"
    |>.transform s!"k = ln 2 / {symbol}"
      s!"k = ln 2 / {shown d.characteristicTime} = {shown d.k}"] ++
  match d.initial, d.time, d.amount with
  | some p, some t, some a => [remainingStep d p t a]
  | _, _, _ => []

end EquationTutor.Step
