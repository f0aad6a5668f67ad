import EquationTutor.Solution.Basic
import EquationTutor.Solve.Required
import EquationTutor.Text.Lowercase
/-!
Growth, decay, compound interest and half-life.

All models have the form `A = P · F(r, t)`. Given three of `P`, `A`, `r` and `t`
the fourth is found by a division, a logarithm or a root.
-/

namespace EquationTutor.Solve

open Scalar

variable {α : Type} [Scalar α]

/-- The multiplier `F(r, t)` of the principal. -/
def growthFactor (law : GrowthLaw α) (trend : Trend) (rate time : α) : α :=
  match law with
  | .periodic n => pow (1 + trend.sign * rate / n) (n * time)
  | .continuous => exp (trend.sign * rate * time)

def noChange : Failure α :=
  .noSolution "a zero rate never changes the amount"

def ratioFailure (ratio : α) : Failure α :=
  .noSolution s!"final amount and initial amount must both be positive (ratio {shown ratio})"

/-- The logarithm of the multiplier of one unit of time. -/
def logPerUnit (law : GrowthLaw α) (trend : Trend) (rate : α) : Except (Failure α) α :=
  match law with
  | .periodic n =>
    let step := 1 + trend.sign * rate / n
    if step ≤ 0 then
      .error (.noSolution s!"a decay rate of {shown rate} removes everything in one period")
    else .ok (n * ln step)
  | .continuous => .ok (trend.sign * rate)

/-- The time in which the amount is multiplied by `ratio`. -/
def solveTime (law : GrowthLaw α) (trend : Trend) (ratio rate : α) : Except (Failure α) α :=
  if ratio ≤ 0 then .error (ratioFailure ratio)
  else do
    let perUnit ← logPerUnit law trend rate
    if isZero perUnit then .error noChange else .ok (ln ratio / perUnit)

/-- The rate that multiplies the amount by `ratio` in the given time. -/
def solveRate (law : GrowthLaw α) (trend : Trend) (ratio time : α) : Except (Failure α) α :=
  if ratio ≤ 0 then .error (ratioFailure ratio)
  else if isZero time then .error (.noSolution "no rate changes the amount in zero time")
  else
    match law with
    | .periodic n => .ok (trend.sign * n * (pow ratio (1 / (n * time)) - 1))
    | .continuous => .ok (ln ratio / (trend.sign * time))

def growthFormula {α : Type} (kind : Kind) (law : GrowthLaw α) (trend : Trend) : String :=
  match law, trend with
  | .periodic _, .growth =>
    if kind = .compoundInterest then "A = P(1 + r/n)^(nt)" else "A = P(1 + r)^t"
  | .periodic _, .decay =>
    if kind = .compoundInterest then "A = P(1 + r/n)^(nt)" else "A = P(1 - r)^t"
  | .continuous, .growth => "A = Pe^(rt)"
  | .continuous, .decay => "A = Pe^(-rt)"

/-- Whether the text under a key starts with `continuous`. -/
def saysContinuous (p : Params α) (key : String) : Bool :=
  (p.text? key).any fun t =>
    "continuous".toList.isPrefixOf (Text.lowercaseAscii (Text.trim t)).toList

/-- The periods of a unit of time, 12 unless a positive number is given. -/
def periodsPerUnit (p : Params α) : α :=
  ((p.number? "frequency").filter fun n => 0 < n).getD 12

def lawFor (kind : Kind) (p : Params α) : GrowthLaw α :=
  if kind = .compoundInterest then
    if saysContinuous p "compounding" then .continuous else .periodic (periodsPerUnit p)
  else if saysContinuous p "model" then .continuous
  else .periodic 1

def trendOf (kind : Kind) : Trend :=
  if kind = .exponentialDecay then .decay else .growth

/-- All four quantities, and which of them was solved for. -/
structure GrowthValues (α : Type) where
  solvedFor : Quantity
  principal : α
  finalAmount : α
  rate : α
  time : α

/-- Completes three given quantities. When all four are given the final amount
is computed anew. -/
def completeGrowth (kind : Kind) (law : GrowthLaw α) (trend : Trend) :
    Option α → Option α → Option α → Option α → Except (Failure α) (GrowthValues α)
  | some p, some a, some r, none =>
    (solveTime law trend (a / p) r).map fun t => ⟨.time, p, a, r, t⟩
  | some p, some a, none, some t =>
    (solveRate law trend (a / p) t).map fun r => ⟨.rate, p, a, r, t⟩
  | none, some a, some r, some t =>
    let f := growthFactor law trend r t
    if isZero f then .error noChange else .ok ⟨.principal, a / f, a, r, t⟩
  | some p, _, some r, some t =>
    .ok ⟨.finalAmount, p, p * growthFactor law trend r t, r, t⟩
  | _, _, _, _ =>
    .error (.insufficientParameters kind "three of principal, final_amount, rate, time")

/-- The ratio whose time is characteristic: doubling, or halving. -/
def characteristicRatio : Trend → α
  | .growth => 2
  | .decay => 0.5

def growthSolution (kind : Kind) (law : GrowthLaw α) (trend : Trend) (v : GrowthValues α) :
    Solution α :=
  let d : GrowthDetail α :=
    { law := law
      trend := trend
      principal := v.principal
      finalAmount := v.finalAmount
      rate := v.rate
      time := v.time
      solvedFor := v.solvedFor
      factor := v.finalAmount / v.principal
      formula := growthFormula kind law trend
      interest :=
        if kind = .compoundInterest then some (v.finalAmount - v.principal) else none
      characteristicTime := (solveTime law trend (characteristicRatio trend) v.rate).toOption }
  .plain kind s!"Solved for {v.solvedFor.label}"
    (.quantity v.solvedFor.symbol (d.valueOf v.solvedFor)) (.growth d)

def solveGrowth (kind : Kind) (p : Params α) : Except (Failure α) (Solution α) := do
  let trend := trendOf kind
  let law := lawFor kind p
  let v ← completeGrowth kind law trend
    ((p.number? "principal").orElse fun _ => p.number? "initial")
    ((p.number? "final_amount").orElse fun _ => p.number? "final")
    (p.number? "rate") (p.number? "time")
  if v.principal ≤ 0 then .error (ratioFailure (v.finalAmount / v.principal))
  else return growthSolution kind law trend v

/-- The trend and the characteristic time of a half-life problem. -/
def characteristic (p : Params α) : Except (Failure α) (Trend × α) :=
  match p.number? "half_life", p.number? "doubling_time" with
  | some h, _ => .ok (.decay, h)
  | none, some d => .ok (.growth, d)
  | none, none => .error (.insufficientParameters .halfLife "half_life or doubling_time")

/-- The rate constant, and the amount after some time when it can be told. -/
def solveHalfLife (p : Params α) : Except (Failure α) (Solution α) := do
  let (trend, h) ← characteristic p
  if h ≤ 0 then
    .error (.noSolution s!"characteristic time must be positive (got {shown h})")
  else
    let k := lnTwo / h
    let detail (amount : Option α) : Detail α :=
      .halfLife ⟨trend, h, k, p.number? "initial", p.number? "time", amount⟩
    match p.number? "initial", p.number? "time" with
    | some initial, some t =>
      let amount := initial * exp (trend.sign * k * t)
      return .plain .halfLife s!"Amount after {shown t} time units" (.quantity "A" amount)
        (detail (some amount))
    | _, _ => return .plain .halfLife "Rate constant" (.quantity "k" k) (detail none)

end EquationTutor.Solve
