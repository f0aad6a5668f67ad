import EquationTutor.Solve.Growth
import EquationTutor.Solve.Projectile
/-!
Checks of an answer against the relation it claims to solve: numbers are
substituted, and regions are sampled inside and outside.
-/

namespace EquationTutor

structure SubstitutionCheck (α : Type) where
  /-- What was substituted, such as `x = 2`. -/
  solution : String
  left : α
  right : α
  difference : α
  isValid : Bool

structure RegionCheck (α : Type) where
  point : α
  /-- Whether the point lies in the region. -/
  inside : Bool
  /-- Whether the relation holds there. -/
  satisfies : Bool
  isValid : Bool

inductive Confidence where
  | high
  | low
  | medium
  | confirmed
  deriving DecidableEq

def Confidence.name : Confidence → String
  | high => "High"
  | low => "Low"
  | medium => "Medium"
  | confirmed => "Confirmed"

structure Report (α : Type) where
  checks : List (SubstitutionCheck α)
  regionChecks : List (RegionCheck α)
  allValid : Bool
  confidence : Confidence
  notes : List String

namespace Verification

open Scalar

variable {α : Type} [Scalar α]

/-- Compares two sides, whose difference is measured in units of `scale`. -/
def check (solution : String) (left right scale : α) : SubstitutionCheck α :=
  let difference := absValue (left - right)
  ⟨solution, left, right, difference, difference / scale < checkTolerance⟩

def scaleOf (x : α) : α :=
  larger (absValue x) 1

/-- A relation in one unknown. -/
structure Claim (α : Type) where
  left : α → α
  right : α
  relation : Relation

def Claim.holds (c : Claim α) (x : α) : Bool :=
  c.relation.holdsWithin checkTolerance (c.left x) c.right

def Claim.substitute (c : Claim α) (x : α) : SubstitutionCheck α :=
  check s!"x = {shown x}" (c.left x) c.right 1

def Claim.sampleAt (c : Claim α) (inside : Bool) (x : α) : RegionCheck α :=
  let satisfies := c.holds x
  ⟨x, inside, satisfies, inside == satisfies⟩

def quadraticClaim (a b c : α) (r : Relation) : Claim α :=
  ⟨Solve.quadraticAt a b c, 0, r⟩

def claimOf : Detail α → Option (Claim α)
  | .quadratic d => some (quadraticClaim d.a d.b d.c .eq)
  | .factoring d => some (quadraticClaim d.quadratic.a d.quadratic.b d.quadratic.c .eq)
  | .completingSquare d => some (quadraticClaim d.a d.b d.c .eq)
  | .quadraticInequality d => some (quadraticClaim d.a d.b d.c d.relation)
  | .linearInequality d => some ⟨fun x => d.m * x + d.b, d.c, d.relation⟩
  | .exponentialInequality d =>
    some ⟨fun x => d.coefficient * pow d.base x, d.bound, d.relation⟩
  | .exponentialQuadratic d =>
    some ⟨fun x => Solve.quadraticAt d.a d.b d.c (pow d.base x), 0, .eq⟩
  | .exponential d =>
    some ⟨fun x => d.coefficient * pow d.base (d.rate * x), d.result, .eq⟩
  | .logarithmic d => some ⟨fun x => ln x / ln d.base, d.result, .eq⟩
  | .linear d => some ⟨fun x => d.m * x + d.b, d.c, .eq⟩
  | .growth _ | .halfLife _ | .system _ | .projectile _ | .vertexAnalysis _ => none

/-- The finite end points of the intervals, ascending. -/
def edges (pieces : List (Interval α)) : List α :=
  dedup (sort (((pieces.flatMap fun i => [i.lower, i.upper]).filterMap Bound.endPoint?).filter
    isFinite))

def middles : List α → List α
  | x :: y :: rest => (x + y) / 2 :: middles (y :: rest)
  | _ => []

/-- The places at which a point outside is looked for. -/
def candidates (es : List α) : List α :=
  middles es ++ (es.flatMap fun e => [e - 1, e + 1]) ++ (if es.isEmpty then [0] else [])

/-- A point of each interval, and then one outside all of them if a candidate
is. -/
def samplePoints (pieces : List (Interval α)) : List α :=
  pieces.map Interval.sample ++
    ((candidates (edges pieces)).find? fun x => !pieces.any fun i => i.contains x).toList

def growthCheck (d : GrowthDetail α) : SubstitutionCheck α :=
  check s!"P = {shown d.principal}, r = {shown d.rate}, t = {shown d.time}"
    (d.principal * Solve.growthFactor d.law d.trend d.rate d.time) d.finalAmount
    (scaleOf d.finalAmount)

/-- The greatest height, `h₀ + v₀²/(4g)` after an upward launch. -/
def expectedMaxHeight (d : ProjectileDetail α) : α :=
  let v0 := d.initialVelocity
  if 0 < v0 then d.initialHeight + v0 * v0 / (4 * d.gravity) else d.initialHeight

def projectileChecks (d : ProjectileDetail α) (set : SolutionSet α) :
    List (SubstitutionCheck α) :=
  match set, d.targetHeight with
  | .discrete values, some target =>
    values.map fun t =>
      check s!"t = {shown t}" (Solve.height d.gravity d.initialVelocity d.initialHeight t) target
        (scaleOf target)
  | .quantity _ value, _ =>
    let expected := expectedMaxHeight d
    [check s!"t = {shown d.timeToMaxHeight}" value expected (scaleOf expected)]
  | _, _ => []

/-- The value at the vertex, and equal values one step to either side. -/
def vertexChecks (d : VertexDetail α) (set : SolutionSet α) : List (SubstitutionCheck α) :=
  match set with
  | .quantity _ value =>
    let q := d.quadratic
    let f := Solve.quadraticAt q.a q.b q.c
    let h := q.vertex.x
    [check s!"x = {shown h}" (f h) value (scaleOf value),
     check s!"x = {shown h} ± 1" (f (h - 1)) (f (h + 1)) (scaleOf (f (h + 1)))]
  | _ => []

def systemChecks (d : SystemDetail α) (x y : α) : List (SubstitutionCheck α) :=
  let label := s!"(x, y) = ({shown x}, {shown y})"
  [check label (d.a1 * x + d.b1 * y) d.c1 1, check label (d.a2 * x + d.b2 * y) d.c2 1]

/-- The fixed points at which a set without boundary is sampled. -/
def fixedPoints : List α :=
  [-10, 0, 10]

/-- Whether an empty set can be tested: what holds nowhere fails at every
point. -/
def testsEmpty (detail : Detail α) (c : Claim α) : Bool :=
  c.relation.isInequality || (match detail with | .linear _ => true | _ => false)

def claimChecks (detail : Detail α) (c : Claim α) (set : SolutionSet α) :
    List (SubstitutionCheck α) × List (RegionCheck α) :=
  match set with
  | .discrete values => (values.map c.substitute, [])
  | .intervals pieces =>
    ([], (samplePoints pieces).map fun x => c.sampleAt (pieces.any fun i => i.contains x) x)
  | .allReals => ([], fixedPoints.map (c.sampleAt true))
  | .empty => ([], if testsEmpty detail c then fixedPoints.map (c.sampleAt false) else [])
  | _ => ([], [])

def checksOf (s : Solution α) : List (SubstitutionCheck α) × List (RegionCheck α) :=
  match s.detail, s.set with
  | .growth d, _ => ([growthCheck d], [])
  | .projectile d, set => (projectileChecks d set, [])
  | .vertexAnalysis d, set => (vertexChecks d set, [])
  | .system d, .point x y => (systemChecks d x y, [])
  | detail, set =>
    match claimOf detail with
    | some c => claimChecks detail c set
    | none => ([], [])

/-- What was done that the checks do not show. -/
def methodNotes (s : Solution α) : List String :=
  match s.detail, s.set with
  | .growth _, _ => ["Recomputed the final amount from the model formula"]
  | .projectile _, .quantity _ _ => ["Recomputed the maximum height as h₀ + v₀²/(4g)"]
  | _, _ => []

/-- Why a set that holds no real number was not checked. -/
def structuralNote : SolutionSet α → String
  | .complex _ => "Complex solutions are not substituted on the real line"
  | .infinite => "Dependent system: every point of the shared line is a solution"
  | _ => "No real solution to substitute"

def confidenceOf (s : Solution α) (checked allValid : Bool) : Confidence × List String :=
  if !allValid then (.low, [])
  else if checked then (.high, [])
  else if s.set.isStructural then (.confirmed, [structuralNote s.set])
  else (.medium, [s!"No dedicated check for {s.category.displayName}"])

end Verification

open Verification in
def Solution.verify {α : Type} [Scalar α] (s : Solution α) : Report α :=
  let (checks, regionChecks) := checksOf s
  let allValid := checks.all (·.isValid) && regionChecks.all (·.isValid)
  let (confidence, reason) :=
    confidenceOf s (!checks.isEmpty || !regionChecks.isEmpty) allValid
  { checks := checks
    regionChecks := regionChecks
    allValid := allValid
    confidence := confidence
    notes :=
      methodNotes s ++
      (if checks.isEmpty then [] else ["Direct substitution method used"]) ++
      (if regionChecks.isEmpty then []
        else ["Test points sampled inside and outside the solution set"]) ++
      reason ++ ["Numerical tolerance: 1e-9"] }

end EquationTutor
