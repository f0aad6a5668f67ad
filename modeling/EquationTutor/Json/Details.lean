import EquationTutor.Json.Sets
import EquationTutor.Solution.Basic

namespace EquationTutor

open Json (ofFloat ofList ofOption ofStrings)

def Json.ofFloats (xs : List Float) : Json :=
  ofList ofFloat xs

def Json.optionalNumber? (j : Json) (key : String) : Option (Option Float) :=
  j.optional? key Json.toFloat?

namespace Point

def toJson (p : Point Float) : Json :=
  .obj [("x", ofFloat p.x), ("y", ofFloat p.y)]

def ofJson? (j : Json) : Option (Point Float) := do
  let r ← j.record? ["x", "y"] 2
  return ⟨← r.number? "x", ← r.number? "y"⟩

end Point

namespace RootNature

def all : List RootNature :=
  [twoReal, oneReal, complexPair]

def key : RootNature → String
  | twoReal => "two_real"
  | oneReal => "one_real"
  | complexPair => "complex_pair"

end RootNature

namespace UnitSystem

def all : List UnitSystem :=
  [imperial, metric]

def key : UnitSystem → String
  | imperial => "imperial"
  | metric => "metric"

end UnitSystem

def Extremum.all : List Extremum :=
  [minimum, maximum]

def Trend.all : List Trend :=
  [growth, decay]

namespace Quantity

def all : List Quantity :=
  [principal, finalAmount, rate, time]

def key : Quantity → String
  | principal => "principal"
  | finalAmount => "final_amount"
  | rate => "rate"
  | time => "time"

end Quantity

namespace QuadraticDetail

def fieldNames : List String :=
  ["a", "b", "c", "discriminant", "nature", "vertex", "axis_of_symmetry", "y_intercept",
   "sum_of_roots", "product_of_roots"]

def fields (d : QuadraticDetail Float) : List (String × Json) :=
  [("a", ofFloat d.a), ("b", ofFloat d.b), ("c", ofFloat d.c),
   ("discriminant", ofFloat d.discriminant), ("nature", .str d.nature.key),
   ("vertex", d.vertex.toJson), ("axis_of_symmetry", ofFloat d.axisOfSymmetry),
   ("y_intercept", ofFloat d.yIntercept), ("sum_of_roots", ofFloat d.sumOfRoots),
   ("product_of_roots", ofFloat d.productOfRoots)]

def ofJson? (j : Json) : Option (QuadraticDetail Float) := do
  let r ← j.record? fieldNames 10
  return {
    a := ← r.number? "a"
    b := ← r.number? "b"
    c := ← r.number? "c"
    discriminant := ← r.number? "discriminant"
    nature := ← r.field? "nature" (Json.ofKey? .inTagged RootNature.key RootNature.all)
    vertex := ← r.field? "vertex" Point.ofJson?
    axisOfSymmetry := ← r.number? "axis_of_symmetry"
    yIntercept := ← r.number? "y_intercept"
    sumOfRoots := ← r.number? "sum_of_roots"
    productOfRoots := ← r.number? "product_of_roots" }

end QuadraticDetail

namespace ProjectileDetail

def fieldNames : List String :=
  ["units", "gravity", "initial_velocity", "initial_height", "target_height",
   "target_discriminant", "target_times", "time_to_max_height", "max_height", "flight_time"]

def fields (d : ProjectileDetail Float) : List (String × Json) :=
  [("units", .str d.units.key), ("gravity", ofFloat d.gravity),
   ("initial_velocity", ofFloat d.initialVelocity),
   ("initial_height", ofFloat d.initialHeight),
   ("target_height", ofOption ofFloat d.targetHeight),
   ("target_discriminant", ofOption ofFloat d.targetDiscriminant),
   ("target_times", Json.ofFloats d.targetTimes),
   ("time_to_max_height", ofFloat d.timeToMaxHeight), ("max_height", ofFloat d.maxHeight),
   ("flight_time", ofOption ofFloat d.flightTime)]

def ofJson? (j : Json) : Option (ProjectileDetail Float) := do
  let r ← j.record? fieldNames 10
  return {
    units := ← r.field? "units" (Json.ofKey? .inTagged UnitSystem.key UnitSystem.all)
    gravity := ← r.number? "gravity"
    initialVelocity := ← r.number? "initial_velocity"
    initialHeight := ← r.number? "initial_height"
    targetHeight := ← r.optionalNumber? "target_height"
    targetDiscriminant := ← r.optionalNumber? "target_discriminant"
    targetTimes := ← r.numbers? "target_times"
    timeToMaxHeight := ← r.number? "time_to_max_height"
    maxHeight := ← r.number? "max_height"
    flightTime := ← r.optionalNumber? "flight_time" }

end ProjectileDetail

namespace VertexDetail

def fieldNames : List String :=
  ["quadratic", "vertex_form", "extremum", "requested", "range", "x_intercepts",
   "transformations"]

def fields (d : VertexDetail Float) : List (String × Json) :=
  [("quadratic", .obj d.quadratic.fields), ("vertex_form", .str d.vertexForm),
   ("extremum", .str d.extremum.label),
   ("requested", ofOption (fun e => .str (Extremum.label e)) d.requested),
   ("range", d.range.toJson), ("x_intercepts", Json.ofFloats d.xIntercepts),
   ("transformations", ofStrings d.transformations)]

def ofJson? (j : Json) : Option (VertexDetail Float) := do
  let r ← j.record? fieldNames 7
  return {
    quadratic := ← r.field? "quadratic" QuadraticDetail.ofJson?
    vertexForm := ← r.string? "vertex_form"
    extremum := ← r.field? "extremum" (Json.ofKey? .inTagged Extremum.label Extremum.all)
    requested := ← r.optional? "requested" (Json.ofKey? .inTagged Extremum.label Extremum.all)
    range := ← r.field? "range" (Interval.ofJson? .inTagged)
    xIntercepts := ← r.numbers? "x_intercepts"
    transformations := ← r.strings? "transformations" }

end VertexDetail

namespace FactoringDetail

def fieldNames : List String :=
  ["common_factor", "pair", "factored_form", "quadratic"]

def fields (d : FactoringDetail Float) : List (String × Json) :=
  [("common_factor", ofOption ofFloat d.commonFactor),
   ("pair", ofOption (fun p => Json.ofFloats [p.1, p.2]) d.pair),
   ("factored_form", ofOption .str d.factoredForm), ("quadratic", .obj d.quadratic.fields)]

def pairOfJson? : Json → Option (Float × Float)
  | .arr [p, q] => do return (← p.toFloat?, ← q.toFloat?)
  | _ => none

def ofJson? (j : Json) : Option (FactoringDetail Float) := do
  let r ← j.record? fieldNames 4
  return {
    commonFactor := ← r.optionalNumber? "common_factor"
    pair := ← r.optional? "pair" pairOfJson?
    factoredForm := ← r.optional? "factored_form" Json.toString?
    quadratic := ← r.field? "quadratic" QuadraticDetail.ofJson? }

end FactoringDetail

namespace SquareDetail

def fieldNames : List String :=
  ["a", "b", "c", "b_over_a", "c_over_a", "half_b", "half_b_squared", "remainder",
   "vertex_form", "vertex"]

def fields (d : SquareDetail Float) : List (String × Json) :=
  [("a", ofFloat d.a), ("b", ofFloat d.b), ("c", ofFloat d.c), ("b_over_a", ofFloat d.bOverA),
   ("c_over_a", ofFloat d.cOverA), ("half_b", ofFloat d.halfB),
   ("half_b_squared", ofFloat d.halfBSquared), ("remainder", ofFloat d.remainder),
   ("vertex_form", .str d.vertexForm), ("vertex", d.vertex.toJson)]

def ofJson? (j : Json) : Option (SquareDetail Float) := do
  let r ← j.record? fieldNames 10
  return {
    a := ← r.number? "a"
    b := ← r.number? "b"
    c := ← r.number? "c"
    bOverA := ← r.number? "b_over_a"
    cOverA := ← r.number? "c_over_a"
    halfB := ← r.number? "half_b"
    halfBSquared := ← r.number? "half_b_squared"
    remainder := ← r.number? "remainder"
    vertexForm := ← r.string? "vertex_form"
    vertex := ← r.field? "vertex" Point.ofJson? }

end SquareDetail

namespace TestPoint

def toJson (t : TestPoint Float) : Json :=
  .obj [("interval", t.interval.toJson), ("point", ofFloat t.point), ("value", ofFloat t.value),
    ("satisfies", .bool t.satisfies)]

def ofJson? (j : Json) : Option (TestPoint Float) := do
  let r ← j.record? ["interval", "point", "value", "satisfies"] 4
  return {
    interval := ← r.field? "interval" (Interval.ofJson? .inTagged)
    point := ← r.number? "point"
    value := ← r.number? "value"
    satisfies := ← r.boolean? "satisfies" }

end TestPoint

namespace QuadraticInequalityDetail

def fieldNames : List String :=
  ["a", "b", "c", "operator", "discriminant", "critical_points", "tests"]

def fields (d : QuadraticInequalityDetail Float) : List (String × Json) :=
  [("a", ofFloat d.a), ("b", ofFloat d.b), ("c", ofFloat d.c), ("operator", d.relation.toJson),
   ("discriminant", ofFloat d.discriminant),
   ("critical_points", Json.ofFloats d.criticalPoints),
   ("tests", ofList TestPoint.toJson d.tests)]

def ofJson? (j : Json) : Option (QuadraticInequalityDetail Float) := do
  let r ← j.record? fieldNames 7
  return {
    a := ← r.number? "a"
    b := ← r.number? "b"
    c := ← r.number? "c"
    relation := ← r.field? "operator" (Relation.ofJson? .inTagged)
    discriminant := ← r.number? "discriminant"
    criticalPoints := ← r.numbers? "critical_points"
    tests := ← r.field? "tests" (Json.toList? TestPoint.ofJson?) }

end QuadraticInequalityDetail

namespace LinearInequalityDetail

def fieldNames : List String :=
  ["m", "b", "c", "operator", "isolated_operator", "boundary", "flipped"]

def fields (d : LinearInequalityDetail Float) : List (String × Json) :=
  [("m", ofFloat d.m), ("b", ofFloat d.b), ("c", ofFloat d.c), ("operator", d.relation.toJson),
   ("isolated_operator", d.isolatedRelation.toJson),
   ("boundary", ofOption ofFloat d.boundary), ("flipped", .bool d.flipped)]

def ofJson? (j : Json) : Option (LinearInequalityDetail Float) := do
  let r ← j.record? fieldNames 7
  return {
    m := ← r.number? "m"
    b := ← r.number? "b"
    c := ← r.number? "c"
    relation := ← r.field? "operator" (Relation.ofJson? .inTagged)
    isolatedRelation := ← r.field? "isolated_operator" (Relation.ofJson? .inTagged)
    boundary := ← r.optionalNumber? "boundary"
    flipped := ← r.boolean? "flipped" }

end LinearInequalityDetail

namespace ExponentialInequalityDetail

def fieldNames : List String :=
  ["coefficient", "base", "bound", "operator", "isolated_operator", "ln_base",
   "critical_value", "behavior", "reversed"]

def fields (d : ExponentialInequalityDetail Float) : List (String × Json) :=
  [("coefficient", ofFloat d.coefficient), ("base", ofFloat d.base), ("bound", ofFloat d.bound),
   ("operator", d.relation.toJson), ("isolated_operator", d.isolatedRelation.toJson),
   ("ln_base", ofFloat d.lnBase), ("critical_value", ofOption ofFloat d.criticalValue),
   ("behavior", .str d.behavior.label), ("reversed", .bool d.reversed)]

def ofJson? (j : Json) : Option (ExponentialInequalityDetail Float) := do
  let r ← j.record? fieldNames 9
  return {
    coefficient := ← r.number? "coefficient"
    base := ← r.number? "base"
    bound := ← r.number? "bound"
    relation := ← r.field? "operator" (Relation.ofJson? .inTagged)
    isolatedRelation := ← r.field? "isolated_operator" (Relation.ofJson? .inTagged)
    lnBase := ← r.number? "ln_base"
    criticalValue := ← r.optionalNumber? "critical_value"
    behavior := ← r.field? "behavior" (Json.ofKey? .inTagged Trend.label Trend.all)
    reversed := ← r.boolean? "reversed" }

end ExponentialInequalityDetail

namespace ExponentialQuadraticDetail

def fieldNames : List String :=
  ["a", "b", "c", "base", "discriminant", "u_roots", "rejected"]

def fields (d : ExponentialQuadraticDetail Float) : List (String × Json) :=
  [("a", ofFloat d.a), ("b", ofFloat d.b), ("c", ofFloat d.c), ("base", ofFloat d.base),
   ("discriminant", ofFloat d.discriminant), ("u_roots", Json.ofFloats d.uRoots),
   ("rejected", Json.ofFloats d.rejected)]

def ofJson? (j : Json) : Option (ExponentialQuadraticDetail Float) := do
  let r ← j.record? fieldNames 7
  return {
    a := ← r.number? "a"
    b := ← r.number? "b"
    c := ← r.number? "c"
    base := ← r.number? "base"
    discriminant := ← r.number? "discriminant"
    uRoots := ← r.numbers? "u_roots"
    rejected := ← r.numbers? "rejected" }

end ExponentialQuadraticDetail

namespace ExponentialDetail

def fieldNames : List String :=
  ["coefficient", "base", "rate", "result", "isolated", "natural"]

def fields (d : ExponentialDetail Float) : List (String × Json) :=
  [("coefficient", ofFloat d.coefficient), ("base", ofFloat d.base), ("rate", ofFloat d.rate),
   ("result", ofFloat d.result), ("isolated", ofFloat d.isolated),
   ("natural", .bool d.natural)]

def ofJson? (j : Json) : Option (ExponentialDetail Float) := do
  let r ← j.record? fieldNames 6
  return {
    coefficient := ← r.number? "coefficient"
    base := ← r.number? "base"
    rate := ← r.number? "rate"
    result := ← r.number? "result"
    isolated := ← r.number? "isolated"
    natural := ← r.boolean? "natural" }

end ExponentialDetail

namespace LogarithmicDetail

def fields (d : LogarithmicDetail Float) : List (String × Json) :=
  [("base", ofFloat d.base), ("result", ofFloat d.result), ("natural", .bool d.natural)]

def ofJson? (j : Json) : Option (LogarithmicDetail Float) := do
  let r ← j.record? ["base", "result", "natural"] 3
  return {
    base := ← r.number? "base"
    result := ← r.number? "result"
    natural := ← r.boolean? "natural" }

end LogarithmicDetail

namespace GrowthLaw

def toJson : GrowthLaw Float → Json
  | periodic n => .obj [("law", .str "periodic"), ("periods_per_unit", ofFloat n)]
  | continuous => .obj [("law", .str "continuous")]

def ofJson? (place : Json.Place) (j : Json) : Option (GrowthLaw Float) := do
  match ← j.tagged? place "law" ["periodic", "continuous"] with
  | ("periodic", r) =>
    let r ← r.record? ["periods_per_unit"] 1
    return periodic (← r.number? "periods_per_unit")
  | ("continuous", r) => (r.record? [] 0).map fun _ => continuous
  | _ => none

end GrowthLaw

namespace GrowthDetail

def fieldNames : List String :=
  ["law", "trend", "principal", "final_amount", "rate", "time", "solved_for", "factor",
   "formula", "interest", "characteristic_time"]

def fields (d : GrowthDetail Float) : List (String × Json) :=
  [("law", d.law.toJson), ("trend", .str d.trend.label), ("principal", ofFloat d.principal),
   ("final_amount", ofFloat d.finalAmount), ("rate", ofFloat d.rate), ("time", ofFloat d.time),
   ("solved_for", .str d.solvedFor.key), ("factor", ofFloat d.factor),
   ("formula", .str d.formula), ("interest", ofOption ofFloat d.interest),
   ("characteristic_time", ofOption ofFloat d.characteristicTime)]

def ofJson? (j : Json) : Option (GrowthDetail Float) := do
  let r ← j.record? fieldNames 11
  return {
    law := ← r.field? "law" (GrowthLaw.ofJson? .inTagged)
    trend := ← r.field? "trend" (Json.ofKey? .inTagged Trend.label Trend.all)
    principal := ← r.number? "principal"
    finalAmount := ← r.number? "final_amount"
    rate := ← r.number? "rate"
    time := ← r.number? "time"
    solvedFor := ← r.field? "solved_for" (Json.ofKey? .inTagged Quantity.key Quantity.all)
    factor := ← r.number? "factor"
    formula := ← r.string? "formula"
    interest := ← r.optionalNumber? "interest"
    characteristicTime := ← r.optionalNumber? "characteristic_time" }

end GrowthDetail

namespace HalfLifeDetail

def fieldNames : List String :=
  ["trend", "characteristic_time", "k", "initial", "time", "amount"]

def fields (d : HalfLifeDetail Float) : List (String × Json) :=
  [("trend", .str d.trend.label), ("characteristic_time", ofFloat d.characteristicTime),
   ("k", ofFloat d.k), ("initial", ofOption ofFloat d.initial),
   ("time", ofOption ofFloat d.time), ("amount", ofOption ofFloat d.amount)]

def ofJson? (j : Json) : Option (HalfLifeDetail Float) := do
  let r ← j.record? fieldNames 6
  return {
    trend := ← r.field? "trend" (Json.ofKey? .inTagged Trend.label Trend.all)
    characteristicTime := ← r.number? "characteristic_time"
    k := ← r.number? "k"
    initial := ← r.optionalNumber? "initial"
    time := ← r.optionalNumber? "time"
    amount := ← r.optionalNumber? "amount" }

end HalfLifeDetail

namespace LinearDetail

def fields (d : LinearDetail Float) : List (String × Json) :=
  [("m", ofFloat d.m), ("b", ofFloat d.b), ("c", ofFloat d.c)]

def ofJson? (j : Json) : Option (LinearDetail Float) := do
  let r ← j.record? ["m", "b", "c"] 3
  return ⟨← r.number? "m", ← r.number? "b", ← r.number? "c"⟩

end LinearDetail

namespace SystemDetail

def fieldNames : List String :=
  ["a1", "b1", "c1", "a2", "b2", "c2", "determinant", "det_x", "det_y"]

def fields (d : SystemDetail Float) : List (String × Json) :=
  [("a1", ofFloat d.a1), ("b1", ofFloat d.b1), ("c1", ofFloat d.c1), ("a2", ofFloat d.a2),
   ("b2", ofFloat d.b2), ("c2", ofFloat d.c2), ("determinant", ofFloat d.determinant),
   ("det_x", ofFloat d.detX), ("det_y", ofFloat d.detY)]

def ofJson? (j : Json) : Option (SystemDetail Float) := do
  let r ← j.record? fieldNames 9
  return {
    a1 := ← r.number? "a1"
    b1 := ← r.number? "b1"
    c1 := ← r.number? "c1"
    a2 := ← r.number? "a2"
    b2 := ← r.number? "b2"
    c2 := ← r.number? "c2"
    determinant := ← r.number? "determinant"
    detX := ← r.number? "det_x"
    detY := ← r.number? "det_y" }

end SystemDetail

namespace Detail

def tag {α : Type} : Detail α → String
  | quadratic _ => "quadratic"
  | factoring _ => "factoring"
  | completingSquare _ => "completing_square"
  | quadraticInequality _ => "quadratic_inequality"
  | projectile _ => "projectile"
  | vertexAnalysis _ => "vertex_analysis"
  | linearInequality _ => "linear_inequality"
  | exponentialInequality _ => "exponential_inequality"
  | exponentialQuadratic _ => "exponential_quadratic"
  | exponential _ => "exponential"
  | logarithmic _ => "logarithmic"
  | growth _ => "growth"
  | halfLife _ => "half_life"
  | linear _ => "linear"
  | system _ => "system"

def fields : Detail Float → List (String × Json)
  | quadratic d => d.fields
  | factoring d => d.fields
  | completingSquare d => d.fields
  | quadraticInequality d => d.fields
  | projectile d => d.fields
  | vertexAnalysis d => d.fields
  | linearInequality d => d.fields
  | exponentialInequality d => d.fields
  | exponentialQuadratic d => d.fields
  | exponential d => d.fields
  | logarithmic d => d.fields
  | growth d => d.fields
  | halfLife d => d.fields
  | linear d => d.fields
  | system d => d.fields

def toJson (d : Detail Float) : Json :=
  .obj (("detail", .str d.tag) :: d.fields)

def tags : List String :=
  ["quadratic", "factoring", "completing_square", "quadratic_inequality", "projectile",
   "vertex_analysis", "linear_inequality", "exponential_inequality", "exponential_quadratic",
   "exponential", "logarithmic", "growth", "half_life", "linear", "system"]

def ofTag? (r : Json) : String → Option (Detail Float)
  | "quadratic" => (QuadraticDetail.ofJson? r).map quadratic
  | "factoring" => (FactoringDetail.ofJson? r).map factoring
  | "completing_square" => (SquareDetail.ofJson? r).map completingSquare
  | "quadratic_inequality" => (QuadraticInequalityDetail.ofJson? r).map quadraticInequality
  | "projectile" => (ProjectileDetail.ofJson? r).map projectile
  | "vertex_analysis" => (VertexDetail.ofJson? r).map vertexAnalysis
  | "linear_inequality" => (LinearInequalityDetail.ofJson? r).map linearInequality
  | "exponential_inequality" =>
    (ExponentialInequalityDetail.ofJson? r).map exponentialInequality
  | "exponential_quadratic" => (ExponentialQuadraticDetail.ofJson? r).map exponentialQuadratic
  | "exponential" => (ExponentialDetail.ofJson? r).map exponential
  | "logarithmic" => (LogarithmicDetail.ofJson? r).map logarithmic
  | "growth" => (GrowthDetail.ofJson? r).map growth
  | "half_life" => (HalfLifeDetail.ofJson? r).map halfLife
  | "linear" => (LinearDetail.ofJson? r).map linear
  | "system" => (SystemDetail.ofJson? r).map system
  | _ => none

def ofJson? (j : Json) : Option (Detail Float) := do
  let (tag, r) ← j.tagged? .alone "detail" tags
  ofTag? r tag

end Detail

end EquationTutor
