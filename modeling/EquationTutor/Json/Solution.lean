import EquationTutor.Json.Details
import EquationTutor.Plot
import EquationTutor.Verification

namespace EquationTutor

open Json (fieldOf? listField ofFloat ofList ofOption ofStrings)

def Problem.toJson (p : Problem Float) : Json :=
  .obj ([("original_input", .str p.input), ("clean_input", .str p.normalized),
      ("problem_type", p.kind.toJson)] ++
    fieldOf? "scenario" .str p.scenario ++
    [("parameters", p.parameters.toJson)] ++
    fieldOf? "context" .str p.context)

namespace Solution

def fieldNames : List String :=
  ["category", "solution_type", "set", "fallback", "notes", "detail"]

def toJson (s : Solution Float) : Json :=
  .obj ([("category", s.category.toJson), ("solution_type", .str s.label),
      ("set", s.set.toJson), ("fallback", .bool s.fallback)] ++
    listField "notes" .str s.notes ++
    [("detail", s.detail.toJson)])

def ofJson? (j : Json) : Option (Solution Float) := do
  let r ← j.record? fieldNames 6
  return {
    category := ← r.field? "category" Kind.ofJson?
    label := ← r.string? "solution_type"
    set := ← r.field? "set" SolutionSet.ofJson?
    fallback := ← r.fieldD? "fallback" false Json.toBool?
    notes := ← r.fieldD? "notes" [] (Json.toList? Json.toString?)
    detail := ← r.field? "detail" Detail.ofJson? }

end Solution

def SubstitutionCheck.toJson (c : SubstitutionCheck Float) : Json :=
  .obj [("solution", .str c.solution), ("left_side", ofFloat c.left),
    ("right_side", ofFloat c.right), ("difference", ofFloat c.difference),
    ("is_valid", .bool c.isValid)]

def RegionCheck.toJson (c : RegionCheck Float) : Json :=
  .obj [("point", ofFloat c.point), ("inside", .bool c.inside), ("satisfies", .bool c.satisfies),
    ("is_valid", .bool c.isValid)]

def Report.toJson (r : Report Float) : Json :=
  .obj ([("checks", ofList SubstitutionCheck.toJson r.checks)] ++
    listField "interval_checks" RegionCheck.toJson r.regionChecks ++
    [("all_valid", .bool r.allValid), ("confidence", .str r.confidence.name),
      ("notes", ofStrings r.notes)])

def Plot.rangeJson (range : Float × Float) : Json :=
  Json.ofFloats [range.1, range.2]

def Plot.toJson : Plot Float → Json
  | parabola function vertex xIntercepts yIntercept axisOfSymmetry opensUpward xRange shaded =>
    .obj ([("graph", .str "parabola"), ("function", .str function), ("vertex", vertex.toJson),
        ("x_intercepts", Json.ofFloats xIntercepts), ("y_intercept", ofFloat yIntercept),
        ("axis_of_symmetry", ofFloat axisOfSymmetry), ("opens_upward", .bool opensUpward),
        ("x_range", rangeJson xRange)] ++
      listField "shaded" Interval.toJson shaded)
  | exponential function base horizontalAsymptote xRange markedX shaded =>
    .obj ([("graph", .str "exponential"), ("function", .str function), ("base", ofFloat base),
        ("horizontal_asymptote", ofFloat horizontalAsymptote), ("x_range", rangeJson xRange)] ++
      listField "marked_x" ofFloat markedX ++
      listField "shaded" Interval.toJson shaded)
  | line function slope intercept xRange shaded =>
    .obj ([("graph", .str "line"), ("function", .str function), ("slope", ofFloat slope),
        ("intercept", ofFloat intercept), ("x_range", rangeJson xRange)] ++
      listField "shaded" Interval.toJson shaded)
  | linePair first second intersection =>
    .obj [("graph", .str "line_pair"), ("first", .str first), ("second", .str second),
      ("intersection", ofOption Point.toJson intersection)]
  | growthCurve function initial unitFactor horizon =>
    .obj [("graph", .str "growth_curve"), ("function", .str function),
      ("initial", ofFloat initial), ("unit_factor", ofFloat unitFactor),
      ("horizon", ofFloat horizon)]

end EquationTutor
