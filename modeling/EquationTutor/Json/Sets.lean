import EquationTutor.Json.Basic
import EquationTutor.Numeric.Double
import EquationTutor.Problem.Basic
import EquationTutor.Relation
import EquationTutor.SolutionSet

namespace EquationTutor

open Json (ofFloat)

namespace Relation

def key : Relation → String
  | eq => "Eq"
  | ne => "Neq"
  | lt => "Lt"
  | gt => "Gt"
  | le => "Leq"
  | ge => "Geq"

def toJson (r : Relation) : Json :=
  .str r.key

def ofJson? (place : Json.Place) : Json → Option Relation :=
  Json.ofKey? place key all

end Relation

namespace Kind

def toJson (k : Kind) : Json :=
  .str k.name

def ofJson? : Json → Option Kind :=
  Json.ofKey? .alone name all

end Kind

namespace Bound

def toJson : Bound Float → Json
  | negInfinity => .obj [("kind", .str "neg_infinity")]
  | posInfinity => .obj [("kind", .str "pos_infinity")]
  | openAt v => .obj [("kind", .str "open"), ("value", ofFloat v)]
  | closedAt v => .obj [("kind", .str "closed"), ("value", ofFloat v)]

def kinds : List String :=
  ["neg_infinity", "pos_infinity", "open", "closed"]

/-- An infinite bound has no value, or a null one. -/
def ofJson? (place : Json.Place) (j : Json) : Option (Bound Float) := do
  let r ← j.record? ["kind", "value"] 2
  let value := r.get? "value"
  match ← r.field? "kind" (Json.ofKey? place id kinds) with
  | "open" => value.bind Json.toFloat? |>.map openAt
  | "closed" => value.bind Json.toFloat? |>.map closedAt
  | "neg_infinity" => if isNothing value then some negInfinity else none
  | "pos_infinity" => if isNothing value then some posInfinity else none
  | _ => none
where
  isNothing : Option Json → Bool
    | none | some .null => true
    | _ => false

end Bound

namespace Interval

def toJson (i : Interval Float) : Json :=
  .obj [("lower", i.lower.toJson), ("upper", i.upper.toJson)]

def ofJson? (place : Json.Place) (j : Json) : Option (Interval Float) := do
  let r ← j.record? ["lower", "upper"] 2
  return ⟨← r.field? "lower" (Bound.ofJson? place), ← r.field? "upper" (Bound.ofJson? place)⟩

end Interval

namespace Complex

def toJson (z : Complex Float) : Json :=
  .obj [("re", ofFloat z.re), ("im", ofFloat z.im)]

def ofJson? (j : Json) : Option (Complex Float) := do
  let r ← j.record? ["re", "im"] 2
  return ⟨← r.number? "re", ← r.number? "im"⟩

end Complex

namespace SolutionSet

def toJson : SolutionSet Float → Json
  | discrete values => .obj [("kind", .str "discrete"), ("values", Json.ofList ofFloat values)]
  | complex values =>
    .obj [("kind", .str "complex"), ("values", Json.ofList Complex.toJson values)]
  | intervals pieces =>
    .obj [("kind", .str "intervals"), ("intervals", Json.ofList Interval.toJson pieces)]
  | allReals => .obj [("kind", .str "all_reals")]
  | empty => .obj [("kind", .str "empty")]
  | point x y => .obj [("kind", .str "point"), ("x", ofFloat x), ("y", ofFloat y)]
  | infinite => .obj [("kind", .str "infinite")]
  | quantity name value =>
    .obj [("kind", .str "quantity"), ("name", .str name), ("value", ofFloat value)]

def kinds : List String :=
  ["discrete", "complex", "intervals", "all_reals", "empty", "point", "infinite", "quantity"]

def ofKind? (r : Json) : String → Option (SolutionSet Float)
  | "discrete" => do
    let r ← r.record? ["values"] 1
    return discrete (← r.numbers? "values")
  | "complex" => do
    let r ← r.record? ["values"] 1
    return complex (← r.field? "values" (Json.toList? Complex.ofJson?))
  | "intervals" => do
    let r ← r.record? ["intervals"] 1
    return intervals (← r.field? "intervals" (Json.toList? (Interval.ofJson? .inTagged)))
  | "point" => do
    let r ← r.record? ["x", "y"] 2
    return point (← r.number? "x") (← r.number? "y")
  | "quantity" => do
    let r ← r.record? ["name", "value"] 2
    return quantity (← r.string? "name") (← r.number? "value")
  | "all_reals" => (r.record? [] 0).map fun _ => allReals
  | "empty" => (r.record? [] 0).map fun _ => empty
  | "infinite" => (r.record? [] 0).map fun _ => infinite
  | _ => none

def ofJson? (j : Json) : Option (SolutionSet Float) := do
  let (kind, r) ← j.tagged? .alone "kind" kinds
  ofKind? r kind

end SolutionSet

namespace ParamValue

def toJson : ParamValue Float → Json
  | number n => ofFloat n
  | text t => .str t

def ofJson? : Json → Option (ParamValue Float)
  | .str t => some (text t)
  | j => j.toFloat?.map number

end ParamValue

namespace Params

def toJson (p : Params Float) : Json :=
  .obj (p.entries.map fun e => (e.1, e.2.toJson))

def ofJson? : Json → Option (Params Float)
  | .obj fields =>
    (fields.mapM fun f => (ParamValue.ofJson? f.2).map fun v => (f.1, v)).map ofList
  | _ => none

end Params

end EquationTutor
