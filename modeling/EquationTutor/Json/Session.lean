import EquationTutor.Json.Lesson
import EquationTutor.Json.Solution
import EquationTutor.Session.Basic

namespace EquationTutor

open Json (fieldOf? ofList)

namespace Settings

def fieldNames : List String :=
  ["explanation_level", "include_conceptual_connections", "include_error_prevention",
   "include_graph"]

def toJson (s : Settings) : Json :=
  .obj [("explanation_level", s.level.toJson),
    ("include_conceptual_connections", .bool s.connections),
    ("include_error_prevention", .bool s.errorPrevention), ("include_graph", .bool s.plot)]

/-- What is not mentioned is as in the default settings. -/
def ofJson? (j : Json) : Option Settings := do
  let r ← j.record? fieldNames 0
  return {
    level := ← r.fieldD? "explanation_level" default.level Teaching.Level.ofJson?
    connections := ← r.fieldD? "include_conceptual_connections" default.connections Json.toBool?
    errorPrevention := ← r.fieldD? "include_error_prevention" default.errorPrevention Json.toBool?
    plot := ← r.fieldD? "include_graph" default.plot Json.toBool? }

end Settings

namespace Request

def fieldNames : List String :=
  ["equation", "scenario", "parameters", "problem_type", "explanation_level", "context"]

def ofJson? (j : Json) : Option (Request Float) := do
  let r ← j.record? fieldNames 0
  return {
    question := {
      equation := ← r.optional? "equation" Json.toString?
      scenario := ← r.optional? "scenario" Json.toString?
      parameters := ← r.optional? "parameters" Params.ofJson?
      kindName := ← r.optional? "problem_type" Json.toString?
      context := ← r.optional? "context" Json.toString? }
    level := ← r.optional? "explanation_level" Teaching.Level.ofJson? }

end Request

namespace Response

def schemaVersion : Json :=
  .int 1

def toJson (r : Response Float) : Json :=
  .obj ([("schema_version", schemaVersion), ("ok", .bool true), ("problem", r.problem.toJson),
      ("solution", r.solution.toJson), ("steps", ofList Teaching.Entry.toJson r.lesson),
      ("verification", r.report.toJson)] ++
    fieldOf? "graph" Plot.toJson r.plot)

def errorJson (code message : String) (input : Option String) : Json :=
  .obj ([("schema_version", schemaVersion), ("ok", .bool false), ("code", .str code),
      ("error", .str message)] ++
    fieldOf? "input" .str input)

end Response

/-- The code of a failure that no problem is to blame for. -/
def internalCode : String :=
  "E_INTERNAL"

def Failure.toJson (e : Failure Float) (input : Option String) : Json :=
  Response.errorJson e.code e.message input

end EquationTutor
