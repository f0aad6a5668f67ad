import EquationTutor.Json.Basic
import EquationTutor.Teaching.Enhance

namespace EquationTutor

open Json (fieldOf? ofStrings)

namespace Step

def fieldNames : List String :=
  ["step_number", "name", "description", "expression", "before_expression",
   "after_expression", "operation", "reasoning", "algebraic_rule", "visual_hint", "formula",
   "final_answer"]

def fields (s : Step) : List (String × Json) :=
  [("step_number", .int s.number), ("name", .str s.name), ("description", .str s.description)] ++
    fieldOf? "expression" .str s.expression ++
    fieldOf? "before_expression" .str s.before ++
    fieldOf? "after_expression" .str s.after ++
    fieldOf? "operation" .str s.operation ++
    [("reasoning", .str s.reasoning)] ++
    fieldOf? "algebraic_rule" .str s.rule ++
    fieldOf? "visual_hint" .str s.hint ++
    fieldOf? "formula" .str s.formula ++
    [("final_answer", .bool s.isFinal)]

def toJson (s : Step) : Json :=
  .obj s.fields

def ofJson? (j : Json) : Option Step := do
  let r ← j.record? fieldNames 8
  return {
    number := ← r.field? "step_number" Json.toNat?
    name := ← r.string? "name"
    description := ← r.string? "description"
    expression := ← r.optional? "expression" Json.toString?
    before := ← r.optional? "before_expression" Json.toString?
    after := ← r.optional? "after_expression" Json.toString?
    operation := ← r.optional? "operation" Json.toString?
    reasoning := ← r.string? "reasoning"
    rule := ← r.optional? "algebraic_rule" Json.toString?
    hint := ← r.optional? "visual_hint" Json.toString?
    formula := ← r.optional? "formula" Json.toString?
    isFinal := ← r.fieldD? "final_answer" false Json.toBool? }

end Step

namespace Teaching

namespace Level

def toJson (l : Level) : Json :=
  .str l.name

def ofJson? : Json → Option Level :=
  Json.ofKey? .alone name all

end Level

def Explanations.toJson (e : Explanations) : Json :=
  .obj [("conceptual", .str e.conceptual), ("procedural", .str e.procedural),
    ("visual", .str e.visual), ("algebraic", .str e.algebraic)]

def AdaptiveExplanation.toJson (e : AdaptiveExplanation) : Json :=
  .obj [("level", e.level.toJson), ("description", .str e.description),
    ("reasoning", .str e.reasoning)]

def LearningSupport.toJson (s : LearningSupport) : Json :=
  .obj ([("prerequisites", ofStrings s.prerequisites), ("vocabulary", ofStrings s.vocabulary)] ++
    fieldOf? "previous_link" .str s.previousLink)

def ErrorPrevention.toJson (e : ErrorPrevention) : Json :=
  .obj [("common_mistakes", ofStrings e.commonMistakes),
    ("prevention_tips", ofStrings e.preventionTips), ("check_points", ofStrings e.checkPoints),
    ("warnings", ofStrings e.warnings)]

def Validation.toJson (v : Validation) : Json :=
  .obj [("self_check", .str v.selfCheck), ("expected_result", .str v.expectedResult),
    ("troubleshooting", ofStrings v.troubleshooting)]

def HintLadder.toJson (h : HintLadder) : Json :=
  .obj [("level1", .str h.level1), ("level2", .str h.level2), ("level3", .str h.level3),
    ("level4", .str h.level4)]

def Scaffolding.toJson (s : Scaffolding) : Json :=
  .obj [("guiding_questions", ofStrings s.guidingQuestions), ("sub_steps", ofStrings s.subSteps),
    ("hint_ladder", s.hintLadder.toJson), ("practice_variation", .str s.practiceVariation)]

def Metacognition.toJson (m : Metacognition) : Json :=
  .obj [("thinking_process", .str m.thinkingProcess),
    ("decision_points", ofStrings m.decisionPoints), ("alternatives", ofStrings m.alternatives)]

def Enhancement.toJson (e : Enhancement) : Json :=
  .obj ([("explanations", e.explanations.toJson), ("adaptive", e.adaptive.toJson)] ++
    fieldOf? "highlighted_concept" .str e.highlightedConcept ++
    [("learning_support", e.learningSupport.toJson)] ++
    fieldOf? "error_prevention" ErrorPrevention.toJson e.errorPrevention ++
    fieldOf? "validation" Validation.toJson e.validation ++
    fieldOf? "scaffolding" Scaffolding.toJson e.scaffolding ++
    fieldOf? "metacognition" Metacognition.toJson e.metacognition)

def Bridge.fields (b : Bridge) : List (String × Json) :=
  [("title", .str b.title), ("current_state", .str b.currentState),
   ("next_goal", .str b.nextGoal), ("why", .str b.why), ("benefit", .str b.benefit),
   ("progression", .str b.progression), ("strategy", .str b.strategy)]

def Entry.toJson : Entry → Json
  | step base enhancement =>
    .obj (("entry", .str "step") :: base.fields ++
      fieldOf? "enhancement" Enhancement.toJson enhancement)
  | bridge b => .obj (("entry", .str "bridge") :: b.fields)

end Teaching

end EquationTutor
