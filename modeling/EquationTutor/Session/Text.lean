import EquationTutor.Numeric.Double
import EquationTutor.Session.Basic

namespace EquationTutor.Response

def problemLines (p : Problem Float) : List String :=
  s!"Problem: {p.kind.displayName} ({p.kind.name})" ::
    (if p.input.isEmpty then [] else [s!"Input:   {Text.trim p.input}"]) ++
    (p.scenario.map fun s => s!"Scenario: {s}").toList

/-- What a step does to an expression, or what it arrives at. -/
def expressionLine (s : Step) : Option String :=
  match s.before, s.after with
  | some before, some after => some s!"   {before}  →  {after}"
  | _, _ => s.result.map fun text => s!"   {text}"

def entryLines : Teaching.Entry → List String
  | .step s enhancement =>
    let concept := enhancement.bind fun e => e.highlightedConcept
    s!"{s.number}. {s.name}: {s.description}" ::
      (expressionLine s).toList ++ (concept.map fun c => s!"   Key idea: {c}").toList
  | .bridge b => [s!"   ↳ {b.why}"]

def solutionLines (s : Solution Float) : List String :=
  s!"Solution: {s.label} {s.set.text}" :: s.notes.map fun note => s!"Note: {note}"

def checkLine (c : SubstitutionCheck Float) : String :=
  let difference := Double.scientific c.difference
  let mark := if c.isValid then "✓" else "✗"
  s!"   {c.solution}: |{Double.plain c.left} - {Double.plain c.right}| = {difference} {mark}"

def reportLines (r : Report Float) : List String :=
  let verdict := if r.confidence = .low then "FAILED" else "ok"
  s!"Verification: {verdict} (confidence {r.confidence.name})" :: r.checks.map checkLine

/-- The answer in lines, with an empty line before and after the lesson. -/
def lines (r : Response Float) : List String :=
  problemLines r.problem ++ [""] ++ r.lesson.flatMap entryLines ++ [""] ++
    solutionLines r.solution ++ reportLines r.report

def text (r : Response Float) : String :=
  String.join (r.lines.map fun line => line ++ "\n")

end EquationTutor.Response
