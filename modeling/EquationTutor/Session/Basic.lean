import EquationTutor.Plot
import EquationTutor.Reading.Parse
import EquationTutor.Session.Settings
import EquationTutor.Solve.Dispatch
import EquationTutor.Step.Generate
import EquationTutor.Verification

namespace EquationTutor

structure Request (α : Type) where
  question : Reading.Question α
  /-- The level of explanation, if not that of the settings. -/
  level : Option Teaching.Level

/-- A problem with its solution and its steps as they are before a lesson is made
of them. -/
structure Solved (α : Type) where
  problem : Problem α
  solution : Solution α
  steps : List Step
  level : Teaching.Level

structure Response (α : Type) where
  problem : Problem α
  solution : Solution α
  lesson : List Teaching.Entry
  report : Report α
  plot : Option (Plot α)

namespace Solved

/-- The lesson on a solved problem. -/
def lesson {α : Type} (s : Solved α) (options : Teaching.Options) : List Teaching.Entry :=
  Teaching.enhance s.problem.kind s.level options s.steps

def response {α : Type} [Scalar α] (s : Solved α) (settings : Settings) : Response α :=
  { problem := s.problem
    solution := s.solution
    lesson := s.lesson settings.options
    report := s.solution.verify
    plot := if settings.plot then s.solution.plot? else none }

end Solved

def Request.solve {α : Type} [Scalar α] (r : Request α) (settings : Settings) :
    Except (Failure α) (Solved α) := do
  let problem ← Reading.parseProblem r.question
  let solution ← problem.solve
  return ⟨problem, solution, solution.steps problem.kind, r.level.getD settings.level⟩

structure Session (α : Type) where
  settings : Settings
  /-- The problem solved last. -/
  current : Option (Solved α)

/-- What a session can be told to do. -/
inductive Command (α : Type) where
  | solve (request : Request α)
  /-- Explain the current problem at a level. -/
  | explain (level : Teaching.Level)
  | clear
  | configure (settings : Settings)

inductive Answer (α : Type) where
  | response (r : Response α)
  | lesson (entries : List Teaching.Entry)
  | cleared
  | configured (settings : Settings)

/-- A call on a session, which reads and assigns it and may fail. What is assigned before a
failure stays assigned. -/
abbrev Call (α β : Type) := ExceptT (Failure α) (StateM (Session α)) β

namespace Call

variable {α : Type}

/-- Explains the current problem at a level, which it then keeps. -/
def explain (level : Teaching.Level) : Call α (List Teaching.Entry) := do
  let s ← get
  match s.current with
  | none => throw .noActiveProblem
  | some solved =>
    let solved := { solved with level := level }
    set { s with current := some solved }
    return solved.lesson s.settings.options

def clear : Call α Unit :=
  modify fun s => { s with current := none }

def configure (settings : Settings) : Call α Unit :=
  modify fun s => { s with settings := settings }

variable [Scalar α]

/-- Solves a request and makes its problem the current one. -/
def solve (r : Request α) : Call α (Response α) := do
  let s ← get
  let solved ← MonadExcept.ofExcept (r.solve s.settings)
  set { s with current := some solved }
  return solved.response s.settings

end Call

def Command.call {α : Type} [Scalar α] : Command α → Call α (Answer α)
  | .solve r => do
    let response ← Call.solve r
    return .response response
  | .explain level => do
    let entries ← Call.explain level
    return .lesson entries
  | .clear => do
    Call.clear
    return .cleared
  | .configure settings => do
    Call.configure settings
    return .configured settings

namespace Session

variable {α : Type}

def start (settings : Settings) : Session α :=
  ⟨settings, none⟩

variable [Scalar α]

/-- The answer to a request, and the session behind it. -/
def solve (s : Session α) (r : Request α) : Except (Failure α) (Response α × Session α) :=
  let (answer, next) := (Call.solve r).run s
  answer.map fun response => (response, next)

/-- Carries out a command, which may fail, and goes on with what it leaves. -/
def apply (s : Session α) (c : Command α) : Except (Failure α) (Answer α) × Session α :=
  c.call.run s

def run (s : Session α) : List (Command α) → List (Except (Failure α) (Answer α)) × Session α
  | [] => ([], s)
  | c :: cs =>
    let (answer, next) := s.apply c
    let (answers, last) := next.run cs
    (answer :: answers, last)

end Session

end EquationTutor
