import EquationTutor.CommandLine.Arguments
import EquationTutor.Json.Session
import EquationTutor.Session.Settings
import EquationTutor.Session.Text

namespace EquationTutor.CommandLine

inductive Output where
  | text (s : String)
  | json (j : Json)

namespace Output

def toString : Output → String
  | text s => s
  | json j => j.pretty ++ "\n"

end Output

structure Outcome where
  /-- 0 for success, 1 for a failure and 2 for arguments that are not
  understood. -/
  exit : Nat
  output : Output
  errors : String

def defaultPath : String :=
  "eqn_config.toml"

def usage : String :=
  "usage: eqn [--config PATH] (types | solve [EQUATION] [--scenario TEXT] [--type NAME]\n" ++
    "    [--param KEY=VALUE]... [--level LEVEL] [--format text|json] [--no-graph] [--no-bridges])\n"

/-- The lines of a text after the first, indented like the first. -/
def indentLines (s : String) : String :=
  "\n    ".intercalate (s.splitOn "\n")

def failureText (e : Failure Float) : String :=
  s!"Error: solve failed\n\nCaused by:\n    {indentLines e.message}\n"

def settingsFailureText (path : String) (e : SettingsError) : String :=
  s!"Error: loading configuration from {path}\n\nCaused by:\n    {e.message} {path}\n"

def Task.settings {α : Type} (t : Task α) (s : Settings) : Settings :=
  { s with
    plot := s.plot && t.plot
    connections := s.connections && t.connections }

def Task.run (t : Task Float) (settings : Settings) : Outcome :=
  let answer := (Session.start (t.settings settings)).solve t.request
  match answer, t.format with
  | .ok (response, _), .text => ⟨0, .text response.text, ""⟩
  | .ok (response, _), .json => ⟨0, .json response.toJson, ""⟩
  | .error e, .text => ⟨1, .text "", failureText e⟩
  | .error e, .json =>
    let q := t.request.question
    ⟨1, .json (e.toJson (q.equation.or q.scenario)), failureText e⟩

def run (file : String → FileState) (args : List String) : Outcome :=
  match (Arguments.ofList? args : Option (Arguments Float)) with
  | none => ⟨2, .text "", usage⟩
  | some ⟨_, .types⟩ => ⟨0, .text (Kind.table Kind.all), ""⟩
  | some ⟨path, .solve task⟩ =>
    let path := path.getD defaultPath
    match Settings.load (file path) with
    | .ok settings => task.run settings
    | .error e => ⟨1, .text "", settingsFailureText path e⟩

end EquationTutor.CommandLine
