import EquationTutor.Teaching.Enhance
import EquationTutor.Toml.Document

namespace EquationTutor

structure Settings where
  /-- The level of explanation where a request names none. -/
  level : Teaching.Level
  /-- Whether transitions stand between the steps. -/
  connections : Bool
  errorPrevention : Bool
  plot : Bool
  deriving DecidableEq

namespace Settings

def default : Settings :=
  ⟨.intermediate, true, true, true⟩

def options (s : Settings) : Teaching.Options :=
  ⟨s.connections, s.errorPrevention⟩

end Settings

inductive FileState where
  | absent
  /-- Something that is no text file. -/
  | directory
  | text (content : String)
  deriving DecidableEq

inductive SettingsError where
  | unreadable
  | malformed
  | unwritable
  deriving DecidableEq

def SettingsError.message : SettingsError → String
  | unreadable => "failed to read config file"
  | malformed => "failed to parse config file"
  | unwritable => "failed to write config file"

namespace Settings

/-- The default, or what a field says, if there is one. -/
def fieldOfToml? {β : Type} (fields : Toml.Fields) (key : String) (default : β)
    (read : Toml.Value → Option β) : Option β :=
  match fields.lookup key with
  | none => some default
  | some v => read v

def flagOfToml? : Toml.Value → Option Bool
  | .boolean b => some b
  | _ => none

/-- A level by its name, which may also be the only field of a table and empty
there. -/
def levelOfToml? : Toml.Value → Option Teaching.Level
  | .string s => Teaching.Level.ofName? s
  | .table _ [(s, .table _ [])] | .table _ [(s, .inline [])] | .table _ [(s, .array [])]
  | .inline [(s, .table _ [])] | .inline [(s, .inline [])] | .inline [(s, .array [])] =>
    Teaching.Level.ofName? s
  | _ => none

/-- Reads settings; what is not mentioned is as in the default ones. -/
def ofToml? (text : String) : Option Settings := do
  let fields ← Toml.document? text
  return {
    level := ← fieldOfToml? fields "explanation_level" default.level levelOfToml?
    connections :=
      ← fieldOfToml? fields "include_conceptual_connections" default.connections flagOfToml?
    errorPrevention :=
      ← fieldOfToml? fields "include_error_prevention" default.errorPrevention flagOfToml?
    plot := ← fieldOfToml? fields "include_graph" default.plot flagOfToml? }

def toToml (s : Settings) : String :=
  s!"explanation_level = \"{s.level.name}\"\n" ++
    s!"include_conceptual_connections = {s.connections}\n" ++
    s!"include_error_prevention = {s.errorPrevention}\n" ++
    s!"include_graph = {s.plot}\n"

/-- Reads the settings from a file; where there is none, they are the default
ones. -/
def load : FileState → Except SettingsError Settings
  | .absent => .ok default
  | .directory => .error .unreadable
  | .text content =>
    match ofToml? content with
    | some s => .ok s
    | none => .error .malformed

def save (s : Settings) : FileState → Except SettingsError FileState
  | .directory => .error .unwritable
  | _ => .ok (.text s.toToml)

end Settings

end EquationTutor
