import EquationTutor.Numeric.Literal
import EquationTutor.Session.Basic

namespace EquationTutor.CommandLine

/-- What an argument is when no value is expected. -/
inductive Word where
  /-- Two dashes, after which no argument is an option. -/
  | separator
  /-- A name after two dashes, and the value after an equals sign. -/
  | option (name : String) (value : Option String)
  /-- A dash with something else after it. -/
  | unknown
  | plain (text : String)

def splitEquals (cs : List Char) : String × Option String :=
  let name := String.ofList (cs.takeWhile (· ≠ '='))
  match cs.dropWhile (· ≠ '=') with
  | _ :: value => (name, some (String.ofList value))
  | [] => (name, none)

def Word.ofString (arg : String) : Word :=
  match arg.toList with
  | ['-', '-'] => separator
  | '-' :: '-' :: cs => let (name, value) := splitEquals cs; option name value
  | '-' :: _ :: _ => unknown
  | _ => plain arg

/-- The argument as the value of the option before it. -/
def valueOf? (arg : String) : Option String :=
  match Word.ofString arg with
  | .plain text => some text
  | _ => none

inductive Item where
  | argument (text : String)
  | option (name : String) (value : String)
  | flag (name : String)

/-- The options of a command: whether a name is an option, and whether it takes a
value. -/
abbrev Options := String → Option Bool

/-- Reads the arguments of a command; `pending` is an option whose value is to
come. -/
def items? (options : Options) : (pending : Option String) → List String → Option (List Item)
  | none, [] => some []
  | some _, [] => none
  | some name, arg :: rest =>
    (valueOf? arg).bind fun value =>
      (items? options none rest).map fun items => .option name value :: items
  | none, arg :: rest =>
    match Word.ofString arg with
    | .separator => some (rest.map .argument)
    | .unknown => none
    | .plain text => (items? options none rest).map fun items => .argument text :: items
    | .option name value =>
      match options name, value with
      | some true, some value =>
        (items? options none rest).map fun items => .option name value :: items
      | some true, none => items? options (some name) rest
      | some false, none => (items? options none rest).map fun items => .flag name :: items
      | _, _ => none

def valuesOf (name : String) (items : List Item) : List String :=
  items.filterMap fun
    | .option n value => if n = name then some value else none
    | _ => none

def atMostOne? {β : Type} : List β → Option (Option β)
  | [] => some none
  | [b] => some (some b)
  | _ => none

def value? (name : String) (items : List Item) : Option (Option String) :=
  atMostOne? (valuesOf name items)

def flag? (name : String) (items : List Item) : Option Bool :=
  let given := items.filter fun
    | .flag n => n = name
    | _ => false
  (atMostOne? given).map Option.isSome

inductive Format where
  | text
  | json
  deriving DecidableEq

def Format.ofName? (s : String) : Option Format :=
  if s = "text" then some text else if s = "json" then some json else none

structure Task (α : Type) where
  request : Request α
  format : Format
  plot : Bool
  connections : Bool

inductive Action (α : Type) where
  | solve (task : Task α)
  /-- Show the table of problem kinds. -/
  | types

structure Arguments (α : Type) where
  /-- The path of the settings, if not the usual one. -/
  settings : Option String
  action : Action α

section

variable {α : Type} [Scalar α]

def paramValue (text : String) : ParamValue α :=
  match Literal.ofString? text with
  | some l => .number l.value
  | none => .text text

/-- A parameter written `key=value`, with blanks around either part. -/
def param? (raw : String) : Option (String × ParamValue α) :=
  match splitEquals raw.toList with
  | (_, none) => none
  | (key, some value) =>
    let key := Text.trim key
    if key.isEmpty then none else some (key, paramValue (Text.trim value))

def read? {β : Type} (f : String → Option β) : Option String → Option (Option β)
  | none => some none
  | some s => (f s).map some

def path? (s : String) : Option String :=
  if s.isEmpty then none else some s

def taskOptions : Options := fun name =>
  if ["config", "scenario", "type", "param", "level", "format"].contains name then some true
  else if ["no-graph", "no-bridges"].contains name then some false
  else none

def task? (items : List Item) : Option (Task α) := do
  let equation ← atMostOne? (items.filterMap fun
    | .argument text => some text
    | _ => none)
  let scenario ← value? "scenario" items
  let kindName ← value? "type" items
  let params ← (valuesOf "param" items).mapM param?
  let level ← read? Teaching.Level.ofText? (← value? "level" items)
  let format ← read? Format.ofName? (← value? "format" items)
  let noPlot ← flag? "no-graph" items
  let noConnections ← flag? "no-bridges" items
  return {
    request := {
      question := {
        equation := equation
        scenario := scenario
        kindName := kindName
        parameters := if params.isEmpty then none else some (Params.ofList params)
        context := none }
      level := level }
    format := format.getD .text
    plot := !noPlot
    connections := !noConnections }

/-- The arguments after the name of a command. The settings may be named before
or after it, and then the latter counts. -/
def command? (settings : Option String) (name : String) (rest : List String) :
    Option (Arguments α) :=
  if name = "solve" then do
    let items ← items? taskOptions none rest
    let own ← read? path? (← value? "config" items)
    return ⟨own.or settings, .solve (← task? items)⟩
  else if name = "types" then do
    let items ← items? (fun name => if name = "config" then some true else none) none rest
    let own ← read? path? (← value? "config" items)
    if items.any fun | .argument _ => true | _ => false then none
    else return ⟨own.or settings, .types⟩
  else none

/-- Reads the arguments up to the name of a command; `pending` tells that the path
of the settings is to come. -/
def argumentsAfter? (settings : Option String) (pending : Bool) :
    List String → Option (Arguments α)
  | [] => none
  | arg :: rest =>
    if pending then
      ((valueOf? arg).bind path?).bind fun path => argumentsAfter? (some path) false rest
    else
      match Word.ofString arg with
      | .plain name => command? settings name rest
      | .option "config" value =>
        if settings.isSome then none
        else
          match value with
          | some value => (path? value).bind fun path => argumentsAfter? (some path) false rest
          | none => argumentsAfter? none true rest
      | _ => none

def Arguments.ofList? : List String → Option (Arguments α) :=
  argumentsAfter? none false

end

end EquationTutor.CommandLine
