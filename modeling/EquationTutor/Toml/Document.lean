import EquationTutor.Toml.Number
import EquationTutor.Toml.Scan
import EquationTutor.Toml.Time

namespace EquationTutor.Toml

/-- Values nest less deeply than this, and a key has fewer parts. -/
def depthLimit : Nat :=
  80

/-- Items of an array up to its closing bracket, at most `fuel` of them. A comma
may follow the last one. -/
def items? (item? : List Char → Option (Value × List Char)) :
    (fuel : Nat) → List Char → Option (List Value × List Char)
  | 0, _ => none
  | fuel + 1, cs =>
    match skipGap false cs with
    | ']' :: rest => some ([], rest)
    | cs =>
      (item? cs).bind fun (v, rest) =>
        match skipGap false rest with
        | ',' :: more => (items? item? fuel more).map fun (vs, rest) => (v :: vs, rest)
        | ']' :: rest => some ([v], rest)
        | _ => none

def pair? (value? : List Char → Option (Value × List Char)) (cs : List Char) :
    Option ((List String × String × Value) × List Char) := do
  let (parts, cs) ← key? (depthLimit - 1) cs
  let cs ← exactly? '=' cs
  let (v, rest) ← value? (skipBlanks cs)
  let key ← parts.getLast?
  return ((parts.dropLast, key, v), rest)

/-- Fields of a table in braces up to the closing brace, at most `fuel` of
them. -/
def pairs? (value? : List Char → Option (Value × List Char)) :
    (fuel : Nat) → Fields → List Char → Option (Fields × List Char)
  | 0, _, _ => none
  | fuel + 1, fields, cs =>
    (pair? value? cs).bind fun ((path, key, v), rest) =>
      (fields.assign path key v).bind fun fields =>
        match skipBlanks rest with
        | ',' :: more => pairs? value? fuel fields more
        | '\x7d' :: rest => some (fields, rest)
        | _ => none

/-- A value in which arrays and tables nest less than `depth` deep. -/
def value? : (depth : Nat) → List Char → Option (Value × List Char)
  | _, 't' :: 'r' :: 'u' :: 'e' :: cs => some (.boolean true, cs)
  | _, 'f' :: 'a' :: 'l' :: 's' :: 'e' :: cs => some (.boolean false, cs)
  | depth, '[' :: cs =>
    match depth with
    | 0 => none
    | depth + 1 =>
      (items? (value? depth) (cs.length + 1) cs).map fun (vs, rest) => (.array vs, rest)
  | depth, '\x7b' :: cs =>
    match depth with
    | 0 => none
    | depth + 1 =>
      match skipBlanks cs with
      | '\x7d' :: rest => some (.inline [], rest)
      | cs => (pairs? (value? depth) (cs.length + 1) [] cs).map fun (fs, rest) => (.inline fs, rest)
  | _, cs =>
    if cs.head?.any fun c => c = '"' || c = '\'' then
      (string? cs).map fun (s, rest) => (.string s, rest)
    else (time? cs).orElse fun _ => number? cs

inductive Line where
  | assignment (path : List String) (key : String) (value : Value)
  | table (path : List String) (key : String)
  | tables (path : List String) (key : String)

def header? (cs : List Char) : Option ((List String × String) × List Char) := do
  let (parts, rest) ← key? (depthLimit - 1) cs
  let key ← parts.getLast?
  return ((parts.dropLast, key), rest)

def line? : List Char → Option (Line × List Char)
  | '[' :: '[' :: cs => do
    let ((path, key), cs) ← header? cs
    let cs ← exactly? ']' cs
    let cs ← exactly? ']' cs
    return (.tables path key, cs)
  | '[' :: cs => do
    let ((path, key), cs) ← header? cs
    let cs ← exactly? ']' cs
    return (.table path key, cs)
  | cs => do
    let ((path, key, v), cs) ← pair? (value? (depthLimit - 1)) cs
    return (.assignment path key v, cs)

/-- What has been read, and the table that assignments go to. -/
structure State where
  fields : Fields
  current : List String

def State.apply (s : State) : Line → Option State
  | .assignment path key v =>
    (s.fields.descend false (fun _ inner => inner.assign path key v) s.current .header).map
      fun fields => { s with fields := fields }
  | .table path key =>
    (s.fields.openTable path key).map fun fields => ⟨fields, path ++ [key]⟩
  | .tables path key =>
    (s.fields.appendTable path key).map fun fields => ⟨fields, path ++ [key]⟩

def lines? : (fuel : Nat) → State → List Char → Option Fields
  | 0, _, _ => none
  | fuel + 1, s, cs =>
    match skipGap false cs with
    | [] => some s.fields
    | cs =>
      (line? cs).bind fun (line, rest) =>
        (s.apply line).bind fun s => (restOfLine? rest).bind (lines? fuel s)

/-- The fields of a document, which may begin with a byte order mark. -/
def document? (text : String) : Option Fields :=
  let cs :=
    match text.toList with
    | '\uFEFF' :: cs => cs
    | cs => cs
  lines? (cs.length + 1) ⟨[], []⟩ cs

end EquationTutor.Toml
