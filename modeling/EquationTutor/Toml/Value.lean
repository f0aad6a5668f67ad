/-!
Values of a TOML document, and how its lines build up the tables. A table has one
header at most, and a dotted key adds only to tables made by dotted keys.
-/

namespace EquationTutor.Toml

inductive Origin where
  /-- By a header of its own. -/
  | header
  /-- As a part of the name in another header. -/
  | implied
  /-- As a part of a dotted key. -/
  | dotted
  deriving DecidableEq

inductive Value where
  | string (s : String)
  | integer (n : Int)
  | real (x : Float)
  | boolean (b : Bool)
  /-- A date, a time of day or both. -/
  | time (text : String)
  | array (items : List Value)
  /-- A table in braces, to which nothing can be added. -/
  | inline (fields : List (String × Value))
  | table (origin : Origin) (fields : List (String × Value))
  /-- The tables that share a doubly bracketed header. -/
  | tables (items : List (List (String × Value)))

abbrev Fields := List (String × Value)

namespace Fields

def alter (key : String) (change : Option Value → Option Value) : Fields → Option Fields
  | [] => (change none).map fun v => [(key, v)]
  | (k, v) :: rest =>
    if k = key then (change (some v)).map fun w => (k, w) :: rest
    else (alter key change rest).map fun fs => (k, v) :: fs

def add (key : String) (value : Value) (fields : Fields) : Option Fields :=
  fields.alter key fun
    | none => some value
    | some _ => none

/-- Changes the table at the end of a path, where tables that are missing on the
way are made. The path is that of a dotted key or of a header. -/
def descend (dotted : Bool) (change : Origin → Fields → Option Fields) :
    List String → Origin → Fields → Option Fields
  | [], origin, fields => change origin fields
  | key :: path, _, fields =>
    fields.alter key fun
      | none =>
        let origin := if dotted then .dotted else .implied
        (descend dotted change path origin []).map (Value.table origin)
      | some (.table origin inner) =>
        if dotted && origin = .header then none
        else (descend dotted change path origin inner).map (Value.table origin)
      | some (.tables items) =>
        items.getLast?.bind fun last =>
          (descend dotted change path .header last).map fun fs =>
            Value.tables (items.dropLast ++ [fs])
      | some _ => none

/-- The line `path.key = value` in a table. -/
def assign (path : List String) (key : String) (value : Value) (fields : Fields) :
    Option Fields :=
  descend true
    (fun origin inner =>
      if path.isEmpty || origin = .dotted then add key value inner else none)
    path .header fields

/-- The header `[path.key]`. -/
def openTable (path : List String) (key : String) (fields : Fields) : Option Fields :=
  descend false
    (fun _ inner => inner.alter key fun
      | none => some (.table .header [])
      | some (.table .implied fs) => some (.table .header fs)
      | some _ => none)
    path .header fields

/-- The header `[[path.key]]`. -/
def appendTable (path : List String) (key : String) (fields : Fields) : Option Fields :=
  descend false
    (fun _ inner => inner.alter key fun
      | none => some (.tables [[]])
      | some (.tables items) => some (.tables (items ++ [[]]))
      | some _ => none)
    path .header fields

end Fields

end EquationTutor.Toml
