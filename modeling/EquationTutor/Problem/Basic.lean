import EquationTutor.Numeric.Coefficient
import EquationTutor.Numeric.Display
import EquationTutor.Problem.Kind

namespace EquationTutor

inductive ParamValue (α : Type) where
  | number (value : α)
  | text (value : String)

namespace ParamValue

variable {α : Type} [Scalar α]

/-- The value as a number; text is read as a coefficient. -/
def toNumber : ParamValue α → α
  | number n => n
  | text t => parseCoefficient t

def shown : ParamValue α → String
  | number n => EquationTutor.shown n
  | text t => t

def isNumber : ParamValue α → Bool
  | number _ => true
  | text _ => false

end ParamValue

structure Params (α : Type) where
  entries : List (String × ParamValue α)

namespace Params

variable {α : Type}

def empty : Params α :=
  ⟨[]⟩

/-- The entries with `key` set to `value`, in the place its order asks for. -/
def insertEntry (key : String) (value : ParamValue α) :
    List (String × ParamValue α) → List (String × ParamValue α)
  | [] => [(key, value)]
  | (k, v) :: rest =>
    if key = k then (key, value) :: rest
    else if key < k then (key, value) :: (k, v) :: rest
    else (k, v) :: insertEntry key value rest

def insert (p : Params α) (key : String) (value : ParamValue α) : Params α :=
  ⟨insertEntry key value p.entries⟩

def get? (p : Params α) (key : String) : Option (ParamValue α) :=
  p.entries.lookup key

def contains (p : Params α) (key : String) : Bool :=
  (p.get? key).isSome

/-- Sets `key` only when it is absent. -/
def setDefault (p : Params α) (key : String) (value : ParamValue α) : Params α :=
  if p.contains key then p else p.insert key value

/-- The entries of `p` overlaid by those of `q`. -/
def merge (p q : Params α) : Params α :=
  q.entries.foldl (fun r e => r.insert e.1 e.2) p

def ofList (entries : List (String × ParamValue α)) : Params α :=
  merge empty ⟨entries⟩

def insertNumber (p : Params α) (key : String) (value : α) : Params α :=
  p.insert key (.number value)

def insertText (p : Params α) (key : String) (value : String) : Params α :=
  p.insert key (.text value)

def text? (p : Params α) (key : String) : Option String :=
  match p.get? key with
  | some (.text t) => some t
  | _ => none

def hasNumbers (p : Params α) : Bool :=
  p.entries.any fun e => e.2.isNumber

def isEmpty (p : Params α) : Bool :=
  p.entries.isEmpty

variable [Scalar α]

def number? (p : Params α) (key : String) : Option α :=
  (p.get? key).map ParamValue.toNumber

def numberD (p : Params α) (key : String) (default : α) : α :=
  (p.number? key).getD default

end Params

structure Problem (α : Type) where
  /-- The equation as it was typed. -/
  input : String
  /-- The equation after normalization. -/
  normalized : String
  kind : Kind
  scenario : Option String
  parameters : Params α
  context : Option String

def Problem.ofParams {α : Type} (kind : Kind) (parameters : Params α) : Problem α :=
  ⟨"", "", kind, none, parameters, none⟩

end EquationTutor
