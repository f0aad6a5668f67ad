import EquationTutor.Failure
import EquationTutor.Problem.Basic
import EquationTutor.Relation

namespace EquationTutor.Solve

variable {α : Type} [Scalar α]

/-- The value of an option, or the failure that names what is missing. -/
def orMissing {β : Type} (kind : Kind) (needed : String) : Option β → Except (Failure α) β
  | some v => .ok v
  | none => .error (.insufficientParameters kind needed)

def require (p : Params α) (key : String) (kind : Kind) : Except (Failure α) α :=
  orMissing kind s!"missing parameter '{key}'" (p.number? key)

/-- The coefficients `a`, `b` and `c`, of which one at least must be given; the
others default to 1, 0 and 0. -/
def quadraticCoefficients (p : Params α) (kind : Kind) : Except (Failure α) (α × α × α) :=
  if ["a", "b", "c"].any fun key => (p.number? key).isSome then
    .ok (p.numberD "a" 1, p.numberD "b" 0, p.numberD "c" 0)
  else .error (.insufficientParameters kind "coefficients a, b, c")

def relation (p : Params α) (kind : Kind) : Except (Failure α) Relation :=
  orMissing kind "comparison operator" ((p.text? "operator").bind Relation.ofString?)

/-- The base of a power; the text `e` stands for Euler's number. -/
def base? (p : Params α) : Option α :=
  if (p.text? "base").any fun t => Text.trim t = "e" then some Scalar.euler
  else p.number? "base"

def requireBase (p : Params α) (kind : Kind) : Except (Failure α) α :=
  orMissing kind "missing parameter 'base'" (base? p)

/-- The logarithm of a base, which must be positive and not 1. -/
def lnBase (base : α) : Except (Failure α) α :=
  if !Scalar.isFinite base || base ≤ 0 then .error (.invalidBase base)
  else
    let ln := Scalar.ln base
    if Scalar.isZero ln then .error (.invalidBase base) else .ok ln

end EquationTutor.Solve
