import EquationTutor.Pattern.Search
import EquationTutor.Problem.Kind
import EquationTutor.Reading.Grammar

namespace EquationTutor.Reading

open Pattern

def recognizers : Kind → List Pattern
  | .exponentialInequality =>
    [cat [any [one Text.isDigit, cat [boundary, char 'e']], exponentX, orderSign],
     phrase ["exponential", "inequalit"]]
  | .exponentialQuadratic =>
    [cat [exponentTwoX, sign, manyExcept ['=', '<', '>'], char '^', blanks,
       optional (char '('), blanks, char 'x'],
     any [cat [word "exponential", manyInLine, word "quadratic"],
          cat [word "quadratic", manyInLine, word "exponential"]],
     phrase ["quadratic", "form"]]
  | .quadraticInequality =>
    [cat [squared 'x', manyExcept ['=', '<', '>', '!'], inequalitySign],
     phrase ["quadratic", "inequalit"]]
  | .projectileMotion =>
    [wholly (word "projectile"),
     wholly (anyWord ["thrown", "launched", "tossed", "fired", "kicked"]),
     wholly (cat [word "trajector", anyWord ["y", "ies"]]),
     cat [word "initial", blanks1, optional (cat [word "upward", blanks1]), word "velocity"],
     heightHead]
  | .quadraticOptimization =>
    [wholly (cat [anyWord ["maximi", "minimi", "optimi"], sOrZ, letter 'e']),
     wholly (cat [anyWord ["maximum", "minimum"], blanks1, anyWord ["value", "point"]]),
     any [wholly (cat [anyWord ["find", "locate"], blanks1, optional (cat [word "the", blanks1]),
            word "vertex"]),
          wholly (phrase ["vertex", "of"])],
     wholly (word "parabola"),
     cat [word "analy", sOrZ, letter 'e', blanks1, optional (cat [word "the", blanks1]),
       optional (cat [word "quadratic", blanks1]), word "function"],
     cat [functionHead, equals, manyExcept ['=', '<', '>'], squared 'x']]
  | .factoringQuadratic =>
    [wholly (cat [word "factor", optional (anyWord ["ing", "ise", "ize"])])]
  | .completingSquare =>
    [cat [word "complet", anyWord ["e", "ing"], blanks1, optional (cat [word "the", blanks1]),
       word "square"],
     phrase ["vertex", "form"]]
  | .quadraticFormula => [phrase ["quadratic", "formula"]]
  | .standardQuadratic =>
    [cat [squared 'x', manyExcept ['<', '>', '!'], char '='],
     phrase ["quadratic", "equation"]]
  | .naturalExponential =>
    [cat [any [start, one fun c => !('a' ≤ c && c ≤ 'z')], char 'e', exponentOpening,
       manyExcept ['=', '<', '>'], char 'x', manyExcept ['=', '<', '>'], char '=']]
  | .simpleExponential =>
    [cat [one Text.isDigit, exponentX, char '='],
     phrase ["exponential", "equation"]]
  | .compoundInterest =>
    [cat [word "compound", optional (word "ed"), blanks1, word "interest"],
     cat [word "compounded", blanks1,
       any [word "annually", cat [word "semi", optional (char '-'), word "annually"],
            word "quarterly", word "monthly", word "weekly", word "daily", word "continuously"]],
     wholly (cat [word "invest", optional (anyWord ["ed", "ment", "s"])]),
     wholly (phrase ["interest", "rate"])]
  | .halfLife =>
    [cat [word "half", optional (one fun c => Text.isBlank c || c == '-'), word "life"],
     phrase ["doubling", "time"]]
  | .exponentialGrowth =>
    [phrase ["exponential", "growth"],
     phrase ["population", "grow"],
     wholly (word "bacteria"),
     cat [word "growth", blanks1, anyWord ["rate", "model"]]]
  | .exponentialDecay =>
    [phrase ["exponential", "decay"],
     word "radioactive",
     cat [word "decay", blanks1, anyWord ["rate", "model"]],
     word "depreciat"]
  | .logarithmicEquation =>
    [cat [boundary, text "log", optional (cat [char '_', decimal]), argument 'x', blanks, char '='],
     cat [boundary, text "ln", argument 'x', blanks, char '='],
     phrase ["logarithmic", "equation"]]
  | .linearInequality =>
    [cat [char 'x', blanks, optional (cat [sign, blanks, decimal, blanks]), orderSign],
     phrase ["linear", "inequalit"]]
  | .linearSystem =>
    [cat [char 'x', manyExcept [',', ';'], char 'y', blanks, char '=', manyExcept [',', ';'],
       anyOf [',', ';'], manyExcept [',', ';'], char 'y'],
     cat [word "system", blanks1, word "of", blanks1, optional (cat [word "linear", blanks1]),
       word "equations"]]
  | .simpleLinear =>
    [cat [char 'x', blanks, optional (cat [sign, blanks, decimal, blanks]), char '=', blanks,
       optional sign, blanks, optional (char '.'), one Text.isDigit],
     phrase ["linear", "equation"]]

/-- A recognizer with the kind it stands for and its place in the list of the
kind. -/
structure Recognizer where
  kind : Kind
  index : Nat
  pattern : Pattern

def recognizersOf (kind : Kind) : List Recognizer :=
  (recognizers kind).zipIdx.map fun p => ⟨kind, p.2, p.1⟩

def catalog : List Recognizer :=
  Kind.all.flatMap recognizersOf

/-- The places of the recognizers of a kind that match anywhere in a text. -/
def recognizedBy (kind : Kind) (s : String) : List Nat :=
  ((recognizersOf kind).filter fun r => r.pattern.occursIn s).map Recognizer.index

end EquationTutor.Reading
