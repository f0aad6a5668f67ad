import EquationTutor.Pattern.Basic

namespace EquationTutor.Reading

open Pattern

/-- Digits with an optional fractional part. -/
def decimal : Pattern :=
  cat [digits, optional (cat [char '.', digits])]

def number : Pattern :=
  any [decimal, cat [char '.', digits]]

def sign : Pattern :=
  anyOf ['+', '-']

/-- A fraction bar and a whole denominator. -/
def overDigits : Pattern :=
  cat [char '/', digits]

/-- A coefficient, which may be empty or a lone sign. -/
def coefficient : Pattern :=
  cat [optional sign, blanks, optional number, optional overDigits]

/-- A coefficient that must have its sign. -/
def signedCoefficient : Pattern :=
  cat [sign, blanks, optional number, optional overDigits]

def signedNumber : Pattern :=
  cat [optional sign, blanks, number, optional overDigits]

/-- A number that must have its sign. -/
def constantTerm : Pattern :=
  cat [sign, blanks, number, optional overDigits]

def base : Pattern :=
  any [number, char 'e']

def times : Pattern :=
  cat [blanks, optional (char '*'), blanks]

def orderSign : Pattern :=
  any [text "<=", text ">=", char '<', char '>']

def inequalitySign : Pattern :=
  any [text "<=", text ">=", text "!=", char '<', char '>']

def relationSign : Pattern :=
  any [text "<=", text ">=", text "!=", char '=', char '<', char '>']

def squared (v : Char) : Pattern :=
  cat [char v, blanks, char '^', blanks, char '2']

/-- An opening of an exponent, with or without a parenthesis. -/
def exponentOpening : Pattern :=
  cat [blanks, char '^', blanks, optional (char '(')]

/-- The exponent `x`, with or without parentheses. -/
def exponentX : Pattern :=
  cat [exponentOpening, blanks, char 'x', blanks, optional (char ')'), blanks]

/-- The exponent `2x` in parentheses. -/
def exponentTwoX : Pattern :=
  cat [char '^', blanks, char '(', blanks, char '2', times, char 'x', blanks, char ')', blanks]

def argument (v : Char) : Pattern :=
  cat [blanks, char '(', blanks, char v, blanks, char ')']

def functionHead : Pattern :=
  any [cat [boundary, anyOf ['f', 'g', 'p'], argument 'x'], cat [boundary, char 'y']]

def heightHead : Pattern :=
  cat [boundary, char 'h', argument 't', blanks, char '=']

def equals : Pattern :=
  cat [blanks, char '=', blanks]

/-- Digits with commas among them and an optional fractional part. -/
def amount : Pattern :=
  cat [one Text.isDigit, many fun c => Text.isDigit c || c == ',',
    optional (cat [char '.', digits])]

/-- The words `of` or `is`, if they stand here. -/
def ofOrIs : Pattern :=
  optional (any [cat [word "of", blanks1], cat [word "is", blanks1]])

def plural (w : String) : Pattern :=
  cat [word w, optional (letter 's')]

def anyWord (ws : List String) : Pattern :=
  any (ws.map word)

/-- The letter `s` or `z`, as in two spellings of many verbs. -/
def sOrZ : Pattern :=
  any [letter 's', letter 'z']

/-- A pattern that starts and ends at word boundaries. -/
def wholly (p : Pattern) : Pattern :=
  cat [boundary, p, boundary]

end EquationTutor.Reading
