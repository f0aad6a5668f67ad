import EquationTutor.Text.Blank
import EquationTutor.Text.Character

namespace EquationTutor

/-- A text pattern. Of the ways to match, earlier alternatives and longer
repetitions come first, unless a repetition is lazy. -/
inductive Pattern where
  | empty
  /-- One character of a class. -/
  | one (accepts : Char → Bool)
  | seq (first second : Pattern)
  | alt (first second : Pattern)
  | optional (p : Pattern)
  /-- At least `least` and at most `most` characters of a class. -/
  | repeated (accepts : Char → Bool) (least : Nat) (most : Option Nat) (greedy : Bool)
  /-- What `p` matches is kept under the number `index`. -/
  | group (index : Nat) (p : Pattern)
  /-- A place between a word character and anything else. -/
  | boundary
  /-- The start of the text. -/
  | start

namespace Pattern

def cat : List Pattern → Pattern
  | [] => empty
  | [p] => p
  | p :: ps => seq p (cat ps)

/-- The first of the patterns that leads to a match. -/
def any : List Pattern → Pattern
  | [] => one fun _ => false
  | [p] => p
  | p :: ps => alt p (any ps)

def char (c : Char) : Pattern :=
  one (· == c)

def anyOf (cs : List Char) : Pattern :=
  one cs.contains

def many (accepts : Char → Bool) : Pattern :=
  repeated accepts 0 none true

def oneOrMore (accepts : Char → Bool) : Pattern :=
  repeated accepts 1 none true

def manyExcept (cs : List Char) : Pattern :=
  many fun c => !cs.contains c

def manyInLine : Pattern :=
  manyExcept ['\n']

def blanks : Pattern :=
  many Text.isBlank

def blanks1 : Pattern :=
  oneOrMore Text.isBlank

def digits : Pattern :=
  oneOrMore Text.isDigit

def text (s : String) : Pattern :=
  cat (s.toList.map char)

/-- Whether `c` is the lower-case letter `l` up to case. The long s and the
Kelvin sign are case variants of `s` and `k`. -/
def isVariantOf (l c : Char) : Bool :=
  c.toLower == l || (l == 's' && c == 'ſ') || (l == 'k' && c == '\u212a')

def letter (l : Char) : Pattern :=
  one (isVariantOf l)

/-- The characters of a lower-case text, in either case. -/
def word (s : String) : Pattern :=
  cat (s.toList.map letter)

def phrase : List String → Pattern
  | [] => empty
  | [w] => word w
  | w :: ws => cat [word w, blanks1, phrase ws]

def groupCount : Pattern → Nat
  | seq p q => max p.groupCount q.groupCount
  | alt p q => max p.groupCount q.groupCount
  | optional p => p.groupCount
  | group i p => max i p.groupCount
  | _ => 0

end Pattern

end EquationTutor
