import EquationTutor.Text.Blank

namespace EquationTutor.Reading

/-- Pairs of stars become carets. -/
def caretForStars : List Char → List Char
  | '*' :: '*' :: rest => '^' :: caretForStars rest
  | c :: rest => c :: caretForStars rest
  | [] => []

/-- The typewriter form of an operator or superscript. -/
def plainGlyph (c : Char) : List Char :=
  if c = '≤' then ['<', '=']
  else if c = '≥' then ['>', '=']
  else if c = '≠' then ['!', '=']
  else if c = '²' then ['^', '2']
  else if c = '³' then ['^', '3']
  else if c = '·' || c = '×' || c = '⋅' then ['*']
  else if c = '−' || c = '–' then ['-']
  else [c]

def normalizeChars (cs : List Char) : List Char :=
  [' '].intercalate (Text.wordsOfChars ((caretForStars cs).flatMap plainGlyph))

def normalize (s : String) : String :=
  String.ofList (normalizeChars s.toList)

end EquationTutor.Reading
