import EquationTutor.Text.Character

namespace EquationTutor.Text

/-- The code points with the property `White_Space`. -/
def blankRanges : List (Nat × Nat) := [
  (0x9, 0xd), (0x20, 0x20), (0x85, 0x85), (0xa0, 0xa0), (0x1680, 0x1680),
  (0x2000, 0x200a), (0x2028, 0x2029), (0x202f, 0x202f), (0x205f, 0x205f),
  (0x3000, 0x3000)]

def isBlank (c : Char) : Bool :=
  inRanges blankRanges c.toNat

/-- The maximal runs of characters that are not blank. -/
def wordsOfChars : List Char → List (List Char)
  | [] => []
  | c :: rest =>
    if isBlank c then wordsOfChars rest
    else
      match rest with
      | [] => [[c]]
      | d :: _ =>
        if isBlank d then [c] :: wordsOfChars rest
        else
          match wordsOfChars rest with
          | [] => [[c]]
          | w :: ws => (c :: w) :: ws

def words (s : String) : List String :=
  (wordsOfChars s.toList).map String.ofList

def trim (s : String) : String :=
  String.ofList ((s.toList.dropWhile isBlank).reverse.dropWhile isBlank).reverse

def compact (s : String) : String :=
  String.ofList (s.toList.filter fun c => !isBlank c)

end EquationTutor.Text
