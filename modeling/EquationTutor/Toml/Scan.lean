/-!
The lowest layer of TOML: blanks, comments, keys and strings. A reader gives what
it has read and the characters after it.
-/

namespace EquationTutor.Toml

def isBlank (c : Char) : Bool :=
  c = ' ' || c = '\t'

/-- The characters of comments and strings: no control character but the
tabulator. -/
def isPlain (c : Char) : Bool :=
  c = '\t' || (32 ≤ c.toNat && c.toNat ≠ 127)

def skipBlanks (cs : List Char) : List Char :=
  cs.dropWhile isBlank

/-- A line break, or the end of the document. -/
def lineEnd? : List Char → Option (List Char)
  | [] => some []
  | '\n' :: cs => some cs
  | '\r' :: '\n' :: cs => some cs
  | _ => none

/-- Blanks and a comment up to the end of the line. -/
def restOfLine? (cs : List Char) : Option (List Char) :=
  match skipBlanks cs with
  | '#' :: rest => lineEnd? (rest.dropWhile isPlain)
  | rest => lineEnd? rest

/-- Skips blanks, line breaks and comments; `comment` tells whether one has
begun. -/
def skipGap (comment : Bool) : List Char → List Char
  | [] => []
  | '\r' :: '\n' :: cs => skipGap false cs
  | c :: cs =>
    if comment && isPlain c then skipGap true cs
    else if c = '#' then skipGap true cs
    else if isBlank c || c = '\n' then skipGap false cs
    else c :: cs

/-! ### Strings -/

/-- The character with a number written in hexadecimal digits. -/
def scalar? (digits : List Char) : Option Char :=
  let value (c : Char) : Option Nat :=
    if c.isDigit then some (c.toNat - '0'.toNat)
    else if 'a' ≤ c && c ≤ 'f' then some (c.toNat - 'a'.toNat + 10)
    else if 'A' ≤ c && c ≤ 'F' then some (c.toNat - 'A'.toNat + 10)
    else none
  let number := digits.foldlM (fun n c => (value c).map fun d => 16 * n + d) 0
  number.bind fun n => if n.isValidChar then some (Char.ofNat n) else none

/-- A scalar of a given number of digits, and how many characters it takes after
the backslash. -/
def escapedScalar? (count : Nat) (cs : List Char) : Option (Char × Nat) :=
  if (cs.take count).length = count then (scalar? (cs.take count)).map fun c => (c, count + 1)
  else none

/-- The character that stands for what follows a backslash, and the number of
characters it takes. -/
def escaped? : List Char → Option (Char × Nat)
  | 'b' :: _ => some ('\x08', 1)
  | 't' :: _ => some ('\t', 1)
  | 'n' :: _ => some ('\n', 1)
  | 'f' :: _ => some ('\x0c', 1)
  | 'r' :: _ => some ('\r', 1)
  | '"' :: _ => some ('"', 1)
  | '\\' :: _ => some ('\\', 1)
  | 'u' :: cs => escapedScalar? 4 cs
  | 'U' :: cs => escapedScalar? 8 cs
  | _ => none

def push (c : Char) (read : Option (List Char × List Char)) : Option (List Char × List Char) :=
  read.map fun (text, rest) => (c :: text, rest)

/-- A string on one line up to its closing quote. The first `skip` characters
have been read already. -/
def lineBody? (quote : Char) (escapes : Bool) :
    (skip : Nat) → List Char → Option (List Char × List Char)
  | _, [] => none
  | n + 1, _ :: cs => lineBody? quote escapes n cs
  | 0, c :: cs =>
    if c = quote then some ([], cs)
    else if escapes && c = '\\' then
      (escaped? cs).bind fun (e, n) => push e (lineBody? quote escapes n cs)
    else if isPlain c then push c (lineBody? quote escapes 0 cs)
    else none

/-- The number of blanks and line breaks at the front, when the first line of
them is blank. -/
def brokenLine? (cs : List Char) : Option Nat :=
  match skipBlanks cs with
  | '\n' :: _ | '\r' :: '\n' :: _ => some (cs.length - (skipLines cs).length)
  | _ => none
where
  skipLines : List Char → List Char
    | '\r' :: '\n' :: rest => skipLines rest
    | c :: rest => if isBlank c || c = '\n' then skipLines rest else c :: rest
    | [] => []

/-- A string over several lines up to its three closing quotes. Two more quotes
at the end belong to the text. -/
def linesBody? (quote : Char) (escapes : Bool) :
    (skip : Nat) → List Char → Option (List Char × List Char)
  | _, [] => none
  | n + 1, _ :: cs => linesBody? quote escapes n cs
  | 0, c :: cs =>
    if c = quote then
      let run := (cs.takeWhile (· = quote)).length + 1
      if run < 3 then push c (linesBody? quote escapes 0 cs)
      else
        let extra := min (run - 3) 2
        some (List.replicate extra quote, cs.drop (extra + 2))
    else if escapes && c = '\\' then
      match brokenLine? cs with
      | some n => linesBody? quote escapes n cs
      | none => (escaped? cs).bind fun (e, n) => push e (linesBody? quote escapes n cs)
    else if c = '\n' || isPlain c then push c (linesBody? quote escapes 0 cs)
    else if c = '\r' && cs.head? = some '\n' then linesBody? quote escapes 0 cs
    else none

/-- The text after a line break that follows the opening quotes. -/
def skipLineBreak : List Char → List Char
  | '\n' :: cs => cs
  | '\r' :: '\n' :: cs => cs
  | cs => cs

/-- A string in quotes on one line: `"` allows escapes, the apostrophe does
not. -/
def lineString? : List Char → Option (String × List Char)
  | '"' :: cs => (lineBody? '"' true 0 cs).map fun (text, rest) => (String.ofList text, rest)
  | '\'' :: cs => (lineBody? '\'' false 0 cs).map fun (text, rest) => (String.ofList text, rest)
  | _ => none

def string? : List Char → Option (String × List Char)
  | '"' :: '"' :: '"' :: cs =>
    (linesBody? '"' true 0 (skipLineBreak cs)).map fun (text, rest) => (String.ofList text, rest)
  | '\'' :: '\'' :: '\'' :: cs =>
    (linesBody? '\'' false 0 (skipLineBreak cs)).map fun (text, rest) =>
      (String.ofList text, rest)
  | cs => lineString? cs

/-! ### Keys -/

def isBare (c : Char) : Bool :=
  c.isAlphanum || c = '-' || c = '_'

/-- A part of a key: a bare word or a string on one line. -/
def keyPart? (cs : List Char) : Option (String × List Char) :=
  let word := cs.takeWhile isBare
  if word.isEmpty then lineString? cs
  else some (String.ofList word, cs.dropWhile isBare)

/-- A key of at most `limit` parts, which points separate. -/
def key? : (limit : Nat) → List Char → Option (List String × List Char)
  | 0, _ => none
  | limit + 1, cs =>
    (keyPart? (skipBlanks cs)).bind fun (part, rest) =>
      match skipBlanks rest with
      | '.' :: more => (key? limit more).map fun (parts, rest) => (part :: parts, rest)
      | rest => some ([part], rest)

end EquationTutor.Toml
