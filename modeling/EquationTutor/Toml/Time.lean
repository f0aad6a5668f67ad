import EquationTutor.Numeric.Literal
import EquationTutor.Toml.Value

namespace EquationTutor.Toml

def fixed? (count : Nat) (cs : List Char) : Option (Nat × List Char) :=
  let ds := cs.take count
  if ds.length = count ∧ ds.all Char.isDigit then
    some (Literal.natOfDigits ds, cs.drop count)
  else none

def exactly? (c : Char) : List Char → Option (List Char)
  | d :: cs => if d = c then some cs else none
  | [] => none

def isLeapYear (year : Nat) : Bool :=
  year % 4 = 0 && (year % 100 ≠ 0 || year % 400 = 0)

def daysOfMonth (year month : Nat) : Nat :=
  if month = 2 then if isLeapYear year then 29 else 28
  else if month = 4 || month = 6 || month = 9 || month = 11 then 30
  else 31

def skipDate? (cs : List Char) : Option (List Char) := do
  let (year, cs) ← fixed? 4 cs
  let cs ← exactly? '-' cs
  let (month, cs) ← fixed? 2 cs
  let cs ← exactly? '-' cs
  let (day, cs) ← fixed? 2 cs
  if 1 ≤ month ∧ month ≤ 12 ∧ 1 ≤ day ∧ day ≤ daysOfMonth year month then some cs else none

/-- Skips hours and minutes. -/
def skipHour? (cs : List Char) : Option (List Char) := do
  let (hour, cs) ← fixed? 2 cs
  let cs ← exactly? ':' cs
  let (minute, cs) ← fixed? 2 cs
  if hour ≤ 23 ∧ minute ≤ 59 then some cs else none

/-- Skips a time of day. A point after the seconds needs digits. -/
def skipTime? (cs : List Char) : Option (List Char) := do
  let cs ← skipHour? cs
  let cs ← exactly? ':' cs
  let (second, cs) ← fixed? 2 cs
  if 60 < second then none
  else
    match cs with
    | '.' :: c :: rest =>
      if c.isDigit then some (rest.dropWhile Char.isDigit) else some cs
    | _ => some cs

/-- Skips the difference to universal time, if one is given. -/
def skipOffset (cs : List Char) : List Char :=
  match cs with
  | 'Z' :: rest | 'z' :: rest => rest
  | '+' :: rest | '-' :: rest => (skipHour? rest).getD cs
  | _ => cs

def skipTimeAfterDate (cs : List Char) : List Char :=
  match cs with
  | c :: rest =>
    if c = 'T' || c = 't' || c = ' ' then ((skipTime? rest).map skipOffset).getD cs else cs
  | [] => cs

def time? (cs : List Char) : Option (Value × List Char) :=
  (((skipDate? cs).map skipTimeAfterDate).orElse fun _ => skipTime? cs).map fun rest =>
    (.time (String.ofList (cs.take (cs.length - rest.length))), rest)

end EquationTutor.Toml
