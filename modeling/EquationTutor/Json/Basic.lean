import EquationTutor.Numeric.Shortest

namespace EquationTutor

inductive Json where
  | null
  | bool (value : Bool)
  | int (value : Int)
  | num (value : Float)
  | str (value : String)
  | arr (items : List Json)
  | obj (fields : List (String × Json))

namespace Decimal

/-- The number as JSON has it: positional from `10^-5` up to `10^16`, always
with a point there, and scientific beyond. -/
def json (d : Decimal) : String :=
  let place := (d.digitChars.length : Int) + d.exponent
  if -5 < place && place ≤ 16 then
    let (whole, fraction) := d.split
    let fraction := if fraction.isEmpty then ['0'] else fraction
    String.ofList (d.signChars ++ whole ++ '.' :: fraction)
  else d.scientific

end Decimal

namespace Json

/-- The text of a number; what is not finite has none of its own. -/
def numberText (x : Float) : String :=
  match Binary64.ofFloat? x with
  | some b => (Decimal.shortest b).json
  | none => "null"

def hexadecimal4 (n : Nat) : List Char :=
  let ds := Nat.toDigits 16 n
  List.replicate (4 - ds.length) '0' ++ ds

def escapeChar (c : Char) : List Char :=
  if c = '"' then ['\\', '"']
  else if c = '\\' then ['\\', '\\']
  else if c = '\n' then ['\\', 'n']
  else if c = '\r' then ['\\', 'r']
  else if c = '\t' then ['\\', 't']
  else if c = '\x08' then ['\\', 'b']
  else if c = '\x0c' then ['\\', 'f']
  else if c.toNat < 32 then ['\\', 'u'] ++ hexadecimal4 c.toNat
  else [c]

def stringText (s : String) : String :=
  String.ofList ('"' :: s.toList.flatMap escapeChar ++ ['"'])

/-- Line break and indentation at a depth, nothing in compact text. -/
def lineBreak : Option Nat → String
  | some depth => String.ofList ('\n' :: List.replicate (2 * depth) ' ')
  | none => ""

/-- The items between brackets, one a line unless the text is compact. -/
def block (opening closing : String) (depth : Option Nat) (items : List String) : String :=
  if items.isEmpty then opening ++ closing
  else
    let inner := lineBreak (depth.map (· + 1))
    opening ++ inner ++ ("," ++ inner).intercalate items ++ lineBreak depth ++ closing

mutual

def write (depth : Option Nat) : Json → String
  | null => "null"
  | bool true => "true"
  | bool false => "false"
  | int n => toString n
  | num x => numberText x
  | str s => stringText s
  | arr items => block "[" "]" depth (writeItems (depth.map (· + 1)) items)
  | obj fields => block "\x7b" "\x7d" depth (writeFields (depth.map (· + 1)) fields)

def writeItems (depth : Option Nat) : List Json → List String
  | [] => []
  | j :: js => write depth j :: writeItems depth js

def writeFields (depth : Option Nat) : List (String × Json) → List String
  | [] => []
  | (key, j) :: rest =>
    (stringText key ++ (if depth.isSome then ": " else ":") ++ write depth j) ::
      writeFields depth rest

end

def compact (j : Json) : String :=
  j.write none

def pretty (j : Json) : String :=
  j.write (some 0)

def ofFloat (x : Float) : Json :=
  if x.isFinite then num x else null

def ofOption {β : Type} (f : β → Json) : Option β → Json
  | some b => f b
  | none => null

def ofList {β : Type} (f : β → Json) (bs : List β) : Json :=
  arr (bs.map f)

def ofStrings (ss : List String) : Json :=
  ofList str ss

/-- A field that is left out when there is no value. -/
def fieldOf? {β : Type} (key : String) (f : β → Json) : Option β → List (String × Json)
  | some b => [(key, f b)]
  | none => []

def listField {β : Type} (key : String) (f : β → Json) (bs : List β) : List (String × Json) :=
  if bs.isEmpty then [] else [(key, ofList f bs)]

def fields : Json → List (String × Json)
  | obj fs => fs
  | _ => []

def get? (j : Json) (key : String) : Option Json :=
  j.fields.lookup key

def toFloat? : Json → Option Float
  | num x => some x
  | int n => some (Float.ofInt n)
  | _ => none

def toString? : Json → Option String
  | str s => some s
  | _ => none

def toBool? : Json → Option Bool
  | bool b => some b
  | _ => none

def toInt? : Json → Option Int
  | int n => some n
  | _ => none

def toNat? : Json → Option Nat
  | int (.ofNat n) => some n
  | _ => none

/-- The items of a list, all of which must be readable. -/
def toList? {β : Type} (f : Json → Option β) : Json → Option (List β)
  | arr items => items.mapM f
  | _ => none

def field? {β : Type} (j : Json) (key : String) (f : Json → Option β) : Option β :=
  (j.get? key).bind f

/-- The value of a field that may be absent or null. -/
def optional? {β : Type} (j : Json) (key : String) (f : Json → Option β) : Option (Option β) :=
  match j.get? key with
  | none | some null => some none
  | some v => (f v).map some

def fieldD? {β : Type} (j : Json) (key : String) (default : β) (f : Json → Option β) : Option β :=
  match j.get? key with
  | none => some default
  | some v => f v

def number? (j : Json) (key : String) : Option Float :=
  j.field? key toFloat?

def string? (j : Json) (key : String) : Option String :=
  j.field? key toString?

def boolean? (j : Json) (key : String) : Option Bool :=
  j.field? key toBool?

def numbers? (j : Json) (key : String) : Option (List Float) :=
  j.field? key (toList? toFloat?)

def strings? (j : Json) (key : String) : Option (List String) :=
  j.field? key (toList? toString?)

/-- Where a value is read. What stands in a tagged record is read less strictly:
an empty object may do for null beside a key, and the place of a tag among the tags
for the tag itself. -/
inductive Place where
  | alone
  | inTagged
  deriving DecidableEq

/-- Whether the value says no more than the key it stands beside. -/
def Place.isNothing : Place → Json → Bool
  | _, null => true
  | inTagged, obj [] => true
  | _, _ => false

/-- The one of some values whose key is the string, which may also be the only
field of an object that gives it nothing. -/
def ofKey? {β : Type} (place : Place) (keyOf : β → String) (all : List β) : Json → Option β
  | str s => all.find? fun b => keyOf b = s
  | obj [(s, value)] => if place.isNothing value then all.find? fun b => keyOf b = s else none
  | _ => none

/-- A record of named fields. It is written as an object, and read also from the
list of the values in the order of the names, of which those after the first
`required` may be left out. -/
def record? (names : List String) (required : Nat) : Json → Option Json
  | obj fs => some (obj fs)
  | arr items =>
    if required ≤ items.length ∧ items.length ≤ names.length then some (obj (names.zip items))
    else none
  | _ => none

def Place.tag? (tags : List String) : Place → Json → Option String
  | _, str tag => tags.find? (· = tag)
  | inTagged, int (.ofNat n) => tags[n]?
  | _, _ => none

/-- The tag of a tagged record and the record; in a list the tag comes first. -/
def tagged? (place : Place) (key : String) (tags : List String) : Json → Option (String × Json)
  | obj fs => ((obj fs).field? key (place.tag? tags)).map fun tag => (tag, obj fs)
  | arr (tag :: items) => (place.tag? tags tag).map fun tag => (tag, arr items)
  | _ => none

end Json

end EquationTutor
