import EquationTutor.Pattern.Basic
import EquationTutor.Text.Character
/-!
Matching at a place. `Pattern.ends` lists the ways in which a pattern matches at
a place of a text, best first; `Pattern.run` looks for the first of them that its
continuation accepts, without making the list, and `run_eq_findSome?` says so.
-/

namespace EquationTutor

/-- A place in a text: the character before it, what follows, and the number of
characters before it. -/
structure Cursor where
  before : Option Char
  rest : List Char
  offset : Nat

namespace Cursor

def ofString (s : String) : Cursor :=
  ⟨none, s.toList, 0⟩

def advance (c : Cursor) (next : Char) (rest : List Char) : Cursor :=
  ⟨some next, rest, c.offset + 1⟩

/-- Whether exactly one of the characters around the place is a word character. -/
def atBoundary (c : Cursor) : Bool :=
  c.before.any Text.isWordChar != c.rest.head?.any Text.isWordChar

end Cursor

/-- A piece of a text and the number of characters before it. -/
structure Capture where
  offset : Nat
  chars : List Char
  deriving DecidableEq

namespace Capture

def between (a b : Cursor) : Capture :=
  ⟨a.offset, a.rest.take (b.offset - a.offset)⟩

def text (c : Capture) : String :=
  String.ofList c.chars

end Capture

abbrev Groups := List (Nat × Capture)

/-- A place that a pattern leads to, and the groups on the way. -/
structure End where
  cursor : Cursor
  groups : Groups

namespace Pattern

def runRepeated {β : Type} (accepts : Char → Bool) (greedy : Bool) (k : Cursor → Option β) :
    Nat → Option Nat → Option Char → List Char → Nat → Option β
  | least, _, before, [], offset =>
    if least = 0 then k ⟨before, [], offset⟩ else none
  | least, most, before, c :: rest, offset =>
    let stop := fun _ : Unit => if least = 0 then k ⟨before, c :: rest, offset⟩ else none
    let more := fun _ : Unit =>
      if accepts c && most != some 0 then
        runRepeated accepts greedy k (least - 1) (most.map (· - 1)) (some c) rest (offset + 1)
      else none
    if greedy then (more ()).orElse stop else (stop ()).orElse more

/-- The first result of the continuation `k` on an end of the pattern at `c`. -/
def run {β : Type} : Pattern → Cursor → Groups → (Cursor → Groups → Option β) → Option β
  | empty, c, g, k => k c g
  | one accepts, c, g, k =>
    match c.rest with
    | [] => none
    | x :: rest => if accepts x then k (c.advance x rest) g else none
  | seq p q, c, g, k => p.run c g fun c' g' => q.run c' g' k
  | alt p q, c, g, k => (p.run c g k).orElse fun _ => q.run c g k
  | optional p, c, g, k => (p.run c g k).orElse fun _ => k c g
  | repeated accepts least most greedy, c, g, k =>
    runRepeated accepts greedy (fun c' => k c' g) least most c.before c.rest c.offset
  | group i p, c, g, k => p.run c g fun c' g' => k c' (g' ++ [(i, Capture.between c c')])
  | boundary, c, g, k => if c.atBoundary then k c g else none
  | start, c, g, k => if c.before.isNone then k c g else none

def endsRepeated (accepts : Char → Bool) (greedy : Bool) :
    Nat → Option Nat → Option Char → List Char → Nat → List Cursor
  | least, _, before, [], offset =>
    if least = 0 then [⟨before, [], offset⟩] else []
  | least, most, before, c :: rest, offset =>
    let stop := if least = 0 then [⟨before, c :: rest, offset⟩] else []
    let more :=
      if accepts c && most != some 0 then
        endsRepeated accepts greedy (least - 1) (most.map (· - 1)) (some c) rest (offset + 1)
      else []
    if greedy then more ++ stop else stop ++ more

/-- The ways in which a pattern matches at a place, best first. -/
def ends : Pattern → Cursor → Groups → List End
  | empty, c, g => [⟨c, g⟩]
  | one accepts, c, g =>
    match c.rest with
    | [] => []
    | x :: rest => if accepts x then [⟨c.advance x rest, g⟩] else []
  | seq p q, c, g => (p.ends c g).flatMap fun e => q.ends e.cursor e.groups
  | alt p q, c, g => p.ends c g ++ q.ends c g
  | optional p, c, g => p.ends c g ++ [⟨c, g⟩]
  | repeated accepts least most greedy, c, g =>
    (endsRepeated accepts greedy least most c.before c.rest c.offset).map fun c' => ⟨c', g⟩
  | group i p, c, g =>
    (p.ends c g).map fun e => ⟨e.cursor, e.groups ++ [(i, Capture.between c e.cursor)]⟩
  | boundary, c, g => if c.atBoundary then [⟨c, g⟩] else []
  | start, c, g => if c.before.isNone then [⟨c, g⟩] else []

theorem runRepeated_eq_findSome? {β : Type} (accepts : Char → Bool) (greedy : Bool)
    (k : Cursor → Option β) (least : Nat) (most : Option Nat) (before : Option Char)
    (rest : List Char) (offset : Nat) :
    runRepeated accepts greedy k least most before rest offset =
      (endsRepeated accepts greedy least most before rest offset).findSome? k := by
  induction rest generalizing least most before offset with
  | nil =>
    simp only [runRepeated, endsRepeated]
    split <;> simp
  | cons c rest ih =>
    have findSome?_ite (p : Prop) [Decidable p] (xs : List Cursor) :
        (if p then xs else []).findSome? k = if p then xs.findSome? k else none := by
      split <;> rfl
    simp only [runRepeated, endsRepeated, ih]
    by_cases hg : greedy = true <;>
      simp only [hg, if_true, if_false, Bool.false_eq_true, List.findSome?_append,
        findSome?_ite, List.findSome?_singleton, Option.or_eq_orElse]

theorem run_eq_findSome? {β : Type} (p : Pattern) (c : Cursor) (g : Groups)
    (k : Cursor → Groups → Option β) :
    p.run c g k = (p.ends c g).findSome? fun e => k e.cursor e.groups := by
  induction p generalizing c g k with
  | empty => simp [run, ends]
  | one accepts =>
    simp only [run, ends]
    split
    · simp
    · split <;> simp
  | seq p q ihp ihq =>
    simp only [run, ends, ihp, ihq]
    induction p.ends c g with
    | nil => rfl
    | cons e es ih =>
      simp only [List.findSome?_cons, List.flatMap_cons, List.findSome?_append, ih]
      cases (q.ends e.cursor e.groups).findSome? fun e => k e.cursor e.groups <;> rfl
  | alt p q ihp ihq => simp [run, ends, ihp, ihq, List.findSome?_append]
  | optional p ih => simp [run, ends, ih, List.findSome?_append]
  | repeated accepts least most greedy =>
    simp only [run, ends, runRepeated_eq_findSome?]
    generalize endsRepeated accepts greedy least most c.before c.rest c.offset = cs
    induction cs with
    | nil => rfl
    | cons x xs ih => simp [List.findSome?_cons, ih]
  | group i p ih =>
    simp only [run, ends, ih]
    generalize p.ends c g = es
    induction es with
    | nil => rfl
    | cons x xs ih => simp [List.findSome?_cons, ih]
  | boundary => simp only [run, ends]; split <;> simp
  | start => simp only [run, ends]; split <;> simp

end Pattern

end EquationTutor
