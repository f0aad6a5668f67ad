import EquationTutor.Pattern.Required

namespace EquationTutor

/-- A match of a pattern: where it starts and stops, and its groups. -/
structure Match where
  start : Cursor
  stop : Cursor
  groups : Groups

namespace Match

def whole (m : Match) : Capture :=
  Capture.between m.start m.stop

def capture? (m : Match) (i : Nat) : Option Capture :=
  m.groups.lookup i

def group? (m : Match) (i : Nat) : Option String :=
  (m.capture? i).map Capture.text

/-- The text of a group, empty if the group took no part. -/
def group (m : Match) (i : Nat) : String :=
  (m.group? i).getD ""

end Match

namespace Pattern

def matchAt (p : Pattern) (c : Cursor) : Option Match :=
  p.run c [] fun stop groups => some ⟨c, stop, groups⟩

/-- The best match at the leftmost place that has one. The search ends where the
characters that a match needs no longer follow; `searchFrom_cons` says that
nothing is missed. -/
def searchFrom (p : Pattern) (before : Option Char) : List Char → Nat → Option Match
  | [], offset => p.matchAt ⟨before, [], offset⟩
  | x :: rest, offset =>
    if inOrder p.needs (x :: rest) then
      (p.matchAt ⟨before, x :: rest, offset⟩).orElse fun _ =>
        p.searchFrom (some x) rest (offset + 1)
    else none

theorem matchAt_eq_none {p : Pattern} {c : Cursor} (h : inOrder p.needs c.rest = false) :
    p.matchAt c = none := by
  simp [matchAt, run_eq_findSome?, ends_eq_nil h]

theorem searchFrom_eq_none {p : Pattern} {rest : List Char} (h : inOrder p.needs rest = false)
    (before : Option Char) (offset : Nat) : p.searchFrom before rest offset = none := by
  cases rest with
  | nil => exact matchAt_eq_none h
  | cons x rest => simp [searchFrom, h]

@[simp] theorem searchFrom_nil (p : Pattern) (before : Option Char) (offset : Nat) :
    p.searchFrom before [] offset = p.matchAt ⟨before, [], offset⟩ := by
  simp [searchFrom]

theorem searchFrom_cons (p : Pattern) (before : Option Char) (x : Char) (rest : List Char)
    (offset : Nat) :
    p.searchFrom before (x :: rest) offset =
      (p.matchAt ⟨before, x :: rest, offset⟩).orElse fun _ =>
        p.searchFrom (some x) rest (offset + 1) := by
  simp only [searchFrom]
  split
  · rfl
  · rename_i h
    have h : inOrder p.needs (x :: rest) = false := by simpa using h
    have hrest : inOrder p.needs rest = false := by
      cases hr : inOrder p.needs rest with
      | false => rfl
      | true => rw [inOrder_cons hr x] at h; exact h
    have hat : p.matchAt ⟨before, x :: rest, offset⟩ = none := matchAt_eq_none h
    rw [hat, searchFrom_eq_none hrest]
    rfl

def search (p : Pattern) (c : Cursor) : Option Match :=
  p.searchFrom c.before c.rest c.offset

def find? (p : Pattern) (s : String) : Option Match :=
  p.search (Cursor.ofString s)

def occursIn (p : Pattern) (s : String) : Bool :=
  (p.find? s).isSome

/-- The matches from a place on, each searched for after the one before. The
list ends with a match that takes no character. -/
def allFrom (p : Pattern) (c : Cursor) : List Match :=
  match p.search c with
  | none => []
  | some m =>
    if m.stop.rest.length < c.rest.length then m :: p.allFrom m.stop else [m]
  termination_by c.rest.length

def findAll (p : Pattern) (s : String) : List Match :=
  p.allFrom (Cursor.ofString s)

def replaceFrom (p : Pattern) (replacement : List Char) (c : Cursor) : List Char :=
  match p.search c with
  | none => c.rest
  | some m =>
    if m.stop.rest.length < c.rest.length then
      (Capture.between c m.start).chars ++ replacement ++ p.replaceFrom replacement m.stop
    else c.rest
  termination_by c.rest.length

def replaceAll (p : Pattern) (replacement s : String) : String :=
  String.ofList (p.replaceFrom replacement.toList (Cursor.ofString s))

end Pattern

end EquationTutor
