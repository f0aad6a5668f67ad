import EquationTutor.Step.Generate
import Mathlib.Tactic.SplitIfs

namespace EquationTutor

variable {α : Type} [Scalar α]

open Scalar

/-- The relation that a character is the sign of. -/
def Relation.ofSign? (c : Char) : Option Relation :=
  all.find? fun r => r.symbol.toList = [c]

def relationsIn (text : String) : List Relation :=
  text.toList.filterMap Relation.ofSign?

theorem relationsIn_append (s t : String) : relationsIn (s ++ t) = relationsIn s ++ relationsIn t := by
  simp [relationsIn]

theorem relationsIn_symbol (r : Relation) : relationsIn r.symbol = [r] := by
  cases r <;> decide

theorem relationsIn_eq_nil {text : String}
    (h : (text.toList.all fun c => (Relation.ofSign? c).isNone) = true) : relationsIn text = [] :=
  List.filterMap_eq_nil_iff.mpr fun c hc => by simpa using List.all_eq_true.mp h c hc

theorem Relation.ofSign?_eq_none_of_isDigit {c : Char} (h : c.isDigit = true) :
    ofSign? c = none := by
  refine List.find?_eq_none.mpr fun r _ hr => ?_
  have hsign : r.symbol.toList = [c] := by simpa using hr
  have hdigits : (r.symbol.toList.all fun d => !d.isDigit) = true := by
    cases r <;> decide
  simp [hsign, h] at hdigits

theorem filterMap_ofSign?_of_isDigit {cs : List Char} (h : ∀ c ∈ cs, c.isDigit = true) :
    cs.filterMap Relation.ofSign? = [] :=
  List.filterMap_eq_nil_iff.mpr fun c hc => Relation.ofSign?_eq_none_of_isDigit (h c hc)

theorem isDigit_of_mem_fractionDigits {n : Nat} {c : Char} (h : c ∈ fractionDigits n) :
    c.isDigit = true := by
  have hmem := (List.dropWhile_suffix _).subset (List.mem_reverse.mp h)
  rcases List.mem_append.mp (List.mem_reverse.mp hmem) with hzero | hdigit
  · rw [List.eq_of_mem_replicate hzero]
    decide
  · exact Nat.isDigit_of_mem_toDigits (by decide) (by decide) hdigit

theorem relationsIn_millionthsText (n : Int) : relationsIn (millionthsText n) = [] := by
  have hwhole : (Nat.toDigits 10 (n.natAbs / 1000000)).filterMap Relation.ofSign? = [] :=
    filterMap_ofSign?_of_isDigit fun c hc =>
      Nat.isDigit_of_mem_toDigits (by decide) (by decide) hc
  have hfraction : (fractionDigits (n.natAbs % 1000000)).filterMap Relation.ofSign? = [] :=
    filterMap_ofSign?_of_isDigit fun c hc => isDigit_of_mem_fractionDigits hc
  simp only [relationsIn, millionthsText, String.toList_ofList, List.filterMap_append, hwhole,
    hfraction, List.append_nil]
  split <;> split <;> decide

theorem relationsIn_shown (x : α) : relationsIn (shown x) = [] := by
  unfold shown
  split
  · decide
  · split
    · exact relationsIn_millionthsText _
    · split <;> decide

theorem relationsIn_termSign (opens : Bool) (x : α) : relationsIn (termSign opens x) = [] := by
  unfold termSign
  split <;> decide

theorem relationsIn_join {texts : List String} (h : ∀ t ∈ texts, relationsIn t = []) :
    relationsIn (String.join texts) = [] := by
  induction texts with
  | nil => decide
  | cons t texts ih =>
      rw [String.join_cons, relationsIn_append, h t List.mem_cons_self,
        ih fun u hu => h u (List.mem_cons_of_mem t hu)]
      rfl

/-- A sum has only the relation signs of its terms. -/
theorem relationsIn_shownSum {β : Type} (coefficient : β → α) {body : β → String}
    {terms : List β} (hbody : ∀ t ∈ terms, relationsIn (body t) = []) :
    relationsIn (shownSum coefficient body terms) = [] := by
  unfold shownSum
  split
  · decide
  · rename_i t ts hterms
    have hmem (u : β) (hu : u ∈ t :: ts) : relationsIn (body u) = [] :=
      hbody u (List.mem_filter.mp (hterms ▸ hu)).1
    rw [relationsIn_append, relationsIn_append, relationsIn_termSign, hmem t List.mem_cons_self,
      relationsIn_join]
    · rfl
    · intro text htext
      obtain ⟨u, hu, rfl⟩ := List.mem_map.mp htext
      rw [relationsIn_append, relationsIn_termSign, hmem u (List.mem_cons_of_mem t hu)]
      rfl

theorem relationsIn_termBody (x : α) {monomial : String} (h : relationsIn monomial = []) :
    relationsIn (termBody x monomial) = [] := by
  unfold termBody
  simp only [toString]
  split_ifs <;> simp [relationsIn_append, relationsIn_shown, h]

theorem relationsIn_shownLinear (m b : α) : relationsIn (shownLinear m b "x") = [] := by
  have hmonomial : ∀ monomial ∈ ["x", ""], relationsIn monomial = [] := by decide
  refine relationsIn_shownSum _ fun t ht => relationsIn_termBody _ (hmonomial t.2 ?_)
  simp only [List.mem_cons, List.not_mem_nil, or_false] at ht
  rcases ht with rfl | rfl <;> simp

theorem relationsIn_scaledText (k : α) {term : String} (h : relationsIn term = []) :
    relationsIn (Step.scaledText k term) = [] := by
  unfold Step.scaledText
  split_ifs <;>
    simp (disch := decide) [toString, relationsIn_append, relationsIn_eq_nil, relationsIn_shown, h]

theorem relationsIn_powerText {base : String} (h : relationsIn base = []) :
    relationsIn (Step.powerText base "x") = [] := by
  simp (disch := decide) [Step.powerText, toString, relationsIn_append, relationsIn_eq_nil, h]

theorem relationsIn_line {left right : String} (hleft : relationsIn left = [])
    (hright : relationsIn right = []) (r : Relation) :
    relationsIn s!"{left} {r.symbol} {right}" = [r] := by
  simp (disch := decide) [toString, relationsIn_append, relationsIn_eq_nil, relationsIn_symbol,
    hleft, hright]

theorem relationsIn_solved {right : String} (hright : relationsIn right = []) (r : Relation) :
    relationsIn s!"x {r.symbol} {right}" = [r] := by
  simp (disch := decide) [toString, relationsIn_append, relationsIn_eq_nil, relationsIn_symbol,
    hright]

theorem relationsIn_linearRelation (m b c : α) (r : Relation) :
    relationsIn (Step.linearRelation m b r c) = [r] :=
  relationsIn_line (relationsIn_shownLinear m b) (relationsIn_shown c) r

end EquationTutor
