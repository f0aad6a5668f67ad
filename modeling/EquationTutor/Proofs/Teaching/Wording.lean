import EquationTutor.Teaching.Enhance
import Mathlib.Data.List.Infix

namespace EquationTutor

namespace Pattern

theorem replaceAll_eq_self {p : Pattern} {s : String} (h : inOrder p.needs s.toList = false)
    (replacement : String) : p.replaceAll replacement s = s := by
  have hsearch : p.search (Cursor.ofString s) = none := searchFrom_eq_none h _ _
  rw [replaceAll, replaceFrom, hsearch]
  exact String.ofList_toList

/-- Replacing does nothing, or the replacement stands in the result. -/
theorem replaceAll_eq_self_or_infix (p : Pattern) (replacement s : String) :
    p.replaceAll replacement s = s ∨
      replacement.toList <:+: (p.replaceAll replacement s).toList := by
  rw [replaceAll, replaceFrom]
  split
  · exact Or.inl String.ofList_toList
  · rename_i m _
    split
    · refine Or.inr ?_
      rw [String.toList_ofList]
      exact ⟨(Capture.between _ m.start).chars, p.replaceFrom replacement.toList m.stop, rfl⟩
    · exact Or.inl String.ofList_toList

end Pattern

namespace Teaching

/-- The text has neither a term of the entries nor anything that a term is replaced by. -/
structure IsFreeOf (entries : List (String × String)) (text : String) : Prop where
  terms : ∀ entry ∈ entries, inOrder (termPattern entry.1).needs text.toList = false
  replacements : ∀ entry ∈ entries, ¬ entry.2.toList <:+: text.toList

/-- A text that is free of all entries is what it was before they were replaced. -/
theorem foldl_replaceTerm_eq_iff {entries : List (String × String)} {text : String}
    (h : IsFreeOf entries text) (s : String) :
    entries.foldl replaceTerm s = text ↔ s = text := by
  induction entries generalizing s with
  | nil => rfl
  | cons entry entries ih =>
      have hterms := List.forall_mem_cons.mp h.terms
      have hreplacements := List.forall_mem_cons.mp h.replacements
      rw [List.foldl_cons, ih ⟨hterms.2, hreplacements.2⟩]
      constructor
      · intro hs
        rcases Pattern.replaceAll_eq_self_or_infix (termPattern entry.1) entry.2 s with heq | hinfix
        · exact heq.symm.trans hs
        · have htext : entry.2.toList <:+: text.toList := hs ▸ hinfix
          exact absurd htext hreplacements.1
      · rintro rfl
        exact Pattern.replaceAll_eq_self hterms.1 entry.2

theorem rephrase_eq_iff {level : Level} {text : String} (h : IsFreeOf (replacements level) text)
    (s : String) : rephrase level s = text ↔ s = text :=
  foldl_replaceTerm_eq_iff h s

end Teaching

end EquationTutor
