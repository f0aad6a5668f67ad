import EquationTutor.Proofs.Canonical.Coefficients
import EquationTutor.Proofs.Polynomial.Shapes

namespace EquationTutor

open PolynomialText Reading Pattern

theorem Relation.of_mem_operator (r : Relation) :
    ∀ c ∈ r.operator.toList, c ∈ relationChars ∧ (r = .eq → c = '=') := by
  cases r <;> exact List.all_iff_forall_prop.mp (by decide)

namespace PolynomialText

theorem reads_variable {us : List (List Char)} (hus : Tokens us)
    (hnext : ∀ c ∈ us.flatten.head?, Text.isWordChar c = false) :
    (cat [char 'x', boundary]).Reads (At (['x'] :: us)) (Near us) [] := by
  refine reads_token hus fun before rest g hrest => ?_
  refine best_seq (s := ['x']) (t := []) best_char (best_boundary_x (fun c hc => ?_) before g)
  rcases hrest c hc with rfl | hc
  · exact not_isWordChar_of_mem ' ' List.mem_cons_self
  · exact hnext c hc

/-- A constant, which may be left out, an operator and a number. -/
structure Ending where
  constant : Option Coefficient
  relation : Relation
  right : Coefficient
  isSome_sign_constant : ∀ c ∈ constant, c.sign.isSome = true
  isSome_size_constant : ∀ c ∈ constant, c.size.isSome = true
  isSome_size_right : right.size.isSome = true

namespace Ending

variable (e : Ending)

def constantTokens : List (List Char) :=
  e.constant.elim [] Coefficient.tokens

def rightTokens : List (List Char) :=
  e.relation.operator.toList :: e.right.tokens

def tokens : List (List Char) :=
  e.constantTokens ++ e.rightTokens

/-- What the groups `i`, `j` and `k` of a match are to hold. -/
def caught (i j k : Nat) : List (Nat × (List Char → Prop)) :=
  e.constant.toList.map (fun c => (i, c.Spells)) ++
    [(j, (· = e.relation.operator.toList)), (k, e.right.Spells)]

theorem mem_constantTokens {c : Char} (h : c ∈ e.constantTokens.flatten) :
    Text.isDigit c = true ∨ c ∈ Coefficient.symbols := by
  rw [constantTokens] at h
  cases hconstant : e.constant with
  | none =>
      rw [hconstant] at h
      cases h
  | some k =>
      rw [hconstant, Option.elim_some] at h
      exact k.mem_flatten h

theorem mem_rightTokens {c : Char} (h : c ∈ e.rightTokens.flatten) :
    c ∈ e.relation.operator.toList ∨ Text.isDigit c = true ∨ c ∈ Coefficient.symbols := by
  rw [rightTokens, List.flatten_cons] at h
  exact (List.mem_append.mp h).imp_right e.right.mem_flatten

theorem mem_tokens {c : Char} (h : c ∈ e.tokens.flatten) :
    c ∈ e.relation.operator.toList ∨ Text.isDigit c = true ∨ c ∈ Coefficient.symbols := by
  rw [tokens, List.flatten_append] at h
  rcases List.mem_append.mp h with h | h
  · exact Or.inr (e.mem_constantTokens h)
  · exact e.mem_rightTokens h

theorem notMem_tokens {c : Char} (hdigit : Text.isDigit c = false)
    (hsymbols : c ∉ Coefficient.symbols) (hrelation : c ∉ relationChars) :
    c ∉ e.tokens.flatten := by
  intro h
  rcases e.mem_tokens h with h | h | h
  · exact hrelation (e.relation.of_mem_operator c h).1
  · rw [hdigit] at h
    cases h
  · exact hsymbols h

theorem tokens_rightTokens : Tokens e.rightTokens := by
  refine List.forall_mem_cons.mpr ⟨⟨?_, fun c hc => ?_⟩, e.right.tokens_tokens⟩
  · cases e.relation <;> decide
  · exact (not_blank_of_mem_relationChars c (e.relation.of_mem_operator c hc).1).1

theorem tokens_constantTokens : Tokens e.constantTokens := by
  rw [constantTokens]
  cases e.constant with
  | none => exact tokens_nil
  | some c => exact c.tokens_tokens

theorem tokens_tokens : Tokens e.tokens :=
  tokens_append.mpr ⟨e.tokens_constantTokens, e.tokens_rightTokens⟩

theorem head?_rightTokens : ∀ c ∈ e.rightTokens.flatten.head?, c ∈ relationChars :=
  fun c hc => (e.relation.head_operator _ c hc).1

theorem head?_tokens : ∀ c ∈ e.tokens.flatten.head?, c ∈ ' ' :: '+' :: '-' :: relationChars := by
  rw [tokens, List.flatten_append]
  refine forall_head?_append (fun c hc => ?_) fun c hc => by simp [e.head?_rightTokens c hc]
  cases hconstant : e.constant with
  | none =>
      rw [constantTokens, hconstant] at hc
      cases hc
  | some k =>
      obtain ⟨s, hs⟩ := Option.isSome_iff_exists.mp (e.isSome_sign_constant k hconstant)
      obtain rfl : s.char = c := by
        simpa [constantTokens, hconstant, Coefficient.tokens, Coefficient.mark, hs] using hc
      cases s <;> decide

section Reads

variable (i j k : Nat)

theorem reads_right : (cat [blanks, group k signedNumber]).Reads (Near e.right.tokens) (Near [])
    [(k, e.right.Spells)] := by
  refine reads_then (reads_blanks e.right.tokens_tokens) fun before cs g hcs => ?_
  exact e.right.reads_signedNumber tokens_nil (by simp) e.isSome_size_right k before cs g
    (Or.inl (by rwa [List.append_nil]))

theorem reads_operator : (cat [group j relationSign, blanks, group k signedNumber]).Reads
    (At e.rightTokens) (Near [])
    [(j, (· = e.relation.operator.toList)), (k, e.right.Spells)] := by
  refine reads_seq (reads_group_token e.right.tokens_tokens fun before rest g hrest =>
    best_relationSign fun c hc => ?_) (e.reads_right k)
  rcases hrest c hc with rfl | hc
  · decide
  · rintro rfl
    exact e.right.notMem_flatten (by decide) (by decide) (List.mem_of_mem_head? hc)

theorem reads_constant : (optional (group i constantTerm)).Reads (At e.tokens)
    (Near e.rightTokens) (e.constant.toList.map fun c => (i, c.Spells)) := by
  have hrelation : ∀ c ∈ relationChars, c ∈ Coefficient.enders ∧ ¬ IsSign c :=
    List.all_iff_forall_prop.mp (by decide)
  rw [tokens, constantTokens]
  cases hconstant : e.constant with
  | none =>
      refine reads_optional_of_refuses (fun before cs hcs => ?_) fun cs hcs => hcs.spaced
      refine refuses_seq (refuses_sign fun c hc => ?_)
      rw [At.head?_eq e.tokens_rightTokens hcs] at hc
      exact (hrelation c (e.head?_rightTokens c hc)).2
  | some k =>
      exact reads_optional (k.reads_constantTerm e.tokens_rightTokens
        (fun c hc => (hrelation c (e.head?_rightTokens c hc)).1)
        (e.isSome_sign_constant k hconstant) (e.isSome_size_constant k hconstant) i)

theorem reads_behindX : (behindX i j k).Reads (Near e.tokens) (Near []) (e.caught i j k) :=
  reads_then (reads_blanks e.tokens_tokens)
    (reads_seq (e.reads_constant i)
      (reads_then (reads_blanks e.tokens_rightTokens) (e.reads_operator j k)))

end Reads

end Ending

end PolynomialText

end EquationTutor
