import EquationTutor.Proofs.Polynomial.Spelling
import EquationTutor.Text.Character
import Mathlib.Data.Bool.AllAny
import Mathlib.Tactic.IntervalCases

namespace EquationTutor

theorem Text.not_inRanges_of_apart {ranges others : List (Nat × Nat)} {n : Nat}
    (hapart : ∀ r ∈ ranges, ∀ s ∈ others, r.2 < s.1 ∨ s.2 < r.1)
    (h : inRanges ranges n = true) : inRanges others n = false := by
  simp only [inRanges, List.any_eq_true, Bool.and_eq_true, decide_eq_true_eq,
    Bool.eq_false_iff, ne_eq, not_exists] at h ⊢
  obtain ⟨r, hr, hlow, hhigh⟩ := h
  rintro s ⟨hs, hlow', hhigh'⟩
  have := hapart r hr s hs
  omega

theorem Text.not_blank_of_isDigit {c : Char} (h : isDigit c = true) : isBlank c = false :=
  not_inRanges_of_apart (by decide +kernel) h

open PolynomialText

namespace PolynomialText

def sideAlphabet : List Char :=
  ['0', '1', '2', '3', '4', '5', '6', '7', '8', '9', '.', '+', '-', 'x', '^']

def relationAlphabet : List Char :=
  ['=', '<', '>']

def digitChars : List Char :=
  ['0', '1', '2', '3', '4', '5', '6', '7', '8', '9']

theorem mem_digits_of_isDigit {c : Char} (h : c.isDigit = true) : c ∈ digitChars := by
  have hle : 48 ≤ c.toNat ∧ c.toNat ≤ 57 := by
    simpa [Char.isDigit, UInt32.le_iff_toNat_le] using h
  rw [← Char.ofNat_toNat c]
  obtain ⟨hlow, hhigh⟩ := hle
  interval_cases c.toNat <;> decide

theorem textIsDigit_of_isDigit {c : Char} (h : c.isDigit = true) : Text.isDigit c = true := by
  have hall : ∀ c ∈ digitChars, Text.isDigit c = true :=
    List.all_iff_forall_prop.mp (by decide)
  exact hall c (mem_digits_of_isDigit h)

theorem mem_sideAlphabet_of_isDigit {c : Char} (h : c.isDigit = true) : c ∈ sideAlphabet := by
  have hall : ∀ c ∈ digitChars, c ∈ sideAlphabet :=
    List.all_iff_forall_prop.mp (by decide)
  exact hall c (mem_digits_of_isDigit h)

namespace Unsigned

variable (n : Unsigned)

theorem chars_ne_nil : n.chars ≠ [] := by
  have h := n.ne_nil
  rw [chars]
  split <;> simp_all

theorem mem_chars {c : Char} (h : c ∈ n.chars) : c.isDigit = true ∨ c = '.' := by
  rw [chars] at h
  split at h
  · exact Or.inl (n.isDigit_whole c h)
  · simp only [List.mem_append, List.mem_cons] at h
    rcases h with h | h | h
    · exact Or.inl (n.isDigit_whole c h)
    · exact Or.inr h
    · exact Or.inl (n.isDigit_fraction c h)

theorem exists_chars_cons : ∃ d ds, n.chars = d :: ds ∧ d ∈ '.' :: digitChars := by
  obtain ⟨d, ds, hds⟩ := List.exists_cons_of_ne_nil n.chars_ne_nil
  refine ⟨d, ds, hds, ?_⟩
  rcases n.mem_chars (show d ∈ n.chars by simp [hds]) with h | rfl
  · exact List.mem_cons_of_mem _ (mem_digits_of_isDigit h)
  · exact List.mem_cons_self

theorem head?_chars_append (rest : List Char) :
    ∀ c ∈ (n.chars ++ rest).head?, c ∈ '.' :: digitChars := by
  obtain ⟨d, ds, hds, hd⟩ := n.exists_chars_cons
  intro c hc
  obtain rfl : d = c := by simpa [hds] using hc
  exact hd

end Unsigned

theorem Sign.char_mem (s : Sign) : s.char = '+' ∨ s.char = '-' := by
  cases s
  · exact Or.inl rfl
  · exact Or.inr rfl

namespace Term

variable (t : Term)

def mark : List Char :=
  t.sign.elim [] fun s => [s.char]

def digits : List Char :=
  t.factor.elim [] Unsigned.chars

theorem mem_lead {s : List Char} (h : s ∈ t.lead) :
    s ≠ [] ∧ ∀ c ∈ s, c.isDigit = true ∨ c = '.' ∨ c = '+' ∨ c = '-' := by
  simp only [lead, List.mem_append, List.mem_map, Option.mem_toList] at h
  rcases h with ⟨s, -, rfl⟩ | ⟨n, -, rfl⟩
  · refine ⟨by simp, ?_⟩
    intro c hc
    obtain rfl : c = s.char := by simpa using hc
    exact Or.inr (Or.inr s.char_mem)
  · refine ⟨n.chars_ne_nil, ?_⟩
    intro c hc
    rcases n.mem_chars hc with h | h
    · exact Or.inl h
    · exact Or.inr (Or.inl h)

theorem mem_tokens {s : List Char} (h : s ∈ t.tokens) : s ≠ [] ∧ ∀ c ∈ s, c ∈ sideAlphabet := by
  rw [tokens, List.mem_append] at h
  rcases h with h | h
  · obtain ⟨hne, hs⟩ := t.mem_lead h
    refine ⟨hne, ?_⟩
    intro c hc
    rcases hs c hc with hdigit | hother
    · exact mem_sideAlphabet_of_isDigit hdigit
    · rcases hother with rfl | rfl | rfl <;> decide
  · cases ht : t.power with
    | constant => simp [ht, Power.tokens] at h
    | linear =>
        simp only [ht, Power.tokens, List.mem_singleton] at h
        subst h
        simp [sideAlphabet]
    | square =>
        simp only [ht, Power.tokens, List.mem_cons, List.not_mem_nil, or_false] at h
        rcases h with rfl | rfl | rfl <;> simp [sideAlphabet]

/-- The sign and the factor of the term, with spaces behind them. -/
structure Leads (lead gap : List Char) : Prop where
  exists_eq : ∃ g, lead = t.mark ++ (g ++ t.digits) ∧ (∀ c ∈ g, c = ' ') ∧
    (t.sign = none → g = [])
  gap_blank : ∀ c ∈ gap, c = ' '
  gap_eq_nil : t.factor = none → gap = []

theorem exists_leads_of_spelled_lead {us : List (List Char)} {cs : List Char}
    (h : Spelled (· == ' ') (t.lead ++ us) cs) :
    ∃ lead gap rest, cs = lead ++ (gap ++ rest) ∧ t.Leads lead gap ∧
      Spelled (· == ' ') us rest := by
  rw [lead, List.append_assoc, spelled_append] at h
  obtain ⟨x, y, rfl, hx, hy⟩ := h
  obtain ⟨z, rest, rfl, hz, hrest⟩ := spelled_append.mp hy
  have hmark : ∃ g, x = t.mark ++ g ∧ (∀ c ∈ g, c = ' ') ∧ (t.sign = none → g = []) := by
    cases hs : t.sign with
    | none =>
        rw [hs] at hx
        obtain rfl : x = [] := hx
        exact ⟨[], by simp [mark, hs], by simp, fun _ => rfl⟩
    | some s =>
        rw [hs] at hx
        obtain ⟨g, rfl, hg⟩ := spelled_singleton.mp hx
        exact ⟨g, by simp [mark, hs], by simpa using hg, by simp⟩
  obtain ⟨g, rfl, hg, hgnil⟩ := hmark
  cases hf : t.factor with
  | none =>
      rw [hf] at hz
      obtain rfl : z = [] := hz
      exact ⟨t.mark ++ g, [], rest, by simp, ⟨⟨g, by simp [digits, hf], hg, hgnil⟩, by simp,
        fun _ => rfl⟩, hrest⟩
  | some n =>
      rw [hf] at hz
      obtain ⟨gap, rfl, hgap⟩ := spelled_singleton.mp hz
      exact ⟨t.mark ++ (g ++ n.chars), gap, rest, by simp, ⟨⟨g, by simp [digits, hf], hg, hgnil⟩,
        by simpa using hgap, by simp [hf]⟩, hrest⟩

theorem exists_leads_of_spelled {cs : List Char} (h : Spelled (· == ' ') t.tokens cs) :
    ∃ lead gap power, cs = lead ++ (gap ++ power) ∧ t.Leads lead gap ∧
      Spelled (· == ' ') t.power.tokens power :=
  t.exists_leads_of_spelled_lead h

theorem Leads.mem {t : Term} {lead gap : List Char} (h : t.Leads lead gap) :
    ∀ c ∈ lead ++ gap, c ∈ ' ' :: '.' :: '+' :: '-' :: digitChars := by
  obtain ⟨⟨g, rfl, hg, -⟩, hgap, -⟩ := h
  intro c hc
  simp only [List.mem_append] at hc
  rcases hc with (hc | hc | hc) | hc
  · cases hs : t.sign with
    | none => simp [mark, hs] at hc
    | some s =>
        obtain rfl : c = s.char := by simpa [mark, hs] using hc
        rcases s.char_mem with h | h <;> rw [h] <;> simp
  · simp [hg c hc]
  · cases hf : t.factor with
    | none => simp [digits, hf] at hc
    | some n =>
        rw [digits, hf] at hc
        rcases n.mem_chars hc with h | rfl
        · simp [mem_digits_of_isDigit h]
        · simp
  · simp [hgap c hc]

end Term

theorem Side.mem_tokens {side : Side} {s : List Char} (h : s ∈ side.tokens) :
    s ≠ [] ∧ ∀ c ∈ s, c ∈ sideAlphabet := by
  obtain ⟨t, -, ht⟩ := List.mem_flatMap.mp h
  exact t.mem_tokens ht

/-- The text of a side, taken apart at one of its terms. -/
structure TermAt (before : List Term) (t : Term) (tail : List Term) (text : List Char) where
  front : List Char
  lead : List Char
  gap : List Char
  power : List Char
  back : List Char
  text_eq : text = front ++ (lead ++ (gap ++ (power ++ back)))
  spelled_front : Spelled (· == ' ') (before.flatMap Term.tokens) front
  leads : t.Leads lead gap
  spelled_power : Spelled (· == ' ') t.power.tokens power
  spelled_back : Spelled (· == ' ') (tail.flatMap Term.tokens) back

theorem nonempty_termAt {before tail : List Term} {t : Term} {text : List Char}
    (h : Spelled (· == ' ') ((before ++ t :: tail).flatMap Term.tokens) text) :
    Nonempty (TermAt before t tail text) := by
  rw [List.flatMap_append, List.flatMap_cons] at h
  obtain ⟨front, x, rfl, hfront, hx⟩ := spelled_append.mp h
  obtain ⟨y, back, rfl, hy, hback⟩ := spelled_append.mp hx
  obtain ⟨lead, gap, power, rfl, hleads, hpower⟩ := t.exists_leads_of_spelled hy
  exact ⟨⟨front, lead, gap, power, back, by simp, hfront, hleads, hpower, hback⟩⟩

theorem exists_firstAt {tail : List Term} {t : Term} {text : List Char}
    (h : Spelled (· == ' ') ((t :: tail).flatMap Term.tokens) text) :
    ∃ l : TermAt [] t tail text, l.front = [] := by
  obtain ⟨l⟩ := @nonempty_termAt [] tail t text h
  exact ⟨l, l.spelled_front⟩

end PolynomialText

theorem Relation.operator_cases {r : Relation} (h : r ≠ .ne) :
    r = .eq ∧ r.operator.toList = ['='] ∨
    r ≠ .eq ∧ ∃ c, (c = '<' ∨ c = '>') ∧
      (r.operator.toList = [c] ∨ r.operator.toList = [c, '=']) := by
  cases r with
  | eq => exact Or.inl ⟨rfl, by decide⟩
  | ne => exact absurd rfl h
  | lt => exact Or.inr ⟨by decide, '<', Or.inl rfl, Or.inl (by decide)⟩
  | gt => exact Or.inr ⟨by decide, '>', Or.inr rfl, Or.inl (by decide)⟩
  | le => exact Or.inr ⟨by decide, '<', Or.inl rfl, Or.inr (by decide)⟩
  | ge => exact Or.inr ⟨by decide, '>', Or.inr rfl, Or.inr (by decide)⟩

namespace PolynomialRelation

variable {p : PolynomialRelation} {text : List Char}

theorem operator_cases (p : PolynomialRelation) :
    p.relation = .eq ∧ p.relation.operator.toList = ['='] ∨
    p.relation ≠ .eq ∧ ∃ c, (c = '<' ∨ c = '>') ∧
      (p.relation.operator.toList = [c] ∨ p.relation.operator.toList = [c, '=']) :=
  Relation.operator_cases p.relation_ne

theorem mem_tokens {s : List Char} (h : s ∈ p.tokens) :
    s ≠ [] ∧ ∀ c ∈ s, c ∈ sideAlphabet ++ relationAlphabet := by
  simp only [tokens, List.mem_append, List.mem_cons] at h
  rcases h with h | rfl | h
  · obtain ⟨hne, hs⟩ := Side.mem_tokens h
    exact ⟨hne, fun c hc => List.mem_append_left _ (hs c hc)⟩
  · rcases p.operator_cases with ⟨-, h⟩ | ⟨-, c, rfl | rfl, h | h⟩ <;> rw [h] <;>
      simp [sideAlphabet, relationAlphabet]
  · obtain ⟨hne, hs⟩ := Side.mem_tokens h
    exact ⟨hne, fun c hc => List.mem_append_left _ (hs c hc)⟩

/-- Normalization leaves the tokens alone and single spaces between them. -/
theorem spelled_normalize {text : String} (h : p.Writes text) :
    Spelled (· == ' ') p.tokens (Reading.normalize text).toList := by
  have hplain : ∀ c ∈ sideAlphabet ++ relationAlphabet,
      Text.isBlank c = false ∧ Reading.plainGlyph c = [c] :=
    List.all_iff_forall_prop.mp (by decide)
  have hstars : '*' ∉ p.tokens.flatten := by
    intro hmem
    obtain ⟨s, hs, hc⟩ := List.mem_flatten.mp hmem
    exact absurd ((mem_tokens hs).2 '*' hc) (by decide)
  exact Reading.spelled_normalize_of_apart
    (fun s hs => ⟨(mem_tokens hs).1, fun c hc => hplain c ((mem_tokens hs).2 c hc)⟩)
    (fun hsub => hstars (hsub.subset List.mem_cons_self)) h

/-- The normalized text of a relation, taken apart at the operator. -/
structure Written (p : PolynomialRelation) (text : List Char) where
  left : List Char
  spaces : List Char
  right : List Char
  text_eq : text = left ++ (p.relation.operator.toList ++ (spaces ++ right))
  spelled_left : Spelled (· == ' ') p.left.tokens left
  eq_space : ∀ c ∈ spaces, c = ' '
  spelled_right : Spelled (· == ' ') p.right.tokens right

theorem nonempty_written (h : Spelled (· == ' ') p.tokens text) : Nonempty (Written p text) := by
  obtain ⟨left, x, rfl, hleft, spaces, right, rfl, hspaces, hright⟩ := spelled_append.mp h
  exact ⟨⟨left, spaces, right, by simp, hleft, by simpa using hspaces, hright⟩⟩

end PolynomialRelation

end EquationTutor
