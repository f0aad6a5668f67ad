import EquationTutor.Proofs.Polynomial.Layout
import EquationTutor.Proofs.Reading.Pieces

namespace EquationTutor

theorem append_cons_inj_of_last {x : Char} {a b a' b' : List Char}
    (h : a ++ x :: b = a' ++ x :: b') (hb : x ∉ b) (hb' : x ∉ b') : a = a' ∧ b = b' := by
  rcases List.append_eq_append_iff.mp h with ⟨d, rfl, hd⟩ | ⟨d, rfl, hd⟩
  · cases d with
    | nil => exact ⟨by simp, (List.cons.inj hd).2⟩
    | cons y d =>
        obtain ⟨rfl, rfl⟩ := List.cons.inj hd
        exact absurd (by simp) hb
  · cases d with
    | nil => exact ⟨by simp, (List.cons.inj hd).2.symm⟩
    | cons y d =>
        obtain ⟨rfl, rfl⟩ := List.cons.inj hd
        exact absurd (by simp) hb'

theorem notMem_of_append_cons_eq {x y : Char} {a b a' b' : List Char}
    (h : a ++ x :: b = a' ++ x :: b') (ha' : x ∉ a') (hb' : y ∉ b') : y ∉ b := by
  rcases List.append_eq_append_iff.mp h with ⟨d, rfl, hd⟩ | ⟨d, rfl, hd⟩
  · cases d with
    | nil => rwa [(List.cons.inj hd).2]
    | cons z d =>
        obtain ⟨rfl, -⟩ := List.cons.inj hd
        exact absurd (by simp) ha'
  · cases d with
    | nil => rwa [← (List.cons.inj hd).2]
    | cons z d =>
        obtain ⟨rfl, rfl⟩ := List.cons.inj hd
        exact fun hy => hb' (by simp [hy])

theorem append_inj_of_first {P : Char → Prop} {a b a' b' : List Char} (h : a ++ b = a' ++ b')
    (ha : ∀ c ∈ a, ¬ P c) (ha' : ∀ c ∈ a', ¬ P c) (hb : ∀ c ∈ b.head?, P c)
    (hb' : ∀ c ∈ b'.head?, P c) : a = a' ∧ b = b' := by
  rcases List.append_eq_append_iff.mp h with ⟨d, rfl, rfl⟩ | ⟨d, rfl, rfl⟩
  · cases d with
    | nil => exact ⟨by simp, rfl⟩
    | cons y d => exact absurd (hb y rfl) (ha' y (by simp))
  · cases d with
    | nil => exact ⟨by simp, rfl⟩
    | cons y d => exact absurd (hb' y rfl) (ha y (by simp))

theorem exists_last {α : Type} (P : α → Prop) [DecidablePred P] (xs : List α) :
    (∀ x ∈ xs, ¬ P x) ∨
      ∃ before x tail, xs = before ++ x :: tail ∧ P x ∧ ∀ y ∈ tail, ¬ P y := by
  induction xs with
  | nil => exact Or.inl (by simp)
  | cons y xs ih =>
      rcases ih with hnone | ⟨before, x, tail, rfl, hx, htail⟩
      · by_cases hy : P y
        · exact Or.inr ⟨[], y, xs, rfl, hy, hnone⟩
        · exact Or.inl (by simpa using ⟨hy, hnone⟩)
      · exact Or.inr ⟨y :: before, x, tail, rfl, hx, htail⟩

namespace PolynomialText

open Reading Pattern

def IsSign (c : Char) : Prop :=
  c = '+' ∨ c = '-'

def relationChars : List Char :=
  ['=', '<', '>', '!']

/-- Signs, variables and the parts of operators and of exponents. -/
def noisyChars : List Char :=
  ['+', '-', 'x', 'y', '^', '=', '<', '>', '!', ',']

/-- A character that is no sign and no part of a variable or of an operator. -/
def Quiet (c : Char) : Prop :=
  c ∉ noisyChars

instance : DecidablePred IsSign :=
  fun c => inferInstanceAs (Decidable (c = '+' ∨ c = '-'))

instance : DecidablePred Quiet :=
  fun c => inferInstanceAs (Decidable (c ∉ noisyChars))

theorem Quiet.not_isSign {c : Char} (h : Quiet c) : ¬ IsSign c := by
  rintro (rfl | rfl) <;> exact h (by decide)

theorem Quiet.notMem_relationChars {c : Char} (h : Quiet c) : c ∉ relationChars := by
  intro hc
  apply h
  revert hc
  simp only [relationChars, noisyChars, List.mem_cons, List.not_mem_nil, or_false]
  tauto

theorem Quiet.ne {c : Char} (h : Quiet c) {d : Char}
    (hd : d ∈ noisyChars) : c ≠ d := by
  rintro rfl
  exact h hd

theorem quiet_of_isBlank {c : Char} (h : Text.isBlank c = true) : Quiet c := by
  intro hc
  have hall : ∀ d ∈ noisyChars, Text.isBlank d = false :=
    List.all_iff_forall_prop.mp (by decide)
  rw [hall c hc] at h
  cases h

theorem quiet_of_isDigit {c : Char} (h : Text.isDigit c = true) : Quiet c := by
  intro hc
  have hall : ∀ d ∈ noisyChars, Text.isDigit d = false :=
    List.all_iff_forall_prop.mp (by decide)
  rw [hall c hc] at h
  cases h

theorem quiet_of_digits {cs : List Char} (h : Digits cs) : ∀ c ∈ cs, Quiet c :=
  fun c hc => quiet_of_isDigit (h.2 c hc)

theorem quiet_of_allBlank {cs : List Char} (h : AllBlank cs) : ∀ c ∈ cs, Quiet c :=
  fun c hc => quiet_of_isBlank (h c hc)

theorem quiet_of_decimal {cs : List Char} (h : Reading.Decimal cs) : ∀ c ∈ cs, Quiet c := by
  obtain ⟨whole, fraction, rfl, hwhole, hfraction⟩ := h
  intro c hc
  rcases List.mem_append.mp hc with hc | hc
  · exact quiet_of_digits hwhole c hc
  · rcases hfraction with rfl | ⟨ds, rfl, hds⟩
    · cases hc
    · rcases List.mem_cons.mp hc with rfl | hc
      · decide
      · exact quiet_of_digits hds c hc

theorem quiet_of_numeral {cs : List Char} (h : Numeral cs) : ∀ c ∈ cs, Quiet c := by
  rcases h with h | ⟨ds, rfl, hds⟩
  · exact quiet_of_decimal h
  · intro c hc
    rcases List.mem_cons.mp hc with rfl | hc
    · decide
    · exact quiet_of_digits hds c hc

/-- An optional sign and quiet characters. -/
def SignThenQuiet (cs : List Char) : Prop :=
  ∃ s q, cs = s ++ q ∧ (s = [] ∨ ∃ c, s = [c] ∧ IsSign c) ∧ ∀ c ∈ q, Quiet c

variable {before taken rest : List Char}

theorem quiet_of_takes_overDigits (h : (optional overDigits).Takes before taken rest) :
    ∀ c ∈ taken, Quiet c := by
  simp only [overDigits, cat, takes_optional, takes_seq, takes_char, takes_digits] at h
  rcases h with ⟨_, ds, rfl, rfl, hds⟩ | rfl
  · intro c hc
    rcases List.mem_append.mp hc with hc | hc
    · obtain rfl := List.mem_singleton.mp hc
      decide
    · exact quiet_of_digits hds c hc
  · simp

theorem quiet_of_takes_times (h : times.Takes before taken rest) : ∀ c ∈ taken, Quiet c := by
  simp only [times, cat, takes_optional, takes_seq, takes_char, takes_blanks] at h
  obtain ⟨g, _, rfl, hg, s, g', rfl, hs, hg'⟩ := h
  intro c hc
  simp only [List.mem_append] at hc
  rcases hc with hc | hc | hc
  · exact quiet_of_allBlank hg c hc
  · rcases hs with rfl | rfl
    · obtain rfl := List.mem_singleton.mp hc
      decide
    · cases hc
  · exact quiet_of_allBlank hg' c hc

theorem exists_of_takes_lead {signPart numberPart : Pattern}
    (hnumber : ∀ b s t, numberPart.Takes b s t → ∀ c ∈ s, Quiet c)
    (h : (cat [signPart, blanks, numberPart, optional overDigits]).Takes before taken rest) :
    ∃ s q, taken = s ++ q ∧ (∃ t, signPart.Takes before s t) ∧ ∀ c ∈ q, Quiet c := by
  simp only [cat, takes_seq, takes_blanks] at h
  obtain ⟨s, _, rfl, hs, g, _, rfl, hg, n, o, rfl, hn, ho⟩ := h
  refine ⟨s, _, rfl, ⟨_, hs⟩, ?_⟩
  intro c hc
  simp only [List.mem_append] at hc
  rcases hc with hc | hc | hc
  · exact quiet_of_allBlank hg c hc
  · exact hnumber _ _ _ hn c hc
  · exact quiet_of_takes_overDigits ho c hc

theorem quiet_of_takes_number {b s t : List Char} (h : number.Takes b s t) :
    ∀ c ∈ s, Quiet c :=
  quiet_of_numeral (takes_number.mp h)

theorem quiet_of_takes_optional_number {b s t : List Char}
    (h : (optional number).Takes b s t) : ∀ c ∈ s, Quiet c := by
  rcases h with h | rfl
  · exact quiet_of_takes_number h
  · simp

theorem signThenQuiet_of_takes {s t : List Char} (hs : coefficient.Takes before s rest)
    {b r : List Char} (ht : times.Takes b t r) : SignThenQuiet (s ++ t) := by
  obtain ⟨m, q, rfl, ⟨u, hm⟩, hq⟩ := exists_of_takes_lead
    (fun _ _ _ => quiet_of_takes_optional_number) hs
  refine ⟨m, q ++ t, by simp, ?_, ?_⟩
  · simp only [takes_optional, takes_sign] at hm
    rcases hm with (h | h) | h
    · exact Or.inr ⟨'+', h, Or.inl rfl⟩
    · exact Or.inr ⟨'-', h, Or.inr rfl⟩
    · exact Or.inl h
  · intro c hc
    rcases List.mem_append.mp hc with hc | hc
    · exact hq c hc
    · exact quiet_of_takes_times ht c hc

theorem exists_sign_of_takes {numberPart : Pattern}
    (hnumber : ∀ b s t, numberPart.Takes b s t → ∀ c ∈ s, Quiet c)
    (h : (cat [sign, blanks, numberPart, optional overDigits]).Takes before taken rest) :
    ∃ c q, taken = c :: q ∧ IsSign c ∧ ∀ c ∈ q, Quiet c := by
  obtain ⟨m, q, rfl, ⟨t, hm⟩, hq⟩ := exists_of_takes_lead hnumber h
  rcases takes_sign.mp hm with rfl | rfl
  · exact ⟨'+', q, rfl, Or.inl rfl, hq⟩
  · exact ⟨'-', q, rfl, Or.inr rfl, hq⟩

theorem takes_relationSign (h : relationSign.Takes before taken rest) :
    taken = ['<', '='] ∨ taken = ['>', '='] ∨ taken = ['!', '='] ∨ taken = ['='] ∨
      taken = ['<'] ∨ taken = ['>'] := by
  simpa [relationSign, any, text, cat, takes_seq, takes_alt] using h

/-- A term without the spaces around its tokens. -/
def Term.text (t : Term) : List Char :=
  t.mark ++ (t.digits ++ t.power.tokens.flatten)

theorem Term.flatten_tokens (t : Term) : t.tokens.flatten = t.text := by
  rw [tokens, lead, text, mark, digits]
  cases t.sign <;> cases t.factor <;> simp

theorem flatten_flatMap_tokens (ts : List Term) :
    (ts.flatMap Term.tokens).flatten = ts.flatMap Term.text := by
  induction ts with
  | nil => rfl
  | cons t ts ih => simp [Term.flatten_tokens, ih]

theorem Term.quiet_digits (t : Term) : ∀ c ∈ t.digits, Quiet c := by
  rw [digits]
  cases t.factor with
  | none => simp
  | some n =>
      intro c hc
      rcases n.mem_chars hc with h | rfl
      · exact quiet_of_isDigit (textIsDigit_of_isDigit h)
      · decide

def solid (cs : List Char) : List Char :=
  cs.filter fun c => !Text.isBlank c

@[simp] theorem solid_append (a b : List Char) : solid (a ++ b) = solid a ++ solid b :=
  List.filter_append ..

theorem solid_cons {c : Char} (h : Text.isBlank c = false) (cs : List Char) :
    solid (c :: cs) = c :: solid cs := by
  simp [solid, h]

theorem solid_of_allBlank {cs : List Char} (h : AllBlank cs) : solid cs = [] := by
  rw [solid, List.filter_eq_nil_iff]
  intro c hc
  simp [h c hc]

theorem allBlank_of_eq_space {cs : List Char} (h : ∀ c ∈ cs, c = ' ') : AllBlank cs := by
  intro c hc
  rw [h c hc]
  decide

theorem solid_of_not_blank {cs : List Char} (h : ∀ c ∈ cs, Text.isBlank c = false) :
    solid cs = cs := by
  rw [solid, List.filter_eq_self]
  intro c hc
  simp [h c hc]

theorem solid_spelled {ts : List (List Char)} {cs : List Char}
    (hts : ∀ t ∈ ts, ∀ c ∈ t, Text.isBlank c = false) (h : Spelled (· == ' ') ts cs) :
    solid cs = ts.flatten := by
  induction ts generalizing cs with
  | nil =>
      obtain rfl : cs = [] := h
      rfl
  | cons t ts ih =>
      obtain ⟨g, rest, rfl, hg, hrest⟩ := h
      have hrest := ih (fun s hs => hts s (List.mem_cons_of_mem t hs)) hrest
      rw [solid_append, solid_append, solid_of_not_blank (hts t List.mem_cons_self),
        solid_of_allBlank (allBlank_of_eq_space (by simpa using hg)), hrest]
      simp

theorem not_blank_of_mem_sideAlphabet : ∀ c ∈ sideAlphabet, Text.isBlank c = false :=
  List.all_iff_forall_prop.mp (by decide)

theorem solid_spelled_terms {ts : List Term} {cs : List Char}
    (h : Spelled (· == ' ') (ts.flatMap Term.tokens) cs) : solid cs = ts.flatMap Term.text := by
  rw [solid_spelled ?_ h, flatten_flatMap_tokens]
  intro s hs c hc
  obtain ⟨t, -, ht⟩ := List.mem_flatMap.mp hs
  exact not_blank_of_mem_sideAlphabet c ((t.mem_tokens ht).2 c hc)

theorem mem_side_of_spelled {ts : List (List Char)} {cs : List Char}
    (hts : ∀ t ∈ ts, ∀ c ∈ t, c ∈ sideAlphabet) (h : Spelled (· == ' ') ts cs) :
    ∀ c ∈ cs, c ∈ ' ' :: sideAlphabet := by
  intro c hc
  rcases mem_of_spelled h hc with hc | ⟨t, ht, hc⟩
  · obtain rfl : c = ' ' := by simpa using hc
    exact List.mem_cons_self
  · exact List.mem_cons_of_mem _ (hts t ht c hc)

theorem not_blank_of_mem_relationChars :
    ∀ c ∈ relationChars, Text.isBlank c = false ∧ ¬ IsSign c :=
  List.all_iff_forall_prop.mp (by decide)

theorem notMem_relationChars_of_mem_side : ∀ c ∈ ' ' :: sideAlphabet, c ∉ relationChars :=
  List.all_iff_forall_prop.mp (by decide)

end PolynomialText

open PolynomialText

theorem PolynomialRelation.mem_relationChars (p : PolynomialRelation) :
    ∀ c ∈ p.relation.operator.toList, c ∈ relationChars := by
  rcases p.operator_cases with ⟨-, h⟩ | ⟨-, c, rfl | rfl, h | h⟩ <;> rw [h] <;>
    simp [relationChars]

namespace PolynomialRelation.Written

variable {p : PolynomialRelation} {text : List Char} (w : p.Written text)
include w

theorem left_side : ∀ c ∈ w.left, c ∈ ' ' :: sideAlphabet :=
  mem_side_of_spelled (fun _ ht => (Side.mem_tokens ht).2) w.spelled_left

theorem behind_side : ∀ c ∈ w.spaces ++ w.right, c ∈ ' ' :: sideAlphabet := by
  intro c hc
  rcases List.mem_append.mp hc with hc | hc
  · rw [w.eq_space c hc]
    exact List.mem_cons_self
  · exact mem_side_of_spelled (fun _ ht => (Side.mem_tokens ht).2) w.spelled_right c hc

theorem eq_left {d m : List Char} {c : Char} (h : text = d ++ c :: m) (hc : c ∈ relationChars)
    (hd : ∀ x ∈ d.getLast?, x ∉ relationChars) :
    d = w.left ∧ c :: m = p.relation.operator.toList ++ (w.spaces ++ w.right) := by
  have hleft := fun x hx => notMem_relationChars_of_mem_side x (w.left_side x hx)
  have hbehind := fun x hx => notMem_relationChars_of_mem_side x (w.behind_side x hx)
  rw [w.text_eq] at h
  rcases List.append_eq_append_iff.mp h with ⟨k, rfl, hk⟩ | ⟨k, hk, hcm⟩
  · -- the operator starts in front of `c`
    cases k with
    | nil => exact ⟨by simp, hk.symm⟩
    | cons y k =>
        exfalso
        have hin (hk : w.spaces ++ w.right = k ++ c :: m) : False :=
          hbehind c (by rw [hk]; simp) hc
        rcases p.operator_cases with ⟨-, hop⟩ | ⟨-, o, ho, hop | hop⟩ <;>
          simp only [hop, List.cons_append, List.nil_append, List.cons.injEq] at hk
        · exact hin hk.2
        · exact hin hk.2
        · obtain ⟨rfl, hk⟩ := hk
          cases k with
          | nil =>
              refine hd o (by simp) ?_
              rcases ho with rfl | rfl <;> decide
          | cons z k =>
              simp only [List.cons_append, List.cons.injEq] at hk
              exact hbehind c (by rw [hk.2]; simp) hc
  · -- `c` would stand on the left side
    cases k with
    | nil => exact ⟨by simpa using hk.symm, by simpa using hcm⟩
    | cons y k =>
        obtain ⟨rfl, -⟩ := List.cons.inj hcm
        exact absurd hc (hleft c (by rw [hk]; simp))

end PolynomialRelation.Written

end EquationTutor
