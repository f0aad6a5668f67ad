import EquationTutor.Proofs.Exponential.Pieces
import EquationTutor.Proofs.Pattern.Backtrack
/-!
A base with an optional factor before it. The factor is tried first and takes the whole base, but
then no base is left, so it gives the last digit back: that digit alone is taken for the base, and
the digits before it for the factor.
-/

namespace EquationTutor

open PolynomialText Reading Pattern

namespace PolynomialText

namespace Unsigned

section Front

variable (n : Unsigned)

theorem isDigit_whole_front : ∀ c ∈ if n.fraction = [] then n.whole.dropLast else n.whole,
    c.isDigit = true := by
  intro c hc
  refine n.isDigit_whole c ?_
  split at hc
  · exact List.dropLast_subset _ hc
  · exact hc

theorem front_ne_nil (h : n.whole.length + n.fraction.length ≠ 1) :
    (if n.fraction = [] then n.whole.dropLast else n.whole) ≠ [] ∨ n.fraction.dropLast ≠ [] := by
  have hne : n.whole.length ≠ 0 ∨ n.fraction.length ≠ 0 := by simpa using n.ne_nil
  simp only [Ne, ← List.length_eq_zero_iff]
  split
  · rename_i hnil
    simp only [hnil, List.length_dropLast]
    omega
  · rw [List.length_dropLast]
    omega

end Front

/-- The number without its last digit. A point goes with the only digit behind it, and nothing is
left of a single digit. -/
def front (n : Unsigned) : Option Unsigned :=
  if h : n.whole.length + n.fraction.length = 1 then none
  else some ⟨if n.fraction = [] then n.whole.dropLast else n.whole, n.fraction.dropLast,
    n.isDigit_whole_front, fun c hc => n.isDigit_fraction c (List.dropLast_subset _ hc),
    n.front_ne_nil h⟩

/-- The last digit, with the point before it if it is the only digit behind the point. -/
def back (n : Unsigned) : Unsigned where
  whole := if n.fraction.length = 1 then [] else (n.whole ++ n.fraction).getLast?.toList
  fraction := if n.fraction.length = 1 then n.fraction else []
  isDigit_whole := by
    intro c hc
    split at hc
    · cases hc
    · rcases List.mem_append.mp (List.mem_of_getLast? (Option.mem_toList.mp hc)) with h | h
      · exact n.isDigit_whole c h
      · exact n.isDigit_fraction c h
  isDigit_fraction := by
    intro c hc
    split at hc
    · exact n.isDigit_fraction c hc
    · cases hc
  ne_nil := by
    by_cases h : n.fraction.length = 1
    · right
      rw [if_pos h]
      rintro hnil
      simp [hnil] at h
    · left
      rw [if_neg h]
      rcases n.ne_nil with hne | hne <;> simp [Option.toList_eq_nil_iff, hne]

/-- What is left of the text of a number before its last digit. -/
def frontChars (n : Unsigned) : List Char :=
  n.front.elim [] chars

/-- Where the text of a number is cut before its last digit. -/
inductive Cut (n : Unsigned) : (front back : List Char) → Prop where
  | whole (w : List Char) (d : Char) (hwhole : n.whole = w ++ [d]) (hfraction : n.fraction = []) :
      Cut n w [d]
  | point (d : Char) (hfraction : n.fraction = [d]) : Cut n n.whole ['.', d]
  | fraction (f : List Char) (d : Char) (hne : f ≠ []) (hfraction : n.fraction = f ++ [d]) :
      Cut n (n.whole ++ '.' :: f) [d]

variable (n : Unsigned)

theorem front_eq_none_iff : n.front = none ↔ n.whole.length + n.fraction.length = 1 := by
  rw [front, dite_eq_left_iff]
  simp

theorem frontChars_eq : n.frontChars = if n.fraction.dropLast = [] then
    (if n.fraction = [] then n.whole.dropLast else n.whole)
    else n.whole ++ '.' :: n.fraction.dropLast := by
  cases hfront : n.front with
  | none =>
      have hlength := n.front_eq_none_iff.mp hfront
      have hfraction : n.fraction.dropLast = [] := by
        rw [← List.length_eq_zero_iff, List.length_dropLast]
        omega
      rw [frontChars, hfront, if_pos hfraction]
      split
      · rename_i hnil
        rw [hnil, List.length_nil] at hlength
        rw [Option.elim_none, eq_comm, ← List.length_eq_zero_iff, List.length_dropLast]
        omega
      · rename_i hsome
        have := List.length_pos_iff.mpr hsome
        rw [Option.elim_none, eq_comm, ← List.length_eq_zero_iff]
        omega
  | some f =>
      rw [front] at hfront
      split at hfront
      · cases hfront
      · rename_i hlength
        rw [frontChars, front, dif_neg hlength, Option.elim_some]
        obtain rfl := Option.some.inj hfront
        rcases Unsigned.chars_eq _ with ⟨hf, hchars⟩ | ⟨hf, hchars⟩
        · rw [hchars]
          exact (if_pos hf).symm
        · have hne : n.fraction ≠ [] := fun hnil => hf (by simp [hnil])
          rw [hchars]
          exact (congrArg (· ++ _) (if_neg hne)).trans (if_neg hf).symm

theorem cut : n.Cut n.frontChars n.back.chars := by
  rw [frontChars_eq]
  rcases List.eq_nil_or_concat n.fraction with hf | ⟨f, d, hf⟩
  · obtain ⟨w, d, hw⟩ := (List.eq_nil_or_concat n.whole).resolve_left
      (n.ne_nil.resolve_right fun h => h hf)
    rw [List.concat_eq_append] at hw
    have hback : n.back.chars = [d] := by simp [back, chars, hf, hw]
    rw [hback]
    simpa [hf, hw] using Cut.whole (n := n) w d hw hf
  · rw [List.concat_eq_append] at hf
    by_cases hne : f = []
    · subst hne
      have hback : n.back.chars = ['.', d] := by simp [back, chars, hf]
      rw [hback]
      simpa [hf] using Cut.point (n := n) d hf
    · have hback : n.back.chars = [d] := by simp [back, chars, hf, hne]
      rw [hback]
      simpa [hf, hne] using Cut.fraction (n := n) f d hne hf

theorem chars_eq_append : n.chars = n.frontChars ++ n.back.chars := by
  have h := n.cut
  generalize n.frontChars = s, n.back.chars = t at h
  cases h with
  | whole w d hwhole hfraction => simp [chars, hwhole, hfraction]
  | point d hfraction => simp [chars, hfraction]
  | fraction f d hne hfraction => cases f <;> simp [chars, hfraction]

theorem value_back_of_front_eq_none {α : Type} [Scalar α] (h : n.front = none) :
    (n.back.value : α) = n.value := by
  rw [← parseCoefficient_chars, ← parseCoefficient_chars, n.chars_eq_append, frontChars, h]
  rfl

theorem back_cases : ∃ d, d.isDigit = true ∧
    (n.back.whole = [d] ∧ n.back.fraction = [] ∨ n.back.whole = [] ∧ n.back.fraction = [d]) := by
  by_cases h : n.fraction.length = 1
  · obtain ⟨d, hd⟩ := List.length_eq_one_iff.mp h
    exact ⟨d, n.isDigit_fraction d (by simp [hd]), Or.inr (by simp [back, hd])⟩
  · have hne : n.whole ++ n.fraction ≠ [] := by
      rw [Ne, List.append_eq_nil_iff, not_and_or]
      exact n.ne_nil
    obtain ⟨ds, d, hd⟩ := (List.eq_nil_or_concat _).resolve_left hne
    rw [List.concat_eq_append] at hd
    have hmem : d ∈ n.whole ++ n.fraction := by simp [hd]
    refine ⟨d, (List.mem_append.mp hmem).elim (n.isDigit_whole d) (n.isDigit_fraction d),
      Or.inl ⟨(if_neg h).trans ?_, if_neg h⟩⟩
    rw [hd]
    simp

/-- The digits before the last are read as 1 and the last as the whole number. -/
def SplitsExactly (α : Type) [Scalar α] (n : Unsigned) : Prop :=
  ∃ f, n.front = some f ∧ f.value = (1 : α) ∧ n.back.value = (n.value : α)

end Unsigned

section GivesBack

variable {before rest : List Char} {g : Groups}

theorem not_numeral_point : ¬ Numeral ['.'] := by
  rintro (⟨whole, fraction, h, ⟨hne, hwhole⟩, -⟩ | ⟨ds, h, hne, -⟩)
  · obtain ⟨d, whole, rfl⟩ := List.exists_cons_of_ne_nil hne
    obtain ⟨rfl, -⟩ := List.cons.inj h
    exact absurd (hwhole '.' List.mem_cons_self) (by decide)
  · obtain ⟨-, rfl⟩ := List.cons.inj h
    exact hne rfl

theorem eq_of_numeral_prefix {point u left : List Char} {d : Char}
    (hpoint : point = [] ∨ point = ['.']) (hrest : NumberEnds rest)
    (hsplit : (point ++ [d]) ++ rest = u ++ left) (hu : Numeral u) : u = point ++ [d] := by
  rcases List.append_eq_append_iff.mp hsplit with ⟨v, rfl, rfl⟩ | ⟨v, hv, -⟩
  · -- nothing that ends a number is a part of one
    cases v with
    | nil => simp
    | cons c v =>
        rcases mem_of_numeral hu c (by simp) with h | h
        · rw [hrest.not_digit c rfl] at h
          cases h
        · have := hrest.ne (d := '.') (by decide) c rfl
          simp [h] at this
  · cases List.eq_nil_or_concat v with
    | inl h => simpa [h] using hv.symm
    | inr h =>
        obtain ⟨v, c, rfl⟩ := h
        exfalso
        rw [List.concat_eq_append, ← List.append_assoc] at hv
        obtain ⟨hpoint', -⟩ := List.append_inj' hv rfl
        rcases hpoint with rfl | rfl
        · obtain ⟨rfl, -⟩ := List.append_eq_nil_iff.mp hpoint'.symm
          exact ne_nil_of_numeral hu rfl
        · cases u with
          | nil => exact ne_nil_of_numeral hu rfl
          | cons c u =>
              obtain ⟨rfl, h⟩ := List.cons.inj hpoint'
              obtain ⟨rfl, -⟩ := List.append_eq_nil_iff.mp h.symm
              exact not_numeral_point hu

variable (hrest : NumberEnds rest)
include hrest

theorem givesBack_optional_digit {p : Pattern}
    (hp : ∀ u left, p.Takes before u left → Numeral u) (point : List Char) {d : Char}
    (hpoint : point = [] ∨ point = ['.']) :
    (optional p).GivesBack before [] (point ++ [d]) rest g g :=
  givesBack_optional_of_unique fun u left hsplit htakes =>
    eq_of_numeral_prefix hpoint hrest hsplit (hp u left htakes)

theorem givesBack_fraction {d : Char} (hd : Text.isDigit d = true) {f : List Char} (hne : f ≠ [])
    (hf : ∀ c ∈ f, Text.isDigit c = true) :
    (cat [char '.', digits]).GivesBack before ('.' :: f) [d] rest g g :=
  givesBack_seq_of_best (u := ['.']) best_char
    (givesBack_repeated hf hd hrest.not_digit (List.length_pos_iff.mpr hne))

/-- A number gives its last digit back. -/
theorem givesBack_optional_number (n : Unsigned) :
    (optional number).GivesBack before n.frontChars n.back.chars rest g g := by
  have hwhole : ∀ c ∈ n.whole, Text.isDigit c = true :=
    fun c hc => textIsDigit_of_isDigit (n.isDigit_whole c hc)
  have hfraction : ∀ c ∈ n.fraction, Text.isDigit c = true :=
    fun c hc => textIsDigit_of_isDigit (n.isDigit_fraction c hc)
  have hcut := n.cut
  generalize n.frontChars = s, n.back.chars = t at hcut ⊢
  cases hcut with
  | whole _ d hw hnone =>
      rw [hw] at hwhole
      have hd : Text.isDigit d = true := hwhole d (by simp)
      by_cases hne : s = []
      · rw [hne]
        exact givesBack_optional_digit hrest (fun _ _ => takes_number.mp) [] (Or.inl rfl)
      · refine givesBack_optional (givesBack_alt_left (givesBack_seq_of_empty
          (givesBack_repeated (fun c hc => hwhole c (by simp [hc])) hd hrest.not_digit
            (List.length_pos_iff.mpr hne)) ?_ (best_optional_of_refuses ?_)))
        · rintro u left hsplit (hu | rfl)
          · exact absurd hu (refuses_seq (refuses_one (hrest.ne (by decide))) u left hsplit)
          · rfl
        · refine refuses_seq (refuses_one ?_)
          rintro c hc
          obtain rfl : d = c := by simpa using hc
          rw [beq_eq_false_iff_ne]
          rintro rfl
          revert hd
          decide
  | point d hone =>
      by_cases hne : n.whole = []
      · rw [hne]
        exact givesBack_optional_digit hrest (fun _ _ => takes_number.mp) ['.'] (Or.inr rfl)
      · have hpoint (before : List Char) :
            (optional (cat [char '.', digits])).GivesBack before [] ['.', d] rest g g := by
          refine givesBack_optional_digit hrest (fun u left htakes => ?_) ['.'] (Or.inr rfl)
          have hnumber : number.Takes before u left := Or.inr htakes
          exact takes_number.mp hnumber
        rw [← List.append_nil n.whole]
        exact givesBack_optional (givesBack_alt_left (givesBack_seq_of_best
          (best_digits ⟨hne, hwhole⟩ (not_isDigit_point _)) (hpoint _)))
  | fraction f d hne hmore =>
      rw [hmore] at hfraction
      have hback (before : List Char) :
          (cat [char '.', digits]).GivesBack before ('.' :: f) [d] rest g g :=
        givesBack_fraction hrest (hfraction d (by simp)) hne fun c hc => hfraction c (by simp [hc])
      by_cases hnil : n.whole = []
      · rw [hnil]
        exact givesBack_optional (givesBack_alt_right
          (refuses_seq (refuses_oneOrMore (not_isDigit_point _))) (hback before))
      · exact givesBack_optional (givesBack_alt_left (givesBack_seq_of_best
          (best_digits ⟨hnil, hwhole⟩ (not_isDigit_point _)) (givesBack_optional (hback _))))

end GivesBack

section Borrow

/-- Only spaces stand before the next caret. -/
def CaretAhead (rest : List Char) : Prop :=
  ∃ sp left, rest = sp ++ '^' :: left ∧ ∀ c ∈ sp, c = ' '

variable {before rest : List Char} {g g' g'' : Groups}

theorem CaretAhead.numberEnds (h : CaretAhead rest) : NumberEnds rest := by
  obtain ⟨sp, left, rfl, hsp⟩ := h
  exact numberEnds_variable hsp (by decide) left

theorem ExponentAt.caretAhead {exponent : List Char} (h : ExponentAt exponent)
    (rest : List Char) : CaretAhead (exponent ++ rest) := by
  obtain ⟨a, b, b', rfl, ha, -, -⟩ := h.exists_eq
  exact ⟨a, b ++ 'x' :: b' ++ rest, by simp, ha⟩

theorem head_of_takes_base {s t : List Char} (h : base.Takes before s t) :
    ∃ c cs, s = c :: cs ∧ (Text.isDigit c = true ∨ c = '.' ∨ c = 'e') := by
  rcases h with h | ⟨c, rfl, hc⟩
  · have hnumeral := takes_number.mp h
    cases s with
    | nil => exact absurd rfl (ne_nil_of_numeral hnumeral)
    | cons c s =>
        refine ⟨c, s, rfl, ?_⟩
        rcases mem_of_numeral hnumeral c List.mem_cons_self with h | h
        · exact Or.inl h
        · exact Or.inr (Or.inl h)
  · exact ⟨c, [], rfl, Or.inr (Or.inr (by simpa using hc))⟩

theorem mem_of_takes_times {s t : List Char} (h : times.Takes before s t) :
    ∀ c ∈ s, Text.isBlank c = true ∨ c = '*' := by
  simp only [times, cat, takes_optional, takes_seq, takes_char, takes_blanks] at h
  obtain ⟨a, _, rfl, ha, b, b', rfl, hb, hb'⟩ := h
  intro c hc
  simp only [List.mem_append] at hc
  rcases hc with hc | hc | hc
  · exact Or.inl (ha c hc)
  · rcases hb with rfl | rfl
    · exact Or.inr (List.mem_singleton.mp hc)
    · cases hc
  · exact Or.inl (hb' c hc)

theorem refuses_base_of_caretAhead (h : CaretAhead rest) (i : Nat) (q : Pattern) :
    (seq times (seq (group i base) q)).Refuses before rest := by
  obtain ⟨sp, left, rfl, hsp⟩ := h
  rintro _ w hsplit ⟨s, _, rfl, hs, u, v, rfl, hu, -⟩
  obtain ⟨c, u, rfl, hc⟩ := head_of_takes_base hu
  have hall : ∀ d ∈ [' ', '^'], ¬ (Text.isDigit d = true ∨ d = '.' ∨ d = 'e') :=
    List.all_iff_forall_prop.mp (by decide)
  have hne (d : Char) (hd : d ∈ [' ', '^']) : c ≠ d := by
    rintro rfl
    exact hall c hd hc
  have heq : sp ++ '^' :: left = s ++ c :: (u ++ v ++ w) := by simpa using hsplit
  rcases List.append_eq_append_iff.mp heq with ⟨k, rfl, hk⟩ | ⟨k, rfl, hk⟩
  · cases k with
    | nil => exact hne '^' (by simp) (List.cons.inj hk).1.symm
    | cons d k =>
        obtain ⟨rfl, -⟩ := List.cons.inj hk
        exact absurd (mem_of_takes_times hs '^' (by simp)) (by decide)
  · cases k with
    | nil => exact hne '^' (by simp) (List.cons.inj hk).1
    | cons d k =>
        obtain ⟨rfl, -⟩ := List.cons.inj hk
        exact hne ' ' (by simp) (hsp c (by simp))

variable {n : Unsigned}

/-- The last digit is taken for the base, what stands before it for the factor. -/
theorem best_borrowed {p q : Pattern} {s u left : List Char} {i : Nat}
    (hp : p.GivesBack before s n.back.chars rest g g') (hrest : CaretAhead rest)
    (hsplit : rest = u ++ left)
    (hq : q.Best (before ++ s ++ n.back.chars) u left
      (g' ++ [(i, ⟨(before ++ s).length, n.back.chars⟩)]) g'') :
    (seq p (seq times (seq (group i base) q))).Best before (s ++ (n.back.chars ++ u)) left g
      g'' := by
  have hall : ∀ d ∈ '.' :: digitChars, Text.isBlank d = false ∧ (d == '*') = false :=
    List.all_iff_forall_prop.mp (by decide)
  refine best_seq_of_givesBack hp (refuses_base_of_caretAhead hrest i q)
    (best_seq (s := []) (best_times_of_head (by simp) ?_)
      (best_seq (best_group (best_base n.back ?_)) (by simpa using hq))) (by simp [hsplit])
  · exact fun c hc => hall c (n.back.head?_chars_append (u ++ left) c (by simpa using hc))
  · rw [← hsplit]
    exact hrest.numberEnds

theorem givesBack_signThen {signPart q : Pattern} {mark sp : List Char}
    (hsp : ∀ c ∈ sp, c = ' ')
    (hsign : signPart.Best before mark ((sp ++ n.frontChars) ++ (n.back.chars ++ rest)) g g)
    (hq : ∀ before, q.GivesBack before n.frontChars n.back.chars rest g g) :
    (cat [signPart, blanks, q]).GivesBack before (mark ++ (sp ++ n.frontChars)) n.back.chars rest
      g g := by
  refine givesBack_seq_of_best hsign
    (givesBack_seq_of_best (best_blanks (allBlank_of_eq_space hsp) ?_) (hq _))
  rw [← List.append_assoc, ← n.chars_eq_append]
  exact fun c hc => (head?_digits_append (t := ⟨none, some n, .constant, fun _ => rfl⟩)
    (by simp) c hc).2

theorem givesBack_coefficient (hrest : NumberEnds rest) :
    coefficient.GivesBack before n.frontChars n.back.chars rest g g := by
  change coefficient.GivesBack before ([] ++ ([] ++ n.frontChars)) n.back.chars rest g g
  refine givesBack_signThen (by simp) (best_optional_of_refuses (refuses_sign ?_)) fun before =>
    givesBack_seq_of_empty (givesBack_optional_number hrest n) ?_
      (best_optional_of_refuses (refuses_seq (refuses_one ?_)))
  · rw [List.nil_append, ← List.append_assoc, ← n.chars_eq_append]
    exact fun c hc => (head?_digits_append (t := ⟨none, some n, .constant, fun _ => rfl⟩)
      (by simp) c hc).1
  · rintro u left hsplit (hu | rfl)
    · exact absurd hu (refuses_seq (refuses_one (hrest.ne (by decide))) u left hsplit)
    · rfl
  · have hall : ∀ d ∈ '.' :: digitChars, (d == '/') = false :=
      List.all_iff_forall_prop.mp (by decide)
    exact fun c hc => hall c (n.back.head?_chars_append _ c hc)

end Borrow

end PolynomialText

end EquationTutor
