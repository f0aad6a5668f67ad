import EquationTutor.Proofs.Polynomial.Spelling
import EquationTutor.Proofs.RoundTrip.Numerals
import EquationTutor.Reading.Normalize

namespace EquationTutor

open PolynomialText Reading

namespace PolynomialText

/-- The characters of a text in typewriter form. -/
def typed (s : String) : List Char :=
  s.toList.flatMap plainGlyph

@[simp] theorem typed_append (s t : String) : typed (s ++ t) = typed s ++ typed t := by
  rw [typed, String.toList_append, List.flatMap_append]
  rfl

theorem Term.plainGlyph_lead (t : Term) :
    ∀ c ∈ t.mark ++ t.digits, plainGlyph c = [c] := by
  have hall : ∀ c ∈ '.' :: '+' :: '-' :: digitChars, plainGlyph c = [c] :=
    List.all_iff_forall_prop.mp (by decide)
  intro c hc
  refine hall c ?_
  rcases List.mem_append.mp hc with hc | hc
  · rcases t.mark_cases with h | h | h <;> rw [h] at hc <;> simp_all
  · cases hn : t.factor with
    | none => simp [Term.digits, hn] at hc
    | some n =>
        rw [Term.digits, hn] at hc
        rcases n.mem_chars hc with h | rfl
        · simp [mem_digits_of_isDigit h]
        · simp

theorem Term.spelled_mark {gap : Char → Bool} (t : Term) :
    Spelled gap (t.sign.toList.map fun s => [s.char]) t.mark := by
  rw [mark]
  cases t.sign <;> exact spelled_flatten _

theorem Term.spelled_digits {gap : Char → Bool} (t : Term) :
    Spelled gap (t.factor.toList.map Unsigned.chars) t.digits := by
  rw [digits]
  cases t.factor with
  | none => rfl
  | some n => exact ⟨[], [], by simp, by simp, rfl⟩

section Normalize

variable {ts : List (List Char)} {s : String}

theorem spelled_normalize_of_spaced
    (hts : ∀ t ∈ ts, t ≠ [] ∧ ∀ c ∈ t, Text.isBlank c = false ∧ c ≠ '*')
    (h : Spaced Text.isBlank ts (typed s)) :
    Spelled (· == ' ') ts (Reading.normalize s).toList := by
  have hstar : '*' ∉ s.toList := by
    intro hmem
    have htyped : '*' ∈ typed s := List.mem_flatMap.mpr ⟨'*', hmem, by decide⟩
    obtain ⟨g, rest, heq, hg, hrest⟩ := h
    rw [heq] at htyped
    have hblank : Text.isBlank '*' = false := by decide
    rcases List.mem_append.mp htyped with hc | hc
    · rw [hg _ hc] at hblank
      cases hblank
    · rcases mem_of_spelled hrest hc with hc | ⟨t, ht, hc⟩
      · rw [hc] at hblank
        cases hblank
      · exact ((hts t ht).2 _ hc).2 rfl
  obtain ⟨g, rest, heq, hg, hrest⟩ := h
  rw [Reading.normalize, String.toList_ofList, normalizeChars,
    caretForStars_of_apart fun hsub => hstar (hsub.subset List.mem_cons_self)]
  change Spelled _ ts ([' '].intercalate (Text.wordsOfChars (typed s)))
  rw [heq, wordsOfChars_append_of_blank hg]
  exact spelled_intercalate_wordsOfChars (fun t ht => (hts t ht).1)
    (fun t ht c hc => ((hts t ht).2 c hc).1) hrest

end Normalize

def Power.monomial : Power → String
  | constant => ""
  | linear => "x"
  | square => "x²"

theorem Power.typed_monomial (q : Power) : typed q.monomial = q.tokens.flatten := by
  cases q <;> decide

section Sign

variable {α : Type} [Scalar α] {x : α} (opens : Bool)

theorem termSign_of_neg (h : x < 0) : termSign opens x = if opens then "-" else " - " := by
  rw [termSign.eq_def, decide_eq_true h]
  cases opens <;> rfl

theorem termSign_of_not_neg (h : ¬ x < 0) : termSign opens x = if opens then "" else " + " := by
  rw [termSign.eq_def, decide_eq_false h]
  cases opens <;> rfl

end Sign

section Terms

variable {x : Float} {n : Int} (hx : Double.IsInteger x n)
include hx

theorem typed_shown : typed (shown x) =
    (Term.ofInt true n .constant).mark ++ (Term.ofInt true n .constant).digits := by
  rw [typed, hx.toList_shown, flatMap_plainGlyph (Term.plainGlyph_lead _)]

theorem toList_termSign (opens : Bool) (q : Power) : (termSign opens x).toList =
    if opens then (Term.ofInt opens n q).mark
    else ' ' :: ((Term.ofInt opens n q).mark ++ [' ']) := by
  rw [Term.mark_ofInt]
  by_cases h : n < 0
  · rw [termSign_of_neg opens (hx.lt_zero_iff.mpr h), if_pos h]
    cases opens <;> rfl
  · rw [termSign_of_not_neg opens (mt hx.lt_zero_iff.mp h), if_neg h]
    cases opens <;> rfl

variable (hn : n ≠ 0)
include hn

theorem toList_termBody (opens : Bool) {q : Power} {monomial : String}
    (hmonomial : monomial.isEmpty = true ↔ q = .constant) :
    (termBody x monomial).toList = (Term.ofInt opens n q).digits ++ monomial.toList := by
  have hmagnitude : (shown x.abs).toList = Nat.toDigits 10 n.natAbs := by
    have hsign : ¬ (n.natAbs : Int) < 0 := by omega
    rw [hx.abs.toList_shown, Term.mark_ofInt, if_neg hsign, Term.digits_ofInt, Int.natAbs_natCast]
    simp
  have hunit : Scalar.isZero (x.abs - Float.ofScientific 1 false 0) = true ↔ n.natAbs = 1 :=
    hx.isZero_abs_sub_one_iff hn
  rw [Term.digits_ofInt]
  change (if monomial.isEmpty = true then shown x.abs
    else if Scalar.isZero (x.abs - Float.ofScientific 1 false 0) = true then monomial
    else shown x.abs ++ monomial).toList = _
  by_cases hempty : monomial.isEmpty = true
  · have hnil : monomial = "" := by simpa using hempty
    rw [if_pos hempty, hmagnitude, if_neg (by simp [hmonomial.mp hempty]), hnil]
    simp
  · have hq : q ≠ .constant := fun h => hempty (hmonomial.mpr h)
    rw [if_neg hempty]
    by_cases hone : n.natAbs = 1
    · rw [if_pos (hunit.mpr hone), if_pos ⟨hq, hone⟩, List.nil_append]
    · rw [if_neg (mt hunit.mp hone), if_neg fun h => hone h.2, String.toList_append, hmagnitude]

/-- The sign and the factor of a term are printed in front of the monomial. -/
theorem exists_typed_term (opens : Bool) {q : Power} {monomial : String}
    (hmonomial : monomial.isEmpty = true ↔ q = .constant) :
    ∃ cs, typed (termSign opens x ++ termBody x monomial) = cs ++ typed monomial ∧
      Spaced Text.isBlank (Term.ofInt opens n q).lead cs := by
  obtain ⟨t, ht⟩ : ∃ t, Term.ofInt opens n q = t := ⟨_, rfl⟩
  have hglyph := t.plainGlyph_lead
  have hmark : t.mark.flatMap plainGlyph = t.mark :=
    flatMap_plainGlyph fun c hc => hglyph c (List.mem_append_left _ hc)
  have hdigits : t.digits.flatMap plainGlyph = t.digits :=
    flatMap_plainGlyph fun c hc => hglyph c (List.mem_append_right _ hc)
  have hspace : ∀ c ∈ [' '], Text.isBlank c = true := List.all_iff_forall_prop.mp (by decide)
  rw [typed, String.toList_append, toList_termSign hx opens q, toList_termBody hx hn opens
    hmonomial, ht]
  cases opens with
  | true =>
      refine ⟨t.mark ++ t.digits, ?_, t.spelled_mark.spaced.append t.spelled_digits.spaced⟩
      simp [typed, hmark, hdigits]
  | false =>
      have hplain : plainGlyph ' ' = [' '] := by decide
      have hspaced := (((spaced_gap hspace).append t.spelled_mark.spaced).append
        (spaced_gap hspace)).append t.spelled_digits.spaced
      refine ⟨[' '] ++ t.mark ++ [' '] ++ t.digits, ?_, by simpa [Term.lead] using hspaced⟩
      simp [typed, hmark, hdigits, hplain]

end Terms

theorem Power.isEmpty_monomial_iff (q : Power) : q.monomial.isEmpty = true ↔ q = .constant := by
  cases q <;> decide

/-- The term of an integer in a sum that has begun; there is none for zero. -/
def laterTerm (n : Int) (q : Power) : List Term :=
  if n = 0 then [] else [Term.ofInt false n q]

theorem isSome_sign_of_mem_laterTerm {n : Int} {q : Power} {t : Term} (h : t ∈ laterTerm n q) :
    t.sign.isSome = true := by
  rw [laterTerm] at h
  split at h
  · cases h
  · rw [List.mem_singleton.mp h]
    exact Term.isSome_sign_ofInt n q

/-- What is printed for the terms of a sum behind the first. -/
def typedLater (terms : List (Float × String)) : List Char :=
  typed (String.join ((terms.filter fun t => !Scalar.isZero t.1).map fun t =>
    termSign false t.1 ++ termBody t.1 t.2))

section Sum

variable {x : Float} {n : Int} (hx : Double.IsInteger x n) {ts : List (List Char)}
  {terms : List (Float × String)} (h : Spaced Text.isBlank ts (typedLater terms)) (q : Power)
include hx h

theorem spaced_typedLater_cons : Spaced Text.isBlank
    ((laterTerm n q).flatMap Term.tokens ++ ts) (typedLater ((x, q.monomial) :: terms)) := by
  by_cases hn : n = 0
  · have hzero : Scalar.isZero x = true := hx.isZero_iff.mpr hn
    rw [laterTerm, if_pos hn, typedLater, List.filter_cons_of_neg (by simp [hzero])]
    exact h
  · have hzero : Scalar.isZero x = false := Bool.eq_false_iff.mpr (mt hx.isZero_iff.mp hn)
    obtain ⟨cs, hcs, hlead⟩ := exists_typed_term hx hn false q.isEmpty_monomial_iff
    rw [laterTerm, if_neg hn, typedLater, List.filter_cons_of_pos (by simp [hzero]),
      List.map_cons, String.join_cons, typed_append, hcs, q.typed_monomial, List.flatMap_singleton,
      Term.tokens]
    exact (hlead.append (spelled_flatten _).spaced).append h

theorem spaced_shownTerms (hn : n ≠ 0) : Spaced Text.isBlank
    ((Term.ofInt true n q).tokens ++ ts) (typed (shownTerms ((x, q.monomial) :: terms))) := by
  have hzero : Scalar.isZero x = false := Bool.eq_false_iff.mpr (mt hx.isZero_iff.mp hn)
  obtain ⟨cs, hcs, hlead⟩ := exists_typed_term hx hn true q.isEmpty_monomial_iff
  rw [shownTerms, shownSum, List.filter_cons_of_pos (by simp [hzero])]
  simp only
  rw [typed_append, hcs, q.typed_monomial, Term.tokens]
  exact (hlead.append (spelled_flatten _).spaced).append h

end Sum

theorem typed_symbol (r : Relation) : typed r.symbol = r.operator.toList := by
  cases r <;> decide

theorem spaced_relation {left right : String} {s t : Side}
    (hleft : Spaced Text.isBlank s.tokens (typed left)) (r : Relation)
    (hright : Spaced Text.isBlank t.tokens (typed right)) :
    Spaced Text.isBlank (s.tokens ++ r.operator.toList :: t.tokens)
      (typed (left ++ " " ++ r.symbol ++ " " ++ right)) := by
  have hspace : Spaced Text.isBlank [] (typed " ") :=
    spaced_gap (List.all_iff_forall_prop.mp (by decide))
  have hop : Spaced Text.isBlank [r.operator.toList] (typed r.symbol) := by
    simpa [typed_symbol] using (spelled_flatten [r.operator.toList]).spaced
  simpa using (((hleft.append hspace).append hop).append hspace).append hright

end PolynomialText

end EquationTutor
