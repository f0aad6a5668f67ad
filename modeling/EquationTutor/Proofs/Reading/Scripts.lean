import EquationTutor.Proofs.Polynomial.Squares

namespace EquationTutor

namespace Pattern

def isAscii (cs : List Char) : Bool :=
  cs.all (·.toNat < 128)

theorem lt_of_isAscii {cs : List Char} (h : isAscii cs = true) : ∀ c ∈ cs, c.toNat < 128 :=
  List.all_iff_forall_prop.mp h

/-- A class with a digit outside of ASCII has the digit 0. -/
def AnyScript (accepts : Char → Bool) : Prop :=
  ∀ c, Text.isDigit c = true → 128 ≤ c.toNat → accepts c = true → accepts '0' = true

theorem anyScript_of_accepts {accepts : Char → Bool} (h : accepts '0' = true) :
    AnyScript accepts :=
  fun _ _ _ _ => h

theorem anyScript_eitherClass {first second : Char → Bool} (hfirst : AnyScript first)
    (hsecond : AnyScript second) : AnyScript (eitherClass first second) := by
  intro c hdigit hscript hc
  rw [eitherClass, Bool.or_eq_true] at hc ⊢
  exact hc.imp (hfirst c hdigit hscript) (hsecond c hdigit hscript)

theorem anyScript_beq {d : Char} (h : d.toNat < 128) : AnyScript (· == d) := by
  intro c _ hscript hc
  obtain rfl : c = d := by simpa using hc
  omega

theorem anyScript_contains {ds : List Char} (h : isAscii ds = true) :
    AnyScript ds.contains := by
  intro c _ hscript hc
  have := lt_of_isAscii h c (by simpa using hc)
  omega

theorem toLower_of_le {c : Char} (h : 128 ≤ c.toNat) : c.toLower = c := by
  refine dif_neg ?_
  rintro ⟨-, hle⟩
  have : c.toNat ≤ 90 := hle
  omega

/-- Only the long s and the Kelvin sign are variants of letters outside of ASCII. -/
theorem anyScript_isVariantOf {l : Char} (h : l.toNat < 128) : AnyScript (isVariantOf l) := by
  have hletters : Text.isDigit 'ſ' = false ∧ Text.isDigit '\u212a' = false := by decide
  intro c hdigit hscript hc
  simp only [isVariantOf, toLower_of_le hscript, Bool.or_eq_true, Bool.and_eq_true, beq_iff_eq] at hc
  rcases hc with (rfl | ⟨-, rfl⟩) | ⟨-, rfl⟩
  · omega
  · rw [hletters.1] at hdigit
    cases hdigit
  · rw [hletters.2] at hdigit
    cases hdigit

/-- All classes that a match needs are such classes. -/
def InAnyScript : Pattern → Prop
  | one accepts => AnyScript accepts
  | seq p q => p.InAnyScript ∧ q.InAnyScript
  | alt p q => p.InAnyScript ∧ q.InAnyScript
  | group _ p => p.InAnyScript
  | repeated accepts (_ + 1) _ _ => AnyScript accepts
  | _ => True

theorem InAnyScript.of_mem_needs {p : Pattern} (h : p.InAnyScript) {accepts : Char → Bool}
    (haccepts : accepts ∈ p.needs) : AnyScript accepts := by
  induction p generalizing accepts with
  | one _ =>
      obtain rfl := List.mem_singleton.mp haccepts
      exact h
  | seq p q ihp ihq =>
      rcases List.mem_append.mp haccepts with hp | hq
      · exact ihp h.1 hp
      · exact ihq h.2 hq
  | alt p q ihp ihq =>
      obtain ⟨a, ha, b, hb, rfl⟩ : ∃ a ∈ p.needs, ∃ b ∈ q.needs, eitherClass a b = accepts := by
        rw [needs, List.mem_iff_getElem] at haccepts
        obtain ⟨i, hi, rfl⟩ := haccepts
        exact ⟨_, List.getElem_mem _, _, List.getElem_mem _, List.getElem_zipWith.symm⟩
      exact anyScript_eitherClass (ihp h.1 ha) (ihq h.2 hb)
  | group _ p ih => exact ih h haccepts
  | repeated _ least _ _ =>
      cases least with
      | zero => cases haccepts
      | succ n =>
          obtain rfl := List.mem_singleton.mp haccepts
          exact h
  | empty | optional _ _ | boundary | start => cases haccepts

theorem inAnyScript_cat {ps : List Pattern} : (cat ps).InAnyScript ↔ ∀ p ∈ ps, p.InAnyScript := by
  induction ps with
  | nil => simp [cat, InAnyScript]
  | cons p ps ih =>
      cases ps with
      | nil => simp [cat]
      | cons q qs => exact (and_congr_right fun _ => ih).trans List.forall_mem_cons.symm

theorem inAnyScript_any {ps : List Pattern} : (any ps).InAnyScript ↔ ∀ p ∈ ps, p.InAnyScript := by
  induction ps with
  | nil => simp [any, InAnyScript, AnyScript]
  | cons p ps ih =>
      cases ps with
      | nil => simp [any]
      | cons q qs => exact (and_congr_right fun _ => ih).trans List.forall_mem_cons.symm

theorem inAnyScript_char {c : Char} (h : c.toNat < 128) : (char c).InAnyScript :=
  anyScript_beq h

theorem inAnyScript_anyOf {cs : List Char} (h : isAscii cs = true) : (anyOf cs).InAnyScript :=
  anyScript_contains h

theorem inAnyScript_letter {l : Char} (h : l.toNat < 128) : (letter l).InAnyScript :=
  anyScript_isVariantOf h

theorem inAnyScript_word {s : String} (h : isAscii s.toList = true) : (word s).InAnyScript := by
  rw [word, inAnyScript_cat, List.forall_mem_map]
  exact fun l hl => inAnyScript_letter (lt_of_isAscii h l hl)

theorem inAnyScript_text {s : String} (h : isAscii s.toList = true) : (text s).InAnyScript := by
  rw [text, inAnyScript_cat, List.forall_mem_map]
  exact fun c hc => inAnyScript_char (lt_of_isAscii h c hc)

theorem inAnyScript_many (accepts : Char → Bool) : (many accepts).InAnyScript :=
  trivial

theorem inAnyScript_blanks1 : blanks1.InAnyScript := by
  intro c hdigit _ hblank
  rw [Text.not_blank_of_isDigit hdigit] at hblank
  cases hblank

theorem inAnyScript_phrase {ws : List String} (h : ws.all (isAscii ·.toList) = true) :
    (phrase ws).InAnyScript := by
  induction ws with
  | nil => trivial
  | cons w ws ih =>
      rw [List.all_cons, Bool.and_eq_true] at h
      cases ws with
      | nil => exact inAnyScript_word h.1
      | cons v vs => exact ⟨inAnyScript_word h.1, inAnyScript_blanks1, ih h.2⟩

end Pattern

open PolynomialText Pattern

namespace Reading

theorem inAnyScript_of_mem_recognizers (kind : Kind) :
    ∀ p ∈ recognizers kind, p.InAnyScript := by
  cases kind <;>
    simp (disch := decide) only [recognizers, List.map_cons, List.map_nil, List.forall_mem_cons,
      List.not_mem_nil, false_implies, implies_true, and_true, inAnyScript_cat, inAnyScript_any,
      inAnyScript_char, inAnyScript_anyOf, inAnyScript_letter, inAnyScript_word, inAnyScript_text,
      inAnyScript_many, inAnyScript_blanks1, inAnyScript_phrase, InAnyScript, anyScript_of_accepts,
      blanks, manyExcept, manyInLine, sign, times, equals, orderSign, inequalitySign, squared,
      exponentOpening, exponentX, exponentTwoX, argument, functionHead, heightHead, anyWord,
      sOrZ, wholly]

theorem mem_digitChars_of_lt {c : Char} (h : Text.isDigit c = true) (hc : c.toNat < 128) :
    c ∈ digitChars := by
  have hfirst : ∀ r ∈ Text.digitRanges, r.1 < 128 → r = (48, 57) := by
    decide
  simp only [Text.isDigit, Text.inRanges, List.any_eq_true, Bool.and_eq_true,
    decide_eq_true_eq] at h
  obtain ⟨r, hr, hlow, hhigh⟩ := h
  obtain rfl := hfirst r hr (by omega)
  refine mem_digits_of_isDigit ?_
  simpa [Char.isDigit, UInt32.le_iff_toNat_le] using ⟨hlow, hhigh⟩

theorem not_within_of_lacks_digits {kind : Kind} {p : Pattern} (hp : p ∈ recognizers kind)
    {alphabet : List Char} (hdigits : digitChars ⊆ alphabet) (h : p.lacks alphabet = true)
    {cs : List Char} (hcs : ∀ c ∈ cs, c ∈ alphabet ∨ Text.isDigit c = true) : ¬ p.Within cs := by
  intro hwithin
  obtain ⟨accepts, haccepts, hnone⟩ := exists_mem_needs_of_lacks h
  obtain ⟨c, hc, hac⟩ := exists_mem_of_within hwithin haccepts
  have hzero : accepts '0' = false := hnone '0' (hdigits (by decide))
  rcases hcs c hc with hmem | hdigit
  · rw [hnone c hmem] at hac
    cases hac
  · by_cases hascii : c.toNat < 128
    · rw [hnone c (hdigits (mem_digitChars_of_lt hdigit hascii))] at hac
      cases hac
    · have hany := (inAnyScript_of_mem_recognizers kind p hp).of_mem_needs haccepts
      rw [hany c hdigit (by omega) hac] at hzero
      cases hzero

end Reading

end EquationTutor
