import EquationTutor.Proofs.Pattern.Best
import EquationTutor.Proofs.Polynomial.Layout
import EquationTutor.Proofs.Reading.Pieces

namespace EquationTutor

theorem Text.not_blank_of_isWordChar {c : Char} (h : isWordChar c = true) : isBlank c = false :=
  not_inRanges_of_apart (by decide +kernel) h

namespace Pattern

variable {p : Pattern} {ps : List Pattern} {before taken rest s t : List Char} {g g' g'' : Groups}

theorem takes_cat_cons : (cat (p :: ps)).Takes before taken rest ↔
    ∃ s t, taken = s ++ t ∧ p.Takes before s (t ++ rest) ∧ (cat ps).Takes (before ++ s) t rest := by
  cases ps with
  | nil =>
      constructor
      · intro h
        exact ⟨taken, [], (List.append_nil taken).symm, h, rfl⟩
      · rintro ⟨s, t, rfl, h, rfl⟩
        rwa [List.append_nil]
  | cons q qs => exact Iff.rfl

theorem best_cat_cons (hp : p.Best before s (t ++ rest) g g')
    (hps : (cat ps).Best (before ++ s) t rest g' g'') :
    (cat (p :: ps)).Best before (s ++ t) rest g g'' := by
  cases ps with
  | nil =>
      rw [Best, List.append_assoc] at hps ⊢
      exact hp.trans hps
  | cons q qs => exact best_seq hp hps

/-- The character without its case. The long s and the Kelvin sign are folded to letters. -/
def foldCase (c : Char) : Char :=
  if c = 'ſ' then 's' else if c = '\u212a' then 'k' else c.toLower

theorem foldCase_of_isLower {c : Char} (h : c.isLower = true) : foldCase c = c := by
  have hne {d : Char} (hd : d.isLower = false) : c ≠ d := by
    rintro rfl
    exact Bool.false_ne_true (hd.symm.trans h)
  rw [foldCase, if_neg (hne (by decide)), if_neg (hne (by decide))]
  have hletter : 'a'.val ≤ c.val := of_decide_eq_true (Bool.and_eq_true_iff.mp h).1
  exact dif_neg fun hupper => absurd (Nat.le_trans hletter hupper.2) (by decide)

theorem isVariantOf_iff {l c : Char} (hl : foldCase l = l) :
    isVariantOf l c = true ↔ foldCase c = l := by
  have hlong : foldCase 'ſ' = 's' ∧ Char.toLower 'ſ' = 'ſ' := by decide
  have hkelvin : foldCase '\u212a' = 'k' ∧ Char.toLower '\u212a' = '\u212a' := by decide
  simp only [isVariantOf, Bool.or_eq_true, Bool.and_eq_true, beq_iff_eq]
  constructor
  · rintro ((hc | ⟨rfl, rfl⟩) | ⟨rfl, rfl⟩)
    · rw [foldCase, if_neg, if_neg, hc]
      · rintro rfl
        rw [← hc, hkelvin.2, hkelvin.1] at hl
        exact absurd hl (by decide)
      · rintro rfl
        rw [← hc, hlong.2, hlong.1] at hl
        exact absurd hl (by decide)
    · exact hlong.1
    · exact hkelvin.1
  · intro h
    rw [foldCase] at h
    split at h
    · exact .inl (.inr ⟨h.symm, ‹_›⟩)
    · split at h
      · exact .inr ⟨h.symm, ‹_›⟩
      · exact .inl (.inl h)

theorem isWordChar_of_mem_range {c : Char} {r : Nat × Nat} (hr : r ∈ Text.wordRanges)
    (hc : r.1 ≤ c.toNat ∧ c.toNat ≤ r.2) : Text.isWordChar c = true :=
  List.any_eq_true.mpr ⟨r, hr, by simpa using hc⟩

theorem isWordChar_of_isAlphanum {c : Char} (h : c.isAlphanum = true) :
    Text.isWordChar c = true := by
  have hletter (h : c.isAlpha = true) : Text.isWordChar c = true := by
    rcases Bool.or_eq_true_iff.mp h with hupper | hlower
    · exact isWordChar_of_mem_range (r := (0x41, 0x5a)) (List.mem_of_getElem? (i := 1) rfl)
        (of_decide_eq_true hupper)
    · obtain ⟨hlow, hhigh⟩ := Bool.and_eq_true_iff.mp hlower
      exact isWordChar_of_mem_range (r := (0x61, 0x7a)) (List.mem_of_getElem? (i := 3) rfl)
        ⟨of_decide_eq_true hlow, of_decide_eq_true hhigh⟩
  rcases Bool.or_eq_true_iff.mp h with h | hdigit
  · exact hletter h
  · obtain ⟨hlow, hhigh⟩ := Bool.and_eq_true_iff.mp hdigit
    exact isWordChar_of_mem_range (r := (0x30, 0x39)) (List.mem_of_getElem? (i := 0) rfl)
      ⟨of_decide_eq_true hlow, of_decide_eq_true hhigh⟩

theorem isWordChar_foldCase (c : Char) : Text.isWordChar (foldCase c) = Text.isWordChar c := by
  have hranges : (0x41, 0x5a) ∈ Text.wordRanges ∧ (0x61, 0x7a) ∈ Text.wordRanges := by
    decide +kernel
  rw [foldCase]
  split
  · rename_i hc
    rw [hc]
    decide +kernel
  · split
    · rename_i hc
      rw [hc]
      decide +kernel
    · by_cases hupper : 0x41 ≤ c.toNat ∧ c.toNat ≤ 0x5a
      · have hlower : c.toLower = _ := dif_pos hupper
        rw [isWordChar_of_mem_range hranges.1 hupper, hlower]
        refine isWordChar_of_mem_range hranges.2 ?_
        obtain ⟨hlow, hhigh⟩ := hupper
        have hval : (c.val + 32).toNat = c.val.toNat + 32 := by
          have : c.val.toNat ≤ 90 := hhigh
          rw [UInt32.toNat_add]
          exact Nat.mod_eq_of_lt (by change c.val.toNat + 32 < 2 ^ 32; omega)
        change 0x61 ≤ (c.val + 32).toNat ∧ (c.val + 32).toNat ≤ 0x7a
        rw [hval]
        exact ⟨Nat.add_le_add_right hlow 32, Nat.add_le_add_right hhigh 32⟩
      · have hsame : c.toLower = c := dif_neg hupper
        rw [hsame]

theorem takes_letter {l : Char} (hl : foldCase l = l) :
    (letter l).Takes before taken rest ↔ taken.map foldCase = [l] := by
  simp [letter, isVariantOf_iff hl, List.map_eq_singleton_iff]

theorem takes_letters {ls : List Char} (hls : ∀ l ∈ ls, foldCase l = l) :
    (cat (ls.map letter)).Takes before taken rest ↔ taken.map foldCase = ls := by
  induction ls generalizing before taken with
  | nil => simp [cat, Takes]
  | cons l ls ih =>
      obtain ⟨hl, hls⟩ := List.forall_mem_cons.mp hls
      rw [List.map_cons, takes_cat_cons, ← List.singleton_append, List.map_eq_append_iff]
      simp only [takes_letter hl, ih hls]

/-- A word takes the pieces that are written like it up to case. -/
theorem takes_word {w : String} (hw : ∀ l ∈ w.toList, foldCase l = l) :
    (word w).Takes before taken rest ↔ taken.map foldCase = w.toList :=
  takes_letters hw

theorem best_letter {l c : Char} (hl : foldCase l = l) (h : foldCase c = l) :
    (letter l).Best before [c] rest g g :=
  best_one ((isVariantOf_iff hl).mpr h)

theorem best_letters {ls : List Char} (hls : ∀ l ∈ ls, foldCase l = l)
    (h : taken.map foldCase = ls) : (cat (ls.map letter)).Best before taken rest g g := by
  induction taken generalizing before ls with
  | nil =>
      obtain rfl : [] = ls := h
      simp [cat, Best, ends]
  | cons c cs ih =>
      obtain rfl : foldCase c :: cs.map foldCase = ls := h
      obtain ⟨hl, hls⟩ := List.forall_mem_cons.mp hls
      exact best_cat_cons (s := [c]) (best_letter hl rfl) (ih hls rfl)

theorem best_word {w : String} (hw : ∀ l ∈ w.toList, foldCase l = l)
    (h : taken.map foldCase = w.toList) : (word w).Best before taken rest g g :=
  best_letters hw h

end Pattern

end EquationTutor
