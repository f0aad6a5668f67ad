import EquationTutor.Proofs.Double.IntegerOrder
import EquationTutor.Proofs.Double.Linear

open Float.Model Float.Model.UnpackedFloat

namespace EquationTutor.Double

theorem signOf_mul {m n : Int} (hm : m ≠ 0) (hn : n ≠ 0) :
    signOf m * signOf n = signOf (m * n) := by
  rcases lt_or_gt_of_ne hm with hm' | hm' <;> rcases lt_or_gt_of_ne hn with hn' | hn'
  · rw [signOf, signOf, signOf, if_pos hm', if_pos hn', if_neg (mul_pos_of_neg_of_neg hm' hn').not_gt]
    rfl
  · rw [signOf, signOf, signOf, if_pos hm', if_neg hn'.not_gt, if_pos (mul_neg_of_neg_of_pos hm' hn')]
    rfl
  · rw [signOf, signOf, signOf, if_neg hm'.not_gt, if_pos hn', if_pos (mul_neg_of_pos_of_neg hm' hn')]
    rfl
  · rw [signOf, signOf, signOf, if_neg hm'.not_gt, if_neg hn'.not_gt, if_neg (mul_pos hm' hn').not_gt]
    rfl

theorem apply_signOf (n : Int) (k : Nat) :
    (signOf n).apply ((n.natAbs * 2 ^ k : Nat) : Int) = n * 2 ^ k := by
  by_cases h : n < 0
  · rw [signOf, if_pos h]
    change -((n.natAbs * 2 ^ k : Nat) : Int) = _
    push_cast
    rw [abs_of_neg h, neg_mul, neg_neg]
  · rw [signOf, if_neg h]
    change ((n.natAbs * 2 ^ k : Nat) : Int) = _
    push_cast
    rw [abs_of_nonneg (not_lt.mp h)]

theorem normalize_mul_two_pow {n : Int} (hn : n.natAbs < 2 ^ 53) (k : Nat) :
    UnpackedFloat.normalize .binary64 (n * 2 ^ k) (-k) .positive =
      ofNatural (signOf n) n.natAbs := by
  by_cases hzero : n = 0
  · subst hzero
    rw [zero_mul]
    rfl
  have hpow : (0 : Int) < 2 ^ k := by positivity
  obtain ⟨s, hs, hpositive⟩ :=
    normalize_of_ne_zero (e := -k) (z := .positive) (mul_ne_zero hzero hpow.ne')
  have hsign : s = signOf n := by
    rw [mul_pos_iff_of_pos_right hpow] at hpositive
    by_cases h : n < 0
    · rw [signOf, if_pos h]
      cases s with
      | negative => rfl
      | positive => exact absurd (hpositive.mp rfl) h.not_gt
    · rw [signOf, if_neg h]
      exact hpositive.mpr (lt_of_le_of_ne (not_lt.mp h) (Ne.symm hzero))
  rw [hs, hsign, Int.natAbs_mul, Int.natAbs_pow]
  exact round_mul_two_pow (Int.natAbs_ne_zero.mpr hzero) hn _ k

theorem signOf_div {m n : Int} (hm : m ≠ 0) (hn : n ≠ 0) :
    signOf (m * n) / signOf n = signOf m := by
  rw [← signOf_mul hm hn]
  generalize signOf m = s
  generalize signOf n = t
  cases s <;> cases t <;> rfl

theorem divCore_mul {m n : Nat} (hm : m ≠ 0) (hn : n ≠ 0) (hmn : m * n < 2 ^ 53)
    (hlt : n < 2 ^ 53) : ∃ k : Nat, 52 ≤ m.log2 + k ∧
      divCore .binary64 (m * n * 2 ^ (52 - (m * n).log2)) (((m * n).log2 : Int) - 52)
        (n * 2 ^ (52 - n.log2)) ((n.log2 : Int) - 52) = (m * 2 ^ k, -(k : Int), .exact) := by
  have hlog := log2_mul_le hm hn
  have hlogmn := log2_le hmn
  have hlogn := log2_le hlt
  obtain ⟨k, hk⟩ : ∃ k : Nat, (k : Int) = n.log2 + 53 - (m * n).log2 :=
    ⟨n.log2 + 53 - (m * n).log2, by omega⟩
  refine ⟨k, by omega, ?_⟩
  have hscaled : m * n * 2 ^ (52 - (m * n).log2) * 2 ^ 53 = m * 2 ^ k * (n * 2 ^ (52 - n.log2)) := by
    have hpow : (2 : Nat) ^ (52 - (m * n).log2) * 2 ^ 53 = 2 ^ k * 2 ^ (52 - n.log2) := by
      rw [← pow_add, ← pow_add]
      congr 1
      omega
    calc
      _ = m * n * (2 ^ (52 - (m * n).log2) * 2 ^ 53) := by ring
      _ = _ := by rw [hpow]; ring
  have hlogx : (m * n * 2 ^ (52 - (m * n).log2)).log2 = 52 := by
    rw [log2_mul_two_pow (Nat.mul_ne_zero hm hn)]
    omega
  have hlogy : (n * 2 ^ (52 - n.log2)).log2 = 52 := by
    rw [log2_mul_two_pow hn]
    omega
  have hpos : 0 < n * 2 ^ (52 - n.log2) := Nat.mul_pos (Nat.pos_of_ne_zero hn) (Nat.two_pow_pos _)
  obtain ⟨target, shift, htarget, hshift, hq⟩ :=
    divCore_eq (m * n * 2 ^ (52 - (m * n).log2)) (n * 2 ^ (52 - n.log2))
      (((m * n).log2 : Int) - 52) ((n.log2 : Int) - 52)
  rw [hlogx, hlogy] at htarget
  obtain rfl : target = -k := by omega
  obtain rfl : shift = 53 := by omega
  rw [hq, hscaled, Nat.mul_div_cancel _ hpos, Nat.mul_mod_left]
  rfl

theorem isBelow_of_isZero {x : Float} (h : Scalar.isZero x = true) : IsBelow (-33) x := by
  obtain ⟨t, ht, htolerance, hlog⟩ := exists_unpack_tolerance_normal
  have hsmall : x.abs < 1e-10 := of_decide_eq_true h
  have hbelow : IsBelow (-33) (1e-10 : Float) := by
    unfold IsBelow
    rw [htolerance]
    change (t.log2 : Int) + -86 < -33
    omega
  exact hbelow.of_abs_le (isFinite_of_abs_lt hsmall) (lt_imp_le hsmall)

namespace IsInteger

variable {x y : Float} {m n : Int}

theorem exists_unpack_zero (hx : IsInteger x 0) : ∃ s, x.toModel.unpack = .zero s := by
  obtain ⟨-, s, hx, -⟩ := hx
  exact ⟨s, hx⟩

theorem unpack_eq (hx : IsInteger x n) (hn : n ≠ 0) :
    x.toModel.unpack = .finite (signOf n) (n.natAbs * 2 ^ (52 - n.natAbs.log2))
      ((n.natAbs.log2 : Int) - 52) (Nat.mul_pos (Int.natAbs_pos.mpr hn) (Nat.two_pow_pos _)) := by
  obtain ⟨-, s, hx, hs⟩ := hx
  rw [hx, ofNatural_of_ne_zero s (Int.natAbs_ne_zero.mpr hn), hs hn]

theorem of_repack {s : Sign} (hn : n.natAbs < 2 ^ 53)
    (hx : x.toModel.unpack = repack (ofNatural s n.natAbs)) (hs : n ≠ 0 → s = signOf n) :
    IsInteger x n :=
  ⟨hn, s, hx.trans (unpack_pack_ofNatural s hn), hs⟩

theorem of_zero {s : Sign} (hx : x.toModel.unpack = repack (.zero s)) : IsInteger x 0 :=
  of_repack (by decide) hx fun h => absurd rfl h

theorem of_unpack_eq (hy : IsInteger y n) (hx : x.toModel.unpack = y.toModel.unpack) :
    IsInteger x n := by
  obtain ⟨hn, s, hy, hs⟩ := hy
  exact ⟨hn, s, hx.trans hy, hs⟩

theorem mul_of_ne_zero (hx : IsInteger x m) (hy : IsInteger y n) (hm : m ≠ 0) (hn : n ≠ 0)
    (h : (m * n).natAbs < 2 ^ 53) : IsInteger (x * y) (m * n) := by
  have hunpack := unpack_mul x y
  have hlogm := log2_le hx.natAbs_lt
  have hlogn := log2_le hy.natAbs_lt
  have hlog := log2_mul_le (Int.natAbs_ne_zero.mpr hm) (Int.natAbs_ne_zero.mpr hn)
  have hmantissa : m.natAbs * 2 ^ (52 - m.natAbs.log2) * (n.natAbs * 2 ^ (52 - n.natAbs.log2)) =
      (m * n).natAbs * 2 ^ (52 - m.natAbs.log2 + (52 - n.natAbs.log2)) := by
    rw [Int.natAbs_mul, pow_add]
    ring
  have hexponent : (m.natAbs.log2 : Int) - 52 + ((n.natAbs.log2 : Int) - 52) =
      -((52 - m.natAbs.log2 + (52 - n.natAbs.log2) : Nat) : Int) := by
    omega
  rw [hx.unpack_eq hm, hy.unpack_eq hn, UnpackedFloat.mul, signOf_mul hm hn] at hunpack
  simp only [hmantissa, hexponent] at hunpack
  rw [roundWithAccuracy_mul_two_pow (Int.natAbs_ne_zero.mpr (mul_ne_zero hm hn)) h] at hunpack
  · exact of_repack h hunpack fun _ => rfl
  · rw [Int.natAbs_mul]
    omega

theorem mul (hx : IsInteger x m) (hy : IsInteger y n) (h : (m * n).natAbs < 2 ^ 53) :
    IsInteger (x * y) (m * n) := by
  have hunpack := unpack_mul x y
  by_cases hm : m = 0
  · subst hm
    obtain ⟨s, hx⟩ := hx.exists_unpack_zero
    rw [zero_mul]
    by_cases hn : n = 0
    · subst hn
      obtain ⟨t, hy⟩ := hy.exists_unpack_zero
      rw [hx, hy] at hunpack
      exact of_zero hunpack
    · rw [hx, hy.unpack_eq hn] at hunpack
      exact of_zero hunpack
  by_cases hn : n = 0
  · subst hn
    obtain ⟨t, hy⟩ := hy.exists_unpack_zero
    rw [mul_zero]
    rw [hx.unpack_eq hm, hy] at hunpack
    exact of_zero hunpack
  exact hx.mul_of_ne_zero hy hm hn h

theorem exists_sub_eq (hx : IsInteger x m) (hy : IsInteger y n) (hm : m ≠ 0) (hn : n ≠ 0) :
    ∃ k : Nat, UnpackedFloat.sub .binary64 x.toModel.unpack y.toModel.unpack =
      UnpackedFloat.normalize .binary64 ((m - n) * 2 ^ k) (-k) .positive := by
  have hlogm := log2_le hx.natAbs_lt
  have hlogn := log2_le hy.natAbs_lt
  obtain ⟨k, hk⟩ : ∃ k : Nat,
      min ((m.natAbs.log2 : Int) - 52) ((n.natAbs.log2 : Int) - 52) = -k :=
    ⟨52 - min m.natAbs.log2 n.natAbs.log2, by omega⟩
  have hshift (l : Nat) (hl : l ≤ 52) (hlk : -(k : Int) ≤ (l : Int) - 52) :
      52 - l + ((l : Int) - 52 - -k).toNat = k := by
    omega
  refine ⟨k, ?_⟩
  rw [hx.unpack_eq hm, hy.unpack_eq hn, sub_finite, hk]
  simp only [decreaseExponent, Nat.shiftLeft_eq, mul_assoc, ← pow_add]
  rw [hshift _ hlogm (by omega), hshift _ hlogn (by omega), apply_signOf, apply_signOf, sub_mul]

theorem sub (hx : IsInteger x m) (hy : IsInteger y n) (h : (m - n).natAbs < 2 ^ 53) :
    IsInteger (x - y) (m - n) := by
  have hunpack := unpack_sub x y
  by_cases hm : m = 0
  · subst hm
    obtain ⟨s, hx⟩ := hx.exists_unpack_zero
    rw [zero_sub]
    by_cases hn : n = 0
    · subst hn
      obtain ⟨t, hy⟩ := hy.exists_unpack_zero
      rw [hx, hy] at hunpack
      cases s <;> cases t <;> exact of_zero hunpack
    · refine hy.neg.of_unpack_eq (hunpack.trans ?_)
      rw [unpack_neg, hx, hy.unpack_eq hn]
      rfl
  by_cases hn : n = 0
  · subst hn
    obtain ⟨t, hy⟩ := hy.exists_unpack_zero
    rw [sub_zero]
    refine of_repack hx.natAbs_lt (hunpack.trans (congrArg repack ?_)) fun _ => rfl
    rw [hx.unpack_eq hm, hy, ofNatural_of_ne_zero _ (Int.natAbs_ne_zero.mpr hm)]
    rfl
  obtain ⟨k, hk⟩ := hx.exists_sub_eq hy hm hn
  rw [hk, normalize_mul_two_pow h] at hunpack
  exact of_repack h hunpack fun _ => rfl

theorem isAbove_sub (hx : IsInteger x m) (hy : IsInteger y n) (hm : m ≠ 0) (hn : n ≠ 0)
    (hne : m ≠ n) : IsAbove 0 (x - y) := by
  obtain ⟨k, hk⟩ := hx.exists_sub_eq hy hm hn
  have hdifference : m - n ≠ 0 := sub_ne_zero.mpr hne
  have hlog : (((m - n) * 2 ^ k).natAbs.log2 : Int) = (m - n).natAbs.log2 + k := by
    rw [Int.natAbs_mul, Int.natAbs_pow]
    exact_mod_cast log2_mul_two_pow (Int.natAbs_ne_zero.mpr hdifference) k
  have habove : Above 0 (UnpackedFloat.normalize .binary64 ((m - n) * 2 ^ k) (-k) .positive) :=
    above_normalize (mul_ne_zero hdifference (by positivity)) (by omega) (by decide)
  unfold IsAbove
  rw [unpack_sub, hk]
  exact above_repack canonical_normalize habove

theorem isZero_sub_iff (hx : IsInteger x m) (hy : IsInteger y n) :
    Scalar.isZero (x - y) = true ↔ m = n := by
  by_cases hlt : (m - n).natAbs < 2 ^ 53
  · rw [(hx.sub hy hlt).isZero_iff, sub_eq_zero]
  have hm := hx.natAbs_lt
  have hn := hy.natAbs_lt
  have hne : m ≠ n := by omega
  have habove := hx.isAbove_sub hy (by omega) (by omega) hne
  exact iff_of_false
    (fun hzero => habove.not_isBelow (by decide) (isBelow_of_isZero hzero)) hne

theorem div (hx : IsInteger x (m * n)) (hy : IsInteger y n) (hn : n ≠ 0) :
    IsInteger (x / y) m := by
  have hunpack := unpack_div x y
  by_cases hm : m = 0
  · subst hm
    rw [zero_mul] at hx
    obtain ⟨s, hx⟩ := hx.exists_unpack_zero
    rw [hx, hy.unpack_eq hn] at hunpack
    exact of_zero hunpack
  have hlt := hx.natAbs_lt
  rw [hx.unpack_eq (mul_ne_zero hm hn), hy.unpack_eq hn, div_finite, signOf_div hm hn]
    at hunpack
  rw [Int.natAbs_mul] at hlt
  obtain ⟨k, hk, hcore⟩ := divCore_mul (Int.natAbs_ne_zero.mpr hm) (Int.natAbs_ne_zero.mpr hn)
    hlt hy.natAbs_lt
  have hm' : m.natAbs < 2 ^ 53 :=
    lt_of_le_of_lt (Nat.le_mul_of_pos_right _ (Int.natAbs_pos.mpr hn)) hlt
  simp only [Int.natAbs_mul, hcore] at hunpack
  rw [roundWithAccuracy_mul_two_pow (Int.natAbs_ne_zero.mpr hm) hm' _ hk] at hunpack
  exact of_repack hm' hunpack fun _ => rfl

end IsInteger

end EquationTutor.Double
