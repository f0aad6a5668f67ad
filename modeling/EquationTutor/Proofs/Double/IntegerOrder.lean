import EquationTutor.Proofs.Double.Order

open Float.Model Float.Model.UnpackedFloat

namespace EquationTutor.Double

/-- The order of natural numbers is that of their lengths first. -/
theorem le_ofNatural_iff {m n : Nat} :
    (ofNatural .positive m).le (ofNatural .positive n) = true ↔ m ≤ n := by
  by_cases hm : m = 0
  · subst hm
    by_cases hn : n = 0
    · simp [ofNatural, hn, UnpackedFloat.le, UnpackedFloat.compare]
    · simp [ofNatural, hn, UnpackedFloat.le, UnpackedFloat.compare]
  by_cases hn : n = 0
  · subst hn
    simp [ofNatural, hm, UnpackedFloat.le, UnpackedFloat.compare]
  rw [ofNatural_of_ne_zero _ hm, ofNatural_of_ne_zero _ hn, le_finite_iff]
  constructor
  · rintro (h | ⟨h, hle⟩)
    · by_contra hlt
      have := log2_mono hn (not_le.mp hlt).le
      omega
    · have hlog : m.log2 = n.log2 := by omega
      rw [hlog] at hle
      exact Nat.le_of_mul_le_mul_right hle (Nat.two_pow_pos _)
  · intro hle
    rcases (log2_mono hm hle).lt_or_eq with h | h
    · exact .inl (by omega)
    · exact .inr ⟨by rw [h], by rw [h]; exact Nat.mul_le_mul_right _ hle⟩

theorem isZero_sub_self {x : Float} (hx : x.isFinite = true) : Scalar.isZero (x - x) = true := by
  have hzero : UnpackedFloat.sub .binary64 x.toModel.unpack x.toModel.unpack = .zero .positive := by
    obtain ⟨s, hx⟩ | ⟨s, m, e, hm, hx⟩ := isFinite_iff.mp hx
    · rw [hx]
      cases s <;> rfl
    · rw [hx, sub_finite, Int.sub_self]
      rfl
  change decide ((x - x).abs < 1e-10) = true
  rw [decide_eq_true_iff, lt_tolerance_iff (m := 0)]
  rw [unpack_abs, unpack_sub, hzero, repack_zero]
  exact repack_zero _

theorem isZero_sub_of_beq {x y : Float} (hx : x.isFinite = true) (h : (x == y) = true) :
    Scalar.isZero (x - y) = true := by
  rcases eq_or_zeros_of_beq h with rfl | ⟨rfl, rfl⟩ | ⟨rfl, rfl⟩
  · exact isZero_sub_self hx
  · decide +kernel
  · decide +kernel

theorem isInteger_ofInt {n : Int} (hn : n.natAbs < 2 ^ 53) : IsInteger (Float.ofInt n) n :=
  ⟨hn, _, unpack_ofInt hn, fun _ => rfl⟩

namespace IsInteger

variable {x y : Float} {m n : Int}

theorem unique (hx : IsInteger x m) (hx' : IsInteger x n) : m = n :=
  Int.eq_of_mul_eq_mul_right (by decide) (hx.millionths_eq.symm.trans hx'.millionths_eq)

theorem beq_iff (hx : IsInteger x m) (hy : IsInteger y n) : (x == y) = true ↔ m = n := by
  obtain ⟨hn, t, hy, ht⟩ := hy
  change x.toModel.unpack.beq y.toModel.unpack = true ↔ _
  rw [hy, beq_ofNatural_iff]
  constructor
  · rintro ⟨s, hxn, hs⟩
    exact hx.unique ⟨hn, s, hxn, fun h => (hs (Int.natAbs_ne_zero.mpr h)).trans (ht h)⟩
  · rintro rfl
    obtain ⟨-, s, hx, hs⟩ := hx
    refine ⟨s, hx, fun h => ?_⟩
    rw [hs (Int.natAbs_ne_zero.mp h), ht (Int.natAbs_ne_zero.mp h)]

theorem neg (hx : IsInteger x n) : IsInteger (-x) (-n) := by
  obtain ⟨hn, s, hx, hs⟩ := hx
  by_cases hzero : n = 0
  · subst hzero
    exact ⟨hn, -s, by rw [unpack_neg, hx]; exact repack_zero _, fun h => absurd rfl h⟩
  · refine ⟨by rwa [Int.natAbs_neg], -s, ?_, fun _ => ?_⟩
    · rw [unpack_neg, hx, neg_ofNatural (Int.natAbs_ne_zero.mpr hzero), Int.natAbs_neg]
      exact unpack_pack_ofNatural _ hn
    · rw [hs hzero, signOf, signOf]
      by_cases h : n < 0
      · rw [if_pos h, if_neg (by omega)]
        rfl
      · rw [if_neg h, if_pos (by omega)]
        rfl

theorem abs_le_iff (hx : IsInteger x n) {k : Nat} (hy : y.toModel.unpack = ofNatural .positive k) :
    x.abs ≤ y ↔ n.natAbs ≤ k := by
  rw [le_iff, hx.unpack_abs, hy, le_ofNatural_iff]

theorem isIntegral_eq_true (hx : IsInteger x n) : Scalar.isIntegral x = true := by
  rw [Scalar.isIntegral, hx.nearest_eq, Bool.and_eq_true]
  exact ⟨hx.isFinite_eq_true, isZero_sub_of_beq hx.isFinite_eq_true hx.beq_ofInt⟩

end IsInteger

end EquationTutor.Double
