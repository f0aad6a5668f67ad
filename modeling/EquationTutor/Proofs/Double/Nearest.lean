import EquationTutor.Proofs.Double.Linear
/-!
Rounding to the nearest number with ties to even, as it is carried out on mantissas and their
bits for sums and quotients. The greatest exponent is left to packing.
-/

open Float.Model Float.Model.UnpackedFloat

namespace EquationTutor.Double

section Representable

/-- A number of at most 53 bits above the least exponent. There is no greatest exponent. -/
def Representable (q : ℚ) : Prop :=
  ∃ k f : ℤ, |k| < 2 ^ 53 ∧ -1074 ≤ f ∧ q = k * 2 ^ f

/-- A number that one bit less is enough for: the last of its bits is 0. -/
def IsEven (q : ℚ) : Prop :=
  ∃ k f : ℤ, |k| < 2 ^ 52 ∧ -1073 ≤ f ∧ q = k * 2 ^ f

/-- A representable number nearest to `x`, and even if another one is as near. -/
structure IsRounding (q x : ℚ) : Prop where
  representable : Representable q
  le : ∀ y, Representable y → |q - x| ≤ |y - x|
  isEven : ∀ y, Representable y → y ≠ q → |q - x| = |y - x| → IsEven q

variable {q x y : ℚ}

theorem mul_zpow_eq (k : ℤ) {e f : ℤ} (h : e ≤ f) :
    (k : ℚ) * 2 ^ f = (k * 2 ^ (f - e).toNat : ℤ) * 2 ^ e := by
  rw [Int.cast_mul, mul_assoc, Int.cast_pow, Int.cast_ofNat, ← zpow_natCast,
    ← zpow_add₀ two_ne_zero, Int.toNat_of_nonneg (by omega), sub_add_cancel]

theorem representable_zero : Representable 0 :=
  ⟨0, 0, by decide, by decide, by simp⟩

theorem Representable.neg (h : Representable q) : Representable (-q) := by
  obtain ⟨k, f, hk, hf, rfl⟩ := h
  exact ⟨-k, f, by rwa [abs_neg], hf, by push_cast; ring⟩

theorem Representable.two_mul (h : Representable q) : Representable (2 * q) := by
  obtain ⟨k, f, hk, hf, rfl⟩ := h
  exact ⟨k, f + 1, hk, by omega, by rw [zpow_add_one₀ two_ne_zero]; ring⟩

theorem representable_of_abs_le {n f : ℤ} (hn : |n| ≤ 2 ^ 53) (hf : -1074 ≤ f) :
    Representable (n * 2 ^ f) := by
  rcases hn.lt_or_eq with hlt | heq
  · exact ⟨n, f, hlt, hf, rfl⟩
  · have hpower : Representable ((2 : ℚ) ^ 53 * 2 ^ f) :=
      ⟨2 ^ 52, f + 1, by norm_num, by omega, by rw [zpow_add_one₀ two_ne_zero]; push_cast; ring⟩
    rcases (abs_eq (by positivity)).mp heq with rfl | rfl
    · exact_mod_cast hpower
    · have := hpower.neg
      push_cast
      rwa [neg_mul]

theorem representable_intCast {n : ℤ} (hn : |n| ≤ 2 ^ 53) : Representable n := by
  simpa using representable_of_abs_le hn (f := 0) (by decide)

theorem IsEven.neg (h : IsEven q) : IsEven (-q) := by
  obtain ⟨k, f, hk, hf, rfl⟩ := h
  exact ⟨-k, f, by rwa [abs_neg], hf, by push_cast; ring⟩

theorem isEven_of_abs_le {n f : ℤ} (hn : |n| ≤ 2 ^ 53) (heven : n % 2 = 0) (hf : -1074 ≤ f) :
    IsEven (n * 2 ^ f) := by
  obtain ⟨k, rfl⟩ : ∃ k, n = 2 * k := ⟨n / 2, by omega⟩
  have hk : |k| ≤ 2 ^ 52 := by
    rw [abs_mul, abs_two] at hn
    omega
  rcases hk.lt_or_eq with hlt | heq
  · exact ⟨k, f + 1, hlt, by omega, by rw [zpow_add_one₀ two_ne_zero]; push_cast; ring⟩
  · have hpower : IsEven ((2 : ℚ) ^ 53 * 2 ^ f) :=
      ⟨2 ^ 51, f + 2, by norm_num, by omega, by rw [zpow_add₀ two_ne_zero]; norm_num; ring⟩
    rcases (abs_eq (by positivity)).mp heq with rfl | rfl
    · exact_mod_cast hpower
    · have := hpower.neg
      push_cast
      rwa [← neg_mul] at this

theorem Representable.isRounding (h : Representable q) : IsRounding q q := by
  refine ⟨h, fun y _ => ?_, fun y _ hne heq => ?_⟩
  · rw [sub_self, abs_zero]
    exact abs_nonneg _
  · rw [sub_self, abs_zero, eq_comm, abs_eq_zero, sub_eq_zero] at heq
    exact absurd heq hne

namespace IsRounding

theorem neg (h : IsRounding q x) : IsRounding (-q) (-x) := by
  have hmirror (y : ℚ) : |-y - x| = |y - -x| := by
    rw [← abs_neg]
    congr 1
    ring
  refine ⟨h.representable.neg, fun y hy => ?_, fun y hy hne heq => ?_⟩
  · rw [← hmirror, ← hmirror, neg_neg]
    exact h.le (-y) hy.neg
  · rw [← hmirror, ← hmirror, neg_neg] at heq
    exact (h.isEven (-y) hy.neg (fun hyq => hne (neg_eq_iff_eq_neg.mp hyq)) heq).neg

theorem eq_of_representable (h : IsRounding q x) (hx : Representable x) : q = x := by
  have hle := h.le x hx
  rw [sub_self, abs_zero] at hle
  exact sub_eq_zero.mp (abs_nonpos_iff.mp hle)

theorem le_of_le (h : IsRounding q x) (hy : Representable y) (hyx : y ≤ x) : y ≤ q := by
  by_contra hqy
  have hle := h.le y hy
  rw [abs_of_nonpos (by linarith), abs_of_nonpos (by linarith)] at hle
  linarith

theorem ge_of_ge (h : IsRounding q x) (hy : Representable y) (hxy : x ≤ y) : q ≤ y :=
  neg_le_neg_iff.mp (h.neg.le_of_le hy.neg (neg_le_neg hxy))

end IsRounding

/-- An integer within a half of `x` is nearest to it, and only in the middle between two
integers another one is as near. -/
theorem abs_sub_le_of_half {r : ℤ} (h : |r - x| ≤ 1 / 2) (n : ℤ) :
    |r - x| ≤ |n - x| ∧ ((n : ℚ) ≠ r → |r - x| = |n - x| → |r - x| = 1 / 2) := by
  by_cases hn : n = r
  · rw [hn]
    exact ⟨le_rfl, fun hne => absurd rfl hne⟩
  · have hone : (1 : ℚ) ≤ |(n : ℚ) - r| := by
      exact_mod_cast Int.one_le_abs (sub_ne_zero.mpr hn)
    have htriangle := abs_sub_le (n : ℚ) x r
    rw [abs_sub_comm x] at htriangle
    exact ⟨by linarith, fun _ heq => by linarith⟩

theorem abs_sub_le_of_half_of_le {r n : ℤ} (h : |r - x| ≤ 1 / 2) (hyn : y ≤ n)
    (hnx : n ≤ x) : |r - x| ≤ |y - x| ∧ (y ≠ r → |r - x| = |y - x| → |r - x| = 1 / 2) := by
  obtain ⟨hle, htie⟩ := abs_sub_le_of_half h n
  have hn : |(n : ℚ) - x| = x - n := by rw [abs_sub_comm, abs_of_nonneg (by linarith)]
  have hy : |y - x| = x - y := by rw [abs_sub_comm, abs_of_nonneg (by linarith)]
  refine ⟨by linarith, fun hne heq => htie (fun hnr => hne ?_) (by linarith)⟩
  linarith

end Representable

section Mantissas

/-- The bits behind the mantissa tell where `x` lies above it. -/
def StandsFor : ExtendedMantissa → ℚ → Prop
  | ⟨m, false, false⟩, x => x = m
  | ⟨m, false, true⟩, x => m < x ∧ x < m + 1 / 2
  | ⟨m, true, false⟩, x => x = m + 1 / 2
  | ⟨m, true, true⟩, x => m + 1 / 2 < x ∧ x < m + 1

variable {em : ExtendedMantissa} {m : Nat} {e : Int} {a : Accuracy} {x : ℚ}

theorem StandsFor.shiftRightOne (h : StandsFor em x) : StandsFor em.shiftRightOne (x / 2) := by
  obtain ⟨m, roundBit, stickyBit⟩ := em
  obtain ⟨k, rfl | rfl⟩ : ∃ k, m = 2 * k ∨ m = 2 * k + 1 := ⟨m / 2, by omega⟩
  · have hhalf : 2 * k / 2 = k := by omega
    have hbit : (2 * k % 2 != 0) = false := by simp
    rw [ExtendedMantissa.shiftRightOne, hhalf, hbit]
    cases roundBit <;> cases stickyBit <;>
      simp only [StandsFor, Bool.or_false, Bool.or_true] at h ⊢ <;> push_cast at h <;>
      first | linarith | (constructor <;> linarith)
  · have hhalf : (2 * k + 1) / 2 = k := by omega
    have hbit : ((2 * k + 1) % 2 != 0) = true := by simp
    rw [ExtendedMantissa.shiftRightOne, hhalf, hbit]
    cases roundBit <;> cases stickyBit <;>
      simp only [StandsFor, Bool.or_false, Bool.or_true] at h ⊢ <;> push_cast at h <;>
      first | linarith | (constructor <;> linarith)

theorem StandsFor.shiftRight (h : StandsFor em x) (k : Nat) :
    StandsFor (em >>> k) (x / 2 ^ k) := by
  induction k with
  | zero => simpa [HShiftRight.hShiftRight, Nat.repeat] using h
  | succ k ih =>
      change StandsFor (em >>> k).shiftRightOne _
      rw [pow_succ, ← div_div]
      exact ih.shiftRightOne

theorem StandsFor.abs_roundedMantissa_sub_le (h : StandsFor em x) :
    |(em.roundedMantissa : ℚ) - x| ≤ 1 / 2 := by
  obtain ⟨m, roundBit, stickyBit⟩ := em
  rw [abs_le, ExtendedMantissa.roundedMantissa]
  cases roundBit <;> cases stickyBit <;>
    simp only [StandsFor, ExtendedMantissa.accuracy, Accuracy.roundToNearestEven] at h ⊢
  · constructor <;> linarith
  · constructor <;> linarith
  · rcases Nat.mod_two_eq_zero_or_one m with hm | hm <;> rw [hm] <;> push_cast <;>
      constructor <;> linarith
  · push_cast
    constructor <;> linarith

theorem StandsFor.roundedMantissa_mod_two (h : StandsFor em x)
    (hhalf : |(em.roundedMantissa : ℚ) - x| = 1 / 2) : em.roundedMantissa % 2 = 0 := by
  obtain ⟨m, roundBit, stickyBit⟩ := em
  rw [ExtendedMantissa.roundedMantissa] at hhalf ⊢
  cases roundBit <;> cases stickyBit <;>
    simp only [StandsFor, ExtendedMantissa.accuracy, Accuracy.roundToNearestEven] at h hhalf ⊢
  · rw [h, sub_self, abs_zero] at hhalf
    norm_num at hhalf
  · rw [abs_of_nonpos (by linarith)] at hhalf
    linarith
  · omega
  · push_cast at hhalf
    rw [abs_of_nonneg (by linarith)] at hhalf
    linarith

theorem StandsFor.mantissa_le (h : StandsFor em x) : (em.mantissa : ℚ) ≤ x := by
  obtain ⟨m, roundBit, stickyBit⟩ := em
  cases roundBit <;> cases stickyBit <;> simp only [StandsFor] at h ⊢ <;> linarith

theorem standsFor_exact (m : Nat) :
    StandsFor (ExtendedMantissa.ofMantissaAndAccuracy m .exact) m :=
  rfl

theorem standsFor_fraction {num den : Nat} (h : num < den) (m : Nat) :
    StandsFor (ExtendedMantissa.ofMantissaAndAccuracy m (accuracyOfFraction num den))
      (m + num / den) := by
  have hden : (0 : ℚ) < den := by exact_mod_cast Nat.zero_lt_of_lt h
  rw [accuracyOfFraction]
  split
  · rename_i hzero
    rw [hzero, Nat.cast_zero, zero_div, add_zero]
    exact standsFor_exact m
  · rename_i hzero
    have hpos : (0 : ℚ) < num / den := div_pos (by exact_mod_cast Nat.pos_of_ne_zero hzero) hden
    rcases lt_trichotomy (2 * num) den with hlt | heq | hgt
    · have hhalf : (num : ℚ) / den < 1 / 2 := by
        rw [div_lt_div_iff₀ hden two_pos]
        exact_mod_cast (by omega : num * 2 < 1 * den)
      rw [Nat.compare_eq_lt.mpr hlt]
      exact ⟨by linarith, by linarith⟩
    · have hhalf : (num : ℚ) / den = 1 / 2 := by
        rw [div_eq_div_iff hden.ne' two_ne_zero]
        exact_mod_cast (by omega : num * 2 = 1 * den)
      rw [Nat.compare_eq_eq.mpr heq, hhalf]
      exact rfl
    · have hhalf : (1 : ℚ) / 2 < num / den := by
        rw [div_lt_div_iff₀ two_pos hden]
        exact_mod_cast (by omega : 1 * den < num * 2)
      have hone : (num : ℚ) / den < 1 := (div_lt_one hden).mpr (by exact_mod_cast h)
      rw [Nat.compare_eq_gt.mpr hgt]
      exact ⟨by linarith, by linarith⟩

theorem mul_zpow_le {k f : ℤ} (hk : |k| < 2 ^ 53) (hf : f < 0) : (k : ℚ) * 2 ^ f ≤ 2 ^ 52 := by
  have hkq : (k : ℚ) ≤ 2 ^ 53 := by exact_mod_cast (abs_lt.mp hk).2.le
  have hunit : (2 : ℚ) ^ f ≤ 2 ^ (-1 : ℤ) := zpow_le_zpow_right₀ one_le_two (by omega)
  calc
    (k : ℚ) * 2 ^ f ≤ 2 ^ 53 * 2 ^ f := mul_le_mul_of_nonneg_right hkq (by positivity)
    _ ≤ 2 ^ 53 * 2 ^ (-1 : ℤ) := mul_le_mul_of_nonneg_left hunit (by positivity)
    _ = 2 ^ 52 := by norm_num

/-- Nothing representable comes nearer to `x` than its rounded mantissa. There is room for numbers
with smaller units only if the mantissa has all its bits, and these lie behind it. -/
theorem roundedShift_nearest (h : 52 ≤ m.log2 ∨ e ≤ -1074)
    (hx : StandsFor (ExtendedMantissa.ofMantissaAndAccuracy m a) x) {k f : ℤ}
    (hk : |k| < 2 ^ 53) (hf : -1074 ≤ f) :
    let r : ℚ := roundedShift m e a
    let z : ℚ := k * 2 ^ (f - (e + shiftOf m e))
    let c : ℚ := x / 2 ^ shiftOf m e
    |r - c| ≤ |z - c| ∧ (z ≠ r → |r - c| = |z - c| → |r - c| = 1 / 2) := by
  have hshifted := hx.shiftRight (shiftOf m e)
  have hhalf : |(roundedShift m e a : ℚ) - x / 2 ^ shiftOf m e| ≤ 1 / 2 :=
    hshifted.abs_roundedMantissa_sub_le
  intro r z c
  rcases le_or_gt (e + shiftOf m e) f with hcoarse | hfine
  · have hinteger : z = (k * 2 ^ (f - (e + shiftOf m e)).toNat : ℤ) := by
      push_cast
      rw [← zpow_natCast, Int.toNat_of_nonneg (by omega)]
    rw [hinteger]
    exact abs_sub_le_of_half hhalf _
  · have hlog : 52 + shiftOf m e ≤ m.log2 := by
      unfold shiftOf at hfine ⊢
      omega
    have hm : m ≠ 0 := by
      rintro rfl
      rw [Nat.log2_zero] at hlog
      omega
    have hlower : ((m / 2 ^ shiftOf m e : Nat) : ℚ) ≤ c := by
      have := hshifted.mantissa_le
      rwa [mantissa_shiftRight, mantissa_ofMantissaAndAccuracy] at this
    have hfull : (2 : ℚ) ^ 52 ≤ (m / 2 ^ shiftOf m e : Nat) := by
      exact_mod_cast two_pow_le_div_two_pow hm hlog
    have hbehind : z ≤ 2 ^ 52 := mul_zpow_le hk (sub_neg.mpr hfine)
    refine abs_sub_le_of_half_of_le hhalf (n := 2 ^ 52) ?_ ?_
    · exact_mod_cast hbehind
    · exact_mod_cast hfull.trans hlower

theorem isRounding_roundedShift (h : 52 ≤ m.log2 ∨ e ≤ -1074)
    (hx : StandsFor (ExtendedMantissa.ofMantissaAndAccuracy m a) x) :
    IsRounding (roundedShift m e a * 2 ^ (e + shiftOf m e)) (x * 2 ^ e) := by
  have hlow : -1074 ≤ e + shiftOf m e := by
    unfold shiftOf
    omega
  have hlength : |(roundedShift m e a : ℤ)| ≤ 2 ^ 53 := by
    have hbounds := roundedShift_bounds m e a
    have hsmall := div_two_pow_shiftOf_lt m e
    rw [Nat.abs_cast]
    omega
  have hunit : (0 : ℚ) < 2 ^ (e + shiftOf m e : ℤ) := by positivity
  have hscale (y : ℚ) : |y * 2 ^ (e + shiftOf m e : ℤ) - x * 2 ^ e| =
      |y - x / 2 ^ shiftOf m e| * 2 ^ (e + shiftOf m e : ℤ) := by
    rw [← abs_of_pos hunit, ← abs_mul, abs_of_pos hunit, sub_mul, zpow_add₀ two_ne_zero,
      zpow_natCast]
    congr 1
    field_simp
  have hsplit (k f : ℤ) : (k : ℚ) * 2 ^ f =
      k * 2 ^ (f - (e + shiftOf m e)) * 2 ^ (e + shiftOf m e : ℤ) := by
    rw [mul_assoc, ← zpow_add₀ two_ne_zero, sub_add_cancel]
  refine ⟨by exact_mod_cast representable_of_abs_le hlength hlow, ?_, ?_⟩
  · rintro y ⟨k, f, hk, hf, rfl⟩
    rw [hsplit, hscale, hscale]
    exact mul_le_mul_of_nonneg_right (roundedShift_nearest h hx hk hf).1 hunit.le
  · rintro y ⟨k, f, hk, hf, rfl⟩ hne heq
    rw [hsplit, hscale, hscale] at heq
    have hhalf := (roundedShift_nearest h hx hk hf).2 (fun hz => hne (by rw [hsplit, hz]))
      (mul_right_cancel₀ hunit.ne' heq)
    have heven := (hx.shiftRight (shiftOf m e)).roundedMantissa_mod_two hhalf
    exact_mod_cast isEven_of_abs_le hlength (by exact_mod_cast heven) hlow

end Mantissas

section Parts

/-- The number that the parts of a float stand for; 0 if they stand for none. -/
def rationalOf : UnpackedFloat → ℚ
  | .finite s m e _ => (s.apply m : ℤ) * 2 ^ e
  | _ => 0

variable {u v : UnpackedFloat} {s : Sign} {m : Nat} {e : Int} {a : Accuracy} {x q : ℚ}

theorem cast_apply (s : Sign) (m : Nat) : ((s.apply m : ℤ) : ℚ) = (s.apply 1 : ℤ) * m := by
  cases s <;> simp [Sign.apply]

theorem rationalOf_neg (u : UnpackedFloat) : rationalOf u.neg = -rationalOf u := by
  cases u with
  | finite s m e hm => cases s <;> simp [rationalOf, UnpackedFloat.neg, Sign.apply]
  | _ => exact neg_zero.symm

theorem isFinite_negParts (hu : u.isFinite = true) : u.neg.isFinite = true := by
  cases u <;> exact hu

theorem IsRounding.apply (h : IsRounding q x) (s : Sign) :
    IsRounding ((s.apply 1 : ℤ) * q) ((s.apply 1 : ℤ) * x) := by
  cases s with
  | negative => simpa [Sign.apply] using h.neg
  | positive => simpa [Sign.apply] using h

theorem representable_rationalOf (hu : Canonical u) : Representable (rationalOf u) := by
  cases u with
  | finite s m e hm =>
      refine ⟨s.apply m, e, ?_, hu.2.1, rfl⟩
      rw [Int.abs_eq_natAbs, natAbs_apply]
      exact_mod_cast hu.1
  | _ => exact representable_zero

theorem rationalOf_roundWithAccuracy (s : Sign) (m : Nat) (e : Int) (a : Accuracy) :
    rationalOf (roundWithAccuracy .binary64 s m e a) =
      (s.apply 1 : ℤ) * (roundedShift m e a * 2 ^ (e + shiftOf m e)) := by
  obtain ⟨hzero, hr⟩ | ⟨-, _, hr⟩ | ⟨hcarry, _, hr⟩ := roundWithAccuracy_cases s m e a
  · rw [hr, hzero]
    simp [rationalOf]
  · rw [hr, rationalOf, cast_apply, mul_assoc]
  · rw [hr, hcarry, rationalOf, cast_apply, zpow_add_one₀ two_ne_zero]
    push_cast
    ring

theorem isRounding_roundWithAccuracy (h : 52 ≤ m.log2 ∨ e ≤ -1074)
    (hx : StandsFor (ExtendedMantissa.ofMantissaAndAccuracy m a) x) (s : Sign) :
    IsRounding (rationalOf (roundWithAccuracy .binary64 s m e a))
      ((s.apply 1 : ℤ) * (x * 2 ^ e)) := by
  rw [rationalOf_roundWithAccuracy]
  exact (isRounding_roundedShift h hx).apply s

theorem decreaseExponent_mul_zpow (m : Nat) {lower : Int} (h : lower ≤ e) :
    ((decreaseExponent m e lower).1 : ℚ) * 2 ^ lower = m * 2 ^ e := by
  have hsum : ((e - lower).toNat : ℤ) + lower = e := by omega
  simp only [decreaseExponent, Nat.shiftLeft_eq]
  rw [Nat.cast_mul, mul_assoc, Nat.cast_pow, Nat.cast_ofNat, ← zpow_natCast,
    ← zpow_add₀ two_ne_zero, hsum]

theorem isRounding_round (hm : m ≠ 0) (s : Sign) :
    IsRounding (rationalOf (UnpackedFloat.round .binary64 s m e)) ((s.apply m : ℤ) * 2 ^ e) := by
  rw [UnpackedFloat.round, targetExponent_eq]
  simp only [decreaseExponent, Nat.shiftLeft_eq]
  obtain ⟨k, hk⟩ : ∃ k : Nat, k = (e - max (m.log2 + e - 52) (-1074)).toNat := ⟨_, rfl⟩
  have hlog : (m * 2 ^ k).log2 = m.log2 + k := log2_mul_two_pow hm k
  have hvalue : ((s.apply m : ℤ) : ℚ) * 2 ^ e =
      (s.apply 1 : ℤ) * (((m * 2 ^ k : Nat) : ℚ) * 2 ^ (e - k)) := by
    rw [cast_apply, zpow_sub₀ two_ne_zero, zpow_natCast]
    push_cast
    field_simp
  rw [← hk, hvalue]
  exact isRounding_roundWithAccuracy (by omega) (standsFor_exact _) s

theorem isRounding_normalize (n : Int) (e : Int) (z : Sign) :
    IsRounding (rationalOf (UnpackedFloat.normalize .binary64 n e z)) (n * 2 ^ e) := by
  by_cases hn : n = 0
  · subst hn
    have hzero : rationalOf (UnpackedFloat.normalize .binary64 0 e z) = 0 := rfl
    rw [hzero, Int.cast_zero, zero_mul]
    exact representable_zero.isRounding
  · obtain ⟨s, hs, hpos⟩ := normalize_of_ne_zero (e := e) (z := z) hn
    have happly : s.apply n.natAbs = n := by
      cases s <;> simp only [Sign.apply, reduceCtorEq, false_iff, true_iff] at hpos ⊢ <;> omega
    have hrounding := isRounding_round (e := e) (Int.natAbs_ne_zero.mpr hn) s
    rwa [happly, ← hs] at hrounding

theorem isRounding_addParts (hu : Canonical u) (hv : Canonical v) (hfu : u.isFinite = true)
    (hfv : v.isFinite = true) :
    IsRounding (rationalOf (UnpackedFloat.add .binary64 u v)) (rationalOf u + rationalOf v) := by
  cases u with
  | notANumber => cases hfu
  | infinity s => cases hfu
  | zero s =>
      cases v with
      | notANumber => cases hfv
      | infinity t => cases hfv
      | zero t =>
          have hsum : rationalOf (.zero s) + rationalOf (.zero t) = 0 := add_zero 0
          rw [hsum]
          cases s <;> cases t <;> exact representable_zero.isRounding
      | finite t n f hn =>
          have hsum : rationalOf (.zero s) + rationalOf (.finite t n f hn) =
              rationalOf (.finite t n f hn) := zero_add _
          rw [hsum]
          exact (representable_rationalOf hv).isRounding
  | finite s m e hm =>
      cases v with
      | notANumber => cases hfv
      | infinity t => cases hfv
      | zero t =>
          have hsum : rationalOf (.finite s m e hm) + rationalOf (.zero t) =
              rationalOf (.finite s m e hm) := add_zero _
          rw [hsum]
          exact (representable_rationalOf hu).isRounding
      | finite t n f hn =>
          have hsum : rationalOf (.finite s m e hm) + rationalOf (.finite t n f hn) =
              ((s.apply (decreaseExponent m e (min e f)).1 +
                t.apply (decreaseExponent n f (min e f)).1 : ℤ) : ℚ) * 2 ^ min e f := by
            push_cast
            rw [rationalOf, rationalOf, cast_apply, cast_apply, cast_apply s (Prod.fst _),
              cast_apply t (Prod.fst _), mul_assoc,
              ← decreaseExponent_mul_zpow m (min_le_left e f), mul_assoc,
              ← decreaseExponent_mul_zpow n (min_le_right e f)]
            ring
          rw [add_finite, hsum]
          exact isRounding_normalize _ _ _

theorem isRounding_divParts (hfu : u.isFinite = true) {t : Sign} {n : Nat} {f : Int} (hn : 0 < n) :
    IsRounding (rationalOf (UnpackedFloat.div .binary64 u (.finite t n f hn)))
      (rationalOf u / rationalOf (.finite t n f hn)) := by
  cases u with
  | notANumber => cases hfu
  | infinity s => cases hfu
  | zero s =>
      have hquotient : rationalOf (.zero s) / rationalOf (.finite t n f hn) = 0 := zero_div _
      rw [hquotient]
      exact representable_zero.isRounding
  | finite s m e hm =>
      obtain ⟨target, shift, -, hshift, hq⟩ := divCore_eq m n e f
      have hexact := (divCore_bounds hm.ne' hn.ne' e f).1
      have hfraction := standsFor_fraction (Nat.mod_lt (m * 2 ^ shift) hn) (m * 2 ^ shift / n)
      have hsign : (((s / t).apply 1 : ℤ) : ℚ) * (t.apply 1 : ℤ) = (s.apply 1 : ℤ) := by
        cases s <;> cases t <;> norm_cast
      have ht : ((t.apply 1 : ℤ) : ℚ) ≠ 0 := by cases t <;> decide
      have hn0 : (n : ℚ) ≠ 0 := by exact_mod_cast hn.ne'
      have hmantissa : (((m * 2 ^ shift / n : Nat) : ℚ) + (m * 2 ^ shift % n : Nat) / n) * n =
          m * 2 ^ shift := by
        rw [add_mul, div_mul_cancel₀ _ hn0]
        exact_mod_cast Nat.div_add_mod' (m * 2 ^ shift) n
      have hexponent : (2 : ℚ) ^ shift * 2 ^ target * 2 ^ f = 2 ^ e := by
        rw [← zpow_natCast, ← zpow_add₀ two_ne_zero, ← zpow_add₀ two_ne_zero]
        congr 1
        omega
      have hquotient : rationalOf (.finite s m e hm) / rationalOf (.finite t n f hn) =
          ((s / t).apply 1 : ℤ) *
            ((((m * 2 ^ shift / n : Nat) : ℚ) + (m * 2 ^ shift % n : Nat) / n) * 2 ^ target) := by
        rw [rationalOf, rationalOf, cast_apply, cast_apply t n, div_eq_iff (by positivity)]
        -- the sign, the mantissa and the exponent of the quotient are found one by one
        linear_combination (-(m * 2 ^ e : ℚ)) * hsign -
          ((s / t).apply 1 : ℤ) * (t.apply 1 : ℤ) * 2 ^ target * 2 ^ f * hmantissa -
          ((s / t).apply 1 : ℤ) * (t.apply 1 : ℤ) * m * hexponent
      rw [div_finite s t hm hn, hquotient]
      simp only [hq] at hexact ⊢
      exact isRounding_roundWithAccuracy hexact hfraction (s / t)

end Parts

end EquationTutor.Double
