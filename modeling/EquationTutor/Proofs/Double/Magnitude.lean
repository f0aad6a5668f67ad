import EquationTutor.Proofs.Double.Special

open Float.Model Float.Model.UnpackedFloat

namespace EquationTutor.Double

section Logarithm

theorem log2_mul_le {m n : Nat} (hm : m ≠ 0) (hn : n ≠ 0) :
    m.log2 + n.log2 ≤ (m * n).log2 ∧ (m * n).log2 ≤ m.log2 + n.log2 + 1 := by
  have hmn : m * n ≠ 0 := Nat.mul_ne_zero hm hn
  constructor
  · rw [Nat.le_log2 hmn, pow_add]
    exact Nat.mul_le_mul (Nat.log2_self_le hm) (Nat.log2_self_le hn)
  · rw [← Nat.lt_succ_iff, Nat.log2_lt hmn]
    calc
      m * n < 2 ^ (m.log2 + 1) * 2 ^ (n.log2 + 1) :=
        Nat.mul_lt_mul'' Nat.lt_log2_self Nat.lt_log2_self
      _ = 2 ^ (m.log2 + n.log2 + 1).succ := by
        rw [← pow_add]
        congr 1
        omega

theorem log2_le_of_lt_two_pow {m k : Nat} (h : m < 2 ^ (k + 1)) : m.log2 ≤ k := by
  by_cases hm : m = 0
  · simp [hm]
  · exact Nat.lt_succ_iff.mp ((Nat.log2_lt hm).mpr h)

theorem log2_mono {m n : Nat} (hm : m ≠ 0) (h : m ≤ n) : m.log2 ≤ n.log2 :=
  (Nat.le_log2 (by omega)).mpr ((Nat.log2_self_le hm).trans h)

theorem div_lt_two_pow {m n k : Nat} (hn : n ≠ 0) (h : m.log2 + 1 ≤ k + n.log2) :
    m / n < 2 ^ k := by
  rw [Nat.div_lt_iff_lt_mul (Nat.pos_of_ne_zero hn)]
  calc
    m < 2 ^ (m.log2 + 1) := Nat.lt_log2_self
    _ ≤ 2 ^ (k + n.log2) := Nat.pow_le_pow_right (by decide) h
    _ = 2 ^ k * 2 ^ n.log2 := pow_add 2 k n.log2
    _ ≤ 2 ^ k * n := Nat.mul_le_mul_left _ (Nat.log2_self_le hn)

theorem two_pow_le_div {m n k : Nat} (hm : m ≠ 0) (hn : n ≠ 0)
    (h : k + (n.log2 + 1) ≤ m.log2) : 2 ^ k ≤ m / n := by
  rw [Nat.le_div_iff_mul_le (Nat.pos_of_ne_zero hn)]
  calc
    2 ^ k * n ≤ 2 ^ k * 2 ^ (n.log2 + 1) := Nat.mul_le_mul_left _ Nat.lt_log2_self.le
    _ = 2 ^ (k + (n.log2 + 1)) := (pow_add 2 k (n.log2 + 1)).symm
    _ ≤ 2 ^ m.log2 := Nat.pow_le_pow_right (by decide) h
    _ ≤ m := Nat.log2_self_le hm

theorem two_pow_le_div_two_pow {m i k : Nat} (hm : m ≠ 0) (h : k + i ≤ m.log2) :
    2 ^ k ≤ m / 2 ^ i := by
  rw [Nat.le_div_iff_mul_le (Nat.two_pow_pos i), ← pow_add]
  exact (Nat.pow_le_pow_right (by decide) h).trans (Nat.log2_self_le hm)

theorem log2_sqrt {m : Nat} (hm : m ≠ 0) : m.sqrt.log2 = m.log2 / 2 := by
  have hlower : 2 ^ (m.log2 / 2) ≤ m.sqrt := by
    rw [Nat.le_sqrt', ← pow_mul]
    exact (Nat.pow_le_pow_right (by decide) (by omega)).trans (Nat.log2_self_le hm)
  have hupper : m.sqrt < 2 ^ (m.log2 / 2 + 1) := by
    rw [Nat.sqrt_lt', ← pow_mul]
    exact Nat.lt_log2_self.trans_le (Nat.pow_le_pow_right (by decide) (by omega))
  exact (Nat.log2_eq_iff (Nat.sqrt_pos.mpr (Nat.pos_of_ne_zero hm)).ne').mpr ⟨hlower, hupper⟩

end Logarithm

section Rounding

theorem mantissa_shiftRight (em : ExtendedMantissa) (k : Nat) :
    (em >>> k).mantissa = em.mantissa / 2 ^ k := by
  induction k with
  | zero => simp [HShiftRight.hShiftRight, Nat.repeat]
  | succ k ih =>
      change (em >>> k).mantissa / 2 = _
      rw [ih, Nat.div_div_eq_div_mul, pow_succ]

theorem roundedMantissa_bounds (em : ExtendedMantissa) :
    em.mantissa ≤ em.roundedMantissa ∧ em.roundedMantissa ≤ em.mantissa + 1 := by
  obtain ⟨m, roundBit, stickyBit⟩ := em
  rw [ExtendedMantissa.roundedMantissa]
  cases roundBit <;> cases stickyBit <;>
    simp only [ExtendedMantissa.accuracy, Accuracy.roundToNearestEven] <;> omega

theorem targetExponent_eq (m : Nat) (e : Int) :
    Format.binary64.targetExponent (totalExponent m e) = max (m.log2 + e - 52) (-1074) := by
  simp only [Format.targetExponent, totalExponent, Format.mantissaBits, Format.minExponent]
  push_cast
  omega

/-- By how much a mantissa is shifted to fit into its bits. -/
def shiftOf (m : Nat) (e : Int) : Nat :=
  (max (m.log2 + e - 52) (-1074) - e).toNat

theorem shiftToTargetExponent_eq (m : Nat) (e : Int) (a : Accuracy) :
    shiftToTargetExponent .binary64 m e a =
      (ExtendedMantissa.ofMantissaAndAccuracy m a >>> shiftOf m e, e + shiftOf m e) := by
  rw [shiftToTargetExponent, targetExponent_eq]
  rfl

theorem mantissa_ofMantissaAndAccuracy (m : Nat) (a : Accuracy) :
    (ExtendedMantissa.ofMantissaAndAccuracy m a).mantissa = m := by
  unfold ExtendedMantissa.ofMantissaAndAccuracy
  split <;> rfl

theorem shiftToTargetExponent_of_lt {m : Nat} {e : Int} (hm : m < 2 ^ 53) (he : -1074 ≤ e) :
    shiftToTargetExponent .binary64 m e .exact = (⟨m, false, false⟩, e) := by
  have hzero : shiftOf m e = 0 := by
    have := log2_le hm
    unfold shiftOf
    omega
  rw [shiftToTargetExponent_eq, hzero]
  simp [HShiftRight.hShiftRight, Nat.repeat, ExtendedMantissa.ofMantissaAndAccuracy]

theorem shiftToTargetExponent_two_pow {e : Int} (he : -1074 ≤ e) :
    shiftToTargetExponent .binary64 (2 ^ 53) e .exact = (⟨2 ^ 52, false, false⟩, e + 1) := by
  have hone : shiftOf (2 ^ 53) e = 1 := by
    rw [shiftOf, Nat.log2_two_pow]
    omega
  rw [shiftToTargetExponent_eq, hone]
  rfl

theorem div_two_pow_shiftOf_lt (m : Nat) (e : Int) : m / 2 ^ shiftOf m e < 2 ^ 53 := by
  refine div_lt_two_pow (Nat.two_pow_pos _).ne' ?_
  rw [Nat.log2_two_pow, shiftOf]
  omega

/-- The mantissa as it is rounded after the shift. -/
def roundedShift (m : Nat) (e : Int) (a : Accuracy) : Nat :=
  (ExtendedMantissa.ofMantissaAndAccuracy m a >>> shiftOf m e).roundedMantissa

theorem roundedShift_bounds (m : Nat) (e : Int) (a : Accuracy) :
    m / 2 ^ shiftOf m e ≤ roundedShift m e a ∧
      roundedShift m e a ≤ m / 2 ^ shiftOf m e + 1 := by
  have hbounds :=
    roundedMantissa_bounds (ExtendedMantissa.ofMantissaAndAccuracy m a >>> shiftOf m e)
  rwa [mantissa_shiftRight, mantissa_ofMantissaAndAccuracy] at hbounds

theorem roundWithAccuracy_cases (s : Sign) (m : Nat) (e : Int) (a : Accuracy) :
    (roundedShift m e a = 0 ∧ roundWithAccuracy .binary64 s m e a = .zero s) ∨
      (roundedShift m e a < 2 ^ 53 ∧ ∃ h, roundWithAccuracy .binary64 s m e a =
        .finite s (roundedShift m e a) (e + shiftOf m e) h) ∨
      (roundedShift m e a = 2 ^ 53 ∧ ∃ h, roundWithAccuracy .binary64 s m e a =
        .finite s (2 ^ 52) (e + shiftOf m e + 1) h) := by
  have hlow : -1074 ≤ e + shiftOf m e := by
    unfold shiftOf
    omega
  have hbounds := roundedShift_bounds m e a
  have hsmall := div_two_pow_shiftOf_lt m e
  rw [roundWithAccuracy, shiftToTargetExponent_eq]
  dsimp only
  rw [← roundedShift]
  obtain ⟨r, hr⟩ : ∃ r, r = roundedShift m e a := ⟨_, rfl⟩
  rw [← hr] at hbounds ⊢
  by_cases hcarry : r = 2 ^ 53
  · refine .inr (.inr ⟨hcarry, by decide, ?_⟩)
    simp only [hcarry, shiftToTargetExponent_two_pow hlow]
    rfl
  · have hlt : r < 2 ^ 53 := by omega
    simp only [shiftToTargetExponent_of_lt hlt hlow]
    by_cases hzero : r = 0
    · exact .inl ⟨hzero, by rw [dif_pos hzero]⟩
    · exact .inr (.inl ⟨hlt, Nat.pos_of_ne_zero hzero, by rw [dif_neg hzero]⟩)

theorem exists_roundWithAccuracy (s : Sign) (m : Nat) (e : Int) (a : Accuracy) :
    ∃ r, m / 2 ^ shiftOf m e ≤ r ∧ r ≤ m / 2 ^ shiftOf m e + 1 ∧
      ((r = 0 ∧ roundWithAccuracy .binary64 s m e a = .zero s) ∨
        (r < 2 ^ 53 ∧ ∃ h,
          roundWithAccuracy .binary64 s m e a = .finite s r (e + shiftOf m e) h) ∨
        (r = 2 ^ 53 ∧ ∃ h,
          roundWithAccuracy .binary64 s m e a =
            .finite s (2 ^ 52) (e + shiftOf m e + 1) h)) :=
  ⟨roundedShift m e a, (roundedShift_bounds m e a).1, (roundedShift_bounds m e a).2,
    roundWithAccuracy_cases s m e a⟩

/-- The mantissa and the exponent are those that packing expects. -/
def Canonical : UnpackedFloat → Prop
  | .finite _ m e _ => m < 2 ^ 53 ∧ -1074 ≤ e ∧ (e = -1074 ∨ 2 ^ 52 ≤ m)
  | _ => True

/-- The magnitude is less than `2 ^ k`. -/
def Below (k : Int) : UnpackedFloat → Prop
  | .finite _ m e _ => m.log2 + e < k
  | .zero _ => True
  | .infinity _ | .notANumber => False

/-- The magnitude is at least `2 ^ k`. -/
def Above (k : Int) : UnpackedFloat → Prop
  | .finite _ m e _ => k ≤ m.log2 + e
  | .infinity _ => True
  | .zero _ | .notANumber => False

theorem Below.mono {u : UnpackedFloat} {i k : Int} (h : Below i u) (hik : i ≤ k) :
    Below k u := by
  cases u with
  | finite s m e hm => exact lt_of_lt_of_le h hik
  | _ => exact h

theorem Above.anti {u : UnpackedFloat} {i k : Int} (h : Above i u) (hki : k ≤ i) :
    Above k u := by
  cases u with
  | finite s m e hm => exact le_trans hki h
  | _ => exact h

variable {s : Sign} {m : Nat} {e k : Int} {a : Accuracy}

theorem canonical_roundWithAccuracy (h : 52 ≤ m.log2 ∨ e ≤ -1074) :
    Canonical (roundWithAccuracy .binary64 s m e a) := by
  have hlow : -1074 ≤ e + shiftOf m e := by
    unfold shiftOf
    omega
  obtain ⟨r, hle, -, ⟨-, hr⟩ | ⟨hlt, _, hr⟩ | ⟨-, _, hr⟩⟩ := exists_roundWithAccuracy s m e a
  · rw [hr]
    trivial
  · rw [hr]
    refine ⟨hlt, hlow, ?_⟩
    by_cases hmin : e + shiftOf m e = -1074
    · exact .inl hmin
    · right
      have hshift : m.log2 = 52 + shiftOf m e := by
        unfold shiftOf at hmin ⊢
        omega
      have hm : m ≠ 0 := by
        rintro rfl
        rw [Nat.log2_zero] at hshift
        omega
      exact (two_pow_le_div_two_pow hm hshift.ge).trans hle
  · rw [hr]
    exact ⟨by decide, by omega, .inr le_rfl⟩

/-- Rounding leads below the next power of two but one. -/
theorem below_roundWithAccuracy (h : m.log2 + e + 1 < k) (hk : -1074 < k) :
    Below k (roundWithAccuracy .binary64 s m e a) := by
  obtain ⟨r, -, hge, ⟨-, hr⟩ | ⟨-, _, hr⟩ | ⟨hcarry, _, hr⟩⟩ :=
    exists_roundWithAccuracy s m e a
  · rw [hr]
    trivial
  all_goals
    have hquotient : m / 2 ^ shiftOf m e < 2 ^ (m.log2 + 1 - shiftOf m e) :=
      div_lt_two_pow (Nat.two_pow_pos _).ne' (by rw [Nat.log2_two_pow]; omega)
    have hrlog : r.log2 ≤ m.log2 + 1 - shiftOf m e :=
      log2_le_of_lt_two_pow (by rw [pow_succ]; omega)
    rw [hr]
  · change (r.log2 : Int) + (e + shiftOf m e) < k
    unfold shiftOf at hrlog ⊢
    omega
  · rw [hcarry, Nat.log2_two_pow] at hrlog
    change ((2 ^ 52).log2 : Int) + (e + shiftOf m e + 1) < k
    rw [Nat.log2_two_pow]
    unfold shiftOf at hrlog ⊢
    omega

theorem above_roundWithAccuracy (hm : m ≠ 0) (h : k ≤ m.log2 + e) (hk : -1074 ≤ k) :
    Above k (roundWithAccuracy .binary64 s m e a) := by
  have hshift : shiftOf m e ≤ m.log2 := by
    unfold shiftOf
    omega
  have hquotient : 2 ^ (m.log2 - shiftOf m e) ≤ m / 2 ^ shiftOf m e :=
    two_pow_le_div_two_pow hm (Nat.sub_add_cancel hshift).le
  have hpos := Nat.two_pow_pos (m.log2 - shiftOf m e)
  obtain ⟨r, hle, -, ⟨hzero, -⟩ | ⟨-, _, hr⟩ | ⟨hcarry, _, hr⟩⟩ :=
    exists_roundWithAccuracy s m e a
  · omega
  all_goals
    have hrlog : m.log2 - shiftOf m e ≤ r.log2 :=
      (Nat.le_log2 (by omega)).mpr (hquotient.trans hle)
    rw [hr]
  · change k ≤ (r.log2 : Int) + (e + shiftOf m e)
    omega
  · rw [hcarry, Nat.log2_two_pow] at hrlog
    change k ≤ ((2 ^ 52).log2 : Int) + (e + shiftOf m e + 1)
    rw [Nat.log2_two_pow]
    omega

end Rounding

section Packing

theorem log2_eq_of_normal {m : Nat} (hle : 2 ^ 52 ≤ m) (hlt : m < 2 ^ 53) : m.log2 = 52 :=
  (Nat.log2_eq_iff (by omega)).mpr ⟨hle, hlt⟩

theorem repack_subnormal (s : Sign) {m : Nat} (hm : 0 < m) (hlt : m < 2 ^ 52) :
    repack (.finite s m (-1074) hm) = .finite s m (-1074) hm := by
  have hlog : m.log2 ≠ 52 := by
    have := (Nat.log2_lt (by omega)).mpr hlt
    omega
  obtain ⟨mb, hmb⟩ : ∃ mb : BitVec (Format.mantissaBitsWithoutImplicit .binary64),
    mb = BitVec.ofNat _ m := ⟨_, rfl⟩
  have hmbNat : mb.toNat = m := by
    rw [hmb, BitVec.toNat_ofNat]
    exact Nat.mod_eq_of_lt hlt
  have hmbZero : mb ≠ 0#52 := by
    intro h
    rw [h] at hmbNat
    change 0 = m at hmbNat
    omega
  have hpack : UnpackedFloat.pack .binary64 (.finite s m (-1074) hm) =
      packComponents .binary64 s 0#11 mb := by
    rw [UnpackedFloat.pack, hmb]
    dsimp only
    rw [if_neg (by decide), if_neg (by change ¬ m.log2 + 1 = 53; omega)]
  change UnpackedFloat.unpack .binary64 (UnpackedFloat.pack .binary64 _) = _
  rw [hpack]
  simp only [UnpackedFloat.unpack, unpackMantissa_packComponents, unpackExponent_packComponents,
    unpackSign_packComponents, Sign.ofBitVec_toBitVec]
  rw [if_neg (by decide), if_pos trivial, dif_neg hmbZero]
  simp only [hmbNat, UnpackedFloat.finite.injEq, true_and]
  rfl

theorem repack_of_below {u : UnpackedFloat} (hu : Canonical u) (h : Below 1024 u) :
    repack u = u := by
  cases u with
  | notANumber => exact h.elim
  | infinity s => exact h.elim
  | zero s => exact repack_zero s
  | finite s m e hm =>
      obtain ⟨hlt, he, hnormal⟩ := hu
      by_cases hle : 2 ^ 52 ≤ m
      · have hlog := log2_eq_of_normal hle hlt
        have hbound : (m.log2 : Int) + e < 1024 := h
        exact unpack_pack_finite s hle hlt he (by omega) hm
      · obtain rfl : e = -1074 := by omega
        exact repack_subnormal s hm (by omega)

theorem repack_overflow {s : Sign} {m : Nat} {e : Int} {hm : 0 < m}
    (hu : Canonical (.finite s m e hm)) (h : 1024 ≤ m.log2 + e) :
    repack (.finite s m e hm) = .infinity s := by
  have hlog := log2_le hu.1
  have hbiased : 2 ^ 11 ≤ (e + (1023 : Nat) + (52 : Nat)).toNat + 1 := by omega
  have hpack : UnpackedFloat.pack .binary64 (.finite s m e hm) = packedInfinity .binary64 s := by
    rw [UnpackedFloat.pack]
    exact if_pos hbiased
  rw [← repack_infinity s]
  change UnpackedFloat.unpack .binary64 (UnpackedFloat.pack .binary64 _) = _
  rw [hpack]
  rfl

theorem below_repack {u : UnpackedFloat} {k : Int} (hu : Canonical u) (h : Below k u)
    (hk : k ≤ 1024) : Below k (repack u) := by
  rwa [repack_of_below hu (h.mono hk)]

theorem above_repack {u : UnpackedFloat} {k : Int} (hu : Canonical u) (h : Above k u) :
    Above k (repack u) := by
  cases u with
  | notANumber => exact h.elim
  | infinity s =>
      rw [repack_infinity]
      trivial
  | zero s => exact h.elim
  | finite s m e hm =>
      by_cases hfinite : (m.log2 : Int) + e < 1024
      · rwa [repack_of_below hu hfinite]
      · rw [repack_overflow hu (by omega)]
        trivial

theorem canonical_unpack (x : Float) : Canonical x.toModel.unpack := by
  rw [Float.Model.unpack, UnpackedFloat.unpack]
  obtain ⟨b, hb⟩ : ∃ b : BitVec (Format.numBits .binary64), x.toModel.toBits.toBitVec = b :=
    ⟨_, rfl⟩
  rw [hb]
  have hmantissa : (unpackMantissa b).toNat < 2 ^ 52 := (unpackMantissa b).isLt
  have hbias : (Format.binary64.exponentBias : Int) +
      Format.binary64.mantissaBitsWithoutImplicit = 1075 := rfl
  dsimp only
  split
  · split <;> trivial
  · split
    · rename_i hzero
      split
      · trivial
      · rw [hzero]
        exact ⟨by omega, by decide, .inl (by decide)⟩
    · rename_i hzero
      have hpos : (unpackExponent b).toNat ≠ 0 := fun h => hzero (BitVec.toNat_eq.mpr h)
      rw [Canonical, toNat_one_append, hbias]
      exact ⟨by omega, by omega, .inr (by omega)⟩

theorem below_of_isFinite {x : Float} (h : x.isFinite = true) : Below 1024 x.toModel.unpack := by
  obtain ⟨s, hx⟩ | ⟨s, m, e, hm, hx⟩ := isFinite_iff.mp h
  · rw [hx]
    trivial
  · by_contra hlarge
    have hcanonical := canonical_unpack x
    -- what is packed is packed again without a change
    have hagain : repack x.toModel.unpack = x.toModel.unpack := by
      change (Float.ofBits x.toBits).toModel.unpack = _
      rw [Float.ofBits_toBits]
    rw [hx] at hlarge hcanonical hagain
    have hbound : ¬ (m.log2 : Int) + e < 1024 := hlarge
    rw [repack_overflow hcanonical (by omega)] at hagain
    cases hagain

theorem isFinite_of_below {x : Float} {k : Int} (h : Below k x.toModel.unpack) :
    x.isFinite = true := by
  change x.toModel.unpack.isFinite = true
  cases hx : x.toModel.unpack <;> rw [hx] at h
  · exact h.elim
  · exact h.elim
  · rfl
  · rfl

end Packing

end EquationTutor.Double
