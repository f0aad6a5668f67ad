import EquationTutor.Numeric.Double
import Mathlib

open Float.Model Float.Model.UnpackedFloat

namespace EquationTutor.Double

theorem log2_mul_two_pow {m : Nat} (hm : m ≠ 0) (k : Nat) :
    (m * 2 ^ k).log2 = m.log2 + k := by
  induction k with
  | zero => simp
  | succ k ih =>
      have hscaled : m * 2 ^ k ≠ 0 := by positivity
      rw [pow_succ, ← mul_assoc, mul_comm _ 2, Nat.log2_two_mul hscaled, ih, add_assoc]

theorem log2_le {m : Nat} (hlt : m < 2 ^ 53) : m.log2 ≤ 52 := by
  by_cases hm : m = 0
  · simp [hm]
  · have := (Nat.log2_lt hm).mpr hlt
    omega

/-- A natural number of at most 53 bits as a float, with a sign. -/
def ofNatural (s : Sign) (m : Nat) : UnpackedFloat :=
  if h : m = 0 then .zero s
  else .finite s (m * 2 ^ (52 - m.log2)) ((m.log2 : Int) - 52) (by positivity)

theorem ofNatural_of_ne_zero (s : Sign) {m : Nat} (hm : m ≠ 0) :
    ofNatural s m = .finite s (m * 2 ^ (52 - m.log2)) ((m.log2 : Int) - 52)
      (Nat.mul_pos (Nat.pos_of_ne_zero hm) (Nat.two_pow_pos _)) := by
  simp [ofNatural, hm]

theorem shiftRight_mul_two_pow (m j : Nat) :
    (ExtendedMantissa.mk (m * 2 ^ j) false false) >>> j = ExtendedMantissa.mk m false false := by
  induction j generalizing m with
  | zero => simp [HShiftRight.hShiftRight, Nat.repeat]
  | succ j ih =>
      have hstep : (ExtendedMantissa.mk (m * 2 ^ (j + 1)) false false) >>> (j + 1) =
          ((ExtendedMantissa.mk (m * 2 * 2 ^ j) false false) >>> j).shiftRightOne := by
        rw [pow_succ', mul_assoc]
        rfl
      rw [hstep, ih]
      simp [ExtendedMantissa.shiftRightOne]

section Rounding

variable {m : Nat} (hm : m ≠ 0) (hlt : m < 2 ^ 53)
include hm hlt

theorem targetExponent_mul_two_pow (k : Nat) :
    Format.binary64.targetExponent (totalExponent (m * 2 ^ k) (-k)) = (m.log2 : Int) - 52 := by
  have := log2_le hlt
  simp only [Format.targetExponent, totalExponent, log2_mul_two_pow hm, Format.mantissaBits,
    Format.minExponent]
  push_cast
  omega

theorem shiftToTargetExponent_mul_two_pow {k : Nat} (hk : 52 ≤ m.log2 + k) :
    shiftToTargetExponent Format.binary64 (m * 2 ^ k) (-k) .exact =
      (⟨m * 2 ^ (52 - m.log2), false, false⟩, (m.log2 : Int) - 52) := by
  have := log2_le hlt
  have hamount : ((m.log2 : Int) - 52 - -k).toNat = m.log2 + k - 52 := by omega
  have hsplit : m * 2 ^ k = m * 2 ^ (52 - m.log2) * 2 ^ (m.log2 + k - 52) := by
    rw [mul_assoc, ← pow_add]
    congr 2
    omega
  rw [shiftToTargetExponent, targetExponent_mul_two_pow hm hlt, shiftToExponent, hamount, hsplit,
    ExtendedMantissa.ofMantissaAndAccuracy, shiftRight_mul_two_pow]
  simp only [Prod.mk.injEq, true_and]
  omega

theorem roundWithAccuracy_mul_two_pow (s : Sign) {k : Nat} (hk : 52 ≤ m.log2 + k) :
    roundWithAccuracy Format.binary64 s (m * 2 ^ k) (-k) .exact = ofNatural s m := by
  have hlog := log2_le hlt
  have hexponent : (m.log2 : Int) - 52 = -((52 - m.log2 : Nat) : Int) := by omega
  -- the rounded mantissa is shifted once more, which changes nothing now
  have hagain := shiftToTargetExponent_mul_two_pow hm hlt (k := 52 - m.log2) (by omega)
  rw [← hexponent] at hagain
  rw [roundWithAccuracy, shiftToTargetExponent_mul_two_pow hm hlt hk]
  simp only [ExtendedMantissa.roundedMantissa, ExtendedMantissa.accuracy,
    Accuracy.roundToNearestEven, hagain]
  rw [dif_neg (by positivity), ofNatural_of_ne_zero s hm]

theorem round_mul_two_pow (s : Sign) (k : Nat) :
    UnpackedFloat.round Format.binary64 s (m * 2 ^ k) (-k) = ofNatural s m := by
  rw [UnpackedFloat.round, targetExponent_mul_two_pow hm hlt, decreaseExponent]
  simp only [Nat.shiftLeft_eq, mul_assoc, ← pow_add]
  obtain ⟨j, hj⟩ : ∃ j : Nat, j = (-(k : Int) - ((m.log2 : Int) - 52)).toNat := ⟨_, rfl⟩
  have hexponent : -(k : Int) - j = -((k + j : Nat) : Int) := by
    push_cast
    ring
  rw [← hj, hexponent]
  exact roundWithAccuracy_mul_two_pow hm hlt s (by omega)

end Rounding

def isNegative : Sign → Bool
  | .negative => true
  | .positive => false

section Fields

variable (b : BitVec (Format.numBits .binary64))

theorem toNat_unpackMantissa : (unpackMantissa b).toNat = b.toNat % 2 ^ 52 := by
  simp [unpackMantissa_def]

theorem toNat_unpackExponent : (unpackExponent b).toNat = b.toNat / 2 ^ 52 % 2 ^ 11 := by
  simp [unpackExponent_def, Nat.shiftRight_eq_div_pow]

theorem isNegative_unpackSign :
    isNegative (Sign.ofBitVec (unpackSign b)) = decide (2 ^ 63 ≤ b.toNat) := by
  have hlt : b.toNat < 2 ^ 64 := b.isLt
  have hsign : (unpackSign b).toNat = b.toNat / 2 ^ 63 := by
    simp only [unpackSign_def, Nat.shiftRight_eq_div_pow, BitVec.extractLsb'_toNat]
    omega
  have hzero : (0#1).toNat = 0 := rfl
  rw [Sign.ofBitVec]
  simp only [BitVec.toNat_eq, hsign, hzero]
  by_cases h : 2 ^ 63 ≤ b.toNat
  · rw [if_neg (by omega), decide_eq_true h]
    rfl
  · rw [if_pos (by omega), decide_eq_false h]
    rfl

theorem toNat_one_append (m : BitVec 52) : (1#1 ++ m).toNat = 2 ^ 52 + m.toNat := by
  rw [BitVec.toNat_append]
  have := Nat.two_pow_add_eq_or_of_lt m.isLt 1
  simpa [Nat.shiftLeft_eq] using this.symm

/-- The fraction that a float with its parts apart stands for. -/
def fraction? : UnpackedFloat → Option Binary64
  | .finite s m e _ => some ⟨isNegative s, m, e⟩
  | .zero s => some ⟨isNegative s, 0, -1074⟩
  | _ => none

theorem ofFloat?_eq_fraction? (x : Float) : Binary64.ofFloat? x = fraction? x.toModel.unpack := by
  obtain ⟨b, hb⟩ : ∃ b : BitVec (Format.numBits .binary64), x.toModel.toBits.toBitVec = b :=
    ⟨_, rfl⟩
  have hbits : x.toBits.toNat = b.toNat := by
    rw [← hb]
    rfl
  have hsign : decide (Binary64.signBit ≤ b.toNat) = isNegative (Sign.ofBitVec (unpackSign b)) :=
    (isNegative_unpackSign b).symm
  have hmantissa : b.toNat % Binary64.leadingBit = (unpackMantissa b).toNat :=
    (toNat_unpackMantissa b).symm
  have hexponent : b.toNat / Binary64.leadingBit % 2048 = (unpackExponent b).toNat :=
    (toNat_unpackExponent b).symm
  have hbias : (Format.binary64.exponentBias : Int) +
      Format.binary64.mantissaBitsWithoutImplicit = 1075 := rfl
  have hmax : unpackExponent b = -1#11 ↔ (unpackExponent b).toNat = 2047 := BitVec.toNat_eq
  have hzero : unpackExponent b = 0#11 ↔ (unpackExponent b).toNat = 0 := BitVec.toNat_eq
  simp only [Binary64.ofFloat?, hbits, hsign, hmantissa, hexponent]
  rw [Float.Model.unpack, hb, UnpackedFloat.unpack]
  by_cases hinfinite : (unpackExponent b).toNat = 2047
  · rw [if_pos hinfinite, if_pos (hmax.mpr hinfinite)]
    by_cases hm : unpackMantissa b = 0#52
    · rw [if_pos hm]
      rfl
    · rw [if_neg hm]
      rfl
  rw [if_neg hinfinite, if_neg (mt hmax.mp hinfinite)]
  by_cases hsmall : (unpackExponent b).toNat = 0
  · rw [if_pos hsmall, if_pos (hzero.mpr hsmall)]
    by_cases hm : unpackMantissa b = 0#52
    · rw [dif_pos hm, hm]
      rfl
    · rw [dif_neg hm, hsmall]
      rfl
  · rw [if_neg hsmall, if_neg (mt hzero.mp hsmall), fraction?, toNat_one_append, hbias]
    rfl

section Components

variable (s : Sign) (e : BitVec (Format.exponentBits .binary64))
  (m : BitVec (Format.mantissaBitsWithoutImplicit .binary64))

theorem unpack_packComponents (hzero : e.toNat ≠ 0) (hmax : e.toNat ≠ 2047) :
    UnpackedFloat.unpack .binary64 (packComponents .binary64 s e m) =
      .finite s (2 ^ 52 + m.toNat) ((e.toNat : Int) - 1075)
        (Nat.add_pos_left (Nat.two_pow_pos 52) _) := by
  have hbias : (Format.binary64.exponentBias : Int) +
      Format.binary64.mantissaBitsWithoutImplicit = 1075 := rfl
  have hnotZero : e ≠ 0#11 := fun h => hzero (BitVec.toNat_eq.mp h)
  have hnotMax : e ≠ -1#11 := fun h => hmax (BitVec.toNat_eq.mp h)
  simp only [UnpackedFloat.unpack, unpackMantissa_packComponents, unpackExponent_packComponents,
    unpackSign_packComponents, Sign.ofBitVec_toBitVec]
  rw [if_neg hnotMax, if_neg hnotZero]
  simp only [toNat_one_append, hbias]

end Components

/-- Packing loses nothing of a normal number. -/
theorem unpack_pack_finite (s : Sign) {m : Nat} {e : Int} (hm : 2 ^ 52 ≤ m) (hlt : m < 2 ^ 53)
    (he : -1074 ≤ e) (he' : e ≤ 971) (hpos : 0 < m) :
    (Float.Model.pack (.finite s m e hpos)).unpack = .finite s m e hpos := by
  have hlog : m.log2 = 52 := (Nat.log2_eq_iff (by omega)).mpr ⟨hm, hlt⟩
  have hbiased : (e + Format.binary64.exponentBias +
      Format.binary64.mantissaBitsWithoutImplicit).toNat = (e + 1075).toNat := by
    change (e + 1023 + 52).toNat = _
    omega
  obtain ⟨eb, heb⟩ : ∃ eb : BitVec (Format.exponentBits .binary64),
    eb = BitVec.ofNat _ (e + 1075).toNat := ⟨_, rfl⟩
  obtain ⟨mb, hmb⟩ : ∃ mb : BitVec (Format.mantissaBitsWithoutImplicit .binary64),
    mb = BitVec.ofNat _ m := ⟨_, rfl⟩
  have hebNat : eb.toNat = (e + 1075).toNat := by
    rw [heb, BitVec.toNat_ofNat]
    change (e + 1075).toNat % 2048 = _
    omega
  have hmbNat : mb.toNat = m - 2 ^ 52 := by
    rw [hmb, BitVec.toNat_ofNat]
    change m % 2 ^ 52 = _
    omega
  have hpack : UnpackedFloat.pack .binary64 (.finite s m e hpos) =
      packComponents .binary64 s eb mb := by
    rw [UnpackedFloat.pack, heb, hmb]
    simp only [hbiased]
    rw [if_neg (by change ¬ 2048 ≤ (e + 1075).toNat + 1; omega), if_pos (by rw [hlog]; rfl)]
  change UnpackedFloat.unpack .binary64 (UnpackedFloat.pack .binary64 _) = _
  rw [hpack, unpack_packComponents s eb mb (by omega) (by omega)]
  simp only [hebNat, hmbNat, UnpackedFloat.finite.injEq, true_and]
  omega

end Fields

theorem unpack_pack_ofNatural (s : Sign) {m : Nat} (hlt : m < 2 ^ 53) :
    (Float.Model.pack (ofNatural s m)).unpack = ofNatural s m := by
  by_cases hm : m = 0
  · subst hm
    cases s <;> rfl
  · have hlog := log2_le hlt
    have hlow := Nat.mul_le_mul_right (2 ^ (52 - m.log2)) (Nat.log2_self_le hm)
    have hhigh := Nat.mul_lt_mul_of_pos_right (Nat.lt_log2_self (n := m))
      (Nat.two_pow_pos (52 - m.log2))
    rw [← pow_add] at hlow hhigh
    rw [show m.log2 + (52 - m.log2) = 52 by omega] at hlow
    rw [show m.log2 + 1 + (52 - m.log2) = 53 by omega] at hhigh
    rw [ofNatural_of_ne_zero s hm]
    exact unpack_pack_finite s hlow hhigh (by omega) (by omega) _

theorem normalize_natCast {m : Nat} (hlt : m < 2 ^ 53) :
    UnpackedFloat.normalize .binary64 m 0 .positive = ofNatural .positive m := by
  by_cases hm : m = 0
  · subst hm
    rfl
  · have hcompare : compare (m : Int) 0 = .gt := Int.compare_eq_gt.mpr (by omega)
    have := round_mul_two_pow hm hlt .positive 0
    simpa [UnpackedFloat.normalize, hcompare] using this

theorem mul_one_ofNatural {m : Nat} (hlt : m < 2 ^ 53) :
    UnpackedFloat.mul .binary64 (ofNatural .positive m)
      (.finite .positive (2 ^ 52) (-52) (Nat.two_pow_pos 52)) = ofNatural .positive m := by
  by_cases hm : m = 0
  · subst hm
    rfl
  · have hlog := log2_le hlt
    have hexponent : (m.log2 : Int) - 52 + -52 = -((52 - m.log2 + 52 : Nat) : Int) := by omega
    have hround := roundWithAccuracy_mul_two_pow hm hlt .positive (k := 52 - m.log2 + 52) (by omega)
    rw [pow_add, ← mul_assoc] at hround
    rw [← hexponent] at hround
    conv_lhs => rw [ofNatural_of_ne_zero _ hm]
    exact hround

theorem neg_ofNatural {m : Nat} (hm : m ≠ 0) (s : Sign) :
    (ofNatural s m).neg = ofNatural (-s) m := by
  simp only [ofNatural_of_ne_zero _ hm, UnpackedFloat.neg]

theorem abs_ofNatural (s : Sign) (m : Nat) : (ofNatural s m).abs = ofNatural .positive m := by
  rw [ofNatural, ofNatural]
  split <;> rfl

theorem sub_one_ofNatural {m : Nat} (hm : m ≠ 0) (hlt : m < 2 ^ 53) :
    UnpackedFloat.sub .binary64 (ofNatural .positive m)
      (.finite .positive (2 ^ 52) (-52) (Nat.two_pow_pos 52)) = ofNatural .positive (m - 1) := by
  have hlog := log2_le hlt
  have hmin : min ((m.log2 : Int) - 52) (-52) = -52 := by omega
  have hleft : ((m.log2 : Int) - 52 - -52).toNat = m.log2 := by omega
  have hright : ((-52 : Int) - -52).toNat = 0 := by omega
  have hscaled : m * 2 ^ (52 - m.log2) * 2 ^ m.log2 = m * 2 ^ 52 := by
    rw [mul_assoc, ← pow_add]
    congr 2
    omega
  have hdifference : ((m * 2 ^ 52 : Nat) : Int) - ((2 ^ 52 : Nat) : Int) =
      (((m - 1) * 2 ^ 52 : Nat) : Int) := by
    rw [Nat.sub_mul, Nat.one_mul, Nat.cast_sub (Nat.le_mul_of_pos_left _ (by omega))]
  rw [ofNatural_of_ne_zero _ hm, UnpackedFloat.sub]
  simp only [hmin, decreaseExponent, hleft, hright, Nat.shiftLeft_eq, hscaled, pow_zero, mul_one,
    Sign.apply, hdifference]
  by_cases hone : m - 1 = 0
  · rw [hone]
    rfl
  · have hcompare : compare (((m - 1) * 2 ^ 52 : Nat) : Int) 0 = .gt :=
      Int.compare_eq_gt.mpr (by positivity)
    rw [UnpackedFloat.normalize, hcompare]
    exact round_mul_two_pow hone (by omega) .positive 52

theorem sub_zero_ofNatural (s : Sign) {m : Nat} (hm : m ≠ 0) :
    UnpackedFloat.sub .binary64 (ofNatural s m) (.zero .positive) = ofNatural s m := by
  rw [ofNatural_of_ne_zero _ hm]
  rfl

theorem roundHalfEven_mul (k : Nat) {d : Nat} (hd : 0 < d) :
    Binary64.roundHalfEven (k * d) d = k := by
  rw [Binary64.roundHalfEven, Nat.mul_div_cancel k hd, Nat.mul_mod_left, Nat.mul_zero]
  exact if_pos hd

theorem roundHalfUp_mul (k : Nat) {d : Nat} (hd : 0 < d) : Binary64.roundHalfUp (k * d) d = k := by
  have hsum : 2 * (k * d) + d = d + 2 * d * k := by ring
  rw [Binary64.roundHalfUp, hsum, Nat.add_mul_div_left _ _ (by omega),
    Nat.div_eq_of_lt (by omega), zero_add]

theorem exists_fraction_ofNatural (s : Sign) {m : Nat} (hlt : m < 2 ^ 53) :
    ∃ b : Binary64, fraction? (ofNatural s m) = some b ∧ b.negative = isNegative s ∧
      0 < b.denominator ∧ b.numerator = m * b.denominator := by
  by_cases hm : m = 0
  · subst hm
    exact ⟨⟨isNegative s, 0, -1074⟩, rfl, rfl, Nat.two_pow_pos _, by simp [Binary64.numerator]⟩
  · have hlog := log2_le hlt
    have hup : ((m.log2 : Int) - 52).toNat = 0 := by omega
    have hdown : (-((m.log2 : Int) - 52)).toNat = 52 - m.log2 := by omega
    refine ⟨⟨isNegative s, m * 2 ^ (52 - m.log2), (m.log2 : Int) - 52⟩, ?_, rfl,
      Nat.two_pow_pos _, ?_⟩
    · rw [ofNatural_of_ne_zero _ hm, fraction?]
    · simp only [Binary64.numerator, Binary64.denominator, hup, hdown, Nat.pow_eq, pow_zero,
        mul_one]

theorem nearestOver_ofNatural (scale : Nat) (s : Sign) {m : Nat} (hlt : m < 2 ^ 53) :
    (fraction? (ofNatural s m)).map (Binary64.nearestOver scale) =
      some (Binary64.signed (isNegative s) (scale * m)) := by
  obtain ⟨b, hb, hnegative, hpos, hnumerator⟩ := exists_fraction_ofNatural s hlt
  rw [hb, Option.map_some, Binary64.nearestOver, hnegative, hnumerator, ← mul_assoc,
    roundHalfEven_mul _ hpos]

theorem nearest_ofNatural (s : Sign) {m : Nat} (hlt : m < 2 ^ 53) :
    (fraction? (ofNatural s m)).map Binary64.nearest =
      some (Binary64.signed (isNegative s) m) := by
  obtain ⟨b, hb, hnegative, hpos, hnumerator⟩ := exists_fraction_ofNatural s hlt
  rw [hb, Option.map_some, Binary64.nearest, hnegative, hnumerator, roundHalfUp_mul _ hpos]

theorem ofNatural_ne_notANumber (s : Sign) (m : Nat) : ofNatural s m ≠ notANumber := by
  rw [ofNatural]
  split <;> exact UnpackedFloat.noConfusion

theorem beq_ofNatural_iff {u : UnpackedFloat} {s : Sign} {m : Nat} :
    u.beq (ofNatural s m) = true ↔ ∃ t, u = ofNatural t m ∧ (m ≠ 0 → t = s) := by
  rw [beq_iff_ne_notANumber_and_eq]
  constructor
  · rintro ⟨-, -, rfl | ⟨rfl, h⟩ | ⟨rfl, h⟩⟩
    · exact ⟨s, rfl, fun _ => rfl⟩
    all_goals
      by_cases hm : m = 0
      · subst hm
        exact ⟨_, rfl, by simp⟩
      · rw [ofNatural_of_ne_zero _ hm] at h
        cases h
  · rintro ⟨t, rfl, hs⟩
    refine ⟨ofNatural_ne_notANumber t m, ofNatural_ne_notANumber s m, ?_⟩
    by_cases hm : m = 0
    · subst hm
      cases s <;> cases t <;> simp [ofNatural]
    · exact Or.inl (by rw [hs hm])

end EquationTutor.Double
