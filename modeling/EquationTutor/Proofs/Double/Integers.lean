import EquationTutor.Proofs.Double.Rounding

open Float.Model Float.Model.UnpackedFloat

namespace EquationTutor.Double

def signOf (n : Int) : Sign :=
  if n < 0 then .negative else .positive

/-- The double is the integer, which has at most 53 bits. A zero may have either sign. -/
structure IsInteger (x : Float) (n : Int) : Prop where
  natAbs_lt : n.natAbs < 2 ^ 53
  exists_unpack : ∃ s, x.toModel.unpack = ofNatural s n.natAbs ∧ (n ≠ 0 → s = signOf n)

theorem signed_mul_natAbs {s : Sign} {n : Int} (hs : n ≠ 0 → s = signOf n) (scale : Nat) :
    Binary64.signed (isNegative s) (scale * n.natAbs) = scale * n := by
  by_cases hzero : n = 0
  · subst hzero
    cases s <;> simp [Binary64.signed]
  · rw [hs hzero, signOf]
    by_cases h : n < 0
    · rw [if_pos h, isNegative, Binary64.signed, if_pos rfl, Nat.cast_mul,
        Int.ofNat_natAbs_of_nonpos h.le, mul_neg, neg_neg]
    · rw [if_neg h, isNegative, Binary64.signed, if_neg Bool.false_ne_true, Nat.cast_mul,
        Int.natAbs_of_nonneg (not_lt.mp h)]

theorem unpack_one :
    (1 : Float).toModel.unpack = .finite .positive (2 ^ 52) (-52) (Nat.two_pow_pos 52) :=
  rfl

theorem exists_unpack_tolerance :
    ∃ m h, (1e-10 : Float).toModel.unpack = .finite .positive m (-86) h :=
  ⟨_, _, rfl⟩

section Literals

theorem toModel_toFloat {m : Nat} (hlt : m < 2 ^ 53) :
    m.toUInt64.toFloat.toModel = Float.Model.pack (ofNatural .positive m) := by
  have hword : m.toUInt64.toNat = m := by
    rw [Nat.toUInt64_eq, UInt64.toNat_ofNat']
    omega
  rw [← normalize_natCast hlt]
  change Float.Model.pack (UnpackedFloat.normalize .binary64 m.toUInt64.toNat 0 .positive) = _
  rw [hword]

theorem toModel_ofNat {m : Nat} (hlt : m < 2 ^ 53) :
    (Float.ofNat m).toModel = Float.Model.pack (ofNatural .positive m) := by
  have hproduct : Float.ofNat m = m.toUInt64.toFloat * Float.ofBits 0x3FF0000000000000 := by
    change Float.ofScientific m false 0 = _
    rw [Float.ofScientific, dif_pos ⟨hlt, by decide⟩]
    rfl
  have hone : (Float.ofBits 0x3FF0000000000000).toModel.unpack =
      .finite .positive (2 ^ 52) (-52) (Nat.two_pow_pos 52) := rfl
  rw [hproduct]
  change Float.Model.pack (UnpackedFloat.mul .binary64 m.toUInt64.toFloat.toModel.unpack
    (Float.ofBits 0x3FF0000000000000).toModel.unpack) = _
  rw [toModel_toFloat hlt, unpack_pack_ofNatural .positive hlt, hone, mul_one_ofNatural hlt]

variable {n : Int} (hn : n.natAbs < 2 ^ 53)
include hn

theorem toModel_ofInt :
    (Float.ofInt n).toModel = Float.Model.pack (ofNatural (signOf n) n.natAbs) := by
  cases n with
  | ofNat m =>
      have hsign : signOf (Int.ofNat m) = .positive := by simp [signOf]
      rw [hsign]
      exact toModel_ofNat hn
  | negSucc m =>
      have hsign : signOf (Int.negSucc m) = .negative := by simp [signOf, Int.negSucc_lt_zero]
      have hlt : m.succ < 2 ^ 53 := hn
      rw [hsign]
      change Float.Model.pack (Float.ofNat m.succ).toModel.unpack.neg = _
      rw [toModel_ofNat hlt, unpack_pack_ofNatural _ hlt, neg_ofNatural (Nat.succ_ne_zero m)]
      rfl

theorem unpack_ofInt : (Float.ofInt n).toModel.unpack = ofNatural (signOf n) n.natAbs := by
  rw [toModel_ofInt hn, unpack_pack_ofNatural _ hn]

theorem ofInt_sub_zero : Float.ofInt n - Float.ofInt 0 = Float.ofInt n := by
  have hzero : (Float.ofInt 0).toModel.unpack = .zero .positive := rfl
  have hmodel : (Float.ofInt n - Float.ofInt 0).toModel = (Float.ofInt n).toModel := by
    change Float.Model.pack (UnpackedFloat.sub .binary64 (Float.ofInt n).toModel.unpack
      (Float.ofInt 0).toModel.unpack) = _
    rw [unpack_ofInt hn, hzero, toModel_ofInt hn]
    by_cases h : n = 0
    · subst h
      rfl
    · rw [sub_zero_ofNatural _ (Int.natAbs_ne_zero.mpr h)]
  exact congrArg Float.ofModel hmodel

theorem isInteger_of_beq {x : Float} (h : (x == Float.ofInt n) = true) : IsInteger x n := by
  have hbeq : x.toModel.unpack.beq (Float.ofInt n).toModel.unpack = true := h
  rw [unpack_ofInt hn, beq_ofNatural_iff] at hbeq
  obtain ⟨s, hx, hs⟩ := hbeq
  exact ⟨hn, s, hx, fun h => hs (Int.natAbs_ne_zero.mpr h)⟩

end Literals

theorem lt_iff (x y : Float) : x < y ↔ x.toModel.unpack.lt y.toModel.unpack = true := by
  change decide (x.toModel < y.toModel) = true ↔ _
  exact decide_eq_true_iff

theorem lt_tolerance_iff {x : Float} {m : Nat} (hx : x.toModel.unpack = ofNatural .positive m) :
    x < 1e-10 ↔ m = 0 := by
  obtain ⟨t, ht, htolerance⟩ := exists_unpack_tolerance
  rw [lt_iff, hx, htolerance]
  by_cases hm : m = 0
  · subst hm
    simp [ofNatural, UnpackedFloat.lt, UnpackedFloat.compare]
  · have hexponent : compare ((m.log2 : Int) - 52) (-86) = .gt :=
      Int.compare_eq_gt.mpr (by omega)
    simp [ofNatural_of_ne_zero _ hm, UnpackedFloat.lt, UnpackedFloat.compare, hexponent, hm]

namespace IsInteger

variable {x : Float} {n : Int} (hx : IsInteger x n)
include hx

theorem isNaN_eq_false : x.isNaN = false := by
  obtain ⟨-, s, hx, -⟩ := hx
  change x.toModel.unpack.isNaN = false
  rw [hx, ofNatural]
  split <;> rfl

theorem isFinite_eq_true : x.isFinite = true := by
  obtain ⟨-, s, hx, -⟩ := hx
  change x.toModel.unpack.isFinite = true
  rw [hx, ofNatural]
  split <;> rfl

theorem lt_zero_iff : x < Float.ofScientific 0 false 0 ↔ n < 0 := by
  obtain ⟨-, s, hx, hs⟩ := hx
  have hzero : (Float.ofScientific 0 false 0).toModel.unpack = .zero .positive := rfl
  rw [lt_iff, hx, hzero]
  by_cases hn : n = 0
  · subst hn
    simp [ofNatural, UnpackedFloat.lt, UnpackedFloat.compare]
  · rw [hs hn, signOf, ofNatural_of_ne_zero _ (Int.natAbs_ne_zero.mpr hn)]
    by_cases h : n < 0
    · simp [h, UnpackedFloat.lt, UnpackedFloat.compare]
    · simp [h, UnpackedFloat.lt, UnpackedFloat.compare]

theorem unpack_abs : x.abs.toModel.unpack = ofNatural .positive n.natAbs := by
  obtain ⟨hn, s, hx, -⟩ := hx
  change (Float.Model.pack x.toModel.unpack.abs).unpack = _
  rw [hx, abs_ofNatural, unpack_pack_ofNatural .positive hn]

theorem abs : IsInteger x.abs n.natAbs := by
  refine ⟨hx.natAbs_lt, .positive, hx.unpack_abs, fun _ => ?_⟩
  rw [signOf, if_neg (by omega)]

theorem isZero_iff : Scalar.isZero x = true ↔ n = 0 := by
  change decide (x.abs < 1e-10) = true ↔ _
  rw [decide_eq_true_iff, lt_tolerance_iff hx.unpack_abs, Int.natAbs_eq_zero]

theorem isZero_abs_sub_one_iff (hn : n ≠ 0) :
    Scalar.isZero (x.abs - Float.ofScientific 1 false 0) = true ↔ n.natAbs = 1 := by
  have hm : n.natAbs ≠ 0 := Int.natAbs_ne_zero.mpr hn
  have hlt : n.natAbs - 1 < 2 ^ 53 := by
    have := hx.natAbs_lt
    omega
  have hdifference : (x.abs - Float.ofScientific 1 false 0).abs.toModel.unpack =
      ofNatural .positive (n.natAbs - 1) := by
    change (Float.Model.pack (Float.Model.pack (UnpackedFloat.sub .binary64
      x.abs.toModel.unpack (1 : Float).toModel.unpack)).unpack.abs).unpack = _
    rw [hx.unpack_abs, unpack_one, sub_one_ofNatural hm hx.natAbs_lt,
      unpack_pack_ofNatural _ hlt, abs_ofNatural, unpack_pack_ofNatural _ hlt]
  change decide ((x.abs - Float.ofScientific 1 false 0).abs < 1e-10) = true ↔ _
  rw [decide_eq_true_iff, lt_tolerance_iff hdifference]
  omega

theorem millionths_eq : Scalar.millionths x = n * 1000000 := by
  obtain ⟨hn, s, hx, hs⟩ := hx
  change ((Binary64.ofFloat? x).map (Binary64.nearestOver 1000000)).getD 0 = _
  rw [ofFloat?_eq_fraction?, hx, nearestOver_ofNatural _ _ hn, Option.getD_some,
    signed_mul_natAbs hs, mul_comm]
  rfl

theorem nearest_eq : Scalar.nearest x = n := by
  obtain ⟨hn, s, hx, hs⟩ := hx
  change ((Binary64.ofFloat? x).map Binary64.nearest).getD 0 = _
  rw [ofFloat?_eq_fraction?, hx, nearest_ofNatural _ hn, Option.getD_some, ← one_mul n.natAbs,
    signed_mul_natAbs hs, Nat.cast_one, one_mul]

theorem beq_ofInt : (x == Float.ofInt n) = true := by
  obtain ⟨hn, s, hx, hs⟩ := hx
  change x.toModel.unpack.beq (Float.ofInt n).toModel.unpack = true
  rw [unpack_ofInt hn]
  exact beq_ofNatural_iff.mpr ⟨s, hx, fun h => hs (Int.natAbs_ne_zero.mp h)⟩

end IsInteger

end EquationTutor.Double
