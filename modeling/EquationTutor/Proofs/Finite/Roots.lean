import EquationTutor.Proofs.Double.Order
import EquationTutor.Proofs.Finite.Numbers
import EquationTutor.Proofs.Solution.Answers

open Float.Model Float.Model.UnpackedFloat

namespace EquationTutor.Solve

open Double

/-- The greater numerator of the quadratic formula, halved. -/
def numerator (b root : Float) : Float :=
  -0.5 * (b + (if 0 ≤ b then 1 else -1) * root)

theorem discriminant_double (a b c : Float) : discriminant a b c = b * b - 4 * a * c :=
  rfl

theorem rootsOf_double (a b c delta : Float) :
    rootsOf a b c delta =
      if (1e-10 : Float) < delta then
        let q := numerator b delta.sqrt
        .two (smaller (q / a) (c / q)) (larger (q / a) (c / q))
      else if delta.abs ≤ 1e-10 then .one (-b / (2 * a))
      else
        let z : EquationTutor.Complex Float := ⟨-b / (2 * a), (-delta).sqrt / (2 * a).abs⟩
        .complexPair z z.conj :=
  rfl

section Sets

theorem isFinite_two_iff {x y : Float} :
    (QuadraticRoots.two x y).toSet.IsFinite ↔ x.isFinite = true ∧ y.isFinite = true :=
  List.forall_mem_cons.trans (and_congr_right' List.forall_mem_singleton)

theorem isFinite_one_iff {x : Float} :
    (QuadraticRoots.one x).toSet.IsFinite ↔ x.isFinite = true :=
  List.forall_mem_singleton

theorem isFinite_complexPair_iff {z : EquationTutor.Complex Float} :
    (QuadraticRoots.complexPair z z.conj).toSet.IsFinite ↔
      z.re.isFinite = true ∧ z.im.isFinite = true := by
  change (∀ x ∈ [z.re, z.im, z.re, -z.im], x.isFinite = true) ↔ _
  simp only [List.forall_mem_cons, isFinite_neg_iff]
  tauto

end Sets

section Literals

theorem magnitude_two : IsAbove 1 (2 : Float) ∧ IsBelow 2 (2 : Float) :=
  magnitude_of_unpack (x := 2) (e := -51) rfl rfl rfl

theorem magnitude_four : IsAbove 2 (4 : Float) ∧ IsBelow 3 (4 : Float) :=
  magnitude_of_unpack (x := 4) (e := -50) rfl rfl rfl

theorem magnitude_half : IsAbove (-1) (-0.5 : Float) ∧ IsBelow 0 (-0.5 : Float) :=
  magnitude_of_unpack (x := -0.5) (e := -53) rfl rfl rfl

theorem magnitude_unit (b : Float) :
    IsAbove 0 (if 0 ≤ b then 1 else -1) ∧ IsBelow 1 (if 0 ≤ b then 1 else -1) := by
  split
  · exact magnitude_of_unpack (x := 1) (e := -52) rfl rfl rfl
  · exact magnitude_of_unpack (x := -1) (e := -52) rfl rfl rfl

end Literals

section Numerator

variable {b root : Float} {i k : Int}

/-- The sign with which the root is taken, so that nothing cancels. -/
def rootSign (b : Float) : Sign :=
  if 0 ≤ b then .positive else .negative

theorem sign_eq_rootSign (hb : b.isFinite = true) :
    sign? b.toModel.unpack = some (rootSign b) ∨ ∃ t, b.toModel.unpack = .zero t := by
  unfold rootSign
  split
  · rename_i h
    exact sign_of_zero_le h
  · rename_i h
    exact .inl (sign_of_not_zero_le (isNaN_eq_false_of_isFinite hb) h)

theorem sign_unit (b : Float) :
    ∃ h, (if 0 ≤ b then 1 else -1 : Float).toModel.unpack =
      .finite (rootSign b) (2 ^ 52) (-52) h := by
  unfold rootSign
  split
  · exact ⟨Nat.two_pow_pos 52, rfl⟩
  · exact ⟨Nat.two_pow_pos 52, rfl⟩

theorem sign_signed_root (hroot : sign? root.toModel.unpack = some .positive) :
    sign? ((if 0 ≤ b then 1 else -1) * root).toModel.unpack = some (rootSign b) := by
  have hpositive (s : Sign) : s * .positive = s := by cases s <;> rfl
  obtain ⟨hpos, hunit⟩ := sign_unit b
  rw [unpack_mul, sign?_repack, hunit, sign?_mul hroot, hpositive]

theorem isAbove_numerator (hb : b.isFinite = true)
    (hroot : sign? root.toModel.unpack = some .positive) (h : IsAbove i b ∨ IsAbove i root)
    (hk : k + 1 ≤ i) (hk' : -1074 ≤ k) : IsAbove k (numerator b root) := by
  have hunit := (magnitude_unit b).1
  have hsum : IsAbove (k + 1) (b + (if 0 ≤ b then 1 else -1) * root) := by
    refine IsAbove.add (sign_eq_rootSign hb) (sign_signed_root hroot) ?_ (by omega)
    rcases h with h | h
    · exact .inl (h.anti hk)
    · exact .inr (hunit.mul h (by omega) (by omega))
  exact magnitude_half.1.mul hsum (by omega) hk'

theorem isBelow_numerator (hb : IsBelow i b) (hroot : IsBelow i root) (hk : i + 4 < k)
    (hmin : -1074 < i) (hmax : k ≤ 1024) : IsBelow k (numerator b root) := by
  have hterm : IsBelow (i + 2) ((if 0 ≤ b then 1 else -1) * root) :=
    (magnitude_unit b).2.mul hroot (by omega) (by omega) (by omega)
  have hsum : IsBelow (i + 4) (b + (if 0 ≤ b then 1 else -1) * root) :=
    IsBelow.add (hb.mono (by omega)) hterm (by omega) (by omega) (by omega)
  exact magnitude_half.2.mul hsum (by omega) (by omega) hmax

theorem isNaN_numerator_eq_false (hb : b.isFinite = true) (hroot : root.isNaN = false) :
    (numerator b root).isNaN = false := by
  have hunit : IsNonzero (if 0 ≤ b then 1 else -1) :=
    (magnitude_unit b).1.isNonzero (magnitude_unit b).2.isFinite
  exact isNaN_mul_eq_false (magnitude_half.1.isNonzero magnitude_half.2.isFinite)
    (isNaN_add_eq_false hb (isNaN_mul_eq_false hunit hroot))

theorem unpack_numerator_of_infinity (hb : b.isFinite = true)
    (hroot : root.toModel.unpack = .infinity .positive) :
    (numerator b root).toModel.unpack = .infinity (-rootSign b) := by
  have hnegative (s : Sign) : .negative * (s * .positive) = -s := by cases s <;> rfl
  obtain ⟨hpos, hunit⟩ := sign_unit b
  have hterm : ((if 0 ≤ b then 1 else -1) * root).toModel.unpack =
      .infinity (rootSign b * .positive) := by
    refine unpack_mul_infinity ?_ ?_ hroot <;> rw [hunit]
    · rfl
    · exact fun t => UnpackedFloat.noConfusion
  have hhalf : (-0.5 : Float).toModel.unpack = .finite .negative (2 ^ 52) (-53) (by decide) := rfl
  have hproduct : (numerator b root).toModel.unpack =
      .infinity (.negative * (rootSign b * .positive)) := by
    refine unpack_mul_infinity ?_ ?_ (unpack_add_infinity hb hterm) <;> rw [hhalf]
    · rfl
    · exact fun t => UnpackedFloat.noConfusion
  rw [hproduct, hnegative]

end Numerator

section Discriminant

variable {a b c : Float}

theorem isBelow_sqrt {x : Float} (hsign : sign? x.toModel.unpack = some .positive)
    (hx : x.isFinite = true) : IsBelow 513 x.sqrt :=
  (isFinite_iff_isBelow.mp hx).sqrt hsign (by decide) (by decide) (by decide)

theorem isBelow_of_isFinite_mul_self (h : (b * b).isFinite = true) : IsBelow 512 b := by
  refine (isBelow_or_isAbove (isFinite_of_isFinite_mul h).1 512).resolve_right fun hb => ?_
  have hlarge : IsAbove 1024 (b * b) := hb.mul hb (by decide) (by decide)
  exact hlarge.not_isBelow le_rfl (isFinite_iff_isBelow.mp h)

theorem bounds_of_isFinite_discriminant (h : (discriminant a b c).isFinite = true) :
    IsBelow 512 b ∧ c.isFinite = true ∧ (4 * a * c).isFinite = true := by
  rw [discriminant_double] at h
  obtain ⟨hsquare, hproduct⟩ := isFinite_of_isFinite_sub h
  exact ⟨isBelow_of_isFinite_mul_self hsquare, (isFinite_of_isFinite_mul hproduct).2, hproduct⟩

/-- It takes a coefficient of at least `2 ^ 508` to make the discriminant overflow. -/
theorem isFinite_discriminant (ha : IsBelow 508 a) (hb : IsBelow 508 b) (hc : IsBelow 508 c) :
    (discriminant a b c).isFinite = true := by
  have hsquare : IsBelow 1021 (b * b) := hb.mul hb (by decide) (by decide) (by decide)
  have hfour : IsBelow 512 (4 * a) := magnitude_four.2.mul ha (by decide) (by decide) (by decide)
  have hproduct : IsBelow 1021 (4 * a * c) := hfour.mul hc (by decide) (by decide) (by decide)
  exact (hsquare.sub hproduct (k := 1023) (by decide) (by decide) (by decide)).isFinite

theorem isAbove_numerator_of_constant (ha : IsAbove (-34) a)
    (h : (discriminant a b c).isFinite = true) (hlt : 1e-10 < discriminant a b c)
    (hc : IsAbove 1000 c) : IsAbove 482 (numerator b (discriminant a b c).sqrt) := by
  obtain ⟨hb, -, hproduct⟩ := bounds_of_isFinite_discriminant h
  obtain ⟨hsign, habove⟩ := positive_of_tolerance_lt hlt
  have hsquare := sign_mul_self (isNaN_eq_false_of_isFinite hb.isFinite)
  have hlarge : IsAbove 968 (4 * a * c) :=
    IsAbove.mul (magnitude_four.1.mul ha (k := -32) (by decide) (by decide)) hc (by decide)
      (by decide)
  have hroot : IsAbove 483 b ∨ IsAbove 483 (discriminant a b c).sqrt := by
    obtain ⟨s, hs⟩ := Option.isSome_iff_exists.mp
      (isNaN_eq_false_iff.mp (isNaN_eq_false_of_isFinite hproduct))
    cases s with
    | positive =>
        -- the product is taken from the square, so the square is as great
        left
        refine (isBelow_or_isAbove hb.isFinite 483).resolve_left fun hsmall => ?_
        have hlargeSquare : IsAbove 968 (b * b) := IsAbove.of_sub hs hlarge hsign habove
        exact hlargeSquare.not_isBelow (k := 967) (by decide)
          (hsmall.mul hsmall (by decide) (by decide) (by decide))
    | negative =>
        -- nothing cancels, so the discriminant is as great as the product
        right
        have hdelta : IsAbove 968 (discriminant a b c) :=
          IsAbove.sub hsquare hs (.inr hlarge) (by decide)
        exact hdelta.sqrt hsign (by decide) (by decide)
  exact isAbove_numerator hb.isFinite (sign_sqrt hsign) hroot (by decide) (by decide)

theorem isFinite_quotients (ha : IsAbove (-34) a) (h : (discriminant a b c).isFinite = true)
    (hlt : 1e-10 < discriminant a b c) :
    (numerator b (discriminant a b c).sqrt / a).isFinite = true ∧
      (c / numerator b (discriminant a b c).sqrt).isFinite = true := by
  obtain ⟨hb, hc, -⟩ := bounds_of_isFinite_discriminant h
  obtain ⟨hsign, habove⟩ := positive_of_tolerance_lt hlt
  have hrootBelow := isBelow_sqrt hsign h
  have hrootAbove : IsAbove (-17) (discriminant a b c).sqrt :=
    habove.sqrt hsign (by decide) (by decide)
  have hqBelow : IsBelow 518 (numerator b (discriminant a b c).sqrt) :=
    isBelow_numerator (hb.mono (by decide)) hrootBelow (by decide) (by decide) (by decide)
  have hqAbove : IsAbove (-18) (numerator b (discriminant a b c).sqrt) :=
    isAbove_numerator hb.isFinite (sign_sqrt hsign) (.inr hrootAbove) (by decide) (by decide)
  constructor
  · exact (hqBelow.div ha (k := 553) (by decide) (by decide) (by decide)).isFinite
  · rcases isBelow_or_isAbove hc 1000 with hsmall | hlarge
    · exact (hsmall.div hqAbove (k := 1019) (by decide) (by decide) (by decide)).isFinite
    · have hq := isAbove_numerator_of_constant ha h hlt hlarge
      exact ((isFinite_iff_isBelow.mp hc).div hq (k := 543) (by decide) (by decide)
        (by decide)).isFinite

theorem isFinite_axis (ha : IsAbove (-34) a) (hb : IsBelow 512 b) :
    (-b / (2 * a)).isFinite = true := by
  have htwice : IsAbove (-33) (2 * a) := magnitude_two.1.mul ha (by decide) (by decide)
  exact ((hb.neg (by decide)).div htwice (k := 546) (by decide) (by decide) (by decide)).isFinite

theorem isFinite_imaginary (ha : IsAbove (-34) a) {delta : Float} (h : delta.isFinite = true)
    (hlt : ¬ 1e-10 < delta) (hle : ¬ delta.abs ≤ 1e-10) :
    ((-delta).sqrt / (2 * a).abs).isFinite = true := by
  have hroot : IsBelow 513 (-delta).sqrt :=
    isBelow_sqrt (sign_neg_of_not_le h hlt hle) (isFinite_neg_iff.mpr h)
  have htwice : IsAbove (-33) (2 * a).abs :=
    (magnitude_two.1.mul ha (k := -33) (by decide) (by decide)).abs
  exact (hroot.div htwice (k := 547) (by decide) (by decide) (by decide)).isFinite

theorem isFinite_toSet_of_isFinite (ha : IsAbove (-34) a)
    (h : (discriminant a b c).isFinite = true) :
    (rootsOf a b c (discriminant a b c)).toSet.IsFinite := by
  obtain ⟨hb, -, -⟩ := bounds_of_isFinite_discriminant h
  rw [rootsOf_double]
  split
  · rename_i hlt
    obtain ⟨hx, hy⟩ := isFinite_quotients ha h hlt
    exact isFinite_two_iff.mpr ⟨isFinite_smaller hx hy, isFinite_larger hx hy⟩
  · rename_i hlt
    split
    · exact isFinite_one_iff.mpr (isFinite_axis ha hb)
    · rename_i hle
      exact isFinite_complexPair_iff.mpr ⟨isFinite_axis ha hb, isFinite_imaginary ha h hlt hle⟩

/-- With an infinite discriminant one of the roots is infinite, on the side to which the
parabola has overflowed, and the other one is zero. -/
theorem rootsOf_of_infinity {s : Sign} {m : Nat} {e : Int} {hm : 0 < m} {delta : Float}
    (ha : a.toModel.unpack = .finite s m e hm) (hb : b.isFinite = true) (hc : c.isFinite = true)
    (hdelta : delta.toModel.unpack = .infinity .positive) :
    ∃ x z t, x.toModel.unpack = .infinity (-rootSign b / s) ∧ z.toModel.unpack = .zero t ∧
      (-rootSign b / s = .negative ∧ rootsOf a b c delta = .two x z ∨
        -rootSign b / s = .positive ∧ rootsOf a b c delta = .two z x) := by
  have hq := unpack_numerator_of_infinity hb (unpack_sqrt_infinity hdelta)
  have hx := unpack_infinity_div hq ha
  obtain ⟨t, hz⟩ := unpack_div_infinity hc hq
  refine ⟨_, _, t, hx, hz, ?_⟩
  rw [rootsOf_double, if_pos (tolerance_lt_of_infinity hdelta)]
  cases hside : -rootSign b / s with
  | negative =>
      rw [hside] at hx
      obtain ⟨hsmaller, hlarger⟩ := choice_of_negInfinity hx hz
      exact .inl ⟨rfl, congrArg₂ QuadraticRoots.two hsmaller hlarger⟩
  | positive =>
      rw [hside] at hx
      obtain ⟨hsmaller, hlarger⟩ := choice_of_posInfinity hx hz
      exact .inr ⟨rfl, congrArg₂ QuadraticRoots.two hsmaller hlarger⟩

theorem rootsOf_of_infinity_constant {s : Sign} {m : Nat} {e : Int} {hm : 0 < m} {delta : Float}
    (ha : a.toModel.unpack = .finite s m e hm) (hb : b.isFinite = true) (hc : c.isFinite = false)
    (hdelta : delta.toModel.unpack = .infinity .positive) :
    ∃ x, x.toModel.unpack = .infinity (-rootSign b / s) ∧ rootsOf a b c delta = .two x x := by
  have hq := unpack_numerator_of_infinity hb (unpack_sqrt_infinity hdelta)
  refine ⟨_, unpack_infinity_div hq ha, ?_⟩
  rw [rootsOf_double, if_pos (tolerance_lt_of_infinity hdelta)]
  obtain ⟨hsmaller, hlarger⟩ := choice_of_isNaN (isNaN_div_infinity hc hq)
  exact congrArg₂ QuadraticRoots.two hsmaller hlarger

theorem rootsOf_of_not_isFinite {delta : Float} (h : delta.isFinite = false)
    (hdelta : delta.toModel.unpack ≠ .infinity .positive) :
    ∃ z : EquationTutor.Complex Float, z.im.isFinite = false ∧
      rootsOf a b c delta = .complexPair z z.conj := by
  have hroot := isFinite_sqrt_neg_eq_false h
  refine ⟨⟨-b / (2 * a), (-delta).sqrt / (2 * a).abs⟩, ?_, ?_⟩
  · refine Bool.eq_false_of_not_eq_true fun hfinite => ?_
    rw [isFinite_of_isFinite_div hfinite] at hroot
    cases hroot
  · rw [rootsOf_double, if_neg (not_tolerance_lt h hdelta), if_neg (not_abs_le_of_not_isFinite h)]

/-- The roots are finite just if the discriminant is. -/
theorem isFinite_toSet_rootsOf_iff (hlead : IsAbove (-34) a) (ha : a.isFinite = true)
    (hb : b.isFinite = true) (hc : c.isFinite = true) :
    (rootsOf a b c (discriminant a b c)).toSet.IsFinite ↔
      (discriminant a b c).isFinite = true := by
  refine ⟨fun h => ?_, isFinite_toSet_of_isFinite hlead⟩
  by_contra hinfinite
  have hinfinite := Bool.eq_false_of_not_eq_true hinfinite
  by_cases hdelta : (discriminant a b c).toModel.unpack = .infinity .positive
  · obtain ⟨s, m, e, hm, ha⟩ := hlead.isNonzero ha
    obtain ⟨x, z, t, hx, -, ⟨-, hroots⟩ | ⟨-, hroots⟩⟩ := rootsOf_of_infinity ha hb hc hdelta
    · rw [hroots, isFinite_two_iff] at h
      exact not_isFinite_of_infinity hx h.1
    · rw [hroots, isFinite_two_iff] at h
      exact not_isFinite_of_infinity hx h.2
  · obtain ⟨z, hz, hroots⟩ := rootsOf_of_not_isFinite (a := a) (b := b) (c := c) hinfinite hdelta
    rw [hroots, isFinite_complexPair_iff, hz] at h
    cases h.2

theorem isNaN_real_rootsOf (hlead : IsAbove (-34) a) (ha : a.isFinite = true)
    (hb : b.isFinite = true) (delta : Float) :
    ∀ u ∈ (rootsOf a b c delta).real, u.isNaN = false := by
  have hnonzero := hlead.isNonzero ha
  rw [rootsOf_double]
  split
  · rename_i hlt
    have hroot : delta.sqrt.isNaN = false := by
      rw [isNaN_eq_false_iff, sign_sqrt (positive_of_tolerance_lt hlt).1]
      rfl
    have hquotient := isNaN_div_eq_false (isNaN_numerator_eq_false hb hroot) hnonzero
    exact List.forall_mem_cons.mpr ⟨isNaN_smaller_eq_false hquotient,
      List.forall_mem_singleton.mpr (isNaN_larger_eq_false hquotient)⟩
  · split
    · have htwice : IsAbove (-33) (2 * a) := magnitude_two.1.mul hlead (by decide) (by decide)
      have hnumber : (2 * a).isNaN = false :=
        isNaN_mul_eq_false (magnitude_two.1.isNonzero magnitude_two.2.isFinite)
          (isNaN_eq_false_of_isFinite ha)
      have haxis : (-b / (2 * a)).isNaN = false := by
        refine isNaN_div_eq_false_of_isFinite (isFinite_neg_iff.mpr hb) hnumber fun s hzero => ?_
        rw [IsAbove, hzero] at htwice
        exact htwice
      exact List.forall_mem_singleton.mpr haxis
    · simp [QuadraticRoots.real]

end Discriminant

section Parameters

variable {p : Params Float}

theorem isAbove_of_checkLeading {a : Float} (ha : a.isFinite = true)
    (h : checkLeading a = .ok ()) : IsAbove (-34) a := by
  unfold checkLeading at h
  split at h
  · cases h
  · rename_i hle
    exact isAbove_of_not_abs_lt ha hle

theorem isFinite_of_quadraticCoefficients {kind : Kind} {a b c : Float} (hp : p.IsFinite)
    (h : quadraticCoefficients p kind = .ok (a, b, c)) :
    a.isFinite = true ∧ b.isFinite = true ∧ c.isFinite = true := by
  unfold quadraticCoefficients at h
  split at h
  · cases h
    exact ⟨hp.numberD "a" rfl, hp.numberD "b" rfl, hp.numberD "c" rfl⟩
  · cases h

end Parameters

end EquationTutor.Solve
