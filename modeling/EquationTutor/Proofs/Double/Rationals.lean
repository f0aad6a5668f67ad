import EquationTutor.Proofs.Double.Nearest

open Float.Model Float.Model.UnpackedFloat

namespace EquationTutor.Double

section Range

variable {u v : UnpackedFloat}

/-- Only what overflows is changed by packing. -/
theorem repack_of_isFinite (hu : Canonical u) (h : (repack u).isFinite = true) :
    repack u = u := by
  have hfinite := isFinite_of_isFinite_repack h
  cases u with
  | notANumber => cases hfinite
  | infinity s => cases hfinite
  | zero s => exact repack_zero s
  | finite s m e hm =>
      by_cases hlarge : 1024 ≤ (m.log2 : Int) + e
      · rw [repack_overflow hu hlarge] at h
        cases h
      · exact repack_of_below hu (not_le.mp hlarge)

theorem abs_rationalOf {s : Sign} {m : Nat} {e : Int} (hm : 0 < m) :
    |rationalOf (.finite s m e hm)| = m * 2 ^ e := by
  rw [rationalOf, abs_mul, ← Int.cast_abs, Int.abs_eq_natAbs, natAbs_apply, Int.cast_natCast,
    abs_of_pos (zpow_pos two_pos e)]

theorem abs_rationalOf_le (hu : Canonical u) (h : Below 1024 u) :
    |rationalOf u| ≤ (2 ^ 53 - 1) * 2 ^ (971 : ℤ) := by
  have hgreatest : (0 : ℚ) ≤ (2 ^ 53 - 1) * 2 ^ (971 : ℤ) :=
    mul_nonneg (by norm_num) (by positivity)
  cases u with
  | notANumber => exact h.elim
  | infinity s => exact h.elim
  | zero s =>
      change |(0 : ℚ)| ≤ _
      rwa [abs_zero]
  | finite s m e hm =>
      have hbelow : (m.log2 : Int) + e < 1024 := h
      have hlog := log2_of_canonical hu
      have hmantissa : (m : ℚ) ≤ 2 ^ 53 - 1 := by
        have := hu.1
        exact_mod_cast (by omega : (m : Int) ≤ 2 ^ 53 - 1)
      have hexponent : (2 : ℚ) ^ e ≤ 2 ^ (971 : ℤ) :=
        zpow_le_zpow_right₀ one_le_two (by omega)
      rw [abs_rationalOf]
      exact mul_le_mul hmantissa hexponent (by positivity) (by norm_num)

theorem below_of_abs_rationalOf_lt {k : Int} (hk : Below k u)
    (h : |rationalOf u| < 2 ^ 53 * 2 ^ (971 : ℤ)) : Below 1024 u := by
  cases u with
  | notANumber => exact hk.elim
  | infinity s => exact hk.elim
  | zero s => trivial
  | finite s m e hm =>
      by_contra hlarge
      have hexponent : (1024 : ℤ) ≤ m.log2 + e := not_lt.mp hlarge
      have hmantissa : (2 : ℚ) ^ m.log2 ≤ m := by exact_mod_cast Nat.log2_self_le hm.ne'
      rw [abs_rationalOf] at h
      refine h.not_ge ?_
      calc
        (2 : ℚ) ^ 53 * 2 ^ (971 : ℤ) = 2 ^ (1024 : ℤ) := by
          rw [← zpow_natCast, ← zpow_add₀ two_ne_zero]
          rfl
        _ ≤ 2 ^ (m.log2 + e : ℤ) := zpow_le_zpow_right₀ one_le_two hexponent
        _ = 2 ^ m.log2 * 2 ^ e := by rw [zpow_add₀ two_ne_zero, zpow_natCast]
        _ ≤ m * 2 ^ e := mul_le_mul_of_nonneg_right hmantissa (by positivity)

theorem below_add_of_lt (hu : Canonical u) (hv : Canonical v) (hfu : u.isFinite = true)
    (hfv : v.isFinite = true) (hbu : Below 1024 u) (hbv : Below 1024 v)
    (h : 2 * |rationalOf v| < 2 ^ (971 : ℤ)) : Below 1024 (UnpackedFloat.add .binary64 u v) := by
  have hrounding := (isRounding_addParts hu hv hfu hfv).le _ (representable_rationalOf hu)
  rw [sub_add_cancel_left, abs_neg] at hrounding
  have hgreatest := abs_rationalOf_le hu hbu
  have hsum := abs_add_le (rationalOf u) (rationalOf v)
  have hdistance := abs_sub_abs_le_abs_sub (rationalOf (UnpackedFloat.add .binary64 u v))
    (rationalOf u + rationalOf v)
  exact below_of_abs_rationalOf_lt (below_add hbu hbv (k := 1026) (by decide) (by decide))
    (by linarith)

end Range

section Doubles

variable {x y : Float}

/-- The number that the double stands for; 0 if it stands for none. -/
def rational (x : Float) : ℚ :=
  rationalOf x.toModel.unpack

theorem representable_rational (x : Float) : Representable (rational x) :=
  representable_rationalOf (canonical_unpack x)

theorem abs_rational_lt (hx : x.isFinite = true) : |rational x| < 2 ^ 53 * 2 ^ (971 : ℤ) :=
  (abs_rationalOf_le (canonical_unpack x) (below_of_isFinite hx)).trans_lt
    (mul_lt_mul_of_pos_right (by norm_num) (zpow_pos two_pos _))

theorem isRounding_add (h : (x + y).isFinite = true) :
    IsRounding (rational (x + y)) (rational x + rational y) := by
  obtain ⟨hx, hy⟩ := isFinite_of_isFinite_add h
  have hcanonical := canonical_add (canonical_unpack x) (canonical_unpack y)
  change (x + y).toModel.unpack.isFinite = true at h
  unfold rational
  rw [unpack_add] at h ⊢
  rw [repack_of_isFinite hcanonical h]
  exact isRounding_addParts (canonical_unpack x) (canonical_unpack y) hx hy

theorem rational_sub_rational (x y : Float) : rational x - rational y =
    rationalOf x.toModel.unpack + rationalOf y.toModel.unpack.neg := by
  rw [rationalOf_neg, rational, rational]
  ring

theorem isRounding_sub (h : (x - y).isFinite = true) :
    IsRounding (rational (x - y)) (rational x - rational y) := by
  obtain ⟨hx, hy⟩ := isFinite_of_isFinite_sub h
  have hcanonical := canonical_add (canonical_unpack x) (canonical_neg (canonical_unpack y))
  change (x - y).toModel.unpack.isFinite = true at h
  rw [rational_sub_rational, rational]
  rw [unpack_sub, sub_eq_add_neg] at h ⊢
  rw [repack_of_isFinite hcanonical h]
  exact isRounding_addParts (canonical_unpack x) (canonical_neg (canonical_unpack y)) hx
    (isFinite_negParts hy)

theorem isRounding_div (hy : IsNonzero y) (h : (x / y).isFinite = true) :
    IsRounding (rational (x / y)) (rational x / rational y) := by
  have hx := isFinite_of_isFinite_div h
  have hcanonical := canonical_div (canonical_unpack x) (canonical_unpack y)
  change (x / y).toModel.unpack.isFinite = true at h
  unfold rational
  rw [unpack_div] at h ⊢
  rw [repack_of_isFinite hcanonical h]
  obtain ⟨t, n, f, hn, hy⟩ := hy
  rw [hy]
  exact isRounding_divParts hx hn

/-- Every representable number in the range is that of a double. -/
theorem exists_rational_eq {q : ℚ} (h : Representable q) (hlt : |q| < 2 ^ 53 * 2 ^ (971 : ℤ)) :
    ∃ x : Float, x.isFinite = true ∧ rational x = q := by
  have hq := h
  obtain ⟨k, f, -, -, rfl⟩ := hq
  obtain ⟨w, hw⟩ : ∃ w, w = UnpackedFloat.normalize .binary64 k f .positive := ⟨_, rfl⟩
  have hvalue : rationalOf w = k * 2 ^ f := by
    rw [hw]
    exact (isRounding_normalize k f .positive).eq_of_representable h
  have hbelow : Below (max (k.natAbs.log2 + f + 2) 0) w := by
    rw [hw]
    exact below_normalize (by omega) (by omega)
  have hpacked : repack w = w := by
    refine repack_of_below ?_ (below_of_abs_rationalOf_lt hbelow (by rwa [hvalue]))
    rw [hw]
    exact canonical_normalize
  have hunpack : (Float.ofModel (Float.Model.pack w)).toModel.unpack = w := hpacked
  refine ⟨Float.ofModel (Float.Model.pack w), ?_, ?_⟩
  · refine isFinite_of_below (k := max (k.natAbs.log2 + f + 2) 0) ?_
    rwa [hunpack]
  · rw [rational, hunpack, hvalue]

theorem isFinite_add_of_lt (hx : x.isFinite = true) (hy : y.isFinite = true)
    (h : 2 * |rational y| < 2 ^ (971 : ℤ)) : (x + y).isFinite = true := by
  have hbelow := below_add_of_lt (canonical_unpack x) (canonical_unpack y) hx hy
    (below_of_isFinite hx) (below_of_isFinite hy) h
  refine isFinite_of_below (k := 1024) ?_
  rwa [unpack_add, repack_of_below (canonical_add (canonical_unpack x) (canonical_unpack y)) hbelow]

theorem isFinite_sub_of_lt (hx : x.isFinite = true) (hy : y.isFinite = true)
    (h : 2 * |rational y| < 2 ^ (971 : ℤ)) : (x - y).isFinite = true := by
  have hcanonical := canonical_neg (canonical_unpack y)
  have hbelow := below_add_of_lt (canonical_unpack x) hcanonical hx (isFinite_negParts hy)
    (below_of_isFinite hx) (below_neg (below_of_isFinite hy)) (by rwa [rationalOf_neg, abs_neg])
  refine isFinite_of_below (k := 1024) ?_
  rwa [unpack_sub, sub_eq_add_neg, repack_of_below (canonical_add (canonical_unpack x) hcanonical)
    hbelow]

end Doubles

section Order

variable {m n : Nat} {e f : Int} (hm : 0 < m) (hn : 0 < n)

theorem mul_zpow_lt_mul_zpow (hcm : Canonical (.finite .positive m e hm))
    (hcn : Canonical (.finite .positive n f hn)) (h : e < f ∨ e = f ∧ m < n) :
    (m : ℚ) * 2 ^ e < n * 2 ^ f := by
  rcases h with h | ⟨rfl, h⟩
  · have hmin := hcm.2.1
    have hlower : (2 : ℚ) ^ 52 ≤ n := by
      exact_mod_cast hcn.2.2.resolve_left (by omega)
    have hupper : (m : ℚ) < 2 ^ 53 := by exact_mod_cast hcm.1
    have hexponent : (2 : ℚ) ^ (e + 1) ≤ 2 ^ f := zpow_le_zpow_right₀ one_le_two (by omega)
    calc
      (m : ℚ) * 2 ^ e < 2 ^ 53 * 2 ^ e := mul_lt_mul_of_pos_right hupper (by positivity)
      _ = 2 ^ 52 * 2 ^ (e + 1) := by
        rw [zpow_add_one₀ two_ne_zero]
        ring
      _ ≤ 2 ^ 52 * 2 ^ f := mul_le_mul_of_nonneg_left hexponent (by positivity)
      _ ≤ n * 2 ^ f := mul_le_mul_of_nonneg_right hlower (by positivity)
  · exact mul_lt_mul_of_pos_right (by exact_mod_cast h) (by positivity)

theorem rationalOf_positive : rationalOf (.finite .positive m e hm) = m * 2 ^ e := by
  simp [rationalOf, Sign.apply]

theorem rationalOf_negative : rationalOf (.finite .negative m e hm) = -(m * 2 ^ e) := by
  simp [rationalOf, Sign.apply]

theorem rationalOf_lt_of_place_lt {u v : UnpackedFloat} (hu : Canonical u) (hv : Canonical v)
    (hfu : u.isFinite = true) (hfv : v.isFinite = true) (h : place u < place v) :
    rationalOf u < rationalOf v := by
  have hpos {m : Nat} {e : Int} (hm : 0 < m) : (0 : ℚ) < m * 2 ^ e :=
    mul_pos (by exact_mod_cast hm) (by positivity)
  cases u with
  | notANumber => cases hfu
  | infinity s => cases hfu
  | zero s =>
      cases v with
      | notANumber => cases hfv
      | infinity t => cases hfv
      | zero t => exact absurd h (lt_irrefl _)
      | finite t n f hn =>
          cases t with
          | negative => simp [place, Prod.Lex.toLex_lt_toLex] at h
          | positive =>
              rw [rationalOf_positive]
              exact hpos hn
  | finite s m e hm =>
      cases v with
      | notANumber => cases hfv
      | infinity t => cases hfv
      | zero t =>
          cases s with
          | negative =>
              rw [rationalOf_negative]
              exact neg_lt_zero.mpr (hpos hm)
          | positive => simp [place, Prod.Lex.toLex_lt_toLex] at h
      | finite t n f hn =>
          cases s <;> cases t <;> simp [place, Prod.Lex.toLex_lt_toLex] at h
          · rw [rationalOf_negative, rationalOf_negative, neg_lt_neg_iff]
            exact mul_zpow_lt_mul_zpow hn hm hv hu (h.imp_right (And.imp_left Eq.symm))
          · rw [rationalOf_negative, rationalOf_positive]
            exact (neg_lt_zero.mpr (hpos hm)).trans (hpos hn)
          · rw [rationalOf_positive, rationalOf_positive]
            exact mul_zpow_lt_mul_zpow hm hn hu hv h

section Doubles

variable {x y : Float} (hx : x.isFinite = true) (hy : y.isFinite = true)
include hx hy

theorem cmp_rational : cmp (rational x) (rational y) = cmp (position x) (position y) := by
  have hlt {x y : Float} (hx : x.isFinite = true) (hy : y.isFinite = true) :
      position x < position y → rational x < rational y :=
    rationalOf_lt_of_place_lt (canonical_unpack x) (canonical_unpack y) hx hy
  rcases lt_trichotomy (position x) (position y) with h | h | h
  · rw [(cmp_eq_lt_iff _ _).mpr h, (cmp_eq_lt_iff _ _).mpr (hlt hx hy h)]
  · rw [(cmp_eq_eq_iff _ _).mpr h, cmp_eq_eq_iff]
    have hbeq := (beq_iff_position (isNaN_eq_false_of_isFinite hx)
      (isNaN_eq_false_of_isFinite hy)).mpr h
    rcases eq_or_zeros_of_beq hbeq with rfl | ⟨rfl, rfl⟩ | ⟨rfl, rfl⟩ <;> rfl
  · rw [(cmp_eq_gt_iff _ _).mpr h, (cmp_eq_gt_iff _ _).mpr (hlt hy hx h)]

/-- Finite doubles are ordered as the numbers they stand for. -/
theorem lt_iff_rational : x < y ↔ rational x < rational y := by
  rw [lt_iff_position (isNaN_eq_false_of_isFinite hx) (isNaN_eq_false_of_isFinite hy),
    ← cmp_eq_lt_iff, ← cmp_rational hx hy, cmp_eq_lt_iff]

theorem le_iff_rational : x ≤ y ↔ rational x ≤ rational y := by
  rw [le_iff_position (isNaN_eq_false_of_isFinite hx) (isNaN_eq_false_of_isFinite hy),
    ← not_lt, ← cmp_eq_gt_iff, ← cmp_rational hx hy, cmp_eq_gt_iff, not_lt]

end Doubles

end Order

end EquationTutor.Double
