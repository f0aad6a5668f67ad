import EquationTutor.Proofs.Exact.Relations

namespace EquationTutor.Relation

/-- Whether the relation to 0 is accepted when values below `margin` count as 0. -/
def Accepts (margin : ℝ) (r : Relation) (v : ℝ) : Prop :=
  if |v| < margin then r.Relates 0 0 else r.Relates v 0

variable {margin v : ℝ} (r : Relation)

theorem accepts_of_lt (h : |v| < margin) : r.Accepts margin v ↔ r.Relates 0 0 := by
  rw [Accepts, if_pos h]

theorem accepts_of_le (h : margin ≤ |v|) : r.Accepts margin v ↔ r.Relates v 0 := by
  rw [Accepts, if_neg (not_lt.mpr h)]

theorem accepts_zero (hmargin : 0 < margin) : r.Accepts margin 0 ↔ r.Relates 0 0 :=
  r.accepts_of_lt (by simpa using hmargin)

theorem relates_sub (x y : ℝ) : r.Relates (x - y) 0 ↔ r.Relates x y := by
  cases r <;> simp [Relates, sub_eq_zero]

theorem holdsWithin_iff_accepts (hmargin : 0 < margin) (x y : ℝ) :
    r.holdsWithin margin x y = true ↔ r.Accepts margin (x - y) := by
  rcases lt_or_ge |x - y| margin with h | h
  · rw [r.accepts_of_lt h, holdsWithin_of_lt r h]
  · rw [r.accepts_of_le h, relates_sub, holdsWithin_of_le r hmargin h]

theorem holds_iff_accepts (x y : ℝ) :
    r.holds x y = true ↔ r.Accepts Scalar.tolerance (x - y) :=
  r.holdsWithin_iff_accepts Exact.tolerance_pos x y

theorem holds_zero_iff_accepts (v : ℝ) :
    r.holds v 0 = true ↔ r.Accepts Scalar.tolerance v := by
  simpa using r.holds_iff_accepts v 0

/-- The verdict on a value is that on any number of its sign, unless the value is within the
margin and 0 is treated otherwise. -/
theorem accepts_iff_relates_iff {w : ℝ}
    (hsign : margin ≤ |v| → (r.Relates v 0 ↔ r.Relates w 0)) :
    (r.Accepts margin v ↔ r.Relates w 0) ↔
      margin ≤ |v| ∨ (r.Relates 0 0 ↔ r.Relates w 0) := by
  rcases lt_or_ge |v| margin with h | h
  · simp [r.accepts_of_lt h, h.not_ge]
  · simp [r.accepts_of_le h, h, hsign h]

/-- The verdict on a value is that on 0, unless the value is beyond the margin and its sign
is treated otherwise. -/
theorem accepts_iff_zero_iff {w : ℝ}
    (hsign : margin ≤ |v| → (r.Relates v 0 ↔ r.Relates w 0)) :
    (r.Accepts margin v ↔ r.Relates 0 0) ↔
      |v| < margin ∨ (r.Relates 0 0 ↔ r.Relates w 0) := by
  rcases lt_or_ge |v| margin with h | h
  · simp [r.accepts_of_lt h, h]
  · simp [r.accepts_of_le h, h.not_gt, hsign h, iff_comm]

theorem accepts_iff_accepts_iff {wider : ℝ} (hle : margin ≤ wider) :
    (r.Accepts margin v ↔ r.Accepts wider v) ↔
      |v| < margin ∨ wider ≤ |v| ∨ (r.Relates 0 0 ↔ r.Relates v 0) := by
  rcases lt_or_ge |v| margin with h | h
  · simp [r.accepts_of_lt h, r.accepts_of_lt (h.trans_le hle), h]
  · rw [r.accepts_of_le h, or_iff_right h.not_gt]
    exact iff_comm.trans (r.accepts_iff_relates_iff fun _ => Iff.rfl)

theorem relates_zero_of_abs_sub_lt {w : ℝ} (h : |v - w| < |v|) :
    r.Relates v 0 ↔ r.Relates w 0 := by
  apply relates_zero_congr
  nlinarith [sq_lt_sq.mpr h, sq_nonneg w]

theorem relates_log {x y : ℝ} (hx : 0 < x) (hy : 0 < y) :
    r.Relates (Real.log x) (Real.log y) ↔ r.Relates x y := by
  cases r <;> simp [Relates, Real.log_lt_log_iff, Real.log_le_log_iff, hx, hy,
    Real.log_injOn_pos.eq_iff hx hy]

/-- The relation after multiplication by a number of the sign of `m`. -/
noncomputable def turn (m : ℝ) (r : Relation) : Relation :=
  if m < 0 then r.flip else r

theorem turn_eq_iff (m : ℝ) : r.turn m = .eq ↔ r = .eq := by
  unfold turn
  split
  · cases r <;> simp [flip]
  · rfl

theorem relates_turn {m : ℝ} (hm : m ≠ 0) (x y : ℝ) :
    (r.turn m).Relates x y ↔ r.Relates (m * (x - y)) 0 := by
  rcases lt_or_gt_of_ne hm with hneg | hpos
  · rw [turn, if_pos hneg]
    cases r <;> simp [flip, Relates, hm, sub_eq_zero, mul_neg_iff, mul_pos_iff,
      mul_nonneg_iff, mul_nonpos_iff, hneg, hneg.le, hneg.not_gt, hneg.not_ge]
  · rw [turn, if_neg hpos.not_gt]
    cases r <;> simp [Relates, hm, sub_eq_zero, hpos, mul_neg_iff, mul_nonpos_iff, hpos.le,
      hpos.not_gt, hpos.not_ge]

end EquationTutor.Relation
