import EquationTutor.Proofs.Exact.Numbers
import EquationTutor.Relation

namespace EquationTutor.Relation

def Relates (r : Relation) (x y : ℝ) : Prop :=
  match r with
  | eq => x = y
  | ne => x ≠ y
  | lt => x < y
  | gt => y < x
  | le => x ≤ y
  | ge => y ≤ x

theorem relates_self_iff (r : Relation) (x : ℝ) : r.Relates x x ↔ r.isInclusive = true := by
  cases r <;> simp [Relates, isInclusive]

theorem holdsWithin_of_lt {margin x y : ℝ} (r : Relation) (h : |x - y| < margin) :
    r.holdsWithin margin x y = true ↔ r.Relates 0 0 := by
  rw [relates_self_iff]
  cases r <;> simp [holdsWithin, isInclusive, h]

theorem holdsWithin_of_le {margin x y : ℝ} (r : Relation) (hmargin : 0 < margin)
    (h : margin ≤ |x - y|) : r.holdsWithin margin x y = true ↔ r.Relates x y := by
  have hne : x ≠ y := by
    rintro rfl
    simp at h
    linarith
  have hfar : ¬ |x - y| < margin := not_lt.mpr h
  cases r <;> simp [holdsWithin, Relates, hfar, hne, le_iff_lt_or_eq, hne.symm]

theorem holds_zero_of_lt {y : ℝ} (r : Relation) (h : |y| < Scalar.tolerance) :
    r.holds y 0 = true ↔ r.Relates 0 0 :=
  holdsWithin_of_lt r (by simpa using h)

theorem holds_zero_of_le {y : ℝ} (r : Relation) (h : Scalar.tolerance ≤ |y|) :
    r.holds y 0 = true ↔ r.Relates y 0 := by
  have := holdsWithin_of_le (y := 0) r Exact.tolerance_pos (by simpa using h)
  simpa [holds] using this

theorem relates_zero_congr {x y : ℝ} (r : Relation) (h : 0 < x * y) :
    r.Relates x 0 ↔ r.Relates y 0 := by
  rcases mul_pos_iff.mp h with ⟨hx, hy⟩ | ⟨hx, hy⟩ <;>
    cases r <;> simp [Relates, hx, hy, hx.ne, hx.ne', hy.ne, hy.ne', hx.le, hy.le, hx.not_gt,
      hy.not_gt, hx.not_ge, hy.not_ge]

theorem relates_zero_ne (r : Relation) {x y : ℝ} (hx : x ≠ 0)
    (hsides : r.Relates x 0 ↔ r.Relates (-x) 0) (hy : y ≠ 0) :
    ¬ (r.Relates 0 0 ↔ r.Relates y 0) := by
  rcases lt_or_gt_of_ne hx with hneg | hpos
  · cases r <;>
      simp_all [Relates, hneg.le, hneg.not_gt, hneg.not_ge]
  · cases r <;>
      simp_all [Relates, hpos.le, hpos.not_gt, hpos.not_ge]

end EquationTutor.Relation
