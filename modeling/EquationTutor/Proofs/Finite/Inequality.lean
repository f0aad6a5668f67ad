import EquationTutor.Proofs.Finite.Roots
import EquationTutor.Solve.Inequality

open Float.Model Float.Model.UnpackedFloat

namespace EquationTutor.Solve

open Scalar

section EndPoints

variable {α : Type} {P : α → Prop}

theorem forall_endPoints_mergeCells {run : Option (Interval α)} {cells : List (Cell α)}
    (hrun : ∀ i ∈ run, ∀ x ∈ i.endPoints, P x)
    (hcells : ∀ c ∈ cells, ∀ x ∈ c.piece.endPoints, P x) :
    ∀ i ∈ mergeCells run cells, ∀ x ∈ i.endPoints, P x := by
  induction cells generalizing run with
  | nil => simpa [mergeCells] using hrun
  | cons c cells ih =>
      rw [List.forall_mem_cons] at hcells
      rw [mergeCells]
      split
      · refine ih ?_ hcells.2
        rintro i ⟨⟩ x hx
        rw [Interval.endPoints, List.mem_append] at hx
        rcases hx with hx | hx
        · cases run with
          | none => exact hcells.1 x (List.mem_append_left _ hx)
          | some j => exact hrun j rfl x (List.mem_append_left _ hx)
        · exact hcells.1 x (List.mem_append_right _ hx)
      · rw [List.forall_mem_append]
        exact ⟨by simpa using hrun, ih (by simp) hcells.2⟩

theorem forall_endPoints_openPieces {lower : Bound α} {critical : List α}
    (hlower : ∀ x ∈ lower.endPoint?, P x) (hcritical : ∀ x ∈ critical, P x) :
    ∀ i ∈ openPieces lower critical, ∀ x ∈ i.endPoints, P x := by
  induction critical generalizing lower with
  | nil => simpa [openPieces, Interval.endPoints, Bound.endPoint?] using hlower
  | cons c cs ih =>
      rw [List.forall_mem_cons] at hcritical
      rw [openPieces, List.forall_mem_cons]
      refine ⟨?_, ih (by simpa [Bound.endPoint?] using hcritical.1) hcritical.2⟩
      simpa [Interval.endPoints, Bound.endPoint?, or_imp, forall_and] using
        ⟨hlower, hcritical.1⟩

theorem forall_endPoints_interleave {atCritical : Bool} {tests : List (TestPoint α)}
    {critical : List α} (htests : ∀ t ∈ tests, ∀ x ∈ t.interval.endPoints, P x)
    (hcritical : ∀ x ∈ critical, P x) :
    ∀ c ∈ interleave atCritical tests critical, ∀ x ∈ c.piece.endPoints, P x := by
  induction tests generalizing critical with
  | nil => simp [interleave]
  | cons t ts ih =>
      cases critical with
      | nil => simpa [interleave] using htests
      | cons c cs =>
          rw [List.forall_mem_cons] at htests hcritical
          rw [interleave, List.forall_mem_cons, List.forall_mem_cons]
          exact ⟨htests.1, by simpa [Interval.point, Interval.endPoints, Bound.endPoint?] using
            hcritical.1, ih htests.2 hcritical.2⟩

theorem writtenNumbers_setOfIntervals (pieces : List (Interval α)) :
    (setOfIntervals pieces).writtenNumbers = pieces.flatMap Interval.endPoints := by
  rcases pieces with _ | ⟨⟨lower, upper⟩, _ | ⟨j, js⟩⟩
  · rfl
  · cases lower <;> cases upper <;> rfl
  · rfl

variable [Scalar α]

theorem forall_writtenNumbers_solveByTestPoints {critical : List α} (h : ∀ x ∈ critical, P x)
    (r : Relation) (f : α → α) :
    ∀ x ∈ (solveByTestPoints critical r f).1.writtenNumbers, P x := by
  intro x hx
  rw [solveByTestPoints, writtenNumbers_setOfIntervals, List.mem_flatMap] at hx
  obtain ⟨i, hi, hx⟩ := hx
  refine forall_endPoints_mergeCells (P := P) (by simp)
    (forall_endPoints_interleave (P := P) ?_ h) i hi x hx
  intro t ht
  obtain ⟨piece, hpiece, rfl⟩ := List.mem_map.mp ht
  exact forall_endPoints_openPieces (by simp [Bound.endPoint?]) h piece hpiece

end EndPoints

section Overflow

open Double

variable {a b c x z : Float} {r : Relation}

theorem holds_zero (r : Relation) : r.holds (0 : Float) 0 = r.isInclusive := by
  cases r <;> rfl

theorem holds_of_notANumber (h : x.toModel.unpack = .notANumber) (r : Relation) :
    r.holds x 0 = decide (r = .ne) := by
  have hzero : (0 : Float).toModel.unpack = .zero .positive := rfl
  have hequal : decide ((x - 0).abs < 1e-10) = false := by
    rw [decide_eq_false_iff_not, lt_iff, unpack_abs, unpack_sub, h]
    exact Bool.false_ne_true
  have hless : decide (x < 0) = false := by
    rw [decide_eq_false_iff_not, lt_iff, h, hzero]
    exact Bool.false_ne_true
  have hgreater : decide (0 < x) = false := by
    rw [decide_eq_false_iff_not, lt_iff, h, hzero]
    exact Bool.false_ne_true
  cases r with
  | eq => exact hequal
  | ne => exact congrArg not hequal
  | lt => exact congrArg (· && _) hless
  | gt => exact congrArg (· && _) hgreater
  | le => exact congrArg₂ or hless hequal
  | ge => exact congrArg₂ or hgreater hequal

/-- At infinity the terms of the quadratic cancel out on the side of the root that has
overflowed. -/
theorem unpack_quadraticAt_of_infinity {s : Sign} {m : Nat} {e : Int} {hm : 0 < m}
    (ha : a.toModel.unpack = .finite s m e hm) (hb : b.isFinite = true)
    (hx : x.toModel.unpack = .infinity (-rootSign b / s)) :
    (quadraticAt a b c x).toModel.unpack = .notANumber := by
  have hax : (a * x).toModel.unpack = .infinity (s * (-rootSign b / s)) := by
    refine unpack_mul_infinity ?_ ?_ hx <;> rw [ha]
    · rfl
    · exact fun t => UnpackedFloat.noConfusion
  have haxx : (a * x * x).toModel.unpack = .infinity s := by
    have hproduct := unpack_mul_infinity (s := s * (-rootSign b / s)) (by rw [hax]; rfl)
      (by rw [hax]; exact fun t => UnpackedFloat.noConfusion) hx
    rw [hproduct]
    cases s <;> cases rootSign b <;> rfl
  have hsum : (a * x * x + b * x).toModel.unpack = .notANumber := by
    by_cases hzero : ∃ t, b.toModel.unpack = .zero t
    · obtain ⟨t, hzero⟩ := hzero
      exact unpack_infinity_add_notANumber haxx (unpack_zero_mul_infinity hzero hx)
    · have hsign := (sign_eq_rootSign hb).resolve_right hzero
      refine unpack_add_opposite haxx ?_
      rw [unpack_mul_infinity hsign (fun t ht => hzero ⟨t, ht⟩) hx]
      cases s <;> cases rootSign b <;> rfl
  exact unpack_notANumber_add hsum c

def piecesAt (x z : Float) : List (Interval Float) :=
  [⟨.negInfinity, .openAt x⟩, ⟨.openAt x, .openAt z⟩, ⟨.openAt z, .openAt x⟩,
    ⟨.openAt x, .posInfinity⟩]

theorem unpack_sample_of_infinity {t : Sign} (hx : x.toModel.unpack = .infinity t)
    (hz : z.isFinite = true) :
    ∀ piece ∈ piecesAt x z, piece.sample.toModel.unpack = .infinity t := by
  have htwo : (2 : Float).toModel.unpack = .finite .positive (2 ^ 52) (-51) (by decide) := rfl
  have hside : t / .positive = t := by cases t <;> rfl
  intro piece hpiece
  simp only [piecesAt, List.mem_cons, List.not_mem_nil, or_false] at hpiece
  rcases hpiece with rfl | rfl | rfl | rfl
  · exact unpack_infinity_sub hx rfl
  · exact (unpack_infinity_div (unpack_infinity_add hx hz) htwo).trans (by rw [hside])
  · exact (unpack_infinity_div (unpack_add_infinity hz hx) htwo).trans (by rw [hside])
  · exact unpack_infinity_add hx rfl

/-- The pieces on both sides of an infinite critical point are not tested any more. -/
theorem satisfies_testPiece_of_infinity {s : Sign} {m : Nat} {e : Int} {hm : 0 < m}
    (ha : a.toModel.unpack = .finite s m e hm) (hb : b.isFinite = true)
    (hx : x.toModel.unpack = .infinity (-rootSign b / s)) (hz : z.isFinite = true)
    (r : Relation) : ∀ piece ∈ piecesAt x z,
      (testPiece r (quadraticAt a b c) piece).satisfies = decide (r = .ne) := fun piece hpiece =>
  holds_of_notANumber
    (unpack_quadraticAt_of_infinity ha hb (unpack_sample_of_infinity hx hz piece hpiece)) r

def cells (r : Relation) (f : Float → Float) (u v : Float) : List (Cell Float) :=
  let tested (piece : Interval Float) : Cell Float := ⟨piece, (testPiece r f piece).satisfies⟩
  [tested ⟨.negInfinity, .openAt u⟩, ⟨.point u, r.isInclusive⟩, tested ⟨.openAt u, .openAt v⟩,
    ⟨.point v, r.isInclusive⟩, tested ⟨.openAt v, .posInfinity⟩]

theorem writtenNumbers_solveByTestPoints_pair (r : Relation) (f : Float → Float) (u v : Float) :
    (solveByTestPoints [u, v] r f).1.writtenNumbers =
      (mergeCells none (cells r f u v)).flatMap Interval.endPoints := by
  rw [cells, ← holds_zero r]
  exact writtenNumbers_setOfIntervals _

section Ends

variable {f : Float → Float} (hx : x.isFinite = false) (hz : z.isFinite = true)
  (hpieces : ∀ piece ∈ piecesAt x z, (testPiece r f piece).satisfies = decide (r = .ne))

include hx hz hpieces

/-- Only a strict relation leaves the infinite critical point out. -/
theorem isFinite_solveByTestPoints_low_iff :
    (solveByTestPoints [x, z] r f).1.IsFinite ↔ r = .lt ∨ r = .gt := by
  have hfirst := hpieces ⟨.negInfinity, .openAt x⟩ (by simp [piecesAt])
  have hmiddle := hpieces ⟨.openAt x, .openAt z⟩ (by simp [piecesAt])
  rw [SolutionSet.IsFinite, writtenNumbers_solveByTestPoints_pair, cells]
  dsimp only
  rw [hfirst, hmiddle]
  change (∀ y ∈ _, Float.isFinite y = true) ↔ _
  -- only the piece beyond the finite critical point is tested on a number
  cases hlast : (testPiece r f ⟨.openAt z, .posInfinity⟩).satisfies <;> cases r <;>
    simp [mergeCells, Relation.isInclusive, Interval.endPoints, Interval.point, Bound.endPoint?,
      hx, hz]

theorem isFinite_solveByTestPoints_high_iff :
    (solveByTestPoints [z, x] r f).1.IsFinite ↔ r = .lt ∨ r = .gt := by
  have hmiddle := hpieces ⟨.openAt z, .openAt x⟩ (by simp [piecesAt])
  have hlast := hpieces ⟨.openAt x, .posInfinity⟩ (by simp [piecesAt])
  rw [SolutionSet.IsFinite, writtenNumbers_solveByTestPoints_pair, cells]
  dsimp only
  rw [hmiddle, hlast]
  change (∀ y ∈ _, Float.isFinite y = true) ↔ _
  cases hfirst : (testPiece r f ⟨.negInfinity, .openAt z⟩).satisfies <;> cases r <;>
    simp [mergeCells, Relation.isInclusive, Interval.endPoints, Interval.point, Bound.endPoint?,
      hx, hz]

end Ends

theorem isFinite_of_mem_real {roots : QuadraticRoots Float} (h : roots.toSet.IsFinite) :
    ∀ x ∈ roots.real, Float.isFinite x = true := by
  cases roots with
  | complexPair z w => exact fun x hx => absurd hx List.not_mem_nil
  | _ => exact h

/-- The answer to a quadratic inequality is finite unless the discriminant overflows to the
positive side and one of the critical points belongs to the answer or borders on it. -/
theorem isFinite_solveByTestPoints_iff (hlead : IsAbove (-34) a) (ha : a.isFinite = true)
    (hb : b.isFinite = true) (hc : c.isFinite = true) (r : Relation) :
    (solveByTestPoints (rootsOf a b c (discriminant a b c)).real r
        (quadraticAt a b c)).1.IsFinite ↔
      (discriminant a b c).isFinite = true ∨ ¬ 1e-10 < discriminant a b c ∨ r = .lt ∨
        r = .gt := by
  by_cases hdelta : (discriminant a b c).isFinite = true
  · refine iff_of_true ?_ (.inl hdelta)
    exact forall_writtenNumbers_solveByTestPoints
      (isFinite_of_mem_real (isFinite_toSet_of_isFinite hlead hdelta)) r _
  have hinfinite := Bool.eq_false_of_not_eq_true hdelta
  by_cases hpositive : (discriminant a b c).toModel.unpack = .infinity .positive
  · rw [or_iff_right hdelta, or_iff_right (not_not.mpr (tolerance_lt_of_infinity hpositive))]
    obtain ⟨s, m, e, hm, ha⟩ := hlead.isNonzero ha
    obtain ⟨x, z, t, hx, hz, hroots⟩ := rootsOf_of_infinity ha hb hc hpositive
    have hxinfinite := Bool.eq_false_of_not_eq_true (not_isFinite_of_infinity hx)
    have hzfinite : z.isFinite = true := isFinite_iff.mpr (.inl ⟨t, hz⟩)
    have hpieces := satisfies_testPiece_of_infinity (c := c) ha hb hx hzfinite r
    rcases hroots with ⟨-, hroots⟩ | ⟨-, hroots⟩ <;> rw [hroots]
    · exact isFinite_solveByTestPoints_low_iff hxinfinite hzfinite hpieces
    · exact isFinite_solveByTestPoints_high_iff hxinfinite hzfinite hpieces
  · refine iff_of_true ?_ (.inr (.inl (not_tolerance_lt hinfinite hpositive)))
    obtain ⟨z, -, hroots⟩ :=
      rootsOf_of_not_isFinite (a := a) (b := b) (c := c) hinfinite hpositive
    rw [hroots]
    exact forall_writtenNumbers_solveByTestPoints (fun x hx => absurd hx List.not_mem_nil) r _

end Overflow

end EquationTutor.Solve
