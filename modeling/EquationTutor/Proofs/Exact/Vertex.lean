import EquationTutor.Plot
import EquationTutor.Proofs.Exact.QuadraticInequality
import EquationTutor.Proofs.Exact.Solved
import EquationTutor.Solve.Vertex

namespace EquationTutor

open Scalar

/-- The vertex that a plot shows. -/
def Plot.vertex? {α : Type} : Plot α → Option (Point α)
  | parabola _ vertex .. => some vertex
  | _ => none

/-- The range holds the values of the function and no others, the vertex is where the extremum
is taken, and the function is symmetric to it. -/
structure DescribesImage (f : ℝ → ℝ) (vertex : Point ℝ) (extremum : Extremum)
    (range : Interval ℝ) : Prop where
  contains_iff : ∀ y, range.contains y = true ↔ ∃ x, f x = y
  least : extremum = .minimum → IsLeast (Set.range f) vertex.y
  greatest : extremum = .maximum → IsGreatest (Set.range f) vertex.y
  taken : f vertex.x = vertex.y
  symmetric : ∀ d, f (vertex.x - d) = f (vertex.x + d)

namespace Solve

def vertexOf {α : Type} [Scalar α] (a b c : α) : Point α :=
  ⟨-b / (2 * a), quadraticAt a b c (-b / (2 * a))⟩

theorem vertexOf_eq (a b c : ℝ) :
    vertexOf a b c = ⟨-b / (2 * a), quadraticAt a b c (-b / (2 * a))⟩ := by
  simp only [vertexOf, Exact.ofNat_eq]

theorem vertex_quadraticDetail (a b c delta : ℝ) (nature : RootNature) :
    (quadraticDetail a b c delta nature).vertex = vertexOf a b c := by
  simp only [quadraticDetail, vertexOf, quadraticAt]

theorem vertex?_ofQuadratic (a b c : ℝ) (xIntercepts : List ℝ) (shaded : List (Interval ℝ)) :
    (Plot.ofQuadratic a b c xIntercepts shaded).vertex? = some (vertexOf a b c) := by
  simp only [Plot.ofQuadratic, Plot.vertex?, vertexOf, quadraticAt]

theorem vertex?_plot_of_vertexAnalysis {s : Solution ℝ} {d : VertexDetail ℝ}
    (h : s.detail = .vertexAnalysis d) :
    s.plot?.bind Plot.vertex? = some (vertexOf d.quadratic.a d.quadratic.b d.quadratic.c) := by
  simp only [Solution.plot?, h, Option.bind_some]
  apply vertex?_ofQuadratic

theorem vertex?_plot_of_completingSquare {s : Solution ℝ} {d : SquareDetail ℝ}
    (h : s.detail = .completingSquare d) :
    s.plot?.bind Plot.vertex? = some (vertexOf d.a d.b d.c) := by
  simp only [Solution.plot?, h, Option.bind_some]
  apply vertex?_ofQuadratic

section Leading

variable {a : ℝ} (ha : a ≠ 0) (b c : ℝ)
include ha

theorem vertexOf_eq_of_square :
    (⟨-(b / a / 2), c - a * (b / a / 2 * (b / a / 2))⟩ : Point ℝ) = vertexOf a b c := by
  rw [vertexOf_eq, quadraticAt_eq, Point.mk.injEq]
  constructor
  · field_simp
  · field_simp
    ring

theorem quadraticAt_sub_eq_add (d : ℝ) :
    quadraticAt a b c (-b / (2 * a) - d) = quadraticAt a b c (-b / (2 * a) + d) := by
  simp only [quadraticAt_eq]
  field_simp
  ring

theorem exists_quadraticAt_eq_iff (y : ℝ) :
    (∃ x, quadraticAt a b c x = y) ↔ a * (vertexOf a b c).y ≤ a * y := by
  have hvertex : a * (vertexOf a b c).y = -(discriminant a b c / 4) := by
    rw [vertexOf_eq, quadraticAt_root ha]
    field_simp
  rw [hvertex]
  constructor
  · rintro ⟨x, rfl⟩
    rw [mul_quadraticAt]
    linarith [sq_nonneg (a * x + b / 2)]
  · intro h
    obtain ⟨x, hx, -⟩ := exists_mul_quadraticAt ha b c (neg_le_iff_add_nonneg.mp h)
    refine ⟨x, mul_left_cancel₀ ha ?_⟩
    rw [hx, add_sub_cancel_right]

end Leading

section Sign

variable {a : ℝ} (b c : ℝ)

theorem range_quadraticAt_of_pos (ha : 0 < a) :
    Set.range (quadraticAt a b c) = Set.Ici (vertexOf a b c).y := by
  ext y
  rw [Set.mem_range, exists_quadraticAt_eq_iff ha.ne', Set.mem_Ici]
  exact mul_le_mul_iff_right₀ ha

theorem range_quadraticAt_of_neg (ha : a < 0) :
    Set.range (quadraticAt a b c) = Set.Iic (vertexOf a b c).y := by
  ext y
  rw [Set.mem_range, exists_quadraticAt_eq_iff ha.ne, Set.mem_Iic]
  exact mul_le_mul_left_of_neg ha

theorem describesImage_of_pos (ha : 0 < a) :
    DescribesImage (quadraticAt a b c) (vertexOf a b c) .minimum
      ⟨.closedAt (vertexOf a b c).y, .posInfinity⟩ where
  contains_iff y := by
    rw [← Set.mem_range, range_quadraticAt_of_pos b c ha]
    simp [Interval.contains_iff, Bound.isBelow, Bound.isAbove]
  least _ := by
    rw [range_quadraticAt_of_pos b c ha]
    exact isLeast_Ici
  greatest := nofun
  taken := rfl
  symmetric := by
    rw [vertexOf_eq]
    exact quadraticAt_sub_eq_add ha.ne' b c

theorem describesImage_of_neg (ha : a < 0) :
    DescribesImage (quadraticAt a b c) (vertexOf a b c) .maximum
      ⟨.negInfinity, .closedAt (vertexOf a b c).y⟩ where
  contains_iff y := by
    rw [← Set.mem_range, range_quadraticAt_of_neg b c ha]
    simp [Interval.contains_iff, Bound.isBelow, Bound.isAbove]
  least := nofun
  greatest _ := by
    rw [range_quadraticAt_of_neg b c ha]
    exact isGreatest_Iic
  taken := rfl
  symmetric := by
    rw [vertexOf_eq]
    exact quadraticAt_sub_eq_add ha.ne b c

end Sign

section Solver

variable {p q : Params ℝ} {a b c : ℝ}

theorem exists_solveVertex (hp : quadraticCoefficients p .quadraticOptimization = .ok (a, b, c))
    (ha : tolerance ≤ |a|) :
    ∃ s d delta nature, solveVertex p = .ok s ∧ s.detail = .vertexAnalysis d ∧
      d.quadratic = quadraticDetail a b c delta nature ∧
      s.set = .quantity s!"{d.extremum.label} value" (vertexOf a b c).y ∧
      DescribesImage (quadraticAt a b c) (vertexOf a b c) d.extremum d.range := by
  have ha0 : a ≠ 0 := Exact.ne_zero_of_le ha
  simp only [solveVertex, hp, vertex_quadraticDetail, Exact.zero_eq, bind_eq_ok_iff]
  refine ⟨_, _, _, _, ⟨_, rfl, _, quadraticRoots_of_le ha b c, rfl⟩, rfl, rfl, rfl, ?_⟩
  rcases lt_or_gt_of_ne ha0 with hneg | hpos
  · simpa [hneg.not_gt] using describesImage_of_neg b c hneg
  · simpa [hpos] using describesImage_of_pos b c hpos

theorem exists_squareDetail
    (hq : quadraticCoefficients q .completingSquare = .ok (a, b, c)) (ha : tolerance ≤ |a|) :
    ∃ t e, solveCompletingSquare q = .ok t ∧ t.detail = .completingSquare e ∧
      e.a = a ∧ e.b = b ∧ e.c = c ∧ e.vertex = vertexOf a b c := by
  have ha0 : a ≠ 0 := Exact.ne_zero_of_le ha
  simp only [solveCompletingSquare, hq, bind_eq_ok_iff]
  refine ⟨_, _, ⟨_, rfl, (), (checkLeading_eq_ok_iff a ()).mpr ha, rfl⟩, rfl, rfl, rfl, rfl, ?_⟩
  simpa using vertexOf_eq_of_square ha0 b c

/-- The analysis of the vertex describes the values of the quadratic. Its vertex is that of the
completed square, and that of every plot of the coefficients. -/
theorem solveVertex_describes
    (hp : quadraticCoefficients p .quadraticOptimization = .ok (a, b, c))
    (hq : quadraticCoefficients q .completingSquare = .ok (a, b, c)) (ha : 1e-10 ≤ |a|) :
    ∃ s d t e v, solveVertex p = .ok s ∧ s.detail = .vertexAnalysis d ∧
      solveCompletingSquare q = .ok t ∧ t.detail = .completingSquare e ∧
      DescribesImage (fun x => a * x ^ 2 + b * x + c) v d.extremum d.range ∧
      s.set = .quantity s!"{d.extremum.label} value" v.y ∧
      d.quadratic.vertex = v ∧ e.vertex = v ∧
      s.plot?.bind Plot.vertex? = some v ∧ t.plot?.bind Plot.vertex? = some v ∧
      ∀ xIntercepts shaded, (Plot.ofQuadratic a b c xIntercepts shaded).vertex? = some v := by
  obtain ⟨s, d, delta, nature, hs, hd, hquadratic, hset, himage⟩ := exists_solveVertex hp ha
  obtain ⟨t, e, ht, he, hea, heb, hec, hsquare⟩ := exists_squareDetail hq ha
  refine ⟨s, d, t, e, vertexOf a b c, hs, hd, ht, he, ?_, hset, ?_, hsquare, ?_, ?_,
    vertex?_ofQuadratic a b c⟩
  · convert himage using 1
    funext x
    exact (quadraticAt_eq a b c x).symm
  · rw [hquadratic, vertex_quadraticDetail]
  · rw [vertex?_plot_of_vertexAnalysis hd, hquadratic]
    rfl
  · rw [vertex?_plot_of_completingSquare he, hea, heb, hec]

end Solver

/-- The parabola of `-2x² + 12x - 13` opens downward. -/
theorem solveVertex_opening_downward :
    ∃ s d t e v, solveVertex (coefficientParams (-2) 12 (-13)) = .ok s ∧
      s.detail = .vertexAnalysis d ∧
      solveCompletingSquare (coefficientParams (-2) 12 (-13)) = .ok t ∧
      t.detail = .completingSquare e ∧
      DescribesImage (fun x => -2 * x ^ 2 + 12 * x + -13) v d.extremum d.range ∧
      s.set = .quantity s!"{d.extremum.label} value" v.y ∧
      d.quadratic.vertex = v ∧ e.vertex = v ∧
      s.plot?.bind Plot.vertex? = some v ∧ t.plot?.bind Plot.vertex? = some v ∧
      ∀ xIntercepts shaded,
        (Plot.ofQuadratic (-2 : ℝ) 12 (-13) xIntercepts shaded).vertex? = some v := by
  apply solveVertex_describes
  · apply quadraticCoefficients_coefficientParams
  · apply quadraticCoefficients_coefficientParams
  · norm_num

end Solve

end EquationTutor
