import EquationTutor.Solve.Dispatch

namespace EquationTutor.Solve

open Scalar

theorem bind_eq_ok_iff {ε β γ : Type} {x : Except ε β} {f : β → Except ε γ} {v : γ} :
    (x >>= f) = .ok v ↔ ∃ u, x = .ok u ∧ f u = .ok v := by
  cases x <;> simp [bind, Except.bind]

variable {α : Type} [Scalar α] {kind : Kind} {p : Params α} {s : Solution α}

section Quadratic

theorem quadraticCoefficients_congr {abc : α × α × α}
    (h : quadraticCoefficients p kind = .ok abc) (kind' : Kind) :
    quadraticCoefficients p kind' = .ok abc := by
  unfold quadraticCoefficients at h ⊢
  split at h
  · rename_i hread
    rw [if_pos hread]
    exact h
  · cases h

theorem checkLeading_of_isZero {a : α} (h : isZero a = false) : checkLeading a = .ok () :=
  if_neg (by simpa [isZero] using h)

theorem quadraticRoots_eq_ok_iff {a b c delta : α} {roots : QuadraticRoots α} :
    quadraticRoots a b c = .ok (delta, roots) ↔
      checkLeading a = .ok () ∧ delta = discriminant a b c ∧ roots = rootsOf a b c delta := by
  simp only [quadraticRoots, bind_eq_ok_iff]
  constructor
  · rintro ⟨⟨⟩, ha, h⟩
    cases h
    exact ⟨ha, rfl, rfl⟩
  · rintro ⟨ha, rfl, rfl⟩
    exact ⟨(), ha, rfl⟩

theorem length_real_le {β : Type} (roots : QuadraticRoots β) : roots.real.length ≤ 2 := by
  cases roots <;> simp [QuadraticRoots.real]

theorem answer_of_solveCoefficients {a b c : α} (h : solveCoefficients kind a b c = .ok s) :
    ∃ delta roots, quadraticRoots a b c = .ok (delta, roots) ∧
      s = .plain kind roots.nature.label roots.toSet
        (.quadratic (quadraticDetail a b c delta roots.nature)) := by
  simp only [solveCoefficients, bind_eq_ok_iff] at h
  obtain ⟨⟨delta, roots⟩, hroots, h⟩ := h
  cases h
  exact ⟨delta, roots, hroots, rfl⟩

theorem answer_of_solveQuadratic (h : solveQuadratic kind p = .ok s) :
    ∃ a b c delta roots, quadraticRoots a b c = .ok (delta, roots) ∧
      s = .plain kind roots.nature.label roots.toSet
        (.quadratic (quadraticDetail a b c delta roots.nature)) := by
  simp only [solveQuadratic, bind_eq_ok_iff] at h
  obtain ⟨⟨a, b, c⟩, -, h⟩ := h
  exact ⟨a, b, c, answer_of_solveCoefficients h⟩

theorem answer_of_solveFactoring (h : solveFactoring p = .ok s) :
    ∃ a b c delta roots, quadraticRoots a b c = .ok (delta, roots) ∧
      ((∃ common x y, factorIntegers (nearest a) (nearest b) (nearest c) = some (common, x, y) ∧
          s = factoredSolution (quadraticDetail a b c delta roots.nature) common x y) ∨
        s = { category := .factoringQuadratic
              label := roots.nature.label
              set := roots.toSet
              fallback := true
              notes := [fallbackNote]
              detail :=
                .factoring ⟨none, none, none, quadraticDetail a b c delta roots.nature⟩ }) := by
  simp only [solveFactoring, bind_eq_ok_iff] at h
  obtain ⟨⟨a, b, c⟩, -, ⟨delta, roots⟩, hroots, h⟩ := h
  refine ⟨a, b, c, delta, roots, hroots, ?_⟩
  split at h
  · rename_i common x y hfactors
    cases h
    exact Or.inl ⟨common, x, y, (Option.ite_none_right_eq_some.mp hfactors).2, rfl⟩
  · obtain ⟨t, ht, h⟩ := bind_eq_ok_iff.mp h
    obtain ⟨delta', roots', hroots', rfl⟩ := answer_of_solveCoefficients ht
    cases hroots.symm.trans hroots'
    cases h
    exact Or.inr rfl

theorem answer_of_solveCompletingSquare (h : solveCompletingSquare p = .ok s) :
    ∃ (roots : QuadraticRoots α) (d : SquareDetail α) (h remainder : α),
      roots = rootsOfSquare h remainder ∧
        s = .plain .completingSquare roots.nature.label roots.toSet (.completingSquare d) := by
  simp only [solveCompletingSquare, bind_eq_ok_iff] at h
  obtain ⟨⟨a, b, c⟩, -, -, -, h⟩ := h
  cases h
  exact ⟨_, _, _, _, rfl, rfl⟩

theorem answer_of_solveQuadraticInequality (h : solveQuadraticInequality p = .ok s) :
    ∃ a b c r delta roots, relation p .quadraticInequality = .ok r ∧
      quadraticRoots a b c = .ok (delta, roots) ∧
      let (set, tests) := solveByTestPoints roots.real r (quadraticAt a b c)
      s = .plain .quadraticInequality (describeSet set) set
        (.quadraticInequality ⟨a, b, c, r, delta, roots.real, tests⟩) := by
  simp only [solveQuadraticInequality, bind_eq_ok_iff] at h
  obtain ⟨⟨a, b, c⟩, -, r, hr, ⟨delta, roots⟩, hroots, h⟩ := h
  cases h
  exact ⟨a, b, c, r, delta, roots, hr, hroots, rfl⟩

theorem answer_of_solveVertex (h : solveVertex p = .ok s) :
    ∃ a b c delta roots, quadraticRoots a b c = .ok (delta, roots) ∧
      ∃ d : VertexDetail α, d.quadratic = quadraticDetail a b c delta roots.nature ∧
        d.xIntercepts = roots.real ∧ s.category = .quadraticOptimization ∧
        s.set = .quantity s!"{d.extremum.label} value" d.quadratic.vertex.y ∧
        s.fallback = false ∧ s.detail = .vertexAnalysis d := by
  simp only [solveVertex, bind_eq_ok_iff] at h
  obtain ⟨⟨a, b, c⟩, -, ⟨delta, roots⟩, hroots, h⟩ := h
  cases h
  exact ⟨a, b, c, delta, roots, hroots, _, rfl, rfl, rfl, rfl, rfl, rfl⟩

end Quadratic

section Projectile

theorem timesAt_eq_ok_iff {gravity v0 c delta : α} {times : List α} :
    timesAt gravity v0 c = .ok (delta, times) ↔
      ∃ roots, quadraticRoots (-gravity) v0 c = .ok (delta, roots) ∧
        times = dedupBy (fun s t => decide (absValue (t - s) < tolerance))
          ((roots.real.filter fun t => decide (-tolerance ≤ t)).map fun t => larger t 0) := by
  simp only [timesAt, bind_eq_ok_iff]
  constructor
  · rintro ⟨⟨delta, roots⟩, hroots, h⟩
    cases h
    exact ⟨roots, hroots, rfl⟩
  · rintro ⟨roots, hroots, rfl⟩
    exact ⟨(delta, roots), hroots, rfl⟩

theorem answer_of_targetAnswer {units : UnitSystem} {maxHeight target : α} {times : List α}
    {label : String} {set : SolutionSet α}
    (h : targetAnswer units maxHeight target times = .ok (label, set)) :
    times ≠ [] ∧ set = .discrete times := by
  rcases times with _ | ⟨t, _ | ⟨u, ts⟩⟩ <;> cases h <;> exact ⟨by simp, rfl⟩

theorem answer_of_solveProjectile (h : solveProjectile p = .ok s) :
    ∃ label set d, s = .plain .projectileMotion label set (.projectile d) ∧
      d.targetHeight = p.number? "target_height" ∧
      (d.targetHeight = none ∧ d.targetTimes = [] ∧
          set = .quantity "maximum height" d.maxHeight ∨
        ∃ target delta, d.targetHeight = some target ∧
          timesAt d.gravity d.initialVelocity (d.initialHeight - target) =
            .ok (delta, d.targetTimes) ∧
          d.targetTimes ≠ [] ∧ set = .discrete d.targetTimes) := by
  simp only [solveProjectile] at h
  split at h
  · cases h
  · obtain ⟨⟨_, landings⟩, -, h⟩ := bind_eq_ok_iff.mp h
    split at h
    · rename_i htarget
      cases h
      exact ⟨_, _, _, rfl, htarget.symm, Or.inl ⟨rfl, rfl, rfl⟩⟩
    · rename_i target htarget
      simp only [bind_eq_ok_iff] at h
      obtain ⟨⟨delta, times⟩, htimes, ⟨label, set⟩, hanswer, h⟩ := h
      obtain ⟨hne, rfl⟩ := answer_of_targetAnswer hanswer
      cases h
      exact ⟨_, _, _, rfl, htarget.symm, Or.inr ⟨target, delta, rfl, htimes, hne, rfl⟩⟩

end Projectile

section Linear

theorem answer_of_solveLinearInequality (h : solveLinearInequality p = .ok s) :
    ∃ m b c r, relation p .linearInequality = .ok r ∧ s = linearInequality m b c r := by
  simp only [solveLinearInequality, bind_eq_ok_iff] at h
  obtain ⟨m, -, r, hr, h⟩ := h
  cases h
  exact ⟨m, _, _, r, hr, rfl⟩

theorem answer_of_solveLinear (h : solveLinear p = .ok s) :
    ∃ m b c, s = .plain .simpleLinear (linearSet m b c).1 (linearSet m b c).2
      (.linear ⟨m, b, c⟩) := by
  simp only [solveLinear, bind_eq_ok_iff] at h
  obtain ⟨m, -, h⟩ := h
  cases h
  exact ⟨m, _, _, rfl⟩

theorem answer_of_solveSystem (h : solveSystem p = .ok s) :
    ∃ a1 b1 c1 a2 b2 c2, s = linearSystem a1 b1 c1 a2 b2 c2 := by
  simp only [solveSystem, bind_eq_ok_iff] at h
  obtain ⟨a1, -, b1, -, c1, -, a2, -, b2, -, c2, -, h⟩ := h
  cases h
  exact ⟨a1, b1, c1, a2, b2, c2, rfl⟩

end Linear

section Exponential

theorem answer_of_solveSimpleExponential (h : solveSimpleExponential p = .ok s) :
    ∃ label x d, d.natural = false ∧
      s = .plain .simpleExponential label (.discrete [x]) (.exponential d) := by
  simp only [solveSimpleExponential, bind_eq_ok_iff] at h
  obtain ⟨k, -, base, -, result, -, ln, -, h⟩ := h
  split at h <;> cases h
  exact ⟨_, _, _, rfl, rfl⟩

theorem answer_of_solveNaturalExponential (h : solveNaturalExponential p = .ok s) :
    ∃ label x d, d.natural = true ∧
      s = .plain .naturalExponential label (.discrete [x]) (.exponential d) := by
  simp only [solveNaturalExponential, bind_eq_ok_iff] at h
  obtain ⟨k, -, result, -, h⟩ := h
  split at h
  · cases h
  · split at h <;> cases h
    exact ⟨_, _, _, rfl, rfl⟩

theorem answer_of_solveLogarithmic (h : solveLogarithmic p = .ok s) :
    ∃ label x d, s = .plain .logarithmicEquation label (.discrete [x]) (.logarithmic d) := by
  simp only [solveLogarithmic, bind_eq_ok_iff] at h
  obtain ⟨ln, -, result, -, h⟩ := h
  cases h
  exact ⟨_, _, _, rfl⟩

theorem answer_of_solveExponentialInequality (h : solveExponentialInequality p = .ok s) :
    ∃ k base bound ln r, checkLeading k = .ok () ∧ lnBase base = .ok ln ∧
      relation p .exponentialInequality = .ok r ∧ s = exponentialInequality k base bound ln r := by
  simp only [solveExponentialInequality, leading, bind_eq_ok_iff] at h
  obtain ⟨k, ⟨⟨⟩, hleading, hk⟩, base, -, bound, -, r, hr, ln, hln, h⟩ := h
  cases hk
  cases h
  exact ⟨_, base, bound, ln, r, hleading, hln, hr, rfl⟩

omit [Scalar α] in
theorem exponentialQuadraticSet_cases (uRoots values : List α) :
    (exponentialQuadraticSet uRoots values).2 = .empty ∧ (uRoots = [] ∨ values = []) ∨
      (exponentialQuadraticSet uRoots values).2 = .discrete values ∧ values ≠ [] := by
  unfold exponentialQuadraticSet
  split
  · rename_i hroots
    exact .inl ⟨rfl, .inl (List.isEmpty_iff.mp hroots)⟩
  · rcases values with _ | ⟨x, _ | ⟨y, xs⟩⟩ <;> simp

theorem answer_of_solveExponentialQuadratic (h : solveExponentialQuadratic p = .ok s) :
    ∃ a b c ln delta roots values, quadraticRoots a b c = .ok (delta, roots) ∧
      values = dedup (sort ((roots.real.filter fun u => decide (tolerance < u)).map fun u =>
        Scalar.ln u / ln)) ∧
      ∃ d : ExponentialQuadraticDetail α, d.uRoots = roots.real ∧
        s.category = .exponentialQuadratic ∧
        s.set = (exponentialQuadraticSet roots.real values).2 ∧
        s.fallback = false ∧ s.detail = .exponentialQuadratic d := by
  simp only [solveExponentialQuadratic, bind_eq_ok_iff] at h
  obtain ⟨base, -, ln, -, ⟨delta, roots⟩, hroots, h⟩ := h
  simp only [List.partition_eq_filter_filter] at h
  cases h
  exact ⟨_, _, _, ln, delta, roots, _, hroots, rfl, _, rfl, rfl, rfl, rfl, rfl⟩

end Exponential

section Growth

theorem answer_of_solveGrowth (h : solveGrowth kind p = .ok s) :
    ∃ law trend v, s = growthSolution kind law trend v := by
  simp only [solveGrowth, bind_eq_ok_iff] at h
  obtain ⟨v, -, h⟩ := h
  split at h <;> cases h
  exact ⟨_, _, v, rfl⟩

theorem answer_of_solveHalfLife (h : solveHalfLife p = .ok s) :
    ∃ label name d, s = .plain .halfLife label (.quantity name (d.amount.getD d.k))
      (.halfLife d) := by
  simp only [solveHalfLife, bind_eq_ok_iff] at h
  obtain ⟨⟨trend, t⟩, -, h⟩ := h
  split at h
  · cases h
  · split at h
    · cases h
      exact ⟨_, _, ⟨_, _, _, _, _, some _⟩, rfl⟩
    · cases h
      exact ⟨_, _, ⟨_, _, _, _, _, none⟩, rfl⟩

end Growth

end EquationTutor.Solve
