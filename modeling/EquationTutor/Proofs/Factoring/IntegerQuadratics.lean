import EquationTutor.Proofs.Double.IntegerOrder
import EquationTutor.Proofs.Factoring.IntegerFactors
import EquationTutor.Proofs.Solution.Answers

namespace EquationTutor.Solve

open Double

/-- The quadratic is its leading coefficient times a product of integer factors, and the
constant term of the product is within the limit of the search. -/
structure HasFactors (a b c : Int) : Prop where
  dvd_linear : a ∣ b
  dvd_constant : a ∣ c
  limit : (c / a).natAbs ≤ 1000000
  roots : ∃ u v : Int, ∀ t : Int, t ^ 2 + b / a * t + c / a = (t - u) * (t - v)

/-- The answer is `k (x + p)(x + q)` with the common factor `k`, and its roots are the values
of the set in ascending order. -/
structure IsFactored (a b c : Int) (s : Solution Float) (p q : Int) : Prop where
  detail : ∃ d, ∃ k : Option Int, s.detail = .factoring d ∧
    d.pair = some (Float.ofInt p, Float.ofInt q) ∧ d.commonFactor = k.map Float.ofInt ∧
    k = (if a = 1 then none else some a) ∧
    ∀ t : Int, k.getD 1 * ((t + p) * (t + q)) = a * t ^ 2 + b * t + c
  set : ∃ values, ∃ roots : List Int, s.set = .discrete values ∧
    List.Forall₂ (fun x n => (x == Float.ofInt n) = true) values roots ∧
    roots.Pairwise (· < ·) ∧ ∀ n, n ∈ roots ↔ n = -q ∨ n = -p
  exact : ∀ x : ℝ, a * x ^ 2 + b * x + c = 0 ↔ x = -q ∨ x = -p

/-- The answer is that of the formula, under the name of the method that has failed. -/
def IsFallback (s t : Solution Float) : Prop :=
  ∃ q, t.detail = .quadratic q ∧
    s = { t with
      category := .factoringQuadratic
      fallback := true
      notes := [fallbackNote]
      detail := .factoring ⟨none, none, none, q⟩ }

section Integers

variable {a b c : Int}

theorem hasFactors_of_factorIntegers (ha : a ≠ 0) {common : Option Int} {p q : Int}
    (h : factorIntegers a b c = some (common, p, q)) : HasFactors a b c := by
  obtain ⟨-, hlimit, -, rfl, rfl⟩ := (factorIntegers_eq_some_iff ha b c common p q).mp h
  refine ⟨Int.dvd_mul_right .., Int.dvd_mul_right .., ?_, -p, -q, fun t => ?_⟩
  · rwa [Int.mul_ediv_cancel_left _ ha]
  · rw [Int.mul_ediv_cancel_left _ ha, Int.mul_ediv_cancel_left _ ha]
    ring

theorem HasFactors.factorIntegers_ne_none (ha : a ≠ 0) (h : HasFactors a b c) :
    factorIntegers a b c ≠ none := by
  obtain ⟨⟨b, rfl⟩, ⟨c, rfl⟩, hlimit, u, v, hroots⟩ := h
  rw [Int.mul_ediv_cancel_left _ ha] at hlimit
  simp only [Int.mul_ediv_cancel_left _ ha] at hroots
  have hc : c = -u * -v := by linarith [hroots 0]
  have hb : b = -u + -v := by linarith [hroots 1]
  have hpair := isFactorPair_min_max hc.symm hb.symm
  have hsome := (factorIntegers_eq_some_iff ha (a * b) (a * c) _ (min (-u) (-v))
    (max (-u) (-v))).mpr ⟨rfl, hpair.mul.symm ▸ hlimit, hpair.le, by rw [hpair.add],
      by rw [hpair.mul]⟩
  rw [hsome]
  exact Option.some_ne_none _

end Integers

section Doubles

variable {x : Float} {n : Int} (hn : n.natAbs ≤ 1000000000000)
include hn

theorem isInteger_of_beq_small (hx : (x == Float.ofInt n) = true) : IsInteger x n :=
  isInteger_of_beq (lt_of_le_of_lt hn (by decide)) hx

theorem isInteger_neg_ofInt : IsInteger (-Float.ofInt n) (-n) :=
  (isInteger_ofInt (lt_of_le_of_lt hn (by decide))).neg

theorem isSearchable_of_isInteger (hx : IsInteger x n) : isSearchable x = true := by
  have hbound : (1e12 : Float).toModel.unpack = ofNatural .positive 1000000000000 := rfl
  rw [isSearchable, hx.isIntegral_eq_true, Bool.true_and]
  exact decide_eq_true ((hx.abs_le_iff hbound).mpr hn)

end Doubles

section Solver

variable {a b c : Int} {p q : Int} {common : Option Int}

theorem set_factoredSolution (hp : p.natAbs ≤ 1000000000000) (hq : q.natAbs ≤ 1000000000000)
    (hle : p ≤ q) (quadratic : QuadraticDetail Float) :
    ∃ values, ∃ roots : List Int,
      (factoredSolution quadratic common p q).set = .discrete values ∧
        List.Forall₂ (fun x n => (x == Float.ofInt n) = true) values roots ∧
        roots.Pairwise (· < ·) ∧ ∀ n, n ∈ roots ↔ n = -q ∨ n = -p := by
  have hset : (factoredSolution quadratic common p q).set =
      .discrete (if (-Float.ofInt q == -Float.ofInt p) = true then [-Float.ofInt q]
        else [-Float.ofInt q, -Float.ofInt p]) := rfl
  have hq' := isInteger_neg_ofInt hq
  have hp' := isInteger_neg_ofInt hp
  rw [hset]
  by_cases hpq : -q = -p
  · rw [if_pos ((hq'.beq_iff hp').mpr hpq)]
    refine ⟨_, [-q], rfl, .cons hq'.beq_ofInt .nil, List.pairwise_singleton _ _, fun n => ?_⟩
    rw [hpq, List.mem_singleton, or_self]
  · rw [if_neg (mt (hq'.beq_iff hp').mp hpq)]
    refine ⟨_, [-q, -p], rfl, .cons hq'.beq_ofInt (.cons hp'.beq_ofInt .nil), ?_, fun n => ?_⟩
    · rw [List.pairwise_pair]
      omega
    · rw [List.mem_cons, List.mem_singleton]

theorem isFactored_factoredSolution (ha : a ≠ 0) (hb : b.natAbs ≤ 1000000000000)
    (hc : c.natAbs ≤ 1000000000000) (quadratic : QuadraticDetail Float)
    (h : factorIntegers a b c = some (common, p, q)) :
    IsFactored a b c (factoredSolution quadratic common p q) p q := by
  obtain ⟨hp, hq⟩ := natAbs_le_of_factorIntegers hb hc h
  obtain ⟨hcommon, -, hle, rfl, rfl⟩ := (factorIntegers_eq_some_iff ha b c common p q).mp h
  have hk : common.getD 1 = a := by
    rw [hcommon]
    split <;> simp_all
  refine ⟨⟨_, common, rfl, rfl, rfl, hcommon, fun t => ?_⟩, set_factoredSolution hp hq hle _,
    fun x => ?_⟩
  · rw [hk]
    ring
  · have hexpand : a * x ^ 2 + (a * (p + q) : Int) * x + (a * (p * q) : Int) =
        a * ((x + q) * (x + p)) := by
      push_cast
      ring
    rw [hexpand, mul_eq_zero, mul_eq_zero, Int.cast_eq_zero, add_eq_zero_iff_eq_neg,
      add_eq_zero_iff_eq_neg]
    exact or_iff_right ha

variable {params : Params Float} {x y z : Float}
  (hparams : quadraticCoefficients params .factoringQuadratic = .ok (x, y, z))
  (hx : IsInteger x a) (hy : IsInteger y b) (hz : IsInteger z c) (ha : a ≠ 0)
  (ha' : a.natAbs ≤ 1000000000000) (hb' : b.natAbs ≤ 1000000000000)
  (hc' : c.natAbs ≤ 1000000000000)

section

include hx ha

theorem quadraticRoots_of_isInteger : ∃ r, quadraticRoots x y z = .ok r :=
  ⟨(_, _), quadraticRoots_eq_ok_iff.mpr ⟨checkLeading_of_isZero
    (Bool.eq_false_iff.mpr (mt hx.isZero_iff.mp ha)), rfl, rfl⟩⟩

end

section

include hx hy hz ha' hb' hc'

/-- The doubles are searched for the factors of the integers that they are. -/
theorem factors_of_isInteger :
    (if isSearchable x && isSearchable y && isSearchable z then
      factorIntegers (Scalar.nearest x) (Scalar.nearest y) (Scalar.nearest z) else none) =
      factorIntegers a b c := by
  rw [isSearchable_of_isInteger ha' hx, isSearchable_of_isInteger hb' hy,
    isSearchable_of_isInteger hc' hz, hx.nearest_eq, hy.nearest_eq, hz.nearest_eq]
  rfl

end

include hparams hx hy hz ha ha' hb' hc'

theorem solveFactoring_of_some (h : factorIntegers a b c = some (common, p, q)) :
    ∃ quadratic, solveFactoring params = .ok (factoredSolution quadratic common p q) := by
  obtain ⟨⟨delta, roots⟩, hroots⟩ := quadraticRoots_of_isInteger (y := y) (z := z) hx ha
  refine ⟨quadraticDetail x y z delta roots.nature, ?_⟩
  simp only [solveFactoring, bind_eq_ok_iff]
  refine ⟨_, hparams, _, hroots, ?_⟩
  simp only [factors_of_isInteger hx hy hz ha' hb' hc', h]
  rfl

theorem solveFactoring_of_none (h : factorIntegers a b c = none) :
    ∃ s t, solveFactoring params = .ok s ∧ solveQuadratic .standardQuadratic params = .ok t ∧
      IsFallback s t := by
  obtain ⟨⟨delta, roots⟩, hroots⟩ := quadraticRoots_of_isInteger (y := y) (z := z) hx ha
  have hsolve (kind : Kind) : solveCoefficients kind x y z =
      .ok (.plain kind roots.nature.label roots.toSet
        (.quadratic (quadraticDetail x y z delta roots.nature))) := by
    rw [solveCoefficients, hroots]
    rfl
  refine ⟨_, .plain .standardQuadratic roots.nature.label roots.toSet
    (.quadratic (quadraticDetail x y z delta roots.nature)), ?_, ?_, _, rfl, rfl⟩
  · simp only [solveFactoring, bind_eq_ok_iff]
    refine ⟨_, hparams, _, hroots, ?_⟩
    simp only [factors_of_isInteger hx hy hz ha' hb' hc', h, hsolve]
    rfl
  · simp only [solveQuadratic, bind_eq_ok_iff]
    exact ⟨_, quadraticCoefficients_congr hparams _, hsolve _⟩

end Solver

/-- For integer coefficients of at most `10 ^ 12` the solver succeeds just if there are integer
factors with a constant term within the limit of the search. -/
theorem solveFactoring_of_integers {params : Params Float} {x y z : Float} {a b c : Int}
    (hparams : quadraticCoefficients params .factoringQuadratic = .ok (x, y, z))
    (hx : (x == Float.ofInt a) = true) (hy : (y == Float.ofInt b) = true)
    (hz : (z == Float.ofInt c) = true) (ha : a ≠ 0) (ha' : a.natAbs ≤ 1000000000000)
    (hb' : b.natAbs ≤ 1000000000000) (hc' : c.natAbs ≤ 1000000000000) :
    ∃ s, solveFactoring params = .ok s ∧ s.category = .factoringQuadratic ∧
      (s.fallback = false ↔ HasFactors a b c) ∧
      (s.fallback = false → s.notes = [] ∧ ∃ p q, IsFactored a b c s p q) ∧
      (s.fallback = true →
        ∃ t, solveQuadratic .standardQuadratic params = .ok t ∧ IsFallback s t) := by
  have hx := isInteger_of_beq_small ha' hx
  have hy := isInteger_of_beq_small hb' hy
  have hz := isInteger_of_beq_small hc' hz
  cases h : factorIntegers a b c with
  | some found =>
      obtain ⟨common, p, q⟩ := found
      obtain ⟨quadratic, hsolve⟩ :=
        solveFactoring_of_some hparams hx hy hz ha ha' hb' hc' h
      have hfactors := hasFactors_of_factorIntegers ha h
      have hfactored := isFactored_factoredSolution ha hb' hc' quadratic h
      exact ⟨_, hsolve, rfl, ⟨fun _ => hfactors, fun _ => rfl⟩, fun _ => ⟨rfl, p, q, hfactored⟩,
        fun h => absurd h Bool.false_ne_true⟩
  | none =>
      obtain ⟨s, t, hsolve, hstandard, hfallback⟩ :=
        solveFactoring_of_none hparams hx hy hz ha ha' hb' hc' h
      have hfactors : ¬ HasFactors a b c := fun hfactors => hfactors.factorIntegers_ne_none ha h
      have htrue : s.fallback = true := by
        obtain ⟨_, -, rfl⟩ := hfallback
        rfl
      have hcategory : s.category = .factoringQuadratic := by
        obtain ⟨_, -, rfl⟩ := hfallback
        rfl
      refine ⟨s, hsolve, hcategory, ?_, ?_, fun _ => ⟨t, hstandard, hfallback⟩⟩
      · rw [htrue]
        exact iff_of_false Bool.true_eq_false.mp hfactors
      · rw [htrue]
        exact fun h => absurd h.symm Bool.false_ne_true

/-- `-2x² + 2x + 12` is `-2 (x - 3)(x + 2)`. -/
theorem solveFactoring_of_negative_leading :
    ∃ s, solveFactoring (⟨[("a", .number (-2)), ("b", .number 2), ("c", .number 12)]⟩ :
        Params Float) = .ok s ∧ s.fallback = false ∧ ∃ p q, IsFactored (-2) 2 12 s p q := by
  have hparams : quadraticCoefficients
      (⟨[("a", .number (-2)), ("b", .number 2), ("c", .number 12)]⟩ : Params Float)
      .factoringQuadratic = .ok (-2, 2, 12) := rfl
  have ha : ((-2 : Float) == Float.ofInt (-2)) = true := by decide +kernel
  have hb : ((2 : Float) == Float.ofInt 2) = true := by decide +kernel
  have hc : ((12 : Float) == Float.ofInt 12) = true := by decide +kernel
  obtain ⟨s, hsolve, -, hfallback, hfactored, -⟩ := solveFactoring_of_integers hparams ha hb hc
    (by decide) (by decide) (by decide) (by decide)
  have hfactors : HasFactors (-2) 2 12 :=
    ⟨by decide, by decide, by decide, 3, -2, fun t => by norm_num; ring⟩
  have hfalse := hfallback.mpr hfactors
  exact ⟨s, hsolve, hfalse, (hfactored hfalse).2⟩

end EquationTutor.Solve
