import EquationTutor.Proofs.Double.IntegerArithmetic
import EquationTutor.Proofs.Exact.Numbers
import EquationTutor.Proofs.Solution.Answers
/-!
Systems of two equations with integer coefficients. Cramer's rule tells a system with one real
solution from one with none and from one with infinitely many, but for the systems in which no
unknown occurs: all determinants of these are zero, whatever the right sides say.
-/

namespace EquationTutor

/-- The equations `a₁x + b₁y = c₁` and `a₂x + b₂y = c₂`. -/
structure IntegerSystem where
  (a1 b1 c1 a2 b2 c2 : Int)
  deriving DecidableEq, Repr

/-- The set says how many solutions there are: one, infinitely many or none. -/
structure Classifies {α : Type} (set : SolutionSet α) (solutions : Set (ℝ × ℝ)) : Prop where
  point_iff : (∃ x y, set = .point x y) ↔ ∃! p, p ∈ solutions
  infinite_iff : set = .infinite ↔ solutions.Infinite
  empty_iff : set = .empty ↔ solutions = ∅

section Classifies

variable {α : Type} {solutions : Set (ℝ × ℝ)}

theorem classifies_point {p : ℝ × ℝ} (h : solutions = {p}) (x y : α) :
    Classifies (.point x y) solutions := by
  subst h
  refine ⟨iff_of_true ⟨x, y, rfl⟩ ⟨p, rfl, fun _ => id⟩, ?_, ?_⟩
  · exact iff_of_false nofun fun hinfinite => hinfinite (Set.finite_singleton p)
  · exact iff_of_false nofun (Set.singleton_ne_empty p)

theorem classifies_infinite_iff :
    Classifies (.infinite : SolutionSet α) solutions ↔ solutions.Infinite := by
  refine ⟨fun h => h.infinite_iff.mp rfl, fun h => ⟨?_, iff_of_true rfl h, ?_⟩⟩
  · refine iff_of_false nofun fun ⟨p, hp, hunique⟩ => h ?_
    exact (Set.finite_singleton p).subset fun q hq => hunique q hq
  · exact iff_of_false nofun h.nonempty.ne_empty

theorem classifies_empty (h : solutions = ∅) :
    Classifies (.empty : SolutionSet α) solutions := by
  subst h
  refine ⟨iff_of_false nofun ?_, iff_of_false nofun ?_, iff_of_true rfl rfl⟩
  · exact fun ⟨_, hp, _⟩ => hp
  · exact fun hinfinite => hinfinite Set.finite_empty

end Classifies

theorem infinite_line {a b : ℝ} (c : ℝ) (h : a ≠ 0 ∨ b ≠ 0) :
    {p : ℝ × ℝ | a * p.1 + b * p.2 = c}.Infinite := by
  rcases h with ha | hb
  · refine Set.infinite_of_injective_forall_mem (f := fun t : ℝ => ((c - b * t) / a, t)) ?_ ?_
    · exact fun t u htu => congrArg Prod.snd htu
    · intro t
      change a * ((c - b * t) / a) + b * t = c
      rw [mul_div_cancel₀ _ ha, sub_add_cancel]
  · refine Set.infinite_of_injective_forall_mem (f := fun t : ℝ => (t, (c - a * t) / b)) ?_ ?_
    · exact fun t u htu => congrArg Prod.fst htu
    · intro t
      change a * t + b * ((c - a * t) / b) = c
      rw [mul_div_cancel₀ _ hb, add_sub_cancel]

/-- Where all determinants vanish, the second equation says nothing more than the first. -/
theorem on_second_of_on_first {a b c a' b' c' x y : ℝ} (h : a ≠ 0 ∨ b ≠ 0)
    (hab : a * b' = a' * b) (hcb : c * b' = c' * b) (hac : a * c' = a' * c)
    (hfirst : a * x + b * y = c) : a' * x + b' * y = c' := by
  rcases h with ha | hb
  · refine mul_left_cancel₀ ha ?_
    calc
      a * (a' * x + b' * y) = a' * (a * x) + a * b' * y := by ring
      _ = a' * (a * x + b * y) := by rw [hab]; ring
      _ = a * c' := by rw [hfirst, hac]
  · refine mul_left_cancel₀ hb ?_
    calc
      b * (a' * x + b' * y) = a' * b * x + b' * (b * y) := by ring
      _ = b' * (a * x + b * y) := by rw [← hab]; ring
      _ = b * c' := by rw [hfirst, mul_comm b', hcb, mul_comm]

theorem Solve.systemSet_eq_point {α : Type} [Scalar α] {d dx dy x y : α}
    (h : (systemSet d dx dy).2 = .point x y) :
    ¬ Scalar.isZero d = true ∧ x = dx / d ∧ y = dy / d := by
  rw [systemSet] at h
  by_cases hd : Scalar.isZero d = true
  · rw [if_pos hd] at h
    split at h <;> cases h
  · rw [if_neg hd] at h
    cases h
    exact ⟨hd, rfl, rfl⟩

/-- The double is a quotient of two integers, both without rounding. -/
def Double.IsQuotient (x : Float) (m n : Int) : Prop :=
  ∃ u v, IsInteger u m ∧ IsInteger v n ∧ x = u / v

theorem Double.IsQuotient.isInteger {x : Float} {m n : Int} (h : IsQuotient x (m * n) n)
    (hn : n ≠ 0) : IsInteger x m := by
  obtain ⟨u, v, hu, hv, rfl⟩ := h
  exact hu.div hv hn

namespace IntegerSystem

variable (S : IntegerSystem)

def entries : List (String × Int) :=
  [("a1", S.a1), ("a2", S.a2), ("b1", S.b1), ("b2", S.b2), ("c1", S.c1), ("c2", S.c2)]

def products : List Int :=
  [S.a1 * S.b2, S.a2 * S.b1, S.c1 * S.b2, S.c2 * S.b1, S.a1 * S.c2, S.a2 * S.c1]

def determinant : Int :=
  S.a1 * S.b2 - S.a2 * S.b1

def detX : Int :=
  S.c1 * S.b2 - S.c2 * S.b1

def detY : Int :=
  S.a1 * S.c2 - S.a2 * S.c1

/-- The points that lie on both lines. -/
def solutions : Set (ℝ × ℝ) :=
  {p | S.a1 * p.1 + S.b1 * p.2 = S.c1 ∧ S.a2 * p.1 + S.b2 * p.2 = S.c2}

/-- No unknown occurs, and the equations contradict themselves. -/
def IsHollow : Prop :=
  (S.a1 = 0 ∧ S.b1 = 0 ∧ S.a2 = 0 ∧ S.b2 = 0) ∧ ¬ (S.c1 = 0 ∧ S.c2 = 0)

theorem cast_determinant : (S.determinant : ℝ) = S.a1 * S.b2 - S.a2 * S.b1 := by
  simp [determinant]

theorem cast_detX : (S.detX : ℝ) = S.c1 * S.b2 - S.c2 * S.b1 := by
  simp [detX]

theorem cast_detY : (S.detY : ℝ) = S.a1 * S.c2 - S.a2 * S.c1 := by
  simp [detY]

theorem solutions_eq_singleton (h : S.determinant ≠ 0) :
    S.solutions =
      {((S.detX : ℝ) / S.determinant, (S.detY : ℝ) / S.determinant)} := by
  have hne : (S.determinant : ℝ) ≠ 0 := Int.cast_ne_zero.mpr h
  ext ⟨x, y⟩
  simp only [solutions, Set.mem_ofPred_eq, Set.mem_singleton_iff, Prod.mk.injEq,
    eq_div_iff hne]
  constructor
  · rintro ⟨hfirst, hsecond⟩
    rw [cast_determinant, cast_detX, cast_detY, ← hfirst, ← hsecond]
    constructor <;> ring
  · rintro ⟨hx, hy⟩
    constructor
    · refine mul_right_cancel₀ hne ?_
      calc
        (S.a1 * x + S.b1 * y) * S.determinant =
            S.a1 * (x * S.determinant) + S.b1 * (y * S.determinant) := by ring
        _ = S.c1 * S.determinant := by
          rw [hx, hy, cast_detX, cast_detY, cast_determinant]
          ring
    · refine mul_right_cancel₀ hne ?_
      calc
        (S.a2 * x + S.b2 * y) * S.determinant =
            S.a2 * (x * S.determinant) + S.b2 * (y * S.determinant) := by ring
        _ = S.c2 * S.determinant := by
          rw [hx, hy, cast_detX, cast_detY, cast_determinant]
          ring

theorem solutions_eq_empty (h : S.determinant = 0) (h' : ¬ (S.detX = 0 ∧ S.detY = 0)) :
    S.solutions = ∅ := by
  have hdeterminant : (S.a1 * S.b2 - S.a2 * S.b1 : ℝ) = 0 := by
    rw [← cast_determinant, h, Int.cast_zero]
  refine Set.eq_empty_of_forall_notMem fun ⟨x, y⟩ ⟨hfirst, hsecond⟩ => h' ?_
  dsimp only at hfirst hsecond
  constructor
  · have : (S.c1 * S.b2 - S.c2 * S.b1 : ℝ) = 0 := by
      rw [← hfirst, ← hsecond]
      linear_combination x * hdeterminant
    exact_mod_cast this
  · have : (S.a1 * S.c2 - S.a2 * S.c1 : ℝ) = 0 := by
      rw [← hfirst, ← hsecond]
      linear_combination y * hdeterminant
    exact_mod_cast this

/-- Without a determinant the second line is the first, if there is a first one at all. -/
theorem infinite_solutions (h : S.determinant = 0) (hx : S.detX = 0) (hy : S.detY = 0)
    (hline : S.a1 ≠ 0 ∨ S.b1 ≠ 0) : S.solutions.Infinite := by
  have hab : (S.a1 * S.b2 : ℝ) = S.a2 * S.b1 := by
    exact_mod_cast sub_eq_zero.mp h
  have hcb : (S.c1 * S.b2 : ℝ) = S.c2 * S.b1 := by
    exact_mod_cast sub_eq_zero.mp hx
  have hac : (S.a1 * S.c2 : ℝ) = S.a2 * S.c1 := by
    exact_mod_cast sub_eq_zero.mp hy
  have hline' : (S.a1 : ℝ) ≠ 0 ∨ (S.b1 : ℝ) ≠ 0 := by
    exact_mod_cast hline
  exact (infinite_line _ hline').mono fun p hp =>
    ⟨hp, on_second_of_on_first hline' hab hcb hac hp⟩

def swap : IntegerSystem :=
  ⟨S.a2, S.b2, S.c2, S.a1, S.b1, S.c1⟩

theorem solutions_swap : S.swap.solutions = S.solutions :=
  Set.ext fun _ => and_comm

theorem determinant_swap : S.swap.determinant = -S.determinant := by
  simp [swap, determinant]

theorem detX_swap : S.swap.detX = -S.detX := by
  simp [swap, detX]

theorem detY_swap : S.swap.detY = -S.detY := by
  simp [swap, detY]

theorem infinite_solutions_iff (h : S.determinant = 0) (hx : S.detX = 0) (hy : S.detY = 0) :
    S.solutions.Infinite ↔ ¬ S.IsHollow := by
  by_cases hfirst : S.a1 ≠ 0 ∨ S.b1 ≠ 0
  · exact iff_of_true (S.infinite_solutions h hx hy hfirst) fun hhollow =>
      hfirst.elim (absurd hhollow.1.1) (absurd hhollow.1.2.1)
  by_cases hsecond : S.a2 ≠ 0 ∨ S.b2 ≠ 0
  · refine iff_of_true ?_ fun hhollow =>
      hsecond.elim (absurd hhollow.1.2.2.1) (absurd hhollow.1.2.2.2)
    rw [← solutions_swap]
    exact S.swap.infinite_solutions (by rw [determinant_swap, h, neg_zero])
      (by rw [detX_swap, hx, neg_zero]) (by rw [detY_swap, hy, neg_zero]) hsecond
  · obtain ⟨ha1, hb1⟩ := not_or.mp hfirst
    obtain ⟨ha2, hb2⟩ := not_or.mp hsecond
    simp only [ne_eq, not_not] at ha1 hb1 ha2 hb2
    have hmem (p : ℝ × ℝ) : p ∈ S.solutions ↔ S.c1 = 0 ∧ S.c2 = 0 := by
      simp [solutions, ha1, hb1, ha2, hb2, eq_comm]
    have hhollow : ¬ S.IsHollow ↔ S.c1 = 0 ∧ S.c2 = 0 := by
      simp [IsHollow, ha1, hb1, ha2, hb2]
    rw [hhollow]
    constructor
    · intro hinfinite
      obtain ⟨p, hp⟩ := hinfinite.nonempty
      exact (hmem p).mp hp
    · intro hc
      rw [Set.eq_univ_of_forall fun p => (hmem p).mpr hc]
      exact Set.infinite_univ

/-- Cramer's rule, over any numbers that tell the determinants from zero. -/
theorem classifies_systemSet_iff {α : Type} [Scalar α] {d dx dy : α}
    (hd : Scalar.isZero d = true ↔ S.determinant = 0)
    (hdx : Scalar.isZero dx = true ↔ S.detX = 0) (hdy : Scalar.isZero dy = true ↔ S.detY = 0) :
    Classifies (Solve.systemSet d dx dy).2 S.solutions ↔ ¬ S.IsHollow := by
  rw [Solve.systemSet]
  by_cases h : S.determinant = 0
  · rw [if_pos (hd.mpr h)]
    by_cases h' : S.detX = 0 ∧ S.detY = 0
    · rw [if_pos (Bool.and_eq_true_iff.mpr ⟨hdx.mpr h'.1, hdy.mpr h'.2⟩), classifies_infinite_iff]
      exact S.infinite_solutions_iff h h'.1 h'.2
    · rw [if_neg fun hzero => h' ((Bool.and_eq_true_iff.mp hzero).imp hdx.mp hdy.mp)]
      refine iff_of_true (classifies_empty (S.solutions_eq_empty h h')) fun hhollow => h' ?_
      simp [detX, detY, hhollow.1]
  · rw [if_neg (mt hd.mp h)]
    refine iff_of_true (classifies_point (S.solutions_eq_singleton h) _ _) fun hhollow => h ?_
    simp [determinant, hhollow.1]

theorem linearSystem_real :
    let s := Solve.linearSystem (S.a1 : ℝ) S.b1 S.c1 S.a2 S.b2 S.c2
    (Classifies s.set S.solutions ↔ ¬ S.IsHollow) ∧
      ∀ x y, s.set = .point x y → (x, y) ∈ S.solutions := by
  simp only [Solve.linearSystem, Solution.plain, ← cast_determinant, ← cast_detX, ← cast_detY]
  refine ⟨S.classifies_systemSet_iff (Exact.isZero_intCast_iff _) (Exact.isZero_intCast_iff _)
    (Exact.isZero_intCast_iff _), fun x y hpoint => ?_⟩
  obtain ⟨hne, rfl, rfl⟩ := Solve.systemSet_eq_point hpoint
  rw [S.solutions_eq_singleton (mt (Exact.isZero_intCast_iff _).mpr hne)]
  rfl

/-- Coefficients and products have at most 53 bits. The determinants may have one more. -/
structure HasExactProducts : Prop where
  coefficient : ∀ e ∈ S.entries, e.2.natAbs < 2 ^ 53
  product : ∀ n ∈ S.products, n.natAbs < 2 ^ 53

def HasExactDeterminants : Prop :=
  ∀ n ∈ [S.determinant, S.detX, S.detY], n.natAbs < 2 ^ 53

/-- The record holds the coefficients. -/
def IsReadFrom (params : Params Float) : Prop :=
  ∀ e ∈ S.entries, ∃ x, params.number? e.1 = some x ∧ (x == Float.ofInt e.2) = true

def params : Params Float :=
  ⟨S.entries.map fun e => (e.1, .number (Float.ofInt e.2))⟩

theorem isReadFrom_params (h : ∀ e ∈ S.entries, e.2.natAbs < 2 ^ 53) : S.IsReadFrom S.params := by
  have hbeq (e : String × Int) (he : e ∈ S.entries) : (Float.ofInt e.2 == Float.ofInt e.2) = true :=
    (Double.isInteger_ofInt (h e he)).beq_ofInt
  intro e he
  refine ⟨Float.ofInt e.2, ?_, hbeq e he⟩
  simp only [entries, List.mem_cons, List.not_mem_nil, or_false] at he
  rcases he with rfl | rfl | rfl | rfl | rfl | rfl <;> rfl

theorem solveSystem_params : Solve.solveSystem S.params =
    .ok (Solve.linearSystem (Float.ofInt S.a1) (Float.ofInt S.b1) (Float.ofInt S.c1)
      (Float.ofInt S.a2) (Float.ofInt S.b2) (Float.ofInt S.c2)) :=
  rfl

/-- The pair is the one solution, up to the rounding of one division each. -/
structure IsSolution (x y : Float) : Prop where
  solutions_eq : S.solutions = {((S.detX : ℝ) / S.determinant, (S.detY : ℝ) / S.determinant)}
  isQuotient_x : Double.IsQuotient x S.detX S.determinant
  isQuotient_y : Double.IsQuotient y S.detY S.determinant
  isInteger : ∀ m n : Int, ((m : ℝ), (n : ℝ)) ∈ S.solutions →
    Double.IsInteger x m ∧ Double.IsInteger y n

variable {S}

theorem isSolution_of_isQuotient {x y : Float} (h : S.determinant ≠ 0)
    (hx : Double.IsQuotient x S.detX S.determinant)
    (hy : Double.IsQuotient y S.detY S.determinant) : S.IsSolution x y := by
  have hne : (S.determinant : ℝ) ≠ 0 := Int.cast_ne_zero.mpr h
  have hsolutions := S.solutions_eq_singleton h
  refine ⟨hsolutions, hx, hy, fun m n hmem => ?_⟩
  rw [hsolutions] at hmem
  obtain ⟨hm, hn⟩ := Prod.mk.inj hmem
  have hdetX : m * S.determinant = S.detX := by
    exact_mod_cast (eq_div_iff hne).mp hm
  have hdetY : n * S.determinant = S.detY := by
    exact_mod_cast (eq_div_iff hne).mp hn
  rw [← hdetX] at hx
  rw [← hdetY] at hy
  exact ⟨hx.isInteger h, hy.isInteger h⟩

namespace HasExactProducts

variable (hexact : S.HasExactProducts)
include hexact

theorem exists_isInteger {params : Params Float} (hparams : S.IsReadFrom params) {key : String}
    {n : Int} (he : (key, n) ∈ S.entries) :
    ∃ x, params.number? key = some x ∧ Double.IsInteger x n := by
  obtain ⟨x, hx, hbeq⟩ := hparams _ he
  exact ⟨x, hx, Double.isInteger_of_beq (hexact.coefficient _ he) hbeq⟩

theorem mul {x y : Float} {m n : Int} (hx : Double.IsInteger x m) (hy : Double.IsInteger y n)
    (h : m * n ∈ S.products) : Double.IsInteger (x * y) (m * n) :=
  hx.mul hy (hexact.product _ h)

theorem classifies_linearSystem {a1 b1 c1 a2 b2 c2 : Float}
    (ha1 : Double.IsInteger a1 S.a1) (hb1 : Double.IsInteger b1 S.b1)
    (hc1 : Double.IsInteger c1 S.c1) (ha2 : Double.IsInteger a2 S.a2)
    (hb2 : Double.IsInteger b2 S.b2) (hc2 : Double.IsInteger c2 S.c2) :
    let s := Solve.linearSystem a1 b1 c1 a2 b2 c2
    (Classifies s.set S.solutions ↔ ¬ S.IsHollow) ∧
      ∀ x y, s.set = .point x y → S.HasExactDeterminants → S.IsSolution x y := by
  have hab := hexact.mul ha1 hb2 (by simp [products])
  have hba := hexact.mul ha2 hb1 (by simp [products])
  have hcb := hexact.mul hc1 hb2 (by simp [products])
  have hbc := hexact.mul hc2 hb1 (by simp [products])
  have hac := hexact.mul ha1 hc2 (by simp [products])
  have hca := hexact.mul ha2 hc1 (by simp [products])
  have hdeterminant : Scalar.isZero (a1 * b2 - a2 * b1) = true ↔ S.determinant = 0 :=
    (hab.isZero_sub_iff hba).trans sub_eq_zero.symm
  refine ⟨S.classifies_systemSet_iff hdeterminant
    ((hcb.isZero_sub_iff hbc).trans sub_eq_zero.symm)
    ((hac.isZero_sub_iff hca).trans sub_eq_zero.symm), fun x y hpoint hlt => ?_⟩
  obtain ⟨hne, rfl, rfl⟩ := Solve.systemSet_eq_point hpoint
  have hd := hab.sub hba (hlt S.determinant (by simp))
  exact isSolution_of_isQuotient (mt hdeterminant.mpr hne)
    ⟨_, _, hcb.sub hbc (hlt S.detX (by simp)), hd, rfl⟩
    ⟨_, _, hac.sub hca (hlt S.detY (by simp)), hd, rfl⟩

end HasExactProducts

/-- The solver tells how many real solutions a system with integer coefficients has, if and only
if the system is not one without unknowns that contradicts itself. -/
theorem solveSystem_classifies_iff {params : Params Float} (hparams : S.IsReadFrom params)
    (hexact : S.HasExactProducts) :
    (∃ s, Solve.solveSystem params = .ok s ∧ s.category = .linearSystem ∧
      (Classifies s.set S.solutions ↔ ¬ S.IsHollow) ∧
      ∀ x y, s.set = .point x y → S.HasExactDeterminants → S.IsSolution x y) ∧
    (let s := Solve.linearSystem (S.a1 : ℝ) S.b1 S.c1 S.a2 S.b2 S.c2
    (Classifies s.set S.solutions ↔ ¬ S.IsHollow) ∧
      ∀ x y, s.set = .point x y → (x, y) ∈ S.solutions) := by
  refine ⟨?_, S.linearSystem_real⟩
  have hentry {key : String} {n : Int} (he : (key, n) ∈ S.entries) :=
    hexact.exists_isInteger hparams he
  obtain ⟨a1, ha1, ia1⟩ := hentry (show ("a1", S.a1) ∈ S.entries by simp [entries])
  obtain ⟨b1, hb1, ib1⟩ := hentry (show ("b1", S.b1) ∈ S.entries by simp [entries])
  obtain ⟨c1, hc1, ic1⟩ := hentry (show ("c1", S.c1) ∈ S.entries by simp [entries])
  obtain ⟨a2, ha2, ia2⟩ := hentry (show ("a2", S.a2) ∈ S.entries by simp [entries])
  obtain ⟨b2, hb2, ib2⟩ := hentry (show ("b2", S.b2) ∈ S.entries by simp [entries])
  obtain ⟨c2, hc2, ic2⟩ := hentry (show ("c2", S.c2) ∈ S.entries by simp [entries])
  have hsolve : Solve.solveSystem params = .ok (Solve.linearSystem a1 b1 c1 a2 b2 c2) := by
    simp only [Solve.solveSystem, Solve.require, ha1, hb1, hc1, ha2, hb2, hc2]
    rfl
  exact ⟨_, hsolve, rfl, hexact.classifies_linearSystem ia1 ib1 ic1 ia2 ib2 ic2⟩

/-- `x + y = 3` and `x - y = 1` meet in `(2, 1)`. -/
theorem solveSystem_meetingLines :
    ∃ s, Solve.solveSystem (params ⟨1, 1, 3, 1, -1, 1⟩) = .ok s ∧
      ∃ x y, s.set = .point x y ∧ Double.IsInteger x 2 ∧ Double.IsInteger y 1 := by
  have hexact : HasExactProducts ⟨1, 1, 3, 1, -1, 1⟩ := ⟨by decide, by decide⟩
  obtain ⟨⟨s, hsolve, -, hclassifies, hsolution⟩, -⟩ :=
    solveSystem_classifies_iff (isReadFrom_params _ hexact.coefficient) hexact
  have hset := solutions_eq_singleton ⟨1, 1, 3, 1, -1, 1⟩ (by decide)
  obtain ⟨x, y, hpoint⟩ := (hclassifies.mpr (by unfold IsHollow; decide)).point_iff.mpr
    ⟨_, hset.ge rfl, fun p hp => hset.le hp⟩
  refine ⟨s, hsolve, x, y, hpoint, ?_⟩
  refine (hsolution x y hpoint (by unfold HasExactDeterminants; decide)).isInteger 2 1 ?_
  constructor <;> norm_num

/-- `0x + 0y = 5` and `0x + 0y = 7` have no solution, but are said to have infinitely many. -/
theorem not_classifies_hollow :
    solutions ⟨0, 0, 5, 0, 0, 7⟩ = ∅ ∧
      ∃ s, Solve.solveSystem (params ⟨0, 0, 5, 0, 0, 7⟩) = .ok s ∧ s.set = .infinite ∧
        ¬ Classifies s.set (solutions ⟨0, 0, 5, 0, 0, 7⟩) := by
  have hempty : solutions ⟨0, 0, 5, 0, 0, 7⟩ = ∅ := by
    refine Set.eq_empty_of_forall_notMem fun p hp => ?_
    have hfirst : ((0 : Int) : ℝ) * p.1 + ((0 : Int) : ℝ) * p.2 = ((5 : Int) : ℝ) := hp.1
    norm_num at hfirst
  have hdeterminant : Scalar.isZero (Float.ofInt 0 * Float.ofInt 0 - Float.ofInt 0 * Float.ofInt 0) =
      true := by decide +kernel
  have hdetX : Scalar.isZero (Float.ofInt 5 * Float.ofInt 0 - Float.ofInt 7 * Float.ofInt 0) =
      true := by decide +kernel
  have hdetY : Scalar.isZero (Float.ofInt 0 * Float.ofInt 7 - Float.ofInt 0 * Float.ofInt 5) =
      true := by decide +kernel
  have hset : (Solve.linearSystem (Float.ofInt 0) (Float.ofInt 0) (Float.ofInt 5) (Float.ofInt 0)
      (Float.ofInt 0) (Float.ofInt 7)).set = .infinite := by
    simp only [Solve.linearSystem, Solve.systemSet, Solution.plain, hdeterminant, hdetX, hdetY,
      Bool.and_self, if_true]
  refine ⟨hempty, _, solveSystem_params _, hset, ?_⟩
  rw [hset, classifies_infinite_iff, hempty]
  exact fun hinfinite => hinfinite Set.finite_empty

end IntegerSystem

end EquationTutor
