import EquationTutor.Proofs.RoundTrip.Systems
import EquationTutor.Proofs.Solution.Answers
import EquationTutor.Step.Generate
/-!
The first step of a worked solution states the problem, and the reader takes its expression for
the problem that was solved. Over doubles this holds for all integer coefficients that a double
has the bits for.
-/

namespace EquationTutor

open PolynomialText Reading Solve

/-- Equal values. Numbers are compared as numbers, so that a zero may have either sign. -/
def ParamValue.Same {α : Type} [Scalar α] : ParamValue α → ParamValue α → Prop
  | .number x, .number y => (x == y) = true
  | .text s, .text t => s = t
  | _, _ => False

/-- Equal values under the same names. -/
def Params.Same {α : Type} [Scalar α] (p q : Params α) : Prop :=
  List.Forall₂ (fun e f => e.1 = f.1 ∧ e.2.Same f.2) p.entries q.entries

/-- A problem that its first step states in full. -/
inductive StandardForm (α : Type) where
  /-- `a x² + b x + c` and 0 in the relation `r`. -/
  | quadratic (a b c : α) (r : Relation)
  /-- `m x + b` and `c` in the relation `r`. -/
  | linear (m b c : α) (r : Relation) (hr : r ≠ .ne)
  /-- `a₁ x + b₁ y = c₁` and `a₂ x + b₂ y = c₂`. -/
  | system (a₁ b₁ c₁ a₂ b₂ c₂ : α)

namespace StandardForm

section

variable {α : Type}

def kind : StandardForm α → Kind
  | quadratic _ _ _ r => if r = .eq then .standardQuadratic else .quadraticInequality
  | linear _ _ _ r _ => if r = .eq then .simpleLinear else .linearInequality
  | system .. => .linearSystem

def parameters : StandardForm α → Params α
  | quadratic a b c r =>
    ⟨[("a", .number a), ("b", .number b), ("c", .number c)] ++ operatorEntries α r⟩
  | linear m b c r _ =>
    ⟨[("b", .number b), ("c", .number c), ("m", .number m)] ++ operatorEntries α r⟩
  | system a₁ b₁ c₁ a₂ b₂ c₂ => systemRecord a₁ b₁ c₁ a₂ b₂ c₂

def coefficients : StandardForm α → List α
  | quadratic a b c _ => [a, b, c]
  | linear m b c _ _ => [m, b, c]
  | system a₁ b₁ c₁ a₂ b₂ c₂ => [a₁, b₁, c₁, a₂, b₂, c₂]

/-- The coefficients without which the problem is of another kind. -/
def leading : StandardForm α → List α
  | quadratic a _ _ _ => [a]
  | linear m _ _ _ _ => [m]
  | system a₁ b₁ _ a₂ b₂ _ => [a₁, b₁, a₂, b₂]

end

end StandardForm

/-- The number is an integer that a double has the bits for. -/
def IntegerValued (x : Float) : Prop :=
  ∃ n : Int, n.natAbs < 2 ^ 53 ∧ (x == Float.ofInt n) = true

section Steps

variable {α : Type} [Scalar α] {s : Solution α} {kind : Kind}

theorem exists_head?_steps {first : Step} {rest : List Step}
    (h : s.outline kind = first :: rest) :
    ∃ step, (s.steps kind).head? = some step ∧ step.expression = first.expression := by
  rw [Solution.steps, h]
  cases rest with
  | nil => exact ⟨_, rfl, rfl⟩
  | cons t ts => exact ⟨_, rfl, rfl⟩

variable {a b c : α} {r : Relation}

omit [Scalar α] in
theorem relation_operatorEntries {entries : List (String × ParamValue α)}
    (h : entries.lookup "operator" = none) (hr : r ≠ .eq) :
    relation ⟨entries ++ operatorEntries α r⟩ kind = .ok r := by
  rw [relation, Params.text?, Params.get?, List.lookup_append, h, Option.none_or, operatorEntries,
    if_neg hr]
  cases r <;> rfl

theorem quadraticCoefficients_parameters : quadraticCoefficients
    (StandardForm.quadratic a b c r).parameters kind = .ok (a, b, c) := by
  simp [quadraticCoefficients, StandardForm.parameters, Params.numberD, Params.number?,
    Params.get?, List.lookup_cons, ParamValue.toNumber]

/-- The expression of the first step. -/
def StandardForm.statement : StandardForm α → String
  | quadratic a b c r => shownQuadratic a b c "x" ++ " " ++ r.symbol ++ " " ++ "0"
  | linear m b c r _ => shownLinear m b "x" ++ " " ++ r.symbol ++ " " ++ shown c
  | system a₁ b₁ c₁ a₂ b₂ c₂ =>
    Step.equationInTwo a₁ b₁ c₁ ++ ", " ++ Step.equationInTwo a₂ b₂ c₂

/-- The problem is solved, and the first step of its solution states it. -/
def StandardForm.States (e : StandardForm α) : Prop :=
  ∃ solution step, (Problem.ofParams e.kind e.parameters).solve = .ok solution ∧
    (solution.steps e.kind).head? = some step ∧ step.expression = some e.statement

theorem states_of_outline {e : StandardForm α} {first : Step} {rest : List Step}
    (hsolve : solveKind e.kind e.parameters = .ok s) (h : s.outline e.kind = first :: rest)
    (hfirst : first.expression = some e.statement) : e.States := by
  obtain ⟨step, hhead, hexpression⟩ := exists_head?_steps h
  exact ⟨s, step, hsolve, hhead, hexpression.trans hfirst⟩

theorem states_quadratic (ha : Scalar.isZero a = false) :
    (StandardForm.quadratic a b c r).States := by
  obtain ⟨delta, roots, hroots⟩ : ∃ delta roots, quadraticRoots a b c = .ok (delta, roots) :=
    ⟨_, _, quadraticRoots_eq_ok_iff.mpr ⟨checkLeading_of_isZero ha, rfl, rfl⟩⟩
  by_cases hr : r = .eq
  · subst hr
    have hsolve : solveKind .standardQuadratic (StandardForm.quadratic a b c .eq).parameters =
        .ok (.plain .standardQuadratic roots.nature.label roots.toSet
          (.quadratic (quadraticDetail a b c delta roots.nature))) := by
      simp only [solveKind, solveQuadratic, solveCoefficients, bind_eq_ok_iff]
      exact ⟨_, quadraticCoefficients_parameters, _, hroots, rfl⟩
    refine states_of_outline (e := .quadratic a b c .eq) hsolve rfl ?_
    simp only [StandardForm.statement, String.append_assoc]
    rfl
  · have hkind : (StandardForm.quadratic a b c r).kind = .quadraticInequality := if_neg hr
    obtain ⟨t, ht⟩ : ∃ t, solveByTestPoints roots.real r (quadraticAt a b c) = t := ⟨_, rfl⟩
    have hsolve : solveKind .quadraticInequality (StandardForm.quadratic a b c r).parameters =
        .ok (.plain .quadraticInequality (describeSet t.1) t.1 (.quadraticInequality
          ⟨a, b, c, r, delta, roots.real, t.2⟩)) := by
      simp only [solveKind, solveQuadraticInequality, bind_eq_ok_iff]
      refine ⟨_, quadraticCoefficients_parameters, r, relation_operatorEntries rfl hr, _, hroots,
        ?_⟩
      rw [ht]
      rfl
    refine states_of_outline (by rw [hkind]; exact hsolve) rfl ?_
    simp only [StandardForm.statement, String.append_assoc]
    rfl

theorem states_linear (hr : r ≠ .ne) :
    (StandardForm.linear a b c r hr).States := by
  have hrequire (kind : Kind) :
      require (StandardForm.linear a b c r hr).parameters "m" kind = .ok a := by
    simp [require, orMissing, StandardForm.parameters, Params.number?, Params.get?,
      List.lookup_cons, ParamValue.toNumber]
  by_cases heq : r = .eq
  · subst heq
    have hsolve : solveKind .simpleLinear (StandardForm.linear a b c .eq hr).parameters =
        .ok (.plain .simpleLinear (linearSet a b c).1 (linearSet a b c).2
          (.linear ⟨a, b, c⟩)) := by
      simp only [solveKind, solveLinear, bind_eq_ok_iff]
      exact ⟨_, hrequire _, rfl⟩
    refine states_of_outline (e := .linear a b c .eq hr) hsolve rfl ?_
    simp only [StandardForm.statement]
    rfl
  · have hkind : (StandardForm.linear a b c r hr).kind = .linearInequality := if_neg heq
    have hsolve : solveKind .linearInequality (StandardForm.linear a b c r hr).parameters =
        .ok (linearInequality a b c r) := by
      simp only [solveKind, solveLinearInequality, bind_eq_ok_iff]
      exact ⟨_, hrequire _, r, relation_operatorEntries rfl heq, rfl⟩
    refine states_of_outline (by rw [hkind]; exact hsolve) rfl ?_
    simp only [StandardForm.statement]
    rfl

theorem states_system (a₁ b₁ c₁ a₂ b₂ c₂ : α) :
    (StandardForm.system a₁ b₁ c₁ a₂ b₂ c₂).States := by
  have hsolve : solveKind .linearSystem (systemRecord a₁ b₁ c₁ a₂ b₂ c₂) =
      .ok (linearSystem a₁ b₁ c₁ a₂ b₂ c₂) := by
    simp only [solveKind, solveSystem, bind_eq_ok_iff]
    exact ⟨_, rfl, _, rfl, _, rfl, _, rfl, _, rfl, _, rfl, rfl⟩
  exact states_of_outline (e := .system a₁ b₁ c₁ a₂ b₂ c₂) hsolve rfl rfl

end Steps

section Read

theorem same_operatorEntries (r : Relation) : List.Forall₂
    (fun e f : String × ParamValue Float => e.1 = f.1 ∧ e.2.Same f.2) (operatorEntries Float r)
    (operatorEntries Float r) := by
  rw [operatorEntries]
  split
  · exact .nil
  · exact .cons ⟨rfl, rfl⟩ .nil

theorem exists_isInteger {x : Float} (h : IntegerValued x) : ∃ n, Double.IsInteger x n := by
  obtain ⟨n, hn, hx⟩ := h
  exact ⟨n, Double.isInteger_of_beq hn hx⟩

theorem ne_zero_of_isInteger {x : Float} {n : Int} (hx : Double.IsInteger x n)
    (h : (x == 0) = false) : n ≠ 0 := by
  rintro rfl
  have hzero : (x == 0) = true := hx.beq_ofInt
  rw [h] at hzero
  cases hzero

/-- The reader takes the statement of the problem for the problem. -/
def StandardForm.Reads (e : StandardForm Float) : Prop :=
  ∃ problem : Problem Float,
    parseProblem ⟨some e.statement, none, none, none, none⟩ = .ok problem ∧
      problem.kind = e.kind ∧ e.parameters.Same problem.parameters

variable {x y z : Float} {a b c : Int} (hx : Double.IsInteger x a) (hy : Double.IsInteger y b)
  (hz : Double.IsInteger z c) (ha : a ≠ 0) {r : Relation}
include hx hy hz ha

theorem reads_quadratic : (StandardForm.quadratic x y z r).Reads := by
  obtain ⟨problem, hparse, hkind, hparameters⟩ := parseProblem_quadratic hy.natAbs_lt
    hx.natAbs_lt hz.natAbs_lt (spaced_relation (spaced_shownQuadratic hx hy hz ha) r spaced_zero)
  refine ⟨problem, hparse, hkind, ?_⟩
  rw [hparameters, Params.Same, entries_quadraticRecord]
  exact List.rel_append (.cons ⟨rfl, hx.beq_ofInt⟩ (.cons ⟨rfl, hy.beq_ofInt⟩
    (.cons ⟨rfl, hz.beq_ofInt⟩ .nil))) (same_operatorEntries r)

theorem reads_linear (hr : r ≠ .ne) : (StandardForm.linear x y z r hr).Reads := by
  obtain ⟨problem, hparse, hkind, hparameters⟩ := parseProblem_linear hy.natAbs_lt
    hx.natAbs_lt hz.natAbs_lt hr (spaced_relation (spaced_shownLinear hx hy ha) r (spaced_shown hz))
  refine ⟨problem, hparse, hkind, ?_⟩
  rw [hparameters, Params.Same, entries_linearRecord]
  exact List.rel_append (.cons ⟨rfl, hy.beq_ofInt⟩ (.cons ⟨rfl, hz.beq_ofInt⟩
    (.cons ⟨rfl, hx.beq_ofInt⟩ .nil))) (same_operatorEntries r)

theorem reads_system (hb : b ≠ 0) {x' y' z' : Float} {a' b' c' : Int}
    (hx' : Double.IsInteger x' a') (hy' : Double.IsInteger y' b') (hz' : Double.IsInteger z' c')
    (ha' : a' ≠ 0) (hb' : b' ≠ 0) : (StandardForm.system x y z x' y' z').Reads := by
  have hcomma : Spaced Text.isBlank [[',']] (typed ", ") :=
    ⟨[], [',', ' '], by decide, by simp, [' '], [], rfl,
      List.all_iff_forall_prop.mp (by decide), rfl⟩
  have hprinted := ((spaced_equationInTwo hx hy hz ha hb).append hcomma).append
    (spaced_equationInTwo hx' hy' hz' ha' hb')
  have hstatement : Spaced Text.isBlank
      ((PairEquation.ofInts a b c).tokens ++ [','] :: (PairEquation.ofInts a' b' c').tokens)
      (typed (StandardForm.system x y z x' y' z').statement) := by
    simpa [StandardForm.statement] using hprinted
  obtain ⟨problem, hparse, hkind, hparameters⟩ := parseProblem_system (α := Float) hstatement
  refine ⟨problem, hparse, hkind, ?_⟩
  have hsame {w : Float} {n : Int} (hw : Double.IsInteger w n) (opening : Bool) (p : Power) :
      (ParamValue.number w).Same (.number (Term.ofInt opening n p).coefficient) := by
    rw [Term.coefficient_ofInt _ _ _ hw.natAbs_lt]
    exact hw.beq_ofInt
  rw [hparameters, Params.Same]
  exact .cons ⟨rfl, hsame hx _ _⟩ (.cons ⟨rfl, hsame hx' _ _⟩ (.cons ⟨rfl, hsame hy _ _⟩
    (.cons ⟨rfl, hsame hy' _ _⟩ (.cons ⟨rfl, hsame hz _ _⟩ (.cons ⟨rfl, hsame hz' _ _⟩ .nil)))))

end Read

/-- What the first step of a worked solution prints is read as the problem that was solved. -/
theorem parseProblem_first_expression (e : StandardForm Float)
    (hinteger : ∀ x ∈ e.coefficients, IntegerValued x)
    (hleading : ∀ x ∈ e.leading, (x == 0) = false) :
    ∃ solution step text, ∃ problem : Problem Float,
      (Problem.ofParams e.kind e.parameters).solve = .ok solution ∧
      (solution.steps e.kind).head? = some step ∧ step.expression = some text ∧
      parseProblem ⟨some text, none, none, none, none⟩ = .ok problem ∧
      problem.kind = e.kind ∧ e.parameters.Same problem.parameters := by
  have hvalues : ∀ x ∈ e.coefficients, ∃ n, Double.IsInteger x n :=
    fun x hx => exists_isInteger (hinteger x hx)
  have hnonzero : ∀ x ∈ e.leading, ∀ n, Double.IsInteger x n → n ≠ 0 :=
    fun x hx n hn => ne_zero_of_isInteger hn (hleading x hx)
  have hboth : e.States ∧ e.Reads := by
    cases e with
    | quadratic x y z r =>
        simp only [StandardForm.coefficients, StandardForm.leading, List.forall_mem_cons]
          at hvalues hnonzero
        obtain ⟨⟨a, hx⟩, ⟨b, hy⟩, ⟨c, hz⟩, -⟩ := hvalues
        have ha : a ≠ 0 := hnonzero.1 a hx
        exact ⟨states_quadratic (Bool.eq_false_iff.mpr (mt hx.isZero_iff.mp ha)),
          reads_quadratic hx hy hz ha⟩
    | linear x y z r hr =>
        simp only [StandardForm.coefficients, StandardForm.leading, List.forall_mem_cons]
          at hvalues hnonzero
        obtain ⟨⟨m, hx⟩, ⟨b, hy⟩, ⟨c, hz⟩, -⟩ := hvalues
        exact ⟨states_linear hr, reads_linear hx hy hz (hnonzero.1 m hx) hr⟩
    | system x y z x' y' z' =>
        simp only [StandardForm.coefficients, StandardForm.leading, List.forall_mem_cons]
          at hvalues hnonzero
        obtain ⟨⟨a, hx⟩, ⟨b, hy⟩, ⟨c, hz⟩, ⟨a', hx'⟩, ⟨b', hy'⟩, ⟨c', hz'⟩, -⟩ := hvalues
        obtain ⟨ha, hb, ha', hb', -⟩ := hnonzero
        exact ⟨states_system x y z x' y' z', reads_system hx hy hz (ha a hx) (hb b hy)
          hx' hy' hz' (ha' a' hx') (hb' b' hy')⟩
  obtain ⟨⟨solution, step, hsolve, hhead, hexpression⟩, problem, hparse, hkind, hsame⟩ := hboth
  exact ⟨solution, step, e.statement, problem, hsolve, hhead, hexpression, hparse, hkind, hsame⟩

/-- The problem `-x² - 0 x + 9007199254740991 ≠ 0`, stated without its middle term. -/
theorem parseProblem_first_expression_of_negative_zero :
    ∃ solution step text, ∃ problem : Problem Float,
      (Problem.ofParams .quadraticInequality ⟨[("a", .number (-1)), ("b", .number (-0.0)),
        ("c", .number 9007199254740991), ("operator", .text "!=")]⟩).solve = .ok solution ∧
      (solution.steps .quadraticInequality).head? = some step ∧ step.expression = some text ∧
      parseProblem ⟨some text, none, none, none, none⟩ = .ok problem ∧
      problem.kind = .quadraticInequality ∧ Params.Same ⟨[("a", .number (-1)),
        ("b", .number (-0.0)), ("c", .number 9007199254740991), ("operator", .text "!=")]⟩
        problem.parameters := by
  refine parseProblem_first_expression (.quadratic (-1) (-0.0) 9007199254740991 .ne) ?_ ?_
  · intro x hx
    rcases List.mem_cons.mp hx with rfl | hx
    · exact ⟨-1, by decide, by decide +kernel⟩
    rcases List.mem_cons.mp hx with rfl | hx
    · exact ⟨0, by decide, by decide +kernel⟩
    obtain rfl := List.mem_singleton.mp hx
    exact ⟨9007199254740991, by decide, by decide +kernel⟩
  · intro x hx
    obtain rfl := List.mem_singleton.mp hx
    decide +kernel

end EquationTutor
