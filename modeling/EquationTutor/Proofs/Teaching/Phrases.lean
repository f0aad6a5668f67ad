import EquationTutor.Numeric.Double
import EquationTutor.Proofs.Solution.WellFormed
import EquationTutor.Proofs.Step.Answer
import EquationTutor.Proofs.Teaching.Decoration
import EquationTutor.Proofs.Teaching.Wording

namespace EquationTutor

open Teaching

namespace Step

/-- The step has the title of a move that problems of the family have a phrase for. -/
def Explained (family : Family) (s : Step) : Prop :=
  ∃ m, s.name = m.title ∧ (phrase? family m).isSome = true

section Building

variable (family : Family) (s : Step) (m : Move) (text before after : String)

@[simp]
theorem explained_of : (of m text).Explained family ↔ (phrase? family m).isSome = true := by
  constructor
  · rintro ⟨n, hname, hn⟩
    rwa [Move.title_inj.mp hname]
  · exact fun h => ⟨m, rfl, h⟩

@[simp]
theorem explained_withExpression :
    (s.withExpression text).Explained family ↔ s.Explained family :=
  Iff.rfl

@[simp]
theorem explained_transform :
    (s.transform before after).Explained family ↔ s.Explained family :=
  Iff.rfl

@[simp]
theorem explained_withOperation :
    (s.withOperation text).Explained family ↔ s.Explained family :=
  Iff.rfl

@[simp]
theorem explained_withReasoning :
    (s.withReasoning text).Explained family ↔ s.Explained family :=
  Iff.rfl

@[simp]
theorem explained_withRule : (s.withRule text).Explained family ↔ s.Explained family :=
  Iff.rfl

@[simp]
theorem explained_withHint : (s.withHint text).Explained family ↔ s.Explained family :=
  Iff.rfl

@[simp]
theorem explained_withFormula : (s.withFormula text).Explained family ↔ s.Explained family :=
  Iff.rfl

end Building

variable {α : Type} [Scalar α]

theorem explained_formulaSteps (d : QuadraticDetail α) (set : SolutionSet α) :
    ∀ s ∈ formulaSteps d set, s.Explained .quadratic := by
  unfold formulaSteps
  split
  · simp +decide [repeatedRootSteps]
  · simp +decide [complexRootSteps, applyFormula]
  · simp +decide [branchSteps, applyFormula]

theorem explained_ofQuadratic (d : QuadraticDetail α) (set : SolutionSet α) :
    ∀ s ∈ ofQuadratic d set, s.Explained .quadratic := by
  simpa +decide [ofQuadratic, givenQuadratic] using explained_formulaSteps d set

theorem explained_ofFactoring (d : FactoringDetail α) (set : SolutionSet α) :
    ∀ s ∈ ofFactoring d set, s.Explained .quadratic := by
  unfold ofFactoring
  split
  · unfold factoredSteps
    split <;> simp +decide [givenQuadratic, commonFactorStep, factorPairStep]
  · simpa +decide [givenQuadratic] using explained_formulaSteps d.quadratic set

theorem explained_squareRootSteps (d : SquareDetail α) (binomial square : String)
    (set : SolutionSet α) :
    ∀ s ∈ squareRootSteps d binomial square set, s.Explained .quadratic := by
  unfold squareRootSteps
  split <;> simp +decide

theorem explained_ofSquare (d : SquareDetail α) (set : SolutionSet α) :
    ∀ s ∈ ofSquare d set, s.Explained .quadratic := by
  have hroots (binomial square : String) := explained_squareRootSteps d binomial square set
  unfold ofSquare
  dsimp only
  split <;> simpa +decide [givenQuadratic] using hroots _ _

theorem explained_ofQuadraticInequality (d : QuadraticInequalityDetail α) (label : String) :
    ∀ s ∈ ofQuadraticInequality d label, s.Explained .quadratic := by
  unfold ofQuadraticInequality
  dsimp only
  split <;> simp +decide

theorem explained_timeOfMaxStep (d : ProjectileDetail α) :
    (timeOfMaxStep d).Explained .quadratic := by
  unfold timeOfMaxStep
  dsimp only
  split <;> simp +decide

theorem explained_maxHeightStep (d : ProjectileDetail α) :
    (maxHeightStep d).Explained .quadratic := by
  unfold maxHeightStep
  split <;> simp +decide

theorem explained_ofProjectile (d : ProjectileDetail α) :
    ∀ s ∈ ofProjectile d, s.Explained .quadratic := by
  unfold ofProjectile
  split <;> simp +decide [targetSteps, explained_timeOfMaxStep, explained_maxHeightStep]

theorem explained_describeGraphStep (d : VertexDetail α) :
    (describeGraphStep d).Explained .quadratic := by
  unfold describeGraphStep
  dsimp only
  split <;> simp +decide

theorem explained_extremumStep (d : VertexDetail α) (h k : String) :
    (extremumStep d h k).Explained .quadratic := by
  unfold extremumStep
  dsimp only
  split
  · split <;> simp +decide
  · simp +decide

theorem explained_ofVertex (d : VertexDetail α) :
    ∀ s ∈ ofVertex d, s.Explained .quadratic := by
  simp +decide [ofVertex, explained_describeGraphStep, explained_extremumStep]

theorem explained_ofExponential (d : ExponentialDetail α) (set : SolutionSet α) :
    ∀ s ∈ ofExponential d set, s.Explained .exponential := by
  unfold ofExponential
  split <;> split <;> simp +decide [naturalSteps, logarithmSteps]

theorem explained_ofExponentialInequality (d : ExponentialInequalityDetail α) (label : String) :
    ∀ s ∈ ofExponentialInequality d label, s.Explained .exponential := by
  unfold ofExponentialInequality
  split <;> split <;> simp +decide [baseTypeStep, criticalSteps]

theorem explained_uRootSteps (d : ExponentialQuadraticDetail α) (base u : String)
    (set : SolutionSet α) : ∀ s ∈ uRootSteps d base u set, s.Explained .exponential := by
  unfold uRootSteps
  dsimp only
  split <;> split <;> simp +decide [backSubstitutionSteps]

theorem explained_ofExponentialQuadratic (d : ExponentialQuadraticDetail α)
    (set : SolutionSet α) : ∀ s ∈ ofExponentialQuadratic d set, s.Explained .exponential := by
  unfold ofExponentialQuadratic
  dsimp only
  split
  · simp +decide
  · simpa +decide using explained_uRootSteps d _ _ set

theorem explained_ofLogarithmic (d : LogarithmicDetail α) (set : SolutionSet α) :
    ∀ s ∈ ofLogarithmic d set, s.Explained .exponential := by
  simp +decide [ofLogarithmic]

theorem explained_unknownStep (d : GrowthDetail α) (substitution : String) :
    (unknownStep d substitution).Explained .finance := by
  unfold unknownStep
  by_cases hfinal : d.solvedFor = .finalAmount <;> split <;> split <;> simp +decide [hfinal]

theorem explained_ofGrowth (kind : Kind) (d : GrowthDetail α) :
    ∀ s ∈ ofGrowth kind d, s.Explained .finance := by
  simp +decide [ofGrowth, explained_unknownStep]

theorem explained_ofHalfLife (d : HalfLifeDetail α) :
    ∀ s ∈ ofHalfLife d, s.Explained .finance := by
  unfold ofHalfLife
  dsimp only
  split <;> simp +decide [remainingStep]

theorem explained_divideStep (m b c : α) (r isolated : Relation) (current : String) :
    (divideStep m b c r isolated current).Explained .linear := by
  unfold divideStep
  split <;> simp +decide

theorem explained_isolateSteps (m b c : α) (r isolated : Relation) :
    ∀ s ∈ isolateSteps m b c r isolated, s.Explained .linear := by
  unfold isolateSteps
  split <;> simp +decide [explained_divideStep]

theorem explained_replaceLastResult (family : Family) (text : String) (steps : List Step) :
    (∀ s ∈ replaceLastResult text steps, s.Explained family) ↔
      ∀ s ∈ steps, s.Explained family := by
  induction steps with
  | nil => rfl
  | cons s rest ih =>
      cases rest with
      | nil => simp [replaceLastResult, Explained]
      | cons t rest =>
          rw [replaceLastResult, List.forall_mem_cons, List.forall_mem_cons, ih]
          simp

theorem explained_ofLinear (d : LinearDetail α) (s : Solution α) :
    ∀ step ∈ ofLinear d s, step.Explained .linear := by
  unfold ofLinear
  rw [List.forall_mem_cons]
  refine ⟨by simp +decide, ?_⟩
  split
  · simp +decide [classifyEquationStep]
  · rw [explained_replaceLastResult]
    exact explained_isolateSteps _ _ _ _ _

theorem explained_ofLinearInequality (d : LinearInequalityDetail α) (label : String) :
    ∀ s ∈ ofLinearInequality d label, s.Explained .linear := by
  have hisolate := explained_isolateSteps d.m d.b d.c d.relation d.isolatedRelation
  unfold ofLinearInequality
  split
  · simp +decide
  · simpa +decide [or_imp, forall_and] using hisolate

theorem explained_cramerStep (set : SolutionSet α) (minors : String) :
    (cramerStep set minors).Explained .linear := by
  unfold cramerStep
  split <;> simp +decide

theorem explained_ofSystem (d : SystemDetail α) (s : Solution α) :
    ∀ step ∈ ofSystem d s, step.Explained .linear := by
  simp +decide [ofSystem, explained_cramerStep]

end Step

variable {α : Type}

namespace Detail

def family : Detail α → Family
  | .quadratic _ | .factoring _ | .completingSquare _ | .quadraticInequality _ | .projectile _
  | .vertexAnalysis _ => .quadratic
  | .exponentialInequality _ | .exponentialQuadratic _ | .exponential _ | .logarithmic _ =>
    .exponential
  | .growth _ | .halfLife _ => .finance
  | .linearInequality _ | .linear _ | .system _ => .linear

theorem IsOf.family_eq {d : Detail α} {kind : Kind} (h : d.IsOf kind) :
    d.family = kind.family := by
  cases d with
  | quadratic => rcases h with rfl | rfl <;> rfl
  | growth => rcases h with rfl | rfl | rfl <;> rfl
  | exponential d =>
      change if d.natural then kind = .naturalExponential else kind = .simpleExponential at h
      split at h <;> subst h <;> rfl
  | _ => cases h; rfl

end Detail

variable [Scalar α]

namespace Solution

/-- Any detail and any set make steps that the family of the detail has phrases for. -/
theorem explained_outline (s : Solution α) (kind : Kind) :
    ∀ step ∈ s.outline kind, step.Explained s.detail.family := by
  unfold Solution.outline
  cases s.detail with
  | quadratic d => exact Step.explained_ofQuadratic d s.set
  | factoring d => exact Step.explained_ofFactoring d s.set
  | completingSquare d => exact Step.explained_ofSquare d s.set
  | quadraticInequality d => exact Step.explained_ofQuadraticInequality d s.label
  | projectile d => exact Step.explained_ofProjectile d
  | vertexAnalysis d => exact Step.explained_ofVertex d
  | linearInequality d => exact Step.explained_ofLinearInequality d s.label
  | exponentialInequality d => exact Step.explained_ofExponentialInequality d s.label
  | exponentialQuadratic d => exact Step.explained_ofExponentialQuadratic d s.set
  | exponential d => exact Step.explained_ofExponential d s.set
  | logarithmic d => exact Step.explained_ofLogarithmic d s.set
  | growth d => exact Step.explained_ofGrowth kind d
  | halfLife d => exact Step.explained_ofHalfLife d
  | linear d => exact Step.explained_ofLinear d s
  | system d => exact Step.explained_ofSystem d s

theorem explained_steps (s : Solution α) (kind : Kind) :
    ∀ step ∈ s.steps kind, step.Explained s.detail.family :=
  (Step.forall_mem_numberFrom_iff (fun _ _ _ => Iff.rfl) 1 _).mpr (s.explained_outline kind)

end Solution

open Solve in
theorem family_of_solveKind {kind : Kind} {p : Params α} {s : Solution α}
    (h : solveKind kind p = .ok s) : s.detail.family = kind.family := by
  apply Detail.IsOf.family_eq
  cases kind with
  | standardQuadratic => exact (wellFormed_solveQuadratic (Or.inl rfl) h).isOf
  | quadraticFormula => exact (wellFormed_solveQuadratic (Or.inr rfl) h).isOf
  | factoringQuadratic => exact (wellFormed_solveFactoring h).isOf
  | completingSquare => exact (wellFormed_solveCompletingSquare h).isOf
  | quadraticInequality => exact (wellFormed_solveQuadraticInequality h).isOf
  | projectileMotion => exact (wellFormed_solveProjectile h).isOf
  | quadraticOptimization => exact (wellFormed_solveVertex h).isOf
  | linearInequality => exact (wellFormed_solveLinearInequality h).isOf
  | exponentialInequality => exact (wellFormed_solveExponentialInequality h).isOf
  | exponentialQuadratic => exact (wellFormed_solveExponentialQuadratic h).isOf
  | simpleExponential => exact (wellFormed_solveSimpleExponential h).isOf
  | naturalExponential => exact (wellFormed_solveNaturalExponential h).isOf
  | logarithmicEquation => exact (wellFormed_solveLogarithmic h).isOf
  | compoundInterest => exact (wellFormed_solveGrowth (Or.inl rfl) h).isOf
  | exponentialGrowth => exact (wellFormed_solveGrowth (Or.inr (Or.inl rfl)) h).isOf
  | exponentialDecay => exact (wellFormed_solveGrowth (Or.inr (Or.inr rfl)) h).isOf
  | halfLife => exact (wellFormed_solveHalfLife h).isOf
  | simpleLinear => exact (wellFormed_solveLinear h).isOf
  | linearSystem => exact (wellFormed_solveSystem h).isOf

namespace Teaching

def Phrase.explain (phrase : Phrase) (s : Step) : Explanations :=
  ⟨phrase.conceptual, phrase.procedural.getD (procedure s), phrase.visual, phrase.algebraic⟩

/-- The idea of a step for which there is no phrase. -/
def generalIdea : String :=
  "This step moves the problem closer to an explicit solution."

/-- The explanations of a step for which there is no phrase. -/
def generalExplanations (s : Step) : Explanations :=
  ⟨generalIdea, procedure s, "Follow how the expression changes from the previous line.",
    s.rule.getD "Apply equivalent transformations to both sides."⟩

theorem explanations_eq (s : Step) (family : Family) :
    explanations s family = (((Move.ofTitle? s.name).bind (phrase? family)).map
      fun phrase => phrase.explain s).getD (generalExplanations s) := by
  unfold explanations
  cases (Move.ofTitle? s.name).bind (phrase? family) <;> rfl

theorem isFreeOf_generalIdea (level : Level) : IsFreeOf (replacements level) generalIdea := by
  constructor <;> cases level <;> decide +kernel

/-- No phrase tells the general idea. -/
theorem conceptual_ne_generalIdea {family : Family} {m : Move} {phrase : Phrase}
    (h : phrase? family m = some phrase) : phrase.conceptual ≠ generalIdea := by
  have hall : ∀ n ∈ Move.all, ∀ p ∈ phrase? family n, p.conceptual ≠ generalIdea := by
    cases family <;> decide +kernel
  exact hall m (List.mem_of_find?_eq_some m.ofTitle?_title) phrase h

theorem rephrase_conceptual_ne_general {family : Family} {m : Move} {phrase : Phrase}
    (h : phrase? family m = some phrase) (level : Level) (s : Step) :
    rephrase level phrase.conceptual ≠ ((generalExplanations s).rephrase level).conceptual := by
  have hidea (text : String) := rephrase_eq_iff (isFreeOf_generalIdea level) text
  change rephrase level phrase.conceptual ≠ rephrase level generalIdea
  rw [(hidea generalIdea).mpr rfl, Ne, hidea]
  exact conceptual_ne_generalIdea h

theorem explanations_of_phrase {s : Step} {family : Family} {m : Move} {phrase : Phrase}
    (hm : Move.ofTitle? s.name = some m) (hphrase : phrase? family m = some phrase) :
    explanations s family = phrase.explain s := by
  rw [explanations_eq, hm, Option.bind_some, hphrase]
  rfl

/-- Every step of a solved problem is one that there is a phrase for, and in a lesson it is told
in the words of the phrase, never in general ones. -/
theorem explained_of_solve {problem : Problem α} {s : Solution α} (h : problem.solve = .ok s) :
    (∀ step ∈ s.steps problem.kind, step.Explained problem.kind.family) ∧
      ∀ level options step enhancement?, level ≠ .basic →
        .step step enhancement? ∈ enhance problem.kind level options (s.steps problem.kind) →
        ∃ m phrase e, Move.ofTitle? step.name = some m ∧
          phrase? problem.kind.family m = some phrase ∧ enhancement? = some e ∧
          e.explanations = (phrase.explain step).rephrase level ∧
          e.explanations.conceptual ≠
            ((generalExplanations step).rephrase level).conceptual := by
  have hexplained : ∀ step ∈ s.steps problem.kind, step.Explained problem.kind.family := by
    rw [← family_of_solveKind h]
    exact s.explained_steps problem.kind
  refine ⟨hexplained, fun level options step enhancement? hlevel hentry => ?_⟩
  rw [enhance, if_neg hlevel] at hentry
  obtain ⟨hstep, prev, rfl⟩ := exists_of_step_mem_enhanceAfter hentry
  obtain ⟨m, hname, hm⟩ := hexplained step hstep
  obtain ⟨phrase, hphrase⟩ := Option.isSome_iff_exists.mp hm
  have htitle : Move.ofTitle? step.name = some m := by
    rw [hname, Move.ofTitle?_title]
  have htexts := explanations_of_phrase htitle hphrase
  refine ⟨m, phrase, _, htitle, hphrase, rfl, congrArg (Explanations.rephrase level) htexts, ?_⟩
  change rephrase level (explanations step problem.kind.family).conceptual ≠ _
  rw [htexts]
  exact rephrase_conceptual_ne_general hphrase level step

/-- `x² + x + 1 = 0`, to be factored. -/
def unfactorable : Problem Float :=
  .ofParams .factoringQuadratic ⟨[("a", .number 1), ("b", .number 1), ("c", .number 1)]⟩

/-- The steps that take over from factoring are explained as well, and the first of them tells why
they do. -/
theorem explained_unfactorable :
    ∃ s, unfactorable.solve = .ok s ∧ s.fallback = true ∧
      (∀ step ∈ s.steps .factoringQuadratic, step.Explained .quadratic) ∧
      ∃ step e, .step step (some e) ∈
          enhance .factoringQuadratic .detailed ⟨true, true⟩ (s.steps .factoringQuadratic) ∧
        step.name = "Cannot factor with integers" ∧
        e.explanations.conceptual =
          "Not every quadratic factors over the integers; the formula still works." := by
  have hsolve : unfactorable.solve.toOption.map (fun s => (s.fallback,
      (s.steps .factoringQuadratic).any fun step => step.name = "Cannot factor with integers")) =
      some (true, true) := by
    decide +kernel
  have hphrase : (Move.ofTitle? "Cannot factor with integers").bind (phrase? .quadratic) |>.map
      (fun phrase => rephrase .detailed phrase.conceptual) |>.all
      (· = "Not every quadratic factors over the integers; the formula still works.") := by
    decide +kernel
  cases hs : unfactorable.solve with
  | error e => simp [hs, Except.toOption] at hsolve
  | ok s =>
      simp only [hs, Except.toOption, Option.map_some, Option.some.injEq, Prod.mk.injEq,
        List.any_eq_true, decide_eq_true_eq] at hsolve
      obtain ⟨hfallback, step, hstep, hname⟩ := hsolve
      obtain ⟨hexplained, htexts⟩ := explained_of_solve hs
      obtain ⟨q, hentry⟩ := exists_step_mem_enhanceAfter .factoringQuadratic .detailed
        ⟨true, true⟩ (s.steps .factoringQuadratic).length none hstep
      obtain ⟨m, phrase, e, hm, hfound, he, htext, -⟩ :=
        htexts .detailed ⟨true, true⟩ step _ (by decide) hentry
      rw [he] at hentry
      refine ⟨s, rfl, hfallback, hexplained, step, e, hentry, hname, ?_⟩
      change phrase? .quadratic m = some phrase at hfound
      rw [hname] at hm
      rw [hm, Option.bind_some, hfound] at hphrase
      rw [htext]
      change rephrase .detailed phrase.conceptual = _
      simpa using hphrase

end Teaching

end EquationTutor
