import EquationTutor.Step.Generate

namespace EquationTutor

namespace Step

/-- The step transforms an expression into another or does not transform any. -/
def Paired (s : Step) : Prop :=
  s.before.isSome ↔ s.after.isSome

/-- The step arrives at something, and from something if it transforms an expression. -/
def Complete (s : Step) : Prop :=
  s.Paired ∧ s.result.isSome

section Building

variable (s : Step) (m : Move) (text before after : String)

@[simp]
theorem paired_of : (of m text).Paired := by
  simp [Paired, of]

@[simp]
theorem paired_withFormula : (s.withFormula text).Paired ↔ s.Paired :=
  Iff.rfl

@[simp]
theorem complete_transform : (s.transform before after).Complete := by
  simp [Complete, Paired, result, transform]

@[simp]
theorem complete_withExpression : (s.withExpression text).Complete ↔ s.Paired := by
  cases h : s.after <;> simp [Complete, Paired, result, withExpression, h]

@[simp]
theorem complete_withOperation : (s.withOperation text).Complete ↔ s.Complete :=
  Iff.rfl

@[simp]
theorem complete_withReasoning : (s.withReasoning text).Complete ↔ s.Complete :=
  Iff.rfl

@[simp]
theorem complete_withRule : (s.withRule text).Complete ↔ s.Complete :=
  Iff.rfl

@[simp]
theorem complete_withHint : (s.withHint text).Complete ↔ s.Complete :=
  Iff.rfl

@[simp]
theorem complete_withFormula : (s.withFormula text).Complete ↔ s.Complete :=
  Iff.rfl

end Building

variable {α : Type} [Scalar α]

theorem complete_formulaSteps (d : QuadraticDetail α) (set : SolutionSet α) :
    ∀ s ∈ formulaSteps d set, s.Complete := by
  unfold formulaSteps
  split
  · simp [repeatedRootSteps]
  · simp [complexRootSteps, applyFormula]
  · simp [branchSteps, applyFormula]

theorem complete_ofQuadratic (d : QuadraticDetail α) (set : SolutionSet α) :
    ∀ s ∈ ofQuadratic d set, s.Complete := by
  simpa [ofQuadratic, givenQuadratic] using complete_formulaSteps d set

theorem complete_ofFactoring (d : FactoringDetail α) (set : SolutionSet α) :
    ∀ s ∈ ofFactoring d set, s.Complete := by
  unfold ofFactoring
  split
  · unfold factoredSteps
    split <;> simp [givenQuadratic, commonFactorStep, factorPairStep]
  · simpa [givenQuadratic] using complete_formulaSteps d.quadratic set

theorem complete_squareRootSteps (d : SquareDetail α) (binomial square : String)
    (set : SolutionSet α) : ∀ s ∈ squareRootSteps d binomial square set, s.Complete := by
  unfold squareRootSteps
  split <;> simp

theorem complete_ofSquare (d : SquareDetail α) (set : SolutionSet α) :
    ∀ s ∈ ofSquare d set, s.Complete := by
  unfold ofSquare
  intro s hs
  simp only [List.mem_cons, List.mem_append, List.not_mem_nil, or_false] at hs
  rcases hs with rfl | (hs | rfl | rfl | rfl) | hs
  · simp [givenQuadratic]
  · split at hs <;> simp_all
  · simp
  · simp
  · simp
  · exact complete_squareRootSteps _ _ _ _ s hs

theorem complete_ofQuadraticInequality (d : QuadraticInequalityDetail α) (label : String) :
    ∀ s ∈ ofQuadraticInequality d label, s.Complete := by
  unfold ofQuadraticInequality
  dsimp only
  split <;> simp

theorem complete_timeOfMaxStep (d : ProjectileDetail α) : (timeOfMaxStep d).Complete := by
  unfold timeOfMaxStep
  dsimp only
  split <;> simp

theorem complete_maxHeightStep (d : ProjectileDetail α) : (maxHeightStep d).Complete := by
  unfold maxHeightStep
  split <;> simp

theorem complete_ofProjectile (d : ProjectileDetail α) :
    ∀ s ∈ ofProjectile d, s.Complete := by
  unfold ofProjectile
  split <;> simp [targetSteps, complete_timeOfMaxStep, complete_maxHeightStep]

theorem complete_describeGraphStep (d : VertexDetail α) : (describeGraphStep d).Complete := by
  unfold describeGraphStep
  dsimp only
  split <;> simp

theorem complete_extremumStep (d : VertexDetail α) (h k : String) :
    (extremumStep d h k).Complete := by
  unfold extremumStep
  dsimp only
  split
  · split <;> simp
  · simp

theorem complete_ofVertex (d : VertexDetail α) : ∀ s ∈ ofVertex d, s.Complete := by
  simp [ofVertex, complete_describeGraphStep, complete_extremumStep]

theorem complete_divideStep (m b c : α) (r isolated : Relation) (current : String) :
    (divideStep m b c r isolated current).Complete := by
  unfold divideStep
  split <;> simp

theorem complete_isolateSteps (m b c : α) (r isolated : Relation) :
    ∀ s ∈ isolateSteps m b c r isolated, s.Complete := by
  unfold isolateSteps
  split <;> simp [complete_divideStep]

theorem isSome_before_divideStep (m b c : α) (r isolated : Relation) (current : String) :
    (divideStep m b c r isolated current).before.isSome := by
  unfold divideStep
  split <;> rfl

/-- Isolating the unknown is transforming all the way, so that the last result can be
replaced. -/
theorem isSome_before_isolateSteps (m b c : α) (r isolated : Relation) :
    ∀ s ∈ isolateSteps m b c r isolated, s.before.isSome := by
  unfold isolateSteps
  split <;> simp [isSome_before_divideStep, withOperation, transform]

theorem complete_replaceLastResult (text : String) {steps : List Step}
    (hbefore : ∀ s ∈ steps, s.before.isSome) (h : ∀ s ∈ steps, s.Complete) :
    ∀ s ∈ replaceLastResult text steps, s.Complete := by
  induction steps with
  | nil => simp [replaceLastResult]
  | cons s rest ih =>
      rw [List.forall_mem_cons] at h hbefore
      cases rest with
      | nil => simp [replaceLastResult, Complete, Paired, result, hbefore.1]
      | cons t rest =>
          rw [replaceLastResult, List.forall_mem_cons]
          · exact ⟨h.1, ih hbefore.2 h.2⟩
          · simp

theorem complete_ofLinear (d : LinearDetail α) (s : Solution α) :
    ∀ step ∈ ofLinear d s, step.Complete := by
  unfold ofLinear
  rw [List.forall_mem_cons]
  refine ⟨by simp, ?_⟩
  split
  · simp [classifyEquationStep]
  · exact complete_replaceLastResult _ (isSome_before_isolateSteps _ _ _ _ _)
      (complete_isolateSteps _ _ _ _ _)

theorem complete_ofLinearInequality (d : LinearInequalityDetail α) (label : String) :
    ∀ s ∈ ofLinearInequality d label, s.Complete := by
  have hisolate := complete_isolateSteps d.m d.b d.c d.relation d.isolatedRelation
  unfold ofLinearInequality
  split
  · simp
  · simpa [or_imp, forall_and] using hisolate

theorem complete_cramerStep (set : SolutionSet α) (minors : String) :
    (cramerStep set minors).Complete := by
  unfold cramerStep
  split <;> simp

theorem complete_ofSystem (d : SystemDetail α) (s : Solution α) :
    ∀ step ∈ ofSystem d s, step.Complete := by
  simp [ofSystem, complete_cramerStep]

theorem complete_ofExponential (d : ExponentialDetail α) (set : SolutionSet α) :
    ∀ s ∈ ofExponential d set, s.Complete := by
  unfold ofExponential
  split <;> split <;> simp [naturalSteps, logarithmSteps]

theorem complete_ofExponentialInequality (d : ExponentialInequalityDetail α) (label : String) :
    ∀ s ∈ ofExponentialInequality d label, s.Complete := by
  unfold ofExponentialInequality
  split <;> split <;> simp [baseTypeStep, criticalSteps]

theorem complete_uRootSteps (d : ExponentialQuadraticDetail α) (base u : String)
    (set : SolutionSet α) : ∀ s ∈ uRootSteps d base u set, s.Complete := by
  unfold uRootSteps
  dsimp only
  split <;> split <;> simp [backSubstitutionSteps]

theorem complete_ofExponentialQuadratic (d : ExponentialQuadraticDetail α)
    (set : SolutionSet α) : ∀ s ∈ ofExponentialQuadratic d set, s.Complete := by
  unfold ofExponentialQuadratic
  dsimp only
  split
  · simp
  · simpa using complete_uRootSteps d _ _ set

theorem complete_ofLogarithmic (d : LogarithmicDetail α) (set : SolutionSet α) :
    ∀ s ∈ ofLogarithmic d set, s.Complete := by
  simp [ofLogarithmic]

theorem complete_unknownStep (d : GrowthDetail α) (substitution : String) :
    (unknownStep d substitution).Complete := by
  unfold unknownStep
  split <;> split <;> simp

theorem complete_ofGrowth (kind : Kind) (d : GrowthDetail α) :
    ∀ s ∈ ofGrowth kind d, s.Complete := by
  simp [ofGrowth, complete_unknownStep]

theorem complete_ofHalfLife (d : HalfLifeDetail α) : ∀ s ∈ ofHalfLife d, s.Complete := by
  unfold ofHalfLife
  dsimp only
  split <;> simp [remainingStep]

theorem getElem?_numberFrom (n : Nat) (steps : List Step) (i : Nat) :
    (numberFrom n steps)[i]? = steps[i]?.map fun s =>
      { s with number := n + i, isFinal := decide (i + 1 = steps.length) } := by
  induction steps generalizing n i with
  | nil => rfl
  | cons s rest ih =>
      cases rest with
      | nil => cases i <;> simp [numberFrom]
      | cons t rest =>
          rw [numberFrom]
          · cases i with
            | zero => simp
            | succ i => simp [ih, Nat.add_comm 1, Nat.add_assoc]
          · simp

@[simp]
theorem length_numberFrom (n : Nat) (steps : List Step) :
    (numberFrom n steps).length = steps.length := by
  induction steps generalizing n with
  | nil => rfl
  | cons s rest ih => cases rest <;> simp_all [numberFrom]

theorem forall_mem_numberFrom_iff {P : Step → Prop}
    (hP : ∀ s n last, P { s with number := n, isFinal := last } ↔ P s) (n : Nat)
    (steps : List Step) : (∀ s ∈ numberFrom n steps, P s) ↔ ∀ s ∈ steps, P s := by
  induction steps generalizing n with
  | nil => simp [numberFrom]
  | cons s steps ih =>
      cases steps with
      | nil => simp [numberFrom, hP]
      | cons t steps =>
          have hcons : numberFrom n (s :: t :: steps) =
              { s with number := n, isFinal := false } :: numberFrom (n + 1) (t :: steps) := rfl
          rw [hcons, List.forall_mem_cons, List.forall_mem_cons, ih, hP]

/-- The steps are counted from 1, the last of them and no other is marked as final, and
each is complete. -/
structure WellFormed (steps : List Step) : Prop where
  nonempty : steps ≠ []
  number : ∀ i s, steps[i]? = some s → s.number = i + 1
  isFinal : ∀ i s, steps[i]? = some s → (s.isFinal = true ↔ i + 1 = steps.length)
  paired : ∀ s ∈ steps, s.before.isSome ↔ s.after.isSome
  result : ∀ s ∈ steps, s.result.isSome

theorem wellFormed_numberFrom {steps : List Step} (hne : steps ≠ [])
    (h : ∀ s ∈ steps, s.Complete) : WellFormed (numberFrom 1 steps) := by
  have hcounted : ∀ s ∈ numberFrom 1 steps, s.Complete := by
    intro s hs
    obtain ⟨i, hi⟩ := List.mem_iff_getElem?.mp hs
    rw [getElem?_numberFrom, Option.map_eq_some_iff] at hi
    obtain ⟨t, ht, rfl⟩ := hi
    exact h t (List.mem_of_getElem? ht)
  constructor
  · intro hnil
    have hlength := length_numberFrom 1 steps
    rw [hnil] at hlength
    exact hne (List.eq_nil_of_length_eq_zero hlength.symm)
  · intro i s hs
    rw [getElem?_numberFrom, Option.map_eq_some_iff] at hs
    obtain ⟨t, -, rfl⟩ := hs
    exact Nat.add_comm 1 i
  · intro i s hs
    rw [getElem?_numberFrom, Option.map_eq_some_iff] at hs
    obtain ⟨t, -, rfl⟩ := hs
    simp
  · intro s hs
    exact (hcounted s hs).1
  · intro s hs
    exact (hcounted s hs).2

end Step

variable {α : Type} [Scalar α]

theorem Solution.outline_ne_nil (s : Solution α) (kind : Kind) : s.outline kind ≠ [] := by
  unfold Solution.outline
  cases s.detail with
  | factoring d =>
      change Step.ofFactoring d s.set ≠ []
      unfold Step.ofFactoring
      split
      · simp [Step.factoredSteps]
      · simp
  | _ =>
      simp [Step.ofQuadratic, Step.ofSquare, Step.ofQuadraticInequality, Step.ofProjectile,
        Step.ofVertex, Step.ofLinearInequality, Step.ofExponentialInequality,
        Step.ofExponentialQuadratic, Step.ofExponential, Step.ofLogarithmic, Step.ofGrowth,
        Step.ofHalfLife, Step.ofLinear, Step.ofSystem]

theorem Solution.complete_outline (s : Solution α) (kind : Kind) :
    ∀ step ∈ s.outline kind, step.Complete := by
  unfold Solution.outline
  cases s.detail with
  | quadratic d => exact Step.complete_ofQuadratic d s.set
  | factoring d => exact Step.complete_ofFactoring d s.set
  | completingSquare d => exact Step.complete_ofSquare d s.set
  | quadraticInequality d => exact Step.complete_ofQuadraticInequality d s.label
  | projectile d => exact Step.complete_ofProjectile d
  | vertexAnalysis d => exact Step.complete_ofVertex d
  | linearInequality d => exact Step.complete_ofLinearInequality d s.label
  | exponentialInequality d => exact Step.complete_ofExponentialInequality d s.label
  | exponentialQuadratic d => exact Step.complete_ofExponentialQuadratic d s.set
  | exponential d => exact Step.complete_ofExponential d s.set
  | logarithmic d => exact Step.complete_ofLogarithmic d s.set
  | growth d => exact Step.complete_ofGrowth kind d
  | halfLife d => exact Step.complete_ofHalfLife d
  | linear d => exact Step.complete_ofLinear d s
  | system d => exact Step.complete_ofSystem d s

/-- Any detail and any set make a well-formed worked solution. -/
theorem Solution.wellFormed_steps (s : Solution α) (kind : Kind) :
    Step.WellFormed (s.steps kind) :=
  Step.wellFormed_numberFrom (s.outline_ne_nil kind) (s.complete_outline kind)

end EquationTutor
