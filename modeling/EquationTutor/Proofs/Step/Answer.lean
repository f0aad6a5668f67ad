import EquationTutor.Proofs.Step.WellFormed

namespace EquationTutor

open Scalar Solve

namespace Move

theorem ofTitle?_title (m : Move) : ofTitle? m.title = some m := by
  cases m <;> decide +kernel

theorem title_inj {m n : Move} : m.title = n.title ↔ m = n := by
  refine ⟨fun h => ?_, congrArg title⟩
  rw [← Option.some_inj, ← ofTitle?_title, ← ofTitle?_title, h]

end Move

namespace Step

def EndsIn (text : String) (steps : List Step) : Prop :=
  steps.getLast?.bind result = some text

/-- What the steps with the title of a move turn into what. -/
def transforms (m : Move) (steps : List Step) : List (Option String × Option String) :=
  (steps.filter fun s => s.name = m.title).map fun s => (s.before, s.after)

theorem EndsIn.append {text : String} {steps : List Step} (h : EndsIn text steps)
    (before : List Step) : EndsIn text (before ++ steps) := by
  unfold EndsIn at h ⊢
  rw [List.getLast?_append]
  cases hlast : steps.getLast? with
  | none => simp [hlast] at h
  | some s => simpa [hlast] using h

theorem EndsIn.cons {text : String} {steps : List Step} (h : EndsIn text steps) (s : Step) :
    EndsIn text (s :: steps) :=
  h.append [s]

theorem endsIn_singleton {text : String} {s : Step} (h : s.result = some text) :
    EndsIn text [s] :=
  h

theorem EndsIn.numberFrom {text : String} {steps : List Step} (h : EndsIn text steps) (n : Nat) :
    EndsIn text (numberFrom n steps) := by
  unfold EndsIn at h ⊢
  rw [List.getLast?_eq_getElem?] at h ⊢
  rw [getElem?_numberFrom, length_numberFrom]
  cases hlast : steps[steps.length - 1]? with
  | none => simp [hlast] at h
  | some s =>
      rw [hlast] at h
      exact h

theorem transforms_cons (m : Move) (s : Step) (steps : List Step) : transforms m (s :: steps) =
    if s.name = m.title then (s.before, s.after) :: transforms m steps else transforms m steps := by
  by_cases hs : s.name = m.title <;> simp [transforms, hs]

theorem transforms_append (m : Move) (steps rest : List Step) :
    transforms m (steps ++ rest) = transforms m steps ++ transforms m rest := by
  simp [transforms]

section Names

variable (s : Step) (m : Move) (text before after : String)

@[simp]
theorem name_of : (of m text).name = m.title :=
  rfl

@[simp]
theorem name_transform : (s.transform before after).name = s.name :=
  rfl

@[simp]
theorem name_withExpression : (s.withExpression text).name = s.name :=
  rfl

@[simp]
theorem name_withOperation : (s.withOperation text).name = s.name :=
  rfl

@[simp]
theorem name_withReasoning : (s.withReasoning text).name = s.name :=
  rfl

@[simp]
theorem name_withRule : (s.withRule text).name = s.name :=
  rfl

@[simp]
theorem name_withFormula : (s.withFormula text).name = s.name :=
  rfl

end Names

theorem transforms_numberFrom (m : Move) (n : Nat) (steps : List Step) :
    transforms m (numberFrom n steps) = transforms m steps := by
  induction steps generalizing n with
  | nil => rfl
  | cons s rest ih =>
      cases rest with
      | nil => by_cases hs : s.name = m.title <;> simp [transforms, numberFrom, hs]
      | cons t rest =>
          rw [numberFrom]
          · have ih := ih (n + 1)
            unfold transforms at ih ⊢
            by_cases hs : s.name = m.title <;> simp [hs, ih]
          · simp

end Step

variable {α : Type} [Scalar α]

/-- The roots in `u` that a power can take. -/
def ExponentialQuadraticDetail.kept (d : ExponentialQuadraticDetail α) : List α :=
  d.uRoots.filter fun u => tolerance < u

/-- The steps keep the roots in `u` that the solver has not rejected. -/
structure Step.Keeps (d : ExponentialQuadraticDetail α) (set : SolutionSet α)
    (steps : List Step) : Prop where
  rejected : d.rejected = d.uRoots.filter fun u => !decide (tolerance < u)
  rejection : Step.transforms .rejectInvalid steps =
    if d.rejected.isEmpty then []
    else
      [(some (Step.uText d.uRoots),
        some (if d.kept.isEmpty then "no valid solutions" else Step.uText d.kept))]
  substitution : Step.transforms .backSubstitute steps =
    let u := Step.powerText (shown d.base) "x"
    if d.kept.isEmpty then []
    else [(some (Step.uText d.kept), some (shownEach s!"{u} = " " or " d.kept))]
  empty : set = .empty ↔ d.kept = []
  last : d.kept = [] →
    Step.EndsIn (if d.uRoots.isEmpty then "no real solutions" else "no valid solutions") steps

namespace Step

theorem Keeps.numberFrom {d : ExponentialQuadraticDetail α} {set : SolutionSet α}
    {steps : List Step} (h : Keeps d set steps) (n : Nat) :
    Keeps d set (numberFrom n steps) where
  rejected := h.rejected
  rejection := (transforms_numberFrom _ n steps).trans h.rejection
  substitution := (transforms_numberFrom _ n steps).trans h.substitution
  empty := h.empty
  last hkept := (h.last hkept).numberFrom n

variable (set : SolutionSet α)

section Quadratic

def rootsText : SolutionSet α → String
  | .complex values => complexText values
  | set => solutionsText set.realValues

theorem endsIn_formulaSteps {d : QuadraticDetail α} {roots : QuadraticRoots α}
    (h : d.nature = roots.nature) :
    EndsIn (rootsText roots.toSet) (formulaSteps d roots.toSet) := by
  unfold formulaSteps
  refine EndsIn.append ?_ _
  rw [h]
  cases roots <;> rfl

theorem endsIn_ofQuadratic {d : QuadraticDetail α} {roots : QuadraticRoots α}
    (h : d.nature = roots.nature) :
    EndsIn (rootsText roots.toSet) (ofQuadratic d roots.toSet) :=
  (endsIn_formulaSteps h).cons _

theorem endsIn_factoredSteps (d : FactoringDetail α) (p r : α) (form : String) :
    EndsIn (solutionsText set.realValues) (factoredSteps d p r form set) := by
  unfold factoredSteps
  exact ((endsIn_singleton rfl).append [_, _, _] |>.append _).cons _

theorem endsIn_ofSquare (d : SquareDetail α) :
    EndsIn (rootsText set) (ofSquare d set) := by
  unfold ofSquare
  refine (EndsIn.append ?_ _).cons _
  cases set <;> rfl

theorem endsIn_ofQuadraticInequality (d : QuadraticInequalityDetail α) (label : String) :
    EndsIn label (ofQuadraticInequality d label) := by
  unfold ofQuadraticInequality
  exact ((endsIn_singleton rfl).cons _).append _

end Quadratic

section Linear

theorem endsIn_replaceLastResult (text : String) {steps : List Step} (h : steps ≠ []) :
    EndsIn text (replaceLastResult text steps) := by
  induction steps with
  | nil => exact absurd rfl h
  | cons s rest ih =>
      cases rest with
      | nil => rfl
      | cons t rest =>
          rw [replaceLastResult]
          · exact (ih (by simp)).cons s
          · simp

theorem isolateSteps_ne_nil (m b c : α) (r isolated : Relation) :
    isolateSteps m b c r isolated ≠ [] := by
  unfold isolateSteps
  split <;> simp

theorem endsIn_ofLinear (d : LinearDetail α) (s : Solution α) :
    EndsIn (if isZero d.m then s.label else solutionsText s.set.realValues) (ofLinear d s) := by
  unfold ofLinear
  refine EndsIn.cons ?_ _
  split
  · exact endsIn_singleton rfl
  · exact endsIn_replaceLastResult _ (isolateSteps_ne_nil _ _ _ _ _)

theorem endsIn_ofLinearInequality (d : LinearInequalityDetail α) (label : String) :
    EndsIn label (ofLinearInequality d label) := by
  unfold ofLinearInequality
  exact (endsIn_singleton rfl).append _

theorem endsIn_ofSystem (d : SystemDetail α) (s : Solution α) :
    EndsIn
      (match s.set with
      | .point x y => s!"(x, y) = ({shown x}, {shown y})"
      | _ => s.label) (ofSystem d s) :=
  rfl

end Linear

section Exponential

theorem endsIn_ofExponential (d : ExponentialDetail α) :
    EndsIn (solutionsText set.realValues) (ofExponential d set) := by
  unfold ofExponential
  refine (EndsIn.append ?_ _).cons _
  split <;> rfl

theorem kept_eq_nil_of_isEmpty {d : ExponentialQuadraticDetail α} (h : d.uRoots.isEmpty = true) :
    d.kept = [] := by
  rw [ExponentialQuadraticDetail.kept, List.isEmpty_iff.mp h, List.filter_nil]

variable {d : ExponentialQuadraticDetail α} (hrejected : d.rejected =
  d.uRoots.filter fun u => !decide (tolerance < u)) (hkept : (d.uRoots.filter fun u =>
  !d.rejected.contains u) = d.kept)

include hkept in
/-- The steps look the rejected roots up by equality. Where that finds just these, they go on
with the roots that the solver has kept. -/
theorem uRootSteps_eq (base u : String) : uRootSteps d base u set =
    (if d.rejected.isEmpty then []
      else
        [of .rejectInvalid s!"{u} is always positive"
          |>.transform (uText d.uRoots)
            (if d.kept.isEmpty then "no valid solutions" else uText d.kept)
          |>.withReasoning ("Discard " ++ uText d.rejected)]) ++
    if d.kept.isEmpty then [] else backSubstitutionSteps base u d.kept set := by
  unfold uRootSteps
  rw [hkept]

include hkept in
theorem endsIn_ofExponentialQuadratic (hne : d.kept ≠ []) :
    EndsIn (solutionsText set.realValues) (ofExponentialQuadratic d set) := by
  have hroots : ¬ d.uRoots.isEmpty = true := fun h => hne (kept_eq_nil_of_isEmpty h)
  unfold ofExponentialQuadratic
  refine EndsIn.append ?_ _
  rw [if_neg hroots, uRootSteps_eq set hkept]
  refine EndsIn.append ?_ _
  rw [if_neg (mt List.isEmpty_iff.mp hne)]
  rfl

include hrejected in
theorem rejected_eq_nil_of_isEmpty (h : d.uRoots.isEmpty = true) : d.rejected = [] := by
  rw [hrejected, List.isEmpty_iff.mp h, List.filter_nil]

include hrejected in
theorem rejected_ne_nil (hroots : ¬ d.uRoots.isEmpty = true) (h : d.kept = []) :
    d.rejected ≠ [] := by
  have hall : d.rejected = d.uRoots := by
    rw [ExponentialQuadraticDetail.kept, List.filter_eq_nil_iff] at h
    rw [hrejected, List.filter_eq_self]
    intro u hu
    simpa using h u hu
  rw [hall]
  exact mt List.isEmpty_iff.mpr hroots

include hrejected hkept in
theorem transforms_ofExponentialQuadratic {m : Move} (hgiven : m ≠ .givenEquation)
    (hmake : m ≠ .makeSubstitution) (hsolve : m ≠ .solveQuadraticEquation) :
    transforms m (ofExponentialQuadratic d set) = transforms m (uRootSteps d (shown d.base)
      (powerText (shown d.base) "x") set) := by
  unfold ofExponentialQuadratic
  dsimp only
  rw [transforms_append]
  simp only [transforms_cons, name_transform, name_withExpression, name_withOperation,
    name_withReasoning, name_withRule, name_of, Move.title_inj, if_neg hgiven.symm,
    if_neg hmake.symm, if_neg hsolve.symm]
  split
  · rename_i hroots
    rw [uRootSteps_eq set hkept, rejected_eq_nil_of_isEmpty hrejected hroots,
      kept_eq_nil_of_isEmpty hroots]
    rfl
  · rfl

include hrejected hkept in
theorem keeps_ofExponentialQuadratic (hempty : set = .empty ↔ d.kept = []) :
    Keeps d set (ofExponentialQuadratic d set) := by
  constructor
  -- among the steps for the roots in u one has the title of the move, whichever of the two it is
  case rejection | substitution =>
    rw [transforms_ofExponentialQuadratic set hrejected hkept (by decide) (by decide) (by decide),
      uRootSteps_eq set hkept, transforms_append]
    split <;> split
    · rfl
    all_goals
      simp only [backSubstitutionSteps, transforms_cons, name_of, name_transform,
        name_withReasoning, name_withFormula, Move.title_inj, reduceCtorEq, if_true, if_false]
      rfl
  · exact hrejected
  · exact hempty
  · intro hnone
    unfold ofExponentialQuadratic
    dsimp only
    split
    · rfl
    · rename_i hroots
      have hrejects := rejected_ne_nil hrejected hroots hnone
      rw [uRootSteps_eq set hkept, if_neg (mt List.isEmpty_iff.mp hrejects), hnone]
      refine EndsIn.append ?_ _
      rfl

theorem endsIn_ofLogarithmic (d : LogarithmicDetail α) :
    EndsIn (solutionsText set.realValues) (ofLogarithmic d set) :=
  rfl

end Exponential

section Growth

theorem result_unknownStep (d : GrowthDetail α) (substitution : String) :
    (unknownStep d substitution).result =
      some s!"{d.solvedFor.symbol} = {shown (d.valueOf d.solvedFor)}" := by
  unfold unknownStep
  cases d.interest <;> cases d.characteristicTime <;> rfl

theorem endsIn_ofGrowth (kind : Kind) (d : GrowthDetail α) :
    EndsIn s!"{d.solvedFor.symbol} = {shown (d.valueOf d.solvedFor)}" (ofGrowth kind d) := by
  unfold ofGrowth
  exact (endsIn_singleton (result_unknownStep d _)).append [_, _, _]

theorem endsIn_ofHalfLife {d : HalfLifeDetail α} {initial time amount : α}
    (hinitial : d.initial = some initial) (htime : d.time = some time)
    (hamount : d.amount = some amount) : EndsIn s!"A = {shown amount}" (ofHalfLife d) := by
  unfold ofHalfLife
  rw [hinitial, htime, hamount]
  exact (endsIn_singleton rfl).append _

end Growth

end Step

end EquationTutor
