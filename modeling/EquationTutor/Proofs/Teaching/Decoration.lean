import EquationTutor.Proofs.Session.History

namespace EquationTutor.Teaching

def stepBefore (steps : List Step) : Nat → Option Step
  | 0 => none
  | i + 1 => steps[i]?

theorem isSome_stepBefore_iff {steps : List Step} {i : Nat} (h : i < steps.length) :
    (stepBefore steps i).isSome ↔ i ≠ 0 := by
  cases i with
  | zero => simp [stepBefore]
  | succ i =>
      have hi : i < steps.length := by omega
      simp [stepBefore, hi]

/-- The parts of the explanations that a level and the options ask for are there and no
others, and the step before is named. -/
structure Enhancement.Fits (level : Level) (options : Options) (prev : Option Step)
    (e : Enhancement) : Prop where
  highlightedConcept : e.highlightedConcept.isSome ↔ level = .detailed ∨ level = .scaffolded
  scaffolding : e.scaffolding.isSome ↔ level = .scaffolded
  metacognition : e.metacognition.isSome ↔ level = .scaffolded
  errorPrevention : e.errorPrevention.isSome ↔ options.errorPrevention = true
  validation : e.validation.isSome ↔ options.errorPrevention = true
  previousLink : e.learningSupport.previousLink =
    prev.map fun p => s!"Builds on step {p.number}: {p.name}"

/-- The transition is named after the two steps and tells how far the first one is. -/
structure Bridge.Joins (total : Nat) (prev next : Step) (b : Bridge) : Prop where
  title : b.title = s!"From {prev.name} to {next.name}"
  progression : b.progression = s!"Step {prev.number} of {total} done"

theorem isSome_given {β : Type} (condition : Bool) (value : β) :
    (given condition value).isSome = condition := by
  cases condition <;> rfl

theorem Level.highlights_iff (level : Level) :
    level.highlights = true ↔ level = .detailed ∨ level = .scaffolded := by
  cases level <;> decide

theorem enhancement_fits (kind : Kind) (level : Level) (options : Options)
    (prev : Option Step) (s : Step) :
    (enhancement kind level options prev s).Fits level options prev := by
  constructor
  · simp only [enhancement, isSome_given]
    exact level.highlights_iff
  · simp [enhancement, isSome_given]
  · simp [enhancement, isSome_given]
  · simp only [enhancement, isSome_given]
  · simp only [enhancement, isSome_given]
  · rfl

theorem bridge_joins (prev next : Step) (total : Nat) (family : Family) :
    (bridge prev next total family).Joins total prev next :=
  ⟨rfl, rfl⟩

section After

variable (kind : Kind) (level : Level) (options : Options) (total : Nat)

theorem length_enhanceAfter_of_connections (h : options.connections = true) (p : Step)
    (steps : List Step) :
    (enhanceAfter kind level options total (some p) steps).length = 2 * steps.length := by
  induction steps generalizing p with
  | nil => rfl
  | cons s rest ih =>
      have ih := ih s
      simp only [enhanceAfter, h, if_true, List.singleton_append, List.length_cons, ih]
      omega

theorem getElem?_enhanceAfter_of_connections (h : options.connections = true) (p : Step)
    {steps : List Step} {i : Nat} {s : Step} (hs : steps[i]? = some s) :
    ∃ q, (p :: steps)[i]? = some q ∧
      (enhanceAfter kind level options total (some p) steps)[2 * i]? =
        some (.bridge (bridge q s total kind.family)) ∧
      (enhanceAfter kind level options total (some p) steps)[2 * i + 1]? =
        some (.step s (some (enhancement kind level options (some q) s))) := by
  induction steps generalizing p i with
  | nil => simp at hs
  | cons t rest ih =>
      simp only [enhanceAfter, h, if_true, List.singleton_append]
      cases i with
      | zero =>
          obtain rfl : t = s := by simpa using hs
          exact ⟨p, rfl, rfl, rfl⟩
      | succ i =>
          -- the first transition and the first step are two entries
          obtain ⟨q, hq, hbridge, hstep⟩ := ih t (i := i) (by simpa using hs)
          refine ⟨q, by simpa using hq, ?_, ?_⟩
          · rw [show 2 * (i + 1) = 2 * i + 1 + 1 by omega]
            exact hbridge
          · rw [show 2 * (i + 1) + 1 = 2 * i + 1 + 1 + 1 by omega]
            exact hstep

theorem length_enhanceAfter_of_not_connections (h : options.connections = false)
    (prev : Option Step) (steps : List Step) :
    (enhanceAfter kind level options total prev steps).length = steps.length := by
  induction steps generalizing prev with
  | nil => rfl
  | cons s rest ih => cases prev <;> simp [enhanceAfter, h, ih]

theorem getElem?_enhanceAfter_of_not_connections (h : options.connections = false) (p : Step)
    {steps : List Step} {i : Nat} {s : Step} (hs : steps[i]? = some s) :
    ∃ q, (p :: steps)[i]? = some q ∧
      (enhanceAfter kind level options total (some p) steps)[i]? =
        some (.step s (some (enhancement kind level options (some q) s))) := by
  induction steps generalizing p i with
  | nil => simp at hs
  | cons t rest ih =>
      simp only [enhanceAfter, h, Bool.false_eq_true, if_false, List.nil_append]
      cases i with
      | zero =>
          obtain rfl : t = s := by simpa using hs
          exact ⟨p, rfl, rfl⟩
      | succ i =>
          obtain ⟨q, hq, hstep⟩ := ih t (i := i) (by simpa using hs)
          exact ⟨q, by simpa using hq, by simpa using hstep⟩

variable {kind level options total} in
/-- What stands in a lesson for a step, whatever the step before it. -/
theorem exists_of_step_mem_enhanceAfter {prev : Option Step} {steps : List Step}
    {s : Step} {e : Option Enhancement}
    (h : .step s e ∈ enhanceAfter kind level options total prev steps) :
    s ∈ steps ∧ ∃ q, e = some (enhancement kind level options q s) := by
  induction steps generalizing prev with
  | nil => simp [enhanceAfter] at h
  | cons t rest ih =>
      simp only [enhanceAfter] at h
      rcases List.mem_append.mp h with hbridge | h
      · split at hbridge
        · split at hbridge <;> simp at hbridge
        · simp at hbridge
      · rcases List.mem_cons.mp h with hstep | h
        · cases hstep
          exact ⟨List.mem_cons_self, prev, rfl⟩
        · obtain ⟨hs, hq⟩ := ih h
          exact ⟨List.mem_cons_of_mem t hs, hq⟩

theorem exists_step_mem_enhanceAfter (prev : Option Step) {steps : List Step} {s : Step}
    (h : s ∈ steps) :
    ∃ q, .step s (some (enhancement kind level options q s)) ∈
      enhanceAfter kind level options total prev steps := by
  induction steps generalizing prev with
  | nil => simp at h
  | cons t rest ih =>
      simp only [enhanceAfter]
      rcases List.mem_cons.mp h with rfl | h
      · exact ⟨prev, List.mem_append_right _ List.mem_cons_self⟩
      · obtain ⟨q, hq⟩ := ih (some t) h
        exact ⟨q, List.mem_append_right _ (List.mem_cons_of_mem _ hq)⟩

end After

theorem getElem?_enhance_of_connections (kind : Kind) {level : Level} {options : Options}
    (hlevel : level ≠ .basic) (h : options.connections = true) {steps : List Step} {i : Nat}
    {s : Step} (hs : steps[i]? = some s) :
    (enhance kind level options steps)[2 * i]? =
      some (.step s (some (enhancement kind level options (stepBefore steps i) s))) := by
  unfold enhance
  rw [if_neg hlevel]
  cases steps with
  | nil => simp at hs
  | cons first rest =>
      cases i with
      | zero =>
          obtain rfl : first = s := by simpa using hs
          rfl
      | succ i =>
          have hrest : rest[i]? = some s := by simpa using hs
          obtain ⟨q, hq, -, hstep⟩ := getElem?_enhanceAfter_of_connections kind level options
            (first :: rest).length h first hrest
          change (enhanceAfter kind level options (first :: rest).length (some first)
            rest)[2 * i + 1]? = _
          rw [hstep, stepBefore, hq]

theorem getElem?_enhance_bridge (kind : Kind) {level : Level} {options : Options}
    (hlevel : level ≠ .basic) (h : options.connections = true) {steps : List Step} {i : Nat}
    {p s : Step} (hp : steps[i]? = some p) (hs : steps[i + 1]? = some s) :
    (enhance kind level options steps)[2 * i + 1]? =
      some (.bridge (bridge p s steps.length kind.family)) := by
  unfold enhance
  rw [if_neg hlevel]
  cases steps with
  | nil => simp at hs
  | cons first rest =>
      have hrest : rest[i]? = some s := by simpa using hs
      obtain ⟨q, hq, hbridge, -⟩ := getElem?_enhanceAfter_of_connections kind level options
        (first :: rest).length h first hrest
      obtain rfl : p = q := Option.some.inj (hp.symm.trans hq)
      exact hbridge

theorem length_enhance_of_connections (kind : Kind) {level : Level} {options : Options}
    (hlevel : level ≠ .basic) (h : options.connections = true) (steps : List Step) :
    (enhance kind level options steps).length = 2 * steps.length - 1 := by
  unfold enhance
  rw [if_neg hlevel]
  cases steps with
  | nil => rfl
  | cons first rest =>
      simp only [enhanceAfter, List.nil_append, List.length_cons]
      rw [length_enhanceAfter_of_connections kind level options _ h]
      omega

theorem length_enhance_of_not_connections (kind : Kind) {level : Level} {options : Options}
    (hlevel : level ≠ .basic) (h : options.connections = false) (steps : List Step) :
    (enhance kind level options steps).length = steps.length := by
  unfold enhance
  rw [if_neg hlevel]
  exact length_enhanceAfter_of_not_connections kind level options _ h none steps

theorem getElem?_enhance_of_not_connections (kind : Kind) {level : Level} {options : Options}
    (hlevel : level ≠ .basic) (h : options.connections = false) {steps : List Step} {i : Nat}
    {s : Step} (hs : steps[i]? = some s) :
    (enhance kind level options steps)[i]? =
      some (.step s (some (enhancement kind level options (stepBefore steps i) s))) := by
  unfold enhance
  rw [if_neg hlevel]
  cases steps with
  | nil => simp at hs
  | cons first rest =>
      cases i with
      | zero =>
          obtain rfl : first = s := by simpa using hs
          rfl
      | succ i =>
          have hrest : rest[i]? = some s := by simpa using hs
          obtain ⟨q, hq, hstep⟩ := getElem?_enhanceAfter_of_not_connections kind level options
            (first :: rest).length h first hrest
          change (enhanceAfter kind level options (first :: rest).length (some first)
            rest)[i]? = _
          rw [hstep, stepBefore, hq]

/-- The steps of a lesson are those it was made of. At the basic level they stand alone. At
every other level each is explained, and transitions join each two of them or, where none
are wanted, there are none. -/
theorem enhance_decorates (kind : Kind) (level : Level) (options : Options)
    (steps : List Step) :
    let lesson := enhance kind level options steps
    baseSteps lesson = steps ∧
    (level = .basic → lesson = steps.map fun s => .step s none) ∧
    (level ≠ .basic → options.connections = true →
      lesson.length = 2 * steps.length - 1 ∧
      (∀ i s, steps[i]? = some s →
        ∃ e, lesson[2 * i]? = some (.step s (some e)) ∧
          e.Fits level options (stepBefore steps i) ∧
          (e.learningSupport.previousLink.isSome ↔ i ≠ 0)) ∧
      (∀ i p s, steps[i]? = some p → steps[i + 1]? = some s →
        ∃ b, lesson[2 * i + 1]? = some (.bridge b) ∧ b.Joins steps.length p s)) ∧
    (level ≠ .basic → options.connections = false →
      lesson.length = steps.length ∧
      (∀ i s, steps[i]? = some s →
        ∃ e, lesson[i]? = some (.step s (some e)) ∧
          e.Fits level options (stepBefore steps i) ∧
          (e.learningSupport.previousLink.isSome ↔ i ≠ 0))) := by
  intro lesson
  have hlink : ∀ i s, steps[i]? = some s →
      ((enhancement kind level options (stepBefore steps i)
        s).learningSupport.previousLink.isSome ↔ i ≠ 0) := by
    intro i s hs
    have hi : i < steps.length := (List.getElem?_eq_some_iff.mp hs).1
    rw [(enhancement_fits kind level options _ s).previousLink, Option.isSome_map,
      isSome_stepBefore_iff hi]
  refine ⟨baseSteps_enhance kind level options steps, ?_, ?_, ?_⟩
  · intro hlevel
    exact if_pos hlevel
  · intro hlevel h
    refine ⟨length_enhance_of_connections kind hlevel h steps, ?_, ?_⟩
    · intro i s hs
      exact ⟨_, getElem?_enhance_of_connections kind hlevel h hs, enhancement_fits _ _ _ _ _,
        hlink i s hs⟩
    · intro i p s hp hs
      exact ⟨_, getElem?_enhance_bridge kind hlevel h hp hs, bridge_joins _ _ _ _⟩
  · intro hlevel h
    refine ⟨length_enhance_of_not_connections kind hlevel h steps, ?_⟩
    intro i s hs
    exact ⟨_, getElem?_enhance_of_not_connections kind hlevel h hs,
      enhancement_fits _ _ _ _ _, hlink i s hs⟩

end EquationTutor.Teaching
