import EquationTutor.Numeric.Double
import EquationTutor.Proofs.Solution.Answers
import EquationTutor.Proofs.Step.Signs
import EquationTutor.Proofs.Step.WellFormed
import EquationTutor.Proofs.Teaching.Decoration
import EquationTutor.Proofs.Verification.Agreement
/-!
The warning that an inequality changes its direction, and the steps in which it does. The
steps of a linear inequality carry the warning just where the sign turns round; those of an
exponential one never carry it.
-/

namespace EquationTutor

open Scalar

variable {α : Type} [Scalar α]

namespace Step

/-- Both expressions of the step have one relation sign, and the second one is the first one
turned round. -/
def TurnsRound (s : Step) : Prop :=
  ∃ before after r, s.before = some before ∧ s.after = some after ∧
    relationsIn before = [r] ∧ relationsIn after = [r.flip] ∧ r.flip ≠ r

theorem turnsRound_iff {s : Step} {before after : String} {r : Relation}
    (hbefore : s.before = some before) (hafter : s.after = some after)
    (hr : relationsIn before = [r]) :
    s.TurnsRound ↔ relationsIn after = [r.flip] ∧ r.flip ≠ r := by
  constructor
  · rintro ⟨_, _, q, hb, ha, hq, hflip, hne⟩
    obtain rfl := Option.some.inj (hbefore.symm.trans hb)
    obtain rfl := Option.some.inj (hafter.symm.trans ha)
    obtain rfl : r = q := by simpa using hr.symm.trans hq
    exact ⟨hflip, hne⟩
  · rintro ⟨hflip, hne⟩
    exact ⟨before, after, r, hbefore, hafter, hr, hflip, hne⟩

theorem not_turnsRound_of_before {s : Step} (h : s.before = none) : ¬ s.TurnsRound := by
  rintro ⟨before, _, _, hbefore, -⟩
  simp [h] at hbefore

theorem not_turnsRound_of_after {s : Step} {after : String} (hafter : s.after = some after)
    (h : relationsIn after = []) : ¬ s.TurnsRound := by
  rintro ⟨_, text, r, -, htext, -, hflip, -⟩
  obtain rfl := Option.some.inj (hafter.symm.trans htext)
  simp [h] at hflip

/-- The step carries the warning about the direction if and only if it turns round. -/
def WarnedRight (s : Step) : Prop :=
  Teaching.reverses s = true ↔ s.TurnsRound

theorem warnedRight_of_expression {s : Step} (hrule : s.rule = none) (hbefore : s.before = none) :
    s.WarnedRight := by
  refine iff_of_false ?_ (not_turnsRound_of_before hbefore)
  simp [Teaching.reverses, hrule]

/-- A step without a rule that speaks of reversing must keep its relation. -/
theorem warnedRight_iff {s : Step} {before after : String} {r q : Relation}
    (hreverses : Teaching.reverses s = false) (hbefore : s.before = some before)
    (hafter : s.after = some after) (hr : relationsIn before = [r])
    (hq : relationsIn after = [q]) : s.WarnedRight ↔ ¬ (q = r.flip ∧ r.flip ≠ r) := by
  rw [WarnedRight, hreverses, turnsRound_iff hbefore hafter hr, hq]
  simp

theorem warnedRight_of_kept {s : Step} {before after : String} {r : Relation}
    (hreverses : Teaching.reverses s = false) (hbefore : s.before = some before)
    (hafter : s.after = some after) (hr : relationsIn before = [r])
    (hq : relationsIn after = [r]) : s.WarnedRight := by
  rw [warnedRight_iff hreverses hbefore hafter hr hq]
  rintro ⟨hflip, hne⟩
  exact hne hflip.symm

section Linear

theorem warnedRight_divideStep (m b c : α) {r isolated : Relation} {current : String}
    (hisolated : isolated = r ∨ isolated = r.flip) (hcurrent : relationsIn current = [r]) :
    (divideStep m b c r isolated current).WarnedRight := by
  have hafter := relationsIn_solved (relationsIn_shown ((c - b) / m)) isolated
  unfold divideStep
  split
  · rename_i h
    subst h
    exact warnedRight_of_kept rfl rfl rfl hcurrent hafter
  · rename_i h
    obtain rfl : isolated = r.flip := hisolated.resolve_left fun h' => h h'.symm
    have hrule : (Pattern.text "reverses").occursIn
        "Multiplying or dividing by a negative number reverses the inequality" = true := by
      decide
    exact iff_of_true hrule ⟨_, _, r, rfl, rfl, hcurrent, hafter, Ne.symm h⟩

theorem warnedRight_ofLinearInequality {d : LinearInequalityDetail α} (label : String)
    (h : d.isolatedRelation = d.relation ∨ d.isolatedRelation = d.relation.flip) :
    ∀ s ∈ ofLinearInequality d label, s.WarnedRight := by
  have hgiven := relationsIn_linearRelation d.m d.b d.c d.relation
  have hmoved := relationsIn_linearRelation d.m 0 (d.c - d.b) d.relation
  have hcompared := relationsIn_line (relationsIn_shown d.b) (relationsIn_shown d.c) d.relation
  simp only [ofLinearInequality, List.forall_mem_append, List.forall_mem_singleton]
  refine ⟨⟨warnedRight_of_expression rfl rfl, ?_⟩, warnedRight_of_expression rfl rfl⟩
  split
  · exact List.forall_mem_singleton.mpr (warnedRight_of_kept rfl rfl rfl hgiven hcompared)
  · unfold isolateSteps
    split
    · exact List.forall_mem_singleton.mpr (warnedRight_divideStep _ _ _ h hgiven)
    · exact List.forall_mem_cons.mpr ⟨warnedRight_of_kept rfl rfl rfl hgiven hmoved,
        List.forall_mem_singleton.mpr (warnedRight_divideStep _ _ _ h hmoved)⟩

end Linear

end Step

theorem Relation.flip_flip (r : Relation) : r.flip.flip = r := by
  cases r <;> rfl

namespace ExponentialInequalityDetail

/-- The relation after the division by the coefficient. -/
def dividedRelation (d : ExponentialInequalityDetail α) : Relation :=
  if decide (d.coefficient < 0) then d.relation.flip else d.relation

/-- The relation is turned round on the way to the answer, by a negative coefficient that is
divided by or by a negative logarithm that is. -/
def TurnsUnwarned (d : ExponentialInequalityDetail α) : Prop :=
  d.relation.flip ≠ d.relation ∧
    ((d.coefficient < 0 ∧ isZero (d.coefficient - 1) = false) ∨
      (d.reversed = true ∧ d.criticalValue.isSome = true))

theorem flip_dividedRelation_ne_iff {d : ExponentialInequalityDetail α} :
    d.dividedRelation.flip ≠ d.dividedRelation ↔ d.relation.flip ≠ d.relation := by
  unfold dividedRelation
  split
  · rw [Relation.flip_flip, ne_comm]
  · rfl

theorem dividedRelation_eq_flip_iff {d : ExponentialInequalityDetail α}
    (h : d.relation.flip ≠ d.relation) :
    d.dividedRelation = d.relation.flip ↔ d.coefficient < 0 := by
  unfold dividedRelation
  split
  · rename_i hnegative
    simpa using hnegative
  · rename_i hnegative
    simpa [h.symm] using hnegative

end ExponentialInequalityDetail

namespace Step

open ExponentialInequalityDetail (flip_dividedRelation_ne_iff dividedRelation_eq_flip_iff)

section Exponential

variable {d : ExponentialInequalityDetail α}

/-- The steps that take the logarithm and bring down the exponent keep the relation, and the
last one turns it round just if the logarithm of the base is negative. -/
theorem warnedRight_criticalSteps {critical : α} {base bare bound isolated : String}
    (hbase : relationsIn base = []) (hbare : relationsIn bare = [])
    (hbound : relationsIn bound = []) (hisolated : relationsIn isolated = [d.dividedRelation])
    (h : d.isolatedRelation = if d.reversed then d.dividedRelation.flip else d.dividedRelation)
    (label : String) :
    (∀ s ∈ criticalSteps d critical base bare d.dividedRelation.symbol bound isolated label,
        s.WarnedRight) ↔ ¬ (d.relation.flip ≠ d.relation ∧ d.reversed = true) := by
  have hlogged : relationsIn s!"ln({bare}) {d.dividedRelation.symbol} ln({bound})" =
      [d.dividedRelation] := by
    simp (disch := decide) [toString, relationsIn_append, relationsIn_eq_nil, relationsIn_symbol,
      hbare, hbound]
  have hdown : relationsIn s!"x·ln({base}) {d.dividedRelation.symbol} ln({bound})" =
      [d.dividedRelation] := by
    simp (disch := decide) [toString, relationsIn_append, relationsIn_eq_nil, relationsIn_symbol,
      hbase, hbound]
  have hsolved := relationsIn_solved (relationsIn_shown critical) d.isolatedRelation
  have hrule : (Pattern.text "reverses").occursIn "ln(aⁿ) = n·ln(a)" = false := by
    decide
  simp only [criticalSteps, List.forall_mem_cons, List.not_mem_nil, false_imp_iff, implies_true,
    and_true]
  refine (and_iff_right (warnedRight_of_kept rfl rfl rfl hisolated hlogged)).trans
    ((and_iff_right (warnedRight_of_kept (by exact hrule) rfl rfl hlogged hdown)).trans ?_)
  rw [warnedRight_iff rfl rfl rfl hdown hsolved, flip_dividedRelation_ne_iff, h, and_comm,
    not_iff_not]
  refine and_congr_right fun hne => ?_
  have hdivided : d.dividedRelation.flip ≠ d.dividedRelation :=
    flip_dividedRelation_ne_iff.mpr hne
  cases d.reversed <;> simp [hdivided.symm]

/-- The steps of an exponential inequality are warned right just if none of them turns the
relation round. -/
theorem warnedRight_ofExponentialInequality_iff {label : String}
    (hlabel : d.criticalValue = none → relationsIn label = [])
    (hisolated : d.criticalValue.isSome = true →
      d.isolatedRelation = if d.reversed then d.dividedRelation.flip else d.dividedRelation) :
    (∀ s ∈ ofExponentialInequality d label, s.WarnedRight) ↔ ¬ d.TurnsUnwarned := by
  have hbase : relationsIn (shown d.base) = [] := relationsIn_shown d.base
  have hbare : relationsIn (powerText (shown d.base) "x") = [] := relationsIn_powerText hbase
  have hbound : relationsIn (shown (d.bound / d.coefficient)) = [] := relationsIn_shown _
  have hscaled : relationsIn (scaledText d.coefficient (powerText (shown d.base) "x")) = [] :=
    relationsIn_scaledText d.coefficient hbare
  have hgiven := relationsIn_line hscaled (relationsIn_shown d.bound) d.relation
  have hdivided := relationsIn_line hbare hbound d.dividedRelation
  simp only [ofExponentialInequality, List.forall_mem_append, List.forall_mem_cons,
    List.not_mem_nil, false_imp_iff, implies_true, and_true]
  rw [ExponentialInequalityDetail.TurnsUnwarned, and_or_left, not_or]
  refine and_congr ?divided ?last
  case divided =>
    rw [and_iff_right ⟨warnedRight_of_expression rfl rfl, warnedRight_of_expression rfl rfl⟩]
    cases hunit : isZero (d.coefficient - 1) with
    | true => simp
    | false =>
        refine List.forall_mem_singleton.trans ?_
        rw [warnedRight_iff rfl rfl rfl hgiven hdivided, not_iff_not, and_comm]
        refine and_congr_right fun hne => ?_
        rw [dividedRelation_eq_flip_iff hne, and_iff_left rfl]
  case last =>
    cases hcritical : d.criticalValue with
    | none =>
        refine iff_of_true (List.forall_mem_singleton.mpr ?_) (by simp)
        exact iff_of_false Bool.false_ne_true (not_turnsRound_of_after rfl (hlabel hcritical))
    | some critical =>
        refine (warnedRight_criticalSteps hbase hbare hbound hdivided
          (hisolated (by simp [hcritical])) label).trans ?_
        simp

end Exponential

end Step

namespace Teaching

variable {kind : Kind} {level : Level} {options : Options}

/-- The explanations warn that the inequality changes its direction. -/
def Enhancement.WarnsOfTurn (e : Enhancement) : Prop :=
  ∃ p, e.errorPrevention = some p ∧
    "The inequality sign changes direction in this step" ∈ p.warnings

theorem warnsOfTurn_enhancement_iff (hkind : kind.isInequality = true)
    (hoptions : options.errorPrevention = true) (prev : Option Step) (s : Step) :
    (enhancement kind level options prev s).WarnsOfTurn ↔ reverses s = true := by
  simp only [Enhancement.WarnsOfTurn, enhancement, given, hoptions, if_true, Option.some.injEq,
    exists_eq_left', errorPrevention, warnings, hkind, Bool.true_and, List.mem_append]
  cases reverses s <;> simp

/-- A lesson warns of the turns, and of nothing else as a turn, just if its steps do. -/
theorem forall_warned_iff (hkind : kind.isInequality = true) (hlevel : level ≠ .basic)
    (hoptions : options.errorPrevention = true) (steps : List Step) :
    (∀ s e, .step s (some e) ∈ enhance kind level options steps →
        (e.WarnsOfTurn ↔ s.TurnsRound)) ↔ ∀ s ∈ steps, s.WarnedRight := by
  rw [enhance, if_neg hlevel]
  constructor
  · intro h s hs
    obtain ⟨q, hq⟩ := exists_step_mem_enhanceAfter kind level options steps.length none hs
    rw [Step.WarnedRight, ← warnsOfTurn_enhancement_iff hkind hoptions q s]
    exact h s _ hq
  · intro h s e he
    obtain ⟨hs, q, heq⟩ := exists_of_step_mem_enhanceAfter he
    rw [Option.some.inj heq, warnsOfTurn_enhancement_iff hkind hoptions]
    exact h s hs

open Solve

theorem warnedRight_steps_of_linearInequality (m b c : α) (r : Relation) (kind : Kind) :
    ∀ s ∈ (linearInequality m b c r).steps kind, s.WarnedRight := by
  refine (Step.forall_mem_numberFrom_iff (fun _ _ _ => Iff.rfl) 1 _).mpr ?_
  refine Step.warnedRight_ofLinearInequality _ ?_
  change (if _ then r.flip else r) = r ∨ (if _ then r.flip else r) = r.flip
  split <;> simp

theorem warnedRight_steps_of_exponentialInequality_iff {k base bound ln : α} {r : Relation}
    {d : ExponentialInequalityDetail α} (kind : Kind)
    (hd : (exponentialInequality k base bound ln r).detail = .exponentialInequality d) :
    (∀ s ∈ (exponentialInequality k base bound ln r).steps kind, s.WarnedRight) ↔
      ¬ d.TurnsUnwarned := by
  cases hd
  refine (Step.forall_mem_numberFrom_iff (fun _ _ _ => Iff.rfl) 1 _).trans ?_
  refine Step.warnedRight_ofExponentialInequality_iff (fun hcritical => ?_) fun hcritical => ?_
  · -- without an end point the answer is told in words
    by_cases houtside : bound / k ≤ 0
    · have hwords (all : Bool) :
          relationsIn (describeSet (if all then .allReals else .empty : SolutionSet α)) = [] := by
        cases all with
        | false => exact (by decide : relationsIn "No solution" = [])
        | true => exact (by decide : relationsIn "All real numbers" = [])
      simp only [exponentialInequality, Solution.plain, houtside, decide_true, if_true]
      exact hwords _
    · simp [houtside] at hcritical
  · by_cases houtside : bound / k ≤ 0
    · simp [houtside] at hcritical
    · simp [houtside, ExponentialInequalityDetail.dividedRelation]

/-- In the lesson for an inequality the steps that are warned of as a change of direction are
just those in which the relation turns round, unless an exponential inequality has one: of
those no step warns. -/
theorem directionWarnings_iff {kind : Kind}
    (hkind : kind = .linearInequality ∨ kind = .exponentialInequality) {p : Params α}
    {s : Solution α} (hsolve : solveKind kind p = .ok s) {level : Level}
    (hlevel : level ≠ .basic) {options : Options} (hoptions : options.errorPrevention = true) :
    (∀ step e, .step step (some e) ∈ enhance kind level options (s.steps kind) →
        (e.WarnsOfTurn ↔ step.TurnsRound)) ↔
      ∀ d, s.detail = .exponentialInequality d → ¬ d.TurnsUnwarned := by
  have hinequality : kind.isInequality = true := by
    rcases hkind with rfl | rfl <;> rfl
  rw [forall_warned_iff hinequality hlevel hoptions]
  rcases hkind with rfl | rfl
  · obtain ⟨m, b, c, r, -, rfl⟩ := answer_of_solveLinearInequality hsolve
    exact iff_of_true (warnedRight_steps_of_linearInequality m b c r _) nofun
  · obtain ⟨k, base, bound, ln, r, -, -, -, rfl⟩ := answer_of_solveExponentialInequality hsolve
    constructor
    · intro h d hd
      exact (warnedRight_steps_of_exponentialInequality_iff _ hd).mp h
    · intro h
      exact (warnedRight_steps_of_exponentialInequality_iff _ rfl).mpr (h _ rfl)

/-- The record of `-2x + 4 < 10`. -/
def negativeSlope : Params Float :=
  ⟨[("b", .number 4), ("c", .number 10), ("m", .number (-2)), ("operator", .text "<")]⟩

theorem directionWarnings_negativeSlope :
    solveKind .linearInequality negativeSlope = .ok (linearInequality (-2) 4 10 .lt) ∧
      ∀ step e, .step step (some e) ∈ enhance .linearInequality .intermediate ⟨true, true⟩
          ((linearInequality (-2 : Float) 4 10 .lt).steps .linearInequality) →
        (e.WarnsOfTurn ↔ step.TurnsRound) := by
  have hsolve : solveKind .linearInequality negativeSlope =
      .ok (linearInequality (-2) 4 10 .lt) := rfl
  exact ⟨hsolve, (directionWarnings_iff (Or.inl rfl) hsolve (by decide) rfl).mpr nofun⟩

/-- For `0.5^x > 0.25` the relation is turned round by a negative logarithm, and no step warns
of it. -/
theorem not_directionWarnings_powerOfHalf :
    ∃ s, solveKind .exponentialInequality (Verification.powerParams (1 / 2) (1 / 4) .gt) = .ok s ∧
      ¬ ∀ step e, .step step (some e) ∈ enhance .exponentialInequality .intermediate ⟨true, true⟩
          (s.steps .exponentialInequality) → (e.WarnsOfTurn ↔ step.TurnsRound) := by
  have hnegative : Real.log (1 / 2) < 0 := Real.log_neg (by norm_num) (by norm_num)
  have hln : lnBase (1 / 2 : ℝ) = .ok (Real.log (1 / 2)) := by
    rw [lnBase_eq_ok_iff, abs_of_neg hnegative, Exact.tolerance_eq, one_div, Real.log_inv, neg_neg]
    refine ⟨by norm_num, ?_, rfl⟩
    linarith [Real.one_sub_inv_le_log_of_pos (zero_lt_two' ℝ)]
  refine ⟨exponentialInequality 1 (1 / 2) (1 / 4) (Real.log (1 / 2)) .gt, ?_, ?_⟩
  · simp only [solveKind, solveExponentialInequality, bind_eq_ok_iff]
    exact ⟨1, Verification.leading_powerParams _ _ _, 1 / 2, rfl, 1 / 4, rfl, .gt, rfl, _, hln, rfl⟩
  · rw [forall_warned_iff rfl (by decide) rfl,
      warnedRight_steps_of_exponentialInequality_iff _ rfl, not_not]
    exact ⟨by decide, Or.inr ⟨decide_eq_true (by rwa [Exact.zero_eq]), by simp⟩⟩

end Teaching

end EquationTutor
