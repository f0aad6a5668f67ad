import EquationTutor.Proofs.Solution.Answers
import EquationTutor.Proofs.Exact.Numbers
/-!
A growth model run backwards. An amount that was computed from principal, rate and time
gives each of these back from the other two and the amount: the time by a logarithm, the
rate by a root, the principal by a division. The guards of the three computations say where
this fails; the one of the division refuses every model that leaves too small a part of the
principal.
-/

namespace EquationTutor

open Scalar

namespace Exact

@[simp] theorem exp_eq (x : ℝ) : Scalar.exp x = Real.exp x :=
  rfl

end Exact

namespace Trend

@[simp] theorem sign_growth : (growth.sign : ℝ) = 1 :=
  Exact.one_eq

@[simp] theorem sign_decay : (decay.sign : ℝ) = -1 :=
  congrArg (- ·) Exact.one_eq

theorem sign_mul_self (trend : Trend) : (trend.sign : ℝ) * trend.sign = 1 := by
  cases trend <;> simp

theorem sign_ne_zero (trend : Trend) : (trend.sign : ℝ) ≠ 0 :=
  left_ne_zero_of_mul_eq_one trend.sign_mul_self

end Trend

/-- Numbers for the four quantities of a growth model, where the amount is what the model
makes of the principal. -/
noncomputable def Quantity.valueIn (law : GrowthLaw ℝ) (trend : Trend)
    (principal rate time : ℝ) : Quantity → ℝ
  | .principal => principal
  | .finalAmount => principal * Solve.growthFactor law trend rate time
  | .rate => rate
  | .time => time

namespace Solve

def givenFor {α : Type} [Scalar α] (p : Params α) : Quantity → Option α
  | .principal => (p.number? "principal").orElse fun _ => p.number? "initial"
  | .finalAmount => (p.number? "final_amount").orElse fun _ => p.number? "final"
  | .rate => p.number? "rate"
  | .time => p.number? "time"

def LeavesSomething (law : GrowthLaw ℝ) (trend : Trend) (rate : ℝ) : Prop :=
  match law with
  | .periodic n => 0 < 1 + trend.sign * rate / n
  | .continuous => True

/-- The logarithm of the growth in one unit of time. -/
noncomputable def logGrowth (law : GrowthLaw ℝ) (trend : Trend) (rate : ℝ) : ℝ :=
  match law with
  | .periodic n => n * Real.log (1 + trend.sign * rate / n)
  | .continuous => trend.sign * rate

/-- What a quantity needs of the other three to be told from them. -/
def Determined (law : GrowthLaw ℝ) (trend : Trend) (rate time : ℝ) : Quantity → Prop
  | .principal => 1e-10 ≤ growthFactor law trend rate time
  | .finalAmount => True
  | .rate => 1e-10 ≤ |time|
  | .time => 1e-10 ≤ |logGrowth law trend rate|

/-- The answer names the quantity, with the number it has, and records all four. -/
def Recovers (answer : Except (Failure ℝ) (Solution ℝ)) (q : Quantity) (value : Quantity → ℝ) :
    Prop :=
  ∃ s d, answer = .ok s ∧ s.set = .quantity q.symbol (value q) ∧ s.detail = .growth d ∧
    d.solvedFor = q ∧ ∀ k, d.valueOf k = value k

section Model

variable {law : GrowthLaw ℝ} {trend : Trend} {rate time : ℝ}

theorem growthFactor_periodic (n : ℝ) : growthFactor (.periodic n) trend rate time =
    (1 + trend.sign * rate / n) ^ (n * time) := by
  simp [growthFactor]

theorem growthFactor_continuous :
    growthFactor .continuous trend rate time = Real.exp (trend.sign * rate * time) :=
  rfl

theorem growthFactor_pos (h : LeavesSomething law trend rate) :
    0 < growthFactor law trend rate time := by
  cases law with
  | periodic n =>
      rw [growthFactor_periodic]
      exact Real.rpow_pos_of_pos h _
  | continuous => exact Real.exp_pos _

theorem log_growthFactor (h : LeavesSomething law trend rate) :
    Real.log (growthFactor law trend rate time) = logGrowth law trend rate * time := by
  cases law with
  | periodic n =>
      rw [growthFactor_periodic, Real.log_rpow h, logGrowth]
      ring
  | continuous => rw [growthFactor_continuous, Real.log_exp, logGrowth]

theorem logPerUnit_eq (h : LeavesSomething law trend rate) :
    logPerUnit law trend rate = .ok (logGrowth law trend rate) := by
  cases law with
  | periodic n =>
      have hstep : ¬ 1 + trend.sign * rate / n ≤ 0 := not_le.mpr h
      simp [logPerUnit, logGrowth, hstep]
  | continuous => rfl

theorem solveTime_growthFactor (h : LeavesSomething law trend rate)
    (hlarge : 1e-10 ≤ |logGrowth law trend rate|) :
    solveTime law trend (growthFactor law trend rate time) rate = .ok time := by
  have hpos : ¬ growthFactor law trend rate time ≤ 0 := (growthFactor_pos h).not_ge
  have hzero : ¬ isZero (logGrowth law trend rate) = true := by
    rwa [Exact.isZero_iff, not_lt]
  have hne : logGrowth law trend rate ≠ 0 := by
    intro hzero
    norm_num [hzero] at hlarge
  simp only [solveTime, Exact.zero_eq, if_neg hpos, logPerUnit_eq h, bind, Except.bind,
    if_neg hzero]
  rw [Exact.ln_eq, log_growthFactor h, mul_div_cancel_left₀ _ hne]

theorem solveTime_error (h : LeavesSomething law trend rate)
    (hsmall : |logGrowth law trend rate| < 1e-10) :
    solveTime law trend (growthFactor law trend rate time) rate = .error noChange := by
  have hpos : ¬ growthFactor law trend rate time ≤ 0 := (growthFactor_pos h).not_ge
  have hzero : isZero (logGrowth law trend rate) = true := (Exact.isZero_iff _).mpr hsmall
  simp only [solveTime, Exact.zero_eq, if_neg hpos, logPerUnit_eq h, bind, Except.bind,
    if_pos hzero]

theorem solveRate_growthFactor (hlaw : ∀ n, law = .periodic n → 0 < n)
    (h : LeavesSomething law trend rate) (hlarge : 1e-10 ≤ |time|) :
    solveRate law trend (growthFactor law trend rate time) time = .ok rate := by
  have hpos : ¬ growthFactor law trend rate time ≤ 0 := (growthFactor_pos h).not_ge
  have hzero : ¬ isZero time = true := by
    rwa [Exact.isZero_iff, not_lt]
  have htime : time ≠ 0 := by
    rintro rfl
    norm_num at hlarge
  have hsign := trend.sign_ne_zero
  simp only [solveRate, Exact.zero_eq, Exact.one_eq, if_neg hpos, if_neg hzero]
  cases law with
  | periodic n =>
      have hn : n ≠ 0 := (hlaw n rfl).ne'
      have hroot : growthFactor (.periodic n) trend rate time ^ (1 / (n * time)) =
          1 + trend.sign * rate / n := by
        rw [growthFactor_periodic, ← Real.rpow_mul (le_of_lt h), mul_one_div,
          div_self (mul_ne_zero hn htime), Real.rpow_one]
      refine congrArg Except.ok ?_
      calc
        trend.sign * n * (growthFactor (.periodic n) trend rate time ^ (1 / (n * time)) - 1) =
            trend.sign * n * (trend.sign * rate / n) := by rw [hroot]; ring
        _ = trend.sign * trend.sign * rate := by field_simp
        _ = rate := by rw [trend.sign_mul_self, one_mul]
  | continuous =>
      refine congrArg Except.ok ?_
      rw [Exact.ln_eq, growthFactor_continuous, Real.log_exp]
      field_simp

theorem solveRate_error (h : LeavesSomething law trend rate) (hsmall : |time| < 1e-10) :
    ∃ e, solveRate law trend (growthFactor law trend rate time) time = .error e := by
  have hpos : ¬ growthFactor law trend rate time ≤ 0 := (growthFactor_pos h).not_ge
  have hzero : isZero time = true := (Exact.isZero_iff _).mpr hsmall
  simp only [solveRate, Exact.zero_eq, if_neg hpos, if_pos hzero]
  exact ⟨_, rfl⟩

section Complete

variable {principal : ℝ} (kind : Kind) (hprincipal : 0 < principal)
  (h : LeavesSomething law trend rate) (q : Quantity)

/-- Three of the quantities are given, with their values, and the one asked for is not. -/
noncomputable def allBut (law : GrowthLaw ℝ) (trend : Trend) (principal rate time : ℝ)
    (q k : Quantity) : Option ℝ :=
  if k = q then none else some (k.valueIn law trend principal rate time)

/-- The three are completed, or refused. -/
noncomputable def completed (kind : Kind) (law : GrowthLaw ℝ) (trend : Trend)
    (given : Quantity → Option ℝ) : Except (Failure ℝ) (GrowthValues ℝ) :=
  completeGrowth kind law trend (given .principal) (given .finalAmount) (given .rate)
    (given .time)

include hprincipal in
theorem amount_div_principal :
    Quantity.finalAmount.valueIn law trend principal rate time / principal =
      growthFactor law trend rate time :=
  mul_div_cancel_left₀ _ hprincipal.ne'

include hprincipal h in
theorem completed_of_determined (hlaw : ∀ n, law = .periodic n → 0 < n)
    (hq : Determined law trend rate time q) :
    completed kind law trend (allBut law trend principal rate time q) =
      .ok ⟨q, principal, Quantity.finalAmount.valueIn law trend principal rate time, rate,
        time⟩ := by
  have hratio : Quantity.finalAmount.valueIn law trend principal rate time / principal =
      growthFactor law trend rate time := amount_div_principal hprincipal
  cases q with
  | principal =>
      have hfactor : 0 < growthFactor law trend rate time := growthFactor_pos h
      have hzero : ¬ isZero (growthFactor law trend rate time) = true := by
        rw [Exact.isZero_iff, abs_of_pos hfactor]
        exact not_lt.mpr hq
      have hquotient : Quantity.finalAmount.valueIn law trend principal rate time /
          growthFactor law trend rate time = principal :=
        mul_div_cancel_right₀ _ hfactor.ne'
      exact (if_neg hzero).trans
        (congrArg (fun x => Except.ok (GrowthValues.mk .principal x _ rate time)) hquotient)
  | finalAmount => rfl
  | rate =>
      change (solveRate law trend (_ / principal) time).map _ = _
      rw [hratio, solveRate_growthFactor hlaw h hq]
      rfl
  | time =>
      change (solveTime law trend (_ / principal) rate).map _ = _
      rw [hratio, solveTime_growthFactor h hq]
      rfl

include hprincipal h in
theorem completed_error (hq : ¬ Determined law trend rate time q) :
    ∃ e, completed kind law trend (allBut law trend principal rate time q) = .error e := by
  have hratio : Quantity.finalAmount.valueIn law trend principal rate time / principal =
      growthFactor law trend rate time := amount_div_principal hprincipal
  cases q with
  | principal =>
      have hzero : isZero (growthFactor law trend rate time) = true := by
        rw [Exact.isZero_iff, abs_of_pos (growthFactor_pos h)]
        exact not_le.mp hq
      exact ⟨noChange, if_pos hzero⟩
  | finalAmount => exact absurd trivial hq
  | rate =>
      obtain ⟨e, he⟩ := solveRate_error h (not_le.mp hq)
      refine ⟨e, ?_⟩
      change (solveRate law trend (_ / principal) time).map _ = _
      rw [hratio, he]
      rfl
  | time =>
      refine ⟨noChange, ?_⟩
      change (solveTime law trend (_ / principal) rate).map _ = _
      rw [hratio, solveTime_error h (not_le.mp hq)]
      rfl

end Complete

end Model

theorem periods_pos (kind : Kind) (p : Params ℝ) (n : ℝ) (h : lawFor kind p = .periodic n) :
    0 < n := by
  unfold lawFor at h
  split at h
  · split at h
    · cases h
    · cases h
      cases hfilter : (p.number? "frequency").filter fun n => 0 < n with
      | none => simp [periodsPerUnit, hfilter]
      | some n =>
          have hpos := (Option.filter_eq_some_iff.mp hfilter).2
          simpa [periodsPerUnit, hfilter] using hpos
  · split at h
    · cases h
    · cases h
      simp

theorem solveGrowth_eq (kind : Kind) (p : Params ℝ) :
    solveGrowth kind p =
      (completed kind (lawFor kind p) (trendOf kind) (givenFor p) >>= fun v =>
        if v.principal ≤ 0 then .error (ratioFailure (v.finalAmount / v.principal))
        else .ok (growthSolution kind (lawFor kind p) (trendOf kind) v)) := by
  simp only [Exact.zero_eq, solveGrowth]
  rfl

/-- A quantity is recovered from the other three if and only if the guard of its computation
lets it pass. The amount has none, time and rate have one for a model that does not change
the amount, and the principal has one for a model that leaves too little of it. -/
theorem solveGrowth_recovers_iff (kind : Kind)
    (hkind : kind = .compoundInterest ∨ kind = .exponentialGrowth ∨ kind = .exponentialDecay)
    (p : Params ℝ) (principal rate time : ℝ) (hprincipal : 0 < principal)
    (hrate : LeavesSomething (lawFor kind p) (trendOf kind) rate) (q : Quantity)
    (hgiven : givenFor p = allBut (lawFor kind p) (trendOf kind) principal rate time q) :
    Recovers (solveKind kind p) q
        (Quantity.valueIn (lawFor kind p) (trendOf kind) principal rate time) ↔
      Determined (lawFor kind p) (trendOf kind) rate time q := by
  have hsolve : solveKind kind p = solveGrowth kind p := by
    rcases hkind with rfl | rfl | rfl <;> rfl
  rw [hsolve, solveGrowth_eq, hgiven]
  constructor
  · rintro ⟨s, d, hs, -⟩
    by_contra hq
    obtain ⟨e, he⟩ := completed_error kind hprincipal hrate q hq
    rw [he] at hs
    cases hs
  · intro hq
    rw [completed_of_determined kind hprincipal hrate q (periods_pos kind p) hq]
    have hok : ¬ principal ≤ 0 := hprincipal.not_ge
    refine ⟨_, _, if_neg hok, ?_, rfl, rfl, ?_⟩
    · cases q <;> rfl
    · intro k
      cases k <;> rfl

/-- An amount, and the principal and time it comes from. -/
noncomputable def rateAsked (amount frequency principal time : ℝ) : Params ℝ :=
  ⟨[("final_amount", .number amount), ("frequency", .number frequency),
    ("principal", .number principal), ("time", .number time)]⟩

theorem recovers_quarterly_rate :
    let p := rateAsked (2500 * growthFactor (.periodic 4) .growth 0.06 7) 4 2500 7
    (0 : ℝ) < 2500 ∧ LeavesSomething (lawFor .compoundInterest p) .growth 0.06 ∧
      givenFor p = allBut (lawFor .compoundInterest p) .growth 2500 0.06 7 .rate ∧
      Recovers (solveKind .compoundInterest p) .rate
        (Quantity.valueIn (lawFor .compoundInterest p) .growth 2500 0.06 7) := by
  intro p
  have hlaw : lawFor .compoundInterest p = .periodic 4 := by
    have hfrequency : p.number? "frequency" = some 4 := rfl
    have htext : saysContinuous p "compounding" = false := rfl
    simp [lawFor, htext, periodsPerUnit, hfrequency, Option.filter]
  have hprincipal : (0 : ℝ) < 2500 := by norm_num
  have hrate : LeavesSomething (lawFor .compoundInterest p) .growth 0.06 := by
    rw [hlaw]
    norm_num [LeavesSomething]
  have hgiven : givenFor p = allBut (lawFor .compoundInterest p) .growth 2500 0.06 7 .rate := by
    rw [hlaw]
    funext k
    cases k <;> rfl
  refine ⟨hprincipal, hrate, hgiven, ?_⟩
  refine (solveGrowth_recovers_iff .compoundInterest (Or.inl rfl) _ 2500 0.06 7 hprincipal hrate
    .rate hgiven).mpr ?_
  norm_num [Determined]

/-- What is left of a principal after some time. -/
noncomputable def principalAsked (amount rate time : ℝ) : Params ℝ :=
  ⟨[("final_amount", .number amount), ("rate", .number rate), ("time", .number time)]⟩

theorem growthFactor_halvedFortyTimes :
    growthFactor (.periodic 1) .decay (1 / 2) 40 = (1 / 2 : ℝ) ^ 40 := by
  rw [growthFactor_periodic]
  norm_num

/-- The principal `2 ^ 40` of which 1 is left is not found. -/
theorem not_recovers_halved_principal :
    let p := principalAsked 1 (1 / 2) 40
    (0 : ℝ) < 2 ^ 40 ∧ LeavesSomething (lawFor .exponentialDecay p) .decay (1 / 2) ∧
      givenFor p =
        allBut (lawFor .exponentialDecay p) .decay (2 ^ 40) (1 / 2) 40 .principal ∧
      ¬ Recovers (solveKind .exponentialDecay p) .principal
        (Quantity.valueIn (lawFor .exponentialDecay p) .decay (2 ^ 40) (1 / 2) 40) ∧
      solveKind .exponentialDecay p = .error noChange := by
  intro p
  have hlaw : lawFor .exponentialDecay p = .periodic 1 := by
    have htext : saysContinuous p "model" = false := rfl
    simp [lawFor, htext]
  have hsmall : isZero (growthFactor (.periodic (1 : ℝ)) .decay (1 / 2) 40) = true := by
    rw [Exact.isZero_iff, growthFactor_halvedFortyTimes]
    norm_num
  have herror : solveKind .exponentialDecay p = .error noChange := by
    change solveGrowth .exponentialDecay p = _
    have hcompleted : completed .exponentialDecay (.periodic 1) .decay (givenFor p) =
        .error noChange := if_pos hsmall
    rw [solveGrowth_eq, hlaw]
    change (completed .exponentialDecay (.periodic 1) .decay _ >>= _) = _
    rw [hcompleted]
    rfl
  refine ⟨by positivity, ?_, ?_, ?_, herror⟩
  · rw [hlaw]
    norm_num [LeavesSomething]
  · rw [hlaw]
    funext k
    cases k with
    | finalAmount =>
        change some 1 = some (2 ^ 40 * growthFactor (.periodic 1) .decay (1 / 2) 40)
        rw [growthFactor_halvedFortyTimes]
        norm_num
    | _ => rfl
  · rintro ⟨s, d, hs, -⟩
    rw [herror] at hs
    cases hs

end Solve

end EquationTutor
