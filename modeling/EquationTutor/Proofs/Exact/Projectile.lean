import EquationTutor.Proofs.Exact.PositiveRoots
/-!
The flight of a projectile over the reals. From launch on it is nowhere higher than at the time
given for its top. The times at which a target is reached are the roots after launch, but for
shifts within the tolerance: a root just before launch counts as the launch, and of two roots
that are close to each other the first one stands for both.
-/

namespace EquationTutor.Solve

open Scalar

/-- The time is not before launch, and the height is the greatest one from launch on. -/
structure IsTop (f : ℝ → ℝ) (time top : ℝ) : Prop where
  nonneg : 0 ≤ time
  taken : f time = top
  greatest : ∀ t, 0 ≤ t → f t ≤ top

/-- The list has the times from launch on at which the target is reached, each of them to within
the tolerance. -/
structure ListsTimes (f : ℝ → ℝ) (target : ℝ) (times : List ℝ) : Prop where
  nonneg : ∀ s ∈ times, 0 ≤ s
  ascending : times.Pairwise (· < ·)
  near_root : ∀ s ∈ times, ∃ t, f t = target ∧ |s - t| ≤ 1e-10
  near_time : ∀ t, 0 ≤ t → f t = target → ∃ s ∈ times, |t - s| ≤ 1e-10

section Top

def topTime {α : Type} [Scalar α] (gravity v0 : α) : α :=
  larger (v0 / (2 * gravity)) 0

theorem topTime_eq (gravity v0 : ℝ) : topTime gravity v0 = max (v0 / (2 * gravity)) 0 := by
  simp only [topTime, Exact.ofNat_eq, Exact.zero_eq, Exact.larger_eq]

variable {gravity : ℝ} (hg : 0 < gravity) (v0 h0 : ℝ)
include hg

/-- A projectile that is thrown down is highest at its release. -/
theorem isTop_height :
    IsTop (height gravity v0 h0) (topTime gravity v0)
      (height gravity v0 h0 (topTime gravity v0)) where
  nonneg := by
    rw [topTime_eq]
    exact le_max_right _ _
  taken := rfl
  greatest t ht := by
    rw [topTime_eq]
    rcases le_total 0 v0 with hup | hdown
    · have htop : v0 = 2 * gravity * (v0 / (2 * gravity)) := by
        field_simp
      rw [max_eq_left (by positivity)]
      generalize v0 / (2 * gravity) = top at htop
      have hgap : height gravity v0 h0 top - height gravity v0 h0 t = gravity * (top - t) ^ 2 := by
        rw [height, height, htop]
        ring
      have hnonneg : 0 ≤ gravity * (top - t) ^ 2 := by positivity
      linarith
    · rw [max_eq_right (div_nonpos_of_nonpos_of_nonneg hdown (by linarith))]
      have hgap : height gravity v0 h0 0 - height gravity v0 h0 t =
          gravity * t ^ 2 + -v0 * t := by
        rw [height, height]
        ring
      have hsquare : 0 ≤ gravity * t ^ 2 := by positivity
      have hlinear : 0 ≤ -v0 * t := mul_nonneg (neg_nonneg.mpr hdown) ht
      linarith

end Top

section Times

theorem exists_same_mem_dedupBy {same : ℝ → ℝ → Bool} (hrefl : ∀ x, same x x = true) {xs : List ℝ}
    (hlength : xs.length ≤ 2) {x : ℝ} (hx : x ∈ xs) :
    ∃ y ∈ dedupBy same xs, same y x = true := by
  match xs with
  | [] => cases hx
  | [u] =>
      obtain rfl := List.mem_singleton.mp hx
      exact ⟨x, by simp [dedupBy], hrefl x⟩
  | [u, v] =>
      by_cases hsame : same u v = true
      · refine ⟨u, by simp [dedupBy, hsame], ?_⟩
        rcases List.mem_pair.mp hx with rfl | rfl
        · exact hrefl x
        · exact hsame
      · exact ⟨x, by simpa [dedupBy, hsame] using hx, hrefl x⟩

theorem mem_real_rootsOf_iff_of_lt {a b c : ℝ} (ha : a ≠ 0)
    (hdelta : tolerance < |discriminant a b c|) (t : ℝ) :
    t ∈ (rootsOf a b c (discriminant a b c)).real ↔ quadraticAt a b c t = 0 := by
  rw [mem_real_rootsOf_iff ha, ← quadraticAt_eq, or_iff_left (fun h => h.1.not_gt hdelta)]
  refine and_iff_right_of_imp fun hroot => ?_
  have hsquare := mul_quadraticAt a b c t
  rw [hroot, mul_zero] at hsquare
  refine (lt_abs.mp hdelta).resolve_right fun hneg => ?_
  linarith [sq_nonneg (a * t + b / 2), Exact.tolerance_pos]

/-- The roots that count as after launch, none of them before it. -/
noncomputable def rootsFromLaunch (gravity v0 c : ℝ) : List ℝ :=
  ((rootsOf (-gravity) v0 c (discriminant (-gravity) v0 c)).real.filter
    fun t => decide (-tolerance ≤ t)).map fun t => max t 0

/-- Whether two times are closer to each other than the tolerance. -/
noncomputable def sameTime (s t : ℝ) : Bool :=
  |t - s| < tolerance

theorem sameTime_self (t : ℝ) : sameTime t t = true := by
  simpa [sameTime] using Exact.tolerance_pos

/-- The times that the solver lists. -/
noncomputable def timesOf (gravity v0 c : ℝ) : List ℝ :=
  dedupBy sameTime (rootsFromLaunch gravity v0 c)

variable {gravity : ℝ} (v0 c : ℝ)

theorem length_rootsFromLaunch_le : (rootsFromLaunch gravity v0 c).length ≤ 2 := by
  rw [rootsFromLaunch, List.length_map]
  exact (List.length_filter_le _ _).trans (length_real_le _)

theorem timesAt_of_lt (hg : tolerance < gravity) :
    timesAt gravity v0 c = .ok (discriminant (-gravity) v0 c, timesOf gravity v0 c) := by
  have hleading : tolerance ≤ |-gravity| := by
    rw [abs_neg]
    exact hg.le.trans (le_abs_self gravity)
  refine timesAt_eq_ok_iff.mpr ⟨_, quadraticRoots_of_le hleading v0 c, ?_⟩
  simp only [timesOf, rootsFromLaunch, Exact.larger_eq, Exact.zero_eq]
  rfl

variable (hg : gravity ≠ 0) (hdelta : tolerance < |discriminant (-gravity) v0 c|)
include hg hdelta

theorem mem_rootsFromLaunch_iff (s : ℝ) :
    s ∈ rootsFromLaunch gravity v0 c ↔
      ∃ t, quadraticAt (-gravity) v0 c t = 0 ∧ -tolerance ≤ t ∧ max t 0 = s := by
  simp only [rootsFromLaunch, List.mem_map, List.mem_filter, decide_eq_true_eq, and_assoc,
    mem_real_rootsOf_iff_of_lt (neg_ne_zero.mpr hg) hdelta]

theorem exists_mem_timesOf {t : ℝ} (hroot : quadraticAt (-gravity) v0 c t = 0)
    (hafter : -tolerance ≤ t) : ∃ s ∈ timesOf gravity v0 c, |max t 0 - s| < tolerance := by
  have hmem : max t 0 ∈ rootsFromLaunch gravity v0 c :=
    (mem_rootsFromLaunch_iff v0 c hg hdelta _).mpr ⟨t, hroot, hafter, rfl⟩
  obtain ⟨s, hs, hsame⟩ :=
    exists_same_mem_dedupBy sameTime_self (length_rootsFromLaunch_le v0 c) hmem
  exact ⟨s, hs, of_decide_eq_true hsame⟩

theorem timesOf_eq_nil_iff :
    timesOf gravity v0 c = [] ↔ ∀ t, -tolerance ≤ t → quadraticAt (-gravity) v0 c t ≠ 0 := by
  constructor
  · intro hnil t hafter hroot
    obtain ⟨s, hs, -⟩ := exists_mem_timesOf v0 c hg hdelta hroot hafter
    rw [hnil] at hs
    cases hs
  · intro hnone
    refine List.eq_nil_iff_forall_not_mem.mpr fun s hs => ?_
    obtain ⟨t, hroot, hafter, -⟩ :=
      (mem_rootsFromLaunch_iff v0 c hg hdelta s).mp (mem_of_mem_dedupBy hs)
    exact hnone t hafter hroot

end Times

section Target

variable {gravity v0 h0 target : ℝ}

theorem height_eq_iff (t : ℝ) :
    height gravity v0 h0 t = target ↔ quadraticAt (-gravity) v0 (h0 - target) t = 0 := by
  rw [height, quadraticAt, ← sub_eq_zero, add_sub_assoc]

theorem listsTimes_timesOf (hg : tolerance < gravity)
    (hdelta : tolerance < |discriminant (-gravity) v0 (h0 - target)|) :
    ListsTimes (height gravity v0 h0) target (timesOf gravity v0 (h0 - target)) where
  nonneg s hs := by
    obtain ⟨t, -, rfl⟩ := List.mem_map.mp (mem_of_mem_dedupBy hs)
    exact le_max_right t 0
  ascending := pairwise_of_timesAt (timesAt_of_lt v0 (h0 - target) hg)
  near_root s hs := by
    have hg0 : gravity ≠ 0 := (Exact.tolerance_pos.trans hg).ne'
    obtain ⟨t, hroot, hafter, rfl⟩ :=
      (mem_rootsFromLaunch_iff _ _ hg0 hdelta s).mp (mem_of_mem_dedupBy hs)
    refine ⟨t, (height_eq_iff t).mpr hroot, ?_⟩
    rw [Exact.tolerance_eq] at hafter
    rcases le_total 0 t with hle | hle
    · rw [max_eq_left hle, sub_self, abs_zero]
      norm_num
    · rw [max_eq_right hle, zero_sub, abs_neg, abs_of_nonpos hle]
      linarith
  near_time t ht hreach := by
    have hg0 : gravity ≠ 0 := (Exact.tolerance_pos.trans hg).ne'
    obtain ⟨s, hs, hnear⟩ := exists_mem_timesOf _ _ hg0 hdelta ((height_eq_iff t).mp hreach)
      ((neg_nonpos.mpr Exact.tolerance_pos.le).trans ht)
    rw [max_eq_left ht] at hnear
    exact ⟨s, hs, hnear.le⟩

theorem targetAnswer_cases (units : UnitSystem) (top target : ℝ) (times : List ℝ) :
    (times = [] ∧ ∃ text, targetAnswer units top target times = .error (.noSolution text)) ∨
      times ≠ [] ∧ ∃ label, targetAnswer units top target times = .ok (label, .discrete times) := by
  rcases times with _ | ⟨t, _ | ⟨u, times⟩⟩
  · exact .inl ⟨rfl, _, rfl⟩
  · exact .inr ⟨by simp, _, rfl⟩
  · exact .inr ⟨by simp, _, rfl⟩

end Target

section Solver

variable (p : Params ℝ)

/-- The height at a time after launch. -/
noncomputable def heightOf (t : ℝ) : ℝ :=
  height (gravityOf p) (p.numberD "initial_velocity" 0) (p.numberD "initial_height" 0) t

noncomputable def targetDiscriminant (target : ℝ) : ℝ :=
  discriminant (-gravityOf p) (p.numberD "initial_velocity" 0)
    (p.numberD "initial_height" 0 - target)

def IsLaunched : Prop :=
  p.number? "initial_velocity" ≠ none ∨ p.number? "initial_height" ≠ none

theorem tolerance_lt_gravityOf : tolerance < gravityOf p := by
  rw [gravityOf]
  cases hgiven : (p.number? "gravity").filter fun g => decide (tolerance < g) with
  | some g => exact of_decide_eq_true (Option.filter_eq_some_iff.mp hgiven).2
  | none =>
      cases unitsOf p with
      | imperial =>
          change (1e-10 : ℝ) < @OfNat.ofNat ℝ 16 (Scalar.instOfNat 16)
          norm_num
      | metric =>
          change (1e-10 : ℝ) < 4.9
          norm_num

noncomputable def flightDetail (target delta : Option ℝ) (times : List ℝ) : ProjectileDetail ℝ :=
  let gravity := gravityOf p
  let v0 := p.numberD "initial_velocity" 0
  let h0 := p.numberD "initial_height" 0
  { units := unitsOf p
    gravity := gravity
    initialVelocity := v0
    initialHeight := h0
    targetHeight := target
    targetDiscriminant := delta
    targetTimes := times
    timeToMaxHeight := topTime gravity v0
    maxHeight := height gravity v0 h0 (topTime gravity v0)
    flightTime := ((timesOf gravity v0 h0).filter fun t => decide (tolerance < t)).getLast? }

noncomputable def targetDetail (target : ℝ) : ProjectileDetail ℝ :=
  flightDetail p (some target) (some (targetDiscriminant p target))
    (timesOf (gravityOf p) (p.numberD "initial_velocity" 0)
      (p.numberD "initial_height" 0 - target))

theorem isTop_flightDetail (target delta : Option ℝ) (times : List ℝ) :
    IsTop (heightOf p) (flightDetail p target delta times).timeToMaxHeight
      (flightDetail p target delta times).maxHeight :=
  isTop_height (Exact.tolerance_pos.trans (tolerance_lt_gravityOf p)) _ _

variable {p}

theorem solveProjectile_of_not_launched (h : ¬ IsLaunched p) :
    solveProjectile p =
      .error (.insufficientParameters .projectileMotion "initial velocity or initial height") := by
  have hmissing : ((p.number? "initial_velocity").isNone &&
      (p.number? "initial_height").isNone) = true := by
    simpa [IsLaunched] using h
  rw [solveProjectile, if_pos hmissing]

section Launched

variable (h : IsLaunched p)
include h

theorem solveProjectile_of_launched :
    solveProjectile p =
      match p.number? "target_height" with
      | none =>
        .ok (.plain .projectileMotion "Maximum height"
          (.quantity "maximum height" (flightDetail p none none []).maxHeight)
          (.projectile (flightDetail p none none [])))
      | some target =>
        let d := targetDetail p target
        (targetAnswer d.units d.maxHeight target d.targetTimes).map fun answer =>
          .plain .projectileMotion answer.1 answer.2 (.projectile d) := by
  have hgiven : ¬ ((p.number? "initial_velocity").isNone &&
      (p.number? "initial_height").isNone) = true := by
    simpa [IsLaunched, or_iff_not_imp_left] using h
  have hg := tolerance_lt_gravityOf p
  simp only [solveProjectile, if_neg hgiven, Exact.zero_eq, Exact.ofNat_eq, Exact.larger_eq,
    timesAt_of_lt _ _ hg, targetDetail, flightDetail, topTime_eq]
  cases p.number? "target_height" with
  | none => rfl
  | some target => rfl

theorem exists_answer_of_no_target (htarget : p.number? "target_height" = none) :
    ∃ label set, solveProjectile p =
      .ok (.plain .projectileMotion label set (.projectile (flightDetail p none none []))) := by
  rw [solveProjectile_of_launched h, htarget]
  exact ⟨_, _, rfl⟩

/-- With a target there is an answer if and only if there is a time for it. -/
theorem solveProjectile_of_target {target : ℝ}
    (htarget : p.number? "target_height" = some target) :
    ((targetDetail p target).targetTimes = [] ∧
        ∃ text, solveProjectile p = .error (.noSolution text)) ∨
      (targetDetail p target).targetTimes ≠ [] ∧ ∃ label, solveProjectile p =
        .ok (.plain .projectileMotion label (.discrete (targetDetail p target).targetTimes)
          (.projectile (targetDetail p target))) := by
  rw [solveProjectile_of_launched h, htarget]
  rcases targetAnswer_cases (targetDetail p target).units (targetDetail p target).maxHeight target
    (targetDetail p target).targetTimes with ⟨hnil, text, hanswer⟩ | ⟨hne, label, hanswer⟩
  · exact .inl ⟨hnil, text, by simp only [hanswer, Except.map]⟩
  · exact .inr ⟨hne, label, by simp only [hanswer, Except.map]⟩

end Launched

variable (p) in
/-- Without a launch there is no flight, without a time for the target no answer; every answer
records the flight. -/
theorem solveProjectile_cases :
    (¬ IsLaunched p ∧ solveProjectile p =
        .error (.insufficientParameters .projectileMotion "initial velocity or initial height")) ∨
      (IsLaunched p ∧ p.number? "target_height" ≠ none ∧
        ∃ text, solveProjectile p = .error (.noSolution text)) ∨
      ∃ label set target delta times, solveProjectile p =
        .ok (.plain .projectileMotion label set
          (.projectile (flightDetail p target delta times))) := by
  by_cases h : IsLaunched p
  · cases htarget : p.number? "target_height" with
    | none =>
        obtain ⟨label, set, hok⟩ := exists_answer_of_no_target h htarget
        exact .inr (.inr ⟨label, set, _, _, _, hok⟩)
    | some target =>
        rcases solveProjectile_of_target h htarget with ⟨-, hfail⟩ | ⟨-, label, hok⟩
        · exact .inr (.inl ⟨h, nofun, hfail⟩)
        · exact .inr (.inr ⟨label, _, _, _, _, hok⟩)
  · exact .inl ⟨h, solveProjectile_of_not_launched h⟩

theorem exists_flightDetail_of_ok {s : Solution ℝ} (hs : solveProjectile p = .ok s) :
    ∃ target delta times, s.detail = .projectile (flightDetail p target delta times) := by
  rcases solveProjectile_cases p with ⟨-, hfail⟩ | ⟨-, -, text, hfail⟩ |
    ⟨label, set, target, delta, times, hok⟩
  · cases hs.symm.trans hfail
  · cases hs.symm.trans hfail
  · cases hs.symm.trans hok
    exact ⟨target, delta, times, rfl⟩

theorem failure_cases {e : Failure ℝ} (he : solveProjectile p = .error e) :
    (¬ IsLaunched p ∧
        e = .insufficientParameters .projectileMotion "initial velocity or initial height") ∨
      IsLaunched p ∧ p.number? "target_height" ≠ none ∧ ∃ text, e = .noSolution text := by
  rcases solveProjectile_cases p with ⟨h, hfail⟩ | ⟨h, htarget, text, hfail⟩ |
    ⟨label, set, target, delta, times, hok⟩
  · cases he.symm.trans hfail
    exact .inl ⟨h, rfl⟩
  · cases he.symm.trans hfail
    exact .inr ⟨h, htarget, text, rfl⟩
  · cases he.symm.trans hok

variable (p)

/-- Gravity is positive, and the projectile is nowhere higher than at its top. The solver fails
only without a launch, or with a target that is never reached. If the discriminant for a target
is beyond the tolerance, an answer lists the times of the target. -/
theorem solveProjectile_whole_flight :
    0 < gravityOf p ∧
    ((∃ kind needed, solveProjectile p = .error (.insufficientParameters kind needed)) ↔
      ¬ IsLaunched p) ∧
    (∀ e, solveProjectile p = .error e →
      (∃ kind needed, e = .insufficientParameters kind needed) ∨
        p.number? "target_height" ≠ none ∧ ∃ text, e = .noSolution text) ∧
    (∀ s, solveProjectile p = .ok s → ∃ d, s.detail = .projectile d ∧ d.gravity = gravityOf p ∧
      IsTop (heightOf p) d.timeToMaxHeight d.maxHeight) ∧
    ∀ target, IsLaunched p → p.number? "target_height" = some target →
      1e-10 < |targetDiscriminant p target| →
      ((∃ text, solveProjectile p = .error (.noSolution text)) ↔
        ∀ t, -1e-10 ≤ t → heightOf p t ≠ target) ∧
      ∀ s, solveProjectile p = .ok s → ∃ d, s.detail = .projectile d ∧
        s.set = .discrete d.targetTimes ∧
        d.targetDiscriminant = some (targetDiscriminant p target) ∧
        ListsTimes (heightOf p) target d.targetTimes := by
  have hg := tolerance_lt_gravityOf p
  have hg0 : 0 < gravityOf p := Exact.tolerance_pos.trans hg
  refine ⟨hg0, ⟨?_, ?_⟩, ?_, ?_, ?_⟩
  · rintro ⟨kind, needed, he⟩
    rcases failure_cases he with ⟨h, -⟩ | ⟨-, -, text, ⟨⟩⟩
    exact h
  · intro h
    exact ⟨_, _, solveProjectile_of_not_launched h⟩
  · intro e he
    rcases failure_cases he with ⟨-, rfl⟩ | ⟨-, htarget, hfail⟩
    · exact .inl ⟨_, _, rfl⟩
    · exact .inr ⟨htarget, hfail⟩
  · intro s hs
    obtain ⟨target, delta, times, hdetail⟩ := exists_flightDetail_of_ok hs
    exact ⟨_, hdetail, rfl, isTop_flightDetail p target delta times⟩
  · intro target h htarget hdelta
    have hlists : ListsTimes (heightOf p) target (targetDetail p target).targetTimes :=
      listsTimes_timesOf hg hdelta
    have hnil : (targetDetail p target).targetTimes = [] ↔
        ∀ t, -tolerance ≤ t → heightOf p t ≠ target := by
      refine (timesOf_eq_nil_iff _ _ hg0.ne' hdelta).trans ?_
      exact forall₂_congr fun t _ => (height_eq_iff t).not.symm
    rcases solveProjectile_of_target h htarget with ⟨hempty, text, hfail⟩ | ⟨hne, label, hok⟩
    · refine ⟨iff_of_true ⟨text, hfail⟩ (hnil.mp hempty), fun s hs => ?_⟩
      rw [hfail] at hs
      cases hs
    · refine ⟨iff_of_false ?_ (hnil.not.mp hne), fun s hs => ?_⟩
      · rintro ⟨text, hfail⟩
        rw [hok] at hfail
        cases hfail
      · rw [hok] at hs
        cases hs
        exact ⟨_, rfl, rfl, rfl, hlists⟩

end Solver

/-- Thrown up at 64 feet a second from a height of 80 feet, with a target at 128 feet. -/
noncomputable def thrownUp : Params ℝ :=
  ⟨[("initial_height", .number 80), ("initial_velocity", .number 64),
    ("target_height", .number 128)]⟩

/-- The target is reached after a second, so that the times are listed. -/
theorem solveProjectile_thrownUp :
    ∃ s d, solveProjectile thrownUp = .ok s ∧ s.detail = .projectile d ∧
      s.set = .discrete d.targetTimes ∧ ListsTimes (heightOf thrownUp) 128 d.targetTimes ∧
      heightOf thrownUp 1 = 128 := by
  have hgravity : gravityOf thrownUp = 16 := Exact.ofNat_eq 16
  have hv0 : thrownUp.numberD "initial_velocity" 0 = 64 := rfl
  have hh0 : thrownUp.numberD "initial_height" 0 = 80 := rfl
  have hlaunched : IsLaunched thrownUp := .inl nofun
  have hreach : heightOf thrownUp 1 = 128 := by
    rw [heightOf, hgravity, hv0, hh0, height]
    norm_num
  have hdelta : 1e-10 < |targetDiscriminant thrownUp 128| := by
    rw [targetDiscriminant, hgravity, hv0, hh0, discriminant_eq]
    norm_num
  obtain ⟨-, hmissing, hfailures, -, htarget⟩ := solveProjectile_whole_flight thrownUp
  obtain ⟨hnone, hlists⟩ := htarget 128 hlaunched rfl hdelta
  cases hsolve : solveProjectile thrownUp with
  | ok s =>
      obtain ⟨d, hd, hset, -, htimes⟩ := hlists s hsolve
      exact ⟨s, d, rfl, hd, hset, htimes, hreach⟩
  | error e =>
      rcases hfailures e hsolve with ⟨kind, needed, rfl⟩ | ⟨-, text, rfl⟩
      · exact absurd hlaunched (hmissing.mp ⟨kind, needed, hsolve⟩)
      · exact absurd hreach (hnone.mp ⟨text, hsolve⟩ 1 (by norm_num))

end EquationTutor.Solve
