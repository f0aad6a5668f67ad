import EquationTutor.Proofs.Finite.Inequality
import EquationTutor.Solve.Projectile

open Float.Model Float.Model.UnpackedFloat

namespace EquationTutor.Solve

open Double

variable {gravity v0 c delta : Float} {times : List Float}

theorem isFinite_times_iff (roots : List Float) :
    (∀ t ∈ Scalar.dedupBy (fun s t => decide ((t - s).abs < 1e-10))
        ((roots.filter fun t => decide (-1e-10 ≤ t)).map fun t => larger t 0),
      t.isFinite = true) ↔
      ∀ t ∈ roots, -1e-10 ≤ t → (larger t 0).isFinite = true := by
  rw [forall_mem_dedupBy_iff]
  · simp only [List.forall_mem_map, List.mem_filter, decide_eq_true_eq, and_imp]
  · intro s t hst
    obtain ⟨ht, hs⟩ := isFinite_of_isFinite_sub (isFinite_of_abs_lt (of_decide_eq_true hst))
    exact iff_of_true hs ht

theorem le_of_posInfinity {x : Float} (hx : x.toModel.unpack = .infinity .positive) :
    -1e-10 ≤ x ∧ larger x 0 = x := by
  have hzero : (0 : Float).toModel.unpack = .zero .positive := rfl
  obtain ⟨m, h, htolerance⟩ : ∃ m h, (-1e-10 : Float).toModel.unpack =
      .finite .negative m (-86) h := ⟨_, _, rfl⟩
  constructor
  · rw [le_iff, hx, htolerance]
    rfl
  · exact (choice_of_posInfinity hx hzero).2

theorem not_le_of_negInfinity {x : Float} (hx : x.toModel.unpack = .infinity .negative) :
    ¬ -1e-10 ≤ x := by
  obtain ⟨m, h, htolerance⟩ : ∃ m h, (-1e-10 : Float).toModel.unpack =
      .finite .negative m (-86) h := ⟨_, _, rfl⟩
  rw [le_iff, hx, htolerance]
  exact Bool.false_ne_true

/-- With an infinite discriminant there is an infinite root, and all the others are zeros. -/
theorem exists_infinity_of_discriminant {a b c : Float}
    (hsign : sign? a.toModel.unpack = some .negative) (ha : IsNonzero a) (hb : b.isFinite = true)
    (hdelta : delta.toModel.unpack = .infinity .positive) :
    ∃ x ∈ (rootsOf a b c delta).real, x.toModel.unpack = .infinity (rootSign b) ∧
      ∀ z ∈ (rootsOf a b c delta).real, z = x ∨ z.isFinite = true := by
  obtain ⟨s, m, e, hm, ha⟩ := ha
  have hs : s = .negative := by
    rw [ha] at hsign
    exact Option.some.inj hsign
  have hside : -rootSign b / s = rootSign b := by
    rw [hs]
    cases rootSign b <;> rfl
  by_cases hc : c.isFinite = true
  · obtain ⟨x, z, t, hx, hz, hroots⟩ := rootsOf_of_infinity ha hb hc hdelta
    have hz : z.isFinite = true := isFinite_iff.mpr (.inl ⟨t, hz⟩)
    rw [hside] at hx
    rcases hroots with ⟨-, hroots⟩ | ⟨-, hroots⟩ <;> rw [hroots] <;>
      exact ⟨x, by simp [QuadraticRoots.real], hx, by simp [QuadraticRoots.real, hz]⟩
  · obtain ⟨x, hx, hroots⟩ :=
      rootsOf_of_infinity_constant ha hb (Bool.eq_false_of_not_eq_true hc) hdelta
    rw [hside] at hx
    rw [hroots]
    exact ⟨x, by simp [QuadraticRoots.real], hx, by simp [QuadraticRoots.real]⟩

/-- The infinite root is after launch unless the projectile is thrown down. -/
theorem isFinite_times_of_infinity {roots : List Float} {x : Float} (hv : v0.isFinite = true)
    (hmem : x ∈ roots) (hx : x.toModel.unpack = .infinity (rootSign v0))
    (hother : ∀ z ∈ roots, z = x ∨ z.isFinite = true) :
    (∀ t ∈ roots, -1e-10 ≤ t → (larger t 0).isFinite = true) ↔ v0 < 0 := by
  rw [lt_zero_iff (isNaN_eq_false_of_isFinite hv)]
  unfold rootSign at hx
  by_cases hup : 0 ≤ v0
  · rw [if_pos hup] at hx
    obtain ⟨hle, hlarger⟩ := le_of_posInfinity hx
    refine iff_of_false (fun h => ?_) (not_not.mpr hup)
    have hfinite := h x hmem hle
    rw [hlarger] at hfinite
    exact not_isFinite_of_infinity hx hfinite
  · rw [if_neg hup] at hx
    refine iff_of_true (fun t ht hle => ?_) hup
    rcases hother t ht with rfl | hfinite
    · exact absurd hle (not_le_of_negInfinity hx)
    · exact isFinite_larger hfinite rfl

theorem isFinite_timesAt_iff (hg : gravity.isFinite = true) (hpos : 1e-10 < gravity)
    (hv : v0.isFinite = true) (h : timesAt gravity v0 c = .ok (delta, times)) (hne : times ≠ []) :
    (∀ t ∈ times, t.isFinite = true) ↔
      (discriminant (-gravity) v0 c).isFinite = true ∨ v0 < 0 := by
  obtain ⟨roots, hroots, rfl⟩ := timesAt_eq_ok_iff.mp h
  obtain ⟨-, rfl, rfl⟩ := quadraticRoots_eq_ok_iff.mp hroots
  obtain ⟨hsign, habove⟩ := positive_of_tolerance_lt hpos
  have hlead := habove.neg
  refine (isFinite_times_iff _).trans ?_
  by_cases hdelta : (discriminant (-gravity) v0 c).isFinite = true
  · refine iff_of_true (fun t ht _ => ?_) (.inl hdelta)
    exact isFinite_larger (isFinite_of_mem_real (isFinite_toSet_of_isFinite hlead hdelta) t ht) rfl
  rw [or_iff_right hdelta]
  have hinfinite := Bool.eq_false_of_not_eq_true hdelta
  by_cases hpositive : (discriminant (-gravity) v0 c).toModel.unpack = .infinity .positive
  · have hneg : sign? (-gravity).toModel.unpack = some .negative := by
      rw [unpack_neg, sign?_repack, sign?_neg, hsign]
      rfl
    obtain ⟨x, hmem, hx, hother⟩ := exists_infinity_of_discriminant (c := c) hneg
      (hlead.isNonzero (isFinite_neg_iff.mpr hg)) hv hpositive
    exact isFinite_times_of_infinity hv hmem hx hother
  · obtain ⟨z, -, hcomplex⟩ :=
      rootsOf_of_not_isFinite (a := -gravity) (b := v0) (c := c) hinfinite hpositive
    rw [hcomplex] at hne
    exact absurd rfl hne

end EquationTutor.Solve
