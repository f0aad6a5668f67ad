import EquationTutor.Solve.Factoring
import Mathlib.Tactic.Linarith
import Mathlib.Tactic.Ring

namespace EquationTutor.Solve

/-- The numbers `p ≤ q` with sum `b` and product `c`. -/
structure IsFactorPair (b c p q : Int) : Prop where
  le : p ≤ q
  mul : p * q = c
  add : p + q = b

/-- Sum and product determine two numbers up to their order. -/
theorem IsFactorPair.unique {b c p q p' q' : Int} (h : IsFactorPair b c p q)
    (h' : IsFactorPair b c p' q') : p = p' ∧ q = q' := by
  have hroot : (p - p') * (p - q') = 0 := by
    calc
      (p - p') * (p - q') = p * p - p * (p' + q') + p' * q' := by ring
      _ = p * p - p * (p + q) + p * q := by rw [h'.add, h'.mul, h.add, h.mul]
      _ = 0 := by ring
  have hadd := h.add.trans h'.add.symm
  have hle := h.le
  have hle' := h'.le
  rcases mul_eq_zero.mp hroot with h | h <;> omega

theorem IsFactorPair.natAbs_le {b c p q : Int} {n : Nat} (h : IsFactorPair b c p q)
    (hb : b.natAbs ≤ n) (hc : c.natAbs ≤ n) : p.natAbs ≤ n ∧ q.natAbs ≤ n := by
  have hadd := h.add
  by_cases hzero : c = 0
  · rcases mul_eq_zero.mp (h.mul.trans hzero) with h | h <;> omega
  · have hpos : 0 < c.natAbs := Int.natAbs_pos.mpr hzero
    have hp := Nat.le_of_dvd hpos (Int.natAbs_dvd_natAbs.mpr (Dvd.intro _ h.mul))
    have hq := Nat.le_of_dvd hpos (Int.natAbs_dvd_natAbs.mpr (Dvd.intro_left _ h.mul))
    exact ⟨hp.trans hc, hq.trans hc⟩

theorem isFactorPair_min_max {b c p q : Int} (hmul : p * q = c) (hadd : p + q = b) :
    IsFactorPair b c (min p q) (max p q) := by
  refine ⟨min_le_max, ?_, ?_⟩
  · rw [min_mul_max, hmul]
  · rw [min_add_max, hadd]

theorem isFactorPair_of_pairWith {b c p : Int} (hdvd : p ∣ c) {xy : Int × Int}
    (h : pairWith b c p = some xy) : IsFactorPair b c xy.1 xy.2 := by
  simp only [pairWith, Option.ite_none_right_eq_some, Option.some.injEq] at h
  obtain ⟨hadd, rfl⟩ := h
  exact isFactorPair_min_max (Int.mul_tdiv_cancel' hdvd) hadd

theorem pairWith_ne_none {b c p q : Int} (hp : p ≠ 0) (hmul : p * q = c) (hadd : p + q = b) :
    pairWith b c p ≠ none := by
  have hq : c.tdiv p = q := by
    rw [← hmul, Int.mul_tdiv_cancel_left q hp]
  simp [pairWith, hq, hadd]

theorem mem_smallDivisors_iff {n i : Nat} :
    i ∈ smallDivisors n ↔ (1 ≤ i ∧ i < 1001) ∧ i * i ≤ n ∧ i ∣ n := by
  simp [smallDivisors, List.mem_range'_1, Nat.dvd_iff_mod_eq_zero]

/-- The pair that a divisor gives with either sign. -/
def pairWithEither (b c : Int) (i : Nat) : Option (Int × Int) :=
  (pairWith b c i).orElse fun _ => pairWith b c (-(i : Int))

theorem isFactorPair_of_search {b c : Int} {xy : Int × Int}
    (h : (smallDivisors c.natAbs).findSome? (pairWithEither b c) = some xy) :
    IsFactorPair b c xy.1 xy.2 := by
  obtain ⟨i, hi, hpair⟩ := List.exists_of_findSome?_eq_some h
  have hdvd : (i : Int) ∣ c := Int.natCast_dvd.mpr (mem_smallDivisors_iff.mp hi).2.2
  rw [pairWithEither, Option.orElse_eq_or, Option.or_eq_some_iff] at hpair
  rcases hpair with hpos | ⟨-, hneg⟩
  · exact isFactorPair_of_pairWith hdvd hpos
  · exact isFactorPair_of_pairWith (Int.neg_dvd.mpr hdvd) hneg

theorem search_ne_none {b c p q : Int} (hc : c ≠ 0) (hlimit : c.natAbs ≤ searchLimit)
    (hmul : p * q = c) (hadd : p + q = b) (hle : p.natAbs ≤ q.natAbs) :
    (smallDivisors c.natAbs).findSome? (pairWithEither b c) ≠ none := by
  have hp : p ≠ 0 := by
    rintro rfl
    simp at hmul
    exact hc hmul.symm
  have habs : p.natAbs * q.natAbs = c.natAbs := by rw [← Int.natAbs_mul, hmul]
  have hsquare : p.natAbs * p.natAbs ≤ c.natAbs := habs ▸ Nat.mul_le_mul_left _ hle
  have hmem : p.natAbs ∈ smallDivisors c.natAbs := by
    rw [mem_smallDivisors_iff]
    refine ⟨⟨Int.natAbs_pos.mpr hp, ?_⟩, hsquare, Dvd.intro _ habs⟩
    by_contra hlarge
    have : 1001 * 1001 ≤ p.natAbs * p.natAbs :=
      Nat.mul_le_mul (Nat.not_lt.mp hlarge) (Nat.not_lt.mp hlarge)
    simp only [searchLimit] at hlimit
    omega
  intro hnone
  have hpair := List.findSome?_eq_none_iff.mp hnone _ hmem
  simp only [pairWithEither, Option.orElse_eq_or, Option.or_eq_none_iff] at hpair
  have hp_none := pairWith_ne_none hp hmul hadd
  rcases Int.natAbs_eq p with h | h
  · exact hp_none (h ▸ hpair.1)
  · exact hp_none (h ▸ hpair.2)

theorem findFactorPair_eq_some_iff (b c p q : Int) :
    findFactorPair b c = some (p, q) ↔ c.natAbs ≤ searchLimit ∧ IsFactorPair b c p q := by
  by_cases hc : c = 0
  · subst hc
    have hpair : IsFactorPair b 0 (min 0 b) (max 0 b) :=
      isFactorPair_min_max (zero_mul b) (zero_add b)
    simp only [findFactorPair, if_pos, Option.some.injEq, Prod.mk.injEq, Int.natAbs_zero,
      Nat.zero_le, true_and]
    constructor
    · rintro ⟨rfl, rfl⟩
      exact hpair
    · exact hpair.unique
  · by_cases hlimit : c.natAbs ≤ searchLimit
    · have hsearch : findFactorPair b c =
          (smallDivisors c.natAbs).findSome? (pairWithEither b c) := by
        simp only [findFactorPair, if_neg hc, if_neg (Nat.not_lt.mpr hlimit)]
        rfl
      rw [hsearch]
      constructor
      · intro h
        exact ⟨hlimit, isFactorPair_of_search h⟩
      · rintro ⟨-, hpair⟩
        have hfound : (smallDivisors c.natAbs).findSome? (pairWithEither b c) ≠ none := by
          rcases le_total p.natAbs q.natAbs with hle | hle
          · exact search_ne_none hc hlimit hpair.mul hpair.add hle
          · exact search_ne_none hc hlimit ((mul_comm q p).trans hpair.mul)
              ((add_comm q p).trans hpair.add) hle
        obtain ⟨xy, hxy⟩ := Option.ne_none_iff_exists'.mp hfound
        rw [hxy]
        obtain ⟨hx, hy⟩ := (isFactorPair_of_search hxy).unique hpair
        exact congrArg some (Prod.ext hx hy)
    · simp [findFactorPair, hc, hlimit, Nat.not_le.mp hlimit]

theorem gcd_eq_natAbs_iff (a b c : Int) :
    Nat.gcd (Int.gcd a b) c.natAbs = a.natAbs ↔ a ∣ b ∧ a ∣ c := by
  constructor
  · intro h
    have hb := (Nat.gcd_dvd_left (Int.gcd a b) c.natAbs).trans (Int.gcd_dvd_natAbs_right a b)
    have hc := Nat.gcd_dvd_right (Int.gcd a b) c.natAbs
    rw [h] at hb hc
    exact ⟨Int.natAbs_dvd_natAbs.mp hb, Int.natAbs_dvd_natAbs.mp hc⟩
  · rintro ⟨hb, hc⟩
    have hgcd : Int.gcd a b = a.natAbs := Int.gcd_eq_natAbs_left hb
    rw [hgcd, Nat.gcd_eq_left (Int.natAbs_dvd_natAbs.mpr hc)]

theorem factorIntegers_eq_some_iff {a : Int} (ha : a ≠ 0) (b c : Int) (common : Option Int)
    (p q : Int) :
    factorIntegers a b c = some (common, p, q) ↔
      common = (if a = 1 then none else some a) ∧ (p * q).natAbs ≤ searchLimit ∧
        p ≤ q ∧ b = a * (p + q) ∧ c = a * (p * q) := by
  by_cases hdvd : a ∣ b ∧ a ∣ c
  · have hcommon : leadingCommonFactor a b c = if a = 1 then none else some a := by
      simp only [leadingCommonFactor, (gcd_eq_natAbs_iff a b c).mpr hdvd]
      split <;> simp_all
    have hk : (leadingCommonFactor a b c).getD 1 = a := by
      rw [hcommon]
      split <;> simp_all
    obtain ⟨⟨b, rfl⟩, ⟨c, rfl⟩⟩ := hdvd
    have hfactor : factorIntegers a (a * b) (a * c) =
        (findFactorPair b c).map fun pair => (if a = 1 then none else some a, pair) := by
      simp only [factorIntegers, hk, Int.mul_tdiv_cancel_left _ ha, if_true]
      rw [hcommon]
    simp only [hfactor, Option.map_eq_some_iff, Prod.mk.injEq, Prod.exists,
      findFactorPair_eq_some_iff, Int.mul_eq_mul_left_iff ha]
    constructor
    · rintro ⟨x, y, ⟨hlimit, hpair⟩, hcommon, rfl, rfl⟩
      exact ⟨hcommon.symm, hpair.mul ▸ hlimit, hpair.le, hpair.add.symm, hpair.mul.symm⟩
    · rintro ⟨rfl, hlimit, hle, hadd, hmul⟩
      exact ⟨p, q, ⟨hmul ▸ hlimit, hle, hmul.symm, hadd.symm⟩, rfl, rfl, rfl⟩
  · have hone : a ≠ 1 := by
      rintro rfl
      exact hdvd ⟨one_dvd b, one_dvd c⟩
    have hcommon : leadingCommonFactor a b c = none := by
      simp [leadingCommonFactor, gcd_eq_natAbs_iff, hdvd]
    have hnone : factorIntegers a b c = none := by
      simp [factorIntegers, hcommon, hone.symm]
    rw [hnone]
    constructor
    · simp
    · rintro ⟨-, -, -, hb, hc⟩
      exact absurd ⟨Dvd.intro _ hb.symm, Dvd.intro _ hc.symm⟩ hdvd

theorem natAbs_le_of_factorIntegers {a b c p q : Int} {common : Option Int} {n : Nat}
    (hb : b.natAbs ≤ n) (hc : c.natAbs ≤ n)
    (h : factorIntegers a b c = some (common, p, q)) : p.natAbs ≤ n ∧ q.natAbs ≤ n := by
  simp only [factorIntegers] at h
  have hquotient (x k : Int) (hx : x.natAbs ≤ n) : (x.tdiv k).natAbs ≤ n := by
    rw [Int.natAbs_tdiv]
    exact (Nat.div_le_self _ _).trans hx
  split at h
  · obtain ⟨pair, hpair, heq⟩ := Option.map_eq_some_iff.mp h
    cases heq
    exact ((findFactorPair_eq_some_iff _ _ _ _).mp hpair).2.natAbs_le (hquotient _ _ hb)
      (hquotient _ _ hc)
  · cases h

end EquationTutor.Solve
