import EquationTutor.Proofs.Factoring.IntegerFactors
import EquationTutor.Proofs.Finite.Roots
import EquationTutor.Solve.CompletingSquare
import EquationTutor.Solve.Factoring

open Float.Model Float.Model.UnpackedFloat

namespace EquationTutor.Solve

open Double

section Factors

theorem isBelow_searchBound : IsBelow 40 (1e12 : Float) := by
  have hunpack : ∃ m h, (1e12 : Float).toModel.unpack = .finite .positive m (-13) h ∧
      m.log2 = 52 := ⟨_, _, rfl, by decide⟩
  obtain ⟨m, h, hunpack, hlog⟩ := hunpack
  rw [IsBelow, hunpack]
  change (m.log2 : Int) + -13 < 40
  omega

theorem isBelow_of_isSearchable {x : Float} (hx : x.isFinite = true)
    (h : isSearchable x = true) : IsBelow 40 x := by
  have hle : x.abs ≤ 1e12 := of_decide_eq_true (Bool.and_eq_true_iff.mp h).2
  exact isBelow_searchBound.of_abs_le hx hle

theorem isFinite_ofInt {n : Int} (h : n.natAbs ≤ 2 ^ 40) : (Float.ofInt n).isFinite = true := by
  have hlt : n.natAbs < 2 ^ 53 := lt_of_le_of_lt h (by decide)
  change (Float.ofInt n).toModel.unpack.isFinite = true
  rw [unpack_ofInt hlt, ofNatural]
  split <;> rfl

theorem isFinite_factoredSolution {a b c : Float} {quadratic : QuadraticDetail Float}
    {common : Option Int} {p q : Int} (hb : IsBelow 40 b) (hc : IsBelow 40 c)
    (h : factorIntegers (Scalar.nearest a) (Scalar.nearest b) (Scalar.nearest c) =
      some (common, p, q)) : (factoredSolution quadratic common p q).set.IsFinite := by
  obtain ⟨hp, hq⟩ := natAbs_le_of_factorIntegers hb.natAbs_nearest_le hc.natAbs_nearest_le h
  refine (isFinite_dedup_iff _).mpr ?_
  exact List.forall_mem_cons.mpr ⟨isFinite_neg_iff.mpr (isFinite_ofInt hq),
    List.forall_mem_singleton.mpr (isFinite_neg_iff.mpr (isFinite_ofInt hp))⟩

end Factors

section Square

variable {h c remainder : Float}

theorem rootsOfSquare_double (h remainder : Float) :
    rootsOfSquare h remainder =
      if (1e-10 : Float) < remainder then
        .two (-h - remainder.sqrt) (-h + remainder.sqrt)
      else if remainder.abs ≤ 1e-10 then .one (-h)
      else
        let z : EquationTutor.Complex Float := ⟨-h, (-remainder).sqrt⟩
        .complexPair z z.conj :=
  rfl

theorem isFinite_toSet_rootsOfSquare (hfinite : (h * h - c).isFinite = true) :
    (rootsOfSquare h (h * h - c)).toSet.IsFinite := by
  have hh : IsBelow 512 h := isBelow_of_isFinite_mul_self (isFinite_of_isFinite_sub hfinite).1
  have hneg : IsBelow 513 (-h) := (hh.neg (by decide)).mono (by decide)
  rw [rootsOfSquare_double]
  split
  · rename_i hlt
    have hroot := isBelow_sqrt (positive_of_tolerance_lt hlt).1 hfinite
    exact isFinite_two_iff.mpr
      ⟨(hneg.sub hroot (k := 515) (by decide) (by decide) (by decide)).isFinite,
        (hneg.add hroot (k := 515) (by decide) (by decide) (by decide)).isFinite⟩
  · rename_i hlt
    split
    · exact isFinite_one_iff.mpr hneg.isFinite
    · rename_i hle
      have hroot := isBelow_sqrt (sign_neg_of_not_le hfinite hlt hle) (isFinite_neg_iff.mpr hfinite)
      exact isFinite_complexPair_iff.mpr ⟨hneg.isFinite, hroot.isFinite⟩

theorem not_isFinite_toSet_rootsOfSquare (hinfinite : remainder.isFinite = false) :
    ¬ (rootsOfSquare h remainder).toSet.IsFinite := by
  intro hset
  rw [rootsOfSquare_double, if_neg (not_abs_le_of_not_isFinite hinfinite)] at hset
  split at hset
  · have hroot := (isFinite_of_isFinite_sub (isFinite_two_iff.mp hset).1).2
    rw [isFinite_sqrt_eq_false hinfinite] at hroot
    cases hroot
  · have hroot : (-remainder).sqrt.isFinite = true := (isFinite_complexPair_iff.mp hset).2
    rw [isFinite_sqrt_neg_eq_false hinfinite] at hroot
    cases hroot

theorem isFinite_toSet_rootsOfSquare_iff :
    (rootsOfSquare h (h * h - c)).toSet.IsFinite ↔ (h * h - c).isFinite = true := by
  refine ⟨fun hset => ?_, isFinite_toSet_rootsOfSquare⟩
  by_contra hinfinite
  exact not_isFinite_toSet_rootsOfSquare (Bool.eq_false_of_not_eq_true hinfinite) hset

end Square

end EquationTutor.Solve
