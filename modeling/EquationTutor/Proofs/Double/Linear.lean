import EquationTutor.Proofs.Double.Order
import Mathlib.Data.Prod.Lex

open Float.Model Float.Model.UnpackedFloat

namespace EquationTutor.Double

/-- What numbers are compared by. -/
def place : UnpackedFloat → ℤ ×ₗ ℤ ×ₗ ℤ
  | .notANumber | .zero _ => toLex (0, toLex (0, 0))
  | .infinity .negative => toLex (-2, toLex (0, 0))
  | .infinity .positive => toLex (2, toLex (0, 0))
  | .finite .negative m e _ => toLex (-1, toLex (-e, -m))
  | .finite .positive m e _ => toLex (1, toLex (e, m))

theorem cmp_toLex {α β : Type} [LinearOrder α] [LinearOrder β] (a c : α) (b d : β) :
    cmp (toLex (a, b)) (toLex (c, d)) = (cmp a c).then (cmp b d) := by
  rcases lt_trichotomy a c with h | rfl | h
  · simp [cmp, cmpUsing, Prod.Lex.lt_iff, h]
  · simp [cmp, cmpUsing, Prod.Lex.lt_iff, Ordering.then]
  · simp [cmp, cmpUsing, Prod.Lex.lt_iff, h, h.not_gt, h.ne']

section Finite

variable {m n : Nat} {e f : Int} (hm : 0 < m) (hn : 0 < n)

theorem compare_positive : (UnpackedFloat.finite .positive m e hm).compare
    (.finite .positive n f hn) =
      some (cmp (place (.finite .positive m e hm)) (place (.finite .positive n f hn))) := by
  have hcast : cmp (m : ℤ) n = cmp m n := Nat.strictMono_cast.cmp_map_eq m n
  rw [place, place, cmp_toLex, cmp_toLex, cmp_self_eq_eq, hcast, cmp_eq_compare, cmp_eq_compare]
  rfl

theorem compare_negative : (UnpackedFloat.finite .negative m e hm).compare
    (.finite .negative n f hn) =
      some (cmp (place (.finite .negative m e hm)) (place (.finite .negative n f hn))) := by
  have hcast : cmp (m : ℤ) n = cmp m n := Nat.strictMono_cast.cmp_map_eq m n
  have hneg (a b : ℤ) : cmp (-a) (-b) = (cmp a b).swap := by
    have hanti : StrictAnti fun c : ℤ => -c := fun _ _ => neg_lt_neg
    rw [cmp_swap]
    exact hanti.cmp_map_eq a b
  rw [place, place, cmp_toLex, cmp_toLex, cmp_self_eq_eq, hneg, hneg, hcast, cmp_eq_compare,
    cmp_eq_compare, Ordering.eq_then, ← Ordering.swap_then]
  rfl

end Finite

theorem compare_eq_place {u v : UnpackedFloat} (hu : (sign? u).isSome) (hv : (sign? v).isSome) :
    u.compare v = some (cmp (place u) (place v)) := by
  cases u with
  | notANumber => cases hu
  | zero s =>
      cases v with
      | notANumber => cases hv
      | zero t => rfl
      | infinity t => cases t <;> rfl
      | finite t n f hn => cases t <;> rw [place, place, cmp_toLex] <;> rfl
  | infinity s =>
      cases v with
      | notANumber => cases hv
      | zero t => cases s <;> rfl
      | infinity t => cases s <;> cases t <;> rfl
      | finite t n f hn => cases s <;> cases t <;> rw [place, place, cmp_toLex] <;> rfl
  | finite s m e hm =>
      cases v with
      | notANumber => cases hv
      | zero t => cases s <;> rw [place, place, cmp_toLex] <;> rfl
      | infinity t => cases s <;> cases t <;> rw [place, place, cmp_toLex] <;> rfl
      | finite t n f hn =>
          cases s <;> cases t
          · exact compare_negative hm hn
          · rw [place, place, cmp_toLex]
            rfl
          · rw [place, place, cmp_toLex]
            rfl
          · exact compare_positive hm hn

/-- Where a number stands on the line. -/
def position (x : Float) : ℤ ×ₗ ℤ ×ₗ ℤ :=
  place x.toModel.unpack

section Numbers

variable {x y : Float} (hx : x.isNaN = false) (hy : y.isNaN = false)
include hx hy

theorem compare_numbers :
    x.toModel.unpack.compare y.toModel.unpack = some (cmp (position x) (position y)) :=
  compare_eq_place (isNaN_eq_false_iff.mp hx) (isNaN_eq_false_iff.mp hy)

theorem lt_iff_position : x < y ↔ position x < position y := by
  rw [lt_iff, UnpackedFloat.lt, compare_numbers hx hy, beq_iff_eq, Option.some_inj, cmp_eq_lt_iff]

theorem le_iff_position : x ≤ y ↔ position x ≤ position y := by
  rw [le_iff, UnpackedFloat.le, compare_numbers hx hy, Option.any_some, ← not_lt, ← cmp_eq_gt_iff,
    Ordering.isLE_iff_ne_gt]

theorem beq_iff_position : (x == y) = true ↔ position x = position y := by
  change x.toModel.unpack.beq y.toModel.unpack = true ↔ _
  rw [UnpackedFloat.beq, compare_numbers hx hy, beq_iff_eq, Option.some_inj, cmp_eq_eq_iff]

end Numbers

section Comparisons

variable {x y z : Float}

theorem isNaN_eq_false_of_le (h : x ≤ y) : x.isNaN = false ∧ y.isNaN = false := by
  rw [isNaN_eq_false_iff, isNaN_eq_false_iff]
  rw [le_iff] at h
  revert h
  cases x.toModel.unpack <;> cases y.toModel.unpack <;>
    simp [UnpackedFloat.le, UnpackedFloat.compare]

theorem lt_imp_le (h : x < y) : x ≤ y := by
  rw [lt_iff, UnpackedFloat.lt, beq_iff_eq] at h
  rw [le_iff, UnpackedFloat.le, h]
  rfl

theorem lt_le_trans (h : x < y) (h' : y ≤ z) : x < z := by
  obtain ⟨hx, hy⟩ := isNaN_eq_false_of_le (lt_imp_le h)
  obtain ⟨-, hz⟩ := isNaN_eq_false_of_le h'
  rw [lt_iff_position hx hy] at h
  rw [le_iff_position hy hz] at h'
  exact (lt_iff_position hx hz).mpr (h.trans_le h')

theorem le_lt_trans (h : x ≤ y) (h' : y < z) : x < z := by
  obtain ⟨hx, hy⟩ := isNaN_eq_false_of_le h
  obtain ⟨-, hz⟩ := isNaN_eq_false_of_le (lt_imp_le h')
  rw [le_iff_position hx hy] at h
  rw [lt_iff_position hy hz] at h'
  exact (lt_iff_position hx hz).mpr (h.trans_lt h')

theorem le_imp_not_lt (h : x ≤ y) : ¬ y < x := by
  obtain ⟨hx, hy⟩ := isNaN_eq_false_of_le h
  rw [le_iff_position hx hy] at h
  exact mt (lt_iff_position hy hx).mp h.not_gt

theorem lt_imp_not_le (h : x < y) : ¬ y ≤ x :=
  fun h' => le_imp_not_lt h' h

theorem beq_iff_le_and_le : (x == y) = true ↔ x ≤ y ∧ y ≤ x := by
  constructor
  · intro h
    rcases eq_or_zeros_of_beq h with rfl | ⟨rfl, rfl⟩ | ⟨rfl, rfl⟩
    · have hle : x ≤ x := by
        change x.toModel.unpack.beq x.toModel.unpack = true at h
        rw [UnpackedFloat.beq, beq_iff_eq] at h
        rw [le_iff, UnpackedFloat.le, h]
        rfl
      exact ⟨hle, hle⟩
    · decide +kernel
    · decide +kernel
  · rintro ⟨h, h'⟩
    obtain ⟨hx, hy⟩ := isNaN_eq_false_of_le h
    rw [le_iff_position hx hy] at h
    rw [le_iff_position hy hx] at h'
    exact (beq_iff_position hx hy).mpr (h.antisymm h')

theorem lt_or_beq_or_gt (hx : x.isNaN = false) (hy : y.isNaN = false) :
    x < y ∨ (y == x) = true ∨ y < x := by
  rw [lt_iff_position hx hy, beq_iff_position hy hx, lt_iff_position hy hx]
  rcases lt_trichotomy (position x) (position y) with h | h | h
  · exact .inl h
  · exact .inr (.inl h.symm)
  · exact .inr (.inr h)

end Comparisons

end EquationTutor.Double
