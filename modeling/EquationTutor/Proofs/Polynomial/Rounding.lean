import EquationTutor.Proofs.Double.Decimals
import EquationTutor.Proofs.Exact.Numbers
import EquationTutor.Proofs.Polynomial.Records

namespace EquationTutor

open PolynomialText Double

namespace PolynomialText

/-- The number that is written, before it is rounded. -/
def Unsigned.number (n : Unsigned) : ℚ :=
  Literal.natOfDigits (n.whole ++ n.fraction) / 10 ^ n.fraction.length

theorem Unsigned.number_eq_mul_zpow (n : Unsigned) : n.number =
    Literal.natOfDigits (n.whole ++ n.fraction) * 10 ^ (0 - n.fraction.length : ℤ) := by
  rw [number, zero_sub, zpow_neg, zpow_natCast, div_eq_mul_inv]

theorem Unsigned.roundsTo_value (n : Unsigned) : RoundsTo n.value n.number := by
  rw [number_eq_mul_zpow]
  exact roundsTo_ofDecimal _ _

theorem Unsigned.value_eq_number (n : Unsigned) : (n.value : ℝ) = n.number := by
  rw [value, Exact.ofDecimal_eq, number_eq_mul_zpow]
  push_cast
  rfl

/-- The number before the power of `x`. -/
def Term.number (t : Term) : ℚ :=
  let size : ℚ := t.factor.elim 1 Unsigned.number
  if t.sign = some .minus then -size else size

theorem Term.coefficient_eq_number (t : Term) : (t.coefficient : ℝ) = t.number := by
  have hsize : t.factor.elim (@OfNat.ofNat ℝ 1 (Scalar.instOfNat 1)) Unsigned.value =
      (t.factor.elim 1 Unsigned.number : ℚ) := by
    cases t.factor with
    | none => simp
    | some n => exact n.value_eq_number
  rw [coefficient, number]
  split
  · rw [hsize, Rat.cast_neg]
  · exact hsize

theorem roundsTo_zero_literal : RoundsTo (@OfNat.ofNat Float 0 (Scalar.instOfNat 0)) 0 := by
  have h := roundsTo_ofDecimal 0 0
  rwa [Nat.cast_zero, zero_mul] at h

theorem roundsTo_one_literal : RoundsTo (@OfNat.ofNat Float 1 (Scalar.instOfNat 1)) 1 := by
  have h := roundsTo_ofDecimal 1 0
  rwa [Nat.cast_one, zpow_zero, one_mul] at h

theorem Term.roundsTo_coefficient (t : Term) : RoundsTo t.coefficient t.number := by
  have hsize : RoundsTo (t.factor.elim (@OfNat.ofNat Float 1 (Scalar.instOfNat 1)) Unsigned.value)
      (t.factor.elim 1 Unsigned.number) := by
    cases t.factor with
    | none => exact roundsTo_one_literal
    | some n => exact n.roundsTo_value
  rw [coefficient, number]
  split
  · exact hsize.neg
  · exact hsize

/-- The number before the first term with the given power, 0 if there is none. -/
def numberOf (q : Power) (ts : List Term) : ℚ :=
  (ts.find? fun t => t.power = q).elim 0 Term.number

section NumberOf

variable {q : Power} {ts us : List Term}

theorem coefficientOf_eq_numberOf (q : Power) (ts : List Term) :
    (coefficientOf q ts : ℝ) = numberOf q ts := by
  rw [coefficientOf, numberOf]
  cases ts.find? fun t => t.power = q with
  | none => simp
  | some t => exact t.coefficient_eq_number

theorem roundsTo_coefficientOf (q : Power) (ts : List Term) :
    RoundsTo (coefficientOf q ts) (numberOf q ts) := by
  rw [coefficientOf, numberOf]
  cases ts.find? fun t => t.power = q with
  | none => exact roundsTo_zero_literal
  | some t => exact t.roundsTo_coefficient

theorem numberOf_mem (q : Power) (ts : List Term) : numberOf q ts ∈ 0 :: ts.map Term.number := by
  rw [numberOf]
  cases h : ts.find? fun t => t.power = q with
  | none => exact List.mem_cons_self
  | some t => exact List.mem_cons_of_mem _ (List.mem_map_of_mem (List.mem_of_find?_eq_some h))

theorem abs_numberOf_lt_iff (h : ts = [] ∨ ∃ t, ts = [t] ∧ t.power = q) :
    |numberOf q ts| < overflowBound ↔ ∀ t ∈ ts, |t.number| < overflowBound := by
  rcases h with rfl | ⟨t, rfl, ht⟩
  · have hzero : |numberOf q []| < overflowBound := by
      rw [numberOf, List.find?_nil, Option.elim_none, abs_zero]
      exact lt_overflowBound (by positivity)
    exact iff_of_true hzero (by simp)
  · simp [numberOf, ht]

end NumberOf

end PolynomialText

namespace PolynomialRelation

/-- A double keeps a number that is read if it is that number rounded, or, where a number of the
right side is taken from one of the left, the difference of the two rounded. -/
def Keeps (p : PolynomialRelation) (x : Float) (r : ℝ) : Prop :=
  x.isFinite = true ∧
    ((∃ q : ℚ, r = q ∧ RoundsTo x q) ∨
      ∃ k ∈ 0 :: p.left.terms.map Term.number, ∃ n ∈ p.right.terms.map Term.number, ∃ y z,
        RoundsTo y k ∧ RoundsTo z n ∧ x = y - z ∧ r = (k - n : ℚ))

inductive KeepsValue (p : PolynomialRelation) : ParamValue Float → ParamValue ℝ → Prop
  | number {x : Float} {r : ℝ} (h : p.Keeps x r) : KeepsValue p (.number x) (.number r)
  | text (s : String) : KeepsValue p (.text s) (.text s)

/-- The record of doubles is the exact one, with each number kept as a double. -/
def KeepsRecord (p : PolynomialRelation) (record : Params Float) (exact : Params ℝ) : Prop :=
  List.Forall₂ (fun u v => u.1 = v.1 ∧ p.KeepsValue u.2 v.2) record.entries exact.entries

section Keeps

variable {p : PolynomialRelation} {x y z : Float} {k n q : ℚ}

theorem keeps_iff (h : RoundsTo x q) : p.Keeps x q ↔ |q| < overflowBound := by
  rw [← h.isFinite_iff]
  exact and_iff_left (Or.inl ⟨q, rfl, h⟩)

theorem keeps_sub_iff (hk : k ∈ 0 :: p.left.terms.map Term.number)
    (hn : n ∈ p.right.terms.map Term.number) (hy : RoundsTo y k) (hz : RoundsTo z n) :
    p.Keeps (y - z) (k - n : ℚ) ↔ |k| < overflowBound ∧ |n| < overflowBound ∧
      |rational y - rational z| < overflowBound := by
  rw [← hy.isFinite_iff, ← hz.isFinite_iff]
  constructor
  · rintro ⟨hfinite, -⟩
    obtain ⟨hfy, hfz⟩ := isFinite_of_isFinite_sub hfinite
    exact ⟨hfy, hfz, (roundsTo_sub hfy hfz).isFinite_iff.mp hfinite⟩
  · rintro ⟨hfy, hfz, hlt⟩
    exact ⟨(roundsTo_sub hfy hfz).isFinite_iff.mpr hlt,
      Or.inr ⟨k, hk, n, hn, y, z, hy, hz, rfl, rfl⟩⟩

theorem keepsValue_number_iff {r : ℝ} :
    p.KeepsValue (.number x) (.number r) ↔ p.Keeps x r := by
  constructor
  · rintro ⟨h⟩
    exact h
  · exact .number

theorem keepsRecord_operator (p : PolynomialRelation) (r : Relation) :
    List.Forall₂ (fun u v => u.1 = v.1 ∧ p.KeepsValue u.2 v.2) (operatorEntries Float r)
      (operatorEntries ℝ r) := by
  rw [operatorEntries, operatorEntries]
  split
  · exact .nil
  · exact .cons ⟨rfl, .text _⟩ .nil

variable {r : Relation}

theorem keepsRecord_linear_iff {m b c : Float} {m' b' c' : ℝ} :
    p.KeepsRecord (linearRecord m b c r) (linearRecord m' b' c' r) ↔
      p.Keeps m m' ∧ p.Keeps b b' ∧ p.Keeps c c' := by
  simp only [KeepsRecord, entries_linearRecord, List.cons_append, List.nil_append,
    List.forall₂_cons, keepsRecord_operator, keepsValue_number_iff, true_and, and_true]
  exact ⟨fun ⟨hb, hc, hm⟩ => ⟨hm, hb, hc⟩, fun ⟨hm, hb, hc⟩ => ⟨hb, hc, hm⟩⟩

theorem keepsRecord_quadratic_iff {a b c : Float} {a' b' c' : ℝ} :
    p.KeepsRecord (quadraticRecord a b c r) (quadraticRecord a' b' c' r) ↔
      p.Keeps a a' ∧ p.Keeps b b' ∧ p.Keeps c c' := by
  simp only [KeepsRecord, entries_quadraticRecord, List.cons_append, List.nil_append,
    List.forall₂_cons, keepsRecord_operator, keepsValue_number_iff, true_and, and_true]

end Keeps

end PolynomialRelation

end EquationTutor
