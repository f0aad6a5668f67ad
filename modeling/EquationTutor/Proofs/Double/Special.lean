import EquationTutor.Proofs.Double.Integers

open Float.Model Float.Model.UnpackedFloat

namespace EquationTutor.Double

/-- The parts of a float as they come back from its bits. -/
def repack (u : UnpackedFloat) : UnpackedFloat :=
  (Float.Model.pack u).unpack

/-- The sign of everything that is a number. -/
def sign? : UnpackedFloat → Option Sign
  | .notANumber => none
  | .infinity s | .zero s | .finite s _ _ _ => some s

@[simp]
theorem sign?_notANumber : sign? .notANumber = none :=
  rfl

@[simp]
theorem sign?_infinity (s : Sign) : sign? (.infinity s) = some s :=
  rfl

@[simp]
theorem sign?_zero (s : Sign) : sign? (.zero s) = some s :=
  rfl

@[simp]
theorem sign?_finite (s : Sign) (m : Nat) (e : Int) (hm : 0 < m) :
    sign? (.finite s m e hm) = some s :=
  rfl

@[simp]
theorem repack_notANumber : repack .notANumber = .notANumber := by
  change UnpackedFloat.unpack .binary64 (packedNaN .binary64) = _
  exact unpack_packedNaN

@[simp]
theorem repack_infinity (s : Sign) : repack (.infinity s) = .infinity s := by
  cases s <;> rfl

@[simp]
theorem repack_zero (s : Sign) : repack (.zero s) = .zero s := by
  cases s <;> rfl

theorem sign?_unpack_packComponents (s : Sign) {e : BitVec (Format.exponentBits .binary64)}
    (m : BitVec (Format.mantissaBitsWithoutImplicit .binary64)) (he : e ≠ -1#11) :
    sign? (UnpackedFloat.unpack .binary64 (packComponents .binary64 s e m)) = some s := by
  simp only [UnpackedFloat.unpack, unpackMantissa_packComponents, unpackExponent_packComponents,
    unpackSign_packComponents, Sign.ofBitVec_toBitVec]
  rw [if_neg he]
  split
  · split <;> rfl
  · rfl

/-- Packing may overflow or underflow, but it keeps the sign. -/
@[simp]
theorem sign?_repack (u : UnpackedFloat) : sign? (repack u) = sign? u := by
  cases u with
  | notANumber => rw [repack_notANumber]
  | infinity s => rw [repack_infinity]
  | zero s => rw [repack_zero]
  | finite s m e hm =>
      change sign? (UnpackedFloat.unpack .binary64 (UnpackedFloat.pack .binary64 _)) = some s
      rw [UnpackedFloat.pack]
      dsimp only
      split
      · cases s <;> rfl
      · rename_i hsmall
        split
        · refine sign?_unpack_packComponents s _ ?_
          intro h
          have := congrArg BitVec.toNat h
          rw [BitVec.toNat_ofNat] at this
          change _ % 2048 = 2047 at this
          change ¬ 2048 ≤ _ at hsmall
          omega
        · exact sign?_unpack_packComponents s _ (by decide)

theorem sign?_roundWithAccuracy (s : Sign) (m : Nat) (e : Int) (a : Accuracy) :
    sign? (roundWithAccuracy .binary64 s m e a) = some s := by
  rw [roundWithAccuracy]
  dsimp only
  split <;> rfl

theorem isSome_sign?_normalize (m e : Int) (zeroSign : Sign) :
    (sign? (UnpackedFloat.normalize .binary64 m e zeroSign)).isSome := by
  rw [UnpackedFloat.normalize]
  split
  · simp [UnpackedFloat.round, sign?_roundWithAccuracy]
  · rfl
  · simp [UnpackedFloat.round, sign?_roundWithAccuracy]

section Parts

variable {u v : UnpackedFloat}

theorem isFinite_of_isFinite_repack (h : (repack u).isFinite = true) : u.isFinite = true := by
  cases u <;> simp_all [UnpackedFloat.isFinite]

theorem isFinite_of_isFinite_addParts (h : (UnpackedFloat.add .binary64 u v).isFinite = true) :
    u.isFinite = true ∧ v.isFinite = true := by
  cases u <;> cases v <;> simp_all [UnpackedFloat.add, UnpackedFloat.isFinite]
  rename_i s t
  cases s <;> cases t <;> exact absurd h Bool.false_ne_true

theorem isFinite_of_isFinite_subParts (h : (UnpackedFloat.sub .binary64 u v).isFinite = true) :
    u.isFinite = true ∧ v.isFinite = true := by
  cases u <;> cases v <;> simp_all [UnpackedFloat.sub, UnpackedFloat.isFinite]
  rename_i s t
  cases s <;> cases t <;> exact absurd h Bool.false_ne_true

theorem isFinite_of_isFinite_mulParts (h : (UnpackedFloat.mul .binary64 u v).isFinite = true) :
    u.isFinite = true ∧ v.isFinite = true := by
  cases u <;> cases v <;> simp_all [UnpackedFloat.mul, UnpackedFloat.isFinite]

theorem isSome_sign?_add (hu : u.isFinite = true) (hv : (sign? v).isSome) :
    (sign? (UnpackedFloat.add .binary64 u v)).isSome := by
  cases u <;> cases v <;>
    simp_all [UnpackedFloat.add, UnpackedFloat.isFinite, isSome_sign?_normalize]
  rename_i s t
  cases s <;> cases t <;> rfl

theorem sign?_mul {s t : Sign} {m : Nat} {e : Int} {hm : 0 < m} (hv : sign? v = some t) :
    sign? (UnpackedFloat.mul .binary64 (.finite s m e hm) v) = some (s * t) := by
  cases v <;> simp_all [UnpackedFloat.mul, sign?_roundWithAccuracy]

theorem sign?_div {s t : Sign} {m : Nat} {e : Int} {hm : 0 < m} (hu : sign? u = some t) :
    sign? (UnpackedFloat.div .binary64 u (.finite s m e hm)) = some (t / s) := by
  cases u <;> simp_all [UnpackedFloat.div, sign?_roundWithAccuracy]

theorem sign?_sqrt (hu : sign? u = some .positive) :
    sign? (UnpackedFloat.sqrt .binary64 u) = some .positive := by
  cases u <;> simp_all [UnpackedFloat.sqrt, sign?_roundWithAccuracy]

end Parts

variable {x y : Float}

section Kinds

/-- The double is a number other than zero, and not infinite. -/
def IsNonzero (x : Float) : Prop :=
  ∃ s m e h, x.toModel.unpack = .finite s m e h

theorem isNaN_eq_false_iff : x.isNaN = false ↔ (sign? x.toModel.unpack).isSome := by
  change x.toModel.unpack.isNaN = false ↔ _
  cases x.toModel.unpack <;> simp [UnpackedFloat.isNaN]

theorem isFinite_iff : x.isFinite = true ↔
    (∃ s, x.toModel.unpack = .zero s) ∨ IsNonzero x := by
  change x.toModel.unpack.isFinite = true ↔ _
  unfold IsNonzero
  cases x.toModel.unpack <;> simp_all [UnpackedFloat.isFinite]

theorem IsNonzero.isFinite (h : IsNonzero x) : x.isFinite = true :=
  isFinite_iff.mpr (.inr h)

theorem isNaN_eq_false_of_isFinite (h : x.isFinite = true) : x.isNaN = false := by
  rw [isNaN_eq_false_iff]
  obtain ⟨s, hx⟩ | ⟨s, m, e, hm, hx⟩ := isFinite_iff.mp h
  · simp [hx]
  · simp [hx]

end Kinds

section Operations

theorem unpack_add (x y : Float) : (x + y).toModel.unpack =
    repack (UnpackedFloat.add .binary64 x.toModel.unpack y.toModel.unpack) :=
  rfl

theorem unpack_sub (x y : Float) : (x - y).toModel.unpack =
    repack (UnpackedFloat.sub .binary64 x.toModel.unpack y.toModel.unpack) :=
  rfl

theorem unpack_mul (x y : Float) : (x * y).toModel.unpack =
    repack (UnpackedFloat.mul .binary64 x.toModel.unpack y.toModel.unpack) :=
  rfl

theorem unpack_div (x y : Float) : (x / y).toModel.unpack =
    repack (UnpackedFloat.div .binary64 x.toModel.unpack y.toModel.unpack) :=
  rfl

theorem unpack_neg (x : Float) : (-x).toModel.unpack = repack x.toModel.unpack.neg :=
  rfl

theorem unpack_abs (x : Float) : x.abs.toModel.unpack = repack x.toModel.unpack.abs :=
  rfl

theorem unpack_sqrt (x : Float) : x.sqrt.toModel.unpack =
    repack (UnpackedFloat.sqrt .binary64 x.toModel.unpack) :=
  rfl

theorem isFinite_of_isFinite_add (h : (x + y).isFinite = true) :
    x.isFinite = true ∧ y.isFinite = true :=
  isFinite_of_isFinite_addParts (isFinite_of_isFinite_repack h)

theorem isFinite_of_isFinite_sub (h : (x - y).isFinite = true) :
    x.isFinite = true ∧ y.isFinite = true :=
  isFinite_of_isFinite_subParts (isFinite_of_isFinite_repack h)

theorem isFinite_of_isFinite_mul (h : (x * y).isFinite = true) :
    x.isFinite = true ∧ y.isFinite = true :=
  isFinite_of_isFinite_mulParts (isFinite_of_isFinite_repack h)

theorem isNaN_add_eq_false (hx : x.isFinite = true) (hy : y.isNaN = false) :
    (x + y).isNaN = false := by
  rw [isNaN_eq_false_iff] at hy ⊢
  rw [unpack_add, sign?_repack]
  exact isSome_sign?_add hx hy

theorem isNaN_mul_eq_false (hx : IsNonzero x) (hy : y.isNaN = false) :
    (x * y).isNaN = false := by
  obtain ⟨s, m, e, hm, hx⟩ := hx
  rw [isNaN_eq_false_iff] at hy ⊢
  obtain ⟨t, ht⟩ := Option.isSome_iff_exists.mp hy
  rw [unpack_mul, sign?_repack, hx, sign?_mul ht]
  rfl

theorem isNaN_div_eq_false (hx : x.isNaN = false) (hy : IsNonzero y) :
    (x / y).isNaN = false := by
  obtain ⟨s, m, e, hm, hy⟩ := hy
  rw [isNaN_eq_false_iff] at hx ⊢
  obtain ⟨t, ht⟩ := Option.isSome_iff_exists.mp hx
  rw [unpack_div, sign?_repack, hy, sign?_div ht]
  rfl

theorem isNaN_div_eq_false_of_isFinite (hx : x.isFinite = true) (hy : y.isNaN = false)
    (hzero : ∀ s, y.toModel.unpack ≠ .zero s) : (x / y).isNaN = false := by
  rw [isNaN_eq_false_iff] at hy ⊢
  rw [unpack_div, sign?_repack]
  obtain ⟨s, hx⟩ | ⟨s, m, e, hm, hx⟩ := isFinite_iff.mp hx <;> rw [hx] <;> revert hy hzero <;>
    cases y.toModel.unpack <;> simp [UnpackedFloat.div, sign?_roundWithAccuracy]

theorem isFinite_of_isFinite_div (h : (x / y).isFinite = true) : x.isFinite = true := by
  have hparts := isFinite_of_isFinite_repack h
  change x.toModel.unpack.isFinite = true
  revert hparts
  cases x.toModel.unpack <;> cases y.toModel.unpack <;>
    simp [UnpackedFloat.div, UnpackedFloat.isFinite]

theorem isFinite_of_isFinite_neg (h : (-x).isFinite = true) : x.isFinite = true := by
  have hparts : x.toModel.unpack.neg.isFinite = true := isFinite_of_isFinite_repack h
  change x.toModel.unpack.isFinite = true
  revert hparts
  cases x.toModel.unpack <;> exact id

section Infinite

variable {s t : Sign}

theorem not_isFinite_of_infinity (hx : x.toModel.unpack = .infinity s) : ¬ x.isFinite = true := by
  change ¬ x.toModel.unpack.isFinite = true
  rw [hx]
  exact Bool.false_ne_true

theorem unpack_mul_infinity (hx : sign? x.toModel.unpack = some s)
    (hzero : ∀ t, x.toModel.unpack ≠ .zero t) (hy : y.toModel.unpack = .infinity t) :
    (x * y).toModel.unpack = .infinity (s * t) := by
  rw [unpack_mul, hy]
  revert hx hzero
  cases x.toModel.unpack <;> simp +contextual [UnpackedFloat.mul]

theorem unpack_add_infinity (hx : x.isFinite = true) (hy : y.toModel.unpack = .infinity t) :
    (x + y).toModel.unpack = .infinity t := by
  rw [unpack_add, hy]
  obtain ⟨s, hx⟩ | ⟨s, m, e, hm, hx⟩ := isFinite_iff.mp hx
  · rw [hx]
    exact repack_infinity t
  · rw [hx]
    exact repack_infinity t

theorem unpack_infinity_add (hx : x.toModel.unpack = .infinity t) (hy : y.isFinite = true) :
    (x + y).toModel.unpack = .infinity t := by
  rw [unpack_add, hx]
  obtain ⟨s, hy⟩ | ⟨s, m, e, hm, hy⟩ := isFinite_iff.mp hy
  · rw [hy]
    exact repack_infinity t
  · rw [hy]
    exact repack_infinity t

theorem unpack_infinity_sub (hx : x.toModel.unpack = .infinity t) (hy : y.isFinite = true) :
    (x - y).toModel.unpack = .infinity t := by
  rw [unpack_sub, hx]
  obtain ⟨s, hy⟩ | ⟨s, m, e, hm, hy⟩ := isFinite_iff.mp hy
  · rw [hy]
    exact repack_infinity t
  · rw [hy]
    exact repack_infinity t

theorem unpack_add_opposite (hx : x.toModel.unpack = .infinity s)
    (hy : y.toModel.unpack = .infinity (-s)) : (x + y).toModel.unpack = .notANumber := by
  rw [unpack_add, hx, hy]
  cases s <;> exact repack_notANumber

theorem unpack_zero_mul_infinity (hx : x.toModel.unpack = .zero s)
    (hy : y.toModel.unpack = .infinity t) : (x * y).toModel.unpack = .notANumber := by
  rw [unpack_mul, hx, hy]
  exact repack_notANumber

theorem unpack_notANumber_add (hx : x.toModel.unpack = .notANumber) (y : Float) :
    (x + y).toModel.unpack = .notANumber := by
  rw [unpack_add, hx]
  exact repack_notANumber

theorem unpack_infinity_add_notANumber (hx : x.toModel.unpack = .infinity s)
    (hy : y.toModel.unpack = .notANumber) : (x + y).toModel.unpack = .notANumber := by
  rw [unpack_add, hx, hy]
  exact repack_notANumber

theorem unpack_infinity_div (hx : x.toModel.unpack = .infinity t) {m : Nat} {e : Int}
    {hm : 0 < m} (hy : y.toModel.unpack = .finite s m e hm) :
    (x / y).toModel.unpack = .infinity (t / s) := by
  rw [unpack_div, hx, hy]
  exact repack_infinity _

theorem unpack_div_infinity (hx : x.isFinite = true) (hy : y.toModel.unpack = .infinity t) :
    ∃ s, (x / y).toModel.unpack = .zero s := by
  rw [unpack_div, hy]
  obtain ⟨s, hx⟩ | ⟨s, m, e, hm, hx⟩ := isFinite_iff.mp hx
  · rw [hx]
    exact ⟨s / t, repack_zero _⟩
  · rw [hx]
    exact ⟨s / t, repack_zero _⟩

theorem isNaN_div_infinity (hx : x.isFinite = false) (hy : y.toModel.unpack = .infinity t) :
    (x / y).isNaN = true := by
  have hdiv : (x / y).toModel.unpack = .notANumber := by
    change x.toModel.unpack.isFinite = false at hx
    rw [unpack_div, hy]
    revert hx
    cases x.toModel.unpack <;> simp [UnpackedFloat.isFinite, UnpackedFloat.div]
  change (x / y).toModel.unpack.isNaN = true
  rw [hdiv]
  rfl

theorem unpack_sqrt_infinity (hx : x.toModel.unpack = .infinity .positive) :
    x.sqrt.toModel.unpack = .infinity .positive := by
  rw [unpack_sqrt, hx]
  exact repack_infinity _

theorem isFinite_sqrt_eq_false (h : x.isFinite = false) : x.sqrt.isFinite = false := by
  change x.toModel.unpack.isFinite = false at h
  change x.sqrt.toModel.unpack.isFinite = false
  rw [unpack_sqrt]
  revert h
  cases x.toModel.unpack with
  | infinity s => cases s <;> simp [UnpackedFloat.sqrt, UnpackedFloat.isFinite]
  | _ => simp [UnpackedFloat.sqrt, UnpackedFloat.isFinite]

theorem isFinite_sqrt_neg_eq_false (h : x.isFinite = false) : (-x).sqrt.isFinite = false := by
  refine isFinite_sqrt_eq_false (Bool.eq_false_of_not_eq_true fun hneg => ?_)
  rw [isFinite_of_isFinite_neg hneg] at h
  cases h

end Infinite

theorem sign_sqrt (h : sign? x.toModel.unpack = some .positive) :
    sign? x.sqrt.toModel.unpack = some .positive := by
  rw [unpack_sqrt, sign?_repack]
  exact sign?_sqrt h

theorem sign_mul_self (h : x.isNaN = false) :
    sign? (x * x).toModel.unpack = some .positive := by
  rw [isNaN_eq_false_iff] at h
  have hself (s : Sign) : s * s = .positive := by cases s <;> rfl
  rw [unpack_mul, sign?_repack]
  revert h
  cases x.toModel.unpack <;> simp [UnpackedFloat.mul, hself, sign?_roundWithAccuracy]

end Operations

end EquationTutor.Double
