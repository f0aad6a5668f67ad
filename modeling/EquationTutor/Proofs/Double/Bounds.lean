import EquationTutor.Proofs.Double.Magnitude

open Float.Model Float.Model.UnpackedFloat

namespace EquationTutor.Double

section Aligned

variable {s : Sign} {m : Nat} {e k : Int}

theorem canonical_round (hm : m ≠ 0) : Canonical (UnpackedFloat.round .binary64 s m e) := by
  rw [UnpackedFloat.round, targetExponent_eq]
  simp only [decreaseExponent, Nat.shiftLeft_eq]
  refine canonical_roundWithAccuracy ?_
  rw [log2_mul_two_pow hm]
  omega

theorem below_round (hm : m ≠ 0) (h : m.log2 + e + 1 < k) (hk : -1074 < k) :
    Below k (UnpackedFloat.round .binary64 s m e) := by
  rw [UnpackedFloat.round, targetExponent_eq]
  simp only [decreaseExponent, Nat.shiftLeft_eq]
  refine below_roundWithAccuracy ?_ hk
  rw [log2_mul_two_pow hm]
  push_cast
  omega

theorem above_round (hm : m ≠ 0) (h : k ≤ m.log2 + e) (hk : -1074 ≤ k) :
    Above k (UnpackedFloat.round .binary64 s m e) := by
  rw [UnpackedFloat.round, targetExponent_eq]
  simp only [decreaseExponent, Nat.shiftLeft_eq]
  refine above_roundWithAccuracy (Nat.mul_ne_zero hm (Nat.two_pow_pos _).ne') ?_ hk
  rw [log2_mul_two_pow hm]
  push_cast
  omega

variable {n : Int} {z : Sign}

theorem normalize_of_ne_zero (hn : n ≠ 0) :
    ∃ s, UnpackedFloat.normalize .binary64 n e z =
      UnpackedFloat.round .binary64 s n.natAbs e ∧ (s = .positive ↔ 0 < n) := by
  rw [UnpackedFloat.normalize]
  rcases Int.lt_trichotomy n 0 with h | h | h
  · rw [Int.compare_eq_lt.mpr h]
    exact ⟨.negative, by rw [show (-n).toNat = n.natAbs by omega], by simp; omega⟩
  · exact absurd h hn
  · rw [Int.compare_eq_gt.mpr h]
    exact ⟨.positive, by rw [show n.toNat = n.natAbs by omega], by simpa using h⟩

theorem canonical_normalize : Canonical (UnpackedFloat.normalize .binary64 n e z) := by
  by_cases hn : n = 0
  · subst hn
    trivial
  · obtain ⟨s, hs, -⟩ := normalize_of_ne_zero (e := e) (z := z) hn
    rw [hs]
    exact canonical_round (Int.natAbs_ne_zero.mpr hn)

theorem below_normalize (h : n.natAbs.log2 + e + 1 < k) (hk : -1074 < k) :
    Below k (UnpackedFloat.normalize .binary64 n e z) := by
  by_cases hn : n = 0
  · subst hn
    trivial
  · obtain ⟨s, hs, -⟩ := normalize_of_ne_zero (e := e) (z := z) hn
    rw [hs]
    exact below_round (Int.natAbs_ne_zero.mpr hn) h hk

theorem log2_decreaseExponent (hm : m ≠ 0) {lower : Int} (h : lower ≤ e) :
    ((decreaseExponent m e lower).1.log2 : Int) + lower = m.log2 + e := by
  simp only [decreaseExponent, Nat.shiftLeft_eq]
  rw [log2_mul_two_pow hm]
  omega

theorem decreaseExponent_lt (hm : m ≠ 0) {lower : Int} (h : lower ≤ e) (hk : m.log2 + e < k) :
    (decreaseExponent m e lower).1 < 2 ^ (k - lower).toNat := by
  have := log2_decreaseExponent hm h
  refine Nat.lt_log2_self.trans_le (Nat.pow_le_pow_right (by decide) ?_)
  omega

theorem decreaseExponent_ne_zero (hm : m ≠ 0) (lower : Int) :
    (decreaseExponent m e lower).1 ≠ 0 := by
  simp only [decreaseExponent, Nat.shiftLeft_eq]
  exact Nat.mul_ne_zero hm (Nat.two_pow_pos _).ne'

theorem above_normalize (hn : n ≠ 0) (h : k ≤ n.natAbs.log2 + e) (hk : -1074 ≤ k) :
    Above k (UnpackedFloat.normalize .binary64 n e z) := by
  obtain ⟨s, hs, -⟩ := normalize_of_ne_zero (e := e) (z := z) hn
  rw [hs]
  exact above_round (Int.natAbs_ne_zero.mpr hn) h hk

theorem natAbs_apply (s : Sign) (m : Nat) : (s.apply m).natAbs = m := by
  cases s <;> simp [Sign.apply]

theorem natAbs_apply_add (s : Sign) (m n : Nat) :
    (s.apply m + s.apply n).natAbs = m + n := by
  cases s <;> simp only [Sign.apply] <;> omega

end Aligned

section Sums

variable {u v : UnpackedFloat} {s : Sign} {i j k : Int}

section Finite

variable (s t : Sign) {m n : Nat} {e f : Int} (hm : 0 < m) (hn : 0 < n)

theorem add_finite : UnpackedFloat.add .binary64 (.finite s m e hm) (.finite t n f hn) =
    UnpackedFloat.normalize .binary64
      (s.apply (decreaseExponent m e (min e f)).1 + t.apply (decreaseExponent n f (min e f)).1)
      (min e f) .positive :=
  rfl

theorem sub_finite : UnpackedFloat.sub .binary64 (.finite s m e hm) (.finite t n f hn) =
    UnpackedFloat.normalize .binary64
      (s.apply (decreaseExponent m e (min e f)).1 - t.apply (decreaseExponent n f (min e f)).1)
      (min e f) .positive :=
  rfl

end Finite

theorem sign?_neg (u : UnpackedFloat) : sign? u.neg = (sign? u).map (-·) := by
  cases u <;> rfl

theorem sub_eq_add_neg (u v : UnpackedFloat) :
    UnpackedFloat.sub .binary64 u v = UnpackedFloat.add .binary64 u v.neg := by
  have happly (s : Sign) (n : Int) : (-s).apply n = -s.apply n := by
    cases s
    · exact (Int.neg_neg n).symm
    · rfl
  cases u <;> cases v <;>
    simp only [UnpackedFloat.sub, UnpackedFloat.add, UnpackedFloat.neg, happly, Int.sub_eq_add_neg]

theorem canonical_neg (hu : Canonical u) : Canonical u.neg := by
  cases u <;> exact hu

theorem below_neg (hu : Below k u) : Below k u.neg := by
  cases u <;> exact hu

theorem above_neg (hu : Above k u) : Above k u.neg := by
  cases u <;> exact hu

theorem canonical_add (hu : Canonical u) (hv : Canonical v) :
    Canonical (UnpackedFloat.add .binary64 u v) := by
  unfold UnpackedFloat.add
  split <;> first | trivial | assumption | (split <;> trivial) | exact canonical_normalize

theorem below_add (hu : Below i u) (hv : Below i v) (hk : i + 1 < k) (hk' : -1074 < k) :
    Below k (UnpackedFloat.add .binary64 u v) := by
  cases u with
  | notANumber => exact hu.elim
  | infinity s => exact hu.elim
  | zero s =>
      cases v with
      | notANumber => exact hv.elim
      | infinity t => exact hv.elim
      | zero t => cases s <;> cases t <;> trivial
      | finite t n f hn => exact hv.mono (by omega)
  | finite s m e hm =>
      cases v with
      | notANumber => exact hv.elim
      | infinity t => exact hv.elim
      | zero t => exact hu.mono (by omega)
      | finite t n f hn =>
          have hbound : (m.log2 : Int) + e < i := hu
          have hleft := decreaseExponent_lt hm.ne' (min_le_left e f) hu
          have hright := decreaseExponent_lt hn.ne' (min_le_right e f) hv
          have hsum : (s.apply (decreaseExponent m e (min e f)).1 +
              t.apply (decreaseExponent n f (min e f)).1).natAbs <
                2 ^ ((i - min e f).toNat + 1) := by
            have hs := natAbs_apply s (decreaseExponent m e (min e f)).1
            have ht := natAbs_apply t (decreaseExponent n f (min e f)).1
            rw [pow_succ]
            omega
          have hlog := log2_le_of_lt_two_pow hsum
          rw [add_finite]
          exact below_normalize (by omega) hk'

/-- Nothing cancels in a sum of numbers of the same sign. -/
theorem above_add (hu : sign? u = some s ∨ ∃ t, u = .zero t) (hv : sign? v = some s)
    (h : Above k u ∨ Above k v) (hk : -1074 ≤ k) :
    Above k (UnpackedFloat.add .binary64 u v) := by
  cases u with
  | notANumber => simp at hu
  | infinity t =>
      obtain rfl : t = s := by simpa using hu
      cases v with
      | notANumber => simp at hv
      | infinity t' =>
          obtain rfl : t' = t := by simpa using hv
          cases t' <;> trivial
      | zero t' => trivial
      | finite t' n f hn => trivial
  | zero t =>
      have hv' : Above k v := h.resolve_left id
      cases v with
      | notANumber => exact hv'.elim
      | infinity t' => trivial
      | zero t' => exact hv'.elim
      | finite t' n f hn => exact hv'
  | finite t m e hm =>
      obtain rfl : t = s := by simpa using hu
      cases v with
      | notANumber => simp at hv
      | infinity t' => trivial
      | zero t' => exact h.resolve_right id
      | finite t' n f hn =>
          obtain rfl : t' = t := by simpa using hv
          have hleft := log2_decreaseExponent hm.ne' (min_le_left e f)
          have hright := log2_decreaseExponent hn.ne' (min_le_right e f)
          have hm' := decreaseExponent_ne_zero (e := e) hm.ne' (min e f)
          have hn' := decreaseExponent_ne_zero (e := f) hn.ne' (min e f)
          have hsum := natAbs_apply_add t' (decreaseExponent m e (min e f)).1
            (decreaseExponent n f (min e f)).1
          rw [add_finite]
          refine above_normalize (by omega) ?_ hk
          rw [hsum]
          rcases h with h | h
          · have hlog := log2_mono hm' (Nat.le_add_right _ (decreaseExponent n f (min e f)).1)
            have hbound : k ≤ (m.log2 : Int) + e := h
            omega
          · have hlog := log2_mono hn' (Nat.le_add_left _ (decreaseExponent m e (min e f)).1)
            have hbound : k ≤ (n.log2 : Int) + f := h
            omega

theorem above_of_sub (hv : sign? v = some .positive) (hvj : Above j v)
    (hsign : sign? (UnpackedFloat.sub .binary64 u v) = some .positive)
    (hzero : ∀ s, UnpackedFloat.sub .binary64 u v ≠ .zero s) : Above j u := by
  cases v with
  | notANumber => exact hvj.elim
  | infinity t =>
      obtain rfl : t = .positive := by simpa using hv
      cases u with
      | infinity s => trivial
      | _ => cases hsign
  | zero t => exact hvj.elim
  | finite t n f hn =>
      obtain rfl : t = .positive := by simpa using hv
      cases u with
      | notANumber => cases hsign
      | infinity s => trivial
      | zero s => cases hsign
      | finite s m e hm =>
          have hleft := log2_decreaseExponent hm.ne' (min_le_left e f)
          have hright := log2_decreaseExponent hn.ne' (min_le_right e f)
          have hn' := decreaseExponent_ne_zero (e := f) hn.ne' (min e f)
          obtain ⟨d, hd⟩ : ∃ d : Int, d = s.apply (decreaseExponent m e (min e f)).1 -
              Sign.positive.apply (decreaseExponent n f (min e f)).1 := ⟨_, rfl⟩
          rw [sub_finite, ← hd] at hsign
          simp only [sub_finite, ← hd] at hzero
          have hd0 : d ≠ 0 := by
            rintro rfl
            exact hzero _ rfl
          obtain ⟨t, ht, hpos⟩ := normalize_of_ne_zero (e := min e f) (z := .positive) hd0
          have hdpos : 0 < d := by
            rw [ht, UnpackedFloat.round, sign?_roundWithAccuracy] at hsign
            exact hpos.mp (Option.some.inj hsign)
          have hle : (decreaseExponent n f (min e f)).1 ≤ (decreaseExponent m e (min e f)).1 := by
            cases s <;> simp only [Sign.apply] at hd <;> omega
          have hlog := log2_mono hn' hle
          have hbound : j ≤ (n.log2 : Int) + f := hvj
          change j ≤ (m.log2 : Int) + e
          omega

end Sums

section Products

variable {u v : UnpackedFloat} {i j k : Int}

theorem log2_of_canonical {s : Sign} {m : Nat} {e : Int} {hm : 0 < m}
    (h : Canonical (.finite s m e hm)) : e = -1074 ∨ m.log2 = 52 :=
  h.2.2.imp_right fun hle => log2_eq_of_normal hle h.1

theorem canonical_mul (hu : Canonical u) (hv : Canonical v) :
    Canonical (UnpackedFloat.mul .binary64 u v) := by
  cases u with
  | finite s m e hm =>
      cases v with
      | finite t n f hn =>
          refine canonical_roundWithAccuracy ?_
          have hlog := log2_mul_le hm.ne' hn.ne'
          have hm' := log2_of_canonical hu
          have hn' := log2_of_canonical hv
          omega
      | _ => trivial
  | _ => cases v <;> trivial

theorem below_mul (hu : Below i u) (hv : Below j v) (hk : i + j < k) (hk' : -1074 < k) :
    Below k (UnpackedFloat.mul .binary64 u v) := by
  cases u with
  | notANumber => exact hu.elim
  | infinity s => exact hu.elim
  | zero s =>
      cases v with
      | notANumber => exact hv.elim
      | infinity t => exact hv.elim
      | _ => trivial
  | finite s m e hm =>
      cases v with
      | notANumber => exact hv.elim
      | infinity t => exact hv.elim
      | zero t => trivial
      | finite t n f hn =>
          have hlog := log2_mul_le hm.ne' hn.ne'
          have hi : (m.log2 : Int) + e < i := hu
          have hj : (n.log2 : Int) + f < j := hv
          exact below_roundWithAccuracy (by omega) hk'

theorem above_mul (hu : Above i u) (hv : Above j v) (hk : k ≤ i + j) (hk' : -1074 ≤ k) :
    Above k (UnpackedFloat.mul .binary64 u v) := by
  cases u with
  | notANumber => exact hu.elim
  | zero s => exact hu.elim
  | infinity s =>
      cases v with
      | notANumber => exact hv.elim
      | zero t => exact hv.elim
      | _ => trivial
  | finite s m e hm =>
      cases v with
      | notANumber => exact hv.elim
      | zero t => exact hv.elim
      | infinity t => trivial
      | finite t n f hn =>
          have hlog := log2_mul_le hm.ne' hn.ne'
          have hi : i ≤ (m.log2 : Int) + e := hu
          have hj : j ≤ (n.log2 : Int) + f := hv
          exact above_roundWithAccuracy (Nat.mul_ne_zero hm.ne' hn.ne') (by omega) hk'

/-- The dividend is shifted until the quotient has enough bits or would be subnormal. -/
theorem divCore_eq (m n : Nat) (e f : Int) :
    ∃ (target : Int) (shift : Nat),
      target = min (e - f) (max ((m.log2 + e) - (n.log2 + f) - 53) (-1074)) ∧
      (shift : Int) = e - f - target ∧
      divCore .binary64 m e n f =
        (m * 2 ^ shift / n, target, accuracyOfFraction (m * 2 ^ shift % n) n) := by
  have htotal : Format.binary64.targetExponent (totalExponent m e - totalExponent n f) =
      max ((m.log2 + e) - (n.log2 + f) - 53) (-1074) := by
    simp only [Format.targetExponent, totalExponent, Format.mantissaBits, Format.minExponent]
    push_cast
    omega
  refine ⟨_, (e - f - _).toNat, rfl, Int.toNat_of_nonneg (by omega), ?_⟩
  simp only [divCore, htotal, Nat.shiftLeft_eq]

theorem divCore_bounds {m n : Nat} (hm : m ≠ 0) (hn : n ≠ 0) (e f : Int) :
    let q := divCore .binary64 m e n f
    (52 ≤ q.1.log2 ∨ q.2.1 ≤ -1074) ∧
      ((q.1.log2 : Int) + q.2.1 ≤ (m.log2 + e) - (n.log2 + f) ∨ q.2.1 ≤ -1074 ∧ q.1.log2 = 0) := by
  intro q
  obtain ⟨target, shift, htarget, hshift, hq⟩ := divCore_eq m n e f
  simp only [q, hq]
  have hlog := log2_mul_two_pow hm shift
  have hscaled : m * 2 ^ shift ≠ 0 := Nat.mul_ne_zero hm (Nat.two_pow_pos _).ne'
  constructor
  · by_cases hmin : target ≤ -1074
    · exact .inr hmin
    · left
      have hle : 2 ^ 52 ≤ m * 2 ^ shift / n := two_pow_le_div hscaled hn (by omega)
      exact (Nat.le_log2 (by omega)).mpr hle
  · by_cases hsmall : m.log2 + shift < n.log2
    · right
      have hzero : m * 2 ^ shift / n < 2 ^ 0 := div_lt_two_pow hn (by omega)
      rw [Nat.lt_one_iff.mp hzero]
      exact ⟨by omega, Nat.log2_zero⟩
    · left
      have hle := log2_le_of_lt_two_pow (k := m.log2 + shift - n.log2)
        (div_lt_two_pow (m := m * 2 ^ shift) hn (by omega))
      omega

theorem div_finite (s t : Sign) {m n : Nat} {e f : Int} (hm : 0 < m) (hn : 0 < n) :
    let q := divCore .binary64 m e n f
    UnpackedFloat.div .binary64 (.finite s m e hm) (.finite t n f hn) =
      roundWithAccuracy .binary64 (s / t) q.1 q.2.1 q.2.2 :=
  rfl

theorem canonical_div (hu : Canonical u) (hv : Canonical v) :
    Canonical (UnpackedFloat.div .binary64 u v) := by
  cases u with
  | finite s m e hm =>
      cases v with
      | finite t n f hn =>
          exact canonical_roundWithAccuracy (divCore_bounds hm.ne' hn.ne' e f).1
      | _ => trivial
  | _ => cases v <;> trivial

theorem below_div (hu : Below i u) (hv : Above j v) (hk : i - j < k) (hk' : -1073 < k) :
    Below k (UnpackedFloat.div .binary64 u v) := by
  cases u with
  | notANumber => exact hu.elim
  | infinity s => exact hu.elim
  | zero s =>
      cases v with
      | notANumber => exact hv.elim
      | zero t => exact hv.elim
      | _ => trivial
  | finite s m e hm =>
      cases v with
      | notANumber => exact hv.elim
      | infinity t => trivial
      | zero t => exact hv.elim
      | finite t n f hn =>
          have hi : (m.log2 : Int) + e < i := hu
          have hj : j ≤ (n.log2 : Int) + f := hv
          obtain ⟨-, hquotient⟩ := divCore_bounds hm.ne' hn.ne' e f
          rw [div_finite]
          exact below_roundWithAccuracy (by omega) (by omega)

theorem sqrtCore_eq (m : Nat) (e : Int) :
    ∃ (target : Int) (shift : Nat),
      target = min (e / 2) (max ((m.log2 + e + 2) / 2 - 53) (-1074)) ∧
      (shift : Int) = e - 2 * target ∧
      (sqrtCore .binary64 m e).1 = Nat.sqrt (m * 2 ^ shift) ∧
      (sqrtCore .binary64 m e).2.1 = target := by
  have hhalf : (totalExponent m e + 1).ediv 2 = (m.log2 + e + 2) / 2 := by
    rw [totalExponent]
    change ((m.log2 : Int) + 1 + e + 1) / 2 = _
    omega
  have htotal : Format.binary64.targetExponent ((totalExponent m e + 1).ediv 2) =
      max ((m.log2 + e + 2) / 2 - 53) (-1074) := by
    simp only [Format.targetExponent, hhalf, Format.mantissaBits, Format.minExponent]
    push_cast
    omega
  refine ⟨_, (e - 2 * _).toNat, rfl, Int.toNat_of_nonneg (by omega), ?_, ?_⟩
  · simp only [sqrtCore, htotal, Nat.shiftLeft_eq]
    rfl
  · simp only [sqrtCore, htotal]
    rfl

theorem sqrtCore_bounds {m : Nat} (hm : m ≠ 0) (e : Int) :
    let r := sqrtCore .binary64 m e
    r.1 ≠ 0 ∧ (52 ≤ r.1.log2 ∨ r.2.1 ≤ -1074) ∧ (r.1.log2 : Int) + r.2.1 = (m.log2 + e) / 2 := by
  intro r
  obtain ⟨target, shift, htarget, hshift, hr₁, hr₂⟩ := sqrtCore_eq m e
  have hscaled : m * 2 ^ shift ≠ 0 := Nat.mul_ne_zero hm (Nat.two_pow_pos _).ne'
  have hpos := Nat.sqrt_pos.mpr (Nat.pos_of_ne_zero hscaled)
  have hlog := log2_mul_two_pow hm shift
  rw [hr₁, hr₂, log2_sqrt hscaled]
  omega

theorem sqrt_finite {m : Nat} {e : Int} (hm : 0 < m) :
    let r := sqrtCore .binary64 m e
    UnpackedFloat.sqrt .binary64 (.finite .positive m e hm) =
      roundWithAccuracy .binary64 .positive r.1 r.2.1 r.2.2 :=
  rfl

theorem canonical_sqrt (u : UnpackedFloat) : Canonical (UnpackedFloat.sqrt .binary64 u) := by
  cases u with
  | finite s m e hm =>
      cases s with
      | negative => trivial
      | positive => exact canonical_roundWithAccuracy (sqrtCore_bounds hm.ne' e).2.1
  | infinity s => cases s <;> trivial
  | _ => trivial

theorem below_sqrt (hsign : sign? u = some .positive) (hu : Below i u) (hk : i + 2 ≤ 2 * k)
    (hk' : -1074 < k) : Below k (UnpackedFloat.sqrt .binary64 u) := by
  cases u with
  | notANumber => exact hu.elim
  | infinity s => exact hu.elim
  | zero s => trivial
  | finite s m e hm =>
      obtain rfl : s = .positive := by simpa using hsign
      have hi : (m.log2 : Int) + e < i := hu
      obtain ⟨-, -, hroot⟩ := sqrtCore_bounds hm.ne' e
      rw [sqrt_finite]
      exact below_roundWithAccuracy (by omega) hk'

theorem above_sqrt (hsign : sign? u = some .positive) (hu : Above i u) (hk : 2 * k ≤ i)
    (hk' : -1074 ≤ k) : Above k (UnpackedFloat.sqrt .binary64 u) := by
  cases u with
  | notANumber => exact hu.elim
  | zero s => exact hu.elim
  | infinity s =>
      obtain rfl : s = .positive := by simpa using hsign
      trivial
  | finite s m e hm =>
      obtain rfl : s = .positive := by simpa using hsign
      have hi : i ≤ (m.log2 : Int) + e := hu
      obtain ⟨hne, -, hroot⟩ := sqrtCore_bounds hm.ne' e
      rw [sqrt_finite]
      exact above_roundWithAccuracy hne (by omega) hk'

end Products

section Doubles

variable {x y : Float} {i j k : Int}

/-- The magnitude of the double is less than `2 ^ k`. -/
def IsBelow (k : Int) (x : Float) : Prop :=
  Below k x.toModel.unpack

/-- The double is infinite, or its magnitude is at least `2 ^ k`. -/
def IsAbove (k : Int) (x : Float) : Prop :=
  Above k x.toModel.unpack

theorem isFinite_iff_isBelow : x.isFinite = true ↔ IsBelow 1024 x :=
  ⟨below_of_isFinite, isFinite_of_below⟩

theorem IsBelow.isFinite (h : IsBelow k x) : x.isFinite = true :=
  isFinite_of_below h

theorem IsAbove.isNonzero (h : IsAbove k x) (hx : x.isFinite = true) : IsNonzero x := by
  obtain ⟨s, hzero⟩ | hnonzero := isFinite_iff.mp hx
  · rw [IsAbove, hzero] at h
    exact h.elim
  · exact hnonzero

theorem isBelow_or_isAbove (hx : x.isFinite = true) (k : Int) : IsBelow k x ∨ IsAbove k x := by
  unfold IsBelow IsAbove
  obtain ⟨s, hx⟩ | ⟨s, m, e, hm, hx⟩ := isFinite_iff.mp hx
  · rw [hx]
    exact .inl trivial
  · rw [hx]
    exact lt_or_ge ((m.log2 : Int) + e) k

theorem IsBelow.neg (hx : IsBelow k x) (hk : k ≤ 1024) : IsBelow k (-x) :=
  below_repack (canonical_neg (canonical_unpack x)) (below_neg hx) hk

theorem isFinite_neg_iff : (-x).isFinite = true ↔ x.isFinite = true :=
  ⟨isFinite_of_isFinite_neg, fun h => (IsBelow.neg (below_of_isFinite h) le_rfl).isFinite⟩

theorem IsAbove.neg (hx : IsAbove k x) : IsAbove k (-x) :=
  above_repack (canonical_neg (canonical_unpack x)) (above_neg hx)

theorem IsAbove.abs (hx : IsAbove k x) : IsAbove k x.abs := by
  have hcanonical : Canonical x.toModel.unpack.abs := by
    have := canonical_unpack x
    revert this
    cases x.toModel.unpack <;> exact id
  refine above_repack hcanonical ?_
  unfold IsAbove at hx
  revert hx
  cases x.toModel.unpack <;> exact id

theorem IsBelow.add (hx : IsBelow i x) (hy : IsBelow i y) (hk : i + 1 < k) (hk' : -1074 < k)
    (hmax : k ≤ 1024) : IsBelow k (x + y) :=
  below_repack (canonical_add (canonical_unpack x) (canonical_unpack y))
    (below_add hx hy hk hk') hmax

theorem IsBelow.sub (hx : IsBelow i x) (hy : IsBelow i y) (hk : i + 1 < k) (hk' : -1074 < k)
    (hmax : k ≤ 1024) : IsBelow k (x - y) := by
  unfold IsBelow
  rw [unpack_sub, sub_eq_add_neg]
  exact below_repack (canonical_add (canonical_unpack x) (canonical_neg (canonical_unpack y)))
    (below_add hx (below_neg hy) hk hk') hmax

theorem IsBelow.mul (hx : IsBelow i x) (hy : IsBelow j y) (hk : i + j < k) (hk' : -1074 < k)
    (hmax : k ≤ 1024) : IsBelow k (x * y) :=
  below_repack (canonical_mul (canonical_unpack x) (canonical_unpack y))
    (below_mul hx hy hk hk') hmax

theorem IsBelow.div (hx : IsBelow i x) (hy : IsAbove j y) (hk : i - j < k) (hk' : -1073 < k)
    (hmax : k ≤ 1024) : IsBelow k (x / y) :=
  below_repack (canonical_div (canonical_unpack x) (canonical_unpack y))
    (below_div hx hy hk hk') hmax

theorem IsBelow.sqrt (hsign : sign? x.toModel.unpack = some .positive) (hx : IsBelow i x)
    (hk : i + 2 ≤ 2 * k) (hk' : -1074 < k) (hmax : k ≤ 1024) : IsBelow k x.sqrt :=
  below_repack (canonical_sqrt _) (below_sqrt hsign hx hk hk') hmax

theorem IsAbove.mul (hx : IsAbove i x) (hy : IsAbove j y) (hk : k ≤ i + j) (hk' : -1074 ≤ k) :
    IsAbove k (x * y) :=
  above_repack (canonical_mul (canonical_unpack x) (canonical_unpack y))
    (above_mul hx hy hk hk')

theorem IsAbove.sqrt (hsign : sign? x.toModel.unpack = some .positive) (hx : IsAbove i x)
    (hk : 2 * k ≤ i) (hk' : -1074 ≤ k) : IsAbove k x.sqrt :=
  above_repack (canonical_sqrt _) (above_sqrt hsign hx hk hk')

theorem IsAbove.add {s : Sign}
    (hx : sign? x.toModel.unpack = some s ∨ ∃ t, x.toModel.unpack = .zero t)
    (hy : sign? y.toModel.unpack = some s) (h : IsAbove k x ∨ IsAbove k y) (hk : -1074 ≤ k) :
    IsAbove k (x + y) :=
  above_repack (canonical_add (canonical_unpack x) (canonical_unpack y)) (above_add hx hy h hk)

theorem IsAbove.sub {s : Sign} (hx : sign? x.toModel.unpack = some s)
    (hy : sign? y.toModel.unpack = some (-s)) (h : IsAbove k x ∨ IsAbove k y)
    (hk : -1074 ≤ k) : IsAbove k (x - y) := by
  have hneg : sign? y.toModel.unpack.neg = some s := by
    rw [sign?_neg, hy]
    cases s <;> rfl
  unfold IsAbove
  rw [unpack_sub, sub_eq_add_neg]
  exact above_repack (canonical_add (canonical_unpack x) (canonical_neg (canonical_unpack y)))
    (above_add (.inl hx) hneg (h.imp_right above_neg) hk)

theorem IsAbove.of_sub (hy : sign? y.toModel.unpack = some .positive) (hyj : IsAbove j y)
    (hsign : sign? (x - y).toModel.unpack = some .positive) (h : IsAbove i (x - y)) :
    IsAbove j x := by
  unfold IsAbove at h
  rw [unpack_sub] at hsign h
  rw [sign?_repack] at hsign
  refine above_of_sub hy hyj hsign fun s hs => ?_
  rw [hs, repack_zero] at h
  exact h

theorem IsAbove.not_isBelow (hx : IsAbove i x) (hk : k ≤ i) : ¬ IsBelow k x := by
  unfold IsBelow
  unfold IsAbove at hx
  revert hx
  cases x.toModel.unpack with
  | finite s m e hm => exact fun hle hlt => (hk.trans hle).not_gt hlt
  | infinity s => exact fun _ => id
  | zero s => exact False.elim
  | notANumber => exact False.elim

theorem magnitude_of_unpack {s : Sign} {e : Int}
    (h : x.toModel.unpack = .finite s (2 ^ 52) e (Nat.two_pow_pos 52)) (hi : i = 52 + e)
    (hj : j = 53 + e) : IsAbove i x ∧ IsBelow j x := by
  have hlog : (2 ^ 52 : Nat).log2 = 52 := Nat.log2_two_pow
  rw [IsAbove, IsBelow, h]
  constructor
  · change i ≤ ((2 ^ 52 : Nat).log2 : Int) + e
    omega
  · change ((2 ^ 52 : Nat).log2 : Int) + e < j
    omega

end Doubles

end EquationTutor.Double
