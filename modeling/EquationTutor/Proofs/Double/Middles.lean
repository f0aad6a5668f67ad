import EquationTutor.Proofs.Double.Rationals

open Float.Model

namespace EquationTutor.Double

section Units

def leastUnit : ℚ :=
  2 ^ (-1074 : ℤ)

variable {q : ℚ} {i j : ℤ}

theorem leastUnit_pos : 0 < leastUnit :=
  zpow_pos two_pos _

/-- Everything representable consists of the least units. -/
theorem Representable.exists_units (h : Representable q) : ∃ n : ℤ, q = n * leastUnit := by
  obtain ⟨k, f, -, hf, rfl⟩ := h
  exact ⟨_, mul_zpow_eq k hf⟩

theorem representable_units (hi : |i| ≤ 2 ^ 53) : Representable (i * leastUnit) :=
  representable_of_abs_le hi le_rfl

theorem units_le_units : (i : ℚ) * leastUnit ≤ j * leastUnit ↔ i ≤ j := by
  rw [mul_le_mul_iff_left₀ leastUnit_pos, Int.cast_le]

theorem units_lt_units : (i : ℚ) * leastUnit < j * leastUnit ↔ i < j := by
  rw [mul_lt_mul_iff_left₀ leastUnit_pos, Int.cast_lt]

theorem Representable.half_or_odd (h : Representable q) : Representable (q / 2) ∨
    ∃ k : ℤ, |2 * k + 1| < 2 ^ 53 ∧ q = (2 * k + 1 : ℤ) * leastUnit := by
  obtain ⟨k, f, hk, hf, rfl⟩ := h
  rcases hf.lt_or_eq with hlt | heq
  · refine .inl ⟨k, f - 1, hk, by omega, ?_⟩
    rw [zpow_sub_one₀ two_ne_zero]
    ring
  · obtain ⟨j, rfl | rfl⟩ : ∃ j, k = 2 * j ∨ k = 2 * j + 1 := ⟨k / 2, by omega⟩
    · refine .inl ⟨j, f, ?_, hf, ?_⟩
      · rw [abs_mul, abs_two] at hk
        linarith [abs_nonneg j]
      · push_cast
        ring
    · exact .inr ⟨j, hk, by rw [leastUnit, heq]⟩

end Units

section Middle

variable {a b s m x : ℚ}

/-- Only sums of more than 53 bits are rounded, and no half is lost of them then. -/
theorem half_representable (hs : IsRounding s (a + b)) (ha : Representable a)
    (hb : Representable b) (hsum : ¬ Representable (a + b)) : Representable (s / 2) := by
  refine hs.representable.half_or_odd.resolve_right ?_
  rintro ⟨k, hk, rfl⟩
  obtain ⟨i, rfl⟩ := ha.exists_units
  obtain ⟨j, rfl⟩ := hb.exists_units
  rw [← add_mul, ← Int.cast_add] at hs hsum
  rw [abs_lt] at hk
  have hlong : (2 ^ 53 : ℤ) < |i + j| := by
    by_contra hshort
    exact hsum (representable_units (not_lt.mp hshort))
  rcases lt_abs.mp hlong with hlong | hlong
  · have hpower : Representable ((2 ^ 53 : ℤ) * leastUnit) := representable_units (by decide)
    have := units_le_units.mp (hs.le_of_le hpower (units_le_units.mpr hlong.le))
    omega
  · have hpower : Representable ((-2 ^ 53 : ℤ) * leastUnit) := representable_units (by decide)
    have := units_le_units.mp (hs.ge_of_ge hpower (units_le_units.mpr (by omega)))
    omega

section Bounds

variable (hs : IsRounding s (a + b)) (hm : IsRounding m (s / 2))
include hs hm

theorem le_middle (ha : Representable a) (hab : a ≤ b) : a ≤ m := by
  have hsum : 2 * a ≤ s := hs.le_of_le ha.two_mul (by linarith)
  exact hm.le_of_le ha (by linarith)

theorem middle_le (hb : Representable b) (hab : a ≤ b) : m ≤ b := by
  have hsum : s ≤ 2 * b := hs.ge_of_ge hb.two_mul (by linarith)
  exact hm.ge_of_ge hb (by linarith)

variable (ha : Representable a) (hb : Representable b)
include ha hb

theorem lt_middle (hx : Representable x) (hax : a < x) (hxb : x < b) : a < m := by
  have hdistance : |2 * x - (a + b)| < b - a := by
    rw [abs_lt]
    constructor <;> linarith
  have hlower : 2 * a < s := by
    have := (abs_lt.mp ((hs.le _ hx.two_mul).trans_lt hdistance)).1
    linarith
  by_cases hhalf : Representable (s / 2)
  · rw [hm.eq_of_representable hhalf]
    linarith
  · have hsum : Representable (a + b) := by
      by_contra hsum
      exact hhalf (half_representable hs ha hb hsum)
    obtain rfl := hs.eq_of_representable hsum
    obtain ⟨k, hk, hodd⟩ := hsum.half_or_odd.resolve_left hhalf
    -- the unit below the middle is above the lower number already
    obtain ⟨i, rfl⟩ := ha.exists_units
    obtain ⟨j, rfl⟩ := hb.exists_units
    obtain ⟨l, rfl⟩ := hx.exists_units
    rw [units_lt_units] at hax hxb
    have hcount : i + j = 2 * k + 1 := by
      rw [← add_mul] at hodd
      exact_mod_cast mul_right_cancel₀ leastUnit_pos.ne' hodd
    have hbelow : Representable (k * leastUnit) := by
      rw [abs_lt] at hk
      exact representable_units (by rw [abs_le]; omega)
    calc
      (i : ℚ) * leastUnit < k * leastUnit := units_lt_units.mpr (by omega)
      _ ≤ m := hm.le_of_le hbelow (by rw [hodd]; push_cast; linarith [leastUnit_pos])

theorem middle_lt (hx : Representable x) (hax : a < x) (hxb : x < b) : m < b := by
  have hs' : IsRounding (-s) (-b + -a) := by
    rw [← neg_add, add_comm]
    exact hs.neg
  have hm' : IsRounding (-m) (-s / 2) := by
    rw [neg_div]
    exact hm.neg
  exact neg_lt_neg_iff.mp (lt_middle hs' hm' hb.neg ha.neg hx.neg (neg_lt_neg hxb)
    (neg_lt_neg hax))

end Bounds

end Middle

section Neighbours

variable {a b c s m : ℚ}

/-- Nothing representable lies between the two. -/
def Neighbours (a b : ℚ) : Prop :=
  a < b ∧ ∀ x, Representable x → ¬ (a < x ∧ x < b)

theorem representable_add_of_neighbours {k : ℤ} (h : Neighbours (k * leastUnit) c ∨
    Neighbours c (k * leastUnit)) (hk : |k| < 2 ^ 52) (hc : Representable c) :
    Representable (k * leastUnit + c) := by
  obtain ⟨l, rfl⟩ := hc.exists_units
  rw [abs_lt] at hk
  have hnear : l = k + 1 ∨ l = k - 1 := by
    rcases h with ⟨hlt, hnone⟩ | ⟨hlt, hnone⟩
    · rw [units_lt_units] at hlt
      have := hnone _ (representable_units (i := k + 1) (by rw [abs_le]; omega))
      rw [units_lt_units, units_lt_units] at this
      omega
    · rw [units_lt_units] at hlt
      have := hnone _ (representable_units (i := k - 1) (by rw [abs_le]; omega))
      rw [units_lt_units, units_lt_units] at this
      omega
  rw [← add_mul, ← Int.cast_add]
  exact representable_units (by rw [abs_le]; omega)

theorem middle_eq_or_eq (hs : IsRounding s (a + b)) (hm : IsRounding m (s / 2))
    (hab : Neighbours a b) (ha : Representable a) (hb : Representable b) : m = a ∨ m = b := by
  obtain ⟨hlt, hnone⟩ := hab
  rcases (le_middle hs hm ha hlt.le).eq_or_lt with rfl | ham
  · exact .inl rfl
  · rcases (middle_le hs hm hb hlt.le).eq_or_lt with rfl | hmb
    · exact .inr rfl
    · exact absurd ⟨ham, hmb⟩ (hnone m hm.representable)

theorem isEven_middle (hs : IsRounding s (a + b)) (hm : IsRounding m (s / 2))
    (hab : Neighbours a b) (ha : Representable a) (hb : Representable b) : IsEven m := by
  obtain ⟨c, hc, hne, hsum, hneighbours⟩ : ∃ c, Representable c ∧ c ≠ m ∧ a + b = m + c ∧
      (Neighbours m c ∨ Neighbours c m) := by
    rcases middle_eq_or_eq hs hm hab ha hb with rfl | rfl
    · exact ⟨b, hb, hab.1.ne', rfl, .inl hab⟩
    · exact ⟨a, ha, hab.1.ne, add_comm _ _, .inr hab⟩
  rw [hsum] at hs
  by_cases hexact : Representable (m + c)
  · obtain rfl := hs.eq_of_representable hexact
    refine hm.isEven c hc hne ?_
    rw [← abs_neg]
    congr 1
    ring
  · have hhalf : Representable (s / 2) := half_representable hs hm.representable hc hexact
    have hdouble : s = 2 * m := by linarith [hm.eq_of_representable hhalf]
    have heven : IsEven s := by
      refine hs.isEven (2 * c) hc.two_mul ?_ ?_
      · rw [hdouble]
        exact fun h => hne (mul_left_cancel₀ two_ne_zero h)
      · rw [hdouble, ← abs_neg]
        congr 1
        ring
    obtain ⟨k, f, hk, hf, hvalue⟩ := heven
    have hmk : m = k * 2 ^ (f - 1) := by
      rw [zpow_sub_one₀ two_ne_zero]
      linarith
    rcases hf.lt_or_eq with hlt | heq
    · exact ⟨k, f - 1, hk, by omega, hmk⟩
    · have hunits : m = k * leastUnit := by
        rw [hmk, ← heq]
        rfl
      rw [hunits] at hneighbours hexact
      exact absurd (representable_add_of_neighbours hneighbours hk hc) hexact

/-- A bit behind the last one of an even number is representable. -/
theorem IsEven.exists_steps (h : IsEven a) : ∃ k f : ℤ, a = k * 2 ^ f ∧
    Representable (a + 2 ^ (f - 1)) ∧ Representable (a - 2 ^ (f - 1)) := by
  obtain ⟨k, f, hk, hf, rfl⟩ := h
  rw [abs_lt] at hk
  have hsplit : (k : ℚ) * 2 ^ f = 2 * k * 2 ^ (f - 1) := by
    rw [zpow_sub_one₀ two_ne_zero]
    ring
  refine ⟨k, f, rfl, ⟨2 * k + 1, f - 1, ?_, by omega, ?_⟩, ⟨2 * k - 1, f - 1, ?_, by omega, ?_⟩⟩
  · rw [abs_lt]
    omega
  · rw [hsplit]
    push_cast
    ring
  · rw [abs_lt]
    omega
  · rw [hsplit]
    push_cast
    ring

theorem two_zpow_le_sub {k l f g : ℤ} (hfg : f ≤ g) (h : (k : ℚ) * 2 ^ f < l * 2 ^ g) :
    (2 : ℚ) ^ f ≤ l * 2 ^ g - k * 2 ^ f := by
  rw [mul_zpow_eq l hfg] at h ⊢
  have hlt := lt_of_mul_lt_mul_right h (zpow_pos two_pos f).le
  have hone : (k : ℚ) + 1 ≤ (l * 2 ^ (g - f).toNat : ℤ) := by exact_mod_cast hlt
  nlinarith [zpow_pos (two_pos : (0 : ℚ) < 2) f]

theorem Neighbours.not_isEven (h : Neighbours a b) (ha : IsEven a) (hb : IsEven b) : False := by
  obtain ⟨hlt, hnone⟩ := h
  obtain ⟨k, f, hak, hup, -⟩ := ha.exists_steps
  obtain ⟨l, g, hbl, -, hdown⟩ := hb.exists_steps
  have hhalf (e : ℤ) : (0 : ℚ) < 2 ^ (e - 1) ∧ (2 : ℚ) ^ (e - 1) < 2 ^ e :=
    ⟨by positivity, zpow_lt_zpow_right₀ one_lt_two (by omega)⟩
  have hleft : b - a ≤ 2 ^ (f - 1) := by
    by_contra hlarge
    exact hnone _ hup ⟨by linarith [hhalf f], by linarith⟩
  have hright : b - a ≤ 2 ^ (g - 1) := by
    by_contra hlarge
    exact hnone _ hdown ⟨by linarith, by linarith [hhalf g]⟩
  rw [hak, hbl] at hlt hleft hright
  rcases le_total f g with hfg | hgf
  · linarith [two_zpow_le_sub hfg hlt, hhalf f]
  · have hmirror : ((-l : ℤ) : ℚ) * 2 ^ g < ((-k : ℤ) : ℚ) * 2 ^ f := by
      push_cast
      linarith
    have hdistance := two_zpow_le_sub hgf hmirror
    push_cast at hdistance
    linarith [hhalf g]

/-- The middle of two neighbours is rounded to the even one. -/
theorem middle_eq_iff_isEven (hs : IsRounding s (a + b)) (hm : IsRounding m (s / 2))
    (hab : Neighbours a b) (ha : Representable a) (hb : Representable b) :
    (m = a ↔ IsEven a) ∧ (m = b ↔ IsEven b) := by
  have heven := isEven_middle hs hm hab ha hb
  rcases middle_eq_or_eq hs hm hab ha hb with rfl | rfl
  · exact ⟨iff_of_true rfl heven, iff_of_false hab.1.ne (hab.not_isEven heven)⟩
  · exact ⟨iff_of_false hab.1.ne' fun h => hab.not_isEven h heven, iff_of_true rfl heven⟩

end Neighbours

section Step

variable {b q r : ℚ}

theorem exists_multiple {k f : ℤ} {i j : ℕ} (hk : |k| < 2 ^ i)
    (h : 2 ^ (i + j) ≤ |(k : ℚ) * 2 ^ f|) : ∃ n : ℤ, (k : ℚ) * 2 ^ f = n * 2 ^ (j + 1) := by
  have hexponent : (j : ℤ) < f := by
    have hkq : |(k : ℚ)| < 2 ^ i := by exact_mod_cast hk
    have hunit : (0 : ℚ) < 2 ^ f := zpow_pos two_pos f
    rw [abs_mul, abs_of_pos hunit, pow_add] at h
    have hlt : (2 : ℚ) ^ i * 2 ^ (j : ℤ) < 2 ^ i * 2 ^ f := by
      rw [zpow_natCast]
      exact h.trans_lt (mul_lt_mul_of_pos_right hkq hunit)
    exact (zpow_lt_zpow_iff_right₀ one_lt_two).mp (lt_of_mul_lt_mul_left hlt (by positivity))
  have hpower : (2 : ℚ) ^ (j + 1 : ℤ) = 2 ^ (j + 1) := by
    exact_mod_cast zpow_natCast (2 : ℚ) (j + 1)
  exact ⟨_, (mul_zpow_eq k (Int.add_one_le_iff.mpr hexponent)).trans (by rw [hpower])⟩

theorem Representable.exists_two_mul (h : Representable q) (hq : 2 ^ 53 ≤ |q|) :
    ∃ n : ℤ, q = n * 2 := by
  obtain ⟨k, f, hk, -, rfl⟩ := h
  simpa using exists_multiple (j := 0) hk hq

theorem Representable.exists_four_mul (h : Representable q) (hq : 2 ^ 54 ≤ |q|) :
    ∃ n : ℤ, q = n * 4 := by
  obtain ⟨k, f, hk, -, rfl⟩ := h
  obtain ⟨n, hn⟩ := exists_multiple (j := 1) hk hq
  exact ⟨n, by rw [hn]; norm_num⟩

theorem IsEven.exists_four_mul (h : IsEven q) (hq : 2 ^ 53 ≤ |q|) : ∃ n : ℤ, q = n * 4 := by
  obtain ⟨k, f, hk, -, rfl⟩ := h
  obtain ⟨n, hn⟩ := exists_multiple (j := 1) hk hq
  exact ⟨n, by rw [hn]; norm_num⟩

/-- A step of 1 down from the number is not lost. -/
def StepsDown (q : ℚ) : Prop :=
  -2 ^ 53 < q ∧ q ≤ 2 ^ 53 ∨ |q| < 2 ^ 54 ∧ ¬ IsEven q

theorem le_abs_of_long (h : ¬ (-2 ^ 53 < q ∧ q ≤ 2 ^ 53)) : 2 ^ 53 ≤ |q| := by
  by_contra hlt
  rw [not_le, abs_lt] at hlt
  exact h ⟨hlt.1, hlt.2.le⟩

/-- Below `2 ^ 54` the numbers are not farther apart than 2. -/
theorem Representable.sub_two (h : Representable q) (hlong : 2 ^ 53 ≤ |q|) (hq : |q| < 2 ^ 54) :
    Representable (q - 2) := by
  obtain ⟨n, rfl⟩ := h.exists_two_mul hlong
  have hlength : |n - 1| ≤ 2 ^ 53 := by
    rw [abs_mul, abs_two] at hq
    have hn : |(n : ℚ)| < 2 ^ 53 := by linarith
    have hn' : |n| < 2 ^ 53 := by exact_mod_cast hn
    rw [abs_lt] at hn'
    rw [abs_le]
    omega
  have hbelow := representable_of_abs_le hlength (f := 1) (by decide)
  push_cast at hbelow
  rwa [sub_mul, one_mul] at hbelow

theorem lt_of_stepsDown (hb : Representable b) (hr : IsRounding r (b - 1)) (h : StepsDown b) :
    r < b := by
  refine lt_of_le_of_ne (hr.ge_of_ge hb (by linarith)) ?_
  rintro rfl
  have hone : |r - (r - 1)| = 1 := by rw [sub_sub_cancel, abs_one]
  by_cases hshort : -2 ^ 53 < r ∧ r ≤ 2 ^ 53
  · -- the next integer below is nearer
    have hceil := Int.ceil_lt_add_one r
    have hge := Int.le_ceil r
    have hlower : (-2 ^ 53 : ℤ) < ⌈r⌉ := by
      have : (-2 ^ 53 : ℚ) < ⌈r⌉ := hshort.1.trans_le hge
      exact_mod_cast this
    have hupper : ⌈r⌉ ≤ (2 ^ 53 : ℤ) := Int.ceil_le.mpr (by exact_mod_cast hshort.2)
    have hle := hr.le (⌈r⌉ - 1 : ℤ) (representable_intCast (by rw [abs_le]; omega))
    rw [hone, Int.cast_sub, Int.cast_one, abs_of_nonneg (by linarith)] at hle
    linarith
  · -- the next number below is as near, and an odd number gives way to it
    obtain ⟨hsmall, hodd⟩ := h.resolve_left hshort
    have hbelow := hb.sub_two (le_abs_of_long hshort) hsmall
    refine hodd (hr.isEven (r - 2) hbelow (by linarith) ?_)
    rw [hone, sub_sub_sub_cancel_left]
    norm_num

theorem stepsDown_of_lt (hb : Representable b) (hr : IsRounding r (b - 1)) (h : r < b) :
    StepsDown b := by
  by_contra hlost
  rw [StepsDown, not_or, not_and, not_and, not_not] at hlost
  obtain ⟨hlong, hround⟩ := hlost
  have hdistance : |r - (b - 1)| ≤ 1 := by
    have hle := hr.le b hb
    rwa [sub_sub_cancel, abs_one] at hle
  have hlower : b - 2 ≤ r := by linarith [(abs_le.mp hdistance).1]
  obtain ⟨n, hn⟩ : ∃ n : ℤ, b = n * 4 := by
    rcases lt_or_ge |b| (2 ^ 54) with hsmall | hlarge
    · exact (hround hsmall).exists_four_mul (le_abs_of_long fun h => hlong h.1 h.2)
    · exact hb.exists_four_mul hlarge
  have hlongr : 2 ^ 53 ≤ |r| := by
    rcases lt_or_ge (-2 ^ 53) b with hpos | hneg
    · have hgt : (2 ^ 53 : ℤ) < n * 4 := by
        have := not_le.mp (hlong hpos)
        rw [hn] at this
        exact_mod_cast this
      have hge : (2 ^ 53 : ℚ) + 4 ≤ n * 4 := by
        exact_mod_cast (by omega : (2 ^ 53 : ℤ) + 4 ≤ n * 4)
      exact le_abs.mpr (.inl (by linarith))
    · exact le_abs.mpr (.inr (by linarith))
  have hfar : r = b - 2 := by
    obtain ⟨l, hl⟩ := hr.representable.exists_two_mul hlongr
    rw [hn, hl] at hlower h
    have hle : n * 4 - 2 ≤ l * 2 := by exact_mod_cast hlower
    have hlt : l * 2 < n * 4 := by exact_mod_cast h
    rw [hn, hl]
    exact_mod_cast (by omega : l * 2 = n * 4 - 2)
  have heven : IsEven r := by
    refine hr.isEven b hb h.ne' ?_
    rw [hfar, sub_sub_sub_cancel_left, sub_sub_cancel]
    norm_num
  obtain ⟨l, hl⟩ := heven.exists_four_mul hlongr
  rw [hn, hl] at hfar
  have : l * 4 = n * 4 - 2 := by exact_mod_cast hfar
  omega

/-- A step down is lost from the great numbers, unless these are near and odd. -/
theorem lt_iff_stepsDown (hb : Representable b) (hr : IsRounding r (b - 1)) :
    r < b ↔ StepsDown b :=
  ⟨stepsDown_of_lt hb hr, lt_of_stepsDown hb hr⟩

end Step

section Doubles

variable {a b : Float}

theorem unpack_two :
    (2 : Float).toModel.unpack = .finite .positive (2 ^ 52) (-51) (Nat.two_pow_pos 52) :=
  rfl

theorem rational_one : rational 1 = 1 := by
  rw [rational, unpack_one, rationalOf_positive]
  norm_num

theorem rational_two : rational 2 = 2 := by
  rw [rational, unpack_two, rationalOf_positive]
  norm_num

theorem two_mul_abs_rational_one_lt : 2 * |rational 1| < 2 ^ (971 : ℤ) := by
  rw [rational_one, abs_one]
  calc
    (2 : ℚ) * 1 < 2 ^ (2 : ℤ) := by norm_num
    _ ≤ 2 ^ (971 : ℤ) := zpow_le_zpow_right₀ one_le_two (by decide)

theorem isRounding_sub_one (hb : b.isFinite = true) :
    (b - 1).isFinite = true ∧ IsRounding (rational (b - 1)) (rational b - 1) := by
  have hfinite := isFinite_sub_of_lt hb rfl two_mul_abs_rational_one_lt
  have hrounding := isRounding_sub hfinite
  rw [rational_one] at hrounding
  exact ⟨hfinite, hrounding⟩

theorem isRounding_add_one (ha : a.isFinite = true) :
    (a + 1).isFinite = true ∧ IsRounding (rational (a + 1)) (rational a + 1) := by
  have hfinite := isFinite_add_of_lt ha rfl two_mul_abs_rational_one_lt
  have hrounding := isRounding_add hfinite
  rw [rational_one] at hrounding
  exact ⟨hfinite, hrounding⟩

theorem isRounding_half (ha : a.isFinite = true) :
    (a / 2).isFinite = true ∧ IsRounding (rational (a / 2)) (rational a / 2) := by
  have htwo : IsAbove 1 2 := (magnitude_of_unpack (j := 2) unpack_two rfl rfl).1
  have hfinite : (a / 2).isFinite = true :=
    ((isFinite_iff_isBelow.mp ha).div htwo (k := 1024) (by decide) (by decide) le_rfl).isFinite
  have hrounding := isRounding_div ⟨_, _, _, _, unpack_two⟩ hfinite
  rw [rational_two] at hrounding
  exact ⟨hfinite, hrounding⟩

theorem isFinite_of_lt_of_lt {x : Float} (ha : a.isFinite = true) (hb : b.isFinite = true)
    (hax : a < x) (hxb : x < b) : x.isFinite = true := by
  change x.toModel.unpack.isFinite = true
  rw [lt_iff] at hax hxb
  cases hx : x.toModel.unpack with
  | notANumber =>
      rw [hx] at hxb
      cases hxb
  | infinity s =>
      rw [hx] at hax hxb
      cases s with
      | negative =>
          obtain ⟨t, ha⟩ | ⟨t, m, e, hm, ha⟩ := isFinite_iff.mp ha <;> rw [ha] at hax
          · cases hax
          · cases t <;> cases hax
      | positive =>
          obtain ⟨t, hb⟩ | ⟨t, m, e, hm, hb⟩ := isFinite_iff.mp hb <;> rw [hb] at hxb
          · cases hxb
          · cases t <;> cases hxb
  | zero s => rfl
  | finite s m e hm => rfl

theorem neighbours_of_not_exists (ha : a.isFinite = true) (hb : b.isFinite = true)
    (hab : rational a < rational b) (hnone : ¬ ∃ x : Float, a < x ∧ x < b) :
    Neighbours (rational a) (rational b) := by
  refine ⟨hab, fun q hq hbetween => hnone ?_⟩
  have hrange : |q| < 2 ^ 53 * 2 ^ (971 : ℤ) := by
    have hlower := (abs_lt.mp (abs_rational_lt ha)).1
    have hupper := (abs_lt.mp (abs_rational_lt hb)).2
    exact abs_lt.mpr ⟨hlower.trans hbetween.1, hbetween.2.trans hupper⟩
  obtain ⟨x, hx, rfl⟩ := exists_rational_eq hq hrange
  exact ⟨x, (lt_iff_rational ha hx).mpr hbetween.1, (lt_iff_rational hx hb).mpr hbetween.2⟩

end Doubles

end EquationTutor.Double
