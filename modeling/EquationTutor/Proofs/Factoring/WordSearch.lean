import EquationTutor.Proofs.Factoring.IntegerFactors
/-!
The search for integer factors in words of 64 bits. An operation without a word for its
result, or with a zero to divide by, stops the search as a fault. None does: the search in
words ends, and it finds what the search in unbounded integers finds.
-/

namespace EquationTutor.Solve

/-- Why an operation on words has no result. -/
inductive Fault where
  | overflow
  | divisionByZero

theorem isFactorPair_iff {b c p q : Int} :
    IsFactorPair b c p q ↔ p ≤ q ∧ p * q = c ∧ p + q = b :=
  ⟨fun h => ⟨h.le, h.mul, h.add⟩, fun ⟨hle, hmul, hadd⟩ => ⟨hle, hmul, hadd⟩⟩

namespace WordSearch

def exactly (x : Int) : Except Fault { w : Int64 // w.toInt = x } :=
  if h : -2 ^ 63 ≤ x ∧ x < 2 ^ 63 then
    .ok ⟨.ofIntLE x h.1 (Int.le_of_lt_add_one h.2), Int64.toInt_ofIntLE⟩
  else .error .overflow

def divide (x y : Int64) : Except Fault { w : Int64 // w.toInt = x.toInt.tdiv y.toInt } :=
  if y = 0 then .error .divisionByZero else exactly _

/-- The remainder of a division. It has none if the quotient is no word. -/
def remainder (x y : Int64) : Except Fault { w : Int64 // w.toInt = x.toInt.tmod y.toInt } := do
  let _ ← divide x y
  exactly _

/-- The pair that a divisor of `c` makes with its complementary factor. -/
def pairWith (b c p : Int64) : Except Fault (Option (Int64 × Int64)) := do
  let q ← divide c p
  let sum ← exactly (p.toInt + q.val.toInt)
  return if sum.val = b then some (min p q.val, max p q.val) else none

/-- The pair that `i` or its opposite gives, if `i` divides `n`. -/
def pairOf (b c n i : Int64) : Except Fault (Option (Int64 × Int64)) := do
  let rest ← remainder n i
  if rest.val = 0 then
    let opposite ← exactly (-i.toInt)
    match ← pairWith b c i with
    | some pair => return some pair
    | none => pairWith b c opposite.val
  else return none

/-- The first pair that a number from `i` on gives, up to the square root of `n`. -/
def searchFrom (b c n i : Int64) : Except Fault (Option (Int64 × Int64)) := do
  let square ← exactly (i.toInt * i.toInt)
  if n < square.val then return none
  match ← pairOf b c n i with
  | some pair => return some pair
  | none =>
    let ⟨next, _⟩ ← exactly (i.toInt + 1)
    searchFrom b c n next
termination_by (Int64.maxValue.toInt - i.toInt).toNat
decreasing_by
  have := next.toInt_le
  omega

/-- The `p ≤ q` with `p q = c` and `p + q = b`. The least word has no absolute value, and it
is not searched. -/
def findPair (b c : Int64) : Except Fault (Option (Int64 × Int64)) :=
  if c = 0 then .ok (some (min 0 b, max 0 b))
  else
    match exactly c.toInt.natAbs with
    | .error _ => .ok none
    | .ok n => if 1000000 < n.val then .ok none else searchFrom b c n.val 1

def integers (pair : Int64 × Int64) : Int × Int :=
  (pair.1.toInt, pair.2.toInt)

/-- The run ends without a fault, and its words are the integers of the result. -/
def Gives (run : Except Fault (Option (Int64 × Int64))) (result : Option (Int × Int)) : Prop :=
  ∃ pair, run = .ok pair ∧ pair.map integers = result

theorem ok_bind {ε β γ : Type} (x : β) (f : β → Except ε γ) : (Except.ok x >>= f) = f x :=
  rfl

theorem exactly_eq {x : Int} (hlower : -2 ^ 63 ≤ x) (hupper : x < 2 ^ 63) :
    ∃ w, exactly x = .ok w :=
  ⟨_, dif_pos ⟨hlower, hupper⟩⟩

theorem toInt_min (x y : Int64) : (min x y).toInt = min x.toInt y.toInt := by
  change (if x ≤ y then x else y).toInt = _
  simp only [min_def, Int64.le_iff_toInt_le]
  split <;> rfl

theorem toInt_max (x y : Int64) : (max x y).toInt = max x.toInt y.toInt := by
  change (if x ≤ y then y else x).toInt = _
  simp only [max_def, Int64.le_iff_toInt_le]
  split <;> rfl

theorem divide_eq {x y : Int64} (hy : y ≠ 0) (hx : x.toInt.natAbs < 2 ^ 63) :
    ∃ w, divide x y = .ok w := by
  have hquotient : (x.toInt.tdiv y.toInt).natAbs ≤ x.toInt.natAbs := by
    rw [Int.natAbs_tdiv]
    exact Nat.div_le_self _ _
  rw [divide, if_neg hy]
  exact exactly_eq (by omega) (by omega)

theorem remainder_eq {x y : Int64} (hy : y ≠ 0) (hx : x.toInt.natAbs < 2 ^ 63) :
    ∃ w, remainder x y = .ok w := by
  have hrest : (x.toInt.tmod y.toInt).natAbs ≤ x.toInt.natAbs := by
    rw [Int.natAbs_tmod]
    exact Nat.mod_le _ _
  obtain ⟨q, hq⟩ := divide_eq hy hx
  obtain ⟨w, hw⟩ := exactly_eq (x := x.toInt.tmod y.toInt) (by omega) (by omega)
  exact ⟨w, by simp only [remainder, hq, ok_bind, hw]⟩

theorem gives_none : Gives (.ok none) none :=
  ⟨_, rfl, rfl⟩

theorem Gives.orElse {run rest : Except Fault (Option (Int64 × Int64))}
    {found other : Option (Int × Int)} (hrun : Gives run found) (hrest : Gives rest other) :
    Gives (run >>= fun pair => match pair with
      | some pair => pure (some pair)
      | none => rest) (found.or other) := by
  obtain ⟨pair, rfl, rfl⟩ := hrun
  obtain ⟨pair', rfl, rfl⟩ := hrest
  cases pair with
  | none => exact ⟨pair', rfl, rfl⟩
  | some xy => exact ⟨some xy, rfl, rfl⟩

/-- The divisors of `m` up to its square root among the numbers from `k` on. -/
def divisorsFrom (m k count : Nat) : List Nat :=
  (List.range' k count).filter fun j => j * j ≤ m && m % j = 0

theorem divisorsFrom_of_lt {m k : Nat} (h : m < k * k) (count : Nat) :
    divisorsFrom m k count = [] := by
  simp only [divisorsFrom, List.filter_eq_nil_iff, List.mem_range'_1, Bool.and_eq_true,
    decide_eq_true_eq]
  rintro j ⟨hj, -⟩ ⟨hsquare, -⟩
  exact absurd (h.trans_le (Nat.mul_le_mul hj hj)) hsquare.not_gt

theorem divisorsFrom_succ {m k : Nat} (h : k * k ≤ m) (count : Nat) :
    divisorsFrom m k (count + 1) =
      if m % k = 0 then k :: divisorsFrom m (k + 1) count else divisorsFrom m (k + 1) count := by
  simp [divisorsFrom, List.range'_succ, List.filter_cons, h]

section Divisor

variable {b c n i : Int64} (hc : c.toInt.natAbs ≤ 1000000)
include hc

theorem gives_pairWith {p : Int64} (hp : p ≠ 0) (hsmall : p.toInt.natAbs ≤ 1000000) :
    Gives (pairWith b c p) (Solve.pairWith b.toInt c.toInt p.toInt) := by
  have hquotient : (c.toInt.tdiv p.toInt).natAbs ≤ c.toInt.natAbs := by
    rw [Int.natAbs_tdiv]
    exact Nat.div_le_self _ _
  obtain ⟨⟨q, hq⟩, hdivide⟩ := divide_eq (x := c) hp (by omega)
  obtain ⟨⟨sum, hsum⟩, hadd⟩ := exactly_eq (x := p.toInt + q.toInt) (by omega) (by omega)
  have heq : sum = b ↔ p.toInt + q.toInt = b.toInt := by rw [← Int64.toInt_inj, hsum]
  refine ⟨_, by simp only [pairWith, hdivide, ok_bind, hadd]; rfl, ?_⟩
  simp only [Solve.pairWith, ← hq, heq]
  split
  · simp [integers, toInt_min, toInt_max]
  · rfl

theorem gives_pairOf {k : Nat} (hn : n.toInt = c.toInt.natAbs) (hi : i.toInt = k) (hk : 0 < k)
    (hsmall : k ≤ 1000000) :
    Gives (pairOf b c n i)
      (if c.toInt.natAbs % k = 0 then pairWithEither b.toInt c.toInt k else none) := by
  have hne : i ≠ 0 := by
    rintro rfl
    simp at hi
    omega
  obtain ⟨⟨rest, hrest⟩, hremainder⟩ := remainder_eq (x := n) hne (by omega)
  have hzero : rest = 0 ↔ c.toInt.natAbs % k = 0 := by
    rw [← Int64.toInt_inj, hrest, hn, hi, Int64.toInt_zero, ← Int.ofNat_tmod, Int.natCast_eq_zero]
  simp only [pairOf, hremainder, ok_bind]
  by_cases hdvd : rest = 0
  · obtain ⟨⟨opposite, hopposite⟩, hneg⟩ := exactly_eq (x := -i.toInt) (by omega) (by omega)
    have hopposite_ne : opposite ≠ 0 := by
      rintro rfl
      simp at hopposite
      omega
    have hpair := gives_pairWith (b := b) hc hne (by omega)
    have hpair' := gives_pairWith (b := b) hc hopposite_ne (by omega)
    rw [hi] at hpair
    rw [hopposite, hi] at hpair'
    simp only [if_pos hdvd, if_pos (hzero.mp hdvd), hneg, ok_bind, pairWithEither,
      Option.orElse_eq_or]
    exact hpair.orElse hpair'
  · simp only [if_neg hdvd, if_neg (mt hzero.mpr hdvd)]
    exact gives_none

omit hc in
theorem searchFrom_eq {k : Nat} (hi : i.toInt = k) (hk : k ≤ 1001) :
    ∃ next : Int64, next.toInt = (k + 1 : Nat) ∧
      searchFrom b c n i =
        if n.toInt < (k * k : Nat) then .ok none
        else pairOf b c n i >>= fun pair => match pair with
          | some pair => pure (some pair)
          | none => searchFrom b c n next := by
  have hsmall : k * k ≤ 1001 * 1001 := Nat.mul_le_mul hk hk
  have hcast : i.toInt * i.toInt = (k * k : Nat) := by rw [hi, Nat.cast_mul]
  obtain ⟨⟨square, hsquare⟩, hmul⟩ := exactly_eq (x := i.toInt * i.toInt) (by omega) (by omega)
  obtain ⟨⟨next, hnext⟩, hadd⟩ := exactly_eq (x := i.toInt + 1) (by omega) (by omega)
  refine ⟨next, by omega, ?_⟩
  rw [searchFrom]
  simp only [hmul, hadd, ok_bind, Int64.lt_iff_toInt_lt, hsquare, hcast]
  rfl

/-- From a number on, the search in words goes the way of the search in integers. -/
theorem gives_searchFrom (hn : n.toInt = c.toInt.natAbs) (count : Nat) {k : Nat} {i : Int64}
    (hi : i.toInt = k) (hk : 0 < k) (hcount : k + count = 1001) :
    Gives (searchFrom b c n i)
      ((divisorsFrom c.toInt.natAbs k count).findSome? (pairWithEither b.toInt c.toInt)) := by
  induction count generalizing k i with
  | zero =>
      -- the square of 1001 is beyond the limit, so that the search stops here
      obtain rfl : k = 1001 := hcount
      obtain ⟨next, -, hturn⟩ := searchFrom_eq (b := b) (c := c) (n := n) hi (by omega)
      rw [hturn, if_pos (by omega)]
      exact gives_none
  | succ count ih =>
      obtain ⟨next, hnext, hturn⟩ := searchFrom_eq (b := b) (c := c) (n := n) hi (by omega)
      rw [hturn]
      by_cases hstop : n.toInt < (k * k : Nat)
      · rw [if_pos hstop, divisorsFrom_of_lt (by omega)]
        exact gives_none
      · have hpair := gives_pairOf (b := b) hc hn hi hk (by omega)
        have hrest := ih hnext k.succ_pos (by omega)
        have hfound := hpair.orElse hrest
        rw [if_neg hstop, divisorsFrom_succ (by omega)]
        by_cases hdvd : c.toInt.natAbs % k = 0
        · rw [if_pos hdvd] at hfound ⊢
          rw [List.findSome?_cons]
          cases hx : pairWithEither b.toInt c.toInt k <;> rw [hx] at hfound <;> exact hfound
        · rw [if_neg hdvd] at hfound ⊢
          exact hfound

end Divisor

theorem gives_findPair (b c : Int64) : Gives (findPair b c) (findFactorPair b.toInt c.toInt) := by
  have hzero : c = 0 ↔ c.toInt = 0 := by rw [← Int64.toInt_inj, Int64.toInt_zero]
  simp only [findPair, findFactorPair, hzero]
  split
  · exact ⟨_, rfl, by simp [integers, toInt_min, toInt_max]⟩
  · by_cases hword : c.toInt.natAbs < 2 ^ 63
    · obtain ⟨⟨n, hn⟩, habs⟩ := exactly_eq (x := c.toInt.natAbs) (by omega) (by omega)
      have hlimit : 1000000 < n ↔ searchLimit < c.toInt.natAbs := by
        rw [Int64.lt_iff_toInt_lt, hn]
        exact Nat.cast_lt
      simp only [habs, hlimit]
      split
      · exact gives_none
      · exact gives_searchFrom (Nat.not_lt.mp ‹_›) hn 1000 rfl one_pos rfl
    · -- the least word
      have habs : exactly c.toInt.natAbs = .error .overflow := dif_neg (by omega)
      rw [habs, if_pos (by simp only [searchLimit]; omega)]
      exact gives_none

end WordSearch

/-- For all words the search for two numbers with a given sum and product finds them
whenever they exist and the product is within the limit, and no operation on words that it
makes is a fault. -/
theorem findPair_complete (b c : Int64) :
    ∃ found, WordSearch.findPair b c = .ok found ∧
      found.map WordSearch.integers = findFactorPair b.toInt c.toInt ∧
      (∀ p q : Int, found.map WordSearch.integers = some (p, q) ↔
        c.toInt.natAbs ≤ 1000000 ∧ p ≤ q ∧ p * q = c.toInt ∧ p + q = b.toInt) ∧
      (found = none ↔ 1000000 < c.toInt.natAbs ∨
        ¬∃ p q : Int, p ≤ q ∧ p * q = c.toInt ∧ p + q = b.toInt) ∧
      ∀ p q p' q' : Int, IsFactorPair b.toInt c.toInt p q → IsFactorPair b.toInt c.toInt p' q' →
        p = p' ∧ q = q' := by
  obtain ⟨found, hrun, hfound⟩ := WordSearch.gives_findPair b c
  have hsome (p q : Int) : found.map WordSearch.integers = some (p, q) ↔
      c.toInt.natAbs ≤ 1000000 ∧ p ≤ q ∧ p * q = c.toInt ∧ p + q = b.toInt := by
    rw [hfound, findFactorPair_eq_some_iff]
    exact and_congr_right fun _ => isFactorPair_iff
  refine ⟨found, hrun, hfound, hsome, ?_, fun _ _ _ _ => IsFactorPair.unique⟩
  have hnone : found = none ↔ ∀ p q : Int, found.map WordSearch.integers ≠ some (p, q) := by
    rw [← Prod.forall (p := fun pq => found.map WordSearch.integers ≠ some pq),
      ← Option.eq_none_iff_forall_ne_some, Option.map_eq_none_iff]
  rw [hnone, ← not_le, ← not_and_or]
  simp only [ne_eq, hsome, ← exists_and_left, not_exists]

end EquationTutor.Solve
