import EquationTutor.Solve.Inequality
import Mathlib.Data.List.Basic
/-!
What merging makes of a sequence of cells: its maximal runs of cells that satisfy, each as the
interval from the lower bound of the first cell to the upper bound of the last one.
-/

namespace EquationTutor.Solve

variable {α : Type}

/-- Whether the cell at a position satisfies. -/
def satisfiesAt (cells : List (Cell α)) (i : Nat) : Bool :=
  cells[i]?.any Cell.satisfies

/-- The cells from `j` to `k` satisfy, and their neighbours do not. -/
structure IsRun (cells : List (Cell α)) (j k : Nat) : Prop where
  le : j ≤ k
  satisfies : ∀ i, j ≤ i → i ≤ k → satisfiesAt cells i = true
  before : ∀ i, i + 1 = j → satisfiesAt cells i = false
  after : satisfiesAt cells (k + 1) = false

def lowerAt (cells : List (Cell α)) (i : Nat) : Bound α :=
  (cells[i]?.map fun c => c.piece.lower).getD .negInfinity

def upperAt (cells : List (Cell α)) (i : Nat) : Bound α :=
  (cells[i]?.map fun c => c.piece.upper).getD .posInfinity

/-- The interval from the first to the last cell of a run. -/
def span (cells : List (Cell α)) (run : Nat × Nat) : Interval α :=
  ⟨lowerAt cells run.1, upperAt cells run.2⟩

/-- The first and the last position of each run of cells that stand from position `n` on.
A run that is still open begins at `start`. -/
def runsFrom (start : Option Nat) (n : Nat) : List (Cell α) → List (Nat × Nat)
  | [] => (start.map fun j => (j, n - 1)).toList
  | c :: cs =>
    if c.satisfies then runsFrom (some (start.getD n)) (n + 1) cs
    else (start.map fun j => (j, n - 1)).toList ++ runsFrom none (n + 1) cs

/-- What is known of the run that is open before position `n`. -/
def IsOpen (cells : List (Cell α)) (n : Nat) : Option Nat → Prop
  | none => ∀ i, i + 1 = n → satisfiesAt cells i = false
  | some j => j < n ∧ (∀ i, j ≤ i → i < n → satisfiesAt cells i = true) ∧
    ∀ i, i + 1 = j → satisfiesAt cells i = false

section Position

variable {cells : List (Cell α)} {n : Nat} {c : Cell α} {cs : List (Cell α)}

theorem satisfiesAt_of_length_le (h : cells.length ≤ n) : satisfiesAt cells n = false := by
  rw [satisfiesAt, List.getElem?_eq_none h, Option.any_none]

theorem exists_of_satisfiesAt (h : satisfiesAt cells n = true) :
    ∃ c, cells[n]? = some c ∧ c.satisfies = true := by
  rwa [satisfiesAt, Option.any_eq_true] at h

theorem lowerAt_of_getElem? (h : cells[n]? = some c) : lowerAt cells n = c.piece.lower := by
  rw [lowerAt, h, Option.map_some, Option.getD_some]

theorem upperAt_of_getElem? (h : cells[n]? = some c) : upperAt cells n = c.piece.upper := by
  rw [upperAt, h, Option.map_some, Option.getD_some]

theorem IsRun.exists_ends {j k : Nat} (h : IsRun cells j k) :
    ∃ a b, cells[j]? = some a ∧ cells[k]? = some b ∧
      span cells (j, k) = ⟨a.piece.lower, b.piece.upper⟩ := by
  obtain ⟨a, ha, -⟩ := exists_of_satisfiesAt (h.satisfies j (Nat.le_refl j) h.le)
  obtain ⟨b, hb, -⟩ := exists_of_satisfiesAt (h.satisfies k h.le (Nat.le_refl k))
  exact ⟨a, b, ha, hb, by rw [span, lowerAt_of_getElem? ha, upperAt_of_getElem? hb]⟩

variable (h : cells.drop n = c :: cs)
include h

theorem getElem?_of_drop : cells[n]? = some c := by
  rw [← List.head?_drop, h, List.head?_cons]

theorem drop_succ_of_drop : cells.drop (n + 1) = cs := by
  rw [← List.tail_drop, h, List.tail_cons]

theorem satisfiesAt_of_drop : satisfiesAt cells n = c.satisfies := by
  rw [satisfiesAt, getElem?_of_drop h, Option.any_some]

end Position

section Runs

variable {cells : List (Cell α)} {start : Option Nat} {n j k : Nat}

/-- The intervals that are merged are those of the runs. -/
theorem mergeCells_eq_map {cs : List (Cell α)} (h : cells.drop n = cs) :
    mergeCells (start.map fun j => span cells (j, n - 1)) cs =
      (runsFrom start n cs).map (span cells) := by
  induction cs generalizing n start with
  | nil => cases start <;> rfl
  | cons c cs ih =>
      have hc := getElem?_of_drop h
      have hrest := drop_succ_of_drop h
      rw [mergeCells, runsFrom]
      split
      · rw [← ih hrest]
        cases start <;> simp [span, lowerAt, upperAt, hc]
      · rw [List.map_append, ← ih hrest]
        cases start <;> rfl

theorem isRun_iff_of_not_satisfies (hopen : IsOpen cells n start)
    (hn : satisfiesAt cells n = false) :
    (j, k) ∈ (start.map fun j => (j, n - 1)).toList ∨ (IsRun cells j k ∧ n + 1 ≤ j) ↔
      IsRun cells j k ∧ start.getD n ≤ j := by
  have hne (h : IsRun cells j k) : j ≠ n := by
    rintro rfl
    have := h.satisfies j (Nat.le_refl j) h.le
    rw [hn] at this
    cases this
  cases start with
  | none =>
      simp only [Option.map_none, Option.toList_none, List.not_mem_nil, false_or, Option.getD_none]
      refine and_congr_right fun h => ?_
      have := hne h
      omega
  | some s =>
      obtain ⟨hlt, hall, hbefore⟩ := hopen
      simp only [Option.map_some, Option.toList_some, List.mem_singleton, Prod.mk.injEq,
        Option.getD_some]
      constructor
      · rintro (⟨rfl, rfl⟩ | ⟨h, hle⟩)
        · refine ⟨⟨by omega, fun i hi hi' => hall i hi (by omega), hbefore, ?_⟩, Nat.le_refl j⟩
          rwa [Nat.sub_add_cancel (by omega)]
        · exact ⟨h, by omega⟩
      · rintro ⟨h, hle⟩
        by_cases hjn : n + 1 ≤ j
        · exact .inr ⟨h, hjn⟩
        -- a run that begins before the cell is the one that is open
        have hj : j < n := by
          have := hne h
          omega
        have hstart : j = s := by
          by_contra hjs
          have := h.before (j - 1) (by omega)
          rw [hall (j - 1) (by omega) (by omega)] at this
          cases this
        have hlow : n ≤ k + 1 := by
          by_contra hk
          have := h.after
          rw [hall (k + 1) (by have := h.le; omega) (by omega)] at this
          cases this
        have hhigh : k < n := by
          by_contra hk
          have := h.satisfies n (by omega) (by omega)
          rw [hn] at this
          cases this
        exact .inl ⟨hstart, by omega⟩

theorem IsOpen.succ (hopen : IsOpen cells n start) (hn : satisfiesAt cells n = true) :
    IsOpen cells (n + 1) (some (start.getD n)) := by
  cases start with
  | none =>
      refine ⟨Nat.lt_succ_self n, fun i hi hi' => ?_, hopen⟩
      obtain rfl : i = n := Nat.le_antisymm (Nat.le_of_lt_succ hi') hi
      exact hn
  | some s =>
      obtain ⟨hlt, hall, hbefore⟩ := hopen
      refine ⟨Nat.lt_succ_of_lt hlt, fun i hi hi' => ?_, hbefore⟩
      rcases Nat.lt_succ_iff_lt_or_eq.mp hi' with h | rfl
      · exact hall i hi h
      · exact hn

theorem isOpen_none_succ (hn : satisfiesAt cells n = false) : IsOpen cells (n + 1) none := by
  intro i hi
  obtain rfl : i = n := Nat.succ.inj hi
  exact hn

theorem mem_runsFrom_iff {cs : List (Cell α)} (h : cells.drop n = cs)
    (hopen : IsOpen cells n start) :
    (j, k) ∈ runsFrom start n cs ↔ IsRun cells j k ∧ start.getD n ≤ j := by
  induction cs generalizing n start with
  | nil =>
      have hlength (i : Nat) (hi : n ≤ i) : satisfiesAt cells i = false :=
        satisfiesAt_of_length_le (Nat.le_trans (List.drop_eq_nil_iff.mp h) hi)
      rw [runsFrom, ← isRun_iff_of_not_satisfies hopen (hlength n (Nat.le_refl n)), or_iff_left]
      rintro ⟨hrun, hle⟩
      have := hrun.satisfies j (Nat.le_refl j) hrun.le
      rw [hlength j (by omega)] at this
      cases this
  | cons c cs ih =>
      have hc := satisfiesAt_of_drop h
      have hrest := drop_succ_of_drop h
      rw [runsFrom]
      split
      · rename_i hsat
        rw [ih hrest (hopen.succ (hc.trans hsat)), Option.getD_some]
      · rename_i hsat
        have hn := hc.trans (Bool.eq_false_iff.mpr hsat)
        rw [List.mem_append, ih hrest (isOpen_none_succ hn), Option.getD_none,
          isRun_iff_of_not_satisfies hopen hn]

theorem exists_mem_open {i : Nat} (hi : start.getD n ≤ i) (hin : i < n) :
    ∃ r ∈ (start.map fun j => (j, n - 1)).toList, r.1 ≤ i ∧ i ≤ r.2 := by
  cases start with
  | none => exact absurd hi (Nat.not_le_of_lt hin)
  | some s => exact ⟨_, List.mem_singleton_self _, hi, Nat.le_sub_one_of_lt hin⟩

theorem exists_mem_runsFrom {cs : List (Cell α)} (h : cells.drop n = cs) {i : Nat}
    (hi : start.getD n ≤ i) (hsat : satisfiesAt cells i = true) :
    ∃ r ∈ runsFrom start n cs, r.1 ≤ i ∧ i ≤ r.2 := by
  induction cs generalizing n start with
  | nil =>
      refine exists_mem_open hi (Nat.lt_of_not_le fun hni => ?_)
      rw [satisfiesAt_of_length_le (Nat.le_trans (List.drop_eq_nil_iff.mp h) hni)] at hsat
      cases hsat
  | cons c cs ih =>
      have hc := satisfiesAt_of_drop h
      have hrest := drop_succ_of_drop h
      rw [runsFrom]
      split
      · exact ih hrest hi
      · rename_i hunsat
        rcases Nat.lt_trichotomy i n with hin | rfl | hin
        · obtain ⟨r, hr, hir⟩ := exists_mem_open hi hin
          exact ⟨r, List.mem_append_left _ hr, hir⟩
        · exact absurd (hc.symm.trans hsat) hunsat
        · have hnext : (none : Option Nat).getD (n + 1) ≤ i := hin
          obtain ⟨r, hr, hir⟩ := ih hrest hnext
          exact ⟨r, List.mem_append_right _ hr, hir⟩

theorem runsFrom_of_all {cs : List (Cell α)} (h : ∀ c ∈ cs, c.satisfies = true) :
    runsFrom (some j) n cs = [(j, n + cs.length - 1)] := by
  induction cs generalizing n with
  | nil => rfl
  | cons c cs ih =>
      rw [List.forall_mem_cons] at h
      rw [runsFrom, if_pos h.1, Option.getD_some, ih h.2, List.length_cons, Nat.add_right_comm,
        Nat.add_assoc]

theorem pairwise_runsFrom {cs : List (Cell α)} (h : cells.drop n = cs)
    (hopen : IsOpen cells n start) :
    (runsFrom start n cs).Pairwise fun a b => a.2 + 1 < b.1 := by
  induction cs generalizing n start with
  | nil => cases start <;> simp [runsFrom]
  | cons c cs ih =>
      have hc := satisfiesAt_of_drop h
      have hrest := drop_succ_of_drop h
      rw [runsFrom]
      split
      · rename_i hsat
        exact ih hrest (hopen.succ (hc.trans hsat))
      · rename_i hsat
        have hnone := isOpen_none_succ (hc.trans (Bool.eq_false_iff.mpr hsat))
        rw [List.pairwise_append]
        refine ⟨by cases start <;> simp, ih hrest hnone, ?_⟩
        rintro ⟨s, e⟩ hs ⟨j, k⟩ hjk
        have hj : n + 1 ≤ j := ((mem_runsFrom_iff hrest hnone).mp hjk).2
        cases start with
        | none => cases hs
        | some s' =>
            obtain rfl : e = n - 1 := (Prod.mk.inj (List.mem_singleton.mp hs)).2
            have hlt := hopen.1
            change n - 1 + 1 < j
            omega

end Runs

def runs (cells : List (Cell α)) : List (Nat × Nat) :=
  runsFrom none 0 cells

section Sequence

variable (cells : List (Cell α))

theorem isOpen_zero : IsOpen cells 0 none := by
  intro i hi
  cases hi

theorem mergeCells_eq_runs : mergeCells none cells = (runs cells).map (span cells) := by
  have hnone : (none : Option (Interval α)) =
      (none : Option Nat).map fun j => span cells (j, 0 - 1) := rfl
  rw [hnone, mergeCells_eq_map List.drop_zero, runs]

theorem mem_runs_iff {j k : Nat} : (j, k) ∈ runs cells ↔ IsRun cells j k := by
  rw [runs, mem_runsFrom_iff List.drop_zero (isOpen_zero cells)]
  exact and_iff_left (Nat.zero_le j)

theorem exists_mem_runs {i : Nat} (h : satisfiesAt cells i = true) :
    ∃ r ∈ runs cells, r.1 ≤ i ∧ i ≤ r.2 :=
  exists_mem_runsFrom List.drop_zero (Nat.zero_le i) h

theorem pairwise_runs : (runs cells).Pairwise fun a b => a.2 + 1 < b.1 :=
  pairwise_runsFrom List.drop_zero (isOpen_zero cells)

theorem runs_eq_nil_iff : runs cells = [] ↔ ∀ c ∈ cells, c.satisfies = false := by
  constructor
  · intro h c hc
    obtain ⟨i, hi⟩ := List.mem_iff_getElem?.mp hc
    by_contra hsat
    obtain ⟨r, hr, -⟩ := exists_mem_runs cells (i := i) (by
      rw [satisfiesAt, hi, Option.any_some]
      exact (Bool.not_eq_false _).mp hsat)
    rw [h] at hr
    cases hr
  · intro h
    refine List.eq_nil_iff_forall_not_mem.mpr fun ⟨j, k⟩ hjk => ?_
    have hrun := (mem_runs_iff cells).mp hjk
    obtain ⟨c, hc, hsat⟩ := exists_of_satisfiesAt (hrun.satisfies j (Nat.le_refl j) hrun.le)
    rw [h c (List.mem_of_getElem? hc)] at hsat
    cases hsat

variable {cells}

theorem runs_of_all (h : ∀ c ∈ cells, c.satisfies = true) {n : Nat}
    (hlength : cells.length = n + 1) : runs cells = [(0, n)] := by
  cases cells with
  | nil => cases hlength
  | cons c cs =>
      obtain rfl : cs.length = n := Nat.succ.inj hlength
      rw [List.forall_mem_cons] at h
      rw [runs, runsFrom, if_pos h.1, Option.getD_none, runsFrom_of_all h.2, Nat.zero_add,
        Nat.add_sub_cancel_left]

end Sequence

end EquationTutor.Solve
