import EquationTutor.Proofs.Double.Linear
import EquationTutor.Proofs.Finite.Inequality
import EquationTutor.Proofs.Inequality.Cells
/-!
The answer that test points give over doubles. Every number stands in one cell of the sequence;
it is in the answer just if its cell satisfies. The intervals of the answer are the maximal runs
of cells that satisfy, and no two of them could be joined.
-/

namespace EquationTutor

/-- An interval that ends at the first bound lies below one that begins at the second, and the
two cannot be joined. -/
def Bound.EndsBefore : Bound Float → Bound Float → Prop
  | .openAt u, .openAt v => u ≤ v
  | .openAt u, .closedAt v => u < v
  | .closedAt u, .openAt v => u < v
  | .closedAt u, .closedAt v => u < v
  | _, _ => False

namespace Solve

open Double

section Order

variable {u v : Bound Float} {x y : Float}

theorem lt_of_endsBefore (h : u.EndsBefore v) (hx : u.isAbove x = true)
    (hy : v.isBelow y = true) : x < y := by
  cases u with
  | negInfinity => cases hx
  | posInfinity => cases h
  | openAt c =>
      have hx := of_decide_eq_true hx
      cases v with
      | negInfinity => cases h
      | posInfinity => cases hy
      | openAt d => exact lt_le_trans hx (lt_imp_le (le_lt_trans h (of_decide_eq_true hy)))
      | closedAt d => exact lt_le_trans hx (lt_imp_le (lt_le_trans h (of_decide_eq_true hy)))
  | closedAt c =>
      have hx := of_decide_eq_true hx
      cases v with
      | negInfinity => cases h
      | posInfinity => cases hy
      | openAt d => exact le_lt_trans hx (lt_le_trans h (lt_imp_le (of_decide_eq_true hy)))
      | closedAt d => exact le_lt_trans hx (lt_le_trans h (of_decide_eq_true hy))

theorem contains_point_iff (c x : Float) :
    (Interval.point c).contains x = true ↔ (c == x) = true := by
  rw [beq_iff_le_and_le]
  simp [Interval.contains, Interval.point, Bound.isBelow, Bound.isAbove]

end Order

section Sequence

variable {r : Relation} {f : Float → Float} {lower : Bound Float} {critical : List Float}
  {c x : Float}

theorem outside_testedCells (hx : x ≤ c) (hsorted : (c :: critical).Pairwise (· < ·)) :
    ∀ cell ∈ testedCells r f (.openAt c) critical,
      ¬ cell.piece.lower.isBelow x = true ∧ cell.piece.upper.isAbove x = true := by
  induction critical generalizing c with
  | nil =>
      intro cell hcell
      obtain rfl := List.mem_singleton.mp hcell
      exact ⟨mt of_decide_eq_true (le_imp_not_lt hx), rfl⟩
  | cons d critical ih =>
      rw [List.pairwise_cons] at hsorted
      have hxd : x < d := le_lt_trans hx (hsorted.1 d List.mem_cons_self)
      rw [testedCells_cons]
      refine List.forall_mem_cons.mpr ⟨⟨?_, ?_⟩, List.forall_mem_cons.mpr ⟨⟨?_, ?_⟩, ?_⟩⟩
      · exact mt of_decide_eq_true (le_imp_not_lt hx)
      · exact decide_eq_true hxd
      · exact mt of_decide_eq_true (lt_imp_not_le hxd)
      · exact decide_eq_true (lt_imp_le hxd)
      · exact ih (lt_imp_le hxd) hsorted.2

/-- The cells up to the one of the number begin below it, and the cells from there on end above
it. -/
theorem exists_position (hx : x.isNaN = false) (hsorted : critical.Pairwise (· < ·))
    (hnumbers : ∀ c ∈ critical, c.isNaN = false) (hlower : lower.isBelow x = true) :
    ∃ p, p < (testedCells r f lower critical).length ∧
      ∀ j cell, (testedCells r f lower critical)[j]? = some cell →
        (cell.piece.lower.isBelow x = true ↔ j ≤ p) ∧
          (cell.piece.upper.isAbove x = true ↔ p ≤ j) := by
  induction critical generalizing lower with
  | nil =>
      refine ⟨0, Nat.one_pos, fun j cell hcell => ?_⟩
      match j with
      | 0 =>
          cases hcell
          exact ⟨iff_of_true hlower le_rfl, iff_of_true rfl le_rfl⟩
      | j + 1 => cases hcell
  | cons c critical ih =>
      have houtside (h : x ≤ c) := outside_testedCells (r := r) (f := f) h hsorted
      rw [List.pairwise_cons] at hsorted
      rw [List.forall_mem_cons] at hnumbers
      simp only [testedCells_cons, List.length_cons]
      rcases lt_or_beq_or_gt hx hnumbers.1 with h | h | h
      · refine ⟨0, by omega, fun j cell hcell => ?_⟩
        match j with
        | 0 =>
            cases hcell
            exact ⟨iff_of_true hlower le_rfl, iff_of_true (decide_eq_true h) le_rfl⟩
        | 1 =>
            cases hcell
            exact ⟨iff_of_false (mt of_decide_eq_true (lt_imp_not_le h)) (by omega),
              iff_of_true (decide_eq_true (lt_imp_le h)) (by omega)⟩
        | j + 2 =>
            have hcell := houtside (lt_imp_le h) cell (List.mem_of_getElem? hcell)
            exact ⟨iff_of_false hcell.1 (by omega), iff_of_true hcell.2 (by omega)⟩
      · obtain ⟨hcx, hxc⟩ := beq_iff_le_and_le.mp h
        refine ⟨1, by omega, fun j cell hcell => ?_⟩
        match j with
        | 0 =>
            cases hcell
            exact ⟨iff_of_true hlower (by omega),
              iff_of_false (mt of_decide_eq_true (le_imp_not_lt hcx)) (by omega)⟩
        | 1 =>
            cases hcell
            exact ⟨iff_of_true (decide_eq_true hcx) le_rfl,
              iff_of_true (decide_eq_true hxc) le_rfl⟩
        | j + 2 =>
            have hcell := houtside hxc cell (List.mem_of_getElem? hcell)
            exact ⟨iff_of_false hcell.1 (by omega), iff_of_true hcell.2 (by omega)⟩
      · have hbelow : (Bound.openAt c).isBelow x = true := decide_eq_true h
        obtain ⟨p, hp, hcells⟩ := ih hsorted.2 hnumbers.2 hbelow
        refine ⟨p + 2, by omega, fun j cell hcell => ?_⟩
        match j with
        | 0 =>
            cases hcell
            exact ⟨iff_of_true hlower (by omega),
              iff_of_false (mt of_decide_eq_true (le_imp_not_lt (lt_imp_le h))) (by omega)⟩
        | 1 =>
            cases hcell
            exact ⟨iff_of_true (decide_eq_true (lt_imp_le h)) (by omega),
              iff_of_false (mt of_decide_eq_true (lt_imp_not_le h)) (by omega)⟩
        | j + 2 =>
            obtain ⟨hbelow, habove⟩ := hcells j cell hcell
            exact ⟨hbelow.trans (by omega), habove.trans (by omega)⟩

theorem endsBefore_of_gap (hsorted : critical.Pairwise (· < ·))
    (hnumbers : ∀ c ∈ critical, c.isNaN = false) {j k : Nat} (hjk : k + 1 < j) {a b : Cell Float}
    (ha : (testedCells r f lower critical)[k]? = some a)
    (hb : (testedCells r f lower critical)[j]? = some b) :
    a.piece.upper.EndsBefore b.piece.lower := by
  induction critical generalizing lower j k with
  | nil =>
      match j with
      | j + 1 => cases hb
  | cons c critical ih =>
      rw [List.pairwise_cons] at hsorted
      rw [List.forall_mem_cons] at hnumbers
      rw [testedCells_cons] at ha hb
      match j, k with
      | j + 2, 0 =>
          cases ha
          rcases lower_cases hb with ⟨-, h⟩ | ⟨-, d, hd, h | h⟩
          · rw [h]
            exact (le_iff_position hnumbers.1 hnumbers.1).mpr le_rfl
          · rw [h]
            exact lt_imp_le (hsorted.1 d hd)
          · rw [h]
            exact hsorted.1 d hd
      | j + 2, 1 =>
          cases ha
          rcases lower_cases hb with ⟨rfl, -⟩ | ⟨-, d, hd, h | h⟩
          · omega
          · rw [h]
            exact hsorted.1 d hd
          · rw [h]
            exact hsorted.1 d hd
      | j + 2, k + 2 => exact ih hsorted.2 hnumbers.2 (by omega) ha hb

end Sequence

section Answer

variable {r : Relation} {f : Float → Float} {critical : List Float}
  (hsorted : critical.Pairwise (· < ·)) (hnumbers : ∀ c ∈ critical, c.isNaN = false)
include hsorted hnumbers

theorem exists_contains_span_iff {x : Float} (hx : x.isNaN = false) :
    (∃ i ∈ (runs (testedCells r f .negInfinity critical)).map
        (span (testedCells r f .negInfinity critical)), i.contains x = true) ↔
      ∃ cell ∈ testedCells r f .negInfinity critical,
        cell.satisfies = true ∧ cell.piece.contains x = true := by
  have hbelow : (Bound.negInfinity : Bound Float).isBelow x = true := rfl
  obtain ⟨p, hp, hcells⟩ := exists_position (r := r) (f := f) hx hsorted hnumbers hbelow
  have hcell_iff {i : Nat} {cell : Cell Float}
      (hi : (testedCells r f .negInfinity critical)[i]? = some cell) :
      cell.piece.contains x = true ↔ i ≤ p ∧ p ≤ i := by
    rw [Interval.contains, Bool.and_eq_true, (hcells i cell hi).1, (hcells i cell hi).2]
  have hspan_iff {j k : Nat} (hrun : IsRun (testedCells r f .negInfinity critical) j k) :
      (span (testedCells r f .negInfinity critical) (j, k)).contains x = true ↔
        j ≤ p ∧ p ≤ k := by
    obtain ⟨a, b, ha, hb, hspan⟩ := hrun.exists_ends
    rw [hspan, Interval.contains, Bool.and_eq_true, (hcells j a ha).1, (hcells k b hb).2]
  constructor
  · rintro ⟨i, hi, hxi⟩
    obtain ⟨⟨j, k⟩, hjk, rfl⟩ := List.mem_map.mp hi
    have hrun := (mem_runs_iff _).mp hjk
    obtain ⟨hjp, hpk⟩ := (hspan_iff hrun).mp hxi
    obtain ⟨cell, hcell, hsat⟩ := exists_of_satisfiesAt (hrun.satisfies p hjp hpk)
    exact ⟨cell, List.mem_of_getElem? hcell, hsat, (hcell_iff hcell).mpr ⟨le_rfl, le_rfl⟩⟩
  · rintro ⟨cell, hcell, hsat, hxc⟩
    obtain ⟨i, hi⟩ := List.mem_iff_getElem?.mp hcell
    have hip := (hcell_iff hi).mp hxc
    obtain rfl : i = p := le_antisymm hip.1 hip.2
    have hsat : satisfiesAt (testedCells r f .negInfinity critical) i = true := by
      rwa [satisfiesAt, hi]
    obtain ⟨⟨j, k⟩, hjk, hle⟩ := exists_mem_runs _ hsat
    exact ⟨_, List.mem_map_of_mem hjk, (hspan_iff ((mem_runs_iff _).mp hjk)).mpr hle⟩

/-- The intervals of the answer lie apart in ascending order. -/
theorem pairwise_endsBefore : ((runs (testedCells r f .negInfinity critical)).map
    (span (testedCells r f .negInfinity critical))).Pairwise
      fun i j => i.upper.EndsBefore j.lower := by
  rw [List.pairwise_map]
  refine (pairwise_runs _).imp_of_mem ?_
  rintro ⟨j, k⟩ ⟨j', k'⟩ hrun hrun' hgap
  obtain ⟨_, a, -, ha, hspan⟩ := ((mem_runs_iff _).mp hrun).exists_ends
  obtain ⟨b, _, hb, -, hspan'⟩ := ((mem_runs_iff _).mp hrun').exists_ends
  rw [hspan, hspan']
  exact endsBefore_of_gap hsorted hnumbers hgap ha hb

end Answer

/-- The tests are those of the open pieces between the critical points. -/
structure IsTested (critical : List Float) (r : Relation) (f : Float → Float)
    (tests : List (TestPoint Float)) : Prop where
  length : tests.length = critical.length + 1
  lower : (tests.map fun t => t.interval.lower) = .negInfinity :: critical.map .openAt
  upper : (tests.map fun t => t.interval.upper) = critical.map .openAt ++ [.posInfinity]
  sampled : ∀ t ∈ tests, t.point = t.interval.sample ∧ t.value = f t.point ∧
    t.satisfies = r.holds t.value 0

/-- The cells are the tested pieces with the critical points between them. -/
structure IsSequence (critical : List Float) (r : Relation) (tests : List (TestPoint Float))
    (cells : List (Cell Float)) : Prop where
  length : cells.length = 2 * critical.length + 1
  piece : ∀ i t, tests[i]? = some t → cells[2 * i]? = some ⟨t.interval, t.satisfies⟩
  point : ∀ i c, critical[i]? = some c → cells[2 * i + 1]? = some ⟨.point c, r.isInclusive⟩

/-- The intervals of the set are the maximal runs of cells that satisfy. They are in ascending
order, and no two of them could be joined. -/
structure IsMerged (cells : List (Cell Float)) (set : SolutionSet Float) : Prop where
  runs : ∃ runs : List (Nat × Nat), set.pieces = runs.map (span cells) ∧
    (∀ j k, (j, k) ∈ runs ↔ IsRun cells j k) ∧ runs.Pairwise fun a b => a.2 + 1 < b.1
  apart : set.pieces.Pairwise fun i j => i.upper.EndsBefore j.lower
  ascending : set.pieces.Pairwise fun i j =>
    ∀ x y, i.contains x = true → j.contains y = true → x < y
  region : set = setOfIntervals set.pieces
  allReals : set = .allReals ↔ ∀ cell ∈ cells, cell.satisfies = true
  empty : set = .empty ↔ ∀ cell ∈ cells, cell.satisfies = false

section Parts

variable (critical : List Float) (r : Relation) (f : Float → Float)

theorem isTested_solveByTestPoints :
    IsTested critical r f (solveByTestPoints critical r f).2 := by
  refine ⟨?_, ?_, ?_, fun t ht => ?_⟩
  · rw [solveByTestPoints, List.length_map, length_openPieces]
  · rw [← map_lower_openPieces, solveByTestPoints, List.map_map]
    rfl
  · rw [← map_upper_openPieces .negInfinity, solveByTestPoints, List.map_map]
    rfl
  · obtain ⟨piece, -, rfl⟩ := List.mem_map.mp ht
    exact ⟨rfl, rfl, rfl⟩

theorem isSequence_testedCells : IsSequence critical r (solveByTestPoints critical r f).2
    (testedCells r f .negInfinity critical) := by
  have hlength := (isTested_solveByTestPoints critical r f).length
  refine ⟨length_testedCells, fun i t ht => getElem?_interleave_even hlength ht, fun i c hc => ?_⟩
  rw [← holds_zero r]
  exact getElem?_interleave_odd hlength hc

theorem pieces_solveByTestPoints : (solveByTestPoints critical r f).1.pieces =
    (runs (testedCells r f .negInfinity critical)).map
      (span (testedCells r f .negInfinity critical)) := by
  rw [solveByTestPoints_fst, pieces_setOfIntervals]

theorem isMerged_solveByTestPoints (hsorted : critical.Pairwise (· < ·))
    (hnumbers : ∀ c ∈ critical, c.isNaN = false) :
    IsMerged (testedCells r f .negInfinity critical) (solveByTestPoints critical r f).1 := by
  have hpieces := pieces_solveByTestPoints critical r f
  have hapart := pairwise_endsBefore (r := r) (f := f) hsorted hnumbers
  rw [← hpieces] at hapart
  refine ⟨⟨_, hpieces, fun j k => mem_runs_iff _, pairwise_runs _⟩, hapart, ?_, ?_,
    set_eq_allReals_iff, set_eq_empty_iff⟩
  · refine hapart.imp fun hends x y hx hy => lt_of_endsBefore hends ?_ ?_
    · exact (Bool.and_eq_true_iff.mp hx).2
    · exact (Bool.and_eq_true_iff.mp hy).1
  · rw [hpieces, ← solveByTestPoints_fst]

theorem exists_contains_testedCells_iff (x : Float) :
    (∃ cell ∈ testedCells r f .negInfinity critical,
        cell.satisfies = true ∧ cell.piece.contains x = true) ↔
      ((∃ c ∈ critical, (c == x) = true) ∧ r.isInclusive = true) ∨
        ∃ t ∈ (solveByTestPoints critical r f).2,
          t.satisfies = true ∧ t.interval.contains x = true := by
  constructor
  · rintro ⟨cell, hcell, hsat, hx⟩
    rcases mem_testedCells_iff.mp hcell with ⟨t, ht, rfl⟩ | ⟨c, hc, rfl⟩
    · exact .inr ⟨t, ht, hsat, hx⟩
    · exact .inl ⟨⟨c, hc, (contains_point_iff c x).mp hx⟩, (holds_zero r).symm.trans hsat⟩
  · rintro (⟨⟨c, hc, hx⟩, hr⟩ | ⟨t, ht, hsat, hx⟩)
    · exact ⟨_, mem_testedCells_iff.mpr (.inr ⟨c, hc, rfl⟩), (holds_zero r).trans hr,
        (contains_point_iff c x).mpr hx⟩
    · exact ⟨_, mem_testedCells_iff.mpr (.inl ⟨t, ht, rfl⟩), hsat, hx⟩

end Parts

/-- For critical points in ascending order the answer is exact, and it is written in one way
only: as the maximal runs of pieces and critical points that satisfy. -/
theorem solveByTestPoints_canonical {critical : List Float} (hsorted : critical.Pairwise (· < ·))
    (hnumbers : ∀ c ∈ critical, c.isNaN = false) (r : Relation) (f : Float → Float) :
    ∃ set tests cells, solveByTestPoints critical r f = (set, tests) ∧
      IsTested critical r f tests ∧ IsSequence critical r tests cells ∧ IsMerged cells set ∧
      ∀ x : Float, x.isNaN = false →
        ((∃ i ∈ set.pieces, i.contains x = true) ↔
          ((∃ c ∈ critical, (c == x) = true) ∧ r.isInclusive = true) ∨
            ∃ t ∈ tests, t.satisfies = true ∧ t.interval.contains x = true) := by
  refine ⟨(solveByTestPoints critical r f).1, (solveByTestPoints critical r f).2,
    testedCells r f .negInfinity critical, rfl, isTested_solveByTestPoints critical r f,
    isSequence_testedCells critical r f, isMerged_solveByTestPoints critical r f hsorted hnumbers,
    fun x hx => ?_⟩
  rw [pieces_solveByTestPoints, exists_contains_span_iff hsorted hnumbers hx,
    exists_contains_testedCells_iff]

/-- The test points of `x² - 4 ≥ 0`. -/
theorem solveByTestPoints_canonical_two :
    ∃ set tests cells,
      solveByTestPoints [-2, 2] .ge (fun x : Float => x * x - 4) = (set, tests) ∧
        IsTested [-2, 2] .ge (fun x => x * x - 4) tests ∧ IsSequence [-2, 2] .ge tests cells ∧
        IsMerged cells set ∧ ∀ x : Float, x.isNaN = false →
          ((∃ i ∈ set.pieces, i.contains x = true) ↔
            ((∃ c ∈ [(-2 : Float), 2], (c == x) = true) ∧ Relation.ge.isInclusive = true) ∨
              ∃ t ∈ tests, t.satisfies = true ∧ t.interval.contains x = true) :=
  solveByTestPoints_canonical
    (List.pairwise_pair.mpr (by decide +kernel))
    (List.forall_mem_cons.mpr
      ⟨by decide +kernel, List.forall_mem_singleton.mpr (by decide +kernel)⟩)
    .ge _

end Solve

end EquationTutor
