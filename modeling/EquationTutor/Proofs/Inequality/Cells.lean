import EquationTutor.Proofs.Inequality.Runs

namespace EquationTutor

def SolutionSet.pieces {α : Type} : SolutionSet α → List (Interval α)
  | intervals pieces => pieces
  | allReals => [⟨.negInfinity, .posInfinity⟩]
  | discrete _ | complex _ | empty | point _ _ | infinite | quantity _ _ => []

namespace Solve

open Scalar

section Pieces

variable {α : Type}

theorem pieces_setOfIntervals (pieces : List (Interval α)) :
    (setOfIntervals pieces).pieces = pieces := by
  rcases pieces with _ | ⟨⟨lower, upper⟩, _ | ⟨j, js⟩⟩
  · rfl
  · cases lower <;> cases upper <;> rfl
  · rfl

theorem setOfIntervals_eq_empty_iff (pieces : List (Interval α)) :
    setOfIntervals pieces = .empty ↔ pieces = [] := by
  rcases pieces with _ | ⟨⟨lower, upper⟩, _ | ⟨j, js⟩⟩
  · simp [setOfIntervals]
  · cases lower <;> cases upper <;> simp [setOfIntervals, Interval.isLine]
  · simp [setOfIntervals]

theorem setOfIntervals_eq_allReals_iff (pieces : List (Interval α)) :
    setOfIntervals pieces = .allReals ↔ pieces = [⟨.negInfinity, .posInfinity⟩] := by
  rcases pieces with _ | ⟨⟨lower, upper⟩, _ | ⟨j, js⟩⟩
  · simp [setOfIntervals]
  · cases lower <;> cases upper <;> simp [setOfIntervals, Interval.isLine]
  · simp [setOfIntervals]

variable (lower : Bound α) (critical : List α)

theorem length_openPieces : (openPieces lower critical).length = critical.length + 1 := by
  induction critical generalizing lower with
  | nil => rfl
  | cons c critical ih => rw [openPieces, List.length_cons, ih, List.length_cons]

theorem map_lower_openPieces :
    (openPieces lower critical).map Interval.lower = lower :: critical.map .openAt := by
  induction critical generalizing lower with
  | nil => rfl
  | cons c critical ih => rw [openPieces, List.map_cons, ih, List.map_cons]

theorem map_upper_openPieces :
    (openPieces lower critical).map Interval.upper = critical.map .openAt ++ [.posInfinity] := by
  induction critical generalizing lower with
  | nil => rfl
  | cons c critical ih => rw [openPieces, List.map_cons, ih, List.map_cons, List.cons_append]

end Pieces

section Interleave

variable {α : Type} {atCritical : Bool} {tests : List (TestPoint α)} {critical : List α}
  (h : tests.length = critical.length + 1)
include h

theorem length_interleave :
    (interleave atCritical tests critical).length = 2 * critical.length + 1 := by
  induction critical generalizing tests with
  | nil =>
      obtain ⟨t, rfl⟩ := List.length_eq_one_iff.mp h
      rfl
  | cons c critical ih =>
      cases tests with
      | nil => cases h
      | cons t tests =>
          rw [interleave, List.length_cons, List.length_cons, ih (Nat.succ.inj h),
            List.length_cons]
          omega

theorem getElem?_interleave_even {i : Nat} {t : TestPoint α} (ht : tests[i]? = some t) :
    (interleave atCritical tests critical)[2 * i]? = some ⟨t.interval, t.satisfies⟩ := by
  induction critical generalizing tests i with
  | nil =>
      obtain ⟨u, rfl⟩ := List.length_eq_one_iff.mp h
      cases i with
      | zero =>
          cases ht
          rfl
      | succ i => simp at ht
  | cons c critical ih =>
      cases tests with
      | nil => cases ht
      | cons u tests =>
          cases i with
          | zero =>
              cases ht
              rfl
          | succ i => exact ih (Nat.succ.inj h) ht

theorem getElem?_interleave_odd {i : Nat} {c : α} (hc : critical[i]? = some c) :
    (interleave atCritical tests critical)[2 * i + 1]? = some ⟨.point c, atCritical⟩ := by
  induction critical generalizing tests i with
  | nil => cases hc
  | cons d critical ih =>
      cases tests with
      | nil => cases h
      | cons u tests =>
          cases i with
          | zero =>
              cases hc
              rfl
          | succ i => exact ih (Nat.succ.inj h) hc

theorem mem_interleave_iff {cell : Cell α} :
    cell ∈ interleave atCritical tests critical ↔
      (∃ t ∈ tests, cell = ⟨t.interval, t.satisfies⟩) ∨
        ∃ c ∈ critical, cell = ⟨.point c, atCritical⟩ := by
  induction critical generalizing tests with
  | nil =>
      obtain ⟨t, rfl⟩ := List.length_eq_one_iff.mp h
      simp [interleave]
  | cons c critical ih =>
      cases tests with
      | nil => cases h
      | cons t tests =>
          rw [interleave, List.mem_cons, List.mem_cons, ih (Nat.succ.inj h)]
          simp only [List.mem_cons, exists_eq_or_imp]
          rw [or_assoc]
          exact or_congr_right or_left_comm

end Interleave

section Tested

variable {α : Type} [Scalar α] (r : Relation) (f : α → α)

/-- The tested pieces from a lower bound on, with the critical points between them. -/
def testedCells (lower : Bound α) (critical : List α) : List (Cell α) :=
  interleave (r.holds (0 : α) 0) ((openPieces lower critical).map (testPiece r f)) critical

theorem testedCells_cons (lower : Bound α) (c : α) (critical : List α) :
    testedCells r f lower (c :: critical) =
      ⟨⟨lower, .openAt c⟩, (testPiece r f ⟨lower, .openAt c⟩).satisfies⟩ ::
        ⟨.point c, r.holds (0 : α) 0⟩ :: testedCells r f (.openAt c) critical :=
  rfl

theorem solveByTestPoints_fst (critical : List α) :
    (solveByTestPoints critical r f).1 =
      setOfIntervals ((runs (testedCells r f .negInfinity critical)).map
        (span (testedCells r f .negInfinity critical))) := by
  rw [← mergeCells_eq_runs]
  rfl

variable {r f} {lower : Bound α} {critical : List α} {i : Nat} {cell : Cell α}

theorem lower_cases (h : (testedCells r f lower critical)[i]? = some cell) :
    i = 0 ∧ cell.piece.lower = lower ∨
      0 < i ∧ ∃ c ∈ critical, cell.piece.lower = .openAt c ∨ cell.piece.lower = .closedAt c := by
  induction critical generalizing lower i with
  | nil =>
      match i with
      | 0 =>
          cases h
          exact .inl ⟨rfl, rfl⟩
      | i + 1 => cases h
  | cons c critical ih =>
      rw [testedCells_cons] at h
      match i with
      | 0 =>
          cases h
          exact .inl ⟨rfl, rfl⟩
      | 1 =>
          cases h
          exact .inr ⟨Nat.one_pos, c, List.mem_cons_self, .inr rfl⟩
      | i + 2 =>
          refine .inr ⟨Nat.succ_pos _, ?_⟩
          rcases ih h with ⟨-, hlower⟩ | ⟨-, d, hd, hlower⟩
          · exact ⟨c, List.mem_cons_self, .inl hlower⟩
          · exact ⟨d, List.mem_cons_of_mem c hd, hlower⟩

theorem upper_cases (h : (testedCells r f lower critical)[i]? = some cell) :
    i = 2 * critical.length ∧ cell.piece.upper = .posInfinity ∨
      i < 2 * critical.length ∧
        ∃ c ∈ critical, cell.piece.upper = .openAt c ∨ cell.piece.upper = .closedAt c := by
  induction critical generalizing lower i with
  | nil =>
      match i with
      | 0 =>
          cases h
          exact .inl ⟨rfl, rfl⟩
      | i + 1 => cases h
  | cons c critical ih =>
      rw [testedCells_cons] at h
      rw [List.length_cons]
      match i with
      | 0 =>
          cases h
          exact .inr ⟨by omega, c, List.mem_cons_self, .inl rfl⟩
      | 1 =>
          cases h
          exact .inr ⟨by omega, c, List.mem_cons_self, .inr rfl⟩
      | i + 2 =>
          rcases ih h with ⟨hi, hupper⟩ | ⟨hi, d, hd, hupper⟩
          · exact .inl ⟨by omega, hupper⟩
          · exact .inr ⟨by omega, d, List.mem_cons_of_mem c hd, hupper⟩

theorem length_testedCells :
    (testedCells r f lower critical).length = 2 * critical.length + 1 :=
  length_interleave (by rw [List.length_map, length_openPieces])

theorem mem_testedCells_iff : cell ∈ testedCells r f lower critical ↔
    (∃ t ∈ (openPieces lower critical).map (testPiece r f), cell = ⟨t.interval, t.satisfies⟩) ∨
      ∃ c ∈ critical, cell = ⟨.point c, r.holds (0 : α) 0⟩ :=
  mem_interleave_iff (by rw [List.length_map, length_openPieces])

end Tested

section Whole

variable {α : Type} [Scalar α] {r : Relation} {f : α → α} {critical : List α}

/-- A run is the whole line just if it runs from the first cell to the last. -/
theorem span_eq_line_iff {j k : Nat}
    (h : IsRun (testedCells r f .negInfinity critical) j k) :
    span (testedCells r f .negInfinity critical) (j, k) = ⟨.negInfinity, .posInfinity⟩ ↔
      j = 0 ∧ k = 2 * critical.length := by
  obtain ⟨a, b, ha, hb, hspan⟩ := h.exists_ends
  have hlower : a.piece.lower = .negInfinity ↔ j = 0 := by
    rcases lower_cases ha with ⟨hj, h⟩ | ⟨hj, c, -, h | h⟩ <;> simp [h] <;> omega
  have hupper : b.piece.upper = .posInfinity ↔ k = 2 * critical.length := by
    rcases upper_cases hb with ⟨hk, h⟩ | ⟨hk, c, -, h | h⟩ <;> simp [h] <;> omega
  rw [hspan, Interval.mk.injEq, hlower, hupper]

theorem set_eq_empty_iff : (solveByTestPoints critical r f).1 = .empty ↔
    ∀ cell ∈ testedCells r f .negInfinity critical, cell.satisfies = false := by
  rw [solveByTestPoints_fst, setOfIntervals_eq_empty_iff, List.map_eq_nil_iff, runs_eq_nil_iff]

theorem set_eq_allReals_iff : (solveByTestPoints critical r f).1 = .allReals ↔
    ∀ cell ∈ testedCells r f .negInfinity critical, cell.satisfies = true := by
  rw [solveByTestPoints_fst, setOfIntervals_eq_allReals_iff]
  constructor
  · intro h
    obtain ⟨⟨j, k⟩, hruns, hspan⟩ := List.map_eq_singleton_iff.mp h
    have hrun : IsRun (testedCells r f .negInfinity critical) j k := by
      rw [← mem_runs_iff, hruns]
      exact List.mem_singleton_self _
    obtain ⟨rfl, rfl⟩ := (span_eq_line_iff hrun).mp hspan
    intro cell hcell
    obtain ⟨i, hi⟩ := List.mem_iff_getElem?.mp hcell
    have hlength := (List.getElem?_eq_some_iff.mp hi).1
    rw [length_testedCells] at hlength
    have hsat := hrun.satisfies i (Nat.zero_le i) (by omega)
    rwa [satisfiesAt, hi] at hsat
  · intro h
    have hrun : runs (testedCells r f .negInfinity critical) = [(0, 2 * critical.length)] :=
      runs_of_all h length_testedCells
    have hwhole := (mem_runs_iff _).mp (hrun ▸ List.mem_singleton_self _)
    rw [hrun, List.map_singleton, (span_eq_line_iff hwhole).mpr ⟨rfl, rfl⟩]

end Whole

end Solve

end EquationTutor
