import EquationTutor.Proofs.Exact.Relations
import EquationTutor.Solve.Inequality

namespace EquationTutor

/-- The real numbers of a set of answers. -/
def SolutionSet.Contains (set : SolutionSet ℝ) (x : ℝ) : Prop :=
  match set with
  | discrete values => x ∈ values
  | intervals pieces => ∃ i ∈ pieces, i.contains x = true
  | allReals => True
  | complex _ | empty | point _ _ | infinite | quantity _ _ => False

namespace Interval

theorem contains_iff (i : Interval ℝ) (x : ℝ) :
    i.contains x = true ↔ i.lower.isBelow x = true ∧ i.upper.isAbove x = true := by
  simp [contains]

theorem contains_point (v x : ℝ) : (point v).contains x = true ↔ x = v := by
  simp only [contains_iff, point, Bound.isBelow, Bound.isAbove, decide_eq_true_eq]
  exact ⟨fun h => le_antisymm h.2 h.1, fun h => ⟨h.ge, h.le⟩⟩

/-- No number lies outside on both sides. -/
def Proper (i : Interval ℝ) : Prop :=
  ∀ x, i.lower.isBelow x = true ∨ i.upper.isAbove x = true

/-- The second interval starts where the first one ends. -/
def Meets (i j : Interval ℝ) : Prop :=
  ∀ x, j.lower.isBelow x = true ↔ ¬ i.upper.isAbove x = true

theorem Meets.proper_join {i j : Interval ℝ} (h : i.Meets j) (hi : i.Proper) (hj : j.Proper) :
    (Interval.mk i.lower j.upper).Proper := by
  intro x
  rcases hi x with hlower | hupper
  · exact .inl hlower
  · exact .inr ((hj x).resolve_left fun hlower => (h x).mp hlower hupper)

theorem Meets.contains_join {i j : Interval ℝ} (h : i.Meets j) (hi : i.Proper) (hj : j.Proper)
    (x : ℝ) :
    (Interval.mk i.lower j.upper).contains x = true ↔
      i.contains x = true ∨ j.contains x = true := by
  have hi := hi x
  have hj := hj x
  have h := h x
  simp only [contains_iff]
  by_cases hupper : i.upper.isAbove x = true <;> simp_all

end Interval

namespace Solve

open EquationTutor.Interval

/-- Merging keeps the numbers of the open run and of the cells that satisfy. -/
theorem exists_mem_mergeCells_iff (x : ℝ) (run : Option (Interval ℝ)) (cells : List (Cell ℝ))
    (hproper : ∀ i ∈ run.toList ++ cells.map Cell.piece, i.Proper)
    (hmeets : (run.toList ++ cells.map Cell.piece).IsChain Meets) :
    (∃ i ∈ mergeCells run cells, i.contains x = true) ↔
      (∃ i ∈ run, i.contains x = true) ∨
        ∃ c ∈ cells, c.satisfies = true ∧ c.piece.contains x = true := by
  induction cells generalizing run with
  | nil => simp [mergeCells]
  | cons c cells ih =>
      have hrest (i : Interval ℝ) : i ∈ cells.map Cell.piece → i.Proper := fun hi =>
        hproper i (List.mem_append_right _ (List.mem_cons_of_mem _ hi))
      have hc : c.piece.Proper := hproper c.piece (by simp)
      simp only [mergeCells]
      split
      · rename_i hsat
        cases run with
        | none =>
            simp only [Option.getD_none]
            rw [ih (some ⟨c.piece.lower, c.piece.upper⟩) (by simpa using hproper)
              (by simpa using hmeets)]
            simp [hsat]
        | some i =>
            have hi : i.Proper := hproper i (by simp)
            have hic : i.Meets c.piece := by simpa using hmeets.rel
            have hchain : (c.piece :: cells.map Cell.piece).IsChain Meets := hmeets.tail
            simp only [Option.getD_some]
            rw [ih (some ⟨i.lower, c.piece.upper⟩) ?_ ?_]
            · simp [hsat, hic.contains_join hi hc, or_assoc]
            · intro j hj
              rcases List.mem_cons.mp hj with rfl | hj
              · exact hic.proper_join hi hc
              · exact hrest j hj
            · cases hcells : cells.map Cell.piece with
              | nil => simp
              | cons j js =>
                  rw [hcells] at hchain
                  simpa [hcells, List.isChain_cons_cons, Meets] using hchain
      · rename_i hsat
        have hchain : (cells.map Cell.piece).IsChain Meets := by
          cases run with
          | none => exact hmeets.tail
          | some i => exact hmeets.tail.tail
        have := ih none (by simpa using hrest) (by simpa using hchain)
        simp only [List.mem_append, or_and_right, exists_or, this]
        simp [hsat]

theorem contains_setOfIntervals (pieces : List (Interval ℝ)) (x : ℝ) :
    (setOfIntervals pieces).Contains x ↔ ∃ i ∈ pieces, i.contains x = true := by
  rcases pieces with _ | ⟨i, _ | ⟨j, js⟩⟩
  · simp [setOfIntervals, SolutionSet.Contains]
  · by_cases hline : i.isLine = true
    · have hcontains : i.contains x = true := by
        rcases i with ⟨_ | _ | _ | _, _ | _ | _ | _⟩ <;> simp_all [isLine]
        rfl
      simp [setOfIntervals, hline, SolutionSet.Contains, hcontains]
    · simp [setOfIntervals, hline, SolutionSet.Contains]
  · rfl

/-- The tested pieces from a lower bound on, with the critical points between them. -/
noncomputable def cellsFrom (r : Relation) (f : ℝ → ℝ) (lower : Bound ℝ) (critical : List ℝ) :
    List (Cell ℝ) :=
  interleave (r.holds (0 : ℝ) 0) ((openPieces lower critical).map (testPiece r f)) critical

theorem cellsFrom_nil (r : Relation) (f : ℝ → ℝ) (lower : Bound ℝ) :
    cellsFrom r f lower [] =
      [⟨⟨lower, .posInfinity⟩, (testPiece r f ⟨lower, .posInfinity⟩).satisfies⟩] :=
  rfl

theorem cellsFrom_cons (r : Relation) (f : ℝ → ℝ) (lower : Bound ℝ) (c : ℝ)
    (critical : List ℝ) :
    cellsFrom r f lower (c :: critical) =
      ⟨⟨lower, .openAt c⟩, (testPiece r f ⟨lower, .openAt c⟩).satisfies⟩ ::
        ⟨.point c, r.holds (0 : ℝ) 0⟩ :: cellsFrom r f (.openAt c) critical :=
  rfl

/-- Every number lies above the bound or below all of the critical points. -/
def Bounds (lower : Bound ℝ) (critical : List ℝ) : Prop :=
  ∀ c ∈ critical, ∀ x, lower.isBelow x = true ∨ x < c

theorem bounds_negInfinity (critical : List ℝ) : Bounds .negInfinity critical :=
  fun _ _ _ => .inl rfl

theorem bounds_openAt {c : ℝ} {critical : List ℝ} (h : ∀ d ∈ critical, c < d) :
    Bounds (.openAt c) critical := by
  intro d hd x
  rcases lt_or_ge c x with hx | hx
  · exact .inl (by simpa [Bound.isBelow] using hx)
  · exact .inr (hx.trans_lt (h d hd))

theorem proper_cellsFrom (r : Relation) (f : ℝ → ℝ) {lower : Bound ℝ} {critical : List ℝ}
    (hlower : Bounds lower critical) (hsorted : critical.Pairwise (· < ·)) :
    ∀ i ∈ (cellsFrom r f lower critical).map Cell.piece, i.Proper := by
  induction critical generalizing lower with
  | nil =>
      intro i hi
      obtain rfl : i = ⟨lower, .posInfinity⟩ := by simpa [cellsFrom_nil] using hi
      exact fun x => .inr rfl
  | cons c critical ih =>
      rw [List.pairwise_cons] at hsorted
      intro i hi
      simp only [cellsFrom_cons, List.map_cons, List.mem_cons] at hi
      rcases hi with rfl | rfl | hi
      · intro x
        simpa [Bound.isAbove] using hlower c (by simp) x
      · intro x
        simpa [point, Bound.isBelow, Bound.isAbove] using le_total c x
      · exact ih (bounds_openAt hsorted.1) hsorted.2 i hi

theorem meets_cellsFrom (r : Relation) (f : ℝ → ℝ) (lower : Bound ℝ) (critical : List ℝ) :
    ((cellsFrom r f lower critical).map Cell.piece).IsChain Meets := by
  induction critical generalizing lower with
  | nil => simp [cellsFrom_nil]
  | cons c critical ih =>
      have hmeets : (Interval.mk lower (.openAt c)).Meets (point c) := by
        intro x
        simp [point, Bound.isBelow, Bound.isAbove]
      have hrest : (point c :: (cellsFrom r f (.openAt c) critical).map Cell.piece).IsChain
          Meets := by
        have hnext (upper : Bound ℝ) : (point c).Meets ⟨.openAt c, upper⟩ := by
          intro x
          simp [point, Bound.isBelow, Bound.isAbove]
        have ih := ih (.openAt c)
        cases critical with
        | nil => simpa [cellsFrom_nil] using hnext _
        | cons d critical =>
            simp only [cellsFrom_cons, List.map_cons] at ih ⊢
            exact List.isChain_cons_cons.mpr ⟨hnext _, ih⟩
      simp only [cellsFrom_cons, List.map_cons]
      exact List.isChain_cons_cons.mpr ⟨hmeets, hrest⟩

theorem exists_mem_cellsFrom_iff (r : Relation) (f : ℝ → ℝ) (lower : Bound ℝ)
    (critical : List ℝ) (x : ℝ) :
    (∃ c ∈ cellsFrom r f lower critical, c.satisfies = true ∧ c.piece.contains x = true) ↔
      (x ∈ critical ∧ r.Relates 0 0) ∨
        ∃ i ∈ openPieces lower critical,
          r.holds (f i.sample) 0 = true ∧ i.contains x = true := by
  have hzero : r.holds (0 : ℝ) 0 = true ↔ r.Relates 0 0 :=
    Relation.holds_zero_of_lt r (by simpa using Exact.tolerance_pos)
  induction critical generalizing lower with
  | nil => simp [cellsFrom_nil, openPieces, testPiece]
  | cons c critical ih =>
      simp only [cellsFrom_cons, openPieces, List.mem_cons, exists_eq_or_imp, ih, hzero,
        contains_point, testPiece, Exact.zero_eq]
      tauto

/-- The set that test points give holds the critical points if equality satisfies, and the
pieces whose test does. -/
theorem contains_solveByTestPoints {critical : List ℝ} (hsorted : critical.Pairwise (· < ·))
    (r : Relation) (f : ℝ → ℝ) (x : ℝ) :
    (solveByTestPoints critical r f).1.Contains x ↔
      (x ∈ critical ∧ r.Relates 0 0) ∨
        ∃ i ∈ openPieces .negInfinity critical,
          r.holds (f i.sample) 0 = true ∧ i.contains x = true := by
  rw [← exists_mem_cellsFrom_iff]
  simp only [solveByTestPoints, contains_setOfIntervals]
  rw [exists_mem_mergeCells_iff x none _ ?_ ?_]
  · simp [cellsFrom]
  · simpa [cellsFrom] using proper_cellsFrom r f (bounds_negInfinity critical) hsorted
  · simpa [cellsFrom] using meets_cellsFrom r f .negInfinity critical

section Pieces

variable {critical : List ℝ} {x : ℝ}

theorem lt_of_mem_openPieces {c : ℝ} (hsorted : (c :: critical).Pairwise (· < ·))
    {i : Interval ℝ} (hi : i ∈ openPieces (.openAt c) critical) (hx : i.contains x = true) :
    c < x := by
  induction critical generalizing c with
  | nil =>
      obtain rfl : i = ⟨.openAt c, .posInfinity⟩ := by simpa [openPieces] using hi
      simpa [contains_iff, Bound.isBelow, Bound.isAbove] using hx
  | cons d critical ih =>
      rw [List.pairwise_cons] at hsorted
      rcases List.mem_cons.mp hi with rfl | hi
      · rw [contains_iff] at hx
        simpa [Bound.isBelow] using hx.1
      · exact (hsorted.1 d (by simp)).trans (ih hsorted.2 hi)

theorem eq_of_mem_openPieces {lower : Bound ℝ} (hsorted : critical.Pairwise (· < ·))
    {i j : Interval ℝ} (hi : i ∈ openPieces lower critical) (hj : j ∈ openPieces lower critical)
    (hxi : i.contains x = true) (hxj : j.contains x = true) : i = j := by
  induction critical generalizing lower with
  | nil =>
      simp only [openPieces, List.mem_singleton] at hi hj
      rw [hi, hj]
  | cons c critical ih =>
      have hapart {k : Interval ℝ} (hk : k ∈ openPieces (.openAt c) critical)
          (hxk : k.contains x = true) : (Interval.mk lower (.openAt c)).contains x ≠ true := by
        have hlt := lt_of_mem_openPieces hsorted hk hxk
        simp [contains_iff, Bound.isAbove, hlt.le]
      rcases List.mem_cons.mp hi with rfl | hi
      · rcases List.mem_cons.mp hj with rfl | hj
        · rfl
        · exact absurd hxi (hapart hj hxj)
      · rcases List.mem_cons.mp hj with rfl | hj
        · exact absurd hxj (hapart hi hxi)
        · exact ih (List.pairwise_cons.mp hsorted).2 hi hj

theorem not_contains_of_mem_critical {lower : Bound ℝ} (hsorted : critical.Pairwise (· < ·))
    (hx : x ∈ critical) {i : Interval ℝ} (hi : i ∈ openPieces lower critical) :
    ¬ i.contains x = true := by
  induction critical generalizing lower with
  | nil => simp at hx
  | cons c critical ih =>
      have hle : c ≤ x := by
        rcases List.mem_cons.mp hx with rfl | hx
        · exact le_rfl
        · exact ((List.pairwise_cons.mp hsorted).1 x hx).le
      rcases List.mem_cons.mp hi with rfl | hi
      · simp [contains_iff, Bound.isAbove, hle]
      · intro hxi
        have hlt := lt_of_mem_openPieces hsorted hi hxi
        exact ih (List.pairwise_cons.mp hsorted).2
          ((List.mem_cons.mp hx).resolve_left hlt.ne') hi hxi

variable (hsorted : critical.Pairwise (· < ·)) (r : Relation) (f : ℝ → ℝ)
include hsorted

theorem contains_critical (hx : x ∈ critical) :
    (solveByTestPoints critical r f).1.Contains x ↔ r.Relates 0 0 := by
  rw [contains_solveByTestPoints hsorted]
  constructor
  · rintro (⟨-, h⟩ | ⟨i, hi, -, hxi⟩)
    · exact h
    · exact absurd hxi (not_contains_of_mem_critical hsorted hx hi)
  · exact fun h => .inl ⟨hx, h⟩

theorem contains_piece {i : Interval ℝ} (hi : i ∈ openPieces .negInfinity critical)
    (hxi : i.contains x = true) :
    (solveByTestPoints critical r f).1.Contains x ↔ r.holds (f i.sample) 0 = true := by
  rw [contains_solveByTestPoints hsorted]
  constructor
  · rintro (⟨hx, -⟩ | ⟨j, hj, h, hxj⟩)
    · exact absurd hxi (not_contains_of_mem_critical hsorted hx hi)
    · rwa [eq_of_mem_openPieces hsorted hi hj hxi hxj]
  · exact fun h => .inr ⟨i, hi, h, hxi⟩

end Pieces

section TwoCriticalPoints

variable {x y t : ℝ} (r : Relation) (f : ℝ → ℝ)

theorem contains_below (hxy : x < y) (ht : t < x) :
    (solveByTestPoints [x, y] r f).1.Contains t ↔ r.holds (f (x - 1)) 0 = true := by
  have hsample : (Interval.mk .negInfinity (.openAt x)).sample = x - 1 := by
    simp [Interval.sample, Bound.value]
  rw [← hsample]
  exact contains_piece (by simpa using hxy) r f (by simp [openPieces])
    (by simpa [contains_iff, Bound.isBelow, Bound.isAbove] using ht)

theorem contains_between (hx : x < t) (hy : t < y) :
    (solveByTestPoints [x, y] r f).1.Contains t ↔ r.holds (f ((x + y) / 2)) 0 = true := by
  have hsample : (Interval.mk (.openAt x) (.openAt y)).sample = (x + y) / 2 := by
    simp [Interval.sample, Bound.value]
  rw [← hsample]
  exact contains_piece (by simpa using hx.trans hy) r f (by simp [openPieces])
    (by simpa [contains_iff, Bound.isBelow, Bound.isAbove] using ⟨hx, hy⟩)

theorem contains_above (hxy : x < y) (ht : y < t) :
    (solveByTestPoints [x, y] r f).1.Contains t ↔ r.holds (f (y + 1)) 0 = true := by
  have hsample : (Interval.mk (.openAt y) .posInfinity).sample = y + 1 := by
    simp [Interval.sample, Bound.value]
  rw [← hsample]
  exact contains_piece (by simpa using hxy) r f (by simp [openPieces])
    (by simpa [contains_iff, Bound.isBelow, Bound.isAbove] using ht)

end TwoCriticalPoints

end Solve

end EquationTutor
