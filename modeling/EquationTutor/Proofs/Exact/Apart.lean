import EquationTutor.Proofs.Exact.Sets

namespace EquationTutor

namespace Interval

/-- Some number of the line is in the interval. -/
def HasNumber (i : Interval ℝ) : Prop :=
  ∃ x, i.contains x = true

/-- Every number of the first interval is below every number of the second. -/
def Before (i j : Interval ℝ) : Prop :=
  ∀ x, i.contains x = true → ∀ y, j.contains y = true → x < y

/-- A number lies above the first interval and below the second, so that these do not meet
and are not the two halves of one interval. -/
def Apart (i j : Interval ℝ) : Prop :=
  ∃ z, (∀ x, i.contains x = true → x < z) ∧ ∀ y, j.contains y = true → z < y

theorem hasNumber_point (v : ℝ) : (point v).HasNumber :=
  ⟨v, (contains_point v v).mpr rfl⟩

theorem contains_lt_iff {lower : Bound ℝ} {c x : ℝ} :
    (Interval.mk lower (.openAt c)).contains x = true ↔ lower.isBelow x = true ∧ x < c := by
  simp [contains_iff, Bound.isAbove]

theorem contains_gt_iff {c x : ℝ} {upper : Bound ℝ} :
    (Interval.mk (.openAt c) upper).contains x = true ↔ c < x ∧ upper.isAbove x = true := by
  simp [contains_iff, Bound.isBelow]

end Interval

namespace Solve

open EquationTutor.Interval

theorem mem_cell_of_mem_mergeCells {run : Option (Interval ℝ)} {cells : List (Cell ℝ)}
    (hproper : ∀ i ∈ run.toList ++ cells.map Cell.piece, i.Proper)
    (hmeets : (run.toList ++ cells.map Cell.piece).IsChain Meets) {j : Interval ℝ}
    (hj : j ∈ mergeCells run cells) {x : ℝ} (hx : j.contains x = true) :
    ∃ i ∈ run.toList ++ cells.map Cell.piece, i.contains x = true := by
  rcases (exists_mem_mergeCells_iff x run cells hproper hmeets).mp ⟨j, hj, hx⟩ with
    ⟨i, hi, hxi⟩ | ⟨c, hc, -, hxc⟩
  · exact ⟨i, by simp_all, hxi⟩
  · exact ⟨c.piece, List.mem_append_right _ (List.mem_map_of_mem hc), hxc⟩

theorem apart_of_cell_between {i c j : Interval ℝ} (hc : c.HasNumber) (hic : i.Before c)
    (hcj : c.Before j) : i.Apart j := by
  obtain ⟨z, hz⟩ := hc
  exact ⟨z, fun x hx => hic x hx z hz, fun y hy => hcj z hz y hy⟩

theorem hasNumber_and_apart_mergeCells (run : Option (Interval ℝ)) (cells : List (Cell ℝ))
    (hproper : ∀ i ∈ run.toList ++ cells.map Cell.piece, i.Proper)
    (hmeets : (run.toList ++ cells.map Cell.piece).IsChain Meets)
    (hnumber : ∀ i ∈ run.toList ++ cells.map Cell.piece, i.HasNumber)
    (hbefore : (run.toList ++ cells.map Cell.piece).Pairwise Before) :
    (∀ i ∈ mergeCells run cells, i.HasNumber) ∧ (mergeCells run cells).Pairwise Apart := by
  induction cells generalizing run with
  | nil =>
      refine ⟨by simpa [mergeCells] using hnumber, ?_⟩
      cases run <;> simp [mergeCells]
  | cons c cells ih =>
      simp only [mergeCells]
      split
      · -- the run goes on over the cell
        cases run with
        | none =>
            exact ih (some c.piece) (by simpa using hproper) (by simpa using hmeets)
              (by simpa using hnumber) (by simpa using hbefore)
        | some i =>
            have hi : i.Proper := hproper i (by simp)
            have hc : c.piece.Proper := hproper c.piece (by simp)
            have hic : i.Meets c.piece := by simpa using hmeets.rel
            have hjoin := hic.contains_join hi hc
            simp only [Option.toList_some, List.singleton_append, List.map_cons,
              List.pairwise_cons, List.mem_cons, forall_eq_or_imp] at hproper hnumber hbefore
            simp only [Option.getD_some]
            refine ih _ ?_ ?_ ?_ ?_
            · exact List.forall_mem_cons.mpr ⟨hic.proper_join hi hc, hproper.2.2⟩
            · have hchain : (c.piece :: cells.map Cell.piece).IsChain Meets := hmeets.tail
              cases hcells : cells.map Cell.piece with
              | nil => simp
              | cons j js =>
                  rw [hcells] at hchain
                  simpa [List.isChain_cons_cons, Meets] using hchain
            · obtain ⟨x, hx⟩ := hnumber.1
              exact List.forall_mem_cons.mpr ⟨⟨x, (hjoin x).mpr (Or.inl hx)⟩, hnumber.2.2⟩
            · simp only [Option.toList_some, List.singleton_append, List.pairwise_cons]
              refine ⟨fun j hj x hx y hy => ?_, hbefore.2.2⟩
              rcases (hjoin x).mp hx with hx | hx
              · exact hbefore.1.2 j hj x hx y hy
              · exact hbefore.2.1 j hj x hx y hy
      · -- the cell ends the run
        have hsplit : run.toList ++ (c :: cells).map Cell.piece =
            (run.toList ++ [c.piece]) ++ cells.map Cell.piece := by simp
        have hrest : ∀ i ∈ cells.map Cell.piece,
            i ∈ run.toList ++ (c :: cells).map Cell.piece := by
          intro i hi
          rw [hsplit]
          exact List.mem_append_right _ hi
        have hproper' : ∀ i ∈ cells.map Cell.piece, i.Proper := fun i hi => hproper i (hrest i hi)
        have hmeets' : (cells.map Cell.piece).IsChain Meets := by
          rw [hsplit] at hmeets
          exact hmeets.right_of_append
        have hbefore' := hbefore
        rw [hsplit, List.pairwise_append] at hbefore'
        obtain ⟨hnumbers, hapart⟩ := ih none (by simpa using hproper') (by simpa using hmeets')
          (by simpa using fun i hi => hnumber i (hrest i hi)) (by simpa using hbefore'.2.1)
        constructor
        · intro i hi
          rcases List.mem_append.mp hi with hi | hi
          · exact hnumber i (List.mem_append_left _ hi)
          · exact hnumbers i hi
        · rw [List.pairwise_append]
          refine ⟨by cases run <;> simp, hapart, fun i hi j hj => ?_⟩
          refine apart_of_cell_between (hnumber c.piece (by simp)) ?_ ?_
          · exact (List.pairwise_append.mp hbefore).2.2 i hi c.piece (by simp)
          · intro x hx y hy
            obtain ⟨k, hk, hyk⟩ := @mem_cell_of_mem_mergeCells none cells hproper' hmeets' j hj y hy
            exact hbefore'.2.2 c.piece (by simp) k hk x hx y hyk

section Cells

variable (r : Relation) (f : ℝ → ℝ) {lower : Bound ℝ} {critical : List ℝ}

theorem hasNumber_cellsFrom (hroom : ∃ x, lower.isBelow x = true)
    (hbelow : ∀ c ∈ critical, ∃ x, lower.isBelow x = true ∧ x < c)
    (hsorted : critical.Pairwise (· < ·)) :
    ∀ i ∈ (cellsFrom r f lower critical).map Cell.piece, i.HasNumber := by
  induction critical generalizing lower with
  | nil =>
      obtain ⟨x, hx⟩ := hroom
      intro i hi
      obtain rfl : i = ⟨lower, .posInfinity⟩ := by simpa [cellsFrom_nil] using hi
      exact ⟨x, (contains_iff _ x).mpr ⟨hx, rfl⟩⟩
  | cons c critical ih =>
      rw [List.pairwise_cons] at hsorted
      intro i hi
      simp only [cellsFrom_cons, List.map_cons, List.mem_cons] at hi
      rcases hi with rfl | rfl | hi
      · obtain ⟨x, hx, hxc⟩ := hbelow c (by simp)
        exact ⟨x, contains_lt_iff.mpr ⟨hx, hxc⟩⟩
      · exact hasNumber_point c
      · refine ih ⟨c + 1, by simp [Bound.isBelow]⟩ (fun d hd => ?_) hsorted.2 i hi
        obtain ⟨x, hcx, hxd⟩ := exists_between (hsorted.1 d hd)
        exact ⟨x, by simpa [Bound.isBelow] using hcx, hxd⟩

theorem lt_of_mem_cellsFrom {c : ℝ} (hsorted : (c :: critical).Pairwise (· < ·))
    {i : Interval ℝ} (hi : i ∈ (cellsFrom r f (.openAt c) critical).map Cell.piece) {x : ℝ}
    (hx : i.contains x = true) : c < x := by
  induction critical generalizing c with
  | nil =>
      obtain rfl : i = ⟨.openAt c, .posInfinity⟩ := by simpa [cellsFrom_nil] using hi
      exact (contains_gt_iff.mp hx).1
  | cons d critical ih =>
      rw [List.pairwise_cons] at hsorted
      have hcd : c < d := hsorted.1 d (by simp)
      simp only [cellsFrom_cons, List.map_cons, List.mem_cons] at hi
      rcases hi with rfl | rfl | hi
      · exact (contains_gt_iff.mp hx).1
      · exact hcd.trans_eq ((contains_point d x).mp hx).symm
      · exact hcd.trans (ih hsorted.2 hi)

theorem before_cellsFrom (hsorted : critical.Pairwise (· < ·)) :
    ((cellsFrom r f lower critical).map Cell.piece).Pairwise Before := by
  induction critical generalizing lower with
  | nil => simp [cellsFrom_nil]
  | cons c critical ih =>
      have habove : ∀ i ∈ (cellsFrom r f (.openAt c) critical).map Cell.piece,
          ∀ x, i.contains x = true → c < x :=
        fun i hi x hx => lt_of_mem_cellsFrom r f hsorted hi hx
      simp only [cellsFrom_cons, List.map_cons, List.pairwise_cons, List.mem_cons,
        forall_eq_or_imp]
      refine ⟨⟨?_, ?_⟩, ?_, ih (List.pairwise_cons.mp hsorted).2⟩
      · intro x hx y hy
        exact (contains_lt_iff.mp hx).2.trans_eq ((contains_point c y).mp hy).symm
      · intro i hi x hx y hy
        exact (contains_lt_iff.mp hx).2.trans (habove i hi y hy)
      · intro i hi x hx y hy
        exact ((contains_point c x).mp hx).trans_lt (habove i hi y hy)

end Cells

theorem apart_solveByTestPoints {critical : List ℝ} (hsorted : critical.Pairwise (· < ·))
    (r : Relation) (f : ℝ → ℝ) {pieces : List (Interval ℝ)}
    (hset : (solveByTestPoints critical r f).1 = .intervals pieces) :
    (∀ i ∈ pieces, i.HasNumber) ∧ pieces.Pairwise Apart := by
  have hmerged := hasNumber_and_apart_mergeCells none (cellsFrom r f .negInfinity critical)
    (by simpa using proper_cellsFrom r f (bounds_negInfinity critical) hsorted)
    (by simpa using meets_cellsFrom r f .negInfinity critical)
    (by simpa using hasNumber_cellsFrom r f ⟨0, rfl⟩ (fun c _ => ⟨c - 1, rfl, by simp⟩) hsorted)
    (by simpa using before_cellsFrom r f hsorted)
  have hmerge : (solveByTestPoints critical r f).1 =
      setOfIntervals (mergeCells none (cellsFrom r f .negInfinity critical)) := by
    simp [solveByTestPoints, cellsFrom]
  rw [hmerge] at hset
  rcases hpieces : mergeCells none (cellsFrom r f .negInfinity critical) with
    _ | ⟨i, _ | ⟨j, js⟩⟩
  · simp [hpieces, setOfIntervals] at hset
  · cases hline : i.isLine <;> simp [hpieces, setOfIntervals, hline] at hset
    rw [← hset, ← hpieces]
    exact hmerged
  · simp only [hpieces, setOfIntervals, SolutionSet.intervals.injEq] at hset
    rw [← hset, ← hpieces]
    exact hmerged

theorem apart_isolatedSet (rhs : ℝ) (r : Relation) {pieces : List (Interval ℝ)}
    (hset : isolatedSet rhs r = .intervals pieces) :
    (∀ i ∈ pieces, i.HasNumber) ∧ pieces.Pairwise Apart := by
  have hbelow : (Interval.mk .negInfinity (.openAt rhs)).HasNumber :=
    ⟨rhs - 1, contains_lt_iff.mpr ⟨rfl, by simp⟩⟩
  have habove : (Interval.mk (.openAt rhs) .posInfinity).HasNumber :=
    ⟨rhs + 1, contains_gt_iff.mpr ⟨by simp, rfl⟩⟩
  cases r with
  | eq => cases hset
  | ne =>
      cases hset
      have hapart : (Interval.mk .negInfinity (.openAt rhs)).Apart ⟨.openAt rhs, .posInfinity⟩ :=
        ⟨rhs, fun x hx => (contains_lt_iff.mp hx).2, fun y hy => (contains_gt_iff.mp hy).1⟩
      exact ⟨by simpa using ⟨hbelow, habove⟩, by simpa using hapart⟩
  | lt =>
      cases hset
      exact ⟨by simpa using hbelow, List.pairwise_singleton ..⟩
  | gt =>
      cases hset
      exact ⟨by simpa using habove, List.pairwise_singleton ..⟩
  | le =>
      cases hset
      have hnumber : (Interval.mk .negInfinity (.closedAt rhs)).HasNumber :=
        ⟨rhs, by simp [contains_iff, Bound.isBelow, Bound.isAbove]⟩
      exact ⟨by simpa using hnumber, List.pairwise_singleton ..⟩
  | ge =>
      cases hset
      have hnumber : (Interval.mk (.closedAt rhs) .posInfinity).HasNumber :=
        ⟨rhs, by simp [contains_iff, Bound.isBelow, Bound.isAbove]⟩
      exact ⟨by simpa using hnumber, List.pairwise_singleton ..⟩

end Solve

end EquationTutor
