import EquationTutor.Proofs.Exact.Apart
import EquationTutor.Proofs.Exact.PositiveRoots
import EquationTutor.Proofs.Verification.Sampling
/-!
The samples of a union of intervals. Each interval gives one of its numbers. The sample outside is
looked for between the end points and at a distance of 1 from them, so it is found unless the
outside consists of end points alone and none of these is at such a distance from another.
-/

namespace EquationTutor

open Scalar

namespace Interval

variable {i : Interval ℝ} {x y : ℝ}

theorem contains_sample (h : i.HasNumber) : i.contains i.sample = true := by
  obtain ⟨x, hx⟩ := h
  rw [contains_iff] at hx ⊢
  obtain ⟨hlower, hupper⟩ := hx
  rcases i with ⟨_ | _ | a | a, _ | _ | b | b⟩ <;>
    simp [Bound.isBelow, Bound.isAbove, sample, Bound.value] at hlower hupper ⊢ <;>
    constructor <;> linarith

def ends (i : Interval ℝ) : List ℝ :=
  i.lower.endPoint?.toList ++ i.upper.endPoint?.toList

/-- The numbers stand on the same side of `e`, if they are not equal to it both. -/
def SameSide (e x y : ℝ) : Prop :=
  (x < e ↔ y < e) ∧ (e < x ↔ e < y)

/-- Which of the numbers between two end points it is does not matter. -/
theorem contains_iff_of_sameSide (h : ∀ e ∈ i.ends, SameSide e x y) :
    i.contains x = true ↔ i.contains y = true := by
  rw [contains_iff, contains_iff]
  rcases i with ⟨_ | _ | a | a, _ | _ | b | b⟩ <;>
    simp_all [ends, SameSide, Bound.endPoint?, Bound.isBelow, Bound.isAbove, ← not_lt]

end Interval

namespace Verification

open EquationTutor.Interval

section Candidates

variable {es : List ℝ} {e x y : ℝ}

theorem mem_candidates_iff : x ∈ candidates es ↔
    x ∈ middles es ∨ (∃ e ∈ es, |x - e| = 1) ∨ es = [] ∧ x = 0 := by
  have hbeside (e : ℝ) : x = e - 1 ∨ x = e + 1 ↔ |x - e| = 1 := by
    rw [abs_eq zero_le_one, sub_eq_iff_eq_add', sub_eq_iff_eq_add', or_comm, sub_eq_add_neg]
  have hempty : (x ∈ if es.isEmpty then [(0 : ℝ)] else []) ↔ es = [] ∧ x = 0 := by
    cases es <;> simp
  simp only [candidates, Exact.one_eq, Exact.zero_eq, List.mem_append, List.mem_flatMap,
    List.mem_pair, hbeside, hempty, or_assoc]

theorem middles_cons_cons (x y : ℝ) (rest : List ℝ) :
    middles (x :: y :: rest) = (x + y) / 2 :: middles (y :: rest) := by
  simp [middles]

theorem lt_of_mem_middles (h : (e :: es).Pairwise (· < ·)) (hx : x ∈ middles (e :: es)) :
    e < x := by
  induction es generalizing e with
  | nil => cases hx
  | cons f es ih =>
      have hef : e < f := List.rel_of_pairwise_cons h List.mem_cons_self
      rw [middles_cons_cons, List.mem_cons] at hx
      rcases hx with rfl | hx
      · linarith
      · exact hef.trans (ih h.of_cons hx)

theorem notMem_of_mem_middles (h : es.Pairwise (· < ·)) (hx : x ∈ middles es) : x ∉ es := by
  induction es with
  | nil => cases hx
  | cons e es ih =>
      have hex : e < x := lt_of_mem_middles h hx
      rw [List.mem_cons, not_or]
      refine ⟨hex.ne', ?_⟩
      cases es with
      | nil => exact List.not_mem_nil
      | cons f es =>
          rw [middles_cons_cons, List.mem_cons] at hx
          rcases hx with rfl | hx
          · have hef : e < f := List.rel_of_pairwise_cons h List.mem_cons_self
            have hfirst : ∀ g ∈ f :: es, f ≤ g := by
              intro g hg
              rcases List.mem_cons.mp hg with rfl | hg
              · exact le_rfl
              · exact (List.rel_of_pairwise_cons h.of_cons hg).le
            intro hmem
            linarith [hfirst _ hmem]
          · exact ih h.of_cons hx

theorem exists_candidate_above (h : (e :: es).Pairwise (· < ·)) (hx : x ∉ es) (hex : e < x) :
    ∃ y, (y ∈ middles (e :: es) ∨ ∃ l ∈ e :: es, y = l + 1) ∧ e < y ∧
      ∀ f ∈ es, SameSide f x y := by
  induction es generalizing e with
  | nil => exact ⟨e + 1, .inr ⟨e, List.mem_cons_self, rfl⟩, by linarith, by simp⟩
  | cons f es ih =>
      have hef : e < f := List.rel_of_pairwise_cons h List.mem_cons_self
      rw [List.mem_cons, not_or] at hx
      rcases lt_or_gt_of_ne hx.1 with hxf | hfx
      · refine ⟨(e + f) / 2, .inl ?_, by linarith, fun g hg => ?_⟩
        · rw [middles_cons_cons]
          exact List.mem_cons_self
        · have hfg : f ≤ g := by
            rcases List.mem_cons.mp hg with rfl | hg
            · exact le_rfl
            · exact (List.rel_of_pairwise_cons h.of_cons hg).le
          constructor <;> constructor <;> intro <;> linarith
      · obtain ⟨y, hy, hfy, hside⟩ := ih h.of_cons hx.2 hfx
        refine ⟨y, ?_, hef.trans hfy, fun g hg => ?_⟩
        · rw [middles_cons_cons]
          rcases hy with hy | ⟨l, hl, rfl⟩
          · exact .inl (List.mem_cons_of_mem _ hy)
          · exact .inr ⟨l, List.mem_cons_of_mem _ hl, rfl⟩
        · rcases List.mem_cons.mp hg with rfl | hg
          · exact ⟨iff_of_false hfx.not_gt hfy.not_gt, iff_of_true hfx hfy⟩
          · exact hside g hg

theorem exists_candidate (h : es.Pairwise (· < ·)) (hx : x ∉ es) :
    ∃ y ∈ candidates es, ∀ e ∈ es, SameSide e x y := by
  cases es with
  | nil => exact ⟨0, mem_candidates_iff.mpr (.inr (.inr ⟨rfl, rfl⟩)), by simp⟩
  | cons e es =>
      rw [List.mem_cons, not_or] at hx
      rcases lt_or_gt_of_ne hx.1 with hxe | hex
      · refine ⟨e - 1, mem_candidates_iff.mpr (.inr (.inl ⟨e, List.mem_cons_self, by simp⟩)),
          fun f hf => ?_⟩
        have hef : e ≤ f := by
          rcases List.mem_cons.mp hf with rfl | hf
          · exact le_rfl
          · exact (List.rel_of_pairwise_cons h hf).le
        constructor <;> constructor <;> intro <;> linarith
      · obtain ⟨y, hy, hey, hside⟩ := exists_candidate_above h hx.2 hex
        refine ⟨y, mem_candidates_iff.mpr ?_, fun f hf => ?_⟩
        · rcases hy with hy | ⟨l, hl, rfl⟩
          · exact .inl hy
          · exact .inr (.inl ⟨l, hl, by simp⟩)
        · rcases List.mem_cons.mp hf with rfl | hf
          · exact ⟨iff_of_false hex.not_gt hey.not_gt, iff_of_true hex hey⟩
          · exact hside f hf

end Candidates

section Samples

variable {pieces : List (Interval ℝ)}

theorem mem_endPoints_iff {x : ℝ} :
    x ∈ endPoints pieces ↔ ∃ i ∈ pieces, x ∈ i.ends := by
  induction pieces with
  | nil => simp
  | cons i pieces ih =>
      rw [endPoints_cons, ← List.append_assoc, List.mem_append, ih, List.exists_mem_cons_iff]
      rfl

theorem mem_edges_iff {x : ℝ} : x ∈ edges pieces ↔ x ∈ endPoints pieces := by
  rw [edges, Solve.mem_dedup_iff, Solve.mem_sort_iff, List.mem_filter]
  exact and_iff_left rfl

theorem pairwise_edges : (edges pieces).Pairwise (· < ·) :=
  pairwise_dedupBy (fun _ => beq_self_eq_true _) (pairwise_sort _)

/-- In none of the intervals. -/
def Outside (pieces : List (Interval ℝ)) (x : ℝ) : Prop :=
  ∀ i ∈ pieces, ¬ i.contains x = true

/-- One sample lies in each interval, and the last one in none of them. -/
def Probes (pieces : List (Interval ℝ)) : Prop :=
  ∃ inside outside, samplePoints pieces = inside ++ [outside] ∧
    List.Forall₂ (fun i x => i.contains x = true) pieces inside ∧ Outside pieces outside

theorem outside_iff_of_sameSide {x y : ℝ} (h : ∀ e ∈ edges pieces, SameSide e x y) :
    Outside pieces x ↔ Outside pieces y := by
  refine forall₂_congr fun i hi => not_congr (contains_iff_of_sameSide fun e he => h e ?_)
  exact mem_edges_iff.mpr (mem_endPoints_iff.mpr ⟨i, hi, he⟩)

/-- Samples are taken inside the intervals, and a candidate outside follows them if there is
one. -/
theorem probes_iff_exists_candidate (h : ∀ i ∈ pieces, i.HasNumber) :
    Probes pieces ↔ ∃ x ∈ candidates (edges pieces), Outside pieces x := by
  have hinside : List.Forall₂ (fun (i : Interval ℝ) x => i.contains x = true) pieces
      (pieces.map Interval.sample) :=
    List.forall₂_map_right_iff.mpr (List.forall₂_same.mpr fun i hi => contains_sample (h i hi))
  have houtside (x : ℝ) : (!pieces.any fun i => i.contains x) = true ↔ Outside pieces x := by
    simp [Outside]
  rw [Probes, samplePoints]
  constructor
  · rintro ⟨inside, outside, hpoints, hlies, hout⟩
    have hlength : (pieces.map Interval.sample).length = inside.length := by
      rw [List.length_map, hlies.length_eq]
    have hfound := Option.toList_eq_singleton_iff.mp (List.append_inj_right hpoints hlength)
    exact ⟨outside, List.mem_of_find?_eq_some hfound, hout⟩
  · rintro ⟨x, hx, hout⟩
    have hsome : ((candidates (edges pieces)).find? fun x =>
        !pieces.any fun i => i.contains x).isSome = true := by
      rw [List.find?_isSome]
      exact ⟨x, hx, (houtside x).mpr hout⟩
    obtain ⟨y, hfound⟩ := Option.isSome_iff_exists.mp hsome
    refine ⟨_, y, by rw [hfound]; rfl, hinside, (houtside y).mp ?_⟩
    simpa only using List.find?_some hfound

theorem of_mem_candidates {x : ℝ} (h : x ∈ candidates (edges pieces)) :
    x ∉ endPoints pieces ∨ ∃ e ∈ endPoints pieces, |x - e| = 1 := by
  simp only [← mem_edges_iff]
  rcases mem_candidates_iff.mp h with hmiddle | hbeside | ⟨hnil, -⟩
  · exact .inl (notMem_of_mem_middles pairwise_edges hmiddle)
  · exact .inr hbeside
  · rw [hnil]
    exact .inl List.not_mem_nil

/-- A sample is taken outside just if some number outside is no end point, or is an end point at
a distance of 1 from another. -/
theorem probes_iff (h : ∀ i ∈ pieces, i.HasNumber) :
    Probes pieces ↔ ∃ x, Outside pieces x ∧
      (x ∉ endPoints pieces ∨ ∃ e ∈ endPoints pieces, |x - e| = 1) := by
  rw [probes_iff_exists_candidate h]
  constructor
  · rintro ⟨x, hx, hout⟩
    exact ⟨x, hout, of_mem_candidates hx⟩
  · simp only [← mem_edges_iff]
    rintro ⟨x, hout, hedge | hbeside⟩
    · obtain ⟨y, hy, hside⟩ := exists_candidate pairwise_edges hedge
      exact ⟨y, hy, (outside_iff_of_sameSide hside).mp hout⟩
    · exact ⟨x, mem_candidates_iff.mpr (.inr (.inl hbeside)), hout⟩

end Samples

/-- What is left of the line without two numbers, the smaller one first. -/
def allButBoth (x y : ℝ) : List (Interval ℝ) :=
  [⟨.negInfinity, .openAt x⟩, ⟨.openAt x, .openAt y⟩, ⟨.openAt y, .posInfinity⟩]

theorem probes_allButTwoAndThree :
    (∀ i ∈ allButBoth 2 3, i.HasNumber) ∧ Probes (allButBoth 2 3) := by
  have hnumber : ∀ i ∈ allButBoth 2 3, i.HasNumber := by
    simp only [allButBoth, List.forall_mem_cons, HasNumber, contains_lt_iff,
      contains_gt_iff]
    refine ⟨⟨1, rfl, by norm_num⟩, ⟨5 / 2, ?_, by norm_num⟩, ⟨4, by norm_num, rfl⟩, by simp⟩
    norm_num [Bound.isBelow]
  refine ⟨hnumber, (probes_iff hnumber).mpr ⟨3, ?_, .inr ⟨2, ?_, by norm_num⟩⟩⟩
  · norm_num [Outside, allButBoth, contains_iff, Bound.isBelow, Bound.isAbove]
  · simp [allButBoth, Bound.endPoint?]

/-- What is left of the line without one number. -/
def allBut (x : ℝ) : List (Interval ℝ) :=
  [⟨.negInfinity, .openAt x⟩, ⟨.openAt x, .posInfinity⟩]

/-- Among the solutions of `x² - 4x + 4 > 0`, the only number outside is an end point. -/
theorem not_probes_allButTwo :
    allBut 2 ≠ [] ∧ (∀ i ∈ allBut 2, i.HasNumber) ∧ (allBut 2).Pairwise Before ∧
      (∃ x, Outside (allBut 2) x) ∧ ¬ Probes (allBut 2) := by
  have hnumber : ∀ i ∈ allBut 2, i.HasNumber := by
    simp only [allBut, List.forall_mem_cons, HasNumber, contains_lt_iff, contains_gt_iff]
    exact ⟨⟨1, rfl, by norm_num⟩, ⟨3, by norm_num, rfl⟩, by simp⟩
  have hout (x : ℝ) : Outside (allBut 2) x ↔ x = 2 := by
    simp only [Outside, allBut, List.forall_mem_cons, contains_lt_iff, contains_gt_iff]
    simp [Bound.isBelow, Bound.isAbove, le_antisymm_iff, and_comm]
  have hends (x : ℝ) : x ∈ endPoints (allBut 2) ↔ x = 2 := by
    simp [allBut, Bound.endPoint?]
  refine ⟨List.cons_ne_nil _ _, hnumber, ?_, ⟨2, (hout 2).mpr rfl⟩, ?_⟩
  · simp only [allBut, List.pairwise_pair, Before, contains_lt_iff, contains_gt_iff]
    exact fun x hx y hy => hx.2.trans hy.1
  · rw [probes_iff_exists_candidate hnumber]
    rintro ⟨x, hx, hx2⟩
    obtain rfl := (hout x).mp hx2
    rcases of_mem_candidates hx with hedge | ⟨e, he, hdistance⟩
    · exact hedge ((hends 2).mpr rfl)
    · obtain rfl := (hends e).mp he
      norm_num at hdistance

end Verification

end EquationTutor
