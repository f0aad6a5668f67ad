import EquationTutor.Proofs.Pattern.Takes
import EquationTutor.Reading.Parse
import Mathlib.Data.List.Basic
import Mathlib.Data.List.TakeWhile

namespace EquationTutor.Reading

/-- Whether some recognizer of the kind can take a piece of the text. -/
def Stated (kind : Kind) (cs : List Char) : Prop :=
  ∃ p ∈ recognizers kind, p.Within cs

/-- The first kind with a recognizer that is found in the text. -/
def firstKind? (s : String) : Option Kind :=
  Kind.all.find? fun kind => (recognizers kind).any fun p => p.occursIn s

theorem any_occursIn_iff {kind : Kind} {s : String} :
    ((recognizers kind).any fun p => p.occursIn s) = true ↔ Stated kind s.toList := by
  simp only [List.any_eq_true, Pattern.occursIn_iff, Stated]

theorem firstKind?_eq_none_iff {s : String} :
    firstKind? s = none ↔ ∀ kind, ¬ Stated kind s.toList := by
  have hall (kind : Kind) : kind ∈ Kind.all := by
    cases kind <;> decide
  simp only [firstKind?, List.find?_eq_none, any_occursIn_iff, hall, true_implies]

/-- The text states its kind and none that stands before it. -/
theorem firstKind?_eq_some_iff {s : String} {kind : Kind} :
    firstKind? s = some kind ↔
      Stated kind s.toList ∧ ∀ k ∈ Kind.all.takeWhile (· ≠ kind), ¬ Stated k s.toList := by
  have hsplit : ∃ ks, Kind.all = Kind.all.takeWhile (· ≠ kind) ++ kind :: ks ∧ kind ∉ ks := by
    cases kind <;> exact ⟨_, rfl, by decide⟩
  obtain ⟨ks, hks, hnotin⟩ := hsplit
  have hbefore : kind ∉ Kind.all.takeWhile (· ≠ kind) := by
    intro h
    simpa using List.mem_takeWhile_imp h
  rw [firstKind?, List.find?_eq_some_iff_append, any_occursIn_iff]
  simp only [Bool.not_eq_true', ← Bool.not_eq_true, any_occursIn_iff]
  refine and_congr_right fun _ => ?_
  constructor
  · rintro ⟨as, bs, hall, hnone⟩
    rw [hks] at hall
    have := List.append_cons_inj_of_notMem hbefore hnotin |>.mp hall
    rwa [this.1]
  · intro hnone
    exact ⟨_, ks, hks, hnone⟩

theorem map_kind_findSome?_zipIdx (kind : Kind) {s : String} (hs : s ≠ "")
    (ps : List Pattern) (n : Nat) :
    ((ps.zipIdx n).map fun p => Recognizer.mk kind p.2 p.1).findSome?
        (fun r => (r.classify? s none).map Classification.kind) =
      if ps.any fun p => p.occursIn s then some kind else none := by
  induction ps generalizing n with
  | nil => rfl
  | cons p ps ih =>
      rw [List.zipIdx_cons, List.map_cons, List.findSome?_cons, ih]
      have hne : s.isEmpty = false := by simpa using hs
      cases h : p.occursIn s <;> simp [Recognizer.classify?, hne, h]

theorem map_kind_findSome?_catalog {s : String} (hs : s ≠ "") :
    (catalog.findSome? fun r => r.classify? s none).map Classification.kind =
      firstKind? s := by
  rw [List.map_findSome?, catalog, firstKind?]
  change (List.flatMap recognizersOf Kind.all).findSome?
    (fun r => (r.classify? s none).map Classification.kind) = _
  induction Kind.all with
  | nil => rfl
  | cons kind kinds ih =>
      have hkind := map_kind_findSome?_zipIdx kind hs (recognizers kind) 0
      rw [List.flatMap_cons, List.findSome?_append, ih, recognizersOf, hkind, List.find?_cons]
      cases (recognizers kind).any fun p => p.occursIn s <;> rfl

section Classify

variable {α : Type} [Scalar α] {s : String} (hs : s ≠ "")
include hs

theorem exists_recognizer_of_firstKind? {kind : Kind} (h : firstKind? s = some kind) :
    ∃ c, (catalog.findSome? fun r => r.classify? s none) = some c ∧ c.kind = kind := by
  rw [← map_kind_findSome?_catalog hs] at h
  exact Option.map_eq_some_iff.mp h

theorem classify_of_firstKind?_eq_none (h : firstKind? s = none) :
    classify s none none (.empty : Params α) = .error (.unrecognized s) := by
  rw [← map_kind_findSome?_catalog hs] at h
  have hnone := Option.map_eq_none_iff.mp h
  have hne : s.isEmpty = false := by simpa using hs
  change recognize s none (.empty : Params α) = _
  simp only [recognize, hnone, hne]
  rfl

theorem classify_of_firstKind?_eq_some {kind : Kind} (h : firstKind? s = some kind)
    (hkind : kind ≠ .exponentialQuadratic) :
    ∃ c, classify s none none (.empty : Params α) = .ok c ∧ c.kind = kind := by
  obtain ⟨c, hc, rfl⟩ := exists_recognizer_of_firstKind? hs h
  refine ⟨c, ?_, rfl⟩
  change recognize s none (.empty : Params α) = _
  simp [recognize, hc, hkind]

/-- An exponential in quadratic form is refused if its bases differ, and only then. -/
theorem exists_classify_exponentialQuadratic (h : firstKind? s = some .exponentialQuadratic) :
    ∃ c, c.kind = .exponentialQuadratic ∧ classify s none none (.empty : Params α) =
      if (mixedBases α s).isSome then .error (.unrecognized s) else .ok c := by
  obtain ⟨c, hc, hkind⟩ := exists_recognizer_of_firstKind? hs h
  refine ⟨c, hkind, ?_⟩
  change recognize s none (.empty : Params α) = _
  simp [recognize, hc, hkind]

theorem classify_of_exponentialQuadratic (h : firstKind? s = some .exponentialQuadratic) :
    (∃ c, classify s none none (.empty : Params α) = .ok c ∧
        c.kind = .exponentialQuadratic) ∨
      classify s none none (.empty : Params α) = .error (.unrecognized s) := by
  obtain ⟨c, hkind, hclassify⟩ := exists_classify_exponentialQuadratic (α := α) hs h
  rw [hclassify]
  split
  · exact Or.inr rfl
  · exact Or.inl ⟨c, rfl, hkind⟩

end Classify

/-- A text that nothing else is said about is read as the first kind that it states. -/
theorem parseProblem_of_firstKind? {α : Type} [Scalar α] {text : String} (context : Option String)
    (hne : normalize text ≠ "") {kind : Kind} (h : firstKind? (normalize text) = some kind)
    (hkind : kind ≠ .exponentialQuadratic) :
    ∃ problem : Problem α, parseProblem ⟨some text, none, none, none, context⟩ = .ok problem ∧
      problem.kind = kind ∧ problem.parameters = extract kind (normalize text) none := by
  obtain ⟨c, hclassify, rfl⟩ := classify_of_firstKind?_eq_some (α := α) hne h hkind
  refine ⟨⟨text, normalize text, c.kind, none, extract c.kind (normalize text) none, context⟩, ?_,
    rfl, rfl⟩
  simp only [parseProblem, Option.getD_some, Option.getD_none, Option.map_none,
    Option.filter_none, hclassify]
  rfl

theorem parseProblem_of_firstKind?_eq_none {α : Type} [Scalar α] {text : String}
    (context : Option String) (hne : normalize text ≠ "")
    (h : firstKind? (normalize text) = none) :
    parseProblem (⟨some text, none, none, none, context⟩ : Question α) =
      .error (.unrecognized (normalize text)) := by
  simp only [parseProblem, Option.getD_some, Option.getD_none, Option.map_none,
    Option.filter_none, classify_of_firstKind?_eq_none hne h]
  rfl

theorem parseProblem_of_exponentialQuadratic {α : Type} [Scalar α] {text : String}
    (context : Option String) (hne : normalize text ≠ "")
    (h : firstKind? (normalize text) = some .exponentialQuadratic) :
    parseProblem (⟨some text, none, none, none, context⟩ : Question α) =
      if (mixedBases α (normalize text)).isSome then .error (.unrecognized (normalize text))
      else .ok ⟨text, normalize text, .exponentialQuadratic, none,
        exponentialQuadratic (normalize text), context⟩ := by
  obtain ⟨c, hkind, hclassify⟩ := exists_classify_exponentialQuadratic (α := α) hne h
  simp only [parseProblem, Option.getD_some, Option.getD_none, Option.map_none,
    Option.filter_none, hclassify]
  by_cases hmixed : (mixedBases α (normalize text)).isSome = true
  · rw [if_pos hmixed, if_pos hmixed]
    rfl
  · have hmerge (p : Params α) : p.merge .empty = p := rfl
    rw [if_neg hmixed, if_neg hmixed]
    simp only [Except.map, hkind, hmerge, extract]

end EquationTutor.Reading
