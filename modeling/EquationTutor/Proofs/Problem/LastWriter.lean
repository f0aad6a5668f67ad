import EquationTutor.Numeric.Double
import EquationTutor.Proofs.Problem.Records
import EquationTutor.Reading.Parse

namespace EquationTutor

namespace Reading

section Extracted

variable {α : Type} {p : Params α}

@[grind ←]
theorem isAscending_insertNumber (h : p.IsAscending) (key : String) (value : α) :
    (p.insertNumber key value).IsAscending :=
  h.insert key _

@[grind ←]
theorem isAscending_insertText (h : p.IsAscending) (key value : String) :
    (p.insertText key value).IsAscending :=
  h.insert key _

@[grind ←]
theorem isAscending_insertNumber? (h : p.IsAscending) (key : String) (value : Option α) :
    (insertNumber? p key value).IsAscending := by
  cases value with
  | none => exact h
  | some v => exact isAscending_insertNumber h key v

@[grind ←]
theorem isAscending_insertRelation (h : p.IsAscending) (operator : String) :
    (insertRelation p operator).IsAscending := by
  unfold insertRelation
  split
  · exact h
  · exact isAscending_insertText h _ _

@[grind ←]
theorem isAscending_fromShape {shape : Pattern} {text : String} {f : Match → Params α}
    (h : ∀ m, (f m).IsAscending) : (fromShape shape text f).IsAscending := by
  unfold fromShape
  split
  · exact h _
  · exact Params.isAscending_empty

variable [Scalar α]

@[grind ←]
theorem isAscending_insertCoefficient (h : p.IsAscending) (group : Option String) :
    (insertCoefficient p group).IsAscending := by
  cases group with
  | none => exact h
  | some k => exact isAscending_insertNumber h _ _

@[grind ←]
theorem isAscending_insertRateAndTime (h : p.IsAscending) (words : String) :
    (insertRateAndTime p words).IsAscending :=
  isAscending_insertNumber? (isAscending_insertNumber? h _ _) _ _

@[grind ←]
theorem isAscending_insertFrequency (h : p.IsAscending) (w : String) :
    (insertFrequency p w).IsAscending := by
  unfold insertFrequency
  repeat' split
  all_goals first
    | exact isAscending_insertNumber h _ _
    | exact isAscending_insertText h _ _

@[grind ←]
theorem isAscending_quadratic (text : String) : (quadratic text : Params α).IsAscending := by
  unfold quadratic
  exact isAscending_fromShape fun m => by grind

theorem isAscending_quadraticFunction (text : String) (scenario : Option String) :
    (quadraticFunction text scenario : Params α).IsAscending := by
  unfold quadraticFunction
  split <;> split <;> grind

@[grind ←]
theorem isAscending_launch (text words : String) : (launch text words : Params α).IsAscending := by
  unfold launch
  split <;> grind

theorem isAscending_logarithm (text : String) : (logarithm text : Params α).IsAscending := by
  unfold logarithm
  split <;> grind

theorem isAscending_system (text : String) : (system text : Params α).IsAscending := by
  unfold system
  generalize ((Shape.linearTwoVariables.findAll text).take 2).zipIdx = equations
  suffices h : ∀ p : Params α, p.IsAscending → (equations.foldl (fun p e =>
      ((p.insertNumber s!"a{e.2 + 1}" (coefficientAt e.1 1)).insertNumber s!"b{e.2 + 1}"
        (coefficientAt e.1 2)).insertNumber s!"c{e.2 + 1}" (coefficientAt e.1 3)) p).IsAscending by
    exact h _ Params.isAscending_empty
  induction equations with
  | nil => exact fun _ hp => hp
  | cons e rest ih =>
      intro p hp
      exact ih _ (by grind)

theorem isAscending_compoundInterest (text : String) (scenario : Option String) :
    (compoundInterest text scenario : Params α).IsAscending := by
  unfold compoundInterest
  dsimp only
  split <;> grind

theorem isAscending_growth (text : String) (scenario : Option String) :
    (growth text scenario : Params α).IsAscending := by
  unfold growth
  dsimp only
  split <;> grind

theorem isAscending_halfLife (text : String) (scenario : Option String) :
    (halfLife text scenario : Params α).IsAscending := by
  unfold halfLife
  dsimp only
  split <;> grind

/-- What is read off a text is a record in order, whatever the kind of problem. -/
theorem isAscending_extract (kind : Kind) (text : String) (scenario : Option String) :
    (extract kind text scenario : Params α).IsAscending := by
  cases kind with
  | quadraticInequality => exact isAscending_quadratic text
  | factoringQuadratic => exact isAscending_quadratic text
  | completingSquare => exact isAscending_quadratic text
  | quadraticFormula => exact isAscending_quadratic text
  | standardQuadratic => exact isAscending_quadratic text
  | projectileMotion => grind [extract, projectile]
  | quadraticOptimization => exact isAscending_quadraticFunction text scenario
  | exponentialInequality => exact isAscending_fromShape fun m => by grind
  | exponentialQuadratic => exact isAscending_fromShape fun m => by grind
  | naturalExponential => exact isAscending_fromShape fun m => by grind
  | simpleExponential => exact isAscending_fromShape fun m => by grind
  | logarithmicEquation => exact isAscending_logarithm text
  | compoundInterest => exact isAscending_compoundInterest text scenario
  | exponentialGrowth => exact isAscending_growth text scenario
  | exponentialDecay => exact isAscending_growth text scenario
  | halfLife => exact isAscending_halfLife text scenario
  | linearInequality => exact isAscending_fromShape fun m => by grind
  | simpleLinear => exact isAscending_fromShape fun m => by grind
  | linearSystem => exact isAscending_system text

theorem parameters_of_parseProblem {q : Question α} {problem : Problem α}
    (h : parseProblem q = .ok problem) :
    problem.parameters = (extract problem.kind problem.normalized problem.scenario).merge
      (q.parameters.getD .empty) := by
  simp only [parseProblem, Except.map] at h
  split at h
  · cases h
  · cases h
    rfl

end Extracted

end Reading

namespace Params

open Reading

/-- A record is in the order of its keys after any writes, and has for each key the value that
was written last. Overlaying records is associative, and overlaying one with itself changes
nothing. A problem that has been read has the parameters that were given, and for every other
key what was found in the text. -/
theorem record_determined_by_writes {α : Type} [Scalar α] :
    (∀ writes : List (Write α), (∀ w ∈ writes, w.IsOrdered) →
      let p := empty.after writes
      p.IsAscending ∧
      (∀ key v, (key, v) ∈ p.entries ↔ p.get? key = some v) ∧
      (∀ key v, p.get? key = some v ↔ LastWritten empty writes key v) ∧
      (∀ key, p.get? key = none ↔
        ∀ w ∈ writes, w.value? key = none ∧ w.default? key = none)) ∧
    (∀ p q r : Params α, p.IsAscending → q.IsAscending → r.IsAscending →
      (p.merge q).merge r = p.merge (q.merge r) ∧ p.merge p = p ∧
      (p.merge q).merge q = p.merge q) ∧
    (∀ (question : Question α) (problem : Problem α),
      (question.parameters.getD empty).IsAscending → parseProblem question = .ok problem →
      let given := question.parameters.getD empty
      let found := extract problem.kind problem.normalized problem.scenario
      problem.parameters.IsAscending ∧
      ∀ key, (∀ v, given.get? key = some v → problem.parameters.get? key = some v) ∧
        (given.get? key = none → problem.parameters.get? key = found.get? key)) := by
  refine ⟨fun writes hwrites => ?_, fun p q r hp hq hr => ⟨merge_assoc hp hq hr, merge_self hp,
    by rw [merge_assoc hp hq hq, merge_self hq]⟩, fun question problem hgiven hparse => ?_⟩
  · have hascending : (empty.after writes).IsAscending :=
      isAscending_after isAscending_empty writes
    refine ⟨hascending, fun _ _ => hascending.mem_entries_iff, fun key v => ?_, fun key => ?_⟩
    · rw [get?_after_eq_some_iff hwrites]
      simp [get?_empty]
    · rw [get?_after_eq_none_iff hwrites]
      simp [get?_empty]
  · intro given found
    have hparameters : problem.parameters = found.merge given :=
      parameters_of_parseProblem hparse
    rw [hparameters]
    refine ⟨(isAscending_extract _ _ _).merge given, fun key => ?_⟩
    rw [get?_merge found hgiven]
    constructor
    · intro v hv
      rw [hv, Option.some_or]
    · intro hnone
      rw [hnone, Option.none_or]

/-- Two defaults, of which the second comes too late, and a record that overlays the first. -/
def overlaidDefault : List (Write Float) :=
  [.setDefault "b" (.number 1), .insert "a" (.number 2), .setDefault "a" (.number 3),
   .merge ⟨[("b", .number 4), ("é", .text "5")]⟩]

/-- `x² - 6x + 5 = 0` with another constant term. -/
def constantTermGiven : Question Float :=
  ⟨some "x² - 6x + 5 = 0", none, none, some ⟨[("c", .number 8)]⟩, none⟩

theorem record_of_overlaidDefault :
    (∀ w ∈ overlaidDefault, w.IsOrdered) ∧
    (empty.after overlaidDefault).IsAscending ∧
    LastWritten empty overlaidDefault "b" (.number 4) ∧
    LastWritten empty overlaidDefault "a" (.number 2) ∧
    (empty.after overlaidDefault).merge (empty.after overlaidDefault) =
      empty.after overlaidDefault ∧
    (constantTermGiven.parameters.getD empty).IsAscending ∧
    ∃ problem, parseProblem constantTermGiven = .ok problem ∧
      problem.parameters.get? "c" = some (.number 8) ∧
      problem.parameters.get? "b" =
        (extract problem.kind problem.normalized problem.scenario).get? "b" := by
  obtain ⟨hwrites, hmerge, hparse⟩ := record_determined_by_writes (α := Float)
  have hordered : ∀ w ∈ overlaidDefault, w.IsOrdered := by
    have hoverlay : IsAscending (⟨[("b", .number 4), ("é", .text "5")]⟩ : Params Float) :=
      .cons (List.forall_mem_singleton.mpr (Text.bytes_lt_bytes (by decide)))
        (List.pairwise_singleton _ _)
    simp [overlaidDefault, Write.IsOrdered, hoverlay]
  have hgiven : (constantTermGiven.parameters.getD empty).IsAscending :=
    List.pairwise_singleton _ _
  obtain ⟨hascending, -, hlast, -⟩ := hwrites _ hordered
  have hread : (parseProblem constantTermGiven).toOption.isSome = true := by decide +kernel
  cases hproblem : parseProblem constantTermGiven with
  | error e => simp [hproblem, Except.toOption] at hread
  | ok problem =>
      obtain ⟨-, hkeys⟩ := hparse constantTermGiven problem hgiven hproblem
      exact ⟨hordered, hascending, (hlast "b" _).mp rfl, (hlast "a" _).mp rfl,
        (hmerge _ _ _ hascending hascending hascending).2.1, hgiven, problem, rfl,
        (hkeys "c").1 _ rfl, (hkeys "b").2 rfl⟩

end Params

end EquationTutor
