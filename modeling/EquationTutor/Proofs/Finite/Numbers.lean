import EquationTutor.Json.Sets
import EquationTutor.Proofs.Double.Order
import EquationTutor.Solution.Basic

namespace EquationTutor

open Scalar

variable {α : Type}

def Interval.endPoints (i : Interval α) : List α :=
  i.lower.endPoint?.toList ++ i.upper.endPoint?.toList

def SolutionSet.writtenNumbers : SolutionSet α → List α
  | discrete values => values
  | complex values => values.flatMap fun z => [z.re, z.im]
  | intervals pieces => pieces.flatMap Interval.endPoints
  | point x y => [x, y]
  | quantity _ value => [value]
  | allReals | empty | infinite => []

variable [Scalar α]

def SolutionSet.IsFinite (set : SolutionSet α) : Prop :=
  ∀ x ∈ set.writtenNumbers, isFinite x = true

/-- Every parameter that is read as a number is read as a finite one. -/
def Params.IsFinite (p : Params α) : Prop :=
  ∀ key x, p.number? key = some x → isFinite x = true

theorem Params.IsFinite.numberD {p : Params α} (hp : p.IsFinite) (key : String) {default : α}
    (h : isFinite default = true) : isFinite (p.numberD key default) = true := by
  rw [Params.numberD]
  cases hkey : p.number? key with
  | none => exact h
  | some x => exact hp key x hkey

theorem Params.isFinite_of_entries {p : Params α}
    (h : ∀ e ∈ p.entries, isFinite e.2.toNumber = true) : p.IsFinite := by
  intro key x hx
  obtain ⟨v, hv, rfl⟩ := Option.map_eq_some_iff.mp hx
  obtain ⟨before, after, hentries, -⟩ := List.lookup_eq_some_iff.mp hv
  exact h (key, v) (by simp [hentries])

section Merging

variable {β : Type} {same : β → β → Bool} {P : β → Prop}

omit [Scalar α] in
theorem forall_mem_dedupBy_iff (hsame : ∀ x y, same x y = true → (P x ↔ P y)) (xs : List β) :
    (∀ x ∈ dedupBy same xs, P x) ↔ ∀ x ∈ xs, P x := by
  induction xs with
  | nil => rfl
  | cons x xs ih =>
      rw [dedupBy, List.forall_mem_cons, ← ih]
      cases dedupBy same xs with
      | nil => simp
      | cons y ys =>
          dsimp only
          split
          · rename_i hxy
            rw [List.forall_mem_cons, List.forall_mem_cons, hsame x y hxy]
            tauto
          · rw [List.forall_mem_cons]

end Merging

theorem isFinite_dedup_iff (xs : List Float) :
    (∀ x ∈ dedup xs, isFinite x = true) ↔ ∀ x ∈ xs, isFinite x = true := by
  refine forall_mem_dedupBy_iff (fun x y hxy => ?_) xs
  change x.isFinite = true ↔ y.isFinite = true
  rw [Double.isFinite_eq_of_beq hxy]

section Json

/-- A null stands somewhere in the value. -/
inductive Json.HasNull : Json → Prop
  | null : HasNull .null
  | item {items : List Json} {j : Json} (hmem : j ∈ items) (h : HasNull j) : HasNull (.arr items)
  | field {fields : List (String × Json)} {key : String} {j : Json} (hmem : (key, j) ∈ fields)
    (h : HasNull j) : HasNull (.obj fields)

namespace Json

@[simp]
theorem not_hasNull_str (text : String) : ¬ HasNull (.str text) := by
  rintro ⟨⟩

@[simp]
theorem not_hasNull_ofFloat_iff (x : Float) : ¬ HasNull (ofFloat x) ↔ x.isFinite = true := by
  unfold ofFloat
  split
  · rename_i hx
    refine iff_of_true ?_ hx
    rintro ⟨⟩
  · rename_i hx
    exact iff_of_false (not_not.mpr .null) hx

@[simp]
theorem not_hasNull_obj_iff (fields : List (String × Json)) :
    ¬ HasNull (.obj fields) ↔ ∀ field ∈ fields, ¬ field.2.HasNull := by
  constructor
  · rintro h ⟨key, j⟩ hmem hj
    exact h (.field hmem hj)
  · rintro h (_ | _ | ⟨hmem, hj⟩)
    exact h _ hmem hj

@[simp]
theorem not_hasNull_ofList_iff {β : Type} (f : β → Json) (bs : List β) :
    ¬ HasNull (ofList f bs) ↔ ∀ b ∈ bs, ¬ (f b).HasNull := by
  constructor
  · intro h b hb hj
    exact h (.item (List.mem_map_of_mem hb) hj)
  · rintro h (_ | ⟨hmem, hj⟩)
    obtain ⟨b, hb, rfl⟩ := List.mem_map.mp hmem
    exact h b hb hj

end Json

theorem Bound.not_hasNull_toJson_iff (b : Bound Float) :
    ¬ b.toJson.HasNull ↔ ∀ x ∈ b.endPoint?, x.isFinite = true := by
  cases b <;> simp [Bound.toJson, Bound.endPoint?]

theorem Interval.not_hasNull_toJson_iff (i : Interval Float) :
    ¬ i.toJson.HasNull ↔ ∀ x ∈ i.endPoints, x.isFinite = true := by
  simp [Interval.toJson, Interval.endPoints, Bound.not_hasNull_toJson_iff, or_imp, forall_and]

/-- A set is written without a null just if all of its numbers are finite. -/
theorem SolutionSet.not_hasNull_toJson_iff (set : SolutionSet Float) :
    ¬ set.toJson.HasNull ↔ set.IsFinite := by
  change _ ↔ ∀ x ∈ set.writtenNumbers, Float.isFinite x = true
  cases set with
  | complex values =>
      rw [SolutionSet.writtenNumbers, List.forall_mem_flatMap]
      simp [SolutionSet.toJson, Complex.toJson]
  | intervals pieces =>
      rw [SolutionSet.writtenNumbers, List.forall_mem_flatMap]
      simp [SolutionSet.toJson, Interval.not_hasNull_toJson_iff]
  | _ => simp [SolutionSet.toJson, SolutionSet.writtenNumbers]

end Json

end EquationTutor
