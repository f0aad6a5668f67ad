import EquationTutor.Json.Sets
import EquationTutor.Proofs.Finite.Numbers
import Mathlib.Tactic.Simproc.ExistsAndEq

namespace EquationTutor

namespace Json

variable {β : Type} {f : β → Json} {g : Json → Option β} {key other : String} {value : Json}
  {fields : List (String × Json)}

@[simp]
theorem get?_cons_self : (obj ((key, value) :: fields)).get? key = some value := by
  simp [get?, Json.fields]

@[simp]
theorem get?_cons_of_ne (h : key ≠ other) :
    (obj ((other, value) :: fields)).get? key = (obj fields).get? key := by
  simp [get?, Json.fields, List.lookup, beq_false_of_ne h]

@[simp]
theorem get?_nil : (obj []).get? key = none :=
  rfl

@[simp]
theorem record?_obj (names : List String) (required : Nat) :
    (obj fields).record? names required = some (obj fields) :=
  rfl

/-- A value that may be null. -/
def orNull? (g : Json → Option β) : Json → Option (Option β)
  | null => some none
  | value => (g value).map some

@[simp]
theorem optional?_cons_self :
    (obj ((key, value) :: fields)).optional? key g = orNull? g value := by
  rw [optional?, get?_cons_self]
  cases value <;> rfl

@[simp]
theorem optional?_cons_of_ne (h : key ≠ other) :
    (obj ((other, value) :: fields)).optional? key g = (obj fields).optional? key g := by
  rw [optional?, get?_cons_of_ne h, optional?]

@[simp]
theorem fieldD?_cons_self (default : β) :
    (obj ((key, value) :: fields)).fieldD? key default g = g value := by
  rw [fieldD?, get?_cons_self]

@[simp]
theorem fieldD?_cons_of_ne (h : key ≠ other) (default : β) :
    (obj ((other, value) :: fields)).fieldD? key default g =
      (obj fields).fieldD? key default g := by
  rw [fieldD?, get?_cons_of_ne h, fieldD?]

@[simp]
theorem fieldD?_nil (default : β) : (obj []).fieldD? key default g = some default :=
  rfl

theorem orNull?_ofOption_iff (hnull : g null = none) (b : Option β) :
    orNull? g (ofOption f b) = some b ↔ ∀ x ∈ b, g (f x) = some x := by
  cases b with
  | none => simp [ofOption, orNull?]
  | some x =>
      rw [ofOption]
      cases hx : f x with
      | null => simp [orNull?, hx, hnull]
      | _ => simp [orNull?, hx]

theorem toList?_ofList_iff (bs : List β) :
    toList? g (ofList f bs) = some bs ↔ ∀ b ∈ bs, g (f b) = some b := by
  rw [ofList, toList?]
  induction bs with
  | nil => simp
  | cons b bs ih =>
      rw [List.map_cons, List.mapM_cons, List.forall_mem_cons, ← ih]
      simp [Option.bind_eq_some_iff]

@[simp]
theorem toFloat?_ofFloat_iff (x : Float) : (ofFloat x).toFloat? = some x ↔ x.isFinite = true := by
  unfold ofFloat
  split
  · rename_i hx
    exact iff_of_true rfl hx
  · rename_i hx
    exact iff_of_false nofun hx

@[simp]
theorem toFloats?_ofList_iff (xs : List Float) :
    toList? toFloat? (ofList ofFloat xs) = some xs ↔ ∀ x ∈ xs, x.isFinite = true := by
  simp [toList?_ofList_iff]

@[simp]
theorem orNull?_ofFloat_iff (x : Option Float) :
    orNull? toFloat? (ofOption ofFloat x) = some x ↔ ∀ y ∈ x, y.isFinite = true := by
  rw [orNull?_ofOption_iff rfl]
  simp only [toFloat?_ofFloat_iff]

@[simp]
theorem toStrings?_ofStrings (texts : List String) :
    toList? toString? (ofStrings texts) = some texts :=
  (toList?_ofList_iff texts).mpr fun _ _ => rfl

@[simp]
theorem toBool?_bool (b : Bool) : (bool b).toBool? = some b :=
  rfl

@[simp]
theorem toString?_str (text : String) : (str text).toString? = some text :=
  rfl

theorem ofKey?_str {place : Place} {keyOf : β → String} {all : List β} (b : β) (hmem : b ∈ all)
    (hinj : ∀ c ∈ all, keyOf c = keyOf b → c = b) :
    ofKey? place keyOf all (str (keyOf b)) = some b := by
  rw [ofKey?]
  obtain ⟨c, hc⟩ := Option.isSome_iff_exists.mp
    (List.find?_isSome.mpr ⟨b, hmem, by simp⟩ : (all.find? fun c => keyOf c = keyOf b).isSome)
  rw [hc, hinj c (List.mem_of_find?_eq_some hc) (by simpa using List.find?_some hc)]

/-- Two fields of one object have the same key, somewhere in the value. -/
inductive RepeatsKey : Json → Prop
  | here {fields : List (String × Json)} (h : ¬ (fields.map Prod.fst).Nodup) :
    RepeatsKey (.obj fields)
  | item {items : List Json} {j : Json} (hmem : j ∈ items) (h : RepeatsKey j) :
    RepeatsKey (.arr items)
  | field {fields : List (String × Json)} {key : String} {j : Json}
    (hmem : (key, j) ∈ fields) (h : RepeatsKey j) : RepeatsKey (.obj fields)

@[simp]
theorem not_repeatsKey_str (text : String) : ¬ RepeatsKey (.str text) := by
  rintro ⟨⟩

@[simp]
theorem not_repeatsKey_bool (b : Bool) : ¬ RepeatsKey (.bool b) := by
  rintro ⟨⟩

@[simp]
theorem not_repeatsKey_ofFloat (x : Float) : ¬ RepeatsKey (ofFloat x) := by
  unfold ofFloat
  split <;> rintro ⟨⟩

@[simp]
theorem not_repeatsKey_obj_iff :
    ¬ RepeatsKey (.obj fields) ↔
      (fields.map Prod.fst).Nodup ∧ ∀ field ∈ fields, ¬ field.2.RepeatsKey := by
  constructor
  · intro h
    refine ⟨not_not.mp fun hkeys => h (.here hkeys), ?_⟩
    rintro ⟨key, j⟩ hmem hj
    exact h (.field hmem hj)
  · rintro ⟨hkeys, h⟩ (hrepeat | _ | ⟨hmem, hj⟩)
    · exact hrepeat hkeys
    · exact h _ hmem hj

@[simp]
theorem not_repeatsKey_ofList_iff (bs : List β) :
    ¬ RepeatsKey (ofList f bs) ↔ ∀ b ∈ bs, ¬ (f b).RepeatsKey := by
  constructor
  · intro h b hb hj
    exact h (.item (List.mem_map_of_mem hb) hj)
  · rintro h (_ | ⟨hmem, hj⟩)
    obtain ⟨b, hb, rfl⟩ := List.mem_map.mp hmem
    exact h b hb hj

@[simp]
theorem not_repeatsKey_ofOption_iff (b : Option β) :
    ¬ RepeatsKey (ofOption f b) ↔ ∀ x ∈ b, ¬ (f x).RepeatsKey := by
  cases b with
  | none =>
      refine iff_of_true ?_ (by simp)
      rintro ⟨⟩
  | some x => simp [ofOption]

end Json

@[simp]
theorem Relation.ofJson?_toJson (place : Json.Place) (r : Relation) :
    Relation.ofJson? place r.toJson = some r :=
  Json.ofKey?_str r (by cases r <;> decide) (by cases r <;> decide)

@[simp]
theorem Relation.not_repeatsKey_toJson (r : Relation) : ¬ r.toJson.RepeatsKey :=
  Json.not_repeatsKey_str r.key

@[simp]
theorem Kind.ofJson?_toJson (kind : Kind) : Kind.ofJson? kind.toJson = some kind :=
  Json.ofKey?_str kind (by cases kind <;> decide) (by cases kind <;> decide)

@[simp]
theorem Kind.not_repeatsKey_toJson (kind : Kind) : ¬ kind.toJson.RepeatsKey :=
  Json.not_repeatsKey_str kind.name

@[simp]
theorem Bound.ofJson?_toJson_iff (place : Json.Place) (b : Bound Float) :
    Bound.ofJson? place b.toJson = some b ↔ ∀ x ∈ b.endPoint?, x.isFinite = true := by
  have hkind (kind : String) (hmem : kind ∈ kinds) :
      Json.ofKey? place id kinds (.str kind) = some kind :=
    Json.ofKey?_str kind hmem fun _ _ h => h
  cases b <;>
    simp [Bound.ofJson?, Bound.toJson, Bound.endPoint?, Bound.ofJson?.isNothing, Json.field?,
      hkind "neg_infinity" (by decide), hkind "pos_infinity" (by decide),
      hkind "open" (by decide), hkind "closed" (by decide)]

@[simp]
theorem Bound.not_repeatsKey_toJson (b : Bound Float) : ¬ b.toJson.RepeatsKey := by
  cases b <;> simp [Bound.toJson]

@[simp]
theorem Interval.ofJson?_toJson_iff (place : Json.Place) (i : Interval Float) :
    Interval.ofJson? place i.toJson = some i ↔ ∀ x ∈ i.endPoints, x.isFinite = true := by
  rcases i with ⟨lower, upper⟩
  simp [Interval.ofJson?, Interval.toJson, Interval.endPoints, Json.field?,
    Option.bind_eq_some_iff, or_imp, forall_and]

@[simp]
theorem Interval.not_repeatsKey_toJson (i : Interval Float) : ¬ i.toJson.RepeatsKey := by
  simp [Interval.toJson]

@[simp]
theorem Complex.ofJson?_toJson_iff (z : Complex Float) :
    Complex.ofJson? z.toJson = some z ↔ z.re.isFinite = true ∧ z.im.isFinite = true := by
  rcases z with ⟨re, im⟩
  simp [Complex.ofJson?, Complex.toJson, Json.number?, Json.field?, Option.bind_eq_some_iff]

@[simp]
theorem Complex.not_repeatsKey_toJson (z : Complex Float) : ¬ z.toJson.RepeatsKey := by
  simp [Complex.toJson]

@[simp]
theorem SolutionSet.ofJson?_toJson_iff (set : SolutionSet Float) :
    SolutionSet.ofJson? set.toJson = some set ↔
      ∀ x ∈ set.writtenNumbers, x.isFinite = true := by
  cases set <;>
    simp only [SolutionSet.writtenNumbers, List.forall_mem_flatMap] <;>
    simp [SolutionSet.ofJson?, SolutionSet.toJson, SolutionSet.ofKind?, Json.tagged?,
      Json.Place.tag?, SolutionSet.kinds, Json.field?, Json.numbers?, Json.number?, Json.string?,
      Option.bind_eq_some_iff, Json.toList?_ofList_iff]

@[simp]
theorem SolutionSet.not_repeatsKey_toJson (set : SolutionSet Float) : ¬ set.toJson.RepeatsKey := by
  cases set <;> simp [SolutionSet.toJson]

end EquationTutor
