import EquationTutor.Numeric.Double
import EquationTutor.Proofs.Reading.Recognized
import EquationTutor.Proofs.Reading.TwoBases
/-!
Classification of a question whose kind is not named. The catalog is in order of kinds and, for
each kind, of its recognizers; the first recognizer in this order that matches the text or the
scenario decides, and without one the names of the parameters do.
-/

namespace EquationTutor.Reading

/-- The place of a recognizer in the catalog: its kind, and its place in the list of the kind. -/
abbrev Place := Kind × Nat

/-- Kinds in the order of the catalog, and the recognizers of a kind in their own. -/
def Place.Precedes (a b : Place) : Prop :=
  Kind.all.idxOf a.1 < Kind.all.idxOf b.1 ∨ a.1 = b.1 ∧ a.2 < b.2

def MatchesText (text : String) (p : Pattern) : Prop :=
  text ≠ "" ∧ p.occursIn text = true

def MatchesScenario (scenario : Option String) (p : Pattern) : Prop :=
  ∃ s ∈ scenario, p.occursIn s = true

section Fires

variable (text : String) (scenario : Option String)

/-- The recognizer at this place matches the text or the scenario. -/
def Fires (a : Place) : Prop :=
  ∃ p, (recognizers a.1)[a.2]? = some p ∧ (MatchesText text p ∨ MatchesScenario scenario p)

def FiresOnText (a : Place) : Prop :=
  ∃ p, (recognizers a.1)[a.2]? = some p ∧ MatchesText text p

/-- No recognizer before this one fires. -/
def IsFirst (a : Place) : Prop :=
  Fires text scenario a ∧ ∀ b, Fires text scenario b → ¬ b.Precedes a

end Fires

namespace Recognizer

def place (r : Recognizer) : Place :=
  (r.kind, r.index)

theorem mem_catalog_iff {r : Recognizer} :
    r ∈ catalog ↔ (recognizers r.kind)[r.index]? = some r.pattern := by
  have hall : ∀ kind : Kind, kind ∈ Kind.all := by
    intro kind
    cases kind <;> decide
  rw [catalog, List.mem_flatMap]
  constructor
  · rintro ⟨kind, -, hr⟩
    obtain ⟨⟨p, i⟩, hmem, rfl⟩ := List.mem_map.mp hr
    exact List.mem_zipIdx_iff_getElem?.mp hmem
  · intro h
    exact ⟨r.kind, hall r.kind, List.mem_map.mpr ⟨(r.pattern, r.index),
      List.mem_zipIdx_iff_getElem?.mpr h, rfl⟩⟩

theorem exists_of_fires {text : String} {scenario : Option String} {a : Place}
    (h : Fires text scenario a) : ∃ r ∈ catalog, r.place = a := by
  obtain ⟨p, hp, -⟩ := h
  exact ⟨⟨a.1, a.2, p⟩, mem_catalog_iff.mpr hp, rfl⟩

theorem classify?_eq_some_iff {r : Recognizer} (hr : r ∈ catalog) {text : String}
    {scenario : Option String} {c : Classification} :
    r.classify? text scenario = some c ↔ Fires text scenario r.place ∧ ∃ onScenario,
      c = ⟨r.kind, .recognizer r.index onScenario⟩ ∧
        (onScenario = true ↔ ¬ FiresOnText text r.place) := by
  have hp := mem_catalog_iff.mp hr
  have hfires : Fires text scenario r.place ↔
      MatchesText text r.pattern ∨ MatchesScenario scenario r.pattern := by
    simp [Fires, place, hp]
  have honText : FiresOnText text r.place ↔ MatchesText text r.pattern := by
    simp [FiresOnText, place, hp]
  have htext : (!text.isEmpty && r.pattern.occursIn text) = true ↔
      MatchesText text r.pattern := by
    simp [MatchesText]
  have hscenario : scenario.any r.pattern.occursIn = true ↔
      MatchesScenario scenario r.pattern := by
    simp [MatchesScenario, Option.any_eq_true]
  rw [hfires, honText, classify?]
  by_cases h : MatchesText text r.pattern
  · simp [htext.mpr h, h, eq_comm]
  · rw [if_neg (by rwa [htext])]
    by_cases hs : MatchesScenario scenario r.pattern
    · simp [hscenario.mpr hs, h, hs, eq_comm]
    · simp [mt hscenario.mp hs, h, hs]

theorem isSome_classify?_iff {r : Recognizer} (hr : r ∈ catalog) {text : String}
    {scenario : Option String} :
    (r.classify? text scenario).isSome = true ↔ Fires text scenario r.place := by
  rw [Option.isSome_iff_exists]
  constructor
  · rintro ⟨c, hc⟩
    exact ((classify?_eq_some_iff hr).mp hc).1
  · intro h
    by_cases hon : FiresOnText text r.place
    · exact ⟨_, (classify?_eq_some_iff hr).mpr ⟨h, false, rfl, by simpa using hon⟩⟩
    · exact ⟨_, (classify?_eq_some_iff hr).mpr ⟨h, true, rfl, by simpa using hon⟩⟩

end Recognizer

theorem pairwise_catalog : catalog.Pairwise fun r s => r.place.Precedes s.place := by
  have hkinds : Kind.all.Pairwise fun k l => Kind.all.idxOf k < Kind.all.idxOf l := by decide
  rw [catalog, List.pairwise_flatMap]
  refine ⟨fun kind _ => ?_, hkinds.imp fun {k l} hlt r hr s hs => ?_⟩
  · rw [recognizersOf, List.pairwise_map, List.pairwise_iff_getElem]
    intro i j hi hj hij
    simpa [Place.Precedes, Recognizer.place] using hij
  · obtain ⟨⟨p, i⟩, -, rfl⟩ := List.mem_map.mp hr
    obtain ⟨⟨q, j⟩, -, rfl⟩ := List.mem_map.mp hs
    exact Or.inl hlt

theorem Place.Precedes.asymm {a b : Place} (h : a.Precedes b) : ¬ b.Precedes a := by
  rcases h with h | ⟨heq, h⟩ <;> rintro (h' | ⟨heq', h'⟩)
  · omega
  · rw [heq'] at h
    omega
  · rw [heq] at h'
    omega
  · omega

/-- In a list that is in order, what is found comes from the least place that has something. -/
theorem findSome?_eq_some_iff_of_pairwise {β γ : Type} {precedes : β → β → Prop}
    (hasymm : ∀ {a b}, precedes a b → ¬ precedes b a) {l : List β} (hl : l.Pairwise precedes)
    {f : β → Option γ} {c : γ} : l.findSome? f = some c ↔
      ∃ r ∈ l, f r = some c ∧ ∀ s ∈ l, (f s).isSome = true → ¬ precedes s r := by
  have hfirst {c : γ} (h : l.findSome? f = some c) : ∃ r ∈ l, f r = some c ∧
      ∀ s ∈ l, (f s).isSome = true → s = r ∨ precedes r s := by
    obtain ⟨before, r, after, rfl, hr, hbefore⟩ := List.findSome?_eq_some_iff.mp h
    refine ⟨r, by simp, hr, fun s hs hsome => ?_⟩
    rcases List.mem_append.mp hs with hs | hs
    · simp [hbefore s hs] at hsome
    · rcases List.mem_cons.mp hs with rfl | hs
      · exact Or.inl rfl
      · exact Or.inr ((List.pairwise_cons.mp (List.pairwise_append.mp hl).2.1).1 s hs)
  constructor
  · intro h
    obtain ⟨r, hr, hsome, hothers⟩ := hfirst h
    refine ⟨r, hr, hsome, fun s hs hs' => ?_⟩
    rcases hothers s hs hs' with rfl | hlater
    · exact fun hself => hasymm hself hself
    · exact hasymm hlater
  · rintro ⟨r, hr, hsome, hothers⟩
    have hfound : (l.findSome? f).isSome = true :=
      List.findSome?_isSome_iff.mpr ⟨r, hr, by simp [hsome]⟩
    obtain ⟨c', hc'⟩ := Option.isSome_iff_exists.mp hfound
    obtain ⟨r', hr', hsome', hothers'⟩ := hfirst hc'
    rcases hothers' r hr (by simp [hsome]) with rfl | hlater
    · rw [hc', ← hsome', hsome]
    · exact absurd hlater (hothers r' hr' (by simp [hsome']))

section Catalog

variable {text : String} {scenario : Option String}

theorem findSome?_catalog_eq_some_iff {c : Classification} :
    (catalog.findSome? fun r => r.classify? text scenario) = some c ↔
      ∃ a onScenario, c = ⟨a.1, .recognizer a.2 onScenario⟩ ∧ IsFirst text scenario a ∧
        (onScenario = true ↔ ¬ FiresOnText text a) := by
  rw [findSome?_eq_some_iff_of_pairwise Place.Precedes.asymm pairwise_catalog]
  constructor
  · rintro ⟨r, hr, hc, hothers⟩
    obtain ⟨hfires, onScenario, rfl, hon⟩ := (Recognizer.classify?_eq_some_iff hr).mp hc
    refine ⟨r.place, onScenario, rfl, ⟨hfires, fun b hb => ?_⟩, hon⟩
    obtain ⟨s, hs, rfl⟩ := Recognizer.exists_of_fires hb
    exact hothers s hs ((Recognizer.isSome_classify?_iff hs).mpr hb)
  · rintro ⟨a, onScenario, rfl, ⟨hfires, hothers⟩, hon⟩
    obtain ⟨r, hr, rfl⟩ := Recognizer.exists_of_fires hfires
    refine ⟨r, hr, (Recognizer.classify?_eq_some_iff hr).mpr ⟨hfires, onScenario, rfl, hon⟩,
      fun s hs hsome => hothers _ ((Recognizer.isSome_classify?_iff hs).mp hsome)⟩

theorem findSome?_catalog_eq_none_iff :
    (catalog.findSome? fun r => r.classify? text scenario) = none ↔
      ∀ a, ¬ Fires text scenario a := by
  rw [List.findSome?_eq_none_iff]
  constructor
  · intro h a ha
    obtain ⟨r, hr, rfl⟩ := Recognizer.exists_of_fires ha
    simpa [h r hr] using (Recognizer.isSome_classify?_iff hr).mpr ha
  · intro h r hr
    simpa using mt (Recognizer.isSome_classify?_iff hr).mp (h r.place)

theorem IsFirst.unique {a b : Place} (ha : IsFirst text scenario a)
    (hb : IsFirst text scenario b) : a = b := by
  have hfound {a : Place} (h : IsFirst text scenario a) : ∃ onScenario,
      (catalog.findSome? fun r => r.classify? text scenario) =
        some ⟨a.1, .recognizer a.2 onScenario⟩ := by
    by_cases hon : FiresOnText text a
    · exact ⟨false, findSome?_catalog_eq_some_iff.mpr ⟨a, false, rfl, h, by simpa using hon⟩⟩
    · exact ⟨true, findSome?_catalog_eq_some_iff.mpr ⟨a, true, rfl, h, by simpa using hon⟩⟩
  obtain ⟨_, hfirst⟩ := hfound ha
  obtain ⟨_, hsecond⟩ := hfound hb
  have heq := hfirst.symm.trans hsecond
  simp only [Option.some.injEq, Classification.mk.injEq, Source.recognizer.injEq] at heq
  exact Prod.ext heq.1 heq.2.1

end Catalog

section Parameters

variable {α : Type}

/-- The keys that point to a kind, the first group first. -/
def keyGroups : List (List String × Kind) :=
  [(["a1"], .linearSystem), (["initial_velocity", "initial_height"], .projectileMotion),
   (["principal"], .compoundInterest), (["base"], .simpleExponential), (["m"], .simpleLinear),
   (["a", "b", "c"], .standardQuadratic)]

def HasNumber (p : Params α) : Prop :=
  ∃ key v, (key, .number v) ∈ p.entries

def HasKeyOf (p : Params α) (keys : List String) : Prop :=
  ∃ key ∈ keys, p.contains key = true

/-- Some value is a number, and the kind is that of the first group with a key of the record. -/
def PointsTo (p : Params α) (kind : Kind) : Prop :=
  HasNumber p ∧ ∃ before keys after, keyGroups = before ++ (keys, kind) :: after ∧
    HasKeyOf p keys ∧ ∀ group ∈ before, ¬ HasKeyOf p group.1

theorem any_contains_iff {p : Params α} {keys : List String} :
    keys.any p.contains = true ↔ HasKeyOf p keys := by
  rw [List.any_eq_true, HasKeyOf]

theorem hasNumbers_iff {p : Params α} : p.hasNumbers = true ↔ HasNumber p := by
  rw [Params.hasNumbers, List.any_eq_true]
  constructor
  · rintro ⟨⟨key, v | t⟩, he, hnumber⟩
    · exact ⟨key, v, he⟩
    · cases hnumber
  · rintro ⟨key, v, he⟩
    exact ⟨_, he, rfl⟩

theorem kindOfParams?_eq (p : Params α) : kindOfParams? p =
    if p.hasNumbers then (keyGroups.find? fun g => g.1.any p.contains).map Prod.snd
    else none := by
  simp only [kindOfParams?, keyGroups, List.find?_cons, List.find?_nil, List.any_cons,
    List.any_nil, Bool.or_false, Bool.not_eq_true']
  cases p.hasNumbers <;> cases p.contains "a1" <;>
    cases (p.contains "initial_velocity" || p.contains "initial_height") <;>
    cases p.contains "principal" <;> cases p.contains "base" <;> cases p.contains "m" <;>
    cases (p.contains "a" || (p.contains "b" || p.contains "c")) <;> rfl

theorem kindOfParams?_eq_some_iff {p : Params α} {kind : Kind} :
    kindOfParams? p = some kind ↔ PointsTo p kind := by
  rw [kindOfParams?_eq, PointsTo, ← hasNumbers_iff]
  by_cases h : p.hasNumbers = true
  · rw [if_pos h, Option.map_eq_some_iff]
    simp only [h, true_and, List.find?_eq_some_iff_append, any_contains_iff, Bool.not_eq_true',
      ← Bool.not_eq_true]
    constructor
    · rintro ⟨⟨keys, _⟩, ⟨hkey, before, after, hsplit, hnone⟩, rfl⟩
      exact ⟨before, keys, after, hsplit, hkey, hnone⟩
    · rintro ⟨before, keys, after, hsplit, hkey, hnone⟩
      exact ⟨(keys, kind), ⟨hkey, before, after, hsplit, hnone⟩, rfl⟩
  · simp [h]

theorem PointsTo.unique {p : Params α} {k l : Kind} (hk : PointsTo p k) (hl : PointsTo p l) :
    k = l := by
  rw [← kindOfParams?_eq_some_iff] at hk hl
  exact Option.some.inj (hk.symm.trans hl)

theorem exists_pointsTo_iff {p : Params α} :
    (∃ kind, PointsTo p kind) ↔ HasNumber p ∧ ∃ group ∈ keyGroups, HasKeyOf p group.1 := by
  simp only [← kindOfParams?_eq_some_iff, ← Option.isSome_iff_exists, kindOfParams?_eq,
    ← hasNumbers_iff]
  split
  · rename_i h
    simp only [Option.isSome_map, List.find?_isSome, any_contains_iff, h, true_and]
  · rename_i h
    simp [h]

end Parameters

section Classify

variable {α : Type} [Scalar α] {text : String} {scenario : Option String}

theorem TakesTwoBases.ne_empty (h : TakesTwoBases α text) : text ≠ "" := by
  rintro rfl
  have hsome := isSome_mixedBases_iff.mpr h
  have hnone : Shape.exponentialQuadratic.find? "" = none :=
    Option.isNone_iff_eq_none.mp (by decide)
  simp [mixedBases, hnone] at hsome

theorem classify_of_blank {kindName : Option String} (p : Params α)
    (h : ∀ c ∈ (kindName.getD "").toList, Text.isBlank c = true) :
    classify text scenario kindName p = recognize text scenario p := by
  have htrim : Text.trim (kindName.getD "") = "" := by
    rw [Text.trim, List.dropWhile_eq_nil_iff.mpr h]
    rfl
  rw [classify, htrim]
  rfl

variable (text scenario) in
/-- What a question without a kind is refused with. -/
def refusal : Failure α :=
  .unrecognized (if text = "" then scenario.getD "" else text)

/-- How a question without a kind is classified, where an exponential in quadratic form is refused
under the condition `twoBases`. -/
inductive Decides (twoBases : Prop) (text : String) (scenario : Option String) (p : Params α) :
    Except (Failure α) Classification → Prop
  | recognizer {kind : Kind} {i : Nat} {onScenario : Bool}
      (first : IsFirst text scenario (kind, i))
      (place_matched : onScenario = true ↔ ¬ FiresOnText text (kind, i))
      (one_base : ¬ (kind = .exponentialQuadratic ∧ twoBases)) :
      Decides twoBases text scenario p (.ok ⟨kind, .recognizer i onScenario⟩)
  | twoBases {i : Nat} (first : IsFirst text scenario (.exponentialQuadratic, i))
      (two_bases : twoBases) :
      Decides twoBases text scenario p (.error (refusal text scenario))
  | parameters {kind : Kind} (silent : ∀ a, ¬ Fires text scenario a) (points : PointsTo p kind) :
      Decides twoBases text scenario p (.ok ⟨kind, .parameters⟩)
  | unknown (silent : ∀ a, ¬ Fires text scenario a) (points : ∀ kind, ¬ PointsTo p kind) :
      Decides twoBases text scenario p (.error (refusal text scenario))

theorem decides_recognize (p : Params α) :
    Decides (TakesTwoBases α text) text scenario p (recognize text scenario p) := by
  cases hfound : catalog.findSome? fun r => r.classify? text scenario with
  | some c =>
      obtain ⟨⟨kind, i⟩, onScenario, rfl, hfirst, hon⟩ :=
        findSome?_catalog_eq_some_iff.mp hfound
      by_cases hmixed : kind = .exponentialQuadratic ∧ (mixedBases α text).isSome = true
      · obtain ⟨rfl, hbases⟩ := hmixed
        have htwo := isSome_mixedBases_iff.mp hbases
        have heq : recognize text scenario p = .error (refusal text scenario) := by
          simp [recognize, hfound, hbases, refusal, htwo.ne_empty]
        rw [heq]
        exact .twoBases hfirst htwo
      · have heq : recognize text scenario p = .ok ⟨kind, .recognizer i onScenario⟩ := by
          simp only [recognize, hfound, Bool.and_eq_true, decide_eq_true_eq, if_neg hmixed]
        rw [heq]
        rw [isSome_mixedBases_iff] at hmixed
        exact .recognizer hfirst hon hmixed
  | none =>
      have hsilent := findSome?_catalog_eq_none_iff.mp hfound
      cases hparams : kindOfParams? p with
      | some kind =>
          have heq : recognize text scenario p = .ok ⟨kind, .parameters⟩ := by
            simp only [recognize, hfound, hparams]
          rw [heq]
          exact .parameters hsilent (kindOfParams?_eq_some_iff.mp hparams)
      | none =>
          have heq : recognize text scenario p = .error (refusal text scenario) := by
            simp only [recognize, hfound, hparams, refusal, String.isEmpty_iff]
          rw [heq]
          refine .unknown hsilent fun kind hkind => ?_
          simp [kindOfParams?_eq_some_iff.mpr hkind] at hparams

omit [Scalar α] in
theorem Decides.unique {twoBases : Prop} {p : Params α} {r r' : Except (Failure α) Classification}
    (h : Decides twoBases text scenario p r) (h' : Decides twoBases text scenario p r') :
    r = r' := by
  cases h with
  | recognizer first hon hbases =>
      cases h' with
      | recognizer first' hon' _ =>
          obtain ⟨rfl, rfl⟩ := Prod.ext_iff.mp (first.unique first')
          rw [Bool.eq_iff_iff.mpr (hon.trans hon'.symm)]
      | twoBases first' htwo =>
          exact absurd ⟨congrArg Prod.fst (first.unique first'), htwo⟩ hbases
      | parameters silent _ => exact absurd first.1 (silent _)
      | unknown silent _ => exact absurd first.1 (silent _)
  | twoBases first htwo =>
      cases h' with
      | recognizer first' _ hbases =>
          exact absurd ⟨congrArg Prod.fst (first'.unique first), htwo⟩ hbases
      | parameters silent _ => exact absurd first.1 (silent _)
      | twoBases | unknown => rfl
  | parameters silent hpoints =>
      cases h' with
      | recognizer first' => exact absurd first'.1 (silent _)
      | twoBases first' => exact absurd first'.1 (silent _)
      | parameters _ hpoints' => rw [hpoints.unique hpoints']
      | unknown _ hnone => exact absurd hpoints (hnone _)
  | unknown silent hnone =>
      cases h' with
      | recognizer first' => exact absurd first'.1 (silent _)
      | parameters _ hpoints => exact absurd hpoints (hnone _)
      | twoBases | unknown => rfl

/-- The rules above say all that classification does without the name of a kind. -/
theorem classify_eq_iff_decides {kindName : Option String} {p : Params α}
    (hblank : ∀ c ∈ (kindName.getD "").toList, Text.isBlank c = true)
    {r : Except (Failure α) Classification} :
    classify text scenario kindName p = r ↔ Decides (TakesTwoBases α text) text scenario p r := by
  rw [classify_of_blank p hblank]
  constructor
  · rintro rfl
    exact decides_recognize p
  · exact (decides_recognize p).unique

omit [Scalar α] in
/-- Two conditions on the bases decide alike if they agree wherever an exponential in quadratic
form is recognized first. -/
theorem decides_iff_iff {two two' : Prop} {p : Params α} :
    (∀ r, Decides two text scenario p r ↔ Decides two' text scenario p r) ↔
      ((∃ i, IsFirst text scenario (.exponentialQuadratic, i)) → (two ↔ two')) := by
  constructor
  · rintro h ⟨i, hfirst⟩
    have himp {two two' : Prop} (hdecides : ∀ r, Decides two text scenario p r →
        Decides two' text scenario p r) (htwo : two) : two' := by
      cases hdecides _ (.twoBases hfirst htwo) with
      | twoBases _ htwo' => exact htwo'
      | unknown silent _ => exact absurd hfirst.1 (silent _)
    exact ⟨himp fun r => (h r).mp, himp fun r => (h r).mpr⟩
  · intro h r
    have himp {two two' : Prop} (htwo : (∃ i, IsFirst text scenario (.exponentialQuadratic, i)) →
        (two ↔ two')) (hdecides : Decides two text scenario p r) : Decides two' text scenario p r := by
      cases hdecides with
      | recognizer first hon hbases =>
          refine .recognizer first hon ?_
          rintro ⟨rfl, htwo'⟩
          exact hbases ⟨rfl, (htwo ⟨_, first⟩).mpr htwo'⟩
      | twoBases first htwo' => exact .twoBases first ((htwo ⟨_, first⟩).mp htwo')
      | parameters silent hpoints => exact .parameters silent hpoints
      | unknown silent hnone => exact .unknown silent hnone
    exact ⟨himp h, himp fun hfirst => (h hfirst).symm⟩

/-- A question without the name of a kind is of the kind of the first recognizer in the catalog
that matches its text or its scenario. If there is none, the kind is the one that the parameters
point to. What neither the catalog nor the parameters know is refused, with the text or else the
scenario. An exponential in quadratic form is refused if two bases are taken; to refuse it if two
bases are shown comes to the same only where the two agree. -/
theorem classify_by_catalog_order {kindName : Option String}
    (hblank : ∀ c ∈ (kindName.getD "").toList, Text.isBlank c = true) (p : Params α) :
    (∀ kind i onScenario, classify text scenario kindName p =
        .ok ⟨kind, .recognizer i onScenario⟩ ↔
      IsFirst text scenario (kind, i) ∧
        (onScenario = true ↔ ¬ FiresOnText text (kind, i)) ∧
        ¬ (kind = .exponentialQuadratic ∧ TakesTwoBases α text)) ∧
    (∀ kind, classify text scenario kindName p = .ok ⟨kind, .parameters⟩ ↔
      (∀ a, ¬ Fires text scenario a) ∧ PointsTo p kind) ∧
    (∀ kind, classify text scenario kindName p ≠ .ok ⟨kind, .explicit⟩) ∧
    (∀ e, classify text scenario kindName p = .error e ↔
      e = .unrecognized (if text = "" then scenario.getD "" else text) ∧
        ((∃ i, IsFirst text scenario (.exponentialQuadratic, i)) ∧ TakesTwoBases α text ∨
          (∀ a, ¬ Fires text scenario a) ∧ ∀ kind, ¬ PointsTo p kind)) ∧
    ((∃ kind, PointsTo p kind) ↔ HasNumber p ∧ ∃ group ∈ keyGroups, HasKeyOf p group.1) ∧
    ((∀ r, classify text scenario kindName p = r ↔
        Decides (ShowsTwoBases text.toList) text scenario p r) ↔
      ((∃ i, IsFirst text scenario (.exponentialQuadratic, i)) →
        (TakesTwoBases α text ↔ ShowsTwoBases text.toList))) := by
  simp only [Ne, classify_eq_iff_decides hblank]
  refine ⟨fun kind i onScenario => ⟨?_, ?_⟩, fun kind => ⟨?_, ?_⟩, fun kind => nofun,
    fun e => ⟨?_, ?_⟩, exists_pointsTo_iff, decides_iff_iff⟩
  · rintro ⟨⟩
    exact ⟨‹_›, ‹_›, ‹_›⟩
  · rintro ⟨hfirst, hon, hbases⟩
    exact .recognizer hfirst hon hbases
  · rintro ⟨⟩
    exact ⟨‹_›, ‹_›⟩
  · rintro ⟨hsilent, hpoints⟩
    exact .parameters hsilent hpoints
  · rintro (_ | ⟨hfirst, htwo⟩ | _ | ⟨hsilent, hnone⟩)
    · exact ⟨rfl, Or.inl ⟨⟨_, hfirst⟩, htwo⟩⟩
    · exact ⟨rfl, Or.inr ⟨hsilent, hnone⟩⟩
  · rintro ⟨rfl, ⟨⟨i, hfirst⟩, htwo⟩ | ⟨hsilent, hnone⟩⟩
    · exact .twoBases hfirst htwo
    · exact .unknown hsilent hnone

end Classify

/-- The words of the scenario decide before the equation. -/
theorem classify_factoringScenario :
    (∀ c ∈ ((some " ").getD "").toList, Text.isBlank c = true) ∧
    IsFirst "x^2 - 5x + 6 = 0" (some "solve by factoring") (.factoringQuadratic, 0) ∧
    ¬ FiresOnText "x^2 - 5x + 6 = 0" (.factoringQuadratic, 0) := by
  have hblank : ∀ c ∈ ((some " ").getD "").toList, Text.isBlank c = true :=
    List.all_eq_true.mp (by decide)
  have hclassify : classify "x^2 - 5x + 6 = 0" (some "solve by factoring") (some " ")
      (.empty : Params Float) = .ok ⟨.factoringQuadratic, .recognizer 0 true⟩ := by
    have hsome : (classify "x^2 - 5x + 6 = 0" (some "solve by factoring") (some " ")
        (.empty : Params Float)).toOption = some ⟨.factoringQuadratic, .recognizer 0 true⟩ := by
      decide +kernel
    revert hsome
    cases classify "x^2 - 5x + 6 = 0" (some "solve by factoring") (some " ")
      (.empty : Params Float) <;> simp [Except.toOption]
  obtain ⟨hfirst, hon, -⟩ := ((classify_by_catalog_order hblank .empty).1 _ _ _).mp hclassify
  exact ⟨hblank, hfirst, hon.mp rfl⟩

/-- Both powers are of ten. -/
def powersOfTenText : String :=
  "10^(2x) - 5*10^x + 4 = 0"

theorem not_showsTwoBases_powersOfTen : ¬ ShowsTwoBases powersOfTenText.toList := by
  intro h
  have hsplit : powersOfTenText.toList =
      "10".toList ++ '^' :: ("(2x) - 5*10".toList ++ '^' :: "x + 4 = 0".toList) := by decide
  rw [hsplit] at h
  obtain ⟨before, base, gap, before', base', gap', hfirst, hsecond, hbase, hbase', hgap, hgap', hne⟩ :=
    h.exists_of_two_carets (by decide) (by decide) (by decide)
  have hten : Numeral "10".toList :=
    Or.inl ⟨['1', '0'], [], rfl, ⟨List.cons_ne_nil _ _, List.all_eq_true.mp (by decide)⟩,
      Or.inl rfl⟩
  have hwhole : WholeBase [] "10".toList := .of_not_digit hten nofun
  have hwhole' : WholeBase "10^(2x) - 5*".toList "10".toList :=
    .of_not_digit hten fun c hc => by
      obtain rfl : '*' = c := Option.some.inj hc
      decide
  have hbase_eq : base = "10".toList := hbase.unique hwhole
    (eq_of_append_allBlank ['1'] hfirst hgap (by decide)).symm
  have hbase_eq' : base' = "10".toList := hbase'.unique hwhole'
    (eq_of_append_allBlank "10^(2x) - 5*1".toList hsecond hgap' (by decide)).symm
  exact hne (by rw [hbase_eq, hbase_eq'])

/-- An exponential in quadratic form that shows one base is refused. -/
theorem refused_powersOfTen : IsFirst powersOfTenText none (.exponentialQuadratic, 0) ∧
    ¬ ShowsTwoBases powersOfTenText.toList ∧
    classify powersOfTenText none none (.empty : Params Float) =
      .error (.unrecognized powersOfTenText) ∧
    ¬ Decides (ShowsTwoBases powersOfTenText.toList) powersOfTenText none (.empty : Params Float)
      (.error (.unrecognized powersOfTenText)) := by
  have hfound : (catalog.findSome? fun r => r.classify? powersOfTenText none) =
      some ⟨.exponentialQuadratic, .recognizer 0 false⟩ := by
    decide +kernel
  obtain ⟨⟨kind, i⟩, onScenario, heq, hfirst, -⟩ := findSome?_catalog_eq_some_iff.mp hfound
  simp only [Classification.mk.injEq, Source.recognizer.injEq] at heq
  obtain ⟨rfl, rfl, rfl⟩ := heq
  have htwo : TakesTwoBases Float powersOfTenText := isSome_mixedBases_iff.mp (by decide +kernel)
  refine ⟨hfirst, not_showsTwoBases_powersOfTen, ?_, ?_⟩
  · exact (classify_eq_iff_decides (by simp)).mpr (.twoBases hfirst htwo)
  · rintro (_ | ⟨_, hshows⟩ | _ | ⟨silent, -⟩)
    · exact not_showsTwoBases_powersOfTen hshows
    · exact silent _ hfirst.1

end EquationTutor.Reading
