import EquationTutor.Numeric.Double
import EquationTutor.Proofs.Reading.PowerTexts

namespace EquationTutor.Reading

open Pattern

/-- Some digit or `e` is raised to `x`, or to something in parentheses with an `x`. -/
def ExponentX (cs : List Char) : Prop :=
  ∃ before base gap gap' power rest,
    cs = before ++ base :: (gap ++ '^' :: (gap' ++ power ++ rest)) ∧
    (Text.isDigit base = true ∨ base = 'e') ∧ AllBlank gap ∧ AllBlank gap' ∧
    (power = ['x'] ∨ ∃ s t, power = '(' :: (s ++ 'x' :: t) ++ [')'])

/-- The text looks like an exponential kind before it looks like any of another family, or it looks
like none at all. -/
def LooksExponential (cs : List Char) : Prop :=
  LooksOrdered cs ∨ LooksDoubled cs ∨
    ¬ LooksQuadratic cs ∧ (LooksPower cs ∨
      ¬ LooksFinancial cs ∧ (LooksLogarithmic cs ∨ ¬ LooksLinear cs))

theorem looksExponential_iff {cs : List Char} : LooksExponential cs ↔
    Stated .exponentialInequality cs ∨ Stated .exponentialQuadratic cs ∨
      (∀ kind, kind.family = .quadratic → ¬ Stated kind cs) ∧
        ((Stated .naturalExponential cs ∨ Stated .simpleExponential cs) ∨
          (∀ kind, kind.family = .finance → ¬ Stated kind cs) ∧
            (Stated .logarithmicEquation cs ∨ ¬ LooksLinear cs)) := by
  rw [LooksExponential, ← stated_exponentialInequality_iff, ← stated_exponentialQuadratic_iff,
    ← stated_power_iff, ← stated_logarithmicEquation_iff, ← exists_stated_quadratic_iff,
    ← exists_stated_finance_iff]
  simp only [not_exists, not_and]

theorem looksOther_of_powerThen {cs : List Char} (h : PowerThen DigitBase StartsWithRelation cs) :
    LooksOther cs := by
  obtain ⟨before, base, gap, gap', power, gap'', rest, hcs, hbase, hgap, hgap', hpower, hgap'',
    c, left, hrest, hc⟩ := h
  rcases hc with rfl | hc
  · exact Or.inr (Or.inr (Or.inr (Or.inl (Or.inr (Or.inl ⟨before, base, gap, gap', power, gap'',
      rest, hcs, hbase, hgap, hgap', hpower, hgap'', left, hrest⟩)))))
  · exact Or.inl (Or.inl ⟨before, base, gap, gap', power, gap'', rest, hcs, Or.inl hbase, hgap,
      hgap', hpower, hgap'', c, left, hrest, hc⟩)

section FirstKind

variable {s : String}

theorem mem_takeWhile_of_linear {kind : Kind} (hkind : kind.family = .linear) {k : Kind}
    (hk : k.family ≠ .linear) : k ∈ Kind.all.takeWhile (· ≠ kind) := by
  revert hkind hk
  cases kind <;> cases k <;> decide

theorem firstKind?_linear_iff :
    (∃ kind, firstKind? s = some kind ∧ kind.family = .linear) ↔
      LooksLinear s.toList ∧ ¬ LooksOther s.toList := by
  rw [← exists_stated_linear_iff, ← exists_stated_other_iff]
  simp only [not_exists, not_and]
  constructor
  · rintro ⟨kind, hfirst, hlinear⟩
    obtain ⟨hstated, hbefore⟩ := firstKind?_eq_some_iff.mp hfirst
    exact ⟨⟨kind, hlinear, hstated⟩,
      fun k hk => hbefore k (mem_takeWhile_of_linear hlinear hk)⟩
  · rintro ⟨⟨kind, hlinear, hstated⟩, hothers⟩
    cases hfirst : firstKind? s with
    | none => exact absurd hstated (firstKind?_eq_none_iff.mp hfirst kind)
    | some k =>
        refine ⟨k, rfl, ?_⟩
        by_contra hk
        exact hothers k hk (firstKind?_eq_some_iff.mp hfirst).1

theorem mem_takeWhile_of_quadratic {kind k : Kind} (hkind : kind = .naturalExponential ∨
    kind = .simpleExponential ∨ kind = .logarithmicEquation) (hk : k.family = .quadratic) :
    k ∈ Kind.all.takeWhile (· ≠ kind) := by
  revert hk
  rcases hkind with rfl | rfl | rfl <;> cases k <;> decide

theorem mem_takeWhile_of_finance {k : Kind} (hk : k.family = .finance) :
    k ∈ Kind.all.takeWhile (· ≠ .logarithmicEquation) := by
  revert hk
  cases k <;> decide

/-- Of the kinds of other families only the quadratic ones stand before equations of a power. -/
theorem exponential_mem_takeWhile {kind : Kind} (hkind : kind.family ≠ .exponential) :
    (.exponentialInequality ∈ Kind.all.takeWhile (· ≠ kind) ∧
      .exponentialQuadratic ∈ Kind.all.takeWhile (· ≠ kind)) ∧
    (kind.family ≠ .quadratic → .naturalExponential ∈ Kind.all.takeWhile (· ≠ kind) ∧
      .simpleExponential ∈ Kind.all.takeWhile (· ≠ kind)) ∧
    (kind.family ≠ .quadratic → kind.family ≠ .finance → kind.family = .linear) := by
  revert hkind
  cases kind <;> decide

theorem looksExponential_of_firstKind?
    (h : ∀ kind, firstKind? s = some kind → kind.family = .exponential) :
    LooksExponential s.toList := by
  rw [looksExponential_iff]
  cases hfirst : firstKind? s with
  | none =>
      have hnone := firstKind?_eq_none_iff.mp hfirst
      refine Or.inr (Or.inr ⟨fun k _ => hnone k, Or.inr ⟨fun k _ => hnone k, ?_⟩⟩)
      rw [← exists_stated_linear_iff]
      exact Or.inr fun ⟨k, _, hk⟩ => hnone k hk
  | some kind =>
      have hfamily := h kind hfirst
      obtain ⟨hstated, hbefore⟩ := firstKind?_eq_some_iff.mp hfirst
      have hquadratic (hkind : kind = .naturalExponential ∨ kind = .simpleExponential ∨
          kind = .logarithmicEquation) (k : Kind) (hk : k.family = .quadratic) :
          ¬ Stated k s.toList := hbefore k (mem_takeWhile_of_quadratic hkind hk)
      cases kind with
      | exponentialInequality => exact Or.inl hstated
      | exponentialQuadratic => exact Or.inr (Or.inl hstated)
      | naturalExponential =>
          exact Or.inr (Or.inr ⟨hquadratic (by simp), Or.inl (Or.inl hstated)⟩)
      | simpleExponential =>
          exact Or.inr (Or.inr ⟨hquadratic (by simp), Or.inl (Or.inr hstated)⟩)
      | logarithmicEquation =>
          refine Or.inr (Or.inr ⟨hquadratic (by simp), Or.inr ⟨fun k hk => ?_, Or.inl hstated⟩⟩)
          exact hbefore k (mem_takeWhile_of_finance hk)
      | _ => cases hfamily

theorem exponential_of_firstKind? (h : LooksExponential s.toList) {kind : Kind}
    (hfirst : firstKind? s = some kind) : kind.family = .exponential := by
  obtain ⟨hstated, hbefore⟩ := firstKind?_eq_some_iff.mp hfirst
  by_contra hfamily
  obtain ⟨⟨hordered, hdoubled⟩, hpower, hlinear⟩ := exponential_mem_takeWhile hfamily
  rcases looksExponential_iff.mp h with h | h | ⟨hquadratic, h⟩
  · exact hbefore _ hordered h
  · exact hbefore _ hdoubled h
  have hnot_quadratic : kind.family ≠ .quadratic := fun hk => hquadratic kind hk hstated
  rcases h with (h | h) | ⟨hfinance, h⟩
  · exact hbefore _ (hpower hnot_quadratic).1 h
  · exact hbefore _ (hpower hnot_quadratic).2 h
  have hlinear := hlinear hnot_quadratic fun hk => hfinance kind hk hstated
  rcases h with h | h
  · exact hbefore _ (mem_takeWhile_of_linear hlinear (by decide)) h
  · exact h (exists_stated_linear_iff.mp ⟨kind, hlinear, hstated⟩)

theorem firstKind?_exponential_iff :
    (∀ kind, firstKind? s = some kind → kind.family = .exponential) ↔
      LooksExponential s.toList :=
  ⟨looksExponential_of_firstKind?, fun h _ => exponential_of_firstKind? h⟩

end FirstKind

section Classify

variable {α : Type} [Scalar α] {s : String} (hs : s ≠ "")
include hs

theorem classify_family_iff (family : Family) (hfamily : family ≠ .exponential) :
    (∃ c, classify s none none (.empty : Params α) = .ok c ∧ c.kind.family = family) ↔
      ∃ kind, firstKind? s = some kind ∧ kind.family = family := by
  cases hfirst : firstKind? s with
  | none => simp [classify_of_firstKind?_eq_none (α := α) hs hfirst]
  | some kind =>
      by_cases hkind : kind = .exponentialQuadratic
      · subst hkind
        have : Kind.exponentialQuadratic.family ≠ family := hfamily.symm
        rcases classify_of_exponentialQuadratic (α := α) hs hfirst with ⟨c, hc, hkind⟩ | herror
        · simp [hc, hkind]
        · simp [herror, this]
      · obtain ⟨c, hc, rfl⟩ := classify_of_firstKind?_eq_some (α := α) hs hfirst hkind
        simp [hc]

theorem classify_exponential_iff :
    ((∃ c, classify s none none (.empty : Params α) = .ok c ∧ c.kind.family = .exponential) ∨
        classify s none none (.empty : Params α) = .error (.unrecognized s)) ↔
      ∀ kind, firstKind? s = some kind → kind.family = .exponential := by
  cases hfirst : firstKind? s with
  | none => simp [classify_of_firstKind?_eq_none (α := α) hs hfirst]
  | some kind =>
      by_cases hkind : kind = .exponentialQuadratic
      · subst hkind
        rcases classify_of_exponentialQuadratic (α := α) hs hfirst with ⟨c, hc, hkind⟩ | herror
        · simp [hc, hkind, Kind.family]
        · simp [herror, Kind.family]
      · obtain ⟨c, hc, rfl⟩ := classify_of_firstKind?_eq_some (α := α) hs hfirst hkind
        simp [hc]

end Classify

/-- With an `x` in an exponent the text is of an exponential kind, or refused, if and only
if it looks so; it is linear if it looks linear and like nothing else. A power that is
followed at once by a relation sign is never linear. -/
theorem classify_exponentX {α : Type} [Scalar α] (s : String) (hx : ExponentX s.toList) :
    (((∃ c, classify s none none (.empty : Params α) = .ok c ∧
          c.kind.family = .exponential) ∨
        classify s none none (.empty : Params α) = .error (.unrecognized s)) ↔
      LooksExponential s.toList) ∧
    ((∃ c, classify s none none (.empty : Params α) = .ok c ∧ c.kind.family = .linear) ↔
      LooksLinear s.toList ∧ ¬ LooksOther s.toList) ∧
    (PowerThen DigitBase StartsWithRelation s.toList ∨ NaturalPower s.toList →
      ∀ c, classify s none none (.empty : Params α) = .ok c → c.kind.family ≠ .linear) := by
  have hs : s ≠ "" := by
    rintro rfl
    obtain ⟨before, base, gap, gap', power, rest, hcs, -⟩ := hx
    simp at hcs
  have hlinear := (classify_family_iff (α := α) hs .linear (by decide)).trans
    firstKind?_linear_iff
  refine ⟨(classify_exponential_iff hs).trans firstKind?_exponential_iff, hlinear, ?_⟩
  intro h c hc hfamily
  obtain ⟨-, hothers⟩ := hlinear.mp ⟨c, hc, hfamily⟩
  rcases h with hpower | hnatural
  · exact hothers (looksOther_of_powerThen hpower)
  · exact hothers (Or.inr (Or.inr (Or.inr (Or.inl (Or.inl hnatural)))))

/-- Eight is a power of two. -/
theorem classify_two_power_eight : ExponentX "2^x = 8".toList ∧
    ∀ c, classify "2^x = 8" none none (.empty : Params Float) = .ok c →
      c.kind.family ≠ .linear := by
  have hx : ExponentX "2^x = 8".toList :=
    ⟨[], '2', [], [], ['x'], [' ', '=', ' ', '8'], by decide, Or.inl (by decide), allBlank_nil,
      allBlank_nil, Or.inl rfl⟩
  refine ⟨hx, (classify_exponentX "2^x = 8" hx).2.2 (Or.inl ?_)⟩
  have hdigit : Text.isDigit '2' = true := by decide
  refine ⟨[], '2', [], [], ['x'], [' '], ['=', ' ', '8'], by decide, hdigit, allBlank_nil,
    allBlank_nil, ⟨[], [], [], [], by simp, by simp, allBlank_nil, allBlank_nil, by simp⟩,
    ?_, '=', _, rfl, Or.inl rfl⟩
  simp only [AllBlank, List.mem_singleton, forall_eq]
  decide

/-- A term between the exponent and the relation sign hides the power. -/
theorem classify_two_power_plus_three : ExponentX "2^x + 3 = 11".toList ∧
    classify "2^x + 3 = 11" none none (.empty : Params Float) =
      .ok ⟨.simpleLinear, .recognizer 0 false⟩ := by
  constructor
  · exact ⟨[], '2', [], [], ['x'], " + 3 = 11".toList, by decide, Or.inl (by decide),
      allBlank_nil, allBlank_nil, Or.inl rfl⟩
  · rfl

end EquationTutor.Reading
