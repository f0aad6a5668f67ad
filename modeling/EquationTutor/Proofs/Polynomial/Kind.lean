import EquationTutor.Proofs.Polynomial.LastTerms
/-!
The kind of the text of a polynomial relation. Only what stands to the left of the operator
matters, but for the first number to the right of an equality sign.
-/

namespace EquationTutor

open PolynomialText Reading Pattern

namespace PolynomialText

/-- What may follow the last `x`: nothing, or a constant with a digit before its point. -/
def LinearTail (tail : List Term) : Prop :=
  tail = [] ∨ ∃ k n, tail = [k] ∧ k.power = .constant ∧ k.factor = some n ∧ n.whole ≠ []

theorem LinearTail.eq_nil_or_constant {tail : List Term} (h : LinearTail tail) :
    tail = [] ∨ ∃ k, tail = [k] ∧ k.power = .constant := by
  rcases h with h | ⟨k, n, h, hk, -⟩
  · exact Or.inl h
  · exact Or.inr ⟨k, h, hk⟩

/-- The side ends in a multiple of `x` or in one with a constant. -/
def Side.EndsInX (s : Side) : Prop :=
  ∃ before t tail, s.terms = before ++ t :: tail ∧ t.power = .linear ∧ LinearTail tail

theorem Unsigned.chars_eq (n : Unsigned) :
    n.fraction = [] ∧ n.chars = n.whole ∨
      n.fraction ≠ [] ∧ n.chars = n.whole ++ '.' :: n.fraction := by
  rw [chars]
  split
  · rename_i h
    exact Or.inl ⟨h, rfl⟩
  · rename_i h
    exact Or.inr ⟨fun hnil => h hnil, rfl⟩

theorem Unsigned.digits_whole {n : Unsigned} (h : n.whole ≠ []) : Digits n.whole :=
  ⟨h, fun c hc => textIsDigit_of_isDigit (n.isDigit_whole c hc)⟩

theorem Unsigned.digits_fraction {n : Unsigned} (h : n.fraction ≠ []) : Digits n.fraction :=
  ⟨h, fun c hc => textIsDigit_of_isDigit (n.isDigit_fraction c hc)⟩

theorem Unsigned.decimal_chars {n : Unsigned} (h : n.whole ≠ []) : Reading.Decimal n.chars := by
  rcases n.chars_eq with ⟨-, hchars⟩ | ⟨hf, hchars⟩
  · exact ⟨n.whole, [], by simp [hchars], digits_whole h, Or.inl rfl⟩
  · exact ⟨n.whole, '.' :: n.fraction, hchars, digits_whole h,
      Or.inr ⟨n.fraction, rfl, digits_fraction hf⟩⟩

theorem Unsigned.numeral_chars (n : Unsigned) : Reading.Numeral n.chars := by
  by_cases hwhole : n.whole = []
  · rcases n.chars_eq with ⟨hf, -⟩ | ⟨hf, hchars⟩
    · exact absurd hf (n.ne_nil.resolve_left fun h => h hwhole)
    · exact Or.inr ⟨n.fraction, by rw [hchars, hwhole, List.nil_append], digits_fraction hf⟩
  · exact Or.inl (decimal_chars hwhole)

theorem Unsigned.whole_ne_nil {n : Unsigned} {d : Char} {ds : List Char} (h : n.chars = d :: ds)
    (hd : d ≠ '.') : n.whole ≠ [] := by
  intro hnil
  rcases n.chars_eq with ⟨hf, -⟩ | ⟨-, hchars⟩
  · exact n.ne_nil.elim (fun h => h hnil) fun h => h hf
  · rw [hchars, hnil] at h
    exact hd (List.cons.inj h).1.symm

theorem Unsigned.exists_digit (n : Unsigned) : ∃ point digit rest,
    n.chars = point ++ digit :: rest ∧ (point = [] ∨ point = ['.']) ∧
      Text.isDigit digit = true := by
  rcases n.chars_eq with ⟨hf, hchars⟩ | ⟨hf, hchars⟩
  · have hwhole : n.whole ≠ [] := n.ne_nil.resolve_right fun h => h hf
    obtain ⟨d, ds, hds⟩ := List.exists_cons_of_ne_nil hwhole
    refine ⟨[], d, ds, by rw [hchars, hds]; rfl, Or.inl rfl, ?_⟩
    exact textIsDigit_of_isDigit (n.isDigit_whole d (by simp [hds]))
  · cases hw : n.whole with
    | nil =>
        obtain ⟨d, ds, hds⟩ := List.exists_cons_of_ne_nil hf
        refine ⟨['.'], d, ds, by rw [hchars, hw, hds]; rfl, Or.inr rfl, ?_⟩
        exact textIsDigit_of_isDigit (n.isDigit_fraction d (by simp [hds]))
    | cons d ds =>
        refine ⟨[], d, ds ++ '.' :: n.fraction, by rw [hchars, hw]; rfl, Or.inl rfl, ?_⟩
        exact textIsDigit_of_isDigit (n.isDigit_whole d (by simp [hw]))

theorem linearTail_of_signedDecimal {tail : List Term} (htail : ∀ u ∈ tail, u.sign.isSome = true)
    {cs : List Char} (hcs : ∀ c ∈ cs, c ∈ alphabet) (hsolid : solid cs = tail.flatMap Term.text)
    (h : cs = [] ∨ SignedDecimal cs) : LinearTail tail := by
  have houtline : outline (tail.flatMap Term.text) = outline cs := by
    rw [← hsolid, outline_solid]
  rcases h with rfl | ⟨mark, gap, decimal, gap', rfl, hmark, hgap, hdecimal, hgap'⟩
  · have hnone : ∀ k ∈ ([] : List (Char × Power)), IsSign k.1 := by
      simp
    have hmap := map_power_of_outline htail hnone houtline
    exact Or.inl (List.map_eq_nil_iff.mp hmap)
  · have hsign : IsSign mark := hmark
    have hks : outline (tail.flatMap Term.text) =
        [(mark, Power.constant)].flatMap fun k => k.1 :: k.2.outline := by
      rw [houtline, outline_cons hsign.not_quiet, outline_append, outline_append,
        outline_of_quiet (quiet_of_allBlank hgap), outline_of_quiet (quiet_of_allBlank hgap'),
        outline_of_quiet (quiet_of_decimal hdecimal)]
      rfl
    have hmap := map_power_of_outline htail (by simpa using hsign) hks
    obtain ⟨k, rfl, hconstant⟩ := List.map_eq_singleton_iff.mp hmap
    obtain ⟨n, hn⟩ := Option.isSome_iff_exists.mp (k.isSome_factor hconstant)
    obtain ⟨s, hs⟩ := Option.isSome_iff_exists.mp (htail k (by simp))
    refine Or.inr ⟨k, n, rfl, hconstant, hn, ?_⟩
    -- the first character of the decimal is the first one of the factor
    obtain ⟨whole, fraction, rfl, ⟨hne, hdigits⟩, -⟩ := hdecimal
    obtain ⟨d, whole, rfl⟩ := List.exists_cons_of_ne_nil hne
    have hd : Text.isDigit d = true := hdigits d List.mem_cons_self
    have hsolid_digit : ∀ c ∈ alphabet, Text.isDigit c = true → Text.isBlank c = false :=
      List.all_iff_forall_prop.mp (by decide)
    have hsolid_mark : Text.isBlank mark = false := by
      rcases hmark with rfl | rfl <;> decide
    have hchars : k.text = s.char :: n.chars := by
      simp [Term.text, Term.mark, Term.digits, hs, hn, hconstant, Power.tokens]
    rw [List.flatMap_singleton, hchars, solid_cons hsolid_mark, solid_append, solid_append,
      solid_of_allBlank hgap, List.nil_append, List.cons_append,
      solid_cons (hsolid_digit d (hcs d (by simp)) hd)] at hsolid
    refine Unsigned.whole_ne_nil (List.cons.inj hsolid).2.symm ?_
    rintro rfl
    revert hd
    decide

theorem Term.exists_lead_eq {t : Term} {lead gap : List Char} (h : t.Leads lead gap) {n : Unsigned}
    (hn : t.factor = some n) : ∃ g, lead = t.mark ++ (g ++ n.chars) ∧ ∀ c ∈ g, c = ' ' := by
  obtain ⟨g, hlead, hg, -⟩ := h.exists_eq
  exact ⟨g, by simp [hlead, Term.digits, hn], hg⟩

theorem Term.mark_cases (t : Term) : t.mark = [] ∨ t.mark = ['+'] ∨ t.mark = ['-'] := by
  rw [mark]
  cases t.sign with
  | none => exact Or.inl rfl
  | some s =>
      cases s with
      | plus => exact Or.inr (Or.inl rfl)
      | minus => exact Or.inr (Or.inr rfl)

theorem signedDecimal_of_leads {t : Term} {lead gap : List Char} (h : t.Leads lead gap)
    (hsign : t.sign.isSome = true) {n : Unsigned} (hn : t.factor = some n) (hwhole : n.whole ≠ []) :
    SignedDecimal (lead ++ gap) := by
  obtain ⟨g, rfl, hg⟩ := Term.exists_lead_eq h hn
  obtain ⟨s, hs⟩ := Option.isSome_iff_exists.mp hsign
  refine ⟨s.char, g, n.chars, gap, by simp [Term.mark, hs], s.char_mem, allBlank_of_eq_space hg,
    Unsigned.decimal_chars hwhole, allBlank_of_eq_space h.gap_blank⟩

end PolynomialText

namespace PolynomialRelation.Written

variable {p : PolynomialRelation} {text : List Char} (w : p.Written text)
include w

theorem exists_operator : ∃ c rest,
    p.relation.operator.toList ++ (w.spaces ++ w.right) = c :: rest ∧ c ∈ relationChars := by
  rcases p.operator_cases with ⟨-, h⟩ | ⟨-, c, rfl | rfl, h | h⟩ <;> rw [h] <;>
    exact ⟨_, _, rfl, by decide⟩

/-- Without squares, a linear kind is looked for at the end of the left side. -/
theorem xThen_iff (hsquare : ∀ t ∈ p.left.terms, t.power ≠ .square) {follows : List Char → Prop}
    (hfollows : ∀ cs, follows cs → ∃ c rest, cs = c :: rest ∧ c ∈ relationChars) :
    XThen follows text ↔
      p.left.EndsInX ∧ follows (p.relation.operator.toList ++ (w.spaces ++ w.right)) := by
  constructor
  · rintro ⟨b, gap, term, rest, htext, hgap, hterm, hrest⟩
    obtain ⟨c, rest, rfl, hc⟩ := hfollows rest hrest
    have hquiet : ∀ x ∈ gap ++ term, x ∉ relationChars ∧ x ≠ 'x' := by
      intro x hx
      rcases List.mem_append.mp hx with hx | hx
      · have hx := quiet_of_allBlank hgap x hx
        exact ⟨hx.notMem_relationChars, hx.ne (by decide)⟩
      · rcases hterm with rfl | ⟨mark, g, d, g', rfl, hmark, hg, hd, hg'⟩
        · cases hx
        · simp only [List.mem_cons, List.mem_append] at hx
          rcases hx with rfl | (hx | hx) | hx
          · rcases hmark with rfl | rfl <;> decide
          · have hx := quiet_of_allBlank hg x hx
            exact ⟨hx.notMem_relationChars, hx.ne (by decide)⟩
          · have hx := quiet_of_decimal hd x hx
            exact ⟨hx.notMem_relationChars, hx.ne (by decide)⟩
          · have hx := quiet_of_allBlank hg' x hx
            exact ⟨hx.notMem_relationChars, hx.ne (by decide)⟩
    have htext' : text = (b ++ 'x' :: (gap ++ term)) ++ c :: rest := by simpa using htext
    obtain ⟨hleft, hop⟩ := w.eq_left htext' hc (of_mem_getLast?_append (by simp) (by
      intro x hx
      rcases List.mem_cons.mp hx with rfl | hx
      · decide
      · exact (hquiet x hx).1))
    refine ⟨?_, hop ▸ hrest⟩
    obtain ⟨before, t, tail, l, hterms, ht, -, g, -, hg, hback⟩ :=
      Side.exists_termAt_of_x hsquare w.spelled_left hleft.symm fun hx => (hquiet 'x' hx).2 rfl
    have hsolid : solid term = tail.flatMap Term.text := by
      have := congrArg solid hback
      rwa [solid_append, solid_append, solid_of_allBlank hgap,
        solid_of_allBlank (allBlank_of_eq_space hg), solid_spelled_terms l.spelled_back] at this
    refine ⟨before, t, tail, hterms, ht, ?_⟩
    refine linearTail_of_signedDecimal (Side.isSome_sign_of_tail hterms) ?_ hsolid hterm
    intro x hx
    exact w.mem_alphabet x (by rw [htext']; simp [hx])
  · rintro ⟨⟨before, t, tail, hterms, ht, htail⟩, hop⟩
    have hspelled := w.spelled_left
    rw [Side.tokens, hterms] at hspelled
    obtain ⟨l⟩ := nonempty_termAt hspelled
    have hpower := l.spelled_power
    rw [ht] at hpower
    obtain ⟨g, hpow, hg⟩ := spelled_linear hpower
    refine ⟨l.front ++ (l.lead ++ l.gap), g, l.back, _, ?_, allBlank_of_eq_space hg, ?_, hop⟩
    · refine w.text_eq.trans ((congrArg (· ++ _) l.text_eq).trans ?_)
      simp [hpow]
    · have hback := l.spelled_back
      rcases htail with rfl | ⟨k, n, rfl, hk, hn, hwhole⟩
      · exact Or.inl hback
      · rw [List.flatMap_singleton] at hback
        obtain ⟨lead, gap, power, hcs, hleads, hkpower⟩ := k.exists_leads_of_spelled hback
        rw [hk] at hkpower
        obtain rfl : power = [] := hkpower
        rw [hcs, List.append_nil]
        exact Or.inr (signedDecimal_of_leads hleads
          (Side.isSome_sign_of_tail hterms k (by simp)) hn hwhole)

theorem startsWithOrder_iff :
    StartsWithOrder (p.relation.operator.toList ++ (w.spaces ++ w.right)) ↔ p.relation ≠ .eq := by
  rcases p.operator_cases with ⟨heq, hop⟩ | ⟨hne, c, hc, hop⟩
  · rw [hop]
    constructor
    · rintro ⟨c, rest, h, hc⟩
      obtain ⟨rfl, -⟩ := List.cons.inj h
      rcases hc with h | h <;> cases h
    · intro hne
      exact absurd heq hne
  · refine iff_of_true ?_ hne
    rcases hop with hop | hop <;> rw [hop] <;> exact ⟨c, _, rfl, hc⟩

theorem isSome_factor_iff : p.right.first.factor.isSome = true ↔
    ∃ gap mark gap' point digit rest,
      w.spaces ++ w.right = gap ++ mark ++ gap' ++ point ++ digit :: rest ∧ AllBlank gap ∧
      (mark = [] ∨ mark = ['+'] ∨ mark = ['-']) ∧ AllBlank gap' ∧ (point = [] ∨ point = ['.']) ∧
      Text.isDigit digit = true := by
  constructor
  · intro h
    obtain ⟨n, hn⟩ := Option.isSome_iff_exists.mp h
    obtain ⟨l, hfront⟩ := exists_firstAt w.spelled_right
    obtain ⟨g, hlead, hg⟩ := Term.exists_lead_eq l.leads hn
    obtain ⟨point, digit, rest, hchars, hpoint, hdigit⟩ := n.exists_digit
    refine ⟨w.spaces, p.right.first.mark, g, point, digit, rest ++ (l.gap ++ (l.power ++ l.back)),
      ?_, allBlank_of_eq_space w.eq_space, p.right.first.mark_cases, allBlank_of_eq_space hg,
      hpoint, hdigit⟩
    refine (congrArg (w.spaces ++ ·) l.text_eq).trans ?_
    simp [hfront, hlead, hchars]
  · rintro ⟨gap, mark, gap', point, digit, rest, heq, hgap, hmark, hgap', hpoint, hdigit⟩
    by_contra hnone
    have hfactor : p.right.first.factor = none := by simpa using hnone
    have hx : ∃ xs, p.right.terms.flatMap Term.text = p.right.first.mark ++ 'x' :: xs := by
      rw [Side.terms, List.flatMap_cons, Term.text, Term.digits, hfactor]
      cases hp : p.right.first.power with
      | constant => exact absurd (p.right.first.isSome_factor hp) hnone
      | linear => exact ⟨_, by simp [Power.tokens]; rfl⟩
      | square => exact ⟨_, by simp [Power.tokens]; rfl⟩
    obtain ⟨xs, hxs⟩ := hx
    have hsolid := congrArg solid heq
    have hmem : digit ∈ alphabet := by
      refine w.mem_alphabet digit ?_
      rw [w.text_eq, heq]
      simp
    have hdigit_solid : ∀ c ∈ alphabet, Text.isDigit c = true →
        Text.isBlank c = false ∧ c ≠ 'x' ∧ c ≠ '+' ∧ c ≠ '-' :=
      List.all_iff_forall_prop.mp (by decide)
    obtain ⟨hblank, hnx, hnplus, hnminus⟩ := hdigit_solid digit hmem hdigit
    simp only [solid_append, solid_of_allBlank hgap, solid_of_allBlank hgap', solid_cons hblank,
      solid_of_allBlank (allBlank_of_eq_space w.eq_space), solid_spelled_terms w.spelled_right,
      hxs, List.nil_append, List.append_nil] at hsolid
    have hsolid_mark : solid mark = mark := by
      rcases hmark with rfl | rfl | rfl <;> decide
    have hsolid_point : solid point = point := by
      rcases hpoint with rfl | rfl <;> decide
    rw [hsolid_mark, hsolid_point] at hsolid
    have hsigns (m : List Char) (hm : m = [] ∨ m = ['+'] ∨ m = ['-']) : ∀ c ∈ m, ¬ ¬ IsSign c := by
      rcases hm with rfl | rfl | rfl <;> simp [IsSign]
    have hnumber : ∀ c ∈ (point ++ digit :: solid rest).head?, ¬ IsSign c := by
      rcases hpoint with rfl | rfl
      · simpa [IsSign] using ⟨hnplus, hnminus⟩
      · simp [IsSign]
    obtain ⟨-, htail⟩ := append_inj_of_first (P := fun c => ¬ IsSign c)
      (hsolid.trans (List.append_assoc ..)) (hsigns _ p.right.first.mark_cases) (hsigns _ hmark)
      (by simp [IsSign]) hnumber
    rcases hpoint with rfl | rfl
    · exact hnx (List.cons.inj htail).1.symm
    · cases (List.cons.inj htail).1

theorem startsWithValue_iff :
    StartsWithValue (p.relation.operator.toList ++ (w.spaces ++ w.right)) ↔
      p.relation = .eq ∧ p.right.first.factor.isSome = true := by
  rw [w.isSome_factor_iff]
  rcases p.operator_cases with ⟨heq, hop⟩ | ⟨hne, c, hc, hop⟩
  · rw [hop, and_iff_right heq, StartsWithValue]
    simp only [List.cons_append, List.nil_append, List.cons.injEq, true_and]
  · refine iff_of_false ?_ fun h => hne h.1
    rintro ⟨gap, mark, gap', point, digit, rest, heq, -⟩
    rcases hop with hop | hop <;> rw [hop] at heq <;>
      obtain ⟨rfl, -⟩ := List.cons.inj heq <;> rcases hc with h | h <;> cases h

theorem stated_quadraticInequality_iff : Stated .quadraticInequality text ↔
    p.relation ≠ .eq ∧ ∃ t ∈ p.left.terms, t.power = .square :=
  (w.stated_iff_within rfl (by decide)).trans w.within_quadraticInequality_iff

theorem stated_standardQuadratic_iff : Stated .standardQuadratic text ↔
    p.relation = .eq ∧ ∃ t ∈ p.left.terms, t.power = .square :=
  (w.stated_iff_within rfl (by decide)).trans w.within_standardQuadratic_iff

section NoSquare

variable (hsquare : ∀ t ∈ p.left.terms, t.power ≠ .square)
include hsquare

theorem stated_linearInequality_iff :
    Stated .linearInequality text ↔ p.left.EndsInX ∧ p.relation ≠ .eq := by
  rw [w.stated_iff_within rfl (by decide), ← w.startsWithOrder_iff]
  refine (within_x_iff takes_orderSign_iff).trans (w.xThen_iff hsquare ?_)
  rintro cs ⟨c, rest, rfl, hc⟩
  exact ⟨c, rest, rfl, by rcases hc with rfl | rfl <;> decide⟩

theorem stated_simpleLinear_iff : Stated .simpleLinear text ↔
    p.left.EndsInX ∧ p.relation = .eq ∧ p.right.first.factor.isSome = true := by
  rw [w.stated_iff_within rfl (by decide), ← w.startsWithValue_iff]
  refine (within_x_iff takes_equalsValue_iff).trans (w.xThen_iff hsquare ?_)
  rintro cs ⟨gap, mark, gap', point, digit, rest, rfl, -⟩
  exact ⟨'=', _, rfl, by decide⟩

end NoSquare

end PolynomialRelation.Written

namespace PolynomialRelation.Written

variable {p : PolynomialRelation} {s : String} (w : p.Written s.toList)
include w

theorem firstKind?_of_stated {kind : Kind} (hstated : Stated kind s.toList)
    (hothers : ∀ k ∈ polynomialKinds.takeWhile (· ≠ kind), ¬ Stated k s.toList) :
    firstKind? s = some kind := by
  have hbefore : ∀ kind ∈ polynomialKinds, ∀ k ∈ Kind.all.takeWhile (· ≠ kind),
      k ∉ polynomialKinds ∨ k ∈ polynomialKinds.takeWhile (· ≠ kind) := by
    decide
  refine firstKind?_eq_some_iff.mpr ⟨hstated, fun k hk => ?_⟩
  have hkind : kind ∈ polynomialKinds := by
    by_contra h
    exact w.not_stated_of_kind h hstated
  rcases hbefore kind hkind k hk with h | h
  · exact w.not_stated_of_kind h
  · exact hothers k h

theorem firstKind?_of_square (h : ∃ t ∈ p.left.terms, t.power = .square) :
    firstKind? s =
      some (if p.relation = .eq then .standardQuadratic else .quadraticInequality) := by
  by_cases heq : p.relation = .eq
  · rw [if_pos heq]
    refine w.firstKind?_of_stated (w.stated_standardQuadratic_iff.mpr ⟨heq, h⟩) ?_
    intro k hk
    obtain rfl : k = .quadraticInequality := by
      revert hk
      cases k <;> decide
    exact fun h => (w.stated_quadraticInequality_iff.mp h).1 heq
  · rw [if_neg heq]
    refine w.firstKind?_of_stated (w.stated_quadraticInequality_iff.mpr ⟨heq, h⟩) ?_
    intro k hk
    cases hk

section NoSquare

variable (hsquare : ∀ t ∈ p.left.terms, t.power ≠ .square)
include hsquare

theorem not_stated_quadratic {kind : Kind}
    (hkind : kind = .quadraticInequality ∨ kind = .standardQuadratic) :
    ¬ Stated kind s.toList := by
  intro h
  have hex : ∃ t ∈ p.left.terms, t.power = .square := by
    rcases hkind with rfl | rfl
    · exact (w.stated_quadraticInequality_iff.mp h).2
    · exact (w.stated_standardQuadratic_iff.mp h).2
  obtain ⟨t, ht, hpower⟩ := hex
  exact hsquare t ht hpower

theorem firstKind?_of_endsInX (hx : p.left.EndsInX)
    (hnumber : p.relation = .eq → p.right.first.factor.isSome = true) :
    firstKind? s = some (if p.relation = .eq then .simpleLinear else .linearInequality) := by
  by_cases heq : p.relation = .eq
  · rw [if_pos heq]
    refine w.firstKind?_of_stated
      ((w.stated_simpleLinear_iff hsquare).mpr ⟨hx, heq, hnumber heq⟩) ?_
    intro k hk
    have hcases : (k = .quadraticInequality ∨ k = .standardQuadratic) ∨ k = .linearInequality := by
      revert hk
      cases k <;> decide
    rcases hcases with hk | rfl
    · exact w.not_stated_quadratic hsquare hk
    · exact fun h => ((w.stated_linearInequality_iff hsquare).mp h).2 heq
  · rw [if_neg heq]
    refine w.firstKind?_of_stated ((w.stated_linearInequality_iff hsquare).mpr ⟨hx, heq⟩) ?_
    intro k hk
    refine w.not_stated_quadratic hsquare ?_
    revert hk
    cases k <;> decide

theorem firstKind?_eq_none
    (h : ¬ (p.left.EndsInX ∧ (p.relation = .eq → p.right.first.factor.isSome = true))) :
    firstKind? s = none := by
  rw [firstKind?_eq_none_iff]
  intro kind hstated
  have hkind : kind ∈ polynomialKinds := by
    by_contra hkind
    exact w.not_stated_of_kind hkind hstated
  simp only [polynomialKinds, List.mem_cons, List.not_mem_nil, or_false] at hkind
  rcases hkind with hk | hk | rfl | rfl
  · exact w.not_stated_quadratic hsquare (Or.inl hk) hstated
  · exact w.not_stated_quadratic hsquare (Or.inr hk) hstated
  · obtain ⟨hx, hne⟩ := (w.stated_linearInequality_iff hsquare).mp hstated
    exact h ⟨hx, fun heq => absurd heq hne⟩
  · obtain ⟨hx, -, hnumber⟩ := (w.stated_simpleLinear_iff hsquare).mp hstated
    exact h ⟨hx, fun _ => hnumber⟩

end NoSquare

end PolynomialRelation.Written

end EquationTutor
