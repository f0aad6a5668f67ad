import EquationTutor.Proofs.Pattern.Best
import EquationTutor.Proofs.Polynomial.Kind

namespace EquationTutor

namespace Pattern

variable {p q : Pattern} {before rest : List Char}

theorem refuses_seq (h : p.Refuses before rest) : (seq p q).Refuses before rest := by
  rintro _ t rfl ⟨s, u, rfl, hs, -⟩
  exact h s (u ++ t) (List.append_assoc ..) hs

theorem refuses_alt (hp : p.Refuses before rest) (hq : q.Refuses before rest) :
    (alt p q).Refuses before rest := by
  rintro s t hrest (h | h)
  · exact hp s t hrest h
  · exact hq s t hrest h

theorem refuses_one {accepts : Char → Bool} (h : ∀ c ∈ rest.head?, accepts c = false) :
    (one accepts).Refuses before rest := by
  rintro _ t rfl ⟨c, rfl, hc⟩
  rw [h c rfl] at hc
  cases hc

theorem refuses_oneOrMore {accepts : Char → Bool} (h : ∀ c ∈ rest.head?, accepts c = false) :
    (oneOrMore accepts).Refuses before rest := by
  rintro s t rfl hs
  obtain ⟨hne, hs⟩ := takes_oneOrMore.mp hs
  obtain ⟨c, s, rfl⟩ := List.exists_cons_of_ne_nil hne
  have hc := hs c List.mem_cons_self
  rw [h c rfl] at hc
  cases hc

end Pattern

open PolynomialText Reading Pattern

namespace PolynomialText

def numberEnders : List Char :=
  [' ', 'x', 'y', '+', '-', '^', '*', '=', '<', '>', '!', ',']

/-- What follows does not go on with a number. -/
def NumberEnds (rest : List Char) : Prop :=
  ∀ c ∈ rest.head?, c ∈ numberEnders

theorem NumberEnds.not_digit {rest : List Char} (h : NumberEnds rest) :
    ∀ c ∈ rest.head?, Text.isDigit c = false := by
  have hall : ∀ c ∈ numberEnders, Text.isDigit c = false :=
    List.all_iff_forall_prop.mp (by decide)
  exact fun c hc => hall c (h c hc)

theorem NumberEnds.ne {rest : List Char} (h : NumberEnds rest) {d : Char}
    (hd : d ∉ numberEnders) : ∀ c ∈ rest.head?, (c == d) = false := by
  intro c hc
  rw [beq_eq_false_iff_ne]
  rintro rfl
  exact hd (h c hc)

variable {before rest : List Char} {g g' : Groups}

theorem best_blanks {gap : List Char} (hgap : AllBlank gap)
    (hrest : ∀ c ∈ rest.head?, Text.isBlank c = false) : blanks.Best before gap rest g g :=
  best_repeated hgap hrest (Nat.zero_le _)

theorem best_digits {ds : List Char} (hds : Digits ds)
    (hrest : ∀ c ∈ rest.head?, Text.isDigit c = false) : digits.Best before ds rest g g :=
  best_repeated hds.2 hrest (List.length_pos_iff.mpr hds.1)

theorem not_isDigit_point (cs : List Char) :
    ∀ c ∈ ('.' :: cs).head?, Text.isDigit c = false := by
  intro c hc
  obtain rfl : '.' = c := by simpa using hc
  decide

theorem best_numeral {cs : List Char} (h : Numeral cs)
    (hdigit : ∀ c ∈ rest.head?, Text.isDigit c = false)
    (hpoint : ∀ c ∈ rest.head?, (c == '.') = false) : number.Best before cs rest g g := by
  have hfraction {ds : List Char} (hds : Digits ds) (before : List Char) :
      (cat [char '.', digits]).Best before ('.' :: ds) rest g g :=
    best_seq (s := ['.']) best_char (best_digits hds hdigit)
  rcases h with ⟨whole, fraction, rfl, hwhole, rfl | ⟨ds, rfl, hds⟩⟩ | ⟨ds, rfl, hds⟩
  · exact best_alt_left (best_seq (best_digits hwhole hdigit)
      (best_optional_of_refuses (refuses_seq (refuses_one hpoint))))
  · exact best_alt_left (best_seq (best_digits hwhole (not_isDigit_point _))
      (best_optional (hfraction hds _)))
  · exact best_alt_right (refuses_seq (refuses_oneOrMore (not_isDigit_point _)))
      (hfraction hds before)

theorem best_number (n : Unsigned) (hrest : NumberEnds rest) :
    number.Best before n.chars rest g g :=
  best_numeral n.numeral_chars hrest.not_digit (hrest.ne (by decide))

theorem refuses_sign (h : ∀ c ∈ rest.head?, ¬ IsSign c) : sign.Refuses before rest := by
  refine refuses_one fun c hc => ?_
  have := h c hc
  simp only [IsSign, not_or] at this
  simp [this]

variable {t : Term}

theorem best_sign (h : t.sign.isSome = true) : sign.Best before t.mark rest g g := by
  obtain ⟨s, hs⟩ := Option.isSome_iff_exists.mp h
  rw [Term.mark, hs, Option.elim_some]
  refine best_one ?_
  cases s <;> decide

theorem best_optional_sign (h : t.sign = none → ∀ c ∈ rest.head?, ¬ IsSign c) :
    (optional sign).Best before t.mark rest g g := by
  cases hs : t.sign with
  | none =>
      rw [Term.mark, hs]
      exact best_optional_of_refuses (refuses_sign (h hs))
  | some s => exact best_optional (best_sign (by simp [hs]))

theorem best_digits_of_some (h : t.factor.isSome = true) (hrest : NumberEnds rest) :
    number.Best before t.digits rest g g := by
  obtain ⟨n, hn⟩ := Option.isSome_iff_exists.mp h
  rw [Term.digits, hn, Option.elim_some]
  exact best_number n hrest

theorem refuses_number (hdigit : ∀ c ∈ rest.head?, Text.isDigit c = false)
    (hpoint : ∀ c ∈ rest.head?, (c == '.') = false) : number.Refuses before rest :=
  refuses_alt (refuses_seq (refuses_oneOrMore hdigit)) (refuses_seq (refuses_one hpoint))

theorem best_optional_digits (hrest : NumberEnds rest) :
    (optional number).Best before t.digits rest g g := by
  cases hn : t.factor with
  | none =>
      rw [Term.digits, hn]
      exact best_optional_of_refuses (refuses_number hrest.not_digit (hrest.ne (by decide)))
  | some n => exact best_optional (best_digits_of_some (by simp [hn]) hrest)

def StartsWithVariable (rest : List Char) : Prop :=
  ∃ v ∈ ['x', 'y'], rest.head? = some v

theorem StartsWithVariable.head? {rest : List Char} (h : StartsWithVariable rest) :
    ∀ c ∈ rest.head?, ¬ IsSign c ∧ Text.isBlank c = false ∧ (c == '*') = false := by
  have hall : ∀ c ∈ ['x', 'y'], ¬ IsSign c ∧ Text.isBlank c = false ∧ (c == '*') = false :=
    List.all_iff_forall_prop.mp (by decide)
  obtain ⟨v, hv, hrest⟩ := h
  intro c hc
  obtain rfl : v = c := by simpa [hrest] using hc
  exact hall v hv

theorem startsWithVariable_x {rest : List Char} (h : rest.head? = some 'x') :
    StartsWithVariable rest :=
  ⟨'x', by simp, h⟩

theorem head?_digits_append (hfirst : t.factor = none → StartsWithVariable rest) :
    ∀ c ∈ (t.digits ++ rest).head?, ¬ IsSign c ∧ Text.isBlank c = false := by
  intro c hc
  cases hn : t.factor with
  | none =>
      rw [Term.digits, hn, Option.elim_none, List.nil_append] at hc
      obtain ⟨hsign, hblank, -⟩ := (hfirst hn).head? c hc
      exact ⟨hsign, hblank⟩
  | some n =>
      rw [Term.digits, hn, Option.elim_some] at hc
      have hall : ∀ c ∈ '.' :: digitChars, ¬ IsSign c ∧ Text.isBlank c = false :=
        List.all_iff_forall_prop.mp (by decide)
      exact hall c (n.head?_chars_append rest c hc)

theorem best_signThen {signPart q : Pattern} {sp : List Char} (hsp : ∀ c ∈ sp, c = ' ')
    (hfirst : t.factor = none → StartsWithVariable rest)
    (hsign : ∀ rest, (t.sign = none → ∀ c ∈ rest.head?, ¬ IsSign c) →
      signPart.Best before t.mark rest g g)
    (hq : ∀ before, q.Best before t.digits rest g g) :
    (cat [signPart, blanks, q]).Best before (t.mark ++ (sp ++ t.digits)) rest g g := by
  have hhead := head?_digits_append hfirst
  refine best_seq (hsign _ ?_) (best_seq (best_blanks (allBlank_of_eq_space hsp) ?_) (hq _))
  · intro _ c hc
    cases sp with
    | nil => exact (hhead c (by simpa using hc)).1
    | cons d sp =>
        obtain rfl : d = c := by simpa using hc
        rw [hsp d List.mem_cons_self]
        decide
  · exact fun c hc => (hhead c hc).2

/-- The sign and the factor of a term are taken by all patterns for coefficients. -/
theorem best_lead {signPart numberPart : Pattern} {sp : List Char} (hsp : ∀ c ∈ sp, c = ' ')
    (hrest : NumberEnds rest) (hfirst : t.factor = none → StartsWithVariable rest)
    (hsign : ∀ rest, (t.sign = none → ∀ c ∈ rest.head?, ¬ IsSign c) →
      signPart.Best before t.mark rest g g)
    (hnumber : ∀ before, numberPart.Best before t.digits rest g g) :
    (cat [signPart, blanks, numberPart, optional overDigits]).Best before
      (t.mark ++ (sp ++ t.digits)) rest g g := by
  refine best_signThen hsp hfirst hsign fun before => ?_
  rw [← List.append_nil t.digits]
  exact best_seq (hnumber before)
    (best_optional_of_refuses (refuses_seq (refuses_one (hrest.ne (by decide)))))

theorem best_coefficient_of_spaces {sp : List Char} (hsp : ∀ c ∈ sp, c = ' ')
    (hrest : NumberEnds rest) (hfirst : t.factor = none → StartsWithVariable rest) :
    coefficient.Best before (t.mark ++ (sp ++ t.digits)) rest g g :=
  best_lead hsp hrest hfirst (fun _ => best_optional_sign) fun _ => best_optional_digits hrest

section Lead

variable {lead gap : List Char} (h : t.Leads lead gap) (hrest : NumberEnds rest)
include h hrest

theorem best_coefficient (hfirst : t.factor = none → StartsWithVariable rest) :
    coefficient.Best before lead rest g g := by
  obtain ⟨sp, rfl, hsp, -⟩ := h.exists_eq
  exact best_coefficient_of_spaces hsp hrest hfirst

theorem best_signedCoefficient (hsign : t.sign.isSome = true)
    (hfirst : t.factor = none → StartsWithVariable rest) :
    signedCoefficient.Best before lead rest g g := by
  obtain ⟨sp, rfl, hsp, -⟩ := h.exists_eq
  exact best_lead hsp hrest hfirst (fun _ _ => best_sign hsign) fun _ => best_optional_digits hrest

theorem best_signedNumber (hfactor : t.factor.isSome = true) :
    signedNumber.Best before lead rest g g := by
  obtain ⟨sp, rfl, hsp, -⟩ := h.exists_eq
  exact best_lead hsp hrest (fun hnone => by simp [hnone] at hfactor) (fun _ => best_optional_sign)
    fun _ => best_digits_of_some hfactor hrest

theorem best_constantTerm (hsign : t.sign.isSome = true) (hfactor : t.factor.isSome = true) :
    constantTerm.Best before lead rest g g := by
  obtain ⟨sp, rfl, hsp, -⟩ := h.exists_eq
  exact best_lead hsp hrest (fun hnone => by simp [hnone] at hfactor)
    (fun _ _ => best_sign hsign) fun _ => best_digits_of_some hfactor hrest

end Lead

theorem best_times_of_head {gap : List Char} (hgap : ∀ c ∈ gap, c = ' ')
    (hrest : ∀ c ∈ rest.head?, Text.isBlank c = false ∧ (c == '*') = false) :
    times.Best before gap rest g g := by
  have hblank : ∀ c ∈ rest.head?, Text.isBlank c = false := fun c hc => (hrest c hc).1
  rw [← List.append_nil gap]
  exact best_seq (best_blanks (allBlank_of_eq_space hgap) hblank)
    (best_seq (t := []) (best_optional_of_refuses (refuses_one fun c hc => (hrest c hc).2))
      (best_blanks allBlank_nil hblank))

theorem best_times {gap : List Char} (hgap : ∀ c ∈ gap, c = ' ')
    (hrest : StartsWithVariable rest) : times.Best before gap rest g g :=
  best_times_of_head hgap fun c hc => (hrest.head? c hc).2

theorem best_times_star {gap gap' : List Char} (hgap : ∀ c ∈ gap, c = ' ')
    (hgap' : ∀ c ∈ gap', c = ' ') (hrest : ∀ c ∈ rest.head?, Text.isBlank c = false) :
    times.Best before (gap ++ '*' :: gap') rest g g := by
  refine best_seq (best_blanks (allBlank_of_eq_space hgap) ?_)
    (best_seq (s := ['*']) (best_optional best_char)
      (best_blanks (allBlank_of_eq_space hgap') hrest))
  intro c hc
  obtain rfl : '*' = c := by simpa using hc
  decide

theorem best_equals {gap gap' : List Char} (hgap : ∀ c ∈ gap, c = ' ')
    (hgap' : ∀ c ∈ gap', c = ' ') (hrest : ∀ c ∈ rest.head?, Text.isBlank c = false) :
    equals.Best before (gap ++ '=' :: gap') rest g g := by
  refine best_seq (best_blanks (allBlank_of_eq_space hgap) ?_)
    (best_seq (s := ['=']) best_char (best_blanks (allBlank_of_eq_space hgap') hrest))
  intro c hc
  obtain rfl : '=' = c := by simpa using hc
  decide

theorem best_relationSign {r : Relation} (hrest : ∀ c ∈ rest.head?, c ≠ '=') :
    relationSign.Best before r.operator.toList rest g g := by
  cases rest with
  | nil =>
      cases r <;> simp [Best, relationSign, any, text, cat, char, ends, Cursor.after,
        Cursor.advance, Relation.operator]
  | cons c rest =>
      have hc : c ≠ '=' := hrest c rfl
      cases r <;> simp [Best, relationSign, any, text, cat, char, ends, Cursor.after,
        Cursor.advance, Relation.operator, hc]

theorem best_orderSign {r : Relation} (hne : r ≠ .ne) (heq : r ≠ .eq)
    (hrest : ∀ c ∈ rest.head?, c ≠ '=') : orderSign.Best before r.operator.toList rest g g := by
  cases rest with
  | nil =>
      cases r <;> simp [Best, orderSign, any, text, cat, char, ends, Cursor.after,
        Cursor.advance, Relation.operator] at hne heq ⊢
  | cons c rest =>
      have hc : c ≠ '=' := hrest c rfl
      cases r <;> simp [Best, orderSign, any, text, cat, char, ends, Cursor.after,
        Cursor.advance, Relation.operator, hc] at hne heq ⊢

section Value

variable {α : Type} [Scalar α] (n : Unsigned)

theorem takeWhile_isDigit_whole (rest : List Char) (hrest : ∀ c ∈ rest.head?, c.isDigit = false) :
    (n.whole ++ rest).takeWhile Char.isDigit = n.whole ∧
      (n.whole ++ rest).dropWhile Char.isDigit = rest := by
  rw [List.takeWhile_append_of_pos n.isDigit_whole, List.dropWhile_append_of_pos n.isDigit_whole]
  cases rest with
  | nil => simp
  | cons c rest => simp [hrest c rfl]

theorem splitPoint_chars : Literal.splitPoint n.chars = (n.whole, n.fraction, []) := by
  have hfraction : n.fraction.takeWhile Char.isDigit = n.fraction ∧
      n.fraction.dropWhile Char.isDigit = [] := by
    simpa [List.takeWhile_eq_self_iff, List.dropWhile_eq_nil_iff] using n.isDigit_fraction
  rcases n.chars_eq with ⟨hf, hchars⟩ | ⟨-, hchars⟩
  · obtain ⟨htake, hdrop⟩ := takeWhile_isDigit_whole n [] (by simp)
    rw [List.append_nil] at htake hdrop
    rw [Literal.splitPoint, hchars, htake, hdrop, hf]
  · obtain ⟨htake, hdrop⟩ := takeWhile_isDigit_whole n ('.' :: n.fraction) (by simp)
    rw [Literal.splitPoint, hchars, htake, hdrop]
    simp [hfraction]

theorem decimalOfChars?_chars (negative : Bool) : Literal.decimalOfChars? negative n.chars =
    some (.decimal negative (Literal.natOfDigits (n.whole ++ n.fraction))
      (0 - n.fraction.length)) := by
  have hne : (n.whole.isEmpty && n.fraction.isEmpty) = false := by
    rcases n.ne_nil with h | h <;> simp [h]
  simp [Literal.decimalOfChars?, splitPoint_chars, hne, Literal.exponentOfChars?]

theorem ofChars?_of_head {cs ds : List Char} {negative : Bool} {d : Char}
    (h : Literal.splitSign cs = (negative, d :: ds)) (hi : d.toLower ≠ 'i')
    (hn : d.toLower ≠ 'n') :
    Literal.ofChars? cs = Literal.decimalOfChars? negative (d :: ds) := by
  have hword (c : Char) (hc : d.toLower ≠ c) (w : List Char) :
      String.ofList ((d :: ds).map Char.toLower) ≠ String.ofList (c :: w) := by
    intro heq
    rw [String.ofList_inj, List.map_cons] at heq
    exact hc (List.cons.inj heq).1
  have hinf : String.ofList ((d :: ds).map Char.toLower) ≠ "inf" := hword 'i' hi ['n', 'f']
  have hinfinity : String.ofList ((d :: ds).map Char.toLower) ≠ "infinity" :=
    hword 'i' hi ['n', 'f', 'i', 'n', 'i', 't', 'y']
  have hnan : String.ofList ((d :: ds).map Char.toLower) ≠ "nan" := hword 'n' hn ['a', 'n']
  simp only [Literal.ofChars?, h, hinf, hinfinity, hnan, decide_false, Bool.or_self,
    Bool.false_eq_true, if_false]

theorem ofChars?_of_splitSign {cs : List Char} {negative : Bool}
    (h : Literal.splitSign cs = (negative, n.chars)) :
    Literal.ofChars? cs = Literal.decimalOfChars? negative n.chars := by
  obtain ⟨d, ds, hds, hd⟩ := n.exists_chars_cons
  have hlower : ∀ d ∈ '.' :: digitChars, d.toLower ≠ 'i' ∧ d.toLower ≠ 'n' :=
    List.all_iff_forall_prop.mp (by decide)
  obtain ⟨hi, hn⟩ := hlower d hd
  rw [hds] at h ⊢
  exact ofChars?_of_head h hi hn

theorem literalOrZero_chars : literalOrZero n.chars = (n.value : α) := by
  obtain ⟨d, ds, hds, hd⟩ := n.exists_chars_cons
  have hsign : ∀ d ∈ '.' :: digitChars, d ≠ '-' ∧ d ≠ '+' :=
    List.all_iff_forall_prop.mp (by decide)
  have hsplit : Literal.splitSign n.chars = (false, n.chars) := by
    rw [hds, Literal.splitSign] <;> simp [hsign d hd]
  rw [literalOrZero, ofChars?_of_splitSign n hsplit, decimalOfChars?_chars]
  rfl

theorem literalOrZero_minus : literalOrZero ('-' :: n.chars) = (-n.value : α) := by
  rw [literalOrZero, ofChars?_of_splitSign n rfl, decimalOfChars?_chars]
  rfl

theorem coefficientOfChars_lead (t : Term) :
    coefficientOfChars (t.mark ++ t.digits) = (t.coefficient : α) := by
  cases hn : t.factor with
  | none =>
      rw [Term.mark, Term.digits, Term.coefficient, hn]
      rcases t.sign with _ | _ | _ <;> rfl
  | some n =>
      obtain ⟨d, ds, hds, hd⟩ := n.exists_chars_cons
      have hsign : ∀ d ∈ '.' :: digitChars, d ≠ '-' ∧ d ≠ '+' :=
        List.all_iff_forall_prop.mp (by decide)
      obtain ⟨hminus, hplus⟩ := hsign d hd
      have hvalue := literalOrZero_chars (α := α) n
      have hnegative := literalOrZero_minus (α := α) n
      rw [Term.mark, Term.digits, Term.coefficient, hn]
      simp only [Option.elim_some]
      rw [hds] at hvalue hnegative ⊢
      rcases t.sign with _ | _ | _
      · rw [← hvalue]
        simp [coefficientOfChars, hplus, hminus]
      · rw [← hvalue]
        rfl
      · rw [← hnegative]
        rfl

section Solid

variable {cs above : List Char} (hslash : '/' ∉ above)
include hslash

theorem forall_ne_slash : ∀ c ∈ above, decide (c ≠ '/') = true := by
  intro c hc
  rw [decide_eq_true_iff]
  rintro rfl
  exact hslash hc

theorem parseCoefficient_of_solid (h : solid cs = above) :
    parseCoefficient (String.ofList cs) = (coefficientOfChars above : α) := by
  have hfilter : (String.ofList cs).toList.filter (fun c => !Text.isBlank c) = above := by
    rw [String.toList_ofList]
    exact h
  have hdrop : above.dropWhile (· ≠ '/') = [] :=
    List.dropWhile_eq_nil_iff.mpr (forall_ne_slash hslash)
  simp only [parseCoefficient, hfilter, hdrop]

theorem parseCoefficient_over {below : List Char} (h : solid cs = above ++ '/' :: below) :
    parseCoefficient (String.ofList cs) =
      if (literalOrZero below : α) == 0 then (0 : α)
      else coefficientOfChars above / literalOrZero below := by
  have hfilter : (String.ofList cs).toList.filter (fun c => !Text.isBlank c) =
      above ++ '/' :: below := by
    rw [String.toList_ofList]
    exact h
  have hdrop : (above ++ '/' :: below).dropWhile (· ≠ '/') = '/' :: below := by
    rw [List.dropWhile_append_of_pos (forall_ne_slash hslash)]
    rfl
  have htake : (above ++ '/' :: below).takeWhile (· ≠ '/') = above := by
    rw [List.takeWhile_append_of_pos (forall_ne_slash hslash)]
    simp
  simp only [parseCoefficient, hfilter, hdrop, htake]

end Solid

theorem parseCoefficient_of_spaces (t : Term) {g : List Char} (hg : ∀ c ∈ g, c = ' ') :
    parseCoefficient (String.ofList (t.mark ++ (g ++ t.digits))) = (t.coefficient : α) := by
  have hchars : ∀ c ∈ t.mark ++ t.digits, Text.isBlank c = false ∧ c ≠ '/' := by
    have hall : ∀ c ∈ '.' :: '+' :: '-' :: digitChars, Text.isBlank c = false ∧ c ≠ '/' :=
      List.all_iff_forall_prop.mp (by decide)
    intro c hc
    refine hall c ?_
    rcases List.mem_append.mp hc with hc | hc
    · rcases t.mark_cases with h | h | h <;> rw [h] at hc
      · cases hc
      · obtain rfl := List.mem_singleton.mp hc
        decide
      · obtain rfl := List.mem_singleton.mp hc
        decide
    · cases hn : t.factor with
      | none =>
          rw [Term.digits, hn] at hc
          cases hc
      | some n =>
          rw [Term.digits, hn] at hc
          rcases n.mem_chars hc with h | rfl
          · simp [mem_digits_of_isDigit h]
          · exact List.mem_cons_self
  have hsolid : solid (t.mark ++ (g ++ t.digits)) = t.mark ++ t.digits := by
    rw [solid_append, solid_append, solid_of_allBlank (allBlank_of_eq_space hg), List.nil_append,
      ← solid_append]
    exact solid_of_not_blank fun c hc => (hchars c hc).1
  rw [parseCoefficient_of_solid (fun hslash => (hchars _ hslash).2 rfl) hsolid]
  exact coefficientOfChars_lead t

theorem parseCoefficient_lead {t : Term} {lead gap : List Char} (h : t.Leads lead gap) :
    parseCoefficient (String.ofList lead) = (t.coefficient : α) := by
  obtain ⟨g, rfl, hg, -⟩ := h.exists_eq
  exact parseCoefficient_of_spaces t hg

end Value

end PolynomialText

end EquationTutor
