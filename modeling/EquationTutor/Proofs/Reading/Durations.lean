import EquationTutor.Proofs.Pattern.Locality
import EquationTutor.Proofs.Reading.Money
import EquationTutor.Proofs.Teaching.Substitution

namespace EquationTutor

open PolynomialText Reading Teaching

namespace Pattern

/-- One of the lower-case words, in either case. -/
def IsOneOf (ws : List String) (w : List Char) : Prop :=
  ∃ v ∈ ws, w.map foldCase = v.toList

/-- Whatever the pattern takes begins with one of the words. -/
def BeginsWith (p : Pattern) (ws : List String) : Prop :=
  ∀ before taken rest, p.Takes before taken rest → ∃ w left, taken = w ++ left ∧ IsOneOf ws w

/-- Whatever the pattern takes begins with one of the words, behind no word character. -/
def OpensWith (p : Pattern) (ws : List String) : Prop :=
  ∀ before taken rest, p.Takes before taken rest → before.getLast?.any Text.isWordChar = false ∧
    ∃ w left, taken = w ++ left ∧ IsOneOf ws w

variable {p q : Pattern} {ws vs : List String} {before taken rest a b w x y : List Char}
  {c d e : Char}

theorem beginsWith_word {v : String} (hv : IsProper v) : (word v).BeginsWith [v] :=
  fun _ taken _ h => ⟨taken, [], (List.append_nil taken).symm, v, List.mem_singleton_self v,
    (takes_word hv.lower).mp h⟩

theorem BeginsWith.seq (h : p.BeginsWith ws) (q : Pattern) : (seq p q).BeginsWith ws := by
  rintro before _ rest ⟨s, t, rfl, hs, -⟩
  obtain ⟨w, left, rfl, hw⟩ := h _ _ _ hs
  exact ⟨w, left ++ t, List.append_assoc .., hw⟩

theorem BeginsWith.alt (hp : p.BeginsWith ws) (hq : q.BeginsWith vs) :
    (alt p q).BeginsWith (ws ++ vs) := by
  rintro before taken rest (h | h)
  · obtain ⟨w, left, rfl, v, hv, hw⟩ := hp _ _ _ h
    exact ⟨w, left, rfl, v, List.mem_append_left vs hv, hw⟩
  · obtain ⟨w, left, rfl, v, hv, hw⟩ := hq _ _ _ h
    exact ⟨w, left, rfl, v, List.mem_append_right ws hv, hw⟩

theorem takes_any_map {f : String → Pattern} {names : String → List String} (hne : ws ≠ [])
    (hf : ∀ v ∈ ws, ∀ before taken rest,
      (f v).Takes before taken rest ↔ IsOneOf (names v) taken) :
    (any (ws.map f)).Takes before taken rest ↔ IsOneOf (ws.flatMap names) taken := by
  have hunion (us vs : List String) : IsOneOf (us ++ vs) taken ↔
      IsOneOf us taken ∨ IsOneOf vs taken := by
    simp only [IsOneOf, List.mem_append, or_and_right, exists_or]
  induction ws with
  | nil => exact absurd rfl hne
  | cons v ws ih =>
      obtain ⟨hv, hws⟩ := List.forall_mem_cons.mp hf
      rw [List.flatMap_cons, hunion, ← hv before taken rest]
      cases ws with
      | nil =>
          have hnone : ¬ IsOneOf ([].flatMap names) taken := by
            rintro ⟨_, hmem, -⟩
            exact List.not_mem_nil hmem
          exact (or_iff_left hnone).symm
      | cons u us => exact or_congr_right (ih (List.cons_ne_nil u us) hws)

theorem takes_anyWord (hne : ws ≠ []) (hws : ∀ v ∈ ws, IsProper v) :
    (anyWord ws).Takes before taken rest ↔ IsOneOf ws taken := by
  have h := @takes_any_map ws before taken rest word (fun v => [v]) hne fun v hv _ _ _ => by
    rw [takes_word (hws v hv).lower]
    simp [IsOneOf]
  rwa [List.flatMap_singleton'] at h

def withPlural (v : String) : List String :=
  [v, v ++ "s"]

theorem takes_plural {v : String} (hv : IsProper v) :
    (plural v).Takes before taken rest ↔ IsOneOf (withPlural v) taken := by
  simp only [plural, cat, takes_seq, takes_word hv.lower, takes_optional,
    takes_letter (by decide : foldCase 's' = 's'), IsOneOf, withPlural, List.mem_cons,
    List.not_mem_nil, or_false, exists_eq_or_imp, exists_eq_left, String.toList_append]
  constructor
  · rintro ⟨s, t, rfl, hs, ht | rfl⟩
    · rw [List.map_append, hs, ht]
      exact .inr rfl
    · exact .inl (by rwa [List.append_nil])
  · rintro (h | h)
    · exact ⟨taken, [], (List.append_nil taken).symm, h, .inr rfl⟩
    · obtain ⟨s, t, rfl, hs, ht⟩ := List.map_eq_append_iff.mp h
      exact ⟨s, t, rfl, hs, .inl ht⟩

theorem any_map_foldCase (o : Option Char) :
    (o.map foldCase).any Text.isWordChar = o.any Text.isWordChar := by
  cases o with
  | none => rfl
  | some c => exact isWordChar_foldCase c

theorem IsOneOf.isWordChar_head? (h : IsOneOf ws w) (hws : ∀ v ∈ ws, IsProper v)
    (left : List Char) :
    (w ++ left).head?.any Text.isWordChar = true := by
  obtain ⟨v, hv, hw⟩ := h
  have hhead := (hws v hv).first
  rw [← hw, List.head?_map, any_map_foldCase] at hhead
  cases w with
  | nil => cases hhead
  | cons c w => exact hhead

theorem IsOneOf.isWordChar_getLast? (h : IsOneOf ws w) (hws : ∀ v ∈ ws, IsProper v)
    (front : List Char) :
    (front ++ w).getLast?.any Text.isWordChar = true := by
  obtain ⟨v, hv, hw⟩ := h
  have hlast := (hws v hv).last
  rw [← hw, List.getLast?_map, any_map_foldCase] at hlast
  cases hw' : w.getLast? with
  | none =>
      rw [hw'] at hlast
      cases hlast
  | some c =>
      rw [List.getLast?_append, hw', Option.some_or, ← hw']
      exact hlast

theorem IsOneOf.not_blank (h : IsOneOf ws w)
    (hws : ∀ v ∈ ws, v.toList.all Char.isLower = true) :
    ∀ c ∈ w, ¬ Text.isBlank c = true := by
  obtain ⟨v, hv, hw⟩ := h
  intro c hc
  have hmem : foldCase c ∈ v.toList := by
    rw [← hw]
    exact List.mem_map_of_mem hc
  have hc : Text.isWordChar c = true := by
    rw [← isWordChar_foldCase]
    exact isWordChar_of_isLower (List.all_eq_true.mp (hws v hv) _ hmem)
  rw [Text.not_blank_of_isWordChar hc]
  exact Bool.false_ne_true

theorem opensWith_boundary (hws : ∀ v ∈ ws, IsProper v) (h : q.BeginsWith ws) :
    (seq boundary q).OpensWith ws := by
  rintro before _ rest ⟨_, taken, rfl, ⟨rfl, hboundary⟩, htakes⟩
  obtain ⟨w, left, rfl, hw⟩ := h _ _ _ htakes
  rw [List.append_assoc, hw.isWordChar_head? hws] at hboundary
  exact ⟨by simpa using hboundary, w, left, rfl, hw⟩

section OpensWith

variable (h : p.OpensWith ws)
include h

theorem OpensWith.refuses_of_wordChar (hb : b.getLast?.any Text.isWordChar = true) :
    p.Refuses b a := by
  intro taken rest _ htakes
  rw [(h b taken rest htakes).1] at hb
  cases hb

theorem OpensWith.refuses_of_apart (hx : x.map foldCase = x) (hapart : ∀ v ∈ ws, Apart v.toList x) :
    p.Refuses b (x ++ a) := by
  intro taken rest hsplit htakes
  obtain ⟨-, w, left, rfl, v, hv, hw⟩ := h b taken rest htakes
  rw [List.append_assoc] at hsplit
  have hnot := not_apart_of_append_eq hsplit.symm
  rw [hw, hx] at hnot
  exact hnot (hapart v hv)

end OpensWith

theorem skips_nil : p.Skips b [] a := fun _ _ hsplit hr =>
  absurd (List.append_eq_nil_iff.mp hsplit.symm).2 hr

theorem skips_cons (h : p.Refuses b (c :: (x ++ a))) (hx : p.Skips (b ++ [c]) x a) :
    p.Skips b (c :: x) a := by
  rw [Skips, forall_cons_eq_append_iff, List.append_nil]
  exact ⟨fun _ => h, fun s r hsplit hr => by simpa using hx s r hsplit hr⟩

theorem skips_append (hx : p.Skips b x (y ++ a)) (hy : p.Skips (b ++ x) y a) :
    p.Skips b (x ++ y) a := by
  induction x generalizing b with
  | nil => rwa [List.append_nil] at hy
  | cons c x ih =>
      rw [Skips, forall_cons_eq_append_iff, List.append_nil] at hx
      refine skips_cons (by simpa using hx.1 (List.cons_ne_nil c x)) (ih ?_ (by simpa using hy))
      exact fun s r hsplit hr => by simpa using hx.2 s r hsplit hr

theorem OpensWith.skips_run (h : p.OpensWith ws) (hx : ∀ c ∈ x, Text.isWordChar c = true)
    (hfirst : p.Refuses b (x ++ a)) : p.Skips b x a := by
  have hinside {b y : List Char} (hb : b.getLast?.any Text.isWordChar = true)
      (hy : ∀ c ∈ y, Text.isWordChar c = true) : p.Skips b y a := by
    induction y generalizing b with
    | nil => exact skips_nil
    | cons c y ih =>
        obtain ⟨hc, hy⟩ := List.forall_mem_cons.mp hy
        exact skips_cons (h.refuses_of_wordChar hb) (ih (by simpa using hc) hy)
  cases x with
  | nil => exact skips_nil
  | cons c x =>
      obtain ⟨hc, hx⟩ := List.forall_mem_cons.mp hx
      exact skips_cons hfirst (hinside (by simpa using hc) hx)

/-- A pattern that must take `d` but cannot take `e` takes nothing from a piece on that lacks `d`
and ends in `e`. -/
theorem skips_of_needs (hd : ∀ before taken rest, p.Takes before taken rest → d ∈ taken)
    (he : p.avoids e = true) (hx : d ∉ x) (hlast : x.getLast? = some e) : p.Skips b x a := by
  intro s r hsplit hr taken rest htaken htakes
  have hmem := hd _ _ _ htakes
  have hr' : e ∈ r := by
    rw [hsplit, List.getLast?_append_of_ne_nil _ hr] at hlast
    exact List.mem_of_getLast? hlast
  rcases List.append_eq_append_iff.mp htaken with ⟨t, rfl, -⟩ | ⟨t, rfl, -⟩
  · exact notMem_of_takes he htakes (List.mem_append_left t hr')
  · exact hx (by rw [hsplit]; exact List.mem_append_right s (List.mem_append_left t hmem))

end Pattern

namespace Reading

open Pattern

/-- The words before a number of units of time. -/
def spanOpeners : List String :=
  ["for", "after", "in", "over"]

def spanUnits : List String :=
  ["year", "yr", "month", "day", "hour", "minute"]

/-- The word `for`, a whole number and a unit of time, with a space between them. -/
def forSpan (n : Nat) (unit : String) : List Char :=
  'f' :: 'o' :: 'r' :: ' ' :: (Nat.toDigits 10 n ++ ' ' :: unit.toList)

variable {p : Pattern} {ws : List String} {b a before taken rest : List Char} {n : Nat}
  {unit : String}

theorem forSpan_ne_nil : forSpan n unit ≠ [] :=
  List.cons_ne_nil _ _

theorem isWordChar_f : Text.isWordChar 'f' = true :=
  isWordChar_of_isAlphanum (by decide)

theorem isProper_spanOpeners : ∀ v ∈ spanOpeners, IsProper v :=
  isProper_of_all_isLower (by decide)

theorem isProper_spanUnits : ∀ v ∈ spanUnits, IsProper v :=
  isProper_of_all_isLower (by decide)

theorem isProper_withPlural : ∀ v ∈ spanUnits.flatMap withPlural, IsProper v :=
  isProper_of_all_isLower (by decide)

theorem takes_duration : Shape.duration.Takes before taken rest ↔
    before.getLast?.any Text.isWordChar = false ∧ rest.head?.any Text.isWordChar = false ∧
      ∃ w gap ds gap' u, taken = w ++ (gap ++ (ds ++ (gap' ++ u))) ∧ IsOneOf spanOpeners w ∧
        gap ≠ [] ∧ AllBlank gap ∧ Decimal ds ∧ AllBlank gap' ∧
          IsOneOf (spanUnits.flatMap withPlural) u := by
  have hopener {before taken rest : List Char} :
      (anyWord spanOpeners).Takes before taken rest ↔ _ :=
    takes_anyWord (by decide) isProper_spanOpeners
  have hunit {before taken rest : List Char} :
      (any (spanUnits.map plural)).Takes before taken rest ↔ _ :=
    takes_any_map (by decide) fun v hv _ _ _ => takes_plural (isProper_spanUnits v hv)
  have hduration : Shape.duration = cat [boundary, anyWord spanOpeners, blanks1, group 1 decimal,
    blanks, any (spanUnits.map plural), boundary] := rfl
  simp only [hduration, cat, takes_seq, hopener, hunit, blanks1, takes_oneOrMore, takes_group,
    takes_decimal, takes_blanks]
  constructor
  · rintro ⟨_, _, rfl, ⟨rfl, hbefore⟩, w, _, rfl, hw, gap, _, rfl, ⟨hne, hgap⟩, ds, _, rfl, hds,
      gap', _, rfl, hgap', u, _, rfl, hu, rfl, hbehind⟩
    rw [List.append_assoc, hw.isWordChar_head? isProper_spanOpeners] at hbefore
    rw [hu.isWordChar_getLast? isProper_withPlural] at hbehind
    refine ⟨by simpa using hbefore, by simpa using hbehind, w, gap, ds, gap', u, ?_, hw, hne, hgap,
      hds, hgap', hu⟩
    rw [List.nil_append, List.append_nil]
  · rintro ⟨hbefore, hbehind, w, gap, ds, gap', u, rfl, hw, hne, hgap, hds, hgap', hu⟩
    refine ⟨[], _, (List.nil_append _).symm, ⟨rfl, ?_⟩, w, _, rfl, hw, gap, _, rfl, ⟨hne, hgap⟩, ds,
      _, rfl, hds, gap', _, rfl, hgap', u, [], (List.append_nil u).symm, hu, rfl, ?_⟩
    · rw [List.append_assoc, hw.isWordChar_head? isProper_spanOpeners, hbefore]
      decide
    · rw [hu.isWordChar_getLast? isProper_withPlural, hbehind]
      decide

theorem opensWith_duration : Shape.duration.OpensWith spanOpeners := by
  intro before taken rest h
  obtain ⟨hbefore, -, w, gap, ds, gap', u, rfl, hw, -⟩ := takes_duration.mp h
  exact ⟨hbefore, w, _, rfl, hw⟩

theorem stays_duration {r : List Char} (hr : r ≠ []) :
    Shape.duration.Stays b r ('f' :: 'o' :: a) := by
  rintro _ rest hsplit ⟨_, _, rfl, ⟨rfl, -⟩, w, tail, rfl, hw, htail⟩
  have hnot : 'f' ∉ tail := notMem_of_takes (by decide) htail
  obtain ⟨v, hv, hw⟩ := (takes_anyWord (by decide) isProper_spanOpeners).mp hw
  have hafter : ∀ v ∈ spanOpeners, ∀ i < v.toList.length, 0 < i → v.toList[i]? = some 'f' →
      v.toList[i + 1]? = some 't' := by
    decide
  have hget (i : Nat) : v.toList[i]? = w[i]?.map foldCase := by
    rw [← hw, List.getElem?_map]
  rw [List.nil_append, List.append_assoc] at hsplit
  refine Nat.le_of_not_lt fun hlt => ?_
  rw [List.nil_append, List.length_append] at hlt
  have hf : (w ++ (tail ++ rest))[r.length]? = some 'f' := by
    rw [← hsplit, List.getElem?_append_right (Nat.le_refl _), Nat.sub_self]
    rfl
  have ho : (w ++ (tail ++ rest))[r.length + 1]? = some 'o' := by
    rw [← hsplit, List.getElem?_append_right (Nat.le_succ _), Nat.succ_sub (Nat.le_refl _),
      Nat.sub_self]
    rfl
  rcases Nat.lt_or_ge r.length w.length with hshort | hlong
  · rw [List.getElem?_append_left hshort] at hf
    have ht := hafter v hv r.length (by rwa [← hw, List.length_map])
      (List.length_pos_iff.mpr hr) (by rw [hget, hf]; rfl)
    rw [hget, Option.map_eq_some_iff] at ht
    obtain ⟨c, hc, hct⟩ := ht
    obtain ⟨hlength, -⟩ := List.getElem?_eq_some_iff.mp hc
    rw [List.getElem?_append_left hlength, hc] at ho
    obtain rfl := Option.some.inj ho
    exact absurd hct (by decide)
  · rw [List.getElem?_append_right hlong, List.getElem?_append_left (by omega)] at hf
    exact hnot (List.mem_of_getElem? hf)

theorem digits_toDigits (n : Nat) : Digits (Nat.toDigits 10 n) :=
  ⟨Nat.toDigits_ne_nil, fun _ hc => textIsDigit_of_isDigit
    (Nat.isDigit_of_mem_toDigits (by decide) (by decide) hc)⟩

theorem isWordChar_of_mem_toDigits : ∀ c ∈ Nat.toDigits 10 n, Text.isWordChar c = true := by
  intro c hc
  have hdigit := Nat.isDigit_of_mem_toDigits (by decide) (by decide) hc
  exact isWordChar_of_isAlphanum (Bool.or_eq_true_iff.mpr (.inr hdigit))

theorem mem_digitChars_of_mem_toDigits : ∀ c ∈ Nat.toDigits 10 n, c ∈ digitChars :=
  fun _ hc => mem_digits_of_isDigit (Nat.isDigit_of_mem_toDigits (by decide) (by decide) hc)

theorem not_blank_head?_of_isWordChar {cs : List Char}
    (h : cs.head?.any Text.isWordChar = true) : ∀ c ∈ cs.head?, Text.isBlank c = false := by
  intro c hc
  rw [hc] at h
  exact Text.not_blank_of_isWordChar h

theorem Decimal.exists_digit {ds : List Char} (h : Decimal ds) :
    ∃ d left, ds = d :: left ∧ Text.isDigit d = true := by
  obtain ⟨whole, fraction, rfl, ⟨hne, hwhole⟩, -⟩ := h
  obtain ⟨d, whole, rfl⟩ := List.exists_cons_of_ne_nil hne
  exact ⟨d, whole ++ fraction, rfl, hwhole d List.mem_cons_self⟩

theorem Decimal.not_blank {ds : List Char} (h : Decimal ds) :
    ∀ c ∈ ds, Text.isBlank c = false := by
  have hdigits {ds : List Char} (hds : Digits ds) : ∀ c ∈ ds, Text.isBlank c = false :=
    fun c hc => Text.not_blank_of_isDigit (hds.2 c hc)
  obtain ⟨whole, fraction, rfl, hwhole, rfl | ⟨ds, rfl, hds⟩⟩ := h
  · rw [List.append_nil]
    exact hdigits hwhole
  · rw [List.forall_mem_append, List.forall_mem_cons]
    exact ⟨hdigits hwhole, by decide, hdigits hds⟩

theorem head?_ne_digit_of_unit {u : List Char} (hu : IsOneOf (spanUnits.flatMap withPlural) u)
    {c : Char} (hc : c ∈ digitChars) : (u ++ rest).head? ≠ some c := by
  have hfold : ∀ c ∈ digitChars, foldCase c = c := List.all_iff_forall_prop.mp (by decide)
  have hunits : ∀ v ∈ spanUnits.flatMap withPlural,
      (v.toList.head?.any fun l => !digitChars.contains l) = true := by
    decide
  obtain ⟨v, hv, hw⟩ := hu
  have hhead := hunits v hv
  rw [← hw, List.head?_map] at hhead
  cases u with
  | nil => cases hhead
  | cons e u =>
      intro he
      obtain rfl : e = c := Option.some.inj he
      rw [List.head?_cons, Option.map_some, Option.any_some, hfold e hc] at hhead
      simp [hc] at hhead

theorem decimal_eq_of_append_eq {ds gap u cs : List Char} (hds : Decimal ds) (hgap : AllBlank gap)
    (hu : IsOneOf (spanUnits.flatMap withPlural) u)
    (h : Nat.toDigits 10 n ++ ' ' :: cs = ds ++ (gap ++ (u ++ rest))) :
    ' ' :: cs = gap ++ (u ++ rest) := by
  rcases List.append_eq_append_iff.mp h with ⟨t, rfl, htail⟩ | ⟨t, hdigits, htail⟩
  · cases t with
    | nil => exact htail
    | cons c t =>
        obtain rfl : ' ' = c := (List.cons.inj htail).1
        have := hds.not_blank ' ' (by simp)
        exact absurd this (by decide)
  · cases t with
    | nil => exact htail.symm
    | cons c t =>
        have hc : c ∈ digitChars := mem_digitChars_of_mem_toDigits (n := n) c (by simp [hdigits])
        cases gap with
        | nil =>
            have hhead := congrArg List.head? htail
            exact absurd hhead (head?_ne_digit_of_unit hu hc)
        | cons e gap =>
            obtain rfl : e = c := (List.cons.inj htail).1
            have hall : ∀ c ∈ digitChars, Text.isBlank c = false :=
              List.all_iff_forall_prop.mp (by decide)
            have := hgap e List.mem_cons_self
            rw [hall e hc] at this
            cases this

/-- Where `for`, a number and a word stand, what is taken ends inside the word or behind it. -/
theorem unit_of_takes_duration {cs : List Char} (hcs : cs.head?.any Text.isWordChar = true)
    (hsplit : 'f' :: 'o' :: 'r' :: ' ' :: (Nat.toDigits 10 n ++ ' ' :: cs) = taken ++ rest)
    (h : Shape.duration.Takes b taken rest) : rest.head?.any Text.isWordChar = false ∧
      ∃ u, cs = u ++ rest ∧ IsOneOf (spanUnits.flatMap withPlural) u := by
  obtain ⟨-, hbehind, w, gap, ds, gap', u, rfl, hw, hne, hgap, hds, hgap', hu⟩ :=
    takes_duration.mp h
  refine ⟨hbehind, u, ?_, hu⟩
  have hspace : Text.isBlank ' ' = true := by decide
  have hhead : (u ++ rest).head?.any Text.isWordChar = true :=
    hu.isWordChar_head? isProper_withPlural rest
  have hgaphead (cs : List Char) : ∀ c ∈ (gap ++ cs).head?, Text.isBlank c = true := by
    obtain ⟨e, gap, rfl⟩ := List.exists_cons_of_ne_nil hne
    intro c hc
    obtain rfl : e = c := Option.some.inj hc
    exact hgap e List.mem_cons_self
  -- the parts are told apart by what is blank
  have hfor : ['f', 'o', 'r'] ++ (' ' :: (Nat.toDigits 10 n ++ ' ' :: cs)) =
      w ++ (gap ++ (ds ++ (gap' ++ (u ++ rest)))) := by
    simpa using hsplit
  obtain ⟨-, hfor⟩ := append_inj_of_first (P := fun c => Text.isBlank c = true) hfor
    (List.all_iff_forall_prop.mp (by decide))
    (hw.not_blank (by decide)) (by simp [hspace]) (hgaphead _)
  have hnumber : [' '] ++ (Nat.toDigits 10 n ++ ' ' :: cs) =
      gap ++ (ds ++ (gap' ++ (u ++ rest))) := hfor
  have hdigits : ∀ c ∈ (Nat.toDigits 10 n ++ ' ' :: cs).head?, ¬ Text.isBlank c = true := by
    obtain ⟨e, es, hes⟩ := List.exists_cons_of_ne_nil (digits_toDigits n).1
    have he := (digits_toDigits n).2 e (by simp [hes])
    simp [hes, Text.not_blank_of_isDigit he]
  have hdecimal : ∀ c ∈ (ds ++ (gap' ++ (u ++ rest))).head?, ¬ Text.isBlank c = true := by
    obtain ⟨d, left, rfl, hd⟩ := hds.exists_digit
    simp [Text.not_blank_of_isDigit hd]
  obtain ⟨-, hnumber⟩ := append_inj_of_first (P := fun c => ¬ Text.isBlank c = true) hnumber
    (by simp [hspace]) (fun c hc => not_not_intro (hgap c hc)) hdigits hdecimal
  have hunit : [' '] ++ cs = gap' ++ (u ++ rest) := decimal_eq_of_append_eq hds hgap' hu hnumber
  refine (append_inj_of_first (P := fun c => ¬ Text.isBlank c = true) hunit (by simp [hspace])
    (fun c hc => not_not_intro (hgap' c hc)) ?_ ?_).2
  · simpa using not_blank_head?_of_isWordChar hcs
  · simpa using not_blank_head?_of_isWordChar hhead

section ForSpan

variable (hunit : unit ∈ ["years", "months"])
include hunit

theorem isWordChar_of_mem_unit : ∀ c ∈ unit.toList, Text.isWordChar c = true := by
  have hall : ∀ unit ∈ ["years", "months"], unit.toList.all Char.isLower = true := by decide
  exact fun c hc => isWordChar_of_isLower (List.all_eq_true.mp (hall unit hunit) c hc)

theorem foldCase_unit : unit.toList.map foldCase = unit.toList := by
  have hall : ∀ unit ∈ ["years", "months"], unit.toList.map foldCase = unit.toList := by decide
  exact hall unit hunit

theorem isOneOf_unit : IsOneOf (spanUnits.flatMap withPlural) unit.toList := by
  refine ⟨unit, ?_, foldCase_unit hunit⟩
  have hall : ∀ unit ∈ ["years", "months"], unit ∈ spanUnits.flatMap withPlural := by decide
  exact hall unit hunit

theorem isWordChar_head?_unit (cs : List Char) :
    (unit.toList ++ cs).head?.any Text.isWordChar = true :=
  (isOneOf_unit hunit).isWordChar_head? isProper_withPlural cs

theorem isWordChar_getLast?_unit (cs : List Char) :
    (cs ++ unit.toList).getLast?.any Text.isWordChar = true :=
  (isOneOf_unit hunit).isWordChar_getLast? isProper_withPlural cs

theorem isWordChar_of_mem_forSpan {c : Char} (hc : c ∈ forSpan n unit) :
    c = ' ' ∨ Text.isWordChar c = true := by
  simp only [forSpan, List.mem_cons, List.mem_append] at hc
  rcases hc with rfl | rfl | rfl | rfl | hc | rfl | hc
  · exact .inr (isWordChar_of_isAlphanum (by decide))
  · exact .inr (isWordChar_of_isAlphanum (by decide))
  · exact .inr (isWordChar_of_isAlphanum (by decide))
  · exact .inl rfl
  · exact .inr (isWordChar_of_mem_toDigits c hc)
  · exact .inl rfl
  · exact .inr (isWordChar_of_mem_unit hunit c hc)

theorem getLast?_forSpan (b : List Char) : (b ++ forSpan n unit).getLast? = some 's' := by
  have hend : ∀ unit ∈ ["years", "months"], unit.toList.getLast? = some 's' := by decide
  have hsplit : b ++ forSpan n unit =
      b ++ ('f' :: 'o' :: 'r' :: ' ' :: (Nat.toDigits 10 n ++ [' '])) ++ unit.toList := by
    simp [forSpan]
  rw [hsplit, List.getLast?_append, hend unit hunit]
  rfl

theorem skips_of_sign {c : Char} (hc : c ∈ ['%', '$'])
    (hneeds : ∀ before taken rest, p.Takes before taken rest → c ∈ taken)
    (havoids : p.avoids 's' = true) : p.Skips b (forSpan n unit) a := by
  have hsign : ∀ c ∈ ['%', '$'], c ≠ ' ' ∧ Text.isWordChar c = false :=
    List.all_iff_forall_prop.mp (by decide +kernel)
  obtain ⟨hspace, hword⟩ := hsign c hc
  refine skips_of_needs hneeds havoids (fun hmem => ?_) (getLast?_forSpan hunit [])
  rcases isWordChar_of_mem_forSpan hunit hmem with h | h
  · exact hspace h
  · rw [hword] at h
    cases h

theorem refuses_duration_of_wordChar (ha : a.head?.any Text.isWordChar = true) :
    Shape.duration.Refuses b (forSpan n unit ++ a) := by
  have hlongest : ∀ unit ∈ ["years", "months"], ∀ v ∈ spanUnits.flatMap withPlural,
      unit.toList <+: v.toList → v.toList.length = unit.toList.length := by
    decide
  intro taken rest hsplit htakes
  rw [forSpan] at hsplit
  obtain ⟨hbehind, u, hu, v, hv, hfold⟩ :=
    unit_of_takes_duration (isWordChar_head?_unit hunit a) (by simpa using hsplit) htakes
  rcases List.append_eq_append_iff.mp hu with ⟨t, rfl, rfl⟩ | ⟨t, hut, rfl⟩
  · rw [List.map_append, foldCase_unit hunit] at hfold
    have hlength := hlongest unit hunit v hv ⟨_, hfold⟩
    rw [← hfold, List.length_append, List.length_map] at hlength
    obtain rfl : t = [] := List.length_eq_zero_iff.mp (by omega)
    rw [List.nil_append, hbehind] at ha
    cases ha
  · cases t with
    | nil =>
        rw [List.nil_append, ha] at hbehind
        cases hbehind
    | cons c t =>
        have hc := isWordChar_of_mem_unit hunit c (by simp [hut])
        rw [List.cons_append, List.head?_cons, Option.any_some, hc] at hbehind
        cases hbehind

theorem best_units {g : Groups} : (any (spanUnits.map plural)).Best b unit.toList a g g := by
  have hplural {v : String} {g : Groups} (hv : v ∈ spanUnits) :
      (plural v).Best b (v.toList ++ ['s']) a g g := by
    have hfold : ∀ v ∈ spanUnits, v.toList.map foldCase = v.toList := by decide
    exact best_seq (best_word (isProper_spanUnits v hv).lower (hfold v hv))
      (best_optional (best_letter (by decide) (by decide)))
  have hrefuses {v : String} (hv : v ∈ ["year", "yr"]) :
      (plural v).Refuses b ("months".toList ++ a) := by
    have hheads : ∀ v ∈ ["year", "yr"], v ∈ spanUnits ∧ v.toList ≠ [] ∧
        some (foldCase 'm') ≠ v.toList.head? := by
      decide
    obtain ⟨hunit, hne, hhead⟩ := hheads v hv
    refine refuses_seq (refuses_word_of_head (isProper_spanUnits v hunit).lower ?_ hne)
    rintro c ⟨⟩
    exact hhead
  simp only [List.mem_cons, List.not_mem_nil, or_false] at hunit
  rcases hunit with rfl | rfl
  · exact best_alt_left (hplural (v := "year") (by decide))
  · exact best_alt_right (hrefuses (v := "year") (by decide))
      (best_alt_right (hrefuses (v := "yr") (by decide))
        (best_alt_left (hplural (v := "month") (by decide))))

/-- The time span is matched whole, with its number as the group. -/
theorem best_duration (hb : b.getLast?.any Text.isWordChar = false)
    (ha : a.head?.any Text.isWordChar = false) :
    Shape.duration.Best b (forSpan n unit) a [] [(1, ⟨b.length + 4, Nat.toDigits 10 n⟩)] := by
  have hspace : ∀ c ∈ [' '], Text.isBlank c = true := List.all_iff_forall_prop.mp (by decide)
  have hdigits := digits_toDigits n
  have hnumberHead {s t : List Char} :
      ∀ c ∈ (Nat.toDigits 10 n ++ s ++ t).head?, Text.isBlank c = false := by
    obtain ⟨e, es, hes⟩ := List.exists_cons_of_ne_nil hdigits.1
    have he := hdigits.2 e (by simp [hes])
    simp [hes, Text.not_blank_of_isDigit he]
  have hunitHead {s t : List Char} :
      ∀ c ∈ (unit.toList ++ s ++ t).head?, Text.isBlank c = false := by
    rw [List.append_assoc]
    exact not_blank_head?_of_isWordChar (isWordChar_head?_unit hunit _)
  have hdecimal {before rest : List Char} :
      decimal.Best before (Nat.toDigits 10 n ++ []) (' ' :: rest) [] [] := by
    refine best_seq (best_digits hdigits ?_) (best_optional_of_refuses (refuses_seq ?_))
    · simpa using (by decide : Text.isDigit ' ' = false)
    · exact refuses_one (by simp)
  rw [List.append_nil] at hdecimal
  have hnumber : (group 1 decimal).Best (b ++ [] ++ ['f', 'o', 'r'] ++ [' ']) (Nat.toDigits 10 n)
      ([' '] ++ (unit.toList ++ []) ++ a) [] [(1, ⟨b.length + 4, Nat.toDigits 10 n⟩)] := by
    have hgroup := best_group (i := 1)
      (@hdecimal (b ++ [] ++ ['f', 'o', 'r'] ++ [' ']) (unit.toList ++ [] ++ a))
    simpa using hgroup
  have hstart : boundary.Best b [] (['f', 'o', 'r'] ++ ([' '] ++ (Nat.toDigits 10 n ++ ([' '] ++
      (unit.toList ++ [])))) ++ a) [] [] := by
    refine best_boundary ?_
    rw [hb]
    exact fun h => Bool.false_ne_true (h.trans isWordChar_f)
  have hend {before : List Char} {g : Groups} :
      boundary.Best (before ++ unit.toList) [] a g g := by
    refine best_boundary ?_
    rw [isWordChar_getLast?_unit hunit, ha]
    decide
  have hbest : Shape.duration.Best b ([] ++ (['f', 'o', 'r'] ++ ([' '] ++ (Nat.toDigits 10 n ++
      ([' '] ++ (unit.toList ++ [])))))) a [] [(1, ⟨b.length + 4, Nat.toDigits 10 n⟩)] :=
    best_seq hstart (best_seq
      (best_alt_left (best_word (isProper_spanOpeners "for" (by decide)).lower (by decide)))
      (best_seq (best_repeated hspace hnumberHead (Nat.le_refl 1)) (best_seq hnumber
        (best_seq (best_blanks hspace hunitHead) (best_seq (best_units hunit) hend)))))
  rw [List.append_nil] at hbest
  exact hbest

end ForSpan

/-- A pattern whose words are neither numbers nor like the words of a time span takes nothing from
a place in the time span on. -/
theorem skips_forSpan (h : p.OpensWith ws)
    (hws : ∀ v ∈ ws, (v.toList.head?.any fun l => !(' ' :: digitChars).contains l) = true)
    (hunit : ∀ v ∈ ws, Apart v.toList unit.toList)
    (hlower : unit.toList.map foldCase = unit.toList)
    (hword : ∀ c ∈ unit.toList, Text.isWordChar c = true)
    (hfirst : p.Refuses b (forSpan n unit ++ a)) : p.Skips b (forSpan n unit) a := by
  have hfold : ∀ c ∈ ' ' :: digitChars, [c].map foldCase = [c] :=
    List.all_iff_forall_prop.mp (by decide)
  have hapart {v : String} (hv : v ∈ ws) {c : Char} (hc : c ∈ ' ' :: digitChars) :
      Apart v.toList [c] := by
    have hhead := hws v hv
    cases hl : v.toList with
    | nil =>
        rw [hl] at hhead
        cases hhead
    | cons l ls =>
        rw [hl, List.head?_cons, Option.any_some] at hhead
        have hne : l ≠ c := by
          rintro rfl
          rw [List.contains_iff_mem.mpr hc] at hhead
          cases hhead
        exact ⟨fun h => hne (List.cons_prefix_cons.mp h).1,
          fun h => hne (List.cons_prefix_cons.mp h).1.symm⟩
  have hdigit {c : Char} (hc : c ∈ ' ' :: digitChars) (b a : List Char) : p.Refuses b (c :: a) :=
    h.refuses_of_apart (x := [c]) (hfold c hc) fun v hv => hapart hv hc
  refine skips_append (x := ['f', 'o', 'r']) (h.skips_run ?_ hfirst) ?_
  · have hall : ∀ c ∈ ['f', 'o', 'r'], c.isLower = true := List.all_iff_forall_prop.mp (by decide)
    exact fun c hc => isWordChar_of_isLower (hall c hc)
  · refine skips_cons (hdigit List.mem_cons_self _ _)
      (skips_append (h.skips_run isWordChar_of_mem_toDigits ?_) ?_)
    · obtain ⟨d, ds, hds⟩ := List.exists_cons_of_ne_nil (Nat.toDigits_ne_nil (b := 10) (n := n))
      rw [hds]
      refine hdigit (List.mem_cons_of_mem _ (mem_digitChars_of_mem_toDigits (n := n) d ?_)) _ _
      rw [hds]
      exact List.mem_cons_self
    · exact skips_cons (hdigit List.mem_cons_self _ _)
        (h.skips_run hword (h.refuses_of_apart hlower hunit))

end Reading

end EquationTutor
