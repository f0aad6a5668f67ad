import EquationTutor.Proofs.Reading.Durations
import EquationTutor.Proofs.RoundTrip.Numerals
import EquationTutor.Solve.Dispatch
/-!
The time of a problem of compound interest. It is the number of the first time span of the text,
whatever its unit: a span of `12 * n` months instead of `n` years changes what is read if and only
if it is the first, and the time is all that it changes.
-/

namespace EquationTutor.Reading

open Pattern PolynomialText Teaching

/-- No word character stands next to the place between the two texts, and no time span stands
before it. -/
structure IsFirstSpan (before after : List Char) : Prop where
  before_boundary : before.getLast?.any Text.isWordChar = false
  after_boundary : after.head?.any Text.isWordChar = false
  first : ¬ Shape.duration.Within before

/-- The words that say how often interest is compounded begin with one of these. -/
def frequencyOpeners : List String :=
  ["semi", "annually", "yearly", "quarterly", "monthly", "weekly", "daily", "continuous"]

variable {α : Type} [Scalar α] {p : Pattern} {b a : List Char} {n k : Nat} {unit : String}

theorem opensWith_targetMoney : Shape.targetMoney.OpensWith announcements := by
  intro before taken rest h
  obtain ⟨_, cost, rfl, hbefore, ⟨w, gap, rfl, hw, -⟩, -⟩ := takes_targetMoney.mp h
  exact ⟨hbefore, w, gap ++ cost, List.append_assoc .., hw⟩

theorem isProper_frequencyOpeners : ∀ v ∈ frequencyOpeners, IsProper v :=
  isProper_of_all_isLower (by decide)

theorem opensWith_frequency : Shape.frequency.OpensWith frequencyOpeners := by
  have hword {v : String} (hv : v ∈ frequencyOpeners) : (word v).BeginsWith [v] :=
    beginsWith_word (isProper_frequencyOpeners v hv)
  refine opensWith_boundary isProper_frequencyOpeners (BeginsWith.seq ?_ _)
  exact ((hword (v := "semi") (by decide)).seq _).alt <|
    (hword (v := "annually") (by decide)).alt <| (hword (v := "yearly") (by decide)).alt <|
    (hword (v := "quarterly") (by decide)).alt <| (hword (v := "monthly") (by decide)).alt <|
    (hword (v := "weekly") (by decide)).alt <| (hword (v := "daily") (by decide)).alt <|
    (hword (v := "continuous") (by decide)).seq _

theorem not_within_of_skips {cs : List Char} (hb : ¬ b.getLast?.any Text.isWordChar = true)
    (h : Shape.duration.Skips [] b cs) : ¬ Shape.duration.Within b := by
  rintro ⟨s, taken, rest, rfl, htakes⟩
  obtain ⟨hs, hrest, w, gap, ds, gap', u, rfl, hw, hne, hgap, hds, hgap', hu⟩ :=
    takes_duration.mp htakes
  cases rest with
  | nil =>
      refine hb ?_
      have hlast := hu.isWordChar_getLast? isProper_withPlural
        (s ++ (w ++ (gap ++ (ds ++ gap'))))
      simpa using hlast
  | cons c rest =>
      have htakes' : Shape.duration.Takes s _ (c :: rest ++ cs) :=
        takes_duration.mpr ⟨hs, hrest, w, gap, ds, gap', u, rfl, hw, hne, hgap, hds, hgap', hu⟩
      refine h s _ (List.append_assoc ..) (by simp) _ _ (List.append_assoc ..) ?_
      rwa [List.nil_append]

section Unit

variable (hunit : unit ∈ ["years", "months"])
include hunit

theorem skips_percent : Shape.percent.Skips b (forSpan n unit) a := by
  refine skips_of_sign hunit (c := '%') (by decide) ?_ (by decide)
  rintro before _ rest ⟨s, _, rfl, -, t, _, rfl, -, hsign⟩
  obtain rfl := takes_char.mp hsign
  simp

theorem skips_money : Shape.money.Skips b (forSpan n unit) a := by
  refine skips_of_sign hunit (c := '$') (by decide) ?_ (by decide)
  intro before taken rest h
  obtain ⟨gap, cost, rfl, -⟩ := takes_money.mp h
  exact List.mem_cons_self

theorem skips_of_opensWith {ws : List String} (h : p.OpensWith ws)
    (hws : ∀ v ∈ ws, (v.toList.head?.any fun l => !(' ' :: digitChars).contains l) = true)
    (hunits : ∀ v ∈ ws, ∀ unit ∈ ["years", "months"], Apart v.toList unit.toList)
    (hfirst : p.Refuses b (forSpan n unit ++ a)) : p.Skips b (forSpan n unit) a :=
  skips_forSpan h hws (fun v hv => hunits v hv unit hunit) (foldCase_unit hunit)
    (isWordChar_of_mem_unit hunit) hfirst

theorem skips_targetMoney : Shape.targetMoney.Skips b (forSpan n unit) a := by
  refine skips_of_opensWith hunit opensWith_targetMoney (by decide) (by decide) ?_
  exact opensWith_targetMoney.refuses_of_apart (x := ['f', 'o', 'r']) (by decide) (by decide)

theorem skips_frequency : Shape.frequency.Skips b (forSpan n unit) a := by
  refine skips_of_opensWith hunit opensWith_frequency (by decide) (by decide) ?_
  exact opensWith_frequency.refuses_of_apart (x := ['f', 'o', 'r']) (by decide) (by decide)

/-- A time span that is not the first in its text is passed over as well, if none is before it. -/
theorem skips_duration {cs : List Char} (hfirst : ¬ IsFirstSpan b a)
    (hbefore : Shape.duration.Skips [] b cs) : Shape.duration.Skips b (forSpan n unit) a := by
  refine skips_of_opensWith hunit opensWith_duration (by decide) (by decide) ?_
  by_cases hb : b.getLast?.any Text.isWordChar = true
  · exact opensWith_duration.refuses_of_wordChar hb
  by_cases ha : a.head?.any Text.isWordChar = true
  · exact refuses_duration_of_wordChar hunit ha
  exact absurd ⟨by simpa using hb, by simpa using ha, not_within_of_skips hb hbefore⟩ hfirst

end Unit

theorem IsFirstSpan.refuses {s r : List Char} (h : IsFirstSpan b a) (hsplit : b = s ++ r)
    (hr : r ≠ []) : Shape.duration.Refuses s (r ++ (forSpan n unit ++ a)) := by
  intro taken rest htaken htakes
  have hshort := stays_duration hr taken rest htaken htakes
  obtain ⟨hs, hrest, hparts⟩ := takes_duration.mp htakes
  have hnot (h : (forSpan n unit ++ a).head?.any Text.isWordChar = false) : False :=
    Bool.false_ne_true (h.symm.trans isWordChar_f)
  rcases List.append_eq_append_iff.mp htaken with ⟨t, rfl, hfor⟩ | ⟨t, rfl, rfl⟩
  · obtain rfl : t = [] := by
      rw [List.length_append] at hshort
      exact List.length_eq_zero_iff.mp (by omega)
    rw [List.nil_append] at hfor
    rw [← hfor] at hrest
    exact (hnot hrest).elim
  · cases t with
    | nil => exact (hnot hrest).elim
    | cons c t =>
        refine h.first ⟨s, taken, c :: t, by rw [hsplit, List.append_assoc], ?_⟩
        exact takes_duration.mpr ⟨hs, hrest, hparts⟩

theorem parseCoefficient_toDigits (n : Nat) :
    parseCoefficient (String.ofList (Nat.toDigits 10 n)) = (Scalar.ofDecimal n 0 : α) := by
  have hvalue := parseCoefficient_of_spaces (α := α)
    ⟨none, some (numeral n), .constant, fun _ => rfl⟩ (g := [])
    (fun _ hc => absurd hc List.not_mem_nil)
  refine hvalue.trans ?_
  change Scalar.ofDecimal (Literal.natOfDigits (Nat.toDigits 10 n ++ [])) (0 - 0) = _
  rw [List.append_nil, natOfDigits_toDigits]
  rfl

/-- The number of the first time span is the time. -/
theorem time_of_isFirstSpan {words : String} (hunit : unit ∈ ["years", "months"])
    (hwords : words.toList = b ++ (forSpan n unit ++ a)) (h : IsFirstSpan b a) :
    time words = some (Scalar.ofDecimal n 0 : α) := by
  have hfind := find?_eq_some hwords (best_duration hunit h.before_boundary h.after_boundary)
    fun s r hsplit hr => h.refuses hsplit hr
  rw [time, hfind, Option.map_some]
  exact congrArg some (parseCoefficient_toDigits n)

section Exchange

theorem getLast?_exchange :
    (b ++ forSpan n "years").getLast? = (b ++ forSpan k "months").getLast? := by
  rw [getLast?_forSpan (by decide), getLast?_forSpan (by decide)]

variable {words words' : String} (hwords : words.toList = b ++ (forSpan n "years" ++ a))
  (hwords' : words'.toList = b ++ (forSpan k "months" ++ a))
include hwords hwords'

/-- What is found in the text does not change with a time span that is passed over. -/
theorem rel_find?_exchange (hstays : ∀ s r cs, r ≠ [] → p.Stays s r ('f' :: 'o' :: cs))
    (hskips : ∀ n, ∀ unit ∈ ["years", "months"], ∀ cs, p.Skips [] b cs →
      p.Skips b (forSpan n unit) a) :
    Option.Rel (Match.Exchanged b (forSpan n "years") (forSpan k "months")) (p.find? words)
      (p.find? words') := by
  have hbefore : ∀ s r, b = s ++ r → r ≠ [] → p.Stays s r (forSpan n "years" ++ a) ∧
      p.Stays s r (forSpan k "months" ++ a) :=
    fun s r _ hr => ⟨hstays s r _ hr, hstays s r _ hr⟩
  have h := @rel_search_exchange b a (forSpan n "years") (forSpan k "months") p rfl
    getLast?_exchange hbefore fun hnone =>
    ⟨hskips n "years" (by decide) _ hnone, hskips k "months" (by decide) _ hnone⟩
  rw [← hwords, ← hwords'] at h
  exact h

theorem rate_exchange : (rate words : Option α) = rate words' := by
  refine map_eq_of_rel (rel_find?_exchange hwords hwords'
    (fun s r cs _ => stays_of_avoids (by decide))
    fun n unit hunit _ _ => skips_percent hunit) fun m m' h => ?_
  rw [coefficientAt, coefficientAt, h.group_eq]

theorem time_exchange (hfirst : ¬ IsFirstSpan b a) : (time words : Option α) = time words' := by
  refine map_eq_of_rel (rel_find?_exchange hwords hwords' (fun s r cs hr => stays_duration hr)
    fun n unit hunit _ hnone => skips_duration hunit hfirst hnone) fun m m' h => ?_
  rw [coefficientAt, coefficientAt, h.group_eq]

theorem frequency_exchange : (Shape.frequency.find? words).map (fun m => m.group 1) =
    (Shape.frequency.find? words').map fun m => m.group 1 :=
  map_eq_of_rel (rel_find?_exchange hwords hwords' (fun s r cs _ => stays_of_avoids (by decide))
    fun n unit hunit _ _ => skips_frequency hunit) fun m m' h => h.group_eq 1

theorem rel_targetAmount : Option.Rel (Capture.Exchanged b (forSpan n "years") (forSpan k "months"))
    (targetAmount words) (targetAmount words') := by
  rw [targetAmount, targetAmount]
  exact rel_bind (rel_find?_exchange hwords hwords' (fun s r cs _ => stays_of_avoids (by decide))
    fun n unit hunit _ _ => skips_targetMoney hunit) fun m m' h => h.capture? 1

theorem rel_principalAmount :
    Option.Rel (Capture.Exchanged b (forSpan n "years") (forSpan k "months"))
      (principalAmount words) (principalAmount words') := by
  have htarget := rel_targetAmount hwords hwords'
  have hbefore : ∀ s r, b = s ++ r → r ≠ [] → Shape.money.Stays s r (forSpan n "years" ++ a) ∧
      Shape.money.Stays s r (forSpan k "months" ++ a) :=
    fun s r _ hr => ⟨stays_of_avoids (by decide), stays_of_avoids (by decide)⟩
  rw [principalAmount, principalAmount, find?_filterMap_eq, find?_filterMap_eq]
  have hcapture : ∀ m m', Match.Exchanged b (forSpan n "years") (forSpan k "months") m m' →
      Option.Rel (Capture.Exchanged b (forSpan n "years") (forSpan k "months"))
        ((m.capture? 1).filter fun c =>
          decide (some c.offset ≠ (targetAmount words).map Capture.offset))
        ((m'.capture? 1).filter fun c =>
          decide (some c.offset ≠ (targetAmount words').map Capture.offset)) := by
    refine fun m m' h => rel_filter (h.capture? 1) fun c c' hc => ?_
    rw [decide_eq_decide]
    exact hc.offset_ne_iff htarget forSpan_ne_nil forSpan_ne_nil
  have hyears : Shape.money.Skips b (forSpan n "years") a := skips_money (by decide)
  have hmonths : Shape.money.Skips b (forSpan k "months") a := skips_money (by decide)
  have hhead : (forSpan n "years" ++ a).head?.any Text.isWordChar =
      (forSpan k "months" ++ a).head?.any Text.isWordChar := rfl
  have h := rel_findSome?_exchange hhead getLast?_exchange hbefore separate_money hyears hmonths
    hcapture
  rw [← hwords, ← hwords'] at h
  exact h

end Exchange

section Records

variable {text text' : String} {scenario scenario' : Option String}

theorem get?_time_compoundInterest : (compoundInterest text scenario : Params α).get? "time" =
    (time (wordProblem text scenario)).map .number := by
  have hnone (v w : Option α) : (insertNumber? (insertNumber? .empty "final_amount" v) "principal"
      w).get? "time" = none := by
    rw [get?_insertNumber?, if_neg (by decide), get?_insertNumber?, if_neg (by decide),
      Params.get?_empty]
  unfold compoundInterest
  dsimp only
  split
  · rw [get?_insertFrequency _ (by decide), insertRateAndTime, get?_insertNumber?, if_pos rfl,
      get?_insertNumber?, if_neg (by decide), hnone, Option.or_none]
  · rw [insertRateAndTime, get?_insertNumber?, if_pos rfl, get?_insertNumber?,
      if_neg (by decide), hnone, Option.or_none]

theorem number?_time : (extract .compoundInterest text scenario : Params α).number? "time" =
    time (wordProblem text scenario) := by
  have htime : (extract .compoundInterest text scenario : Params α).get? "time" = _ :=
    get?_time_compoundInterest
  rw [Params.number?, htime, Option.map_map]
  exact congrFun Option.map_id _

/-- A time in months instead of years is the same, with all that is computed from it, just where
another time span is read or the two numbers are one number. -/
theorem time_in_months_iff (hwords : (wordProblem text scenario).toList =
      b ++ (forSpan n "years" ++ a))
    (hwords' : (wordProblem text' scenario').toList = b ++ (forSpan (12 * n) "months" ++ a)) :
    let p : Params α := extract .compoundInterest text scenario
    let q : Params α := extract .compoundInterest text' scenario'
    (p.number? "time" = q.number? "time" ∧
        solveKind .compoundInterest p = solveKind .compoundInterest q) ↔
      ¬ IsFirstSpan b a ∨ (Scalar.ofDecimal n 0 : α) = Scalar.ofDecimal (12 * n) 0 := by
  intro p q
  have hrecord (htime : (time (wordProblem text scenario) : Option α) =
      time (wordProblem text' scenario')) : p = q := by
    have hamount {c c' : Option Capture} (h : Option.Rel (Capture.Exchanged b (forSpan n "years")
        (forSpan (12 * n) "months")) c c') : (c.map fun c => parseAmount c.text : Option α) =
          c'.map fun c => parseAmount c.text :=
      map_eq_of_rel h fun _ _ hc => congrArg (fun cs => parseAmount (String.ofList cs)) hc.1
    have hfrequency := frequency_exchange hwords hwords'
    change compoundInterest text scenario = compoundInterest text' scenario'
    simp only [compoundInterest, insertRateAndTime, htime, rate_exchange hwords hwords',
      hamount (rel_targetAmount hwords hwords'), hamount (rel_principalAmount hwords hwords')]
    cases hm : Shape.frequency.find? (wordProblem text scenario) with
    | none =>
        rw [hm, Option.map_none, eq_comm, Option.map_eq_none_iff] at hfrequency
        rw [hfrequency]
    | some m =>
        rw [hm, Option.map_some, eq_comm, Option.map_eq_some_iff] at hfrequency
        obtain ⟨m', hm', hgroup⟩ := hfrequency
        simp only [hm', hgroup]
  constructor
  · rintro ⟨htime, -⟩
    rw [number?_time, number?_time] at htime
    refine or_iff_not_imp_left.mpr fun hfirst => ?_
    rw [not_not] at hfirst
    rw [time_of_isFirstSpan (by decide) hwords hfirst,
      time_of_isFirstSpan (by decide) hwords' hfirst] at htime
    exact Option.some.inj htime
  · intro h
    have htime : (time (wordProblem text scenario) : Option α) =
        time (wordProblem text' scenario') := by
      by_cases hfirst : IsFirstSpan b a
      · have heq := h.resolve_left (not_not_intro hfirst)
        rw [time_of_isFirstSpan (by decide) hwords hfirst,
          time_of_isFirstSpan (by decide) hwords' hfirst, heq]
      · exact time_exchange hwords hwords' hfirst
    rw [hrecord htime]
    exact ⟨rfl, rfl⟩

/-- Of two time spans the first is read, and the unit of the second does not matter. -/
theorem time_in_months_of_two_spans :
    let p : Params Float := extract .compoundInterest ""
      (some "$100 at 5% compounded monthly, after 3 years and then for 2 years")
    let q : Params Float := extract .compoundInterest ""
      (some "$100 at 5% compounded monthly, after 3 years and then for 24 months")
    p.number? "time" = q.number? "time" ∧
      solveKind .compoundInterest p = solveKind .compoundInterest q := by
  let before := "$100 at 5% compounded monthly, after 3 years and then "
  have hwords : (wordProblem "" (some (before ++ "for 2 years"))).toList =
      before.toList ++ (forSpan 2 "years" ++ []) ∧
        (wordProblem "" (some (before ++ "for 24 months"))).toList =
          before.toList ++ (forSpan 24 "months" ++ []) ∧
            Shape.duration.occursIn before = true := by
    decide +kernel
  exact (time_in_months_iff (n := 2) hwords.1 hwords.2.1).mpr
    (.inl fun h => h.first (occursIn_iff.mp hwords.2.2))

/-- With one time span of 24 months the time is 24, and not 2 as for a time span of 2 years. -/
theorem not_time_in_months :
    let p : Params Float := extract .compoundInterest ""
      (some "$1000 at 5% compounded annually for 2 years")
    let q : Params Float := extract .compoundInterest ""
      (some "$1000 at 5% compounded annually for 24 months")
    ¬ (p.number? "time" = q.number? "time" ∧
      solveKind .compoundInterest p = solveKind .compoundInterest q) := by
  rintro p q ⟨htime, -⟩
  exact absurd htime (by decide +kernel)

end Records

end EquationTutor.Reading
