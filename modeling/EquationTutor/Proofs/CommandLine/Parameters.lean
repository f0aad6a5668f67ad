import EquationTutor.CommandLine.Arguments
import EquationTutor.Numeric.Double
import EquationTutor.Proofs.Pattern.Words
import EquationTutor.Proofs.Polynomial.Captures
import EquationTutor.Proofs.Problem.Records

namespace EquationTutor

open PolynomialText Reading

namespace Literal

variable {cs : List Char} {c : Char} {l : Literal}

theorem mem_splitSign (hc : c ∈ cs) : c ∈ ['+', '-'] ∨ c ∈ (splitSign cs).2 := by
  rcases cs with _ | ⟨d, ds⟩
  · cases hc
  · rcases List.mem_cons.mp hc with rfl | hc
    · by_cases hminus : c = '-'
      · simp [hminus]
      · by_cases hplus : c = '+'
        · simp [hplus]
        · simp [splitSign, hminus, hplus]
    · unfold splitSign
      split <;> simp_all

theorem mem_of_exponentOfChars? {e : Int} (h : exponentOfChars? cs = some e) (hc : c ∈ cs) :
    c.isDigit = true ∨ c ∈ ['e', 'E', '+', '-'] := by
  cases cs with
  | nil => cases hc
  | cons mark cs =>
      simp only [exponentOfChars?, Option.ite_none_right_eq_some, Bool.and_eq_true,
        Bool.or_eq_true, decide_eq_true_eq, List.all_eq_true] at h
      obtain ⟨⟨⟨hmark, -⟩, hdigits⟩, -⟩ := h
      rcases List.mem_cons.mp hc with rfl | hc
      · rcases hmark with rfl | rfl <;> simp
      · rcases mem_splitSign hc with hsign | hdigit
        · rcases List.mem_pair.mp hsign with rfl | rfl <;> simp
        · exact .inl (hdigits c hdigit)

theorem mem_splitPoint (hc : c ∈ cs) :
    c = '.' ∨ c.isDigit = true ∨ c ∈ (splitPoint cs).2.2 := by
  rw [← List.takeWhile_append_dropWhile (p := Char.isDigit) (l := cs), List.mem_append] at hc
  rcases hc with hc | hc
  · exact .inr (.inl (List.mem_takeWhile_imp hc))
  · unfold splitPoint
    split
    · rename_i rest hrest
      rw [hrest, List.mem_cons] at hc
      rcases hc with rfl | hc
      · exact .inl rfl
      · rw [← List.takeWhile_append_dropWhile (p := Char.isDigit) (l := rest),
          List.mem_append] at hc
        exact .inr (hc.imp_left List.mem_takeWhile_imp)
    · exact .inr (.inr hc)

theorem isWordChar_of_isDigit (h : c.isDigit = true) : Text.isWordChar c = true :=
  Pattern.isWordChar_of_isAlphanum (Bool.or_eq_true_iff.mpr (.inr h))

theorem isWordChar_of_toLower (h : Text.isWordChar c.toLower = true) :
    Text.isWordChar c = true := by
  rw [← Pattern.isWordChar_foldCase, Pattern.foldCase]
  split
  · exact Pattern.isWordChar_of_isAlphanum (by decide)
  · split
    · exact Pattern.isWordChar_of_isAlphanum (by decide)
    · exact h

theorem mem_of_ofChars? (h : ofChars? cs = some l) (hc : c ∈ cs) :
    Text.isWordChar c = true ∨ c ∈ ['+', '-', '.'] := by
  rcases mem_splitSign hc with hsign | hbody
  · exact .inr (List.mem_append_left ['.'] hsign)
  have hword {w : String} (hw : w.toList.all Char.isAlphanum = true)
      (h : String.ofList ((splitSign cs).2.map Char.toLower) = w) :
      Text.isWordChar c = true := by
    refine isWordChar_of_toLower (Pattern.isWordChar_of_isAlphanum (List.all_eq_true.mp hw _ ?_))
    rw [← h, String.toList_ofList]
    exact List.mem_map_of_mem hbody
  simp only [ofChars?] at h
  split at h
  · rename_i hinfinity
    rw [Bool.or_eq_true, decide_eq_true_eq, decide_eq_true_eq] at hinfinity
    rcases hinfinity with hinf | hinfinity
    · exact .inl (hword (by decide) hinf)
    · exact .inl (hword (by decide) hinfinity)
  · split at h
    · rename_i hnan
      exact .inl (hword (by decide) hnan)
    · simp only [decimalOfChars?] at h
      split at h
      · cases h
      · obtain ⟨e, he, -⟩ := Option.map_eq_some_iff.mp h
        rcases mem_splitPoint hbody with rfl | hdigit | hrest
        · exact .inr (by decide)
        · exact .inl (isWordChar_of_isDigit hdigit)
        · rcases mem_of_exponentOfChars? he hrest with hdigit | hmark
          · exact .inl (isWordChar_of_isDigit hdigit)
          · simp only [List.mem_cons, List.not_mem_nil, or_false] at hmark
            rcases hmark with rfl | rfl | rfl | rfl
            · exact .inl (Pattern.isWordChar_of_isAlphanum (by decide))
            · exact .inl (Pattern.isWordChar_of_isAlphanum (by decide))
            · exact .inr (by decide)
            · exact .inr (by decide)

theorem solid_of_ofChars? (h : ofChars? cs = some l) : solid cs = cs ∧ '/' ∉ cs := by
  have hsymbols : ∀ c ∈ ['+', '-', '.'], Text.isBlank c = false ∧ c ≠ '/' :=
    List.all_iff_forall_prop.mp (by decide)
  refine ⟨solid_of_not_blank fun c hc => ?_, fun hslash => ?_⟩
  · rcases mem_of_ofChars? h hc with hword | hsymbol
    · exact Text.not_blank_of_isWordChar hword
    · exact (hsymbols c hsymbol).1
  · rcases mem_of_ofChars? h hslash with hword | hsymbol
    · revert hword
      decide +kernel
    · exact (hsymbols '/' hsymbol).2 rfl

theorem decimalOfChars?_sign {negative : Bool} (hc : c ∈ ['+', '-']) :
    decimalOfChars? negative (c :: cs) = none := by
  rcases List.mem_pair.mp hc with rfl | rfl <;> rfl

theorem ofChars?_plus (h : ofChars? ('+' :: cs) = some l) : ofChars? cs = some l := by
  have hbody : splitSign ('+' :: cs) = (false, cs) := rfl
  have hsplit : splitSign cs = (false, cs) := by
    rcases cs with _ | ⟨c, cs⟩
    · rfl
    · have hsign : c ∉ ['+', '-'] := by
        intro hc
        have hletters : ∀ d ∈ ['+', '-'], d.toLower ≠ 'i' ∧ d.toLower ≠ 'n' :=
          List.all_iff_forall_prop.mp (by decide)
        obtain ⟨hi, hn⟩ := hletters c hc
        rw [ofChars?_of_head hbody hi hn, decimalOfChars?_sign hc] at h
        cases h
      simp_all [splitSign]
  rwa [ofChars?, hbody, ← hsplit] at h

variable {α : Type} [Scalar α]

/-- A literal is a coefficient with the same number. -/
theorem coefficientOfChars_eq_value (h : ofChars? cs = some l) :
    coefficientOfChars cs = (l.value : α) := by
  fun_cases coefficientOfChars (α := α) cs with
  | case1 => cases h
  | case2 => cases h
  | case3 => cases h
  | case4 cs _ => rw [literalOrZero, ofChars?_plus h]
  | case5 cs _ _ _ _ => rw [literalOrZero, h]

theorem parseCoefficient_eq_value {s : String} (h : ofString? s = some l) :
    parseCoefficient s = (l.value : α) := by
  obtain ⟨hsolid, hslash⟩ := solid_of_ofChars? h
  have hread := parseCoefficient_of_solid (α := α) hslash hsolid
  rwa [String.ofList_toList, coefficientOfChars_eq_value h] at hread

end Literal

section Blanks

theorem filter_dropWhile_not {β : Type} (p : β → Bool) (xs : List β) :
    (xs.dropWhile p).filter (!p ·) = xs.filter (!p ·) := by
  induction xs with
  | nil => rfl
  | cons x xs ih => by_cases hx : p x = true <;> simp [hx, ih]

theorem solid_trim (s : String) : solid (Text.trim s).toList = solid s.toList := by
  rw [Text.trim, String.toList_ofList, solid, List.filter_reverse, filter_dropWhile_not,
    List.filter_reverse, List.reverse_reverse, filter_dropWhile_not, solid]

variable {α : Type} [Scalar α]

theorem parseCoefficient_trim (s : String) :
    parseCoefficient (Text.trim s) = (parseCoefficient s : α) := by
  have hsolid : (Text.trim s).toList.filter (fun c => !Text.isBlank c) =
      s.toList.filter (fun c => !Text.isBlank c) := solid_trim s
  unfold parseCoefficient
  rw [hsolid]

theorem trim_eq_empty_iff (s : String) : Text.trim s = "" ↔ AllBlank s.toList := by
  constructor
  · intro h
    have hsolid : solid s.toList = [] := by
      rw [← solid_trim, h]
      rfl
    intro c hc
    simpa using List.filter_eq_nil_iff.mp hsolid c hc
  · intro h
    rw [Text.trim, List.dropWhile_eq_nil_iff.mpr h]
    rfl

end Blanks

namespace Params

variable {α : Type}

theorem get?_foldl_insert (p : Params α) {key : String} {entries : List (String × ParamValue α)}
    (h : ∀ e ∈ entries, e.1 ≠ key) :
    (entries.foldl (fun r e => r.insert e.1 e.2) p).get? key = p.get? key := by
  induction entries generalizing p with
  | nil => rfl
  | cons e entries ih =>
      obtain ⟨he, hentries⟩ := List.forall_mem_cons.mp h
      rw [List.foldl_cons, ih _ hentries, get?_insert, if_neg he.symm]

theorem get?_ofList_append (before : List (String × ParamValue α)) (key : String)
    (v : ParamValue α) {after : List (String × ParamValue α)} (h : ∀ e ∈ after, e.1 ≠ key) :
    (ofList (before ++ (key, v) :: after)).get? key = some v := by
  rw [ofList, merge, List.foldl_append, List.foldl_cons, get?_foldl_insert _ h, get?_insert,
    if_pos rfl]

end Params

namespace CommandLine

theorem splitEquals_append {key : List Char} (h : '=' ∉ key) (value : List Char) :
    splitEquals (key ++ '=' :: value) = (String.ofList key, some (String.ofList value)) := by
  have hkey : ∀ c ∈ key, decide (c ≠ '=') = true := by
    intro c hc
    rw [decide_eq_true_iff]
    rintro rfl
    exact h hc
  rw [splitEquals, List.takeWhile_append_of_pos hkey, List.dropWhile_append_of_pos hkey]
  simp

theorem splitEquals_of_notMem {cs : List Char} (h : '=' ∉ cs) :
    splitEquals cs = (String.ofList cs, none) := by
  have hcs : ∀ c ∈ cs, decide (c ≠ '=') = true := by
    intro c hc
    rw [decide_eq_true_iff]
    rintro rfl
    exact h hc
  rw [splitEquals, List.takeWhile_eq_self_iff.mpr hcs, List.dropWhile_eq_nil_iff.mpr hcs]

variable {α : Type} [Scalar α] {key : String}

/-- Kept as a number or as text, a value is read as a coefficient. -/
theorem toNumber_paramValue_trim (value : String) :
    (paramValue (Text.trim value)).toNumber = (parseCoefficient value : α) := by
  rw [← parseCoefficient_trim]
  unfold paramValue
  split
  · rename_i l hl
    exact (Literal.parseCoefficient_eq_value hl).symm
  · rfl

theorem param?_append (hkey : '=' ∉ key.toList) (value : String) :
    (param? (key ++ "=" ++ value) : Option (String × ParamValue α)) =
      if Text.trim key = "" then none else some (Text.trim key, paramValue (Text.trim value)) := by
  have hraw : (key ++ "=" ++ value).toList = key.toList ++ '=' :: value.toList := by simp
  rw [param?, hraw, splitEquals_append hkey, String.ofList_toList, String.ofList_toList]
  simp only [String.isEmpty_iff]

theorem param?_of_notMem {raw : String} (h : '=' ∉ raw.toList) :
    (param? raw : Option (String × ParamValue α)) = none := by
  rw [param?, splitEquals_of_notMem h]

/-- What is given as `key=value` with a key that is not blank is kept under the trimmed key, until
the key is given again, and its number is that of the value as a coefficient. Nothing else is a
parameter. -/
theorem param?_reads_coefficient :
    (∀ key value : String, '=' ∉ key.toList → ¬ AllBlank key.toList →
      ∃ v : ParamValue α, param? (key ++ "=" ++ value) = some (Text.trim key, v) ∧
        ∀ before after : List (String × ParamValue α), (∀ e ∈ after, e.1 ≠ Text.trim key) →
          let p := Params.ofList (before ++ (Text.trim key, v) :: after)
          p.get? (Text.trim key) = some v ∧
          p.number? (Text.trim key) = some (parseCoefficient value)) ∧
    (∀ raw : String, (param? raw : Option (String × ParamValue α)) = none ↔
      '=' ∉ raw.toList ∨
        ∃ key value, raw = key ++ "=" ++ value ∧ '=' ∉ key.toList ∧ AllBlank key.toList) := by
  refine ⟨fun key value hkey hblank => ?_, fun raw => ⟨fun hnone => ?_, ?_⟩⟩
  · refine ⟨paramValue (Text.trim value), ?_, fun before after hafter => ?_⟩
    · rw [param?_append hkey, if_neg (mt (trim_eq_empty_iff key).mp hblank)]
    · have hget := Params.get?_ofList_append before (Text.trim key)
        (paramValue (Text.trim value)) hafter
      refine ⟨hget, ?_⟩
      rw [Params.number?, hget, Option.map_some, toNumber_paramValue_trim]
  · by_cases hmem : '=' ∈ raw.toList
    · obtain ⟨key, value, hraw, hkey⟩ := List.eq_append_cons_of_mem hmem
      obtain rfl : raw = String.ofList key ++ "=" ++ String.ofList value := by
        rw [← String.toList_inj, hraw]
        simp
      have hkey : '=' ∉ (String.ofList key).toList := by rwa [String.toList_ofList]
      refine .inr ⟨_, _, rfl, hkey, ?_⟩
      rw [param?_append hkey, ite_eq_left_iff] at hnone
      rw [← trim_eq_empty_iff]
      by_contra hne
      cases hnone hne
    · exact .inl hmem
  · rintro (hmem | ⟨key, value, rfl, hkey, hblank⟩)
    · exact param?_of_notMem hmem
    · rw [param?_append hkey, if_pos ((trim_eq_empty_iff key).mpr hblank)]

/-- A fraction with blanks in it is kept as text, and overrides an earlier value. -/
theorem param?_spaced_fraction :
    '=' ∉ " rate ".toList ∧ ¬ AllBlank " rate ".toList ∧
    ∃ v : ParamValue Float, param? " rate = - 1/ 4" = some ("rate", v) ∧
      let after : List (String × ParamValue Float) := [("time", .number 3)]
      (∀ e ∈ after, e.1 ≠ "rate") ∧
      (Params.ofList ([("rate", .number 2)] ++ ("rate", v) :: after)).number? "rate" =
        some (-0.25) := by
  have hkey : '=' ∉ " rate ".toList := by decide
  have hblank : ¬ AllBlank " rate ".toList := fun h => absurd (h 'r' (by decide)) (by decide)
  have htrim : Text.trim " rate " = "rate" := by decide
  obtain ⟨v, hv, hlast⟩ := (param?_reads_coefficient (α := Float)).1 " rate " " - 1/ 4" hkey hblank
  rw [htrim] at hv hlast
  have hafter : ∀ e ∈ [("time", (.number 3 : ParamValue Float))], e.1 ≠ "rate" := by simp
  obtain ⟨-, hnumber⟩ := hlast [("rate", .number 2)] _ hafter
  have hvalue : parseCoefficient " - 1/ 4" = (-0.25 : Float) := by decide +kernel
  rw [hvalue] at hnumber
  exact ⟨hkey, hblank, v, hv, hafter, hnumber⟩

end CommandLine

end EquationTutor
