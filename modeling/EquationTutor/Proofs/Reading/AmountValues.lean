import EquationTutor.Proofs.Canonical.Values
import EquationTutor.Proofs.Polynomial.Rounding
import EquationTutor.Proofs.Reading.Amounts

namespace EquationTutor

/-- The value of a digit. The digits of a script stand in runs of ten, from zero on. -/
def Text.digitValue (c : Char) : Nat :=
  match digitRanges.find? fun r => r.1 ≤ c.toNat && c.toNat ≤ r.2 with
  | some r => (c.toNat - r.1) % 10
  | none => 0

theorem Text.digitValue_of_isDigit {c : Char} (h : c.isDigit = true) :
    digitValue c = c.toNat - '0'.toNat := by
  obtain ⟨hlower, hupper⟩ : 48 ≤ c.toNat ∧ c.toNat ≤ 57 := by
    simpa [Char.isDigit, UInt32.le_iff_toNat_le] using h
  have hfirst : (digitRanges.find? fun r => r.1 ≤ c.toNat && c.toNat ≤ r.2) = some (48, 57) := by
    rw [digitRanges, List.find?_cons_of_pos (by simp [hlower, hupper])]
  have hzero : '0'.toNat = 48 := rfl
  rw [digitValue, hfirst, hzero]
  exact Nat.mod_eq_of_lt (by omega)

namespace Reading

open PolynomialText Double

/-- The number that is written in digits of any script. -/
def numberOfDigits (ds : List Char) : Nat :=
  ds.foldl (fun n c => 10 * n + Text.digitValue c) 0

/-- The number a numeral is written for. -/
def numeralNumber (cs : List Char) : ℚ :=
  numberOfDigits (cs.filter (· ≠ '.')) / 10 ^ ((cs.dropWhile (· ≠ '.')).drop 1).length

/-- The number an amount is written for. Commas do not count. -/
def amountNumber (a : List Char) : ℚ :=
  numeralNumber (a.filter (· ≠ ','))

variable {a cs ds : List Char}

theorem numberOfDigits_of_isDigit (h : ∀ c ∈ ds, c.isDigit = true) :
    numberOfDigits ds = Literal.natOfDigits ds := by
  refine List.foldl_ext _ _ 0 fun n c hc => ?_
  rw [Text.digitValue_of_isDigit (h c hc)]

theorem Amount.numeral (h : Amount a) : Numeral (a.filter (· ≠ ',')) := by
  obtain ⟨d, whole, fraction, rfl, hd, hwhole, hfraction⟩ := h
  have hcomma {c : Char} (hc : Text.isDigit c = true) : c ≠ ',' := by
    rintro rfl
    exact absurd hc (by decide)
  have hkeep : fraction.filter (· ≠ ',') = fraction := by
    rw [List.filter_eq_self]
    intro c hc
    rw [decide_eq_true_iff]
    rcases hfraction with rfl | ⟨ds, rfl, hds⟩
    · cases hc
    · rcases List.mem_cons.mp hc with rfl | hc
      · decide
      · exact hcomma (hds.2 c hc)
  refine .inl ⟨d :: whole.filter (· ≠ ','), fraction, ?_, ⟨List.cons_ne_nil _ _, ?_⟩, hfraction⟩
  · rw [List.filter_cons_of_pos (by simpa using hcomma hd), List.filter_append, hkeep]
    rfl
  · intro c hc
    rcases List.mem_cons.mp hc with rfl | hc
    · exact hd
    · obtain ⟨hmem, hne⟩ := List.mem_filter.mp hc
      exact (hwhole c hmem).resolve_right (by simpa using hne)

theorem parseAmount_eq {α : Type} [Scalar α] (h : Amount a) :
    parseAmount (String.ofList a) = (literalOrZero (a.filter (· ≠ ',')) : α) := by
  have hblank : ∀ c ∈ a.filter (· ≠ ','), Text.isBlank c = false := by
    intro c hc
    rcases mem_of_numeral h.numeral c hc with hdigit | rfl
    · exact Text.not_blank_of_isDigit hdigit
    · decide
  have hdrop {cs : List Char} (hcs : ∀ c ∈ cs, Text.isBlank c = false) :
      cs.dropWhile Text.isBlank = cs := by
    cases cs with
    | nil => rfl
    | cons c cs => rw [List.dropWhile_cons_of_neg (by simp [hcs c])]
  rw [parseAmount, String.toList_ofList, Text.trim, String.toList_ofList, String.toList_ofList,
    hdrop hblank, hdrop (by simpa using hblank), List.reverse_reverse]

/-- An amount in ASCII digits is read as its number, rounded to a double. -/
theorem roundsTo_parseAmount (h : Amount a) (hplain : PlainDigits a) :
    RoundsTo (parseAmount (String.ofList a)) (amountNumber a) := by
  obtain ⟨n, hn⟩ := exists_unsigned_of_numeral h.numeral fun c hc =>
    hplain c (List.mem_of_mem_filter hc)
  obtain ⟨hdigits, hfraction⟩ := n.parts_chars
  have hisDigit : ∀ c ∈ n.whole ++ n.fraction, c.isDigit = true := by
    intro c hc
    exact (List.mem_append.mp hc).elim (n.isDigit_whole c) (n.isDigit_fraction c)
  have hnumber : amountNumber a = n.number := by
    rw [amountNumber, numeralNumber, ← hn, hdigits, hfraction, numberOfDigits_of_isDigit hisDigit,
      Unsigned.number]
  rw [parseAmount_eq h, ← hn, literalOrZero_chars, hnumber]
  exact n.roundsTo_value

theorem not_sign_or_letter {d : Char} (h : Text.isDigit d = true ∨ d = '.') :
    d ≠ '-' ∧ d ≠ '+' ∧ d.toLower ≠ 'i' ∧ d.toLower ≠ 'n' := by
  have hplain : ∀ d ∈ '.' :: digitChars,
      d ≠ '-' ∧ d ≠ '+' ∧ d.toLower ≠ 'i' ∧ d.toLower ≠ 'n' :=
    List.all_iff_forall_prop.mp (by decide)
  by_cases hascii : d.toNat < 128
  · refine hplain d (List.mem_cons.mpr ?_)
    exact h.symm.imp_right fun hdigit => mem_digitChars_of_lt hdigit hascii
  · have hne {c : Char} (hc : c.toNat < 128) : d ≠ c := by
      rintro rfl
      exact hascii hc
    rw [Pattern.toLower_of_le (not_lt.mp hascii)]
    exact ⟨hne (by decide), hne (by decide), hne (by decide), hne (by decide)⟩

/-- Behind the digits of ASCII, another digit begins no exponent. -/
theorem decimalOfChars?_eq_none {negative : Bool}
    (hcs : ∀ c ∈ cs, Text.isDigit c = true ∨ c = '.') (hplain : ¬ PlainDigits cs) :
    Literal.decimalOfChars? negative cs = none := by
  obtain ⟨c, hc, hdigit, hother⟩ : ∃ c ∈ cs, Text.isDigit c = true ∧ c.isDigit = false := by
    simpa [PlainDigits] using hplain
  have hleft {ds : List Char} (hds : ds ⊆ cs) (hmem : c ∈ ds) :
      Literal.exponentOfChars? (ds.dropWhile Char.isDigit) = none := by
    obtain ⟨m, rest, hrest⟩ : ∃ m rest, ds.dropWhile Char.isDigit = m :: rest := by
      refine List.exists_cons_of_ne_nil fun hnil => ?_
      rw [List.dropWhile_eq_nil_iff.mp hnil c hmem] at hother
      cases hother
    have hm : m ≠ 'e' ∧ m ≠ 'E' := by
      have hmem : m ∈ ds.dropWhile Char.isDigit := by
        rw [hrest]
        exact List.mem_cons_self
      constructor <;> rintro rfl <;>
        exact absurd (hcs _ (hds ((List.dropWhile_sublist _).subset hmem))) (by decide)
    simp [hrest, Literal.exponentOfChars?, hm]
  have hrest : Literal.exponentOfChars? (Literal.splitPoint cs).2.2 = none := by
    unfold Literal.splitPoint
    cases hdrop : cs.dropWhile Char.isDigit with
    | nil =>
        have := hleft (List.Subset.refl cs) hc
        rw [hdrop] at this
        exact this
    | cons m rest =>
        by_cases hpoint : m = '.'
        · subst hpoint
          have hsubset : rest ⊆ cs := fun d hd =>
            (List.dropWhile_sublist _).subset (hdrop ▸ List.mem_cons_of_mem _ hd)
          refine hleft hsubset ?_
          have hsplit : cs.takeWhile Char.isDigit ++ '.' :: rest = cs := by
            rw [← hdrop, List.takeWhile_append_dropWhile]
          rw [← hsplit] at hc
          rcases List.mem_append.mp hc with hc | hc
          · rw [List.mem_takeWhile_imp hc] at hother
            cases hother
          · refine (List.mem_cons.mp hc).resolve_left ?_
            rintro rfl
            exact absurd hdigit (by decide)
        · have := hleft (List.Subset.refl cs) hc
          rw [hdrop] at this
          simpa [hpoint] using this
  rw [Literal.decimalOfChars?]
  simp [hrest]

/-- An amount with another digit counts as zero. -/
theorem parseAmount_of_not_plain (h : Amount a) (hplain : ¬ PlainDigits a) :
    (parseAmount (String.ofList a) : Float) = 0 := by
  have hmem := mem_of_numeral h.numeral
  have hfilter : ¬ PlainDigits (a.filter (· ≠ ',')) := by
    refine fun hds => hplain fun c hc hdigit => hds c (List.mem_filter.mpr ⟨hc, ?_⟩) hdigit
    rw [decide_eq_true_iff]
    rintro rfl
    exact absurd hdigit (by decide)
  obtain ⟨d, ds, hcons⟩ := List.exists_cons_of_ne_nil (ne_nil_of_numeral h.numeral)
  have hhead := not_sign_or_letter (hmem d (by rw [hcons]; exact List.mem_cons_self))
  have hsplit : Literal.splitSign (d :: ds) = (false, d :: ds) := by
    rw [Literal.splitSign] <;> simp [hhead]
  rw [parseAmount_eq h, hcons, literalOrZero, ofChars?_of_head hsplit hhead.2.2.1 hhead.2.2.2,
    decimalOfChars?_eq_none (hcons ▸ hmem) (hcons ▸ hfilter)]
  rfl

end Reading

end EquationTutor
