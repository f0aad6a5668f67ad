import EquationTutor.Proofs.Polynomial.Captures
import Mathlib.Data.List.Forall2
/-!
What patterns read of a text of tokens. A statement tells what stands before the place where a
pattern is matched first and what stands behind its match, and what is known of the texts of
the groups. The statements for the parts of a sequence compose to one for the sequence.
-/

namespace EquationTutor

open PolynomialText Reading Pattern

/-- The groups of a match, in their order, and what is known of their texts. -/
def Catches (found : Groups) (caught : List (Nat × (List Char → Prop))) : Prop :=
  List.Forall₂ (fun e w => e.1 = w.1 ∧ w.2 e.2.chars) found caught

theorem Catches.lookup {found : Groups} {caught : List (Nat × (List Char → Prop))}
    (h : Catches found caught) (i : Nat) :
    Option.Rel (fun c W => W c.chars) (found.lookup i) (caught.lookup i) := by
  induction h with
  | nil => exact .none
  | @cons e w _ _ hew _ ih =>
      obtain ⟨j, c⟩ := e
      obtain ⟨k, W⟩ := w
      obtain ⟨rfl, hW⟩ : j = k ∧ W c.chars := hew
      by_cases hij : i = j
      · rw [hij, List.lookup_cons_self, List.lookup_cons_self]
        exact .some hW
      · have hne : (i == j) = false := beq_eq_false_iff_ne.mpr hij
        rw [List.lookup_cons, List.lookup_cons, hne]
        exact ih

theorem Catches.exists_of_lookup_eq_some {found : Groups}
    {caught : List (Nat × (List Char → Prop))} (h : Catches found caught) {i : Nat}
    {W : List Char → Prop} (hi : caught.lookup i = some W) :
    ∃ c, found.lookup i = some c ∧ W c.chars := by
  have hrel := h.lookup i
  rw [hi] at hrel
  cases hlookup : found.lookup i with
  | none =>
      rw [hlookup] at hrel
      cases hrel
  | some c =>
      rw [hlookup] at hrel
      obtain ⟨hc⟩ := hrel
      exact ⟨c, rfl, hc⟩

theorem Catches.lookup_eq_none {found : Groups} {caught : List (Nat × (List Char → Prop))}
    (h : Catches found caught) {i : Nat} (hi : caught.lookup i = none) :
    found.lookup i = none := by
  have hrel := h.lookup i
  rw [hi] at hrel
  cases hlookup : found.lookup i with
  | none => rfl
  | some c =>
      rw [hlookup] at hrel
      cases hrel

theorem Catches.group_eq {m : Match} {i : Nat} {t : List Char}
    {caught : List (Nat × (List Char → Prop))} (h : Catches m.groups caught)
    (hi : caught.lookup i = some (· = t)) : m.group i = String.ofList t := by
  obtain ⟨c, hc, htext⟩ := h.exists_of_lookup_eq_some hi
  rw [Match.group, Match.group?, Match.capture?, hc]
  exact congrArg String.ofList htext

/-- Tokens without blanks, none of them empty. -/
def Tokens (ts : List (List Char)) : Prop :=
  ∀ t ∈ ts, t ≠ [] ∧ ∀ c ∈ t, Text.isBlank c = false

/-- The text begins with the first of the tokens. -/
abbrev At (ts : List (List Char)) : List Char → Prop :=
  Spelled (· == ' ') ts

/-- The text begins with spaces and the first of the tokens. -/
abbrev Near (ts : List (List Char)) : List Char → Prop :=
  Spaced (· == ' ') ts

section Tokens

variable {ts us : List (List Char)} {cs taken rest : List Char}

theorem tokens_nil : Tokens [] :=
  fun _ ht => absurd ht List.not_mem_nil

theorem tokens_append : Tokens (ts ++ us) ↔ Tokens ts ∧ Tokens us :=
  List.forall_mem_append

theorem Tokens.not_blank (h : Tokens ts) : ∀ c ∈ ts.flatten, Text.isBlank c = false := by
  intro c hc
  obtain ⟨t, ht, hct⟩ := List.mem_flatten.mp hc
  exact (h t ht).2 c hct

theorem At.head?_eq (hts : Tokens ts) (h : At ts cs) : cs.head? = ts.flatten.head? := by
  cases ts with
  | nil =>
      obtain rfl : cs = [] := h
      rfl
  | cons t ts =>
      obtain ⟨g, rest, rfl, -, -⟩ := h
      obtain ⟨c, t, rfl⟩ := List.exists_cons_of_ne_nil (hts t List.mem_cons_self).1
      rfl

theorem At.not_blank_head? (hts : Tokens ts) (h : At ts cs) :
    ∀ c ∈ cs.head?, Text.isBlank c = false := by
  rw [h.head?_eq hts]
  exact fun c hc => hts.not_blank c (List.mem_of_mem_head? hc)

theorem Near.head? (hts : Tokens ts) (h : Near ts cs) :
    ∀ c ∈ cs.head?, c = ' ' ∨ c ∈ ts.flatten.head? := by
  obtain ⟨g, rest, rfl, hg, hrest⟩ := h
  cases g with
  | nil =>
      rw [List.nil_append, At.head?_eq hts hrest]
      exact fun c hc => Or.inr hc
  | cons d g =>
      intro c hc
      obtain rfl : d = c := by simpa using hc
      exact Or.inl (by simpa using hg d List.mem_cons_self)

theorem Near.solid_eq (hts : Tokens ts) (h : Near ts cs) : solid cs = ts.flatten := by
  obtain ⟨g, rest, rfl, hg, hrest⟩ := h
  rw [solid_append, solid_of_allBlank (allBlank_of_eq_space (by simpa using hg)),
    List.nil_append, solid_spelled (fun t ht => (hts t ht).2) hrest]

theorem At.mem_flatten (h : At ts cs) {c : Char} (hc : c ∈ cs) : c = ' ' ∨ c ∈ ts.flatten := by
  rcases mem_of_spelled h hc with hc | ⟨t, ht, hct⟩
  · exact Or.inl (by simpa using hc)
  · exact Or.inr (List.mem_flatten.mpr ⟨t, ht, hct⟩)

theorem Near.mem_flatten (h : Near ts cs) {c : Char} (hc : c ∈ cs) : c = ' ' ∨ c ∈ ts.flatten := by
  obtain ⟨g, rest, rfl, hg, hrest⟩ := h
  rcases List.mem_append.mp hc with hc | hc
  · exact Or.inl (by simpa using hg c hc)
  · exact At.mem_flatten hrest hc

theorem solid_eq_of_near (hts : Tokens (ts ++ us)) (h : Near (ts ++ us) (taken ++ rest))
    (hrest : Near us rest) : solid taken = ts.flatten := by
  have hsolid := h.solid_eq hts
  rw [solid_append, hrest.solid_eq (tokens_append.mp hts).2, List.flatten_append] at hsolid
  exact List.append_cancel_right hsolid

end Tokens

namespace Pattern

/-- Where a text with `P` follows, the first way to match leaves one with `Q`. -/
def Reads (p : Pattern) (P Q : List Char → Prop) (caught : List (Nat × (List Char → Prop))) :
    Prop :=
  ∀ before cs g, P cs → ∃ taken rest found, cs = taken ++ rest ∧
    p.Best before taken rest g (g ++ found) ∧ Catches found caught ∧ Q rest

variable {p q : Pattern} {P Q R : List Char → Prop}
  {caught caught' : List (Nat × (List Char → Prop))} {us : List (List Char)}

theorem reads_seq (hp : p.Reads P Q caught) (hq : q.Reads Q R caught') :
    (seq p q).Reads P R (caught ++ caught') := by
  intro before cs g hcs
  obtain ⟨s, rest, found, rfl, hbest, hfound, hrest⟩ := hp before cs g hcs
  obtain ⟨t, rest, found', rfl, hbest', hfound', hrest⟩ := hq (before ++ s) rest (g ++ found) hrest
  refine ⟨s ++ t, rest, found ++ found', by simp, ?_, List.rel_append hfound hfound', hrest⟩
  rw [← List.append_assoc g]
  exact best_seq hbest hbest'

theorem reads_then (hp : p.Reads P Q []) (hq : q.Reads Q R caught) :
    (seq p q).Reads P R caught :=
  reads_seq hp hq

theorem reads_seq_assoc {r : Pattern} (h : (seq (seq p q) r).Reads P Q caught) :
    (seq p (seq q r)).Reads P Q caught := by
  intro before cs g hcs
  obtain ⟨taken, rest, found, hsplit, hbest, hfound, hrest⟩ := h before cs g hcs
  exact ⟨taken, rest, found, hsplit, best_seq_assoc hbest, hfound, hrest⟩

theorem reads_optional (h : p.Reads P Q caught) : (optional p).Reads P Q caught := by
  intro before cs g hcs
  obtain ⟨taken, rest, found, hsplit, hbest, hfound, hrest⟩ := h before cs g hcs
  exact ⟨taken, rest, found, hsplit, best_optional hbest, hfound, hrest⟩

theorem reads_optional_of_refuses (hp : ∀ before cs, P cs → p.Refuses before cs)
    (h : ∀ cs, P cs → Q cs) : (optional p).Reads P Q [] := by
  intro before cs g hcs
  refine ⟨[], cs, [], rfl, ?_, .nil, h cs hcs⟩
  rw [List.append_nil]
  exact best_optional_of_refuses (hp before cs hcs)

theorem reads_group {i : Nat} {W : List Char → Prop} (h : p.Reads P Q [])
    (hW : ∀ taken rest, P (taken ++ rest) → Q rest → W taken) :
    (group i p).Reads P Q [(i, W)] := by
  intro before cs g hcs
  obtain ⟨taken, rest, found, rfl, hbest, hfound, hrest⟩ := h before cs g hcs
  obtain rfl := List.forall₂_nil_right_iff.mp hfound
  rw [List.append_nil] at hbest
  exact ⟨taken, rest, _, rfl, best_group hbest, .cons ⟨rfl, hW taken rest hcs hrest⟩ .nil, hrest⟩

/-- A search at the start of a text finds what is read there. -/
theorem Reads.find? (h : p.Reads P Q caught) {s : String} (hs : P s.toList) :
    ∃ m, p.find? s = some m ∧ Catches m.groups caught := by
  obtain ⟨taken, rest, found, hsplit, hbest, hfound, -⟩ := h [] s.toList [] hs
  exact ⟨_, find?_eq_some_of_start hsplit hbest, hfound⟩

theorem Reads.exists_takes (h : p.Reads P Q caught) {cs : List Char} (hcs : P cs) :
    ∃ taken rest, cs = taken ++ rest ∧ p.Takes [] taken rest := by
  obtain ⟨taken, rest, found, rfl, hbest, -, -⟩ := h [] cs [] hcs
  obtain ⟨s, t, hsplit, -, htakes⟩ := takes_of_mem_ends (List.mem_of_mem_head? hbest)
  exact ⟨s, t, hsplit, htakes⟩

section Pieces

variable (hus : Tokens us)
include hus

theorem reads_blanks : blanks.Reads (Near us) (At us) [] := by
  rintro before _ g ⟨gap, rest, rfl, hgap, hrest⟩
  refine ⟨gap, rest, [], rfl, ?_, .nil, hrest⟩
  rw [List.append_nil]
  exact best_blanks (allBlank_of_eq_space (by simpa using hgap)) (At.not_blank_head? hus hrest)

section Token

variable {t : List Char} (ht : ∀ before rest g,
  (∀ c ∈ rest.head?, c = ' ' ∨ c ∈ us.flatten.head?) → p.Best before t rest g g)
include ht

theorem reads_token : p.Reads (At (t :: us)) (Near us) [] := by
  rintro before _ g ⟨gap, rest, rfl, hgap, hrest⟩
  have hnear : Near us (gap ++ rest) := ⟨gap, rest, rfl, hgap, hrest⟩
  refine ⟨t, gap ++ rest, [], List.append_assoc .., ?_, .nil, hnear⟩
  rw [List.append_nil]
  exact ht before _ g (hnear.head? hus)

theorem reads_group_token {i : Nat} :
    (group i p).Reads (At (t :: us)) (Near us) [(i, (· = t))] := by
  rintro before _ g ⟨gap, rest, rfl, hgap, hrest⟩
  have hnear : Near us (gap ++ rest) := ⟨gap, rest, rfl, hgap, hrest⟩
  exact ⟨t, gap ++ rest, _, List.append_assoc .., best_group (ht before _ g (hnear.head? hus)),
    .cons ⟨rfl, rfl⟩ .nil, hnear⟩

end Token

theorem reads_char (c : Char) : (char c).Reads (At ([c] :: us)) (Near us) [] :=
  reads_token hus fun _ _ _ _ => best_char

end Pieces

end Pattern

end EquationTutor
