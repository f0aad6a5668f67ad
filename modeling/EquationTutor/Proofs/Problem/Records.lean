import EquationTutor.Problem.Basic
import Mathlib.Data.List.Sort
import Mathlib.Data.String.Basic

namespace EquationTutor

namespace Text

def bytes (s : String) : List UInt8 :=
  s.toByteArray.data.toList

theorem bytes_eq_flatMap (s : String) : bytes s = s.toList.flatMap String.utf8EncodeChar := by
  rw [bytes, ← String.utf8Encode_toList, List.utf8Encode, List.toList_data_toByteArray]

theorem ofNat_cons_lt_iff {m n : Nat} (hm : m < 256) (hn : n < 256) (bs cs : List UInt8) :
    UInt8.ofNat m :: bs < UInt8.ofNat n :: cs ↔ m < n ∨ m = n ∧ bs < cs := by
  rw [List.cons_lt_cons_iff, UInt8.lt_iff_toNat_lt, ← UInt8.toNat_inj,
    UInt8.toNat_ofNat_of_lt' hm, UInt8.toNat_ofNat_of_lt' hn]

/-- Of two characters the one with the smaller code point has the smaller bytes, whatever
follows. -/
theorem utf8EncodeChar_append_lt {c d : Char} (h : c < d) (front back : List UInt8) :
    String.utf8EncodeChar c ++ front < String.utf8EncodeChar d ++ back := by
  have hlt : c.val.toNat < d.val.toNat := h
  have hd : d.val.toNat < 0x110000 := by
    rcases d.valid with h | ⟨_, h⟩
    · exact h.trans (by decide)
    · exact h
  -- each byte behind the first one has six of the bits
  have htwo (v : Nat) : v / 4096 = v / 64 / 64 := by omega
  have hthree (v : Nat) : v / 262144 = v / 64 / 64 / 64 := by omega
  fun_cases String.utf8EncodeChar c <;> fun_cases String.utf8EncodeChar d <;>
    simp (disch := omega) only [List.cons_append, List.nil_append, ofNat_cons_lt_iff, htwo,
      hthree] <;> omega

theorem bytes_lt_bytes {s t : String} (h : s < t) : bytes s < bytes t := by
  rw [bytes_eq_flatMap, bytes_eq_flatMap]
  have hlex : List.Lex (· < ·) s.toList t.toList := h
  generalize s.toList = cs at hlex ⊢
  generalize t.toList = ds at hlex ⊢
  induction hlex with
  | @nil d ds =>
      obtain ⟨b, bs, hd⟩ := List.exists_cons_of_ne_nil (String.utf8EncodeChar_ne_nil (c := d))
      rw [List.flatMap_cons, hd]
      exact List.nil_lt_cons _ _
  | rel hcd => exact utf8EncodeChar_append_lt hcd _ _
  | cons _ ih => exact List.append_left_lt ih

end Text

namespace Params

variable {α : Type}

/-- The keys are in the order of their bytes, and so each of them stands there once. -/
def IsAscending (p : Params α) : Prop :=
  p.entries.Pairwise fun d e => Text.bytes d.1 < Text.bytes e.1

section Values

variable {p : Params α} {key : String}

theorem get?_empty (key : String) : (empty : Params α).get? key = none :=
  rfl

theorem lookup_cons_eq (key : String) (e : String × ParamValue α)
    (rest : List (String × ParamValue α)) :
    (e :: rest).lookup key = if key = e.1 then some e.2 else rest.lookup key := by
  rw [List.lookup_cons]
  by_cases hkey : key = e.1
  · rw [if_pos hkey, beq_iff_eq.mpr hkey]
  · rw [if_neg hkey, beq_false_of_ne hkey]

theorem lookup_insertEntry (key : String) (v : ParamValue α)
    (entries : List (String × ParamValue α)) (other : String) :
    (insertEntry key v entries).lookup other =
      if other = key then some v else entries.lookup other := by
  induction entries with
  | nil => rw [insertEntry, lookup_cons_eq]
  | cons e rest ih =>
      obtain ⟨k, u⟩ := e
      rw [insertEntry]
      split
      · rename_i hk
        subst hk
        by_cases ho : other = key <;> simp [lookup_cons_eq, ho]
      · rename_i hk
        split
        · rw [lookup_cons_eq]
        · by_cases ho : other = k
          · subst ho
            simp [Ne.symm hk]
          · simp [lookup_cons_eq, ho, ih]

theorem get?_insert (p : Params α) (key : String) (v : ParamValue α) (other : String) :
    (p.insert key v).get? other = if other = key then some v else p.get? other :=
  lookup_insertEntry key v p.entries other

theorem get?_setDefault (p : Params α) (key : String) (v : ParamValue α) (other : String) :
    (p.setDefault key v).get? other =
      (p.get? other).or (if other = key then some v else none) := by
  unfold setDefault contains
  cases hkey : p.get? key with
  | none =>
      rw [Option.isSome_none, if_neg Bool.false_ne_true, get?_insert]
      by_cases ho : other = key
      · simp [ho, hkey]
      · simp [ho]
  | some u =>
      rw [Option.isSome_some, if_pos rfl]
      by_cases ho : other = key
      · simp [ho, hkey]
      · simp [ho]

theorem IsAscending.lookup_eq_none {e : String × ParamValue α}
    {rest : List (String × ParamValue α)} (h : IsAscending ⟨e :: rest⟩) :
    rest.lookup e.1 = none := by
  rw [List.lookup_eq_none_iff]
  intro d hd
  have hlt : Text.bytes e.1 < Text.bytes d.1 := List.rel_of_pairwise_cons h hd
  rw [bne_iff_ne]
  intro heq
  rw [heq] at hlt
  exact List.lt_irrefl _ hlt

/-- A record that is laid over another hides it where it has a value of its own. -/
theorem get?_merge (p : Params α) {q : Params α} (hq : q.IsAscending) (key : String) :
    (p.merge q).get? key = (q.get? key).or (p.get? key) := by
  obtain ⟨entries⟩ := q
  induction entries generalizing p with
  | nil => rfl
  | cons e rest ih =>
      have ih := ih (p.insert e.1 e.2) hq.of_cons
      change ((p.insert e.1 e.2).merge ⟨rest⟩).get? key = _
      rw [ih, get?_insert]
      by_cases hkey : key = e.1
      · have hnone : (⟨rest⟩ : Params α).get? e.1 = none := hq.lookup_eq_none
        rw [hkey, hnone, if_pos rfl, get?, lookup_cons_eq, if_pos rfl]
        rfl
      · rw [if_neg hkey]
        simp only [get?, lookup_cons_eq, if_neg hkey]

end Values

section Order

variable {p q : Params α}

@[grind ←]
theorem isAscending_empty : (empty : Params α).IsAscending :=
  .nil

theorem mem_insertEntry {key : String} {v : ParamValue α} {e : String × ParamValue α}
    {entries : List (String × ParamValue α)} (h : e ∈ insertEntry key v entries) :
    e = (key, v) ∨ e ∈ entries := by
  induction entries with
  | nil => simpa [insertEntry] using h
  | cons d rest ih =>
      rw [insertEntry] at h
      split at h
      · rcases List.mem_cons.mp h with h | h
        · exact .inl h
        · exact .inr (List.mem_cons_of_mem _ h)
      · split at h
        · simpa using h
        · rcases List.mem_cons.mp h with rfl | h
          · exact .inr List.mem_cons_self
          · exact (ih h).imp_right (List.mem_cons_of_mem _)

theorem IsAscending.insert (hp : p.IsAscending) (key : String) (v : ParamValue α) :
    (p.insert key v).IsAscending := by
  obtain ⟨entries⟩ := p
  change (insertEntry key v entries).Pairwise _
  induction entries with
  | nil => exact List.pairwise_singleton _ _
  | cons e rest ih =>
      obtain ⟨k, u⟩ := e
      have hrest : ∀ d ∈ rest, Text.bytes k < Text.bytes d.1 :=
        fun d hd => List.rel_of_pairwise_cons hp hd
      rw [insertEntry]
      split
      · rename_i hk
        subst hk
        exact hp.of_cons.cons hrest
      · rename_i hne
        split
        · rename_i hlt
          have hbytes : Text.bytes key < Text.bytes k := Text.bytes_lt_bytes hlt
          refine hp.cons fun d hd => ?_
          rcases List.mem_cons.mp hd with rfl | hd
          · exact hbytes
          · exact List.lt_trans hbytes (hrest d hd)
        · rename_i hlt
          have hbytes : Text.bytes k < Text.bytes key :=
            Text.bytes_lt_bytes (lt_of_le_of_ne (not_lt.mp hlt) (Ne.symm hne))
          refine (ih hp.of_cons).cons fun d hd => ?_
          rcases mem_insertEntry hd with rfl | hd
          · exact hbytes
          · exact hrest d hd

theorem IsAscending.setDefault (hp : p.IsAscending) (key : String) (v : ParamValue α) :
    (p.setDefault key v).IsAscending := by
  unfold Params.setDefault
  split
  · exact hp
  · exact hp.insert key v

theorem IsAscending.merge (hp : p.IsAscending) (q : Params α) : (p.merge q).IsAscending := by
  obtain ⟨entries⟩ := q
  induction entries generalizing p with
  | nil => exact hp
  | cons e rest ih => exact ih (hp.insert e.1 e.2)

theorem IsAscending.mem_entries_iff (hp : p.IsAscending) {key : String} {v : ParamValue α} :
    (key, v) ∈ p.entries ↔ p.get? key = some v := by
  obtain ⟨entries⟩ := p
  induction entries with
  | nil => simp [get?]
  | cons e rest ih =>
      have ih := ih hp.of_cons
      obtain ⟨k, u⟩ := e
      by_cases hkey : key = k
      · subst hkey
        have hnone : rest.lookup key = none := hp.lookup_eq_none
        simp only [get?, hnone] at ih
        simp [get?, ih, eq_comm]
      · simp only [get?] at ih
        simp [get?, lookup_cons_eq, hkey, ih]

theorem IsAscending.eq_of_get? (hp : p.IsAscending) (hq : q.IsAscending)
    (h : ∀ key, p.get? key = q.get? key) : p = q := by
  obtain ⟨ps⟩ := p
  obtain ⟨qs⟩ := q
  have hmem : ∀ e, e ∈ ps ↔ e ∈ qs := by
    rintro ⟨key, v⟩
    exact hp.mem_entries_iff.trans (by rw [h key]; exact hq.mem_entries_iff.symm)
  have hantisymm : Std.Antisymm fun d e : String × ParamValue α =>
      Text.bytes d.1 < Text.bytes e.1 := ⟨fun _ _ hde hed => absurd hed (List.lt_asymm hde)⟩
  have hirrefl : Std.Irrefl fun d e : String × ParamValue α =>
      Text.bytes d.1 < Text.bytes e.1 := ⟨fun _ => List.lt_irrefl _⟩
  exact congrArg Params.mk (List.Pairwise.eq_of_mem_iff hp hq hmem)

end Order

section Overlay

variable {p q r : Params α}

theorem merge_assoc (hp : p.IsAscending) (hq : q.IsAscending) (hr : r.IsAscending) :
    (p.merge q).merge r = p.merge (q.merge r) := by
  refine ((hp.merge q).merge r).eq_of_get? (hp.merge _) fun key => ?_
  rw [get?_merge _ hr, get?_merge _ hq, get?_merge _ (hq.merge r), get?_merge _ hr, Option.or_assoc]

theorem merge_self (hp : p.IsAscending) : p.merge p = p := by
  refine (hp.merge p).eq_of_get? hp fun key => ?_
  rw [get?_merge _ hp, Option.or_self]

end Overlay

/-- An operation that writes to a record. -/
inductive Write (α : Type) where
  | insert (key : String) (value : ParamValue α)
  | setDefault (key : String) (value : ParamValue α)
  | merge (record : Params α)

namespace Write

def apply (p : Params α) : Write α → Params α
  | insert key value => p.insert key value
  | setDefault key value => p.setDefault key value
  | merge record => p.merge record

/-- The value that the write gives to a key, whatever stands there. -/
def value? (key : String) : Write α → Option (ParamValue α)
  | insert k v => if key = k then some v else none
  | setDefault _ _ => none
  | merge record => record.get? key

/-- The value that the write gives to a key that is absent. -/
def default? (key : String) : Write α → Option (ParamValue α)
  | setDefault k v => if key = k then some v else none
  | insert _ _ | merge _ => none

/-- What is laid over a record is itself a record in order. -/
def IsOrdered : Write α → Prop
  | merge record => record.IsAscending
  | insert _ _ | setDefault _ _ => True

theorem get?_apply (p : Params α) {w : Write α} (hw : w.IsOrdered) (key : String) :
    (w.apply p).get? key = (w.value? key).or ((p.get? key).or (w.default? key)) := by
  cases w with
  | insert k v =>
      change (p.insert k v).get? key = _
      rw [get?_insert]
      by_cases hkey : key = k <;> simp [value?, default?, hkey]
  | setDefault k v => exact get?_setDefault p k v key
  | merge record =>
      change (p.merge record).get? key = _
      rw [get?_merge p hw, default?, Option.or_none]
      rfl

/-- A key has the value that the write gives it, or keeps the one that it had. -/
theorem get?_apply_eq_some_iff {p : Params α} {w : Write α} (hw : w.IsOrdered) {key : String}
    {v : ParamValue α} :
    (w.apply p).get? key = some v ↔
      (w.value? key = some v ∨ p.get? key = none ∧ w.default? key = some v) ∨
        p.get? key = some v ∧ w.value? key = none := by
  have hdefault : ∀ u, w.value? key = some u → w.default? key = none := by
    cases w <;> simp [value?, default?]
  rw [get?_apply p hw, Option.or_eq_some_iff, Option.or_eq_some_iff]
  cases hvalue : w.value? key with
  | none => simp [or_comm]
  | some u => simp [hdefault u hvalue]

theorem apply_isAscending {p : Params α} (hp : p.IsAscending) (w : Write α) :
    (w.apply p).IsAscending := by
  cases w with
  | insert key value => exact hp.insert key value
  | setDefault key value => exact hp.setDefault key value
  | merge record => exact hp.merge record

end Write

def after (p : Params α) (writes : List (Write α)) : Params α :=
  writes.foldl Write.apply p

/-- The value was given to the key by one of the writes, either whatever stood there or because
nothing did, and no later write gave one whatever stood there. -/
def LastWritten (p : Params α) (writes : List (Write α)) (key : String) (v : ParamValue α) :
    Prop :=
  ∃ before w after, writes = before ++ w :: after ∧
    (w.value? key = some v ∨ (p.after before).get? key = none ∧ w.default? key = some v) ∧
    ∀ u ∈ after, u.value? key = none

section Writes

variable {p : Params α} {writes : List (Write α)} {key : String} {v : ParamValue α}

theorem isAscending_after (hp : p.IsAscending) (writes : List (Write α)) :
    (p.after writes).IsAscending := by
  induction writes generalizing p with
  | nil => exact hp
  | cons w rest ih => exact ih (w.apply_isAscending hp)

theorem lastWritten_cons_iff {w : Write α} {rest : List (Write α)} :
    LastWritten p (w :: rest) key v ↔
      ((w.value? key = some v ∨ p.get? key = none ∧ w.default? key = some v) ∧
        ∀ u ∈ rest, u.value? key = none) ∨ LastWritten (w.apply p) rest key v := by
  constructor
  · rintro ⟨_ | ⟨x, before⟩, y, after, hwrites, hy, hafter⟩
    · obtain ⟨rfl, rfl⟩ := List.cons.inj hwrites
      exact .inl ⟨hy, hafter⟩
    · obtain ⟨rfl, rfl⟩ := List.cons.inj hwrites
      exact .inr ⟨before, y, after, rfl, hy, hafter⟩
  · rintro (⟨hw, hrest⟩ | ⟨before, y, after, rfl, hy, hafter⟩)
    · exact ⟨[], w, rest, rfl, hw, hrest⟩
    · exact ⟨w :: before, y, after, rfl, hy, hafter⟩

/-- A key has the value that it had before, if no write gave it another, or the one that was
written last. -/
theorem get?_after_eq_some_iff (hwrites : ∀ w ∈ writes, w.IsOrdered) :
    (p.after writes).get? key = some v ↔
      (p.get? key = some v ∧ ∀ w ∈ writes, w.value? key = none) ∨
        LastWritten p writes key v := by
  induction writes generalizing p with
  | nil => simp [after, LastWritten]
  | cons w rest ih =>
      rw [List.forall_mem_cons] at hwrites
      have ih := ih (p := w.apply p) hwrites.2
      change ((w.apply p).after rest).get? key = some v ↔ _
      rw [ih, lastWritten_cons_iff, Write.get?_apply_eq_some_iff hwrites.1, List.forall_mem_cons]
      tauto

theorem get?_after_eq_none_iff (hwrites : ∀ w ∈ writes, w.IsOrdered) :
    (p.after writes).get? key = none ↔
      p.get? key = none ∧ ∀ w ∈ writes, w.value? key = none ∧ w.default? key = none := by
  induction writes generalizing p with
  | nil => simp [after]
  | cons w rest ih =>
      rw [List.forall_mem_cons] at hwrites
      have ih := ih (p := w.apply p) hwrites.2
      change ((w.apply p).after rest).get? key = none ↔ _
      rw [ih, Write.get?_apply p hwrites.1, List.forall_mem_cons]
      simp only [Option.or_eq_none_iff]
      tauto

end Writes

end Params

end EquationTutor
