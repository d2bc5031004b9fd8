import Mathlib

/-!
# Tallies of a table

A program keeps a finite table and next to it counters by kind: how many of the entries are of this
kind. The counters are changed by hand, one up when an entry is added and one down when it is
removed, and a counter that reaches zero is deleted.

* `Tallied c t kind` — every counter is the number of the entries of its kind;
* `Tallied.insert`, `Tallied.erase`, `Tallied.move`, `Tallied.replace` — adding an entry, removing
  one, moving one, and changing one without changing its kind keep the counters right;
* `Tallied.not_decr` — taking an entry from its counter and leaving it in the table does not.

Tables are the association lists of Mathlib. `tableCount_insert` and `tableCount_erase` say how any
number of entries changes with the table.
-/

namespace Moltbunker.Lib

open Function

/-- A finite map. -/
abbrev Table (N V : Type) := AList fun _ : N => V

/-- Counters by kind; a counter that is missing reads as zero. -/
abbrev Counts (K : Type) := K → ℤ

variable {N V K : Type} [DecidableEq N] {t : Table N V} {n : N} {v : V}

/-! ## Numbers of entries -/

/-- The number of entries. -/
def tableSize (t : Table N V) : ℕ := t.entries.length

/-- The number of entries with a property. -/
def tableCount (t : Table N V) (p : V → Bool) : ℕ := t.entries.countP fun e => p e.2

omit [DecidableEq N] in
lemma tableSize_eq_count : tableSize t = tableCount t fun _ => true := by
  unfold tableSize tableCount
  rw [List.countP_true]

/-- An entry and the others. -/
lemma entries_perm (h : t.lookup n = some v) :
    t.entries.Perm (⟨n, v⟩ :: (t.erase n).entries) := by
  have hmem : (⟨n, v⟩ : Sigma fun _ : N => V) ∈ t.entries := AList.mem_lookup_iff.mp h
  obtain ⟨v', l₁, l₂, -, hentries, herase⟩ :=
    List.exists_of_kerase (List.mem_keys_of_mem hmem)
  have hv : v' = v := by
    refine t.nodupKeys.eq_of_mk_mem ?_ hmem
    rw [hentries]
    exact List.mem_append_right _ List.mem_cons_self
  rw [hentries, show (t.erase n).entries = l₁ ++ l₂ from herase, hv]
  exact List.perm_middle

lemma tableCount_erase (h : t.lookup n = some v) {p : V → Bool} :
    tableCount t p = tableCount (t.erase n) p + if p v then 1 else 0 := by
  unfold tableCount
  rw [(entries_perm h).countP_eq, List.countP_cons]

/-- A sum over the entries. -/
def tableSum (t : Table N V) (f : V → ℤ) : ℤ := (t.entries.map fun e => f e.2).sum

lemma tableSum_erase (h : t.lookup n = some v) {f : V → ℤ} :
    tableSum t f = f v + tableSum (t.erase n) f := by
  unfold tableSum
  rw [((entries_perm h).map _).sum_eq, List.map_cons, List.sum_cons]

lemma tableSum_insert {f : V → ℤ} : tableSum (t.insert n v) f = f v + tableSum (t.erase n) f := by
  unfold tableSum
  rw [AList.entries_insert, List.map_cons, List.sum_cons]
  rfl

/-- An entry is written over the one under its key. -/
lemma tableCount_insert {p : V → Bool} :
    tableCount (t.insert n v) p = tableCount (t.erase n) p + if p v then 1 else 0 := by
  unfold tableCount
  rw [AList.entries_insert, List.countP_cons]
  rfl

/-- What a table has after a write. -/
@[grind =]
lemma lookup_insert_eq {n m : N} :
    (t.insert n v).lookup m = if m = n then some v else t.lookup m := by
  split_ifs with h
  · rw [h, AList.lookup_insert]
  · exact AList.lookup_insert_ne h

@[grind =]
lemma lookup_erase_eq {n m : N} : (t.erase n).lookup m = if m = n then none else t.lookup m := by
  split_ifs with h
  · rw [h, AList.lookup_erase]
  · exact AList.lookup_erase_ne h

lemma erase_eq_self (h : t.lookup n = none) : t.erase n = t :=
  AList.ext (List.kerase_of_notMem_keys (AList.lookup_eq_none.mp h))

lemma tableSize_erase (h : t.lookup n = some v) : tableSize t = tableSize (t.erase n) + 1 := by
  rw [tableSize_eq_count, tableSize_eq_count, tableCount_erase h]
  rfl

lemma tableSize_insert (h : t.lookup n = none) : tableSize (t.insert n v) = tableSize t + 1 := by
  rw [tableSize_eq_count, tableSize_eq_count, tableCount_insert, erase_eq_self h]
  rfl

lemma tableSize_replace {v' : V} (h : t.lookup n = some v) :
    tableSize (t.insert n v') = tableSize t := by
  rw [tableSize_eq_count, tableSize_eq_count, tableCount_insert, tableCount_erase h]

/-- Different keys of entries with a property are no more than the entries with it. -/
lemma card_le_tableCount {p : V → Bool} {ns : Finset N}
    (h : ∀ n ∈ ns, ∃ v, t.lookup n = some v ∧ p v = true) : ns.card ≤ tableCount t p := by
  have hsub : ns.toList ⊆ (t.entries.filter fun e => p e.2).map Sigma.fst := by
    intro n hn
    obtain ⟨v, hlookup, hv⟩ := h n (Finset.mem_toList.mp hn)
    exact List.mem_map.mpr
      ⟨⟨n, v⟩, List.mem_filter.mpr ⟨AList.mem_lookup_iff.mp hlookup, hv⟩, rfl⟩
  have hle := (List.subperm_of_subset ns.nodup_toList hsub).length_le
  rw [Finset.length_toList, List.length_map, ← List.countP_eq_length_filter] at hle
  exact hle

/-! ## Counters -/

variable [DecidableEq K]

namespace Counts

/-- One more of a kind. -/
def incr (c : Counts K) (k : K) : Counts K := update c k (c k + 1)

/-- One less of a kind; a counter that is not positive any more is deleted. -/
def decr (c : Counts K) (k : K) : Counts K :=
  update c k (if c k - 1 ≤ 0 then 0 else c k - 1)

/-- One more of the kind, if there is one. -/
def incrOf (c : Counts K) : Option K → Counts K
  | none => c
  | some k => c.incr k

/-- One less of the kind, if there is one. -/
def decrOf (c : Counts K) : Option K → Counts K
  | none => c
  | some k => c.decr k

end Counts

/-- The number of the entries of a kind. -/
def tally (t : Table N V) (kind : V → Option K) (k : K) : ℕ :=
  tableCount t fun v => kind v = some k

/-- Every counter is the number of the entries of its kind. -/
def Tallied (c : Counts K) (t : Table N V) (kind : V → Option K) : Prop :=
  ∀ k, c k = tally t kind k

namespace Tallied

variable {c : Counts K} {kind : V → Option K}

omit [DecidableEq N] in
lemma empty (kind : V → Option K) : Tallied (fun _ => 0) (∅ : Table N V) kind := fun _ => rfl

/-- An entry is added. -/
lemma insert (h : Tallied c t kind) (hn : t.lookup n = none) (v : V) :
    Tallied (c.incrOf (kind v)) (t.insert n v) kind := by
  intro k
  unfold tally
  rw [tableCount_insert, erase_eq_self hn]
  have hk := h k
  unfold tally at hk
  cases hkind : kind v with
  | none => simpa [Counts.incrOf] using hk
  | some k' =>
    by_cases heq : k' = k
    · subst heq
      simp [Counts.incrOf, Counts.incr, hk]
    · have hne : k ≠ k' := fun e => heq e.symm
      simp [Counts.incrOf, Counts.incr, update_of_ne hne, hk, heq]

variable (hn : t.lookup n = some v)
include hn

/-- An entry is removed. -/
lemma erase (h : Tallied c t kind) : Tallied (c.decrOf (kind v)) (t.erase n) kind := by
  intro k
  have hk := h k
  unfold tally at hk ⊢
  rw [tableCount_erase hn] at hk
  cases hkind : kind v with
  | none => simpa [Counts.decrOf, hkind] using hk
  | some k' =>
    by_cases heq : k' = k
    · subst heq
      simp only [hkind, decide_true, if_true, Nat.cast_add, Nat.cast_one] at hk
      simp only [Counts.decrOf, Counts.decr, update_self, hk]
      split <;> omega
    · have hne : k ≠ k' := fun e => heq e.symm
      simpa [Counts.decrOf, Counts.decr, update_of_ne hne, hkind, heq] using hk

/-- An entry is removed and added again with another value. -/
lemma move (h : Tallied c t kind) (v' : V) :
    Tallied ((c.decrOf (kind v)).incrOf (kind v')) (t.insert n v') kind := by
  have hfree : (t.erase n).lookup n = none := AList.lookup_erase n t
  have hmoved := (h.erase hn).insert hfree v'
  have heq : (t.erase n).insert n v' = t.insert n v' := by
    apply AList.ext
    rw [AList.entries_insert, AList.entries_insert]
    exact congrArg _ (congrArg AList.entries (erase_eq_self hfree))
  rwa [heq] at hmoved

/-- An entry is changed and stays of its kind. -/
lemma replace_iff {v' : V} (hkind : kind v' = kind v) :
    Tallied c (t.insert n v') kind ↔ Tallied c t kind := by
  refine forall_congr' fun k => ?_
  unfold tally
  rw [tableCount_insert, tableCount_erase hn, hkind]

lemma replace (h : Tallied c t kind) {v' : V}
    (hkind : kind v' = kind v) : Tallied c (t.insert n v') kind :=
  (replace_iff hn hkind).mpr h

/-- A counter goes down and the entry stays. -/
lemma not_decr (h : Tallied c t kind) {k : K}
    (hkind : kind v = some k) : ¬ Tallied (c.decr k) t kind := by
  intro hdecr
  have hold := h k
  have hnew := hdecr k
  have hpos : 0 < tally t kind k := by
    unfold tally
    rw [tableCount_erase hn]
    simp [hkind]
  unfold Counts.decr at hnew
  rw [update_self] at hnew
  split at hnew <;> omega

end Tallied

end Moltbunker.Lib
