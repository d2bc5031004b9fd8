import Mathlib

/-!
# Finite totals under a change at one point

A contract keeps a total next to a table and changes both at one key. All of the bookkeeping
below is one fact, `sum_change_at`: two tables that agree off `p` have totals that differ by
their entries at `p`. It is stated with both sides added, so that it can be used on natural
numbers, or in any other commutative monoid, without a side condition.
-/

namespace Moltbunker.Lib

open Finset Function

variable {ι β : Type} [Fintype ι] [DecidableEq ι]

omit [Fintype ι] in
/-- **The totals of two tables that agree off `p`**, over a set with `p` in it. -/
theorem sum_change_on {M : Type} [AddCommMonoid M] {s : Finset ι} {f g : ι → M} {p : ι}
    (hp : p ∈ s) (h : ∀ q, q ≠ p → g q = f q) : ∑ q ∈ s, g q + f p = ∑ q ∈ s, f q + g p := by
  have hrest : ∑ q ∈ s.erase p, g q = ∑ q ∈ s.erase p, f q :=
    Finset.sum_congr rfl fun q hq => h q (Finset.ne_of_mem_erase hq)
  calc ∑ q ∈ s, g q + f p
      = g p + ∑ q ∈ s.erase p, g q + f p := by rw [Finset.add_sum_erase s g hp]
    _ = f p + ∑ q ∈ s.erase p, f q + g p := by rw [hrest]; abel
    _ = ∑ q ∈ s, f q + g p := by rw [Finset.add_sum_erase s f hp]

lemma sum_change_at {f g : ι → ℕ} (p : ι) (h : ∀ q, q ≠ p → g q = f q) :
    ∑ q, g q + f p = ∑ q, f q + g p := sum_change_on (mem_univ p) h

/-- The total of a reading of an updated table. -/
lemma sum_update (r : β → ℕ) (f : ι → β) (p : ι) (b : β) :
    ∑ q, r (update f p b q) + r (f p) = ∑ q, r (f q) + r b := by
  have h := sum_change_at (f := fun q => r (f q)) (g := fun q => r (update f p b q)) p
    (fun q hq => by simp only [update_of_ne hq])
  simpa using h

/-- The total of an updated table of numbers. -/
lemma total_update (f : ι → ℕ) (p : ι) (x : ℕ) :
    ∑ q, update f p x q + f p = ∑ q, f q + x := sum_update id f p x

omit [Fintype ι] in
/-- Reading one field of an updated table. -/
lemma read_update {γ : Type} (r : β → γ) (f : ι → β) (p : ι) (b : β) :
    (fun q => r (update f p b q)) = update (fun q => r (f q)) p (r b) :=
  comp_update r f p b

omit [Fintype ι] in
/-- A write that keeps what is read. -/
lemma read_update_self {γ : Type} (r : β → γ) {f : ι → β} {p : ι} {b : β} (h : r b = r (f p))
    (q : ι) : r (update f p b q) = r (f q) := by
  rw [congrFun (read_update r f p b) q, h, update_eq_self]

omit [Fintype ι] in
/-- What an updated table has at a key: the new entry, or what it had. -/
lemma update_eq_some {f : ι → Option β} {p q : ι} {o : Option β} {b : β} :
    update f p o q = some b ↔ q = p ∧ o = some b ∨ q ≠ p ∧ f q = some b := by
  rw [update_apply]
  split_ifs with h <;> simp [h]

omit [DecidableEq ι] in
/-- One entry is at most the total. -/
lemma entry_le_sum (f : ι → ℕ) (p : ι) : f p ≤ ∑ q, f q :=
  Finset.single_le_sum (fun _ _ => Nat.zero_le _) (mem_univ p)

/-- Two different entries are together at most the total. -/
lemma two_entries_le_sum (f : ι → ℕ) {p q : ι} (hpq : p ≠ q) : f p + f q ≤ ∑ i, f i := by
  have h : ∑ i ∈ ({p, q} : Finset ι), f i ≤ ∑ i, f i :=
    Finset.sum_le_sum_of_subset (Finset.subset_univ _)
  rwa [Finset.sum_pair hpq] at h

/-- The total of a list in which one entry was replaced. -/
lemma sum_map_set {α : Type} (f : α → ℕ) {l : List α} {i : ℕ} {x : α} (hx : l[i]? = some x)
    (y : α) : ((l.set i y).map f).sum + f x = (l.map f).sum + f y := by
  induction l generalizing i with
  | nil => simp at hx
  | cons z l ih =>
    cases i with
    | zero =>
      rw [List.getElem?_cons_zero, Option.some.injEq] at hx
      subst hx
      simp only [List.set_cons_zero, List.map_cons, List.sum_cons]
      omega
    | succ i =>
      have htail := ih hx
      simp only [List.set_cons_succ, List.map_cons, List.sum_cons]
      omega

/-- The total of a list from which one entry was removed. -/
lemma sum_map_eraseIdx {α : Type} (f : α → ℕ) {l : List α} {i : ℕ} {x : α}
    (hx : l[i]? = some x) : ((l.eraseIdx i).map f).sum + f x = (l.map f).sum := by
  obtain ⟨hlt, rfl⟩ := List.getElem?_eq_some_iff.mp hx
  have hperm := ((List.getElem_cons_eraseIdx_perm hlt).map f).sum_eq
  rw [List.map_cons, List.sum_cons] at hperm
  omega

end Moltbunker.Lib
