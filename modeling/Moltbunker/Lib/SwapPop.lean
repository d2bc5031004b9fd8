import Mathlib

/-!
# Removing list entries by swap-and-pop

The loop

    while (j < a.length) { if (drop a[j]) { a[j] = a[a.length - 1]; a.pop(); } else { j++; } }

keeps the entries before `j` and shortens what is left by one entry at each turn: a dropped entry
is replaced by the last one, a kept entry moves into the finished part. `swapPop` is that loop on
the part from `j` on, with the number of entries left as its fuel.

The loop reorders what it keeps, but loses nothing and invents nothing: its result is a
permutation of the entries that are not dropped (`swapPop_perm`). `swapPopLoop` is the loop as it
stands, on the array and the index; it ends, and with the same result (`swapPopLoop_eq`).

`swapPopFirst` is the loop that returns after the first entry it finds; its result is a permutation
of the list without that entry (`swapPopFirst_perm`).
-/

namespace Moltbunker.Lib

variable {α β : Type}

/-- The rest of the array after its first entry was overwritten by the last one and the array
popped. -/
def lastToFront (l : List α) : List α :=
  match l.getLast? with
  | none => []
  | some x => x :: l.dropLast

/-- `n` turns of the removal loop on the entries from `j` on. -/
def swapPopFrom (drop : α → Bool) : ℕ → List α → List α
  | 0, l => l
  | _ + 1, [] => []
  | n + 1, x :: l =>
    if drop x then swapPopFrom drop n (lastToFront l) else x :: swapPopFrom drop n l

/-- The removal loop, run from `j = 0` to its end. -/
def swapPop (drop : α → Bool) (l : List α) : List α := swapPopFrom drop l.length l

lemma lastToFront_perm (l : List α) : (lastToFront l).Perm l := by
  unfold lastToFront
  cases h : l.getLast? with
  | none =>
    rw [List.getLast?_eq_none_iff] at h
    simp [h]
  | some x =>
    obtain ⟨ys, rfl⟩ := List.getLast?_eq_some_iff.mp h
    simpa using (@List.perm_append_comm _ [x] ys)

lemma lastToFront_length (l : List α) : (lastToFront l).length = l.length :=
  (lastToFront_perm l).length_eq

lemma lastToFront_map {f : α → β} {l : List α} :
    (lastToFront l).map f = lastToFront (l.map f) := by
  unfold lastToFront
  rw [List.getLast?_map]
  cases l.getLast? with
  | none => rfl
  | some x => simp [List.map_dropLast]

/-- **The loop keeps exactly the entries that are not dropped**, in some order. -/
theorem swapPopFrom_perm (drop : α → Bool) (n : ℕ) (l : List α) (hn : l.length ≤ n) :
    (swapPopFrom drop n l).Perm (l.filter fun x => !drop x) := by
  induction n generalizing l with
  | zero =>
    have hl : l = [] := List.length_eq_zero_iff.mp (by omega)
    subst hl
    exact List.Perm.refl _
  | succ n ih =>
    cases l with
    | nil => exact List.Perm.refl _
    | cons x l =>
      have hlen : l.length ≤ n := by simpa using hn
      rw [swapPopFrom]
      by_cases hx : drop x
      · rw [if_pos hx, List.filter_cons_of_neg (by simp [hx])]
        exact (ih _ (by rw [lastToFront_length]; exact hlen)).trans
          ((lastToFront_perm l).filter _)
      · rw [if_neg hx, List.filter_cons_of_pos (by simpa using hx)]
        exact (ih l hlen).cons x

lemma swapPop_perm (drop : α → Bool) (l : List α) :
    (swapPop drop l).Perm (l.filter fun x => !drop x) :=
  swapPopFrom_perm drop l.length l le_rfl

lemma mem_swapPop {drop : α → Bool} {l : List α} {x : α} :
    x ∈ swapPop drop l ↔ x ∈ l ∧ drop x = false := by
  rw [(swapPop_perm drop l).mem_iff, List.mem_filter]
  simp

/-- The loop commutes with a change of entries that does not affect what is dropped. -/
lemma swapPopFrom_map {f : α → β} {drop : β → Bool} {n : ℕ} {l : List α} :
    (swapPopFrom (fun x => drop (f x)) n l).map f = swapPopFrom drop n (l.map f) := by
  induction n generalizing l with
  | zero => rfl
  | succ n ih =>
    cases l with
    | nil => rfl
    | cons x l =>
      simp only [swapPopFrom, List.map_cons]
      by_cases hx : drop (f x)
      · rw [if_pos hx, if_pos hx, ih, lastToFront_map]
      · rw [if_neg hx, if_neg hx, List.map_cons, ih]

lemma swapPop_map (f : α → β) (drop : β → Bool) (l : List α) :
    (swapPop (fun x => drop (f x)) l).map f = swapPop drop (l.map f) := by
  unfold swapPop
  rw [swapPopFrom_map, List.length_map]

/-- The removal loop on the array and the index `j`, in at most `n` turns; none if it needs more. -/
def swapPopLoop (drop : α → Bool) : ℕ → List α → ℕ → Option (List α)
  | 0, a, j => if j < a.length then none else some a
  | n + 1, a, j =>
    match a[j]? with
    | none => some a
    | some x =>
      if drop x then swapPopLoop drop n (a.set j (a.getLast?.getD x)).dropLast j
      else swapPopLoop drop n a (j + 1)

/-- An entry is overwritten by the last one, and the array popped. -/
lemma set_dropLast (kept : List α) {x : α} {l : List α} :
    ((kept ++ x :: l).set kept.length ((kept ++ x :: l).getLast?.getD x)).dropLast =
      kept ++ lastToFront l := by
  unfold lastToFront
  cases h : l.getLast? with
  | none =>
    rw [List.getLast?_eq_none_iff] at h
    simp [h]
  | some y =>
    obtain ⟨ys, rfl⟩ := List.getLast?_eq_some_iff.mp h
    have hlast : (kept ++ x :: (ys ++ [y])).getLast? = some y :=
      List.getLast?_eq_some_iff.mpr ⟨kept ++ x :: ys, by simp⟩
    rw [hlast]
    simp [List.dropLast_append_of_ne_nil, List.dropLast_cons_of_ne_nil]

/-- **The loop ends**, after as many turns as there are entries from `j` on. -/
theorem swapPopLoop_eq {drop : α → Bool} {n : ℕ} (kept l : List α) (hn : l.length ≤ n) :
    swapPopLoop drop n (kept ++ l) kept.length = some (kept ++ swapPopFrom drop n l) := by
  induction n generalizing kept l with
  | zero =>
    obtain rfl := List.length_eq_zero_iff.mp (Nat.le_zero.mp hn)
    simp [swapPopLoop, swapPopFrom]
  | succ n ih =>
    cases l with
    | nil => simp [swapPopLoop, swapPopFrom]
    | cons x l =>
      have hlen : l.length ≤ n := Nat.le_of_succ_le_succ hn
      have hx : (kept ++ x :: l)[kept.length]? = some x := by simp
      rw [swapPopLoop, hx, swapPopFrom]
      dsimp only
      split
      · rw [set_dropLast, ih kept _ ((lastToFront_length l).trans_le hlen)]
      · have hnext := ih (kept ++ [x]) l hlen
        simpa using hnext

/-- A total over the kept entries, when the dropped ones contribute nothing. -/
lemma sum_map_swapPop {r : α → ℕ} {drop : α → Bool} {l : List α}
    (h : ∀ x ∈ l, drop x = true → r x = 0) : ((swapPop drop l).map r).sum = (l.map r).sum := by
  rw [((swapPop_perm drop l).map r).sum_eq]
  induction l with
  | nil => rfl
  | cons x l ih =>
    have ih' := ih fun y hy => h y (List.mem_cons_of_mem x hy)
    by_cases hx : drop x
    · rw [List.filter_cons_of_neg (by simp [hx]), ih', List.map_cons, List.sum_cons,
        h x List.mem_cons_self hx, zero_add]
    · rw [List.filter_cons_of_pos (by simpa using hx), List.map_cons, List.sum_cons, ih',
        List.map_cons, List.sum_cons]

/-- A total over the kept entries is at most the total over all. -/
lemma sum_map_swapPop_le (r : α → ℕ) (drop : α → Bool) (l : List α) :
    ((swapPop drop l).map r).sum ≤ (l.map r).sum := by
  rw [((swapPop_perm drop l).map r).sum_eq]
  exact (List.filter_sublist.map r).sum_le_sum fun _ _ => Nat.zero_le _

/-! ## Removing one entry -/

variable [DecidableEq α]

/-- The loop over `a` that overwrites the first entry equal to `x` by the last one, pops, and
returns. -/
def swapPopFirst (x : α) : List α → List α
  | [] => []
  | y :: l => if y = x then lastToFront l else y :: swapPopFirst x l

lemma swapPopFirst_perm {x : α} {l : List α} : (swapPopFirst x l).Perm (l.erase x) := by
  induction l with
  | nil => exact List.Perm.refl _
  | cons y l ih =>
    unfold swapPopFirst
    by_cases hy : y = x
    · rw [if_pos hy, hy, List.erase_cons_head]
      exact lastToFront_perm l
    · rw [if_neg hy, List.erase_cons_tail (by simpa using hy)]
      exact ih.cons y

lemma length_swapPopFirst_le {x : α} {l : List α} : (swapPopFirst x l).length ≤ l.length := by
  rw [(swapPopFirst_perm).length_eq]
  exact List.length_erase_le

end Moltbunker.Lib
