import Moltbunker.Lib.SwapPop

/-!
# An index of items by owner

Each item has at most one owner (`owner : α → Option κ`), and each owner has a list of its items
(`owned : κ → List α`). The lists are kept by hand: an item is appended to the list of a new owner
and removed from that of the old one. `Indexed` says that the lists are right: every item stands
once in the list of its owner and in no other list.

Removing an item and giving it away are the two moves (`Indexed.remove`, `Indexed.push`). A change
of owners is the one after the other (`Indexed.move`).
-/

namespace Moltbunker.Lib

open Function

variable {α κ : Type} [DecidableEq α] [DecidableEq κ]

/-- Every item stands once in the list of its owner and in no other list. -/
def Indexed (owner : α → Option κ) (owned : κ → List α) : Prop :=
  ∀ x k, (owned k).count x = if owner x = some k then 1 else 0

namespace Indexed

variable {owner : α → Option κ} {owned : κ → List α} {x : α} {k : κ} (h : Indexed owner owned)
include h

/-- Only the owners matter. -/
lemma congr {owner' : α → Option κ} (heq : ∀ x, owner' x = owner x) : Indexed owner' owned := by
  intro x k
  rw [heq]
  exact h x k

lemma count_eq_zero (hx : owner x ≠ some k) : (owned k).count x = 0 := by
  rw [h x k, if_neg hx]

/-- An item is taken from its owner. -/
lemma remove (hx : owner x = some k) :
    Indexed (update owner x none) (update owned k (swapPopFirst x (owned k))) := by
  intro y j
  by_cases hy : y = x
  · subst hy
    rw [update_self, if_neg nofun]
    by_cases hj : j = k
    · subst hj
      rw [update_self, (swapPopFirst_perm).count_eq, List.count_erase_self, h y j, if_pos hx]
    · rw [update_of_ne hj]
      apply h.count_eq_zero
      rw [hx]
      exact fun hk => hj (Option.some.inj hk).symm
  · rw [update_of_ne hy]
    by_cases hj : j = k
    · subst hj
      rw [update_self, (swapPopFirst_perm).count_eq, List.count_erase_of_ne hy]
      exact h y j
    · rw [update_of_ne hj]
      exact h y j

/-- An item without an owner is given to one. -/
lemma push (hx : owner x = none) (k : κ) :
    Indexed (update owner x (some k)) (update owned k (owned k ++ [x])) := by
  intro y j
  by_cases hj : j = k
  · subst hj
    rw [update_self, List.count_append]
    by_cases hy : y = x
    · subst hy
      rw [update_self, if_pos rfl, h.count_eq_zero (by rw [hx]; nofun), List.count_singleton_self]
    · rw [update_of_ne hy, List.count_singleton, if_neg (by simpa using Ne.symm hy)]
      exact h y j
  · rw [update_of_ne hj]
    by_cases hy : y = x
    · subst hy
      rw [update_self, if_neg (fun hk => hj (Option.some.inj hk).symm)]
      apply h.count_eq_zero
      rw [hx]
      nofun
    · rw [update_of_ne hy]
      exact h y j

/-- An item passes from its owner to another, or back to the same one. -/
lemma move (hx : owner x = some k) (j : κ) :
    let taken := update owned k (swapPopFirst x (owned k))
    Indexed (update owner x (some j)) (update taken j (taken j ++ [x])) := by
  intro taken
  have hpush := (h.remove hx).push (update_self x none owner) j
  rw [update_idem] at hpush
  exact hpush

end Indexed

end Moltbunker.Lib
