import Mathlib.Logic.Function.Basic
import Mathlib.Algebra.Notation.Defs

/-!
# Names and their owners

A registry of names keeps two maps: the owner of each name, and the name of each owner. Zero means
none on both sides. The maps are *paired* when they are inverse to each other away from zero.

Registering a free name keeps the maps paired exactly when the new owner had no name before
(`Paired.register_iff`), since the old name would keep its owner. Moving to another name
therefore takes a release first (`Paired.release`, `Paired.move`).
-/

namespace Moltbunker.Lib

open Function

variable {N P : Type} [Zero N] [Zero P] {owner : N → P} {name : P → N}

/-- The two maps are inverse to each other away from zero. -/
def Paired (owner : N → P) (name : P → N) : Prop :=
  ∀ n p, n ≠ 0 → p ≠ 0 → (owner n = p ↔ name p = n)

/-- Paired maps depend on their values only. -/
lemma Paired.congr {owner' : N → P} {name' : P → N} (h : Paired owner name)
    (howner : owner' = owner) (hname : ∀ p, name' p = name p) : Paired owner' name' := by
  intro n p hn hp
  rw [howner, hname p]
  exact h n p hn hp

variable [DecidableEq N] [DecidableEq P] {p : P}

/-- **A free name may be registered by those who have none**, and by nobody else. -/
theorem Paired.register_iff (h : Paired owner name) {n : N} (hn : n ≠ 0) (hp : p ≠ 0)
    (hfree : owner n = 0) : Paired (update owner n p) (update name p n) ↔ name p = 0 := by
  constructor
  · -- an old name would still have its owner, who has another name now
    intro hpaired
    by_contra hold
    have howner : owner (name p) = p := (h _ p hold hp).mpr rfl
    have hne : name p ≠ n := by
      rintro rfl
      exact hp (howner.symm.trans hfree)
    have hkept := (hpaired (name p) p hold hp).mp (by rw [update_of_ne hne]; exact howner)
    rw [update_self] at hkept
    exact hne hkept.symm
  · intro hold m q hm hq
    by_cases hmn : m = n
    · subst hmn
      rw [update_self]
      by_cases hqp : q = p
      · subst hqp
        simp
      · rw [update_of_ne hqp, ← h m q hm hq, hfree]
        exact ⟨fun e => absurd e.symm hqp, fun e => absurd e.symm hq⟩
    · rw [update_of_ne hmn]
      by_cases hqp : q = p
      · subst hqp
        rw [update_self, h m q hm hq, hold]
        exact ⟨fun e => absurd e.symm hm, fun e => absurd e.symm hmn⟩
      · rw [update_of_ne hqp]
        exact h m q hm hq

/-- Giving up a name. -/
lemma Paired.release (h : Paired owner name) (hp : p ≠ 0) :
    Paired (if name p ≠ 0 then update owner (name p) 0 else owner)
      (update name p 0) := by
  intro m q hm hq
  have howner : (if name p ≠ 0 then update owner (name p) 0 else owner) m =
      if m = name p then 0 else owner m := by
    by_cases hold : name p ≠ 0
    · rw [if_pos hold, update_apply]
    · rw [if_neg hold, if_neg]
      rintro rfl
      exact hold hm
  rw [howner, update_apply]
  by_cases hqp : q = p
  · subst hqp
    rw [if_pos rfl]
    refine ⟨fun e => ?_, fun e => absurd e.symm hm⟩
    split at e
    · exact absurd e.symm hp
    · next hne => exact absurd ((h m q hm hp).mp e).symm hne
  · rw [if_neg hqp]
    by_cases hmn : m = name p
    · rw [if_pos hmn]
      refine ⟨fun e => absurd e.symm hq, fun e => ?_⟩
      have h₁ := (h m q hm hq).mpr e
      have h₂ := (h m p hm hp).mpr hmn.symm
      exact absurd (h₁.symm.trans h₂) hqp
    · rw [if_neg hmn]
      exact h m q hm hq

/-- Moving to a free name, or to none. -/
lemma Paired.move (h : Paired owner name) (hp : p ≠ 0) {n : N} (hfree : n ≠ 0 → owner n = 0) :
    Paired (if n ≠ 0 then
        update (if name p ≠ 0 then update owner (name p) 0 else owner) n p
      else if name p ≠ 0 then update owner (name p) 0 else owner)
      (update name p n) := by
  have hreleased := h.release hp
  by_cases hn : n = 0
  · subst hn
    rw [if_neg (not_not.mpr rfl)]
    exact hreleased
  · rw [if_pos hn]
    have hfree' : (if name p ≠ 0 then update owner (name p) 0 else owner) n = 0 := by
      split
      · by_cases hnp : n = name p
        · rw [hnp, update_self]
        · rw [update_of_ne hnp]
          exact hfree hn
      · exact hfree hn
    have hregistered := (hreleased.register_iff hn hp hfree').mpr (update_self p 0 name)
    rwa [update_idem] at hregistered

end Moltbunker.Lib
