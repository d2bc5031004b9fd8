import Moltbunker.Lib.PointUpdate

/-!
# A reward index with lazy checkpoints

A pool pays a stream of rewards to accounts in proportion to their weights. It keeps one global
index, the reward for a unit of weight since the beginning, and for each account the index at
which it was last settled. What the accounts together have accrued and not yet been credited is

    unpaid w paid index = ∑ i, w i * (index - paid i).

The lemmas say what each operation of such a pool does to this sum: the index advances
(`unpaid_advance`, `unpaid_advance_le`), an account is settled at the current index
(`unpaid_settle`), and a settled account changes its weight (`unpaid_reweigh`). Rounding is
against the accounts at both places: `unpaid_advance_le` for the division by the total weight,
`scaled_share_le` for the divisions at a settlement.
-/

namespace Moltbunker.Lib

open Finset Function

variable {ι : Type} [Fintype ι] {w paid : ι → ℕ} {index : ℕ}

/-- What the accounts have accrued since they were last settled, in units of the index. -/
def unpaid (w paid : ι → ℕ) (index : ℕ) : ℕ := ∑ i, w i * (index - paid i)

lemma share_le_unpaid (w paid : ι → ℕ) (index : ℕ) (i : ι) :
    w i * (index - paid i) ≤ unpaid w paid index :=
  entry_le_sum (fun i => w i * (index - paid i)) i

/-- The index advances: every unit of weight accrues the gain. -/
lemma unpaid_advance (hpaid : ∀ i, paid i ≤ index) (gain : ℕ) :
    unpaid w paid (index + gain) = unpaid w paid index + (∑ i, w i) * gain := by
  unfold unpaid
  rw [Finset.sum_mul, ← Finset.sum_add_distrib]
  refine Finset.sum_congr rfl fun i _ => ?_
  rw [Nat.sub_add_comm (hpaid i), Nat.mul_add]

/-- **An emission is not multiplied by the index.** If the index advances by an emission divided
by a total that covers the weights, the accounts accrue at most the emission. -/
theorem unpaid_advance_le (hpaid : ∀ i, paid i ≤ index) {total : ℕ} (hw : ∑ i, w i ≤ total)
    (emission : ℕ) : unpaid w paid (index + emission / total) ≤ unpaid w paid index + emission := by
  rw [unpaid_advance hpaid]
  refine Nat.add_le_add_left ?_ _
  calc (∑ i, w i) * (emission / total)
      ≤ total * (emission / total) := Nat.mul_le_mul_right _ hw
    _ ≤ emission := Nat.mul_div_le _ _

variable [DecidableEq ι]

/-- Settling an account, at the index or beyond it, moves its share out of the sum. -/
lemma unpaid_settle_beyond (w paid : ι → ℕ) (i : ι) {x : ℕ} (hx : index ≤ x) :
    unpaid w (update paid i x) index + w i * (index - paid i) =
      unpaid w paid index := by
  have h := @sum_change_at ι _ _ (fun j => w j * (index - paid j))
    (fun j => w j * (index - update paid i x j)) i
    (fun j hj => by simp only [update_of_ne hj])
  simpa [unpaid, Nat.sub_eq_zero_of_le hx] using h

lemma unpaid_settle (w paid : ι → ℕ) (index : ℕ) (i : ι) :
    unpaid w (update paid i index) index + w i * (index - paid i) =
      unpaid w paid index := unpaid_settle_beyond w paid i le_rfl

/-- A settled account may change its weight: nothing has accrued to it. -/
lemma unpaid_reweigh_beyond {i : ι} (hi : index ≤ paid i) {w : ι → ℕ} {x : ℕ} :
    unpaid (update w i x) paid index = unpaid w paid index := by
  refine Finset.sum_congr rfl fun j _ => ?_
  by_cases hj : j = i
  · subst hj
    rw [Nat.sub_eq_zero_of_le hi, Nat.mul_zero, Nat.mul_zero]
  · rw [update_of_ne hj]

lemma unpaid_reweigh {i : ι} (hi : paid i = index) (w : ι → ℕ) (x : ℕ) :
    unpaid (update w i x) paid index = unpaid w paid index :=
  unpaid_reweigh_beyond hi.ge

/-- A share that is scaled down, multiplied and scaled down again is at most the exact value. -/
lemma scaled_share_le {share scale m bps : ℕ} :
    scale * bps * (share / scale * m / bps) ≤ m * share :=
  calc scale * bps * (share / scale * m / bps)
      = scale * (bps * (share / scale * m / bps)) := Nat.mul_assoc _ _ _
    _ ≤ scale * (share / scale * m) := Nat.mul_le_mul_left _ (Nat.mul_div_le _ _)
    _ = scale * (share / scale) * m := (Nat.mul_assoc _ _ _).symm
    _ ≤ share * m := Nat.mul_le_mul_right _ (Nat.mul_div_le _ _)
    _ = m * share := Nat.mul_comm _ _

/-- Two truncating divisions lose less than one unit each. -/
lemma share_le_scaled_add {scale bps : ℕ} (hscale : 0 < scale) (hbps : 0 < bps) (share m : ℕ) :
    m * share ≤ scale * bps * (share / scale * m / bps) + scale * (m + (bps - 1)) := by
  have hdiv : share / scale * m ≤ bps * (share / scale * m / bps) + (bps - 1) := by
    have := Nat.lt_mul_div_succ (share / scale * m) hbps
    rw [Nat.mul_add, Nat.mul_one] at this
    omega
  calc m * share
      ≤ m * (scale * (share / scale) + scale) := by
        refine Nat.mul_le_mul_left _ ?_
        have := Nat.lt_mul_div_succ share hscale
        rw [Nat.mul_add, Nat.mul_one] at this
        omega
    _ = scale * (share / scale * m) + scale * m := by ring
    _ ≤ scale * (bps * (share / scale * m / bps) + (bps - 1)) + scale * m :=
        Nat.add_le_add_right (Nat.mul_le_mul_left _ hdiv) _
    _ = scale * bps * (share / scale * m / bps) + scale * (m + (bps - 1)) := by ring

/-- A truncated gain of `x + y` is that of `x` and some more, of at most `y` and one unit. -/
lemma gain_split (x y n : ℕ) : ∃ g, (x + y) / n = x / n + g ∧ n * g ≤ y + n := by
  have hge : x / n ≤ (x + y) / n := Nat.div_le_div_right (Nat.le_add_right x y)
  have hle : (x + y) / n ≤ x / n + y / n + 1 := by
    rcases Nat.eq_zero_or_pos n with rfl | hn
    · simp
    · rw [Nat.add_div hn]
      split <;> omega
  refine ⟨(x + y) / n - x / n, by omega, ?_⟩
  calc n * ((x + y) / n - x / n)
      ≤ n * (y / n + 1) := Nat.mul_le_mul_left _ (by omega)
    _ = n * (y / n) + n := by ring
    _ ≤ y + n := Nat.add_le_add_right (Nat.mul_div_le _ _) _

end Moltbunker.Lib
