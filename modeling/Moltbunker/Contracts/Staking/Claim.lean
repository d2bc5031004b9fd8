import Moltbunker.Contracts.Staking.Proposal
import Moltbunker.Lib.SwapPop

/-!
# `BunkerStaking`: claiming rewards

`claimRewards` pays a part of the accrued reward at once and opens a vesting entry for the rest;
`claimVestedRewards` pays what has vested of every entry and removes the entries that are fully
released (a swap-and-pop loop); `getClaimableVested` is the view of the same amount.

Both loops subtract `releasedAmount` from the vested amount with a checked subtraction, so they
panic on an entry that released more than has vested. `claimVestedRewards_no_panic` and
`getClaimableVested_ok` say that this is the only way they can; `claimVestedRewards_exact` says what
a claim that returns pays and which entries it leaves.
-/

namespace Moltbunker.Contracts.Staking

open Lib Function

namespace Storage

/-! ## Claiming accrued rewards -/

/-- `claimRewards()` -/
def claimRewards (s : Storage) (m : Msg) : Exec Outcome := do
  let s ← s.updateReward m.timestamp m.sender
  revertIf ((s.providers m.sender).frozen = true) (.providerIsFrozen m.sender)
  let reward := s.rewards m.sender
  revertIf (reward = 0) .noRewardsToClaimError
  let product ← mulW 256 reward s.immediateReleaseBps
  let immediateAmount ← divC product bpsDenominator
  let vestedAmount ← subC reward immediateAmount
  let entries := s.vestedRewards m.sender
  return ({ s with
    rewards := update s.rewards m.sender 0
    vestedRewards := update s.vestedRewards m.sender
      (if vestedAmount > 0 then
        entries ++ [⟨.ofNat 128 vestedAmount, 0, .ofNat 48 m.timestamp⟩] else entries) },
    if immediateAmount > 0 then [.transfer m.sender immediateAmount] else [])

/-- The part of a reward that `claimRewards` pays at once. -/
def immediatePart (s : Storage) (reward : ℕ) : ℕ := reward * s.immediateReleaseBps / bpsDenominator

/-- The entries after a claim that leaves `vested` to vest from time `t` on. -/
def pushEntry (entries : List VestedReward) (t vested : ℕ) : List VestedReward :=
  if vested > 0 then entries ++ [⟨.ofNat 128 vested, 0, .ofNat 48 t⟩] else entries

/-! ## Claiming vested rewards -/

/-- One turn of the first loop of `claimVestedRewards`. -/
def claimEntry (s : Storage) (t : ℕ) (entry : VestedReward) : Exec (VestedReward × ℕ) := do
  let vested ← s.vestedAmount t entry
  let claimable ← subC vested entry.releasedAmount.toNat
  if claimable > 0 then
    let releasedAmount ← addB entry.releasedAmount (.ofNat 128 claimable)
    return ({ entry with releasedAmount := releasedAmount }, claimable)
  else
    return (entry, 0)

/-- `claimVestedRewards()` -/
def claimVestedRewards (s : Storage) (m : Msg) : Exec Outcome := do
  revertIf ((s.providers m.sender).frozen = true) (.providerIsFrozen m.sender)
  let (entries, totalClaimable) ←
    entryLoop (s.claimEntry m.timestamp) (s.vestedRewards m.sender) 0
  revertIf (totalClaimable = 0) .noVestedRewardsClaimable
  -- the second loop removes the entries that are fully released
  let compacted := swapPop (fun e => e.releasedAmount == e.totalAmount) entries
  return ({ s with vestedRewards := update s.vestedRewards m.sender compacted },
    [.transfer m.sender totalClaimable])

/-- One turn of the loop of `getClaimableVested`. -/
def viewEntry (s : Storage) (t : ℕ) (entry : VestedReward) : Exec (VestedReward × ℕ) := do
  let vested ← s.vestedAmount t entry
  let claimable ← subC vested entry.releasedAmount.toNat
  return (entry, claimable)

/-- `getClaimableVested(provider)` at time `t` -/
def getClaimableVested (s : Storage) (t : ℕ) (provider : Address) : Exec ℕ := do
  let (_, claimable) ← entryLoop (s.viewEntry t) (s.vestedRewards provider) 0
  return claimable

end Storage

/-- What an entry lets its provider claim. -/
def claimableValue (period t : ℕ) (entry : VestedReward) : ℕ :=
  vestedValue period t entry - entry.releasedAmount.toNat

/-- An entry after a claim: everything vested is released. -/
def claimedEntry (period t : ℕ) (entry : VestedReward) : VestedReward :=
  { entry with releasedAmount := .ofNat 128 (vestedValue period t entry) }

lemma claimedEntry_releasedAmount (period t : ℕ) (entry : VestedReward) :
    (claimedEntry period t entry).releasedAmount.toNat = vestedValue period t entry :=
  toNat_ofNat_eq_iff.mpr ((vestedValue_le_total period t entry).trans_lt entry.totalAmount.isLt)

namespace Storage

variable {s : Storage} {t : ℕ} {entry : VestedReward}

lemma claimEntry_eq_ok {r : VestedReward × ℕ} (h : s.claimEntry t entry = .ok r) :
    r = (claimedEntry s.vestingPeriod t entry, claimableValue s.vestingPeriod t entry) ∧
      entry.releasedAmount.toNat ≤ vestedValue s.vestingPeriod t entry := by
  simp only [claimEntry, bind_eq_ok] at h
  obtain ⟨vested, hvested, claimable, hsub, h⟩ := h
  obtain rfl := vestedAmount_eq_ok hvested
  obtain ⟨hle, rfl⟩ := subC_eq_ok.mp hsub
  refine ⟨?_, hle⟩
  split at h
  · next hpos =>
    simp only [bind_eq_ok, pure_eq_ok] at h
    obtain ⟨released', hadd, rfl⟩ := h
    obtain ⟨-, hreleased⟩ := addB_eq_ok hadd
    have hfit : vestedValue s.vestingPeriod t entry - entry.releasedAmount.toNat < 2 ^ 128 :=
      (Nat.sub_le _ _).trans_lt
        ((vestedValue_le_total _ t entry).trans_lt entry.totalAmount.isLt)
    rw [toNat_ofNat_eq_iff.mpr hfit, Nat.add_sub_cancel' hle] at hreleased
    unfold claimedEntry claimableValue
    rw [← hreleased, BitVec.ofNat_toNat, BitVec.setWidth_eq]
  · next hpos =>
    have heq : entry.releasedAmount.toNat = vestedValue s.vestingPeriod t entry := by omega
    unfold claimedEntry claimableValue
    rw [← pure_eq_ok.mp h, ← heq, BitVec.ofNat_toNat, BitVec.setWidth_eq, Nat.sub_self]

lemma claimEntry_ok (h : s.vestedAmount t entry = .ok (vestedValue s.vestingPeriod t entry))
    (hle : entry.releasedAmount.toNat ≤ vestedValue s.vestingPeriod t entry) :
    s.claimEntry t entry =
      .ok (claimedEntry s.vestingPeriod t entry, claimableValue s.vestingPeriod t entry) := by
  have hsub : (subC (vestedValue s.vestingPeriod t entry) entry.releasedAmount.toNat : Exec ℕ) =
      .ok (claimableValue s.vestingPeriod t entry) := subC_ok hle
  have hfit : vestedValue s.vestingPeriod t entry < 2 ^ 128 :=
    (vestedValue_le_total _ t entry).trans_lt entry.totalAmount.isLt
  have hcast : (BitVec.ofNat 128 (claimableValue s.vestingPeriod t entry)).toNat =
      claimableValue s.vestingPeriod t entry :=
    toNat_ofNat_eq_iff.mpr ((Nat.sub_le _ _).trans_lt hfit)
  have hsum : entry.releasedAmount.toNat + claimableValue s.vestingPeriod t entry =
      vestedValue s.vestingPeriod t entry := Nat.add_sub_cancel' hle
  -- the panic-free run returns something, and `claimEntry_eq_ok` says what
  have hreturns : ∃ r, s.claimEntry t entry = .ok r := by
    unfold claimEntry
    rw [h, ok_bind, hsub, ok_bind]
    split
    · rw [addB_ok (by rw [hcast, hsum]; exact hfit), ok_bind]
      exact ⟨_, rfl⟩
    · exact ⟨_, rfl⟩
  obtain ⟨r, hr⟩ := hreturns
  rw [hr, (claimEntry_eq_ok hr).1]

/-- What a provider could claim of all entries together. -/
def claimableTotal (s : Storage) (t : ℕ) (p : Address) : ℕ :=
  ((s.vestedRewards p).map (claimableValue s.vestingPeriod t)).sum

/-- The entries of a provider after a claim: everything vested is released, fully released
entries are removed. -/
def entriesAfterClaim (s : Storage) (t : ℕ) (p : Address) : List VestedReward :=
  swapPop (fun e => e.releasedAmount == e.totalAmount)
    ((s.vestedRewards p).map (claimedEntry s.vestingPeriod t))

/-- **What `claimVestedRewards` did.** -/
theorem claimVestedRewards_eq_ok {m : Msg} {r : Outcome} (h : s.claimVestedRewards m = .ok r) :
    (∀ e ∈ s.vestedRewards m.sender,
        e.releasedAmount.toNat ≤ vestedValue s.vestingPeriod m.timestamp e) ∧
      r = ({ s with
        vestedRewards := update s.vestedRewards m.sender
          (s.entriesAfterClaim m.timestamp m.sender) },
        [.transfer m.sender (s.claimableTotal m.timestamp m.sender)]) := by
  simp only [claimVestedRewards, bind_eq_ok, revertIf_eq_ok, pure_eq_ok] at h
  obtain ⟨_, -, x, hx, _, -, rfl⟩ := h
  obtain ⟨rfl, hle⟩ := entryLoop_eq_ok (fun e r => claimEntry_eq_ok) hx
  refine ⟨hle, ?_⟩
  simp [entriesAfterClaim, claimableTotal]

/-- **`claimVestedRewards` does not panic** on entries that released at most what has vested, began
in the past, and together fit a word. -/
theorem claimVestedRewards_no_panic {m : Msg} (ht : m.timestamp < timestampBound)
    (hstart : ∀ e ∈ s.vestedRewards m.sender, e.vestingStart.toNat ≤ m.timestamp)
    (hle : ∀ e ∈ s.vestedRewards m.sender,
      e.releasedAmount.toNat ≤ vestedValue s.vestingPeriod m.timestamp e)
    (hsum : s.claimableTotal m.timestamp m.sender < 2 ^ 256) :
    s.claimVestedRewards m ≠ .error .panic := by
  have hturn : ∀ e ∈ s.vestedRewards m.sender, s.claimEntry m.timestamp e =
      .ok (claimedEntry s.vestingPeriod m.timestamp e,
        claimableValue s.vestingPeriod m.timestamp e) :=
    fun e he => claimEntry_ok (vestedAmount_ok (hstart e he) ht) (hle e he)
  have hloop := entryLoop_ok hturn (by rw [Nat.zero_add]; exact hsum)
  unfold claimVestedRewards revertIf
  split
  · simp
  · rw [ok_bind, hloop, ok_bind]
    dsimp only
    split <;> simp

/-- **A claim pays exactly what is due and loses no entry.** It pays what has vested of every entry
and was not released, and keeps, in some order, the entries with all that has vested released but
for those that are then fully released. The loop that removes these ends for every list. -/
theorem claimVestedRewards_exact {m : Msg} {r : Outcome} (h : s.claimVestedRewards m = .ok r) :
    (∀ e ∈ s.vestedRewards m.sender,
        e.releasedAmount.toNat ≤ vestedValue s.vestingPeriod m.timestamp e) ∧
      r.2 = [.transfer m.sender ((s.vestedRewards m.sender).map fun e =>
        vestedValue s.vestingPeriod m.timestamp e - e.releasedAmount.toNat).sum] ∧
      (∀ e, (claimedEntry s.vestingPeriod m.timestamp e).releasedAmount.toNat =
        vestedValue s.vestingPeriod m.timestamp e) ∧
      (r.1.vestedRewards m.sender : Multiset VestedReward) =
        (((s.vestedRewards m.sender).map (claimedEntry s.vestingPeriod m.timestamp)).filter
          fun e => e.releasedAmount != e.totalAmount : List VestedReward) ∧
      ∀ entries : List VestedReward,
        swapPopLoop (fun e => e.releasedAmount == e.totalAmount) entries.length entries 0 =
          some (swapPop (fun e => e.releasedAmount == e.totalAmount) entries) := by
  obtain ⟨hle, rfl⟩ := claimVestedRewards_eq_ok h
  refine ⟨hle, rfl, claimedEntry_releasedAmount _ _, ?_, ?_⟩
  · dsimp only
    rw [update_self, Multiset.coe_eq_coe]
    exact swapPop_perm _ _
  · intro entries
    exact swapPopLoop_eq [] entries le_rfl

/-- Two entries, of which one has vested in full and the other in half. -/
def twoEntries : Storage :=
  { Storage.deployed 1 2 with
    vestingPeriod := 10
    vestedRewards := fun _ => [⟨50, 0, 0⟩, ⟨8, 1, 10⟩] }

/-- The claim pays `50 + 3`, and the second entry is left. -/
theorem claimVestedRewards_exact_twoEntries :
    ∃ r, twoEntries.claimVestedRewards ⟨3, 15, 100⟩ = .ok r ∧ r.2 = [.transfer 3 53] ∧
      (r.1.vestedRewards 3 : Multiset VestedReward) = ([⟨8, 4, 10⟩] : List VestedReward) := by
  cases h : twoEntries.claimVestedRewards ⟨3, 15, 100⟩ with
  | ok r =>
    obtain ⟨-, hpaid, -, hkept, -⟩ := claimVestedRewards_exact h
    exact ⟨r, rfl, hpaid, hkept⟩
  | error e =>
    have hok : (twoEntries.claimVestedRewards ⟨3, 15, 100⟩).isOk = true := by decide +kernel
    rw [h] at hok
    cases hok

lemma viewEntry_ok (h : s.vestedAmount t entry = .ok (vestedValue s.vestingPeriod t entry))
    (hle : entry.releasedAmount.toNat ≤ vestedValue s.vestingPeriod t entry) :
    s.viewEntry t entry = .ok (entry, claimableValue s.vestingPeriod t entry) := by
  have hsub : (subC (vestedValue s.vestingPeriod t entry) entry.releasedAmount.toNat : Exec ℕ) =
      .ok (claimableValue s.vestingPeriod t entry) := subC_ok hle
  unfold viewEntry
  rw [h, ok_bind, hsub]
  rfl

/-- **`getClaimableVested` returns** under the same conditions. -/
theorem getClaimableVested_ok {p : Address} (ht : t < timestampBound)
    (hstart : ∀ e ∈ s.vestedRewards p, e.vestingStart.toNat ≤ t)
    (hle : ∀ e ∈ s.vestedRewards p,
      e.releasedAmount.toNat ≤ vestedValue s.vestingPeriod t e)
    (hsum : s.claimableTotal t p < 2 ^ 256) :
    s.getClaimableVested t p = .ok (s.claimableTotal t p) := by
  have hturn : ∀ e ∈ s.vestedRewards p, s.viewEntry t e =
      .ok (id e, claimableValue s.vestingPeriod t e) :=
    fun e he => viewEntry_ok (vestedAmount_ok (hstart e he) ht) (hle e he)
  have hloop := entryLoop_ok hturn (by rw [Nat.zero_add]; exact hsum)
  unfold getClaimableVested
  rw [hloop, ok_bind, Nat.zero_add]
  rfl

end Storage

end Moltbunker.Contracts.Staking
