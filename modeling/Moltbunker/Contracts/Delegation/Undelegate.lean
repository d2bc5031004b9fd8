import Moltbunker.Contracts.Delegation.Ledger

/-!
# `BunkerDelegation`: when a delegator can leave

`MAX_UNBONDING_QUEUE` is documented as the maximum number of *pending* unbonding requests of a
delegator. The queue of a delegator never shrinks, though: `completeUndelegate` marks a request and
leaves it where it is, and `requestUndelegate` compares the length of the queue with the maximum.

* `requestUndelegate_ok` — in a state with the ledger and the bound on the unbonding period a
  delegator within its rights can undelegate as long as its queue has room;
* `undelegate_returns_iff` — in every reachable state, that is exactly when it can;
* `locked_after_completing` — a delegator without any pending request that can not;
* `completion_open` — what it has requested is paid when it is due.
-/

namespace Moltbunker.Contracts.Delegation

open Lib
open Chain (Step Deployed Reached)

/-- The requests of a queue that are not completed. -/
def pendingRequests (queue : List UnbondingRequest) : ℕ :=
  queue.countP fun req => !req.completed

/-- The delegator `d` may undelegate `amount`: it is active, the contract is not paused, it has
fewer than the maximum of pending requests and `amount` is part of its delegation. -/
structure Entitled (s : Storage) (d : Address) (amount : ℕ) : Prop where
  active : (s.delegations d).active = true
  unpaused : s.paused = false
  pending : pendingRequests (s.unbondingQueues d) < maxUnbondingQueue
  pos : 1 ≤ amount
  le : amount ≤ (s.delegations d).amount.toNat

instance (s : Storage) (d : Address) (amount : ℕ) : Decidable (Entitled s d amount) :=
  decidable_of_iff ((s.delegations d).active = true ∧ s.paused = false ∧
      pendingRequests (s.unbondingQueues d) < maxUnbondingQueue ∧ 1 ≤ amount ∧
      amount ≤ (s.delegations d).amount.toNat)
    ⟨fun h => ⟨h.1, h.2.1, h.2.2.1, h.2.2.2.1, h.2.2.2.2⟩,
      fun h => ⟨h.active, h.unpaused, h.pending, h.pos, h.le⟩⟩

/-! ## One state -/

variable {s : Storage}

/-- Part of a delegation is part of the total of its provider. -/
lemma Ledger.le_provider (h : Ledger s) {d : Address}
    (hactive : (s.delegations d).active = true) : (s.delegations d).amount.toNat ≤
    (s.providerConfigs (s.delegations d).provider).totalDelegated.toNat := by
  rw [h.provider_eq]
  have hterm : s.delegatedTo (s.delegations d).provider d = (s.delegations d).amount.toNat := by
    simp [Storage.delegatedTo, hactive]
  rw [← hterm]
  exact Finset.single_le_sum (fun _ _ => Nat.zero_le _) (Finset.mem_univ d)

/-- Part of a delegation is part of the total. -/
lemma Ledger.le_total (h : Ledger s) (d : Address) :
    (s.delegations d).amount.toNat ≤ s.totalDelegated := by
  rw [h.total_eq]
  exact Finset.single_le_sum (f := fun d => (s.delegations d).amount.toNat)
    (fun _ _ => Nat.zero_le _) (Finset.mem_univ d)

/-- The largest unbonding period that the owner can set. -/
def maxUnbondingPeriod : ℕ := 30 * 86400

/-- **A delegator within its rights leaves as long as its queue has room.** -/
theorem requestUndelegate_ok {m : Msg} {amount : ℕ} (hledger : Ledger s)
    (hperiod : s.unbondingPeriod ≤ maxUnbondingPeriod) (htime : m.timestamp < timestampBound)
    (h : Entitled s m.sender amount)
    (hroom : (s.unbondingQueues m.sender).length < maxUnbondingQueue) :
    ∃ s', s.requestUndelegate m amount = .ok (s', []) := by
  have hamount : (BitVec.ofNat 128 amount).toNat = amount :=
    toNat_ofNat_eq_iff.mpr (h.le.trans_lt (s.delegations m.sender).amount.isLt)
  have hleft := @subB_ok DelegationError 128 (s.delegations m.sender).amount (.ofNat 128 amount)
    (by rw [hamount]; exact h.le)
  have hto := @subB_ok DelegationError 128
    (s.providerConfigs (s.delegations m.sender).provider).totalDelegated (.ofNat 128 amount)
    (by rw [hamount]; exact h.le.trans (hledger.le_provider h.active))
  have htotal : (subC s.totalDelegated amount : Exec ℕ) = .ok (s.totalDelegated - amount) :=
    if_pos (h.le.trans (hledger.le_total m.sender))
  have hunlock : (addW 256 m.timestamp s.unbondingPeriod : Exec ℕ) =
      .ok (m.timestamp + s.unbondingPeriod) := by
    apply if_pos
    unfold timestampBound at htime
    unfold maxUnbondingPeriod at hperiod
    omega
  unfold Storage.requestUndelegate whenNotPaused
  rw [revertIf_neg (by simp [h.unpaused]), ok_bind, revertIf_neg (Nat.ne_of_gt h.pos), ok_bind,
    revertIf_neg (Nat.not_le.mpr hroom), ok_bind]
  dsimp only
  rw [revertIf_neg (by simp [h.active]), ok_bind, revertIf_neg (Nat.not_lt.mpr h.le), ok_bind,
    hleft, ok_bind, hto, ok_bind, htotal, ok_bind, hunlock, ok_bind]
  exact ⟨_, rfl⟩

/-- A full queue refuses every request. -/
lemma requestUndelegate_room {m : Msg} {amount : ℕ} {r : Outcome}
    (h : s.requestUndelegate m amount = .ok r) :
    (s.unbondingQueues m.sender).length < maxUnbondingQueue := by
  simp only [Storage.requestUndelegate, bind_eq_ok, revertIf_eq_ok] at h
  obtain ⟨_, -, _, -, _, hroom, -⟩ := h
  exact Nat.not_le.mp hroom

/-! ## Along runs -/

/-- A call keeps the unbonding period or sets one within its bound. -/
lemma exec_unbondingPeriod {m : Msg} {c : ExtCall} {r : Outcome}
    (h : exec m s c = .ok r) (hs : s.unbondingPeriod ≤ maxUnbondingPeriod) :
    r.1.unbondingPeriod ≤ maxUnbondingPeriod := by
  by_cases hset : ∃ newPeriod, c = .setUnbondingPeriod newPeriod
  · obtain ⟨newPeriod, rfl⟩ := hset
    simp only [exec, Storage.setUnbondingPeriod, Storage.adminWrite, bind_eq_ok, revertIf_eq_ok,
      pure_eq_ok, not_or, not_lt] at h
    obtain ⟨_, -, _, hbound, rfl⟩ := h
    exact hbound.2
  · have hsame : r.1.unbondingPeriod = s.unbondingPeriod := by
      rcases exec_effect h with _ | _ | _ | _ | _ | _ | _ | ⟨hc, -, -, -, -, -⟩
      all_goals try rfl
      -- the other calls of the owner write another field
      cases c with
      | setUnbondingPeriod newPeriod => exact (hset ⟨newPeriod, rfl⟩).elim
      | setStakingContract _ | setMaxRewardCutBps _ | pause | unpause =>
        have hr := adminWrite_eq_ok h
        simp only [Prod.mk.injEq] at hr
        rw [hr.1]
      | _ => cases hc
    rw [hsame]
    exact hs

variable {self : Address} {w w' : World}

/-- Every reachable state has the ledger, and its unbonding period is within the bound. -/
lemma reached_kept (hw : Reached contract self w) :
    Ledger w.storage ∧ w.storage.unbondingPeriod ≤ maxUnbondingPeriod := by
  obtain ⟨w₀, hdep, hreach⟩ := hw
  have hinit : Kept self w₀ ∧ w₀.storage.unbondingPeriod ≤ maxUnbondingPeriod := by
    refine ⟨.deployed hdep, ?_⟩
    obtain ⟨_, _, hs⟩ := storage_deployed hdep
    rw [hs]
    show 7 * 86400 ≤ maxUnbondingPeriod
    decide
  have hkept := Reachable.invariant
    (P := fun w => Kept self w ∧ w.storage.unbondingPeriod ≤ maxUnbondingPeriod)
    (fun w a w' hw hs => by
      refine ⟨hw.1.step hs, ?_⟩
      rcases Chain.step_cases hs with ⟨_, _, _, _, -, -, -, -, hexec, -, -⟩ |
        ⟨_, _, -, -, -, -, hw'⟩ | ⟨_, _, -, -, hw'⟩
      · exact exec_unbondingPeriod hexec hw.2
      · rw [hw']
        exact hw.2
      · rw [hw']
        exact hw.2) hinit hreach
  exact ⟨hkept.1.ledger, hkept.2⟩

/-- **When a delegator can leave.** In every reachable state, for every active delegator with fewer
than the maximum of pending requests, on the unpaused contract and for every part of its delegation:
`requestUndelegate` returns exactly when the delegator has made fewer than the maximum of requests
in all, pending or completed. -/
theorem undelegate_returns_iff {d : Address} {t amount : ℕ} (hw : Reached contract self w)
    (ht : w.Admits t) (h : Entitled w.storage d amount) :
    (∃ s', exec (w.msg self d t) w.storage (.requestUndelegate amount) = .ok (s', [])) ↔
      (w.storage.unbondingQueues d).length < maxUnbondingQueue := by
  obtain ⟨hledger, hperiod⟩ := reached_kept hw
  constructor
  · rintro ⟨s', hexec⟩
    exact @requestUndelegate_room _ (w.msg self d t) _ _ hexec
  · intro hroom
    exact @requestUndelegate_ok _ (w.msg self d t) _ hledger hperiod ht.2 h hroom

/-- **A request that is due is paid.** In every reachable state, paused or not, an open request whose
time has come can be completed: the call returns, and the contract has the tokens that it pays. -/
theorem completion_open {d : Address} {t i : ℕ} {req : UnbondingRequest}
    (hw : Reached contract self w) (hreq : (w.storage.unbondingQueues d)[i]? = some req)
    (hopen : req.completed = false) (htime : req.unlockTime.toNat ≤ t) :
    (∃ s', exec (w.msg self d t) w.storage (.completeUndelegate i) =
      .ok (s', [.transfer d req.amount.toNat])) ∧ req.amount.toNat ≤ w.token.balanceOf self := by
  constructor
  · simp only [exec, Storage.completeUndelegate, Chain.World.msg, hreq, hopen, revertIf,
      Nat.not_lt.mpr htime, Bool.false_eq_true, if_false]
    exact ⟨_, rfl⟩
  · obtain ⟨w₀, hdep, hreach⟩ := hw
    have hkept : Kept self w :=
      Reachable.invariant (P := Kept self) (fun _ _ _ hw hs => hw.step hs) (.deployed hdep) hreach
    -- the amount is part of what the contract owes, which its tokens cover
    have hqueue := @unbonding_set w.storage { w.storage with unbondingQueues := _ } d i req hreq
      hopen rfl
    have hcovered := hkept.covered
    unfold Storage.owed at hcovered
    omega

theorem completion_open_switched :
    (afterSwitch.storage.unbondingQueues 3)[0]? = some ⟨200, 604801, false⟩ ∧
      ∃ s', exec (afterSwitch.msg 100 3 604801) afterSwitch.storage (.completeUndelegate 0) =
        .ok (s', [.transfer 3 200]) := by
  have hreq : (afterSwitch.storage.unbondingQueues 3)[0]? = some ⟨200, 604801, false⟩ := by
    decide +kernel
  exact ⟨hreq, (completion_open ((fresh_deployed (by decide)).reached contract 100) hreq rfl
    (Nat.le_refl 604801)).1⟩

/-! ## Requests and completions -/

/-- Account `3` delegates `1000` to the provider `5`. -/
def delegating : List Action :=
  [.token 0 (.mint 3 1000), .token 0 (.approve 3 100 1000),
    .call 5 0 (.toggleAcceptDelegations true fun _ => true),
    .call 3 0 (.delegate 5 1000 fun _ => true)]

/-- It undelegates `n` times one token, and a week later completes all of these requests. -/
def cycles (n : ℕ) : List Action :=
  delegating ++ List.replicate n (.call 3 1 (.requestUndelegate 1)) ++
    (List.range n).map fun i => .call 3 604801 (.completeUndelegate i)

/-- The world after it. -/
def afterCycles (n : ℕ) : World := endState fresh (fresh.trace contract 100 (cycles n))

lemma afterCycles_reached (n : ℕ) : Reached contract 100 (afterCycles n) :=
  (fresh_deployed (by decide)).reached contract 100

/-- With two completed requests the delegator can leave with the rest. -/
theorem undelegate_returns_iff_two :
    Entitled (afterCycles 2).storage 3 998 ∧
      ∃ s', exec ((afterCycles 2).msg 100 3 604801) (afterCycles 2).storage
        (.requestUndelegate 998) = .ok (s', []) := by
  have hentitled : Entitled (afterCycles 2).storage 3 998 := by decide +kernel
  refine ⟨hentitled, ?_⟩
  apply (undelegate_returns_iff (afterCycles_reached 2) (by decide +kernel) hentitled).mpr
  decide +kernel

/-- **Locked in.** A delegator that has completed all of its twenty requests has no pending one, and
cannot undelegate a single token of the `980` that are left. -/
theorem locked_after_completing :
    Reached contract 100 (afterCycles 20) ∧ (afterCycles 20).Admits 604801 ∧
      Entitled (afterCycles 20).storage 3 1 ∧
      pendingRequests ((afterCycles 20).storage.unbondingQueues 3) = 0 ∧
      ((afterCycles 20).storage.delegations 3).amount.toNat = 980 ∧
      ∀ r, exec ((afterCycles 20).msg 100 3 604801) (afterCycles 20).storage
        (.requestUndelegate 1) ≠ .ok r := by
  refine ⟨afterCycles_reached 20, by decide +kernel, by decide +kernel, by decide +kernel,
    by decide +kernel, ?_⟩
  intro r hr
  have hroom := requestUndelegate_room hr
  revert hroom
  decide +kernel

end Moltbunker.Contracts.Delegation
