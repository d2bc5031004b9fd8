import Moltbunker.Contracts.Delegation.Model

/-!
# `BunkerDelegation`: the ledger

The contract keeps three accounts of the same tokens: one amount for each delegator, one total for
each provider and one total for all. A delegator may leave a provider and join another while older
unbonding requests are pending; the three stay in step (`Ledger.effect`), and the balance of the
contract covers them together with every open request. `delegation_ledger` states it for every
reachable state.
-/

namespace Moltbunker.Contracts.Delegation

open Lib Function
open Finset
open Chain (Step NoAllowance Deployed Reached)

/-- What a queue still owes: the amounts of its open requests. -/
def openAmount (queue : List UnbondingRequest) : ℕ :=
  (queue.map fun req => if req.completed = true then 0 else req.amount.toNat).sum

/-- What the delegator `d` has delegated to the provider `p`. -/
def Storage.delegatedTo (s : Storage) (p d : Address) : ℕ :=
  if (s.delegations d).active = true ∧ (s.delegations d).provider = p then
    (s.delegations d).amount.toNat else 0

/-- What all open requests are owed. -/
def Storage.unbonding (s : Storage) : ℕ := ∑ d, openAmount (s.unbondingQueues d)

/-- The accounts of the delegators, of the providers and of the contract are in step. -/
structure Ledger (s : Storage) : Prop where
  total_eq : s.totalDelegated = ∑ d, (s.delegations d).amount.toNat
  provider_eq : ∀ p, (s.providerConfigs p).totalDelegated.toNat = ∑ d, s.delegatedTo p d
  inactive : ∀ d, (s.delegations d).active = false → (s.delegations d).amount = 0

namespace Ledger

variable {s s' : Storage} {m : Msg}

/-- The totals of the providers add up to the amounts of the delegators. -/
lemma sum_providers (h : Ledger s) :
    ∑ p, (s.providerConfigs p).totalDelegated.toNat = ∑ d, (s.delegations d).amount.toNat := by
  simp only [h.provider_eq]
  rw [Finset.sum_comm]
  refine Finset.sum_congr rfl fun d _ => ?_
  by_cases hactive : (s.delegations d).active = true
  · simp [Storage.delegatedTo, hactive]
  · have hzero := h.inactive d (Bool.not_eq_true _ ▸ hactive)
    simp [Storage.delegatedTo, hactive, hzero]

/-- Only the amounts of the delegations and of the providers matter. -/
lemma congr (h : Ledger s) (htotal : s'.totalDelegated = s.totalDelegated)
    (hdelegations : s'.delegations = s.delegations)
    (hconfigs : ∀ p, (s'.providerConfigs p).totalDelegated =
      (s.providerConfigs p).totalDelegated) : Ledger s' := by
  refine ⟨?_, fun p => ?_, ?_⟩
  · rw [htotal, hdelegations]
    exact h.total_eq
  · rw [hconfigs, h.provider_eq]
    unfold Storage.delegatedTo
    rw [hdelegations]
  · rw [hdelegations]
    exact h.inactive

/-- A change of one delegation that the totals follow. Both sides are added up, so that a deposit
and a withdrawal are one case: the delegator has `old` with `provider` before and `new` after. -/
lemma update {d provider : Address} {info : DelegationInfo} {config : ProviderDelegationConfig}
    (old new : ℕ) (h : Ledger s)
    (hdelegations : s'.delegations = update s.delegations d info)
    (hconfigs : s'.providerConfigs = update s.providerConfigs provider config)
    (hold : (s.delegations d).amount.toNat = old) (hnew : info.amount.toNat = new)
    (hbefore : ∀ p, s.delegatedTo p d = if provider = p then old else 0)
    (hafter : ∀ p, s'.delegatedTo p d = if provider = p then new else 0)
    (htotal : s'.totalDelegated + old = s.totalDelegated + new)
    (hconfig : config.totalDelegated.toNat + old =
      (s.providerConfigs provider).totalDelegated.toNat + new)
    (hinactive : info.active = false → info.amount = 0) : Ledger s' := by
  refine ⟨?_, fun p => ?_, ?_⟩
  · have hsum := sum_update (fun i : DelegationInfo => i.amount.toNat) s.delegations d info
    have heq := h.total_eq
    rw [hdelegations]
    omega
  · have hothers : ∀ x, x ≠ d → s'.delegatedTo p x = s.delegatedTo p x := by
      intro x hx
      unfold Storage.delegatedTo
      rw [hdelegations, update_of_ne hx]
    have hsum := @sum_change_at Address _ _ (s.delegatedTo p) (s'.delegatedTo p) d hothers
    have heq := h.provider_eq p
    rw [hbefore, hafter] at hsum
    rw [hconfigs]
    by_cases hp : provider = p
    · subst hp
      rw [update_self]
      rw [if_pos rfl, if_pos rfl] at hsum
      omega
    · rw [update_of_ne (Ne.symm hp)]
      rw [if_neg hp, if_neg hp] at hsum
      omega
  · rw [hdelegations, forall_update_iff s.delegations fun _ i => i.active = false → i.amount = 0]
    exact ⟨hinactive, fun x _ => h.inactive x⟩

end Ledger

/-- A queue grows by one open request. -/
lemma unbonding_append {s s' : Storage} {d : Address} {amount : ℕ} {unlockTime : BitVec 48}
    (hqueues : s'.unbondingQueues = update s.unbondingQueues d
      (s.unbondingQueues d ++ [⟨.ofNat 128 amount, unlockTime, false⟩])) :
    s'.unbonding = s.unbonding + (BitVec.ofNat 128 amount).toNat := by
  have hsum := sum_update openAmount s.unbondingQueues d
    (s.unbondingQueues d ++ [⟨.ofNat 128 amount, unlockTime, false⟩])
  have happend : openAmount (s.unbondingQueues d ++ [⟨.ofNat 128 amount, unlockTime, false⟩]) =
      openAmount (s.unbondingQueues d) + (BitVec.ofNat 128 amount).toNat := by simp [openAmount]
  unfold Storage.unbonding
  rw [hqueues]
  omega

/-- An open request is completed. -/
lemma unbonding_set {s s' : Storage} {d : Address} {i : ℕ} {req : UnbondingRequest}
    (hreq : (s.unbondingQueues d)[i]? = some req) (hopen : req.completed = false)
    (hqueues : s'.unbondingQueues = update s.unbondingQueues d
      ((s.unbondingQueues d).set i { req with completed := true })) :
    s'.unbonding + req.amount.toNat = s.unbonding := by
  have hsum := sum_update openAmount s.unbondingQueues d
    ((s.unbondingQueues d).set i { req with completed := true })
  have hset : openAmount ((s.unbondingQueues d).set i { req with completed := true }) +
      req.amount.toNat = openAmount (s.unbondingQueues d) := by
    have h := sum_map_set (fun req : UnbondingRequest => if req.completed = true then 0 else
      req.amount.toNat) hreq { req with completed := true }
    simpa [openAmount, hopen] using h
  unfold Storage.unbonding
  rw [hqueues]
  omega

/-- What the contract owes: the delegations and the open requests. -/
def Storage.owed (s : Storage) : ℕ := s.totalDelegated + s.unbonding

/-- **What a call does to the ledger.** It keeps the accounts in step, and what the contract owes
changes by the tokens that the call moves. -/
theorem Ledger.effect {m : Msg} {s : Storage} {c : ExtCall} {r : Outcome} (h : Ledger s)
    (he : Effect m s c r)
    (hfits : ∀ amount, TokenCall.transferFrom m.sender amount ∈ r.2 → amount < 2 ^ 128) :
    Ledger r.1 ∧ r.1.owed + outflow r.2 = s.owed + inflow r.2 := by
  have hconfig : ∀ config : ProviderDelegationConfig,
      config.totalDelegated = (s.providerConfigs m.sender).totalDelegated →
      Ledger (s.setConfig m.sender config) := by
    intro config hconfig
    refine h.congr rfl rfl ?_
    rw [Storage.setConfig, forall_update_iff s.providerConfigs
      fun p c => c.totalDelegated = (s.providerConfigs p).totalDelegated]
    exact ⟨hconfig, fun _ _ => rfl⟩
  cases he with
  | scheduled _ _ | lowered _ | finalized _ _ | toggled => exact ⟨hconfig _ rfl, rfl⟩
  | @delegated provider amount _ delegatedTo hinactive hdelegatedTo =>
    have hamount : (BitVec.ofNat 128 amount).toNat = amount :=
      toNat_ofNat_eq_iff.mpr (hfits amount (List.mem_singleton.mpr rfl))
    have hzero := h.inactive m.sender hinactive
    rw [hamount] at hdelegatedTo
    refine ⟨h.update 0 amount rfl rfl (by rw [hzero]; rfl) hamount
      (fun p => ?_) (fun p => ?_) rfl hdelegatedTo nofun, ?_⟩
    · simp [Storage.delegatedTo, hinactive]
    · simp [Storage.delegatedTo, Nat.mod_eq_of_lt (hamount ▸ (BitVec.ofNat 128 amount).isLt)]
    · show s.totalDelegated + amount + s.unbonding + 0 =
        s.totalDelegated + s.unbonding + (amount + 0)
      omega
  | @undelegated amount left delegatedTo unlockTime hactive hleft hdelegatedTo htotal =>
    have hamount : (BitVec.ofNat 128 amount).toNat = amount := by
      refine toNat_ofNat_eq_iff.mpr (lt_of_le_of_lt ?_ (s.delegations m.sender).amount.isLt)
      omega
    refine ⟨h.update (s.delegations m.sender).amount.toNat left.toNat rfl rfl rfl rfl
      (fun p => ?_) (fun p => ?_) ?_ ?_ (fun hoff => ?_), ?_⟩
    · simp [Storage.delegatedTo, hactive]
    · by_cases hzero : left = 0
      · simp [Storage.delegatedTo, hzero]
      · have hactive' : (if left = 0 then false else (s.delegations m.sender).active) = true := by
          rw [if_neg hzero, hactive]
        simp only [Storage.delegatedTo, update_self, hactive', true_and]
    · show s.totalDelegated - amount + _ = _
      omega
    · show delegatedTo.toNat + _ = _
      omega
    · by_contra hne
      have hstill : (if left = 0 then false else (s.delegations m.sender).active) = true := by
        rw [if_neg hne, hactive]
      rw [hstill] at hoff
      cases hoff
    · unfold Storage.owed
      rw [unbonding_append rfl, hamount]
      show s.totalDelegated - amount + (s.unbonding + amount) + 0 =
        s.totalDelegated + s.unbonding + 0
      omega
  | @completed i req hreq hopen htime =>
    have hqueue := @unbonding_set s { s with
      unbondingQueues := Function.update s.unbondingQueues m.sender
        ((s.unbondingQueues m.sender).set i { req with completed := true }) }
      m.sender i req hreq hopen rfl
    refine ⟨h.congr rfl rfl fun _ => rfl, ?_⟩
    unfold Storage.owed
    rw [← hqueue]
    simp [TokenCall.inflow, TokenCall.outflow, Nat.add_assoc]
  | admin hc hdelegations hconfigs hqueues htotal hmax =>
    refine ⟨h.congr htotal hdelegations fun p => by rw [hconfigs], ?_⟩
    unfold Storage.owed Storage.unbonding
    rw [htotal, hqueues]
    rfl

/-! ## Along runs -/

variable {self : Address} {w w' : World} {a : Action}

/-- What every reachable world has. -/
structure Kept (contract : Address) (w : World) : Prop where
  noAllowance : NoAllowance contract w
  ledger : Ledger w.storage
  covered : w.storage.owed ≤ w.token.balanceOf contract

lemma Kept.deployed (h : Deployed contract self w) : Kept self w := by
  obtain ⟨stakingContract, owner, hs⟩ := storage_deployed h
  refine ⟨h.allowance, ?_, ?_⟩
  · rw [hs]
    refine ⟨?_, fun p => ?_, fun _ _ => rfl⟩
    · simp [Storage.deployed]
    · simp [Storage.deployed, Storage.delegatedTo]
  · have hzero : w.storage.owed = 0 := by
      rw [hs]
      simp [Storage.owed, Storage.unbonding, Storage.deployed, openAmount]
    rw [hzero]
    exact Nat.zero_le _

/-- Nobody can deposit more than there is. -/
lemma pull_fits {sender : Address} {calls : List TokenCall} {T T' : Token supplyCap} {amount : ℕ}
    (hself : sender ≠ self) (hpulls : ∀ holder v, .transferFrom holder v ∈ calls → holder ≠ self)
    (hmem : TokenCall.transferFrom sender amount ∈ calls)
    (h : Token.runCalls self calls T = .ok T') : amount < 2 ^ 128 := by
  induction calls generalizing T with
  | nil => cases hmem
  | cons c calls ih =>
    simp only [Token.runCalls, bind_eq_ok] at h
    obtain ⟨T₁, hcall, hrest⟩ := h
    rcases List.mem_cons.mp hmem with rfl | hmem
    · have hle := (Token.transferFrom_self hself hcall).2.1
      exact (hle.trans (T.balanceOf_le_cap sender)).trans_lt supplyCap_lt
    · exact ih (fun holder v hv => hpulls holder v (List.mem_cons_of_mem c hv)) hmem hrest

/-- **Every step keeps the ledger.** -/
theorem Kept.step (hw : Kept self w) (h : Step contract self w a w') : Kept self w' := by
  obtain ⟨hall, ⟨sender, t, c, calls, rfl, hself, hexec, htoken, hbal⟩ | ⟨-, hstorage, hbal⟩⟩ :=
    Chain.step_balance hw.noAllowance h
  · obtain ⟨hledger, howed⟩ := hw.ledger.effect (exec_effect hexec) fun amount hmem =>
      pull_fits hself (fun holder v hv => by rw [contract.pulls_sender hexec hv]; exact hself) hmem
        htoken
    refine ⟨hall, hledger, ?_⟩
    have hcovered := hw.covered
    dsimp only at howed
    omega
  · have hcovered := hw.covered.trans hbal
    rcases hstorage with hs | ⟨owner, hs⟩
    · rw [← hs] at hcovered
      exact ⟨hall, hs ▸ hw.ledger, hcovered⟩
    · refine ⟨hall, ?_, ?_⟩
      · rw [hs]
        exact hw.ledger.congr rfl rfl fun _ => rfl
      · rw [hs]
        exact hcovered

/-- **The delegation ledger.** In every reachable state the totals agree with the delegations, an
inactive delegation is empty, and the tokens of the contract cover the delegations and the open
requests. -/
theorem delegation_ledger (hw : Reached contract self w) :
    w.storage.totalDelegated = ∑ d, (w.storage.delegations d).amount.toNat ∧
    w.storage.totalDelegated = ∑ p, (w.storage.providerConfigs p).totalDelegated.toNat ∧
    (∀ p, (w.storage.providerConfigs p).totalDelegated.toNat =
      ∑ d, if (w.storage.delegations d).active = true ∧ (w.storage.delegations d).provider = p then
        (w.storage.delegations d).amount.toNat else 0) ∧
    (∀ d, (w.storage.delegations d).active = false → (w.storage.delegations d).amount = 0) ∧
    w.storage.totalDelegated + ∑ d, openAmount (w.storage.unbondingQueues d) ≤
      w.token.balanceOf self := by
  obtain ⟨w₀, hdep, hreach⟩ := hw
  have hkept : Kept self w :=
    Reachable.invariant (P := Kept self) (fun _ _ _ hw hs => hw.step hs) (.deployed hdep) hreach
  exact ⟨hkept.ledger.total_eq, hkept.ledger.total_eq.trans hkept.ledger.sum_providers.symm,
    hkept.ledger.provider_eq, hkept.ledger.inactive, hkept.covered⟩

/-- A fresh deployment at time `0`, without a staking contract and with owner `2`. -/
def fresh : World := ⟨0, .deployed 0 2, .empty supplyCap⟩

lemma fresh_deployed (h : self ≠ 0) : Deployed contract self fresh :=
  ⟨h, by decide, ⟨1, 0, 2, rfl⟩, fun _ => rfl⟩

/-- Account `3` delegates to the provider `5`, leaves in two parts and, with both requests pending,
delegates to the provider `6`. -/
def switched : List Action :=
  [.token 0 (.mint 3 1000), .token 0 (.approve 3 100 1000),
    .call 5 0 (.toggleAcceptDelegations true fun _ => true),
    .call 6 0 (.toggleAcceptDelegations true fun _ => true),
    .call 3 0 (.delegate 5 600 fun _ => true), .call 3 1 (.requestUndelegate 200),
    .call 3 2 (.requestUndelegate 400), .call 3 3 (.delegate 6 300 fun _ => true)]

/-- The world after it. -/
def afterSwitch : World := endState fresh (fresh.trace contract 100 switched)

theorem delegation_ledger_switched :
    (fresh.trace contract 100 switched).length = 8 ∧
      (afterSwitch.storage.providerConfigs 6).totalDelegated.toNat = 300 ∧
      afterSwitch.storage.totalDelegated + ∑ d, openAmount (afterSwitch.storage.unbondingQueues d) ≤
        afterSwitch.token.balanceOf 100 := by
  have hreached : Reached contract 100 afterSwitch :=
    (fresh_deployed (by decide)).reached contract 100
  obtain ⟨-, -, -, -, hcovered⟩ := delegation_ledger hreached
  exact ⟨by decide +kernel, by decide +kernel, hcovered⟩

end Moltbunker.Contracts.Delegation
