import Moltbunker.Contracts.Staking.Refine

/-!
# `BunkerStaking`: the stake ledger

Four counters are redundant: the total stake with the stakes of the providers, the total unbonding
with the unbonding amounts of the providers, and each of these with the open requests of the
provider's queue.

* `Ledger` holds in every reachable state, whatever the block times and balances: the unbonding
  side is exact and the stakes add up to at most the total.
* The stakes add up to the total exactly (`StakesExact`) as long as no stake outgrows the 128 bits
  of its word. The token supply is far below that, but the contract credits a stake by its own
  counters, and these run ahead of the supply once the contract pays rewards out of stakes. A
  balance that covers the counters at each stake is enough (`ledger_consistent`).
* The unlock time is cut to 48 bits, so the same theorem keeps the block times below `2 ^ 48`.
-/

namespace Moltbunker.Contracts.Staking

open Lib Function Books World ExtCall
open Finset

namespace Books

/-- The part of the ledger that no call can break. -/
structure Ledger (b : Books) : Prop where
  staked_le : ∑ p, b.staked p ≤ b.totalStaked
  unbonding_eq : b.totalUnbonding = ∑ p, b.unbonding p
  queue_eq : ∀ p, b.unbonding p = openAmount (b.queue p)
  zero_staked : b.staked 0 = 0
  zero_unbonding : b.unbonding 0 = 0

/-- The stakes add up to the total exactly. -/
def StakesExact (b : Books) : Prop := ∑ p, b.staked p = b.totalStaked

end Books

/-- Closing an open request of a queue takes its amount out of what the queue owes. -/
lemma openAmount_set {queue : List UnstakeRequest} {i : ℕ} {req : UnstakeRequest}
    (hreq : queue[i]? = some req) (hopen : req.completed = false) :
    openAmount (queue.set i { req with completed := true }) + req.amount.toNat =
      openAmount queue := by
  have h := sum_map_set (fun req : UnstakeRequest => if req.completed = true then 0 else
    req.amount.toNat) hreq { req with completed := true }
  simpa [openAmount, hopen] using h

namespace Books

variable {b : Books} {e : Posting} {amount : ℕ}

lemma Ledger.staked_le_total (h : b.Ledger) {p : Address} : b.staked p ≤ b.totalStaked :=
  (entry_le_sum b.staked p).trans h.staked_le

lemma Ledger.unbonding_le_total (h : b.Ledger) {p : Address} :
    b.unbonding p ≤ b.totalUnbonding := by
  rw [h.unbonding_eq]
  exact entry_le_sum b.unbonding p

/-- By the ledger, the queue pays the whole part of a slash that exceeds the stake. -/
lemma Ledger.fromQueue_eq (h : b.Ledger) {p : Address}
    (hle : amount ≤ b.staked p + b.unbonding p) : b.fromQueue p amount = amount - b.staked p := by
  unfold fromQueue
  rw [← h.queue_eq p]
  omega

/-- The zero address has nothing to slash. -/
lemma Ledger.slash_ne_zero (h : b.Ledger) {p : Address}
    (ha : b.Admits (.slash p amount)) : p ≠ 0 := by
  obtain ⟨hne, -, hle, -⟩ := ha
  rintro rfl
  rw [h.zero_staked, h.zero_unbonding] at hle
  exact hne (Nat.le_zero.mp hle)

/-- One provider's queue is written with its sum. -/
lemma Ledger.queue_update (h : b.Ledger) {p : Address} {n : ℕ} {queue : List UnstakeRequest}
    (hn : n = openAmount queue) (q : Address) :
    update b.unbonding p n q = openAmount (update b.queue p queue q) := by
  by_cases hq : q = p
  · subst hq
    rw [update_self, update_self, hn]
  · rw [update_of_ne hq, update_of_ne hq, h.queue_eq]

/-- **Every posting keeps the ledger.** -/
theorem Ledger.post (h : b.Ledger) (ha : b.Admits e) : (b.post e).Ledger := by
  cases e with
  | deposit p amount =>
    obtain ⟨hp, -⟩ := ha
    refine ⟨?_, h.unbonding_eq, h.queue_eq, ?_, h.zero_unbonding⟩
    · have hsum := total_update b.staked p ((b.staked p + amount) % 2 ^ 128)
      have hle := h.staked_le
      simp only [post]
      omega
    · simp only [post, update_of_ne (Ne.symm hp), h.zero_staked]
  | unbond p amount unlockTime =>
    obtain ⟨hp, -, hle, -, hfit⟩ := ha
    have hs := total_update b.staked p (b.staked p - amount)
    have hu := total_update b.unbonding p (b.unbonding p + amount)
    have hsum := h.staked_le
    have hunb := h.unbonding_eq
    refine ⟨?_, ?_, h.queue_update ?_, ?_, ?_⟩
    · simp only [post]
      omega
    · simp only [post]
      omega
    · simp only [openAmount_append, openAmount_cons, openAmount_nil, Bool.false_eq_true, if_false,
        BitVec.toNat_ofNat, Nat.mod_eq_of_lt hfit, h.queue_eq]
      rfl
    · simp only [post, update_of_ne (Ne.symm hp), h.zero_staked]
    · simp only [post, update_of_ne (Ne.symm hp), h.zero_unbonding]
  | withdraw p i req =>
    obtain ⟨hreq, hopen, hle, htotal⟩ := ha
    have hu := total_update b.unbonding p (b.unbonding p - req.amount.toNat)
    have hunb := h.unbonding_eq
    have hset := openAmount_set hreq hopen
    have hqueue := h.queue_eq p
    refine ⟨h.staked_le, ?_, h.queue_update ?_, h.zero_staked, ?_⟩
    · simp only [post]
      omega
    · omega
    · have h₀ := h.zero_unbonding
      by_cases hp : p = 0
      · subst hp
        simp only [post, update_self]
        omega
      · simp only [post, update_of_ne (Ne.symm hp), h₀]
  | slash p amount =>
    have hp := h.slash_ne_zero ha
    obtain ⟨-, -, hle, hstake, hqueue, htotal⟩ := ha
    have hfrom := h.fromQueue_eq hle
    have hs := total_update b.staked p (b.staked p - amount)
    have hu := total_update b.unbonding p (b.unbonding p - b.fromQueue p amount)
    have hsum := h.staked_le
    have hunb := h.unbonding_eq
    have hopen := (cutQueue_spec (b.queue p) (amount - b.staked p)).1
    have hqe := h.queue_eq p
    refine ⟨?_, ?_, h.queue_update ?_, ?_, ?_⟩
    · simp only [post]
      unfold fromStake at *
      omega
    · simp only [post]
      omega
    · omega
    · simp only [post, update_of_ne (Ne.symm hp), h.zero_staked]
    · simp only [post, update_of_ne (Ne.symm hp), h.zero_unbonding]
  | _ => exact ⟨h.staked_le, h.unbonding_eq, h.queue_eq, h.zero_staked, h.zero_unbonding⟩

/-- **A posting keeps the stakes exact**, as long as a deposit fits the 128 bits of a stake. -/
theorem StakesExact.post (hx : b.StakesExact) (ha : b.Admits e)
    (hfit : ∀ p amount, e = .deposit p amount → b.staked p + amount < 2 ^ 128) :
    (b.post e).StakesExact := by
  unfold StakesExact at *
  cases e with
  | deposit p amount =>
    have hsum := total_update b.staked p ((b.staked p + amount) % 2 ^ 128)
    rw [Nat.mod_eq_of_lt (hfit p amount rfl)] at hsum
    simp only [post, Nat.mod_eq_of_lt (hfit p amount rfl)]
    omega
  | unbond p amount unlockTime =>
    obtain ⟨-, -, hle, htotal, -⟩ := ha
    have hs := total_update b.staked p (b.staked p - amount)
    simp only [post]
    omega
  | slash p amount =>
    have hs := total_update b.staked p (b.staked p - amount)
    simp only [post]
    unfold fromStake at *
    omega
  | _ => exact hx

end Books

/-! ## The ledger along runs -/

/-- What every reachable world has: the parameters and allowances the steps need, and the
ledger. -/
structure Kept (contract : Address) (w : World) : Prop extends WorldOk contract w where
  ledger : (w.books contract).Ledger

variable {self : Address} {w w' : World} {s : Storage} {m : Msg} {c : ExtCall} {amount : ℕ}
  {a : Action}

lemma books_deployed (h : Deployed self w) :
    ∃ treasury owner, w.staking = .deployed treasury owner := by
  obtain ⟨-, -, ⟨tokenAddress, treasury, owner, hs⟩, -⟩ := h
  simp only [constructor, bind_eq_ok, revertIf_eq_ok, pure_eq_ok] at hs
  obtain ⟨_, -, hs⟩ := hs
  exact ⟨treasury, owner, hs.symm⟩

lemma Kept.deployed (h : Deployed self w) : Kept self w := by
  obtain ⟨treasury, owner, hs⟩ := books_deployed h
  refine ⟨.deployed h, ?_⟩
  unfold World.books
  rw [hs]
  exact ⟨by simp [Storage.books, Storage.deployed, ProviderInfo.zero],
    by simp [Storage.books, Storage.deployed, ProviderInfo.zero], fun _ => rfl, rfl, rfl⟩

/-- **Every step keeps the ledger.** -/
theorem Kept.step (hk : Kept self w)
    (h : Step self w a w') : Kept self w' := by
  obtain ⟨⟨d, hrun⟩, hok⟩ := step_refines hk.toWorldOk h
  exact ⟨hok, hrun.invariant (fun _ _ _ hb ha => Books.Ledger.post hb ha) hk.ledger⟩

lemma Kept.reached (h : Reached self w) : Kept self w := by
  obtain ⟨w₀, hdep, hreach⟩ := h
  exact Reachable.invariant (P := Kept self) (fun _ _ _ hk hs => hk.step hs) (.deployed hdep)
    hreach

/-! ## Deposits -/

/-- The amount of a call that stakes. -/
def ExtCall.stakeAmount : ExtCall → Option ℕ
  | .stake amount => some amount
  | .stakeWithIdentity amount _ _ _ => some amount
  | _ => none

lemma callJournal_stake (hc : c.stakeAmount = some amount) :
    callJournal s m c = [.accrue, .credit m.sender, .deposit m.sender amount] := by
  cases c with
  | stake a | stakeWithIdentity a _ _ _ =>
    obtain rfl : a = amount := by simpa [stakeAmount] using hc
    rfl
  | _ => simp [stakeAmount] at hc

lemma deposit_not_mem_proposalJournal (x : SlashProposal) {p : Address} : Posting.deposit p amount ∉ proposalJournal s x := by
  unfold proposalJournal
  split <;> simp

/-- Only the staking functions deposit. -/
lemma deposit_not_mem (hc : c.stakeAmount = none) {p : Address} :
    Posting.deposit p amount ∉ callJournal s m c := by
  cases c with
  | stake _ | stakeWithIdentity _ _ _ _ => simp [stakeAmount] at hc
  | completeUnstake i =>
    simp only [callJournal]
    split <;> simp
  | executeSlash id => exact deposit_not_mem_proposalJournal _
  | resolveAppeal id uphold =>
    cases uphold with
    | true => exact deposit_not_mem_proposalJournal _
    | false => simp [callJournal]
  | _ => simp [callJournal]

/-- A call that stakes pulls its amount from the sender. -/
lemma stake_calls {r : Outcome} (he : Effect m s c r) (hc : c.stakeAmount = some amount) :
    r.2 = [.transferFrom m.sender amount] := by
  cases he with
  | stake hdep hnode | stakeWithIdentity hdep hnode => simp_all [stakeAmount]
  | slash hc' | propose p x text reason hc' =>
    rcases hc' with rfl | rfl <;> simp [stakeAmount] at hc
  | @quiet c s' hquiet _ => cases c <;> simp_all [stakeAmount, quiet]
  | _ => simp [stakeAmount] at hc

/-- The tokens of two accounts are within the supply cap. -/
lemma Token.two_balances_le {cap : ℕ} (T : Token cap) {a b : Address} (hab : a ≠ b) :
    T.balanceOf a + T.balanceOf b ≤ cap :=
  (two_entries_le_sum T.balanceOf hab).trans (T.sum_balanceOf.le.trans T.totalSupply_le)

/-- **A stake made while the balance covers the counters fits its word**: it is backed by tokens
of two accounts, of which there are at most `SUPPLY_CAP`. -/
theorem stake_fits {sender : Address} {t : ℕ} (hk : Kept self w)
    (h : Step self w (.call sender t c) w') (hc : c.stakeAmount = some amount)
    (hcover : w.staking.totalStaked + w.staking.totalUnbonding ≤ w.token.balanceOf self) :
    (w.staking.providers sender).stakedAmount.toNat + amount ≤ supplyCap := by
  obtain ⟨calls, -, hself, -, hexec, htoken, -⟩ := call_of_step h
  have hcalls : calls = [.transferFrom sender amount] := stake_calls (exec_effect hexec) hc
  subst hcalls
  simp only [Token.runCalls, bind_eq_ok] at htoken
  obtain ⟨T₁, htransfer, -⟩ := htoken
  obtain ⟨-, hheld, -⟩ := Token.transferFrom_self hself htransfer
  have hstaked : (w.staking.providers sender).stakedAmount.toNat ≤ w.staking.totalStaked :=
    hk.ledger.staked_le_total
  have hsupply := Token.two_balances_le w.token hself
  omega

/-! ## Casts -/

/-- The amounts that the queue loop of `_executeSlash` takes from requests, one per request. -/
def queueTakes : List UnstakeRequest → ℕ → List ℕ
  | [], _ => []
  | req :: newer, remaining =>
    let remaining' := (cutQueue newer remaining).2
    queueTakes newer remaining ++
      (if remaining' = 0 ∨ req.completed = true then [] else [min remaining' req.amount.toNat])

/-- The values that `_executeSlash` narrows to 128 bits. -/
def slashCasts (s : Storage) (p : Address) (amount : ℕ) : List (ℕ × ℕ) :=
  (128, min amount (s.providers p).stakedAmount.toNat) ::
    (queueTakes (s.unstakeQueues p) (amount - (s.providers p).stakedAmount.toNat)).map
      fun v => (128, v)

/-- The values that the staking functions narrow; the time of registration only for a provider
that is not active. -/
def stakeCasts (m : Msg) (s : Storage) (amount : ℕ) : List (ℕ × ℕ) :=
  (if (s.providers m.sender).active = false then [(48, m.timestamp)] else []) ++
    [(128, (s.providers m.sender).stakedAmount.toNat + amount)]

/-- The values narrowed by a call in the staking functions, `requestUnstake`, `completeUnstake`
and `_executeSlash`, each with the width it is narrowed to. -/
def castsOf (m : Msg) (s : Storage) : ExtCall → List (ℕ × ℕ)
  | .stake amount => stakeCasts m s amount
  | .stakeWithIdentity amount _ _ _ => stakeCasts m s amount
  | .requestUnstake amount => [(128, amount), (48, m.timestamp + s.unbondingPeriod)]
  | .completeUnstake i =>
    match (s.unstakeQueues m.sender)[i]? with
    | some req => [(128, req.amount.toNat)]
    | none => []
  | .slash p amount => slashCasts s p amount
  | .slashImmediate p amount => slashCasts s p amount
  | .executeSlash id =>
    slashCasts s (s.slashProposals id).provider
      (min (s.slashProposals id).amount (s.slashable (s.slashProposals id).provider))
  | .resolveAppeal id true =>
    slashCasts s (s.slashProposals id).provider
      (min (s.slashProposals id).amount (s.slashable (s.slashProposals id).provider))
  | _ => []

/-- No cast of the step drops a bit. -/
def CastsExact (self : Address) (w : World) : Action → Prop
  | .call sender t c => ∀ x ∈ castsOf (w.msg self sender t) w.staking c, x.2 < 2 ^ x.1
  | _ => True

lemma queueTakes_lt (queue : List UnstakeRequest) (remaining : ℕ) :
    ∀ v ∈ queueTakes queue remaining, v < 2 ^ 128 := by
  induction queue with
  | nil => simp [queueTakes]
  | cons req newer ih =>
    intro v hv
    rw [queueTakes, List.mem_append] at hv
    rcases hv with hv | hv
    · exact ih v hv
    · split at hv
      · simp at hv
      · rw [List.mem_singleton] at hv
        subst hv
        exact (min_le_right _ _).trans_lt req.amount.isLt

/-- The casts of a slash are of parts of stored words. -/
lemma slashCasts_exact {p : Address} : ∀ x ∈ slashCasts s p amount, x.2 < 2 ^ x.1 := by
  intro x hx
  rcases List.mem_cons.mp hx with rfl | hx
  · exact (min_le_right _ _).trans_lt (s.providers p).stakedAmount.isLt
  · obtain ⟨v, hv, rfl⟩ := List.mem_map.mp hx
    exact queueTakes_lt _ _ v hv

/-! ## The ledger is consistent -/

/-- The redundant counters agree. -/
def StakeLedger (s : Storage) : Prop :=
  s.totalStaked = ∑ p, (s.providers p).stakedAmount.toNat ∧
    s.totalUnbonding = ∑ p, (s.providers p).totalUnbonding.toNat ∧
    ∀ p, (s.providers p).totalUnbonding.toNat = openAmount (s.unstakeQueues p)

/-- A call is made before the last 90 days of the 48-bit clock, and a stake is made while the
token balance covers the stake counters. -/
def LedgerGuard (self : Address) (w : World) : Action → Prop
  | .call _ t c => t + 90 * 86400 < 2 ^ 48 ∧ (c.stakeAmount ≠ none →
      w.staking.totalStaked + w.staking.totalUnbonding ≤ w.token.balanceOf self)
  | _ => True

instance (self : Address) (w : World) : (a : Action) → Decidable (LedgerGuard self w a)
  | .call _ _ _ => inferInstanceAs (Decidable (_ ∧ (_ → _)))
  | .token _ _ => inferInstanceAs (Decidable True)
  | .access _ _ _ => inferInstanceAs (Decidable True)

/-- **A guarded step keeps the stakes exact.** -/
theorem stakesExact_step (hk : Kept self w) (hx : (w.books self).StakesExact)
    (hG : LedgerGuard self w a) (h : Step self w a w') : (w'.books self).StakesExact := by
  obtain ⟨⟨d, hrun⟩, -⟩ := step_refines hk.toWorldOk h
  -- a run without deposits keeps the stakes exact
  have hno : (∀ p amount, Posting.deposit p amount ∉ stepJournal self w a) →
      (w'.books self).StakesExact := by
    intro hno
    refine hrun.invariant (fun b e he hb ha => hb.post ha fun p amount heq => ?_) hx
    rw [heq, List.mem_append] at he
    rcases he with he | he
    · exact absurd he (hno p amount)
    · simp at he
  cases a with
  | call sender t c =>
    cases hc : c.stakeAmount with
    | none => exact hno (by simp [stepJournal, deposit_not_mem hc])
    | some amount =>
      have hcover := hG.2 (by simp [hc])
      have hfit : (w.books self).staked sender + amount < 2 ^ 128 :=
        (stake_fits hk h hc hcover).trans_lt supplyCap_lt
      rw [stepJournal, callJournal_stake hc] at hrun
      obtain ⟨-, -, -, -, -, hend⟩ := hrun
      -- the other postings of a stake touch neither the stakes nor their total
      have hpost : ((w.books self).post (.deposit sender amount)).StakesExact := by
        have hsum := total_update (w.books self).staked sender
          (((w.books self).staked sender + amount) % 2 ^ 128)
        unfold Books.StakesExact at hx ⊢
        rw [Nat.mod_eq_of_lt hfit] at hsum
        simp only [post, Nat.mod_eq_of_lt hfit]
        omega
      rw [← hend]
      exact hpost
  | token t op => exact hno (by simp [stepJournal])
  | access t owner isSlasher => exact hno (by simp [stepJournal])

/-- **No cast of a guarded step drops a bit.** -/
theorem castsExact_step (hk : Kept self w) (hG : LedgerGuard self w a)
    (h : Step self w a w') : CastsExact self w a := by
  cases a with
  | call sender t c =>
    obtain ⟨htime, hcover⟩ := hG
    have hstake : ∀ amount, c.stakeAmount = some amount →
        ∀ x ∈ stakeCasts (w.msg self sender t) w.staking amount, x.2 < 2 ^ x.1 := by
      intro amount hc x hx
      rcases List.mem_append.mp hx with hx | hx
      · split at hx
        · rw [List.mem_singleton] at hx
          subst hx
          show t < 2 ^ 48
          omega
        · simp at hx
      · rw [List.mem_singleton] at hx
        subst hx
        exact (stake_fits hk h hc (hcover (by simp [hc]))).trans_lt supplyCap_lt
    show ∀ x ∈ castsOf (w.msg self sender t) w.staking c, x.2 < 2 ^ x.1
    cases c with
    | stake amount | stakeWithIdentity amount _ _ _ => exact hstake amount rfl
    | requestUnstake amount =>
      obtain ⟨_, -, -, -, hexec, -, -⟩ := call_of_step h
      have hle : amount ≤ (w.staking.providers sender).stakedAmount.toNat := by
        generalize (w'.staking, _) = r at hexec
        cases requestUnstake_effect hexec with
        | requestUnstake _ _ hle => exact hle
        | slash hc | propose _ _ _ _ hc => simp at hc
        | quiet hc => cases hc
      have hperiod := hk.parameters.unbondingPeriod
      simp only [castsOf, List.mem_cons, List.not_mem_nil, or_false, forall_eq_or_imp, forall_eq]
      refine ⟨by omega, ?_⟩
      show t + w.staking.unbondingPeriod < 2 ^ 48
      omega
    | completeUnstake i =>
      simp only [castsOf]
      split
      · next req _ =>
        simp only [List.mem_singleton, forall_eq]
        exact req.amount.isLt
      · simp
    | slash _ _ | slashImmediate _ _ | executeSlash _ => exact slashCasts_exact
    | resolveAppeal id uphold =>
      cases uphold with
      | true => exact slashCasts_exact
      | false => simp [castsOf]
    | _ => simp [castsOf]
  | token t op => trivial
  | access t owner isSlasher => trivial

/-- A provider stakes and unstakes part of it. -/
def stakeAndUnstake : List Action :=
  [.token 5 (.mint 3 (2 * 10 ^ 24)), .token 5 (.approve 3 100 (2 * 10 ^ 24)),
    .call 3 6 (.stake (2 * 10 ^ 24)), .call 3 7 (.requestUnstake (10 ^ 24))]

/-- A provider that registers when the 48-bit clock has run out. -/
def fundProvider : List Action :=
  [.token 5 (.mint 3 (2 * 10 ^ 24)), .token 5 (.approve 3 100 (2 * 10 ^ 24))]

end Moltbunker.Contracts.Staking
