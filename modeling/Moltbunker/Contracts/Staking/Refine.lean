import Moltbunker.Contracts.Staking.Effect

/-!
# `BunkerStaking`: the contract keeps its books

Every call that returns does to the storage and to the token balance what its journal says
(`effect_refines`), and so every step of the world is a run of the accounting machine
(`step_refines`), and every run (`run_refines`). A posting `donate` closes each step: a transfer of
the contract to itself leaves its balance higher than the books expect, and other accounts may send
it tokens.
-/

namespace Moltbunker.Contracts.Staking

open Lib Function Books Storage

/-- A run of the accounting machine. -/
abbrev Journal : Books → List Posting → Books → Prop := Runs Books.Admits post

/-! ## One posting at a time -/

section Postings

variable {s : Storage} {m : Msg} {p : Address} {info' : ProviderInfo}

/-- The checkpoint is an accrual and a credit. -/
lemma journal_updated {t balance : ℕ} {l : List Posting} {b : Books}
    (h : Journal ((s.updated t p).books t balance) l b) :
    Journal (s.books t balance) (.accrue :: .credit p :: l) b := ⟨trivial, rfl, h⟩

/-- Right after its checkpoint an account has accrued nothing. -/
lemma updated_settled {t balance : ℕ} :
    ((s.updated t p).books t balance).Settled p where
  current := rfl
  credited hp := by simp [books, updated, hp]

variable {amount : ℕ}

/-- A slash is the posting `slash`. -/
lemma journal_slashes {r : Outcome} (hslash : s.Slashes m p amount info' r)
    (hsettled : (s.books m.timestamp m.balance).Settled p) :
    Journal (s.books m.timestamp m.balance) [.slash p amount]
      (r.1.books m.timestamp (m.balance + inflow r.2 - outflow r.2)) := by
  have hunb := hslash.totalUnbonding
  refine ⟨⟨hslash.amount_ne, hsettled, hslash.amount_le, hslash.fromActive_le, ?_,
    hslash.fromQueue_le⟩, ?_⟩
  · exact Nat.le_of_add_left_le hunb.le
  · have hunb' : info'.totalUnbonding.toNat = (s.providers p).totalUnbonding.toNat -
        min (amount - (s.providers p).stakedAmount.toNat) (openAmount (s.unstakeQueues p)) := by
      omega
    rw [hslash.inflow, hslash.outflow, hslash.storage, Nat.add_zero]
    simp only [books, afterSlash, post, amounts_update, hslash.stakedAmount, hunb']
    rfl

end Postings

/-! ## Calls -/

variable {s : Storage} {m : Msg} {r : Outcome} {self : Address} {w : World}

variable {c : ExtCall} {x : SlashProposal} {a : Action}

lemma callJournal_quiet (hc : c.quiet = true) : callJournal s m c = [] := by
  cases c with
  | _ => first | rfl | cases hc

/-- The postings of a call that slashes. -/
lemma callJournal_slash {p : Address}
    (h : slashTarget s c = some p) :
    ∃ amount, callJournal s m c = [.accrue, .credit p, .slash p amount] := by
  have hproposal : ∀ x, proposalTarget s x = some p →
      ∃ amount, proposalJournal s x = [.accrue, .credit p, .slash p amount] := by
    intro x hx
    unfold proposalTarget at hx
    split at hx
    · cases hx
    · next hne =>
      cases hx
      unfold proposalJournal
      rw [if_neg hne]
      exact ⟨_, rfl⟩
  cases c with
  | slash _ amount =>
    cases h
    exact ⟨amount, rfl⟩
  | slashImmediate _ amount =>
    cases h
    exact ⟨amount, rfl⟩
  | executeSlash id => exact hproposal _ h
  | resolveAppeal id uphold =>
    cases uphold with
    | true => exact hproposal _ h
    | false => cases h
  | _ => cases h

lemma Storage.Applies.noPull (hr : s.Applies m x r) (holder : Address) (v : ℕ) :
    TokenCall.transferFrom holder v ∉ r.2 := by
  obtain ⟨-, ⟨-, rfl⟩ | ⟨info', hslash⟩⟩ := hr
  · simp
  · exact hslash.noPull holder v

/-- The token calls of an immediate payment. -/
lemma immediate_calls (dst : Address) {amount : ℕ} :
    inflow (if amount > 0 then [.transfer dst amount] else []) = 0 ∧
      outflow (if amount > 0 then [.transfer dst amount] else []) = amount ∧
      ∀ holder v, TokenCall.transferFrom holder v ∉
        (if amount > 0 then [TokenCall.transfer dst amount] else []) := by
  split
  · simp [TokenCall.inflow, TokenCall.outflow]
  · next h => simp [Nat.eq_zero_of_not_pos h]

/-- An epoch that passed the liability check emits at most the unlocked balance per second. -/
lemma rate_le_of_liability {rate duration cap surplus : ℕ} (hcap : bpsDenominator ≤ cap)
    (hduration : duration ≠ 0) (h : rate * duration * cap / bpsDenominator ≤ surplus) :
    rate ≤ surplus := by
  refine le_trans ?_ h
  rw [Nat.le_div_iff_mul_le (by decide)]
  exact Nat.mul_le_mul (Nat.le_mul_of_pos_right _ (Nat.pos_of_ne_zero hduration)) hcap

/-- Applying a proposal follows the journal of the proposal; marking it changes no books. -/
lemma journal_applies {s₀ : Storage} (hr : s₀.Applies m x r)
    (hbooks : ∀ t b, s₀.books t b = s.books t b)
    (hslashable : s₀.slashable x.provider = s.slashable x.provider) :
    Journal (s.books m.timestamp m.balance) (proposalJournal s x)
      (r.1.books m.timestamp (m.balance + inflow r.2 - outflow r.2)) := by
  obtain ⟨hupdate, ⟨h₀, rfl⟩ | ⟨info', hslash⟩⟩ := hr
  · rw [hslashable] at h₀
    rw [proposalJournal, if_pos h₀, ← hbooks]
    exact journal_updated rfl
  · have hne : min x.amount (s.slashable x.provider) ≠ 0 := by
      rw [← hslashable]
      exact hslash.amount_ne
    rw [proposalJournal, if_neg hne, ← hbooks, ← hslashable]
    exact journal_updated (journal_slashes hslash updated_settled)

/-- **A call keeps its books.** The storage and the balance change as the journal says, and the
call pulls tokens from its sender only. -/
theorem effect_refines (hparam : Parameters s) (hcap : m.balance ≤ supplyCap)
    (hsender : m.sender ≠ 0) (he : Effect m s c r) :
    Journal (s.books m.timestamp m.balance) (callJournal s m c)
        (r.1.books m.timestamp (m.balance + inflow r.2 - outflow r.2)) ∧
      ∀ holder v, TokenCall.transferFrom holder v ∈ r.2 → holder = m.sender := by
  cases he with
  | stake hdep hnode | stakeWithIdentity hdep hnode =>
    refine ⟨journal_updated ⟨⟨hsender, updated_settled⟩, ?_⟩, by simp⟩
    simp only [books, afterStake, updated, post, amounts_update, hdep.stakedAmount,
      hdep.totalUnbonding, BitVec.toNat_ofNat, update_eq_self]
    rfl
  | @updateIdentity nodeId region capabilities claims hnode =>
    have hbooks := books_modifyProvider s m.sender (f := fun i => { i with
      nodeId := nodeId
      region := region
      capabilities := capabilities }) (fun _ => rfl) (fun _ => rfl) m.timestamp m.balance
    exact ⟨hbooks.symm, by simp⟩
  | requestUnstake hupdate hne hle htotal hstaked hunbonding hnode =>
    refine ⟨journal_updated ⟨⟨hsender, updated_settled, hle, htotal,
      hle.trans_lt (s.providers m.sender).stakedAmount.isLt⟩, ?_⟩, by simp⟩
    simp only [books, updated, post, amounts_update, hstaked, hunbonding]
    rfl
  | completeUnstake hreq hopen htime hle htotal hstaked hunbonding hnode =>
    refine ⟨?_, by simp⟩
    simp only [callJournal, hreq]
    refine ⟨⟨hreq, hopen, hle, htotal⟩, ?_⟩
    simp only [books, post, amounts_update, hstaked, hunbonding, update_eq_self]
    rfl
  | slash hc hrole henabled hupdate hslash =>
    refine ⟨?_, fun holder v hmem => absurd hmem (hslash.noPull holder v)⟩
    rcases hc with rfl | rfl
    all_goals exact journal_updated (journal_slashes hslash updated_settled)
  | propose p amount text reason hc =>
    refine ⟨?_, by simp⟩
    rcases hc with rfl | rfl <;> rfl
  | executeSlash _ _ _ _ _ _ hr | uphold _ _ _ _ _ _ hr =>
    exact ⟨journal_applies hr (fun _ _ => rfl) rfl,
      fun holder v hmem => absurd hmem (hr.noPull holder v)⟩
  | appealSlash _ _ _ _ _ | dismiss _ _ _ _ _ => exact ⟨rfl, by simp⟩
  | claimRewards hupdate hne hle =>
    obtain ⟨hin, hout, hpull⟩ := immediate_calls m.sender
    refine ⟨journal_updated ⟨hle, ?_⟩, fun holder v hmem => absurd hmem (hpull holder v)⟩
    rw [hin, hout]
    rfl
  | claimVestedRewards hle => exact ⟨⟨hle, rfl⟩, by simp⟩
  | notifyRewardAmount howner hupdate hduration hliability =>
    have hrate := rate_le_of_liability hparam.multiplierCap hduration hliability
    refine ⟨⟨trivial, ⟨Nat.le_add_right _ _, (hrate.trans (Nat.sub_le _ _)).trans hcap⟩, ?_⟩,
      by simp⟩
    rfl
  | setVestingParams _ | setTierMinStake _ | setTierRewardMultiplier _ _ _ =>
    exact ⟨⟨trivial, rfl⟩, by simp⟩
  | quiet hc hquiet =>
    rw [callJournal_quiet hc]
    exact ⟨(hquiet.books _ _).symm, by simp⟩

/-! ## Steps and runs of the world -/

/-- The postings of a step, up to the donation that closes it. -/
def stepJournal (self : Address) (w : World) : Action → List Posting
  | .call sender t c => .tick t :: callJournal w.staking (w.msg self sender t) c
  | .token t _ => [.tick t]
  | .access t _ _ => [.tick t]

/-- **A condition on the postings of a step** is a condition on its slash, its claim, its epoch and
its settings, if it holds of all other postings. -/
theorem labels_step {G : Books → Posting → Prop} (hord : ∀ b e, e.ordinary = true → G b e)
    (hslash : ∀ sender t c p amount, a = .call sender t c → slashTarget w.staking c = some p →
      G ((((w.books self).post (.tick t)).post .accrue).post (.credit p)) (.slash p amount))
    (hclaim : ∀ sender t immediate, a = .call sender t .claimRewards →
      G ((((w.books self).post (.tick t)).post .accrue).post (.credit sender))
        (.claim sender immediate))
    (hepoch : ∀ sender t reward, a = .call sender t (.notifyRewardAmount reward) →
      G (((w.books self).post (.tick t)).post .accrue)
        (.startEpoch (w.staking.notifiedRate t reward) (t + w.staking.rewardsDuration)))
    (hretune : ∀ sender t c period tiers, a = .call sender t c →
      retuned w.staking c = some (period, tiers) →
        G ((w.books self).post (.tick t)) (.retune period tiers)) (d : ℕ) :
    LabelsMeet G post (w.books self) (stepJournal self w a ++ [.donate d]) := by
  have hdonate : ∀ b, LabelsMeet G post b [.donate d] := fun b => ⟨hord b _ rfl, trivial⟩
  cases a with
  | token t op => exact ⟨hord _ _ rfl, hdonate _⟩
  | access t owner isSlasher => exact ⟨hord _ _ rfl, hdonate _⟩
  | call sender t c =>
    refine ⟨hord _ _ rfl, ?_⟩
    have hproposal : ∀ x, (∀ p, proposalTarget w.staking x = some p →
        slashTarget w.staking c = some p) →
        LabelsMeet G post ((w.books self).post (.tick t))
          (proposalJournal w.staking x ++ [.donate d]) := by
      intro x hx
      unfold proposalJournal
      by_cases hzero : min x.amount (w.staking.slashable x.provider) = 0
      · rw [if_pos hzero]
        exact ⟨hord _ _ rfl, hord _ _ rfl, hdonate _⟩
      · rw [if_neg hzero]
        refine ⟨hord _ _ rfl, hord _ _ rfl, hslash sender t c _ _ rfl (hx _ ?_), hdonate _⟩
        unfold proposalTarget
        rw [if_neg hzero]
    cases c with
    | stake amount | stakeWithIdentity amount _ _ _ | requestUnstake amount =>
      exact ⟨hord _ _ rfl, hord _ _ rfl, hord _ _ rfl, hdonate _⟩
    | completeUnstake i =>
      simp only [callJournal]
      split
      · exact ⟨hord _ _ rfl, hdonate _⟩
      · exact hdonate _
    | slash p amount | slashImmediate p amount =>
      exact ⟨hord _ _ rfl, hord _ _ rfl, hslash _ _ _ _ _ rfl rfl, hdonate _⟩
    | executeSlash id => exact hproposal _ fun p hp => hp
    | resolveAppeal id uphold =>
      cases uphold with
      | true => exact hproposal _ fun p hp => hp
      | false => exact hdonate _
    | claimRewards => exact ⟨hord _ _ rfl, hord _ _ rfl, hclaim _ _ _ rfl, hdonate _⟩
    | claimVestedRewards => exact ⟨hord _ _ rfl, hdonate _⟩
    | notifyRewardAmount reward => exact ⟨hord _ _ rfl, hepoch _ _ _ rfl, hdonate _⟩
    | setVestingParams period bps | setTierMinStake tier minStake
    | setTierRewardMultiplier tier bps => exact ⟨hretune _ _ _ _ _ rfl rfl, hdonate _⟩
    | _ => exact hdonate _

/-- What a step needs besides the books: bounded parameters, and no approval by the contract. -/
structure WorldOk (contract : Address) (w : World) : Prop where
  parameters : Parameters w.staking
  allowance : ∀ spender, w.token.allowance contract spender = 0

lemma WorldOk.deployed (h : Deployed self w) : WorldOk self w := by
  obtain ⟨-, -, ⟨tokenAddress, treasury, owner, hs⟩, hall⟩ := h
  simp only [constructor, bind_eq_ok, revertIf_eq_ok, pure_eq_ok] at hs
  obtain ⟨_, hzero, hs⟩ := hs
  refine ⟨?_, hall⟩
  rw [← hs]
  exact Parameters.deployed fun h => hzero (.inr (.inl h))

/-- A growing balance is a donation. -/
lemma journal_donate {b b' : Books} (h : b' = { b with balance := b'.balance })
    (hle : b.balance ≤ b'.balance) : ∃ d, Journal b [.donate d] b' := by
  refine ⟨b'.balance - b.balance, trivial, ?_⟩
  rw [h]
  simp only [post, Nat.add_sub_cancel' hle]
  rfl

/-- **Every step of the contract is a run of the accounting machine**, and keeps what the next
step needs. -/
theorem step_refines {w' : World} (hok : WorldOk self w) (h : Step self w a w') :
    (∃ d, Journal (w.books self) (stepJournal self w a ++ [.donate d]) (w'.books self)) ∧
      WorldOk self w' := by
  rcases step_cases h with ⟨sender, t, c, calls, rfl, hadm, hself, hzero, hexec, htoken, rfl⟩ |
    ⟨t, op, rfl, hadm, hact, happly, hw'⟩ | ⟨t, owner, isSlasher, rfl, hadm, rfl⟩
  · have heff := exec_effect hexec
    obtain ⟨hrun, hpull⟩ := effect_refines hok.parameters (w.token.balanceOf_le_cap self) hzero heff
    obtain ⟨hbal, hall⟩ := Token.runCalls_balance
      (fun holder v hmem => by rw [hpull holder v hmem]; exact hself) htoken
    refine ⟨?_, hok.parameters.effect heff, fun spender => by rw [hall]; exact hok.allowance _⟩
    obtain ⟨d, hd⟩ : ∃ d, Journal
        (w'.staking.books w'.now (w.token.balanceOf self + inflow calls - outflow calls))
        [.donate d] (w'.books self) := by
      refine journal_donate rfl ?_
      show w.token.balanceOf self + inflow calls - outflow calls ≤ w'.token.balanceOf self
      omega
    exact ⟨d, Runs.append ⟨hadm, hrun⟩ hd⟩
  · obtain ⟨hbal, hall⟩ := Token.Op.apply_self hact hok.allowance happly
    rw [hw']
    obtain ⟨d, hd⟩ : ∃ d, Journal (w.staking.books t (w.token.balanceOf self)) [.donate d]
        (w.staking.books t (w'.token.balanceOf self)) := journal_donate rfl hbal
    exact ⟨⟨d, Runs.append ⟨hadm, rfl⟩ hd⟩, hok.parameters, hall⟩
  · exact ⟨⟨0, hadm, trivial, rfl⟩,
      hok.parameters.of_eq rfl rfl (fun _ => rfl) rfl rfl, hok.allowance⟩

/-- The postings of a run, each step closed by its donation. -/
def runJournal (self : Address) : World → List (Action × World) → List ℕ → List Posting
  | w, (a, w') :: l, d :: donations =>
    stepJournal self w a ++ [.donate d] ++ runJournal self w' l donations
  | _, _, _ => []

/-- **Every run of the contract is a run of the accounting machine.** -/
theorem run_refines {l : List (Action × World)} (hdep : Deployed self w)
    (hl : Path (Step self) w l) :
    ∃ donations, donations.length = l.length ∧
      Journal (w.books self) (runJournal self w l donations) ((endState w l).books self) := by
  have hok := WorldOk.deployed hdep
  clear hdep
  induction l generalizing w with
  | nil => exact ⟨[], rfl, rfl⟩
  | cons x l ih =>
    obtain ⟨⟨d, hstep⟩, hok'⟩ := step_refines hok hl.1
    obtain ⟨donations, hlength, hrest⟩ := ih hl.2 hok'
    exact ⟨d :: donations, congrArg (· + 1) hlength, hstep.append hrest⟩

theorem run_refines_slashEarly :
    let l := World.fresh.trace 100 slashEarly
    l.length = 9 ∧ ∃ donations, donations.length = l.length ∧
      Journal (World.fresh.books 100) (runJournal 100 World.fresh l donations)
        ((endState World.fresh l).books 100) :=
  ⟨by decide +kernel, run_refines (World.fresh_deployed (by decide)) (World.trace_path _)⟩

end Moltbunker.Contracts.Staking
