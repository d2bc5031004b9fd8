import Moltbunker.Contracts.Staking.Effect
import Moltbunker.Lib.Registry

/-!
# `BunkerStaking`: node identities

`nodeIdToProvider` and the `nodeId` of the providers are a registry of names. `updateIdentity` moves
a provider from one identity to another. `stakeWithIdentity` only registers one, and it does so for
every provider that is not active, also for one that was deactivated and still has its old identity:
the old identity then belongs to a provider that no longer carries it (`stale_identity`).

The two maps stay paired exactly in the runs in which no provider with an identity registers
another one that way (`identity_paired_iff`).
-/

namespace Moltbunker.Contracts.Staking

open Lib Function

/-- The identities of the providers and the reverse map agree. The zero address is the reverse
map's value for an identity that nobody has. -/
def Identified (s : Storage) : Prop :=
  Paired s.nodeIdToProvider fun p => (s.providers p).nodeId

/-- The identity that a call registers, or zero. -/
def ExtCall.registers : ExtCall → Bytes32
  | .stakeWithIdentity _ nodeId _ _ => nodeId
  | _ => 0

/-- The condition on a step: a provider that is not active and registers with an identity has
none. -/
def IdentityGuard (w : World) : Action → Prop
  | .call sender _ c =>
    (w.staking.providers sender).active = false → c.registers ≠ 0 →
      (w.staking.providers sender).nodeId = 0
  | _ => True

instance (w : World) : (a : Action) → Decidable (IdentityGuard w a)
  | .call _ _ _ => inferInstanceAs (Decidable (_ → _ → _))
  | .token _ _ => inferInstanceAs (Decidable True)
  | .access _ _ _ => inferInstanceAs (Decidable True)

variable {w : World} {sender self : Address} {t : ℕ} {c : ExtCall} {s s₀ : Storage} {m : Msg}
  {r : Outcome}

/-- A write that keeps the provider's identity. -/
lemma Identified.update {s s' : Storage} (h : Identified s) {p : Address} {info' : ProviderInfo}
    (hclaims : s'.nodeIdToProvider = s.nodeIdToProvider)
    (hproviders : s'.providers = update s.providers p info')
    (hnode : info'.nodeId = (s.providers p).nodeId) : Identified s' := by
  refine h.congr hclaims fun q => ?_
  rw [hproviders]
  exact read_update_self ProviderInfo.nodeId hnode q

lemma Identified.slashes (h : Identified s) {p : Address} {amount : ℕ} {info' : ProviderInfo}
    (hslash : s₀.Slashes m p amount info' r) (hclaims : s₀.nodeIdToProvider = s.nodeIdToProvider)
    (hproviders : s₀.providers = s.providers) : Identified r.1 := by
  rw [hslash.storage]
  refine @Identified.update s _ h p info' hclaims ?_ ?_
  · rw [← hproviders]
    rfl
  · rw [← hproviders]
    exact hslash.nodeId

lemma Identified.applies (h : Identified s) {x : SlashProposal} (hr : s₀.Applies m x r)
    (hclaims : s₀.nodeIdToProvider = s.nodeIdToProvider) (hproviders : s₀.providers = s.providers) :
    Identified r.1 := by
  obtain ⟨-, ⟨-, rfl⟩ | ⟨info', hslash⟩⟩ := hr
  · exact h.congr hclaims fun q => congrArg ProviderInfo.nodeId (congrFun hproviders q)
  · exact h.slashes hslash hclaims hproviders

/-- **Exactly the calls that meet the condition keep the maps paired.** -/
theorem identified_effect_iff (h : Identified w.staking) (hsender : sender ≠ 0)
    (he : Effect (w.msg self sender t) w.staking c r) :
    Identified r.1 ↔ IdentityGuard w (.call sender t c) := by
  -- the calls that keep the maps paired and register nothing
  have hkeep : c.registers = 0 → Identified r.1 →
      (Identified r.1 ↔ IdentityGuard w (.call sender t c)) :=
    fun hc hr => iff_of_true hr fun _ hne => absurd hc hne
  cases he with
  | stake hdep hnode => exact hkeep rfl (h.update rfl rfl hnode)
  | @stakeWithIdentity amount nodeId region capabilities info' claims hdep hnode =>
    rcases hnode with ⟨hinactive, hne, hfree, hid, rfl⟩ | ⟨hzero, hid, rfl⟩
    · -- a registration: it keeps the maps paired exactly if the provider had no identity
      have hkey := h.register_iff hne hsender hfree
      have hstored : Identified (w.staking.afterStake (w.msg self sender t) amount info'
          (update w.staking.nodeIdToProvider nodeId sender)) ↔
          Paired (update w.staking.nodeIdToProvider nodeId sender)
            (update (fun p => (w.staking.providers p).nodeId) sender nodeId) := by
        rw [← hid, ← read_update ProviderInfo.nodeId]
        exact Iff.rfl
      exact hstored.trans (hkey.trans ⟨fun h _ _ => h, fun h => h hinactive hne⟩)
    · exact hkeep hzero (h.update rfl rfl hid)
  | @updateIdentity nodeId region capabilities claims hnode =>
    refine hkeep rfl ?_
    rcases hnode with ⟨-, hfree, rfl⟩ | ⟨hsame, rfl⟩
    · have hmove := h.move hsender hfree
      unfold Identified
      rw [read_update ProviderInfo.nodeId]
      exact hmove
    · exact h.update rfl rfl hsame
  | requestUnstake _ _ _ _ _ _ hnode | completeUnstake _ _ _ _ _ _ _ hnode =>
    exact hkeep rfl (h.update rfl rfl hnode)
  | slash hc _ _ _ hslash =>
    have hpaired := h.slashes hslash rfl rfl
    rcases hc with rfl | rfl <;> exact hkeep rfl hpaired
  | propose p amount text reason hc =>
    rcases hc with rfl | rfl <;> exact hkeep rfl h
  | executeSlash _ _ _ _ _ _ hr | uphold _ _ _ _ _ _ hr => exact hkeep rfl (h.applies hr rfl rfl)
  | @quiet c s' hc hquiet =>
    refine hkeep ?_ (h.congr hquiet.claims hquiet.nodeId)
    cases c with
    | stakeWithIdentity _ _ _ _ => cases hc
    | _ => rfl
  | _ => exact hkeep rfl h

/-- **Exactly the steps that meet the condition keep the maps paired.** -/
theorem identified_step_iff {w' : World} {a : Action} (h : Identified w.staking)
    (hstep : Step self w a w') : Identified w'.staking ↔ IdentityGuard w a := by
  rcases step_cases hstep with ⟨sender, t, c, calls, rfl, -, -, hzero, hexec, -, -⟩ |
    ⟨t, op, rfl, -, -, -, hw'⟩ | ⟨t, owner, isSlasher, rfl, -, rfl⟩
  · exact identified_effect_iff h hzero (exec_effect hexec)
  · rw [hw']
    exact iff_of_true h trivial
  · exact iff_of_true h trivial

/-- **Node identity is a bijection, exactly when** no provider of the run that has an identity
registers with another one. -/
theorem identity_paired_iff {self : Address} {w₀ : World} {l : List (Action × World)}
    (hdep : Deployed self w₀) (hl : Path (Step self) w₀ l) :
    StatesMeet (fun w => ∀ (n : Bytes32) (p : Address), n ≠ 0 → p ≠ 0 →
        (w.staking.nodeIdToProvider n = p ↔ (w.staking.providers p).nodeId = n)) w₀ l ↔
      StepsMeet IdentityGuard w₀ l := by
  refine hl.statesMeet_iff_stepsMeet (P := fun w => Identified w.staking) (I := fun _ => True)
    (fun _ _ _ _ _ => trivial) (fun w a w' _ hw h => identified_step_iff hw h) trivial ?_
  obtain ⟨-, -, ⟨tokenAddress, treasury, owner, hs⟩, -⟩ := hdep
  simp only [constructor, bind_eq_ok, pure_eq_ok] at hs
  obtain ⟨_, -, hs⟩ := hs
  rw [← hs]
  intro n p hn hp
  exact ⟨fun h => absurd h.symm hp, fun h => absurd h.symm hn⟩

/-- A provider registers with the identity `7`, and unstakes so much that it is deactivated. -/
def registerAndLeave : List Action :=
  [.token 0 (.mint 3 (2 * 10 ^ 24)), .token 0 (.approve 3 100 (2 * 10 ^ 24)),
    .call 3 0 (.stakeWithIdentity (10 ^ 24) 7 0 0), .call 3 1 (.requestUnstake 1)]

/-- It comes back, and then moves to another identity. -/
def returnAndMove : List Action :=
  [.call 3 2 (.stake (10 ^ 24)), .call 3 3 (.updateIdentity 8 0 0)]

theorem identity_paired_iff_returnAndMove :
    (World.fresh.trace 100 (registerAndLeave ++ returnAndMove)).length = 6 ∧
      StatesMeet (fun w => ∀ (n : Bytes32) (p : Address), n ≠ 0 → p ≠ 0 →
        (w.staking.nodeIdToProvider n = p ↔ (w.staking.providers p).nodeId = n)) World.fresh
          (World.fresh.trace 100 (registerAndLeave ++ returnAndMove)) :=
  ⟨by decide +kernel, (identity_paired_iff (World.fresh_deployed (by decide))
    (World.trace_path _)).mpr (by decide +kernel)⟩

/-- It comes back with another identity: the first one still belongs to it. -/
theorem stale_identity :
    ∃ w, Reached 100 w ∧ w.staking.nodeIdToProvider 7 = 3 ∧ (w.staking.providers 3).nodeId = 8 :=
  ⟨_, World.fresh_reached (by decide)
    (registerAndLeave ++ [.call 3 2 (.stakeWithIdentity (10 ^ 24) 8 0 0)]),
    by decide +kernel⟩

end Moltbunker.Contracts.Staking
