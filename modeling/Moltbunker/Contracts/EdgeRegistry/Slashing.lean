import Moltbunker.Contracts.EdgeRegistry.Appeal
import Moltbunker.Contracts.Staking.Slashing

/-!
# `BunkerEdgeRegistry`: executing a proposal

`BunkerStaking.executeSlash` cuts a proposed amount down to what the provider still has.
`executeEdgeSlash` passes the amount on as it was proposed, and `BunkerStaking.slash` refuses an
amount above the slashable balance. So a proposal of the registry is void as long as the balance is
smaller than the amount (`smaller_balance_voids_proposal`); `edge_slash_lands_iff` is the exact
condition under which it takes what it should.
-/

namespace Moltbunker.Contracts.EdgeRegistry

open Lib

/-! ## Proposed amounts -/

/-- No proposal has a zero amount. -/
def AmountsPositive (s : Storage) : Prop :=
  ∀ id, id < s.slashProposalCount → (s.slashProposals id).amount ≠ 0

lemma AmountsPositive.modifyProposal {s : Storage} (h : AmountsPositive s) (id : ℕ)
    {f : EdgeSlashProposal → EdgeSlashProposal} (hf : ∀ x, (f x).amount = x.amount) :
    AmountsPositive (s.modifyProposal id f) := by
  intro id' hid'
  have hamount : ((s.modifyProposal id f).slashProposals id').amount =
      (s.slashProposals id').amount := by
    unfold Storage.modifyProposal
    dsimp only
    rw [Function.update_apply]
    split
    · next heq => rw [heq, hf]
    · rfl
  rw [hamount]
  exact h id' hid'

lemma AmountsPositive.effect {s : Storage} {m : Msg} {c : ExtCall} {r : Outcome}
    (h : AmountsPositive s) (he : Effect m s c r) : AmountsPositive r.1 := by
  cases he with
  | propose hne =>
    intro id hid
    dsimp only at hid ⊢
    rw [Function.update_apply]
    split
    · exact hne
    · exact h id (by omega)
  | execute _ _ _ _ _ _ | appeal _ _ _ _ _ | uphold _ _ _ _ _ _ | dismiss _ _ _ _ _ =>
    exact h.modifyProposal _ fun _ => rfl
  | quiet _ hproposals hcount =>
    intro id hid
    rw [hproposals]
    exact h id (hcount ▸ hid)

lemma AmountsPositive.reached {self edge : Address} {y : System} (h : Reached self edge y) :
    AmountsPositive y.registry := by
  obtain ⟨y₀, hdep, hreach⟩ := h
  refine Reachable.invariant (P := fun y => AmountsPositive y.registry) ?_ ?_ hreach
  · intro y a y' hy hstep
    rcases step_cases hstep with ⟨b, -, -, hsame⟩ | ⟨sender, t, c, calls, -, ht, hexec, -⟩ |
      ⟨t, owner, isSlasher, -, -, -, hregistry⟩
    · rw [hsame]
      exact hy
    · exact hy.effect (exec_effect ht.2 hexec)
    · rw [hregistry]
      exact hy
  · intro id hid
    have hcount : y₀.registry.slashProposalCount = 0 := gate_deployed hdep
    omega

/-! ## When a proposal lands -/

/-- A proposal is due: it is unappealed and not yet executed, its window has elapsed, slashing is
enabled in both contracts, and the roles are set up. -/
structure Due (edge : Address) (y : System) (sender : Address) (t id : ℕ) : Prop where
  admits : y.world.Admits t
  proposed : id < y.registry.slashProposalCount
  unexecuted : (y.registry.slashProposals id).executed = false
  unappealed : (y.registry.slashProposals id).appealed = false
  elapsed : (y.registry.slashProposals id).proposedAt.toNat +
    (y.registry.slashProposals id).appealWindowSnapshot ≤ t
  enabled : y.registry.slashingEnabled = true
  enabledInStaking : y.world.staking.slashingEnabled = true
  slasher : y.registry.isSlasher sender = true
  registryIsSlasher : y.world.staking.isSlasher edge = true

instance (edge : Address) (y : System) (sender : Address) (t id : ℕ) :
    Decidable (Due edge y sender t id) :=
  decidable_of_iff (y.world.Admits t ∧ id < y.registry.slashProposalCount ∧
      (y.registry.slashProposals id).executed = false ∧
      (y.registry.slashProposals id).appealed = false ∧
      (y.registry.slashProposals id).proposedAt.toNat +
        (y.registry.slashProposals id).appealWindowSnapshot ≤ t ∧
      y.registry.slashingEnabled = true ∧ y.world.staking.slashingEnabled = true ∧
      y.registry.isSlasher sender = true ∧ y.world.staking.isSlasher edge = true)
    ⟨fun ⟨h₁, h₂, h₃, h₄, h₅, h₆, h₇, h₈, h₉⟩ => ⟨h₁, h₂, h₃, h₄, h₅, h₆, h₇, h₈, h₉⟩,
      fun ⟨h₁, h₂, h₃, h₄, h₅, h₆, h₇, h₈, h₉⟩ => ⟨h₁, h₂, h₃, h₄, h₅, h₆, h₇, h₈, h₉⟩⟩

section Landing

variable {self edge sender : Address} {y : System} {t id : ℕ}

/-- To execute a due proposal is to call `slash` with its amount. -/
lemma execute_step_iff (hdue : Due edge y sender t id) (hself : sender ≠ self)
    (hedge : sender ≠ edge) (hzero : sender ≠ 0) {w' : Staking.World} :
    (∃ s', Step self edge y (.call sender t (.executeEdgeSlash id)) ⟨w', s'⟩) ↔
      Staking.Step self y.world (.call edge t (.slash (y.registry.slashProposals id).provider
        (y.registry.slashProposals id).amount.toNat)) w' := by
  have hexec : exec (y.msg edge sender t) y.world.staking y.registry (.executeEdgeSlash id) =
      .ok (y.registry.modifyProposal id fun x => { x with executed := true },
        [⟨(y.registry.slashProposals id).provider,
          (y.registry.slashProposals id).amount.toNat⟩]) :=
    (Storage.executeEdgeSlash_eq_ok (m := y.msg edge sender t) hdue.admits.2).mpr
      ⟨hdue.slasher, hdue.enabled, hdue.proposed, hdue.unexecuted, hdue.unappealed, hdue.elapsed,
        rfl⟩
  constructor
  · rintro ⟨s', hstep⟩
    rcases step_cases hstep with ⟨_, e, -⟩ | ⟨_, _, _, calls, e, -, hexec', hslash⟩ |
      ⟨_, _, _, e, -⟩
    · cases e
    · cases e
      rw [hexec] at hexec'
      cases hexec'
      exact runSlashes_singleton.mp hslash
    · cases e
  · intro hslash
    exact ⟨_, step_call hdue.admits hself hedge hzero hexec (runSlashes_singleton.mpr hslash)⟩

/-- **A due proposal takes what it should iff its amount is still there**, and the tokens to hand
out are. -/
theorem edge_slash_lands_iff (hy : Reached self edge y) (hdue : Due edge y sender t id)
    (hself : sender ≠ self) (hedge : sender ≠ edge) (hzero : sender ≠ 0)
    (hcover : y.world.staking.totalStaked + y.world.staking.totalUnbonding ≤
      y.world.token.balanceOf self) :
    (∃ y', Step self edge y (.call sender t (.executeEdgeSlash id)) y' ∧
        y'.world.staking.slashable (y.registry.slashProposals id).provider +
          min (y.registry.slashProposals id).amount.toNat
            (y.world.staking.slashable (y.registry.slashProposals id).provider) =
          y.world.staking.slashable (y.registry.slashProposals id).provider) ↔
      (y.registry.slashProposals id).amount.toNat ≤
          y.world.staking.slashable (y.registry.slashProposals id).provider ∧
        ((y.registry.slashProposals id).amount.toNat +
            y.world.staking.unvestedTotal t (y.registry.slashProposals id).provider ≤
            y.world.token.balanceOf self ∨
          2 * (y.registry.slashProposals id).amount.toNat ≤
            y.world.staking.totalStaked + y.world.staking.totalUnbonding) := by
  have hsound : Staking.Sound self y.world := .reached hy.staking
  have hy' := hy
  obtain ⟨y₀, ⟨hne, hedge0, ⟨w₀, hdep, -⟩, -⟩, -⟩ := hy'
  have hamount : (y.registry.slashProposals id).amount.toNat ≠ 0 := by
    intro h
    exact AmountsPositive.reached hy id hdue.proposed (BitVec.eq_of_toNat_eq h)
  have hslash := Staking.slash_step_iff (p := (y.registry.slashProposals id).provider) hsound
    hdue.admits hdue.registryIsSlasher hdue.enabledInStaking hamount hcover hdep.1 hne hedge0
  rw [← hslash]
  constructor
  · rintro ⟨⟨w', s'⟩, hstep, -⟩
    exact ⟨w', (execute_step_iff hdue hself hedge hzero).mp ⟨s', hstep⟩⟩
  · rintro ⟨w', hw'⟩
    obtain ⟨s', hstep⟩ := (execute_step_iff hdue hself hedge hzero).mpr hw'
    refine ⟨⟨w', s'⟩, hstep, ?_⟩
    have htaken := Staking.slash_step hsound.toKept hw'
    dsimp only at htaken ⊢
    omega

end Landing

/-! ## Two runs -/

/-- The system after `proposeAll`. -/
def proposed : System := endState System.fresh (System.fresh.trace 100 200 proposeAll)

theorem edge_slash_lands_iff_proposed :
    Due 200 proposed 4 (48 * 3600) 0 ∧
      ∃ y', Step 100 200 proposed (.call 4 (48 * 3600) (.executeEdgeSlash 0)) y' ∧
        y'.world.staking.slashable (proposed.registry.slashProposals 0).provider +
          min (proposed.registry.slashProposals 0).amount.toNat
            (proposed.world.staking.slashable (proposed.registry.slashProposals 0).provider) =
          proposed.world.staking.slashable (proposed.registry.slashProposals 0).provider := by
  have hdue : Due 200 proposed 4 (48 * 3600) 0 := by decide +kernel
  exact ⟨hdue, (edge_slash_lands_iff (System.fresh_reached (by decide) (by decide) (by decide) _)
    hdue (by decide) (by decide) (by decide) (by decide +kernel)).mpr (by decide +kernel)⟩

/-- The provider loses one more unit to a slash of the staking contract, before the window of the
proposal ends. -/
def slashOne : List Action := proposeAll ++ [.staking (.call 4 0 (.slash 3 1))]

/-- One unit less in the balance voids the proposal to slash all of it. -/
theorem smaller_balance_voids_proposal :
    ∃ y, Reached 100 200 y ∧ Due 200 y 4 (48 * 3600) 0 ∧
      0 < y.world.staking.slashable (y.registry.slashProposals 0).provider ∧
      y.world.staking.totalStaked + y.world.staking.totalUnbonding ≤
        y.world.token.balanceOf 100 ∧
      ∀ y', ¬ Step 100 200 y (.call 4 (48 * 3600) (.executeEdgeSlash 0)) y' := by
  refine ⟨_, System.fresh_reached (by decide) (by decide) (by decide) slashOne, by decide +kernel,
    by decide +kernel, by decide +kernel, ?_⟩
  intro y' hstep
  cases hstep

end Moltbunker.Contracts.EdgeRegistry
