import Moltbunker.Contracts.Staking.Ledger
import Moltbunker.Lib.AppealGate

/-!
# `BunkerStaking`: slash proposals

The proposal life cycle of the contract is an appeal gate (`Lib/AppealGate.lean`): every step of
the contract is an event that the gate admits (`gate_step`). The calls that are no part of the life
cycle leave the proposals as they are.

An event of the gate that applies a penalty is a call that takes the proposed amount, or the
slashable balance where that is less, from the provider; the other events of the gate take nothing
from anybody (`penalty_step`).
-/

namespace Moltbunker.Contracts.Staking

open Lib

/-- A proposal as the gate sees it. -/
def SlashProposal.docket (x : SlashProposal) : Docket Address where
  target := x.provider
  openedAt := x.proposedAt
  window := x.appealWindowSnapshot
  executed := x.executed
  appealed := x.appealed
  resolved := x.resolved

/-- The proposals of the contract. -/
def Storage.gate (s : Storage) : Gate Address where
  count := s.slashProposalCount
  docket id := (s.slashProposals id).docket

/-- What a step does to the proposals. A proposal is opened with the time and the appeal window of
its call; executions need the slasher role and resolutions the owner. -/
def World.gateEvent (w : World) : Action → GateEvent Address
  | .call _ t (.proposeSlash provider _ _) => .propose provider t w.staking.appealWindow
  | .call _ t (.proposeSlashByReason provider _) => .propose provider t w.staking.appealWindow
  | .call sender t (.executeSlash id) =>
    .execute id t (w.staking.isSlasher sender) w.staking.slashingEnabled
  | .call sender t (.appealSlash id) => .appeal id sender t
  | .call sender _ (.resolveAppeal id true) =>
    .uphold id (decide (sender = w.staking.owner)) w.staking.slashingEnabled
  | .call sender _ (.resolveAppeal id false) => .dismiss id (decide (sender = w.staking.owner))
  | _ => .other

/-- A write to one proposal is a mark of the gate. -/
lemma gate_modifyProposal (s : Storage) (id : ℕ) (f : SlashProposal → SlashProposal) :
    (s.modifyProposal id f).gate = s.gate.mark id (f (s.slashProposals id)).docket := by
  unfold Storage.gate Storage.modifyProposal Gate.mark
  simp only [read_update SlashProposal.docket]

variable {r : Outcome} {self sender : Address} {w w' : World} {t : ℕ} {a : Action}

variable {s : Storage} {m : Msg} {x : SlashProposal} {c : ExtCall}

/-- Applying a proposal changes no proposal. -/
lemma gate_applies (h : s.Applies m x r) : r.1.gate = s.gate := by
  obtain ⟨-, ⟨-, rfl⟩ | ⟨info', hslash⟩⟩ := h
  · rfl
  · rw [hslash.storage]
    rfl

/-- **A call is admitted by the gate.** -/
theorem gate_effect (he : Effect (w.msg self sender t) w.staking c r) :
    w.staking.gate.Admits (w.gateEvent (.call sender t c)) ∧
      r.1.gate = w.staking.gate.next (w.gateEvent (.call sender t c)) := by
  cases he with
  | slash hc hrole henabled hupdate hslash =>
    have hgate : r.1.gate = w.staking.gate := by
      rw [hslash.storage]
      rfl
    rcases hc with rfl | rfl <;> exact ⟨trivial, hgate⟩
  | propose p amount text reason hc =>
    have hgate : Storage.gate { w.staking with
        slashProposalCount := w.staking.slashProposalCount + 1
        slashProposals := Function.update w.staking.slashProposals w.staking.slashProposalCount
          (w.staking.newProposal (w.msg self sender t) p amount text reason) } =
        w.staking.gate.next (.propose p t w.staking.appealWindow) := by
      unfold Storage.gate Gate.next
      simp only [read_update SlashProposal.docket]
      rfl
    rcases hc with rfl | rfl <;> exact ⟨trivial, hgate⟩
  | executeSlash hrole henabled hid hexec happ htime hr =>
    refine ⟨⟨hrole, henabled, hid, hexec, happ, htime⟩, ?_⟩
    rw [gate_applies hr, gate_modifyProposal]
    rfl
  | appealSlash hid hexec happ hsender htime =>
    exact ⟨⟨hid, hexec, happ, hsender, htime⟩, gate_modifyProposal _ _ _⟩
  | uphold howner henabled hid happ hres hexec hr =>
    refine ⟨⟨decide_eq_true howner, henabled, hid, happ, hres, hexec⟩, ?_⟩
    rw [gate_applies hr, gate_modifyProposal]
    rfl
  | dismiss howner hid happ hres hexec =>
    exact ⟨⟨decide_eq_true howner, hid, happ, hres, hexec⟩, gate_modifyProposal _ _ _⟩
  | @quiet c s' hc hquiet =>
    have hgate : s'.gate = w.staking.gate := by
      unfold Storage.gate
      rw [hquiet.proposals, hquiet.count]
    cases c <;> first | exact ⟨trivial, hgate⟩ | cases hc
  | _ => exact ⟨trivial, rfl⟩

/-- **Every step of the contract is admitted by the gate.** -/
theorem gate_step (h : Step self w a w') : w.staking.gate.Admits (w.gateEvent a) ∧
    w'.staking.gate = w.staking.gate.next (w.gateEvent a) := by
  rcases step_cases h with ⟨sender, t, c, calls, rfl, -, -, -, hexec, -, -⟩ |
    ⟨t, op, rfl, -, -, -, hw'⟩ | ⟨t, owner, isSlasher, rfl, -, rfl⟩
  · exact gate_effect (exec_effect hexec)
  · rw [hw']
    exact ⟨trivial, rfl⟩
  · exact ⟨trivial, rfl⟩

/-- What a step does to the stakes: a penalty takes the proposed amount, as far as it is there, and
an event of the gate without a penalty takes nothing. -/
structure Penalty (w : World) (a : Action) (w' : World) : Prop where
  applied : ∀ id, (w.gateEvent a).penalizes = some id →
    w'.staking.slashable (w.staking.slashProposals id).provider +
        min (w.staking.slashProposals id).amount
          (w.staking.slashable (w.staking.slashProposals id).provider) =
      w.staking.slashable (w.staking.slashProposals id).provider
  spared : w.gateEvent a ≠ .other → (w.gateEvent a).penalizes = none →
    w'.staking.providers = w.staking.providers

lemma Penalty.of_other (h : w.gateEvent a = .other) : Penalty w a w' := by
  refine ⟨fun id hid => ?_, fun hne => absurd h hne⟩
  rw [h] at hid
  cases hid

lemma Penalty.of_providers (h : (w.gateEvent a).penalizes = none)
    (hw' : w'.staking.providers = w.staking.providers) : Penalty w a w' := by
  refine ⟨fun id hid => ?_, fun _ _ => hw'⟩
  rw [h] at hid
  cases hid

/-- Applying a proposal takes its amount, as far as it is there. -/
lemma applies_slashable (h : s.Applies m x r)
    (hqueue : (s.providers x.provider).totalUnbonding.toNat =
      openAmount (s.unstakeQueues x.provider)) :
    r.1.slashable x.provider + min x.amount (s.slashable x.provider) = s.slashable x.provider := by
  obtain ⟨-, ⟨hzero, rfl⟩ | ⟨info', hslash⟩⟩ := h
  · rw [hzero]
    rfl
  · exact hslash.slashable_eq hqueue

lemma penalty_effect (hk : Kept self w) {calls : List TokenCall}
    (he : Effect (w.msg self sender t) w.staking c (w'.staking, calls)) :
    Penalty w (.call sender t c) w' := by
  have hqueue : ∀ p, (w.staking.providers p).totalUnbonding.toNat =
      openAmount (w.staking.unstakeQueues p) := hk.ledger.queue_eq
  generalize hr : (w'.staking, calls) = r at he
  have hw' : w'.staking = r.1 := by rw [← hr]
  cases he with
  | executeSlash hrole henabled hid hexec happ htime happlies
  | uphold howner henabled hid happ hres hexec happlies =>
    have htaken := applies_slashable happlies (hqueue _)
    rw [← hw'] at htaken
    refine ⟨?_, fun _ h => by cases h⟩
    rintro _ ⟨⟩
    exact htaken
  | appealSlash hid hexec happ hsender htime | dismiss howner hid happ hres hexec =>
    exact .of_providers rfl (by rw [hw']; rfl)
  | propose p amount text reason hc =>
    rcases hc with rfl | rfl <;> exact .of_providers rfl (by rw [hw'])
  | slash hc hrole henabled hupdate hslash =>
    rcases hc with rfl | rfl <;> exact .of_other rfl
  | @quiet c s' hc hquiet =>
    cases c <;> first | exact .of_other rfl | cases hc
  | _ => exact .of_other rfl

/-- **Where the penalties are.** -/
theorem penalty_step (hk : Kept self w) (h : Step self w a w') : Penalty w a w' := by
  rcases step_cases h with ⟨sender, t, c, calls, rfl, -, -, -, hexec, -, -⟩ |
    ⟨t, op, rfl, -⟩ | ⟨t, owner, isSlasher, rfl, -⟩
  · exact penalty_effect hk (exec_effect hexec)
  · exact .of_other rfl
  · exact .of_other rfl

/-- A call of `slash` takes exactly its amount. -/
lemma slash_step {amount : ℕ} {p : Address} (hk : Kept self w)
    (h : Step self w (.call sender t (.slash p amount)) w') :
    w'.staking.slashable p + amount = w.staking.slashable p := by
  obtain ⟨_, -, -, -, hexec, -, -⟩ := call_of_step h
  obtain ⟨-, -, -, info', hslash⟩ := Storage.slashWithoutAppeal_eq_ok hexec
  exact hslash.slashable_eq (hk.ledger.queue_eq p)

lemma gate_deployed (h : Deployed self w) : w.staking.gate.count = 0 := by
  obtain ⟨treasury, owner, hs⟩ := books_deployed h
  rw [hs]
  rfl

end Moltbunker.Contracts.Staking
