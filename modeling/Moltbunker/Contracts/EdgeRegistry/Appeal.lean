import Moltbunker.Contracts.EdgeRegistry.World
import Moltbunker.Contracts.Staking.Appeal

/-!
# `BunkerEdgeRegistry`: slash proposals

The registry's proposals are an appeal gate as the staking contract's are (`gate_step`), and a
penalty is a slash of exactly the proposed amount in the staking contract (`penalty_step`). The
main result, `slash_proposals_appeal_safe`, says for both contracts that every run keeps the promise
of the protocol.

The registry stores the time of a proposal in 48 bits. The window is counted from the stored time,
here as in the source.
-/

namespace Moltbunker.Contracts.EdgeRegistry

open Lib Staking.World

/-- A proposal as the gate sees it. -/
def EdgeSlashProposal.docket (x : EdgeSlashProposal) : Docket Address where
  target := x.provider
  openedAt := x.proposedAt.toNat
  window := x.appealWindowSnapshot
  executed := x.executed
  appealed := x.appealed
  resolved := x.resolved

/-- The proposals of the registry. -/
def Storage.gate (s : Storage) : Gate Address where
  count := s.slashProposalCount
  docket id := (s.slashProposals id).docket

/-- What a step does to the proposals. -/
def System.gateEvent (y : System) : Action → GateEvent Address
  | .call _ t (.proposeEdgeSlash provider _ _) =>
    .propose provider (BitVec.ofNat 48 t).toNat y.registry.appealWindow
  | .call sender t (.executeEdgeSlash id) =>
    .execute id t (y.registry.isSlasher sender) y.registry.slashingEnabled
  | .call sender t (.appealEdgeSlash id) => .appeal id sender t
  | .call sender _ (.resolveEdgeSlashAppeal id true) =>
    .uphold id (decide (sender = y.registry.owner)) y.registry.slashingEnabled
  | .call sender _ (.resolveEdgeSlashAppeal id false) =>
    .dismiss id (decide (sender = y.registry.owner))
  | _ => .other

/-- A write to one proposal is a mark of the gate. -/
lemma gate_modifyProposal (s : Storage) (id : ℕ) (f : EdgeSlashProposal → EdgeSlashProposal) :
    (s.modifyProposal id f).gate = s.gate.mark id (f (s.slashProposals id)).docket := by
  unfold Storage.gate Storage.modifyProposal Gate.mark
  simp only [read_update EdgeSlashProposal.docket]

variable {edge self : Address} {y y' : System} {t : ℕ} {a : Action}

lemma gate_effect {sender : Address} {c : ExtCall} {r : Outcome}
    (he : Effect (y.msg edge sender t) y.registry c r) :
    y.registry.gate.Admits (y.gateEvent (.call sender t c)) ∧
      r.1.gate = y.registry.gate.next (y.gateEvent (.call sender t c)) := by
  cases he with
  | propose hne =>
    refine ⟨trivial, ?_⟩
    unfold Storage.gate System.gateEvent Gate.next
    simp only [read_update EdgeSlashProposal.docket]
    rfl
  | execute hrole henabled hid hexec happ htime =>
    exact ⟨⟨hrole, henabled, hid, hexec, happ, htime⟩, gate_modifyProposal _ _ _⟩
  | appeal hid hexec happ hsender htime =>
    exact ⟨⟨hid, hexec, happ, hsender, htime⟩, gate_modifyProposal _ _ _⟩
  | uphold howner henabled hid happ hres hexec =>
    exact ⟨⟨decide_eq_true howner, henabled, hid, happ, hres, hexec⟩, gate_modifyProposal _ _ _⟩
  | dismiss howner hid happ hres hexec =>
    exact ⟨⟨decide_eq_true howner, hid, happ, hres, hexec⟩, gate_modifyProposal _ _ _⟩
  | @quiet c s' hc hproposals hcount =>
    have hgate : s'.gate = y.registry.gate := by
      unfold Storage.gate
      rw [hproposals, hcount]
    cases c <;> first | exact ⟨trivial, hgate⟩ | cases hc

/-- **Every step of the system is admitted by the registry's gate.** -/
theorem gate_step (h : Step self edge y a y') : y.registry.gate.Admits (y.gateEvent a) ∧
    y'.registry.gate = y.registry.gate.next (y.gateEvent a) := by
  rcases step_cases h with ⟨b, rfl, -, hsame⟩ | ⟨sender, t, c, calls, rfl, ht, hexec, -⟩ |
    ⟨t, owner, isSlasher, rfl, -, -, hregistry⟩
  · rw [hsame]
    exact ⟨trivial, rfl⟩
  · exact gate_effect (exec_effect ht.2 hexec)
  · rw [hregistry]
    exact ⟨trivial, rfl⟩

lemma gate_deployed (h : Deployed self edge y) : y.registry.gate.count = 0 := by
  obtain ⟨-, -, -, initialOwner, hs⟩ := h
  simp only [constructor, bind_eq_ok, pure_eq_ok] at hs
  obtain ⟨_, -, hs⟩ := hs
  rw [← hs]
  rfl

/-! ## Penalties -/

/-- What a step does to the stakes: a penalty takes the proposed amount, and an event of the gate
without a penalty takes nothing. -/
structure Penalty (y : System) (a : Action) (y' : System) : Prop where
  applied : ∀ id, (y.gateEvent a).penalizes = some id →
    y'.world.staking.slashable (y.registry.slashProposals id).provider +
        (y.registry.slashProposals id).amount.toNat =
      y.world.staking.slashable (y.registry.slashProposals id).provider
  spared : y.gateEvent a ≠ .other → (y.gateEvent a).penalizes = none →
    y'.world.staking.providers = y.world.staking.providers

lemma Penalty.of_other (h : y.gateEvent a = .other) : Penalty y a y' := by
  refine ⟨fun id hid => ?_, fun hne => absurd h hne⟩
  rw [h] at hid
  cases hid

/-- A call that asks for no slash leaves the stakes alone. -/
lemma Penalty.of_tick (h : (y.gateEvent a).penalizes = none)
    (hslash : runSlashes self edge t [] y.world = some y'.world) : Penalty y a y' := by
  refine ⟨fun id hid => ?_, fun _ _ => ?_⟩
  · rw [h] at hid
    cases hid
  · rw [← Option.some.inj hslash]

/-- A call that asks for the slash of a proposal is its penalty. -/
lemma Penalty.of_slash {id : ℕ} (hk : Staking.Kept self y.world)
    (h : (y.gateEvent a).penalizes = some id)
    (hslash : runSlashes self edge t [⟨(y.registry.slashProposals id).provider,
      (y.registry.slashProposals id).amount.toNat⟩] y.world = some y'.world) : Penalty y a y' := by
  have htaken := Staking.slash_step hk (runSlashes_singleton.mp hslash)
  refine ⟨fun id' hid' => ?_, fun _ hnone => ?_⟩
  · rw [h] at hid'
    cases hid'
    exact htaken
  · rw [h] at hnone
    cases hnone

/-- **Where the penalties are.** -/
theorem penalty_step (hk : Staking.Kept self y.world) (h : Step self edge y a y') :
    Penalty y a y' := by
  rcases step_cases h with ⟨b, rfl, -⟩ | ⟨sender, t, c, calls, rfl, ht, hexec, hslash⟩ |
    ⟨t, owner, isSlasher, rfl, -⟩
  · exact .of_other rfl
  · generalize hr : (y'.registry, calls) = r at hexec
    have hcalls : calls = r.2 := by rw [← hr]
    rw [hcalls] at hslash
    cases exec_effect ht.2 hexec with
    | propose _ | appeal _ _ _ _ _ | dismiss _ _ _ _ _ => exact .of_tick rfl hslash
    | execute _ _ _ _ _ _ | uphold _ _ _ _ _ _ => exact .of_slash hk rfl hslash
    | quiet hc _ _ => cases c <;> first | exact .of_other rfl | cases hc
  · exact .of_other rfl

/-! ## Both contracts -/

/-- **Slash proposals are safe, in both contracts.** Along every run a proposal's penalty is applied
at most once, while slashing is enabled, and either after the window of an unappealed proposal or
by the owner on an appeal that the provider lodged in time. Nothing more happens to a proposal that
was executed or dismissed, and an appeal and an execution are never possible at the same time. -/
theorem slash_proposals_appeal_safe {self edge : Address} {w₀ : Staking.World}
    {l : List (Staking.Action × Staking.World)} {y₀ : System} {k : List (Action × System)}
    (hw₀ : Staking.Deployed self w₀) (hl : Path (Staking.Step self) w₀ l)
    (hy₀ : Deployed self edge y₀) (hk : Path (Step self edge) y₀ k) :
    (Gate.PromiseKept (Staking.Step self) gateEvent w₀ l ∧
        ∀ l₁ a w' l₂, l = l₁ ++ (a, w') :: l₂ → Staking.Penalty (endState w₀ l₁) a w') ∧
      Gate.PromiseKept (Step self edge) System.gateEvent y₀ k ∧
        ∀ k₁ a y' k₂, k = k₁ ++ (a, y') :: k₂ → Penalty (endState y₀ k₁) a y' := by
  refine ⟨⟨?_, ?_⟩, ?_, ?_⟩
  · exact Gate.promiseKept_of_path
      (fun w a w' => Staking.gate_step) (Staking.gate_deployed hw₀) hl
  · rintro l₁ a w' l₂ rfl
    obtain ⟨hl₁, hstep, -⟩ := hl.step_at
    have hreached : Staking.Reached self (endState w₀ l₁) := ⟨w₀, hw₀, l₁, hl₁, rfl⟩
    exact Staking.penalty_step (.reached hreached) hstep
  · exact Gate.promiseKept_of_path
      (fun y a y' => gate_step) (gate_deployed hy₀) hk
  · rintro k₁ a y' k₂ rfl
    obtain ⟨hk₁, hstep, -⟩ := hk.step_at
    have hreached : Reached self edge (endState y₀ k₁) := ⟨y₀, hy₀, k₁, hk₁, rfl⟩
    exact penalty_step (.reached hreached.staking) hstep

/-- A proposal of the staking contract is executed when its window has passed. -/
def executeUnappealed : List Staking.Action :=
  Staking.stakeAndFund ++ Staking.enableSlashing ++
    [.call 4 604800 (.proposeSlash 3 (10 ^ 23) "downtime"),
      .call 4 (604800 + 48 * 3600) (.executeSlash 0)]

/-- A proposal of the registry is appealed in time, and the appeal upheld. -/
def upholdAppeal : List Action :=
  proposeAll ++ [.call 3 3600 (.appealEdgeSlash 0), .call 2 7200 (.resolveEdgeSlashAppeal 0 true)]

theorem slash_proposals_appeal_safe_runs :
    ((fresh.trace 100 executeUnappealed).length = 8 ∧
        Gate.PromiseKept (Staking.Step 100) gateEvent .fresh
          (fresh.trace 100 executeUnappealed)) ∧
      (System.fresh.trace 100 200 upholdAppeal).length = 11 ∧
        Gate.PromiseKept (Step 100 200) System.gateEvent .fresh
          (System.fresh.trace 100 200 upholdAppeal) := by
  obtain ⟨⟨hstaking, -⟩, hregistry, -⟩ := slash_proposals_appeal_safe
    (fresh_deployed (by decide)) (trace_path executeUnappealed)
    (System.fresh_deployed (by decide) (by decide) (by decide))
    (System.trace_path 100 200 _ upholdAppeal)
  exact ⟨⟨by decide +kernel, hstaking⟩, by decide +kernel, hregistry⟩

end Moltbunker.Contracts.EdgeRegistry
