import Moltbunker.Contracts.EdgeRegistry.Model
import Moltbunker.Contracts.Staking.World

/-!
# `BunkerEdgeRegistry`: runs with the staking contract

The two contracts in one system. The registry at `edge` acts on the staking contract at `self` in
one way: the slashes that a call of the registry asks for are calls of `BunkerStaking.slash` with
the registry as sender, in the same transaction. If the staking contract or its token refuses one
of them, the whole call reverts and there is no step.

Every step of the system is a run of the staking contract (`Step.staking_reachable`), so what
holds in every reachable state of the staking contract holds in the system as well.
-/

namespace Moltbunker.Contracts.EdgeRegistry

open Lib Storage

/-- The external state-changing functions of the registry, with their arguments. -/
inductive ExtCall where
  | registerEdgeProvider (nodeId region : Bytes32) (endpointURL : String)
      (tlsPubkeyHash : List (BitVec 8))
  | deregisterEdgeProvider
  | updateEndpoint (endpointURL : String) (tlsPubkeyHash : List (BitVec 8))
  | freezeEdgeProvider (provider : Address)
  | unfreezeEdgeProvider (provider : Address)
  | proposeEdgeSlash (provider : Address) (amount : BitVec 128) (reason : String)
  | executeEdgeSlash (proposalId : ℕ)
  | appealEdgeSlash (proposalId : ℕ)
  | resolveEdgeSlashAppeal (proposalId : ℕ) (uphold : Bool)
  | setMinStakeForEdge (newMinStake : ℕ)
  | setAppealWindow (newWindow : ℕ)
  | setSlashingEnabled (enabled : Bool)
  | pause
  | unpause

/-- Run one external function, with the storage of the staking contract to read from. -/
def exec (m : Msg) (staking : Staking.Storage) (s : Storage) : ExtCall → Exec Outcome
  | .registerEdgeProvider nodeId region endpointURL tlsPubkeyHash =>
    s.registerEdgeProvider m staking nodeId region endpointURL tlsPubkeyHash
  | .deregisterEdgeProvider => s.deregisterEdgeProvider m
  | .updateEndpoint endpointURL tlsPubkeyHash => s.updateEndpoint m endpointURL tlsPubkeyHash
  | .freezeEdgeProvider provider => s.freezeEdgeProvider m provider
  | .unfreezeEdgeProvider provider => s.unfreezeEdgeProvider m provider
  | .proposeEdgeSlash provider amount reason => s.proposeEdgeSlash m staking provider amount reason
  | .executeEdgeSlash proposalId => s.executeEdgeSlash m proposalId
  | .appealEdgeSlash proposalId => s.appealEdgeSlash m proposalId
  | .resolveEdgeSlashAppeal proposalId uphold => s.resolveEdgeSlashAppeal m proposalId uphold
  | .setMinStakeForEdge newMinStake => s.setMinStakeForEdge m newMinStake
  | .setAppealWindow newWindow => s.setAppealWindow m newWindow
  | .setSlashingEnabled enabled => s.setSlashingEnabled m enabled
  | .pause => s.pause m
  | .unpause => s.unpause m

/-! ## What a call does -/

/-- The calls that are part of the life cycle of a proposal. -/
def ExtCall.onProposals : ExtCall → Bool
  | .proposeEdgeSlash .. | .executeEdgeSlash _ | .appealEdgeSlash _
  | .resolveEdgeSlashAppeal .. => true
  | _ => false

/-- What a call that returned did. -/
inductive Effect (m : Msg) (s : Storage) : ExtCall → Outcome → Prop
  | propose {p : Address} {amount : BitVec 128} {reason : String} (hne : amount ≠ 0) :
      Effect m s (.proposeEdgeSlash p amount reason)
        ({ s with
          slashProposalCount := s.slashProposalCount + 1
          slashProposals := Function.update s.slashProposals s.slashProposalCount
            (s.newProposal m p amount reason) }, [])
  | execute {id : ℕ} (hrole : s.isSlasher m.sender = true) (henabled : s.slashingEnabled = true)
      (hid : id < s.slashProposalCount) (hexec : (s.slashProposals id).executed = false)
      (happ : (s.slashProposals id).appealed = false)
      (htime : (s.slashProposals id).proposedAt.toNat +
        (s.slashProposals id).appealWindowSnapshot ≤ m.timestamp) :
      Effect m s (.executeEdgeSlash id)
        (s.modifyProposal id fun x => { x with executed := true },
          [⟨(s.slashProposals id).provider, (s.slashProposals id).amount.toNat⟩])
  | appeal {id : ℕ} (hid : id < s.slashProposalCount)
      (hexec : (s.slashProposals id).executed = false)
      (happ : (s.slashProposals id).appealed = false)
      (hsender : m.sender = (s.slashProposals id).provider)
      (htime : m.timestamp < (s.slashProposals id).proposedAt.toNat +
        (s.slashProposals id).appealWindowSnapshot) :
      Effect m s (.appealEdgeSlash id)
        (s.modifyProposal id fun x => { x with appealed := true }, [])
  | uphold {id : ℕ} (howner : m.sender = s.owner) (henabled : s.slashingEnabled = true)
      (hid : id < s.slashProposalCount) (happ : (s.slashProposals id).appealed = true)
      (hres : (s.slashProposals id).resolved = false)
      (hexec : (s.slashProposals id).executed = false) :
      Effect m s (.resolveEdgeSlashAppeal id true)
        (s.modifyProposal id fun x => { x with
          resolved := true
          executed := true },
          [⟨(s.slashProposals id).provider, (s.slashProposals id).amount.toNat⟩])
  | dismiss {id : ℕ} (howner : m.sender = s.owner) (hid : id < s.slashProposalCount)
      (happ : (s.slashProposals id).appealed = true)
      (hres : (s.slashProposals id).resolved = false)
      (hexec : (s.slashProposals id).executed = false) :
      Effect m s (.resolveEdgeSlashAppeal id false)
        (s.modifyProposal id fun x => { x with resolved := true }, [])
  | quiet {c : ExtCall} {s' : Storage} (hc : c.onProposals = false)
      (hproposals : s'.slashProposals = s.slashProposals)
      (hcount : s'.slashProposalCount = s.slashProposalCount) : Effect m s c (s', [])

namespace Storage

variable {s : Storage} {m : Msg} {r : Outcome} {id : ℕ}

lemma getValidProposal_eq_ok {x : EdgeSlashProposal} :
    s.getValidProposal id = .ok x ↔ id < s.slashProposalCount ∧ x = s.slashProposals id := by
  simp only [getValidProposal, bind_eq_ok, revertIf_eq_ok, pure_eq_ok, not_le]
  constructor
  · rintro ⟨_, hid, hx⟩
    exact ⟨hid, hx.symm⟩
  · rintro ⟨hid, hx⟩
    exact ⟨(), hid, hx.symm⟩

lemma proposeEdgeSlash_effect {staking : Staking.Storage} {p : Address} {amount : BitVec 128}
    {reason : String} (h : s.proposeEdgeSlash m staking p amount reason = .ok r) :
    Effect m s (.proposeEdgeSlash p amount reason) r := by
  simp only [proposeEdgeSlash, bind_eq_ok, revertIf_eq_ok, addW_eq_ok, pure_eq_ok] at h
  obtain ⟨_, -, _, -, _, hne, _, -, _, -, _, -, _, ⟨-, rfl⟩, rfl⟩ := h
  exact .propose hne

/-- **When `executeEdgeSlash` returns, and what it asks for.** -/
theorem executeEdgeSlash_eq_ok (ht : m.timestamp < timestampBound) :
    s.executeEdgeSlash m id = .ok r ↔
      s.isSlasher m.sender = true ∧ s.slashingEnabled = true ∧ id < s.slashProposalCount ∧
        (s.slashProposals id).executed = false ∧ (s.slashProposals id).appealed = false ∧
        (s.slashProposals id).proposedAt.toNat + (s.slashProposals id).appealWindowSnapshot ≤
          m.timestamp ∧
        r = (s.modifyProposal id fun x => { x with executed := true },
          [⟨(s.slashProposals id).provider, (s.slashProposals id).amount.toNat⟩]) := by
  simp only [executeEdgeSlash, bind_eq_ok, onlySlasher_eq_ok, revertIf_eq_ok, addW_eq_ok,
    getValidProposal_eq_ok, pure_eq_ok]
  constructor
  · rintro ⟨_, hrole, _, henabled, x, ⟨hid, rfl⟩, _, hexec, _, happ, _, ⟨-, rfl⟩, _, htime, rfl⟩
    exact ⟨hrole, Bool.eq_true_of_not_eq_false henabled, hid, Bool.eq_false_of_not_eq_true hexec,
      Bool.eq_false_of_not_eq_true happ, not_lt.mp htime, rfl⟩
  · rintro ⟨hrole, henabled, hid, hexec, happ, htime, rfl⟩
    -- the window ended at a timestamp, so its end is no overflow
    have hword : timestampBound < 2 ^ 256 := by decide
    exact ⟨(), hrole, (), by simp [henabled], _, ⟨hid, rfl⟩, (), by simp [hexec], (),
      by simp [happ], _, ⟨(htime.trans_lt ht).trans hword, rfl⟩, (), not_lt.mpr htime, rfl⟩

lemma appealEdgeSlash_effect (h : s.appealEdgeSlash m id = .ok r) :
    Effect m s (.appealEdgeSlash id) r := by
  simp only [appealEdgeSlash, bind_eq_ok, revertIf_eq_ok, addW_eq_ok, getValidProposal_eq_ok,
    pure_eq_ok] at h
  obtain ⟨x, ⟨hid, rfl⟩, _, hexec, _, happ, _, hsender, _, ⟨-, rfl⟩, _, htime, rfl⟩ := h
  exact .appeal hid (Bool.eq_false_of_not_eq_true hexec) (Bool.eq_false_of_not_eq_true happ)
    (not_not.mp hsender) (not_le.mp htime)

lemma resolveEdgeSlashAppeal_effect {uphold : Bool}
    (h : s.resolveEdgeSlashAppeal m id uphold = .ok r) :
    Effect m s (.resolveEdgeSlashAppeal id uphold) r := by
  simp only [resolveEdgeSlashAppeal, bind_eq_ok, onlyOwner_eq_ok, revertIf_eq_ok,
    getValidProposal_eq_ok] at h
  obtain ⟨_, howner, x, ⟨hid, rfl⟩, _, happ, _, hres, _, hexec, h⟩ := h
  have happ := Bool.eq_true_of_not_eq_false happ
  have hres := Bool.eq_false_of_not_eq_true hres
  have hexec := Bool.eq_false_of_not_eq_true hexec
  cases uphold with
  | true =>
    simp only [if_true, bind_eq_ok, revertIf_eq_ok, pure_eq_ok] at h
    obtain ⟨_, henabled, rfl⟩ := h
    exact .uphold howner (Bool.eq_true_of_not_eq_false henabled) hid happ hres hexec
  | false =>
    simp only [Bool.false_eq_true, if_false, pure_eq_ok] at h
    subst h
    exact .dismiss howner hid happ hres hexec

end Storage

/-- **What each external function did when it returned.** -/
theorem exec_effect {m : Msg} {staking : Staking.Storage} {s : Storage} {c : ExtCall} {r : Outcome}
    (ht : m.timestamp < timestampBound) (h : exec m staking s c = .ok r) : Effect m s c r := by
  cases c with
  | proposeEdgeSlash p amount reason => exact proposeEdgeSlash_effect h
  | executeEdgeSlash id =>
    obtain ⟨hrole, henabled, hid, hexec, happ, htime, rfl⟩ :=
      (executeEdgeSlash_eq_ok ht).mp h
    exact .execute hrole henabled hid hexec happ htime
  | appealEdgeSlash id => exact appealEdgeSlash_effect h
  | resolveEdgeSlashAppeal id uphold => exact resolveEdgeSlashAppeal_effect h
  | registerEdgeProvider nodeId region endpointURL tlsPubkeyHash =>
    simp only [exec, registerEdgeProvider, bind_eq_ok] at h
    obtain ⟨_, -, _, -, _, -, _, -, _, -, h⟩ := h
    split at h
    all_goals
      rw [← pure_eq_ok.mp h]
      exact .quiet rfl rfl rfl
  | deregisterEdgeProvider =>
    simp only [exec, deregisterEdgeProvider, bind_eq_ok] at h
    obtain ⟨_, -, h⟩ := h
    split at h
    all_goals
      rw [← pure_eq_ok.mp h]
      exact .quiet rfl rfl rfl
  | updateEndpoint _ _ | freezeEdgeProvider _ | setMinStakeForEdge _ | setAppealWindow _ | pause
  | unpause =>
    simp only [exec, updateEndpoint, freezeEdgeProvider, setMinStakeForEdge, setAppealWindow, pause,
      unpause, bind_eq_ok, pure_eq_ok] at h
    obtain ⟨_, -, _, -, rfl⟩ := h
    exact .quiet rfl rfl rfl
  | unfreezeEdgeProvider _ | setSlashingEnabled _ =>
    simp only [exec, unfreezeEdgeProvider, setSlashingEnabled, bind_eq_ok, pure_eq_ok] at h
    obtain ⟨_, -, rfl⟩ := h
    exact .quiet rfl rfl rfl

/-! ## The system -/

/-- The registry next to the staking contract, its token and the clock. -/
structure System where
  world : Staking.World
  registry : Storage

/-- What can happen next. -/
inductive Action where
  /-- Something happens to the staking contract or its token, without the registry. -/
  | staking (a : Staking.Action)
  /-- `sender` calls an external function of the registry. -/
  | call (sender : Address) (t : ℕ) (c : ExtCall)
  /-- Ownership or the slasher role of the registry changes. -/
  | access (t : ℕ) (owner : Address) (isSlasher : Address → Bool)

/-- The account that acts in a step of the staking contract. -/
def actor : Staking.Action → Option Address
  | .call sender _ _ => some sender
  | .token _ op => op.actor
  | .access _ _ _ => none

/-- The clock moves to `t`, and the registry's slashes are executed in the staking contract. -/
def runSlashes (self edge : Address) (t : ℕ) : List SlashCall → Staking.World → Option Staking.World
  | [], w => some { w with now := t }
  | c :: cs, w => do
      let w' ← w.next self (.call edge t (.slash c.provider c.amount))
      runSlashes self edge t cs w'

/-- What a call of the registry reads from its surroundings; it holds no tokens to look at. -/
def System.msg (edge : Address) (y : System) (sender : Address) (t : ℕ) : Msg :=
  ⟨sender, t, y.world.token.balanceOf edge⟩

/-- One step of the system with the staking contract at `self` and the registry at `edge`. Neither
contract calls the registry, and the registry calls the staking contract by `runSlashes` only. -/
def System.next (self edge : Address) (y : System) : Action → Option System
  | .staking a =>
    if actor a ≠ some edge then
      match y.world.next self a with
      | none => none
      | some w' => some ⟨w', y.registry⟩
    else none
  | .call sender t c =>
    if y.world.Admits t ∧ sender ≠ self ∧ sender ≠ edge ∧ sender ≠ 0 then
      match exec (y.msg edge sender t) y.world.staking y.registry c with
      | .error _ => none
      | .ok (s', calls) =>
        match runSlashes self edge t calls y.world with
        | none => none
        | some w' => some ⟨w', s'⟩
    else none
  | .access t owner isSlasher =>
    if y.world.Admits t then
      some ⟨{ y.world with now := t }, { y.registry with
        owner := owner
        isSlasher := isSlasher }⟩
    else none

/-- The step relation of the system. -/
def Step (self edge : Address) (y : System) (a : Action) (y' : System) : Prop :=
  y.next self edge a = some y'

/-- The registry has just been deployed at `edge`, next to a staking contract in any state that it
can reach. -/
def Deployed (self edge : Address) (y : System) : Prop :=
  edge ≠ self ∧ edge ≠ 0 ∧ Staking.Reached self y.world ∧
    ∃ initialOwner, constructor self initialOwner = .ok y.registry

/-- The systems that some run from a deployment of the registry reaches. -/
def Reached (self edge : Address) (y : System) : Prop :=
  ∃ y₀, Deployed self edge y₀ ∧ Reachable (Step self edge) y₀ y

variable {self edge : Address} {y : System} {t : ℕ} {w' w : Staking.World} {calls : List SlashCall}
  {sender : Address}

/-- **The three kinds of steps.** -/
theorem step_cases {y' : System} {a : Action} (h : Step self edge y a y') :
    (∃ b, a = .staking b ∧ Staking.Step self y.world b y'.world ∧ y'.registry = y.registry) ∨
      (∃ sender t c calls, a = .call sender t c ∧ y.world.Admits t ∧
        exec (y.msg edge sender t) y.world.staking y.registry c = .ok (y'.registry, calls) ∧
        runSlashes self edge t calls y.world = some y'.world) ∨
      (∃ t owner isSlasher, a = .access t owner isSlasher ∧ y.world.Admits t ∧
        y'.world = { y.world with now := t } ∧ y'.registry = { y.registry with
          owner := owner
          isSlasher := isSlasher }) := by
  unfold Step at h
  cases a <;> simp only [System.next] at h
  case staking b =>
    split at h
    · split at h
      · cases h
      · next w' hnext =>
        cases h
        exact .inl ⟨b, rfl, hnext, rfl⟩
    · cases h
  case call sender t c =>
    split at h
    · next hadm =>
      split at h
      · cases h
      · next s' calls hexec =>
        split at h
        · cases h
        · next w' hslash =>
          cases h
          exact .inr (.inl ⟨sender, t, c, calls, rfl, hadm.1, hexec, hslash⟩)
    · cases h
  case access t owner isSlasher =>
    split at h
    · next hadm =>
      cases h
      exact .inr (.inr ⟨t, owner, isSlasher, rfl, hadm, rfl, rfl⟩)
    · cases h

/-- A call that returns, in the registry and in the staking contract, is a step. -/
lemma step_call {c : ExtCall} {s' : Storage}
    (ht : y.world.Admits t) (hself : sender ≠ self) (hedge : sender ≠ edge) (hzero : sender ≠ 0)
    (hexec : exec (y.msg edge sender t) y.world.staking y.registry c = .ok (s', calls))
    (hslash : runSlashes self edge t calls y.world = some w') :
    Step self edge y (.call sender t c) ⟨w', s'⟩ := by
  unfold Step System.next
  dsimp only
  rw [if_pos ⟨ht, hself, hedge, hzero⟩, hexec]
  dsimp only
  rw [hslash]

/-! ## The staking contract in the system -/

/-- To the staking contract, the passing of time is a change of roles that changes nothing. -/
lemma tick_step (ht : w.Admits t) :
    Staking.Step self w (.access t w.staking.owner w.staking.isSlasher) { w with now := t } := by
  unfold Staking.Step Staking.World.next
  dsimp only
  rw [if_pos ht]

/-- A call of the staking contract leaves the clock at its time. -/
lemma now_of_call {c : Staking.ExtCall}
    (h : Staking.Step self w (.call sender t c) w') : w'.now = t := by
  rcases Staking.step_cases h with ⟨_, _, _, _, e, -, -, -, -, -, hnow⟩ | ⟨_, _, e, -⟩ |
    ⟨_, _, _, e, -⟩
  · cases e
    exact hnow
  · cases e
  · cases e

/-- One slash is one call of the staking contract. -/
lemma runSlashes_singleton {c : SlashCall} : runSlashes self edge t [c] w = some w' ↔
    Staking.Step self w (.call edge t (.slash c.provider c.amount)) w' := by
  simp only [runSlashes, Option.bind_eq_bind, Option.bind_eq_some_iff, Option.some.injEq]
  constructor
  · rintro ⟨w₁, hnext, rfl⟩
    have hstep : Staking.Step self w (.call edge t (.slash c.provider c.amount)) w₁ := hnext
    have hnow : { w₁ with now := t } = w₁ := by rw [← now_of_call hstep]
    rw [hnow]
    exact hstep
  · intro h
    exact ⟨w', h, by rw [← now_of_call h]⟩

lemma runSlashes_reachable (ht : w.Admits t)
    (h : runSlashes self edge t calls w = some w') : Reachable (Staking.Step self) w w' := by
  induction calls generalizing w with
  | nil =>
    cases h
    exact (Reachable.refl w).tail (tick_step ht)
  | cons c cs ih =>
    rw [runSlashes, Option.bind_eq_bind, Option.bind_eq_some_iff] at h
    obtain ⟨w₁, hnext, h⟩ := h
    have hstep : Staking.Step self w (.call edge t (.slash c.provider c.amount)) w₁ := hnext
    obtain ⟨l, hl, hend⟩ := ih ⟨(now_of_call hstep).le, ht.2⟩ h
    exact ⟨(_, w₁) :: l, ⟨hstep, hl⟩, hend⟩

/-- **Every step of the system is a run of the staking contract.** -/
theorem Step.staking_reachable {y' : System} {a : Action} (h : Step self edge y a y') :
    Reachable (Staking.Step self) y.world y'.world := by
  rcases step_cases h with ⟨b, -, hstep, -⟩ | ⟨sender, t, c, calls, -, ht, -, hslash⟩ |
    ⟨t, owner, isSlasher, -, ht, hw, -⟩
  · exact (Reachable.refl _).tail hstep
  · exact runSlashes_reachable ht hslash
  · rw [hw]
    exact (Reachable.refl _).tail (tick_step ht)

/-- In a run of the system the staking contract stays in its reachable states. -/
lemma Reached.staking (h : Reached self edge y) : Staking.Reached self y.world := by
  obtain ⟨y₀, ⟨-, -, hstaking, -⟩, hreach⟩ := h
  refine Reachable.invariant (P := fun y => Staking.Reached self y.world) ?_ hstaking hreach
  rintro y a y' ⟨w₀, hdep, hw⟩ hstep
  obtain ⟨l, hl, hend⟩ := hstep.staking_reachable
  exact ⟨w₀, hdep, hend ▸ hw.of_path hl⟩

/-! ## Concrete runs -/

/-- The run of a list of actions, up to the first that is refused. -/
def System.trace (self edge : Address) (y : System) (actions : List Action) :
    List (Action × System) := Lib.trace (System.next self edge) y actions

lemma System.trace_path (self edge : Address) (y : System) (actions : List Action) :
    Path (Step self edge) y (y.trace self edge actions) := Lib.trace_path y actions

/-- A fresh staking contract and a fresh registry, both owned by `2`. -/
def System.fresh : System := ⟨.fresh, .deployed 2⟩

lemma System.fresh_deployed (hself : self ≠ 0) (hne : edge ≠ self)
    (hedge : edge ≠ 0) : Deployed self edge System.fresh := by
  refine ⟨hne, hedge, ⟨_, Staking.World.fresh_deployed hself, .refl _⟩, 2, ?_⟩
  unfold constructor
  rw [revertIf_neg (by rintro (h | h); exacts [hself h, absurd h (by decide)])]
  rfl

/-- Every run of a list of actions from the fresh deployments reaches its last state. -/
lemma System.fresh_reached (hself : self ≠ 0) (hne : edge ≠ self) (hedge : edge ≠ 0)
    (actions : List Action) :
    Reached self edge (endState System.fresh (System.fresh.trace self edge actions)) :=
  ⟨System.fresh, System.fresh_deployed hself hne hedge, _, System.trace_path self edge _ actions,
    rfl⟩

/-- With the registry at `200` a slasher of the staking contract at `100`, provider `3` stakes the
edge minimum and registers, and slasher `4` proposes to slash all of it. -/
def proposeAll : List Action :=
  [.staking (.token 0 (.mint 3 (50000000 * 10 ^ 18))),
    .staking (.token 0 (.approve 3 100 (50000000 * 10 ^ 18))),
    .staking (.call 3 0 (.stake (50000000 * 10 ^ 18))),
    .staking (.access 0 2 fun a => a == 200 || a == 4),
    .staking (.call 2 0 (.setSlashingEnabled true)), .access 0 2 fun a => a == 4,
    .call 2 0 (.setSlashingEnabled true),
    .call 3 0 (.registerEdgeProvider 7 0 "https://edge.example" []),
    .call 4 0 (.proposeEdgeSlash 3 (.ofNat 128 (50000000 * 10 ^ 18)) "SLA violation")]

end Moltbunker.Contracts.EdgeRegistry
