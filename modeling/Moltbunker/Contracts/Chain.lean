import Moltbunker.Contracts.Token
import Moltbunker.Lib.Path

/-!
# One contract on the chain

A contract lives with its token and the clock of the chain. `Contract` says what the external
functions of a contract do, how inherited code may change its roles, and that it takes tokens from
its caller only; the rest is the same for every contract. A step of a `World` is a call by any
account but the contract, an operation of other accounts on the token, or a change of roles.

Time does not run backwards and stays within the 64 bits of the header field. A call that reverts,
in the contract or in the token, is no step. `World.next` is executable, and `Step` is its graph.

What a step does is said once (`step_cases`), and what it does to the tokens of the contract once
more (`step_balance`): they change by the flows of the call, and by nothing that others do.
-/

namespace Moltbunker.Contracts.Chain

open Lib

/-- A contract with storage `σ`, external functions `κ`, roles `ρ` and errors `ε`. -/
structure Contract (σ κ ρ ε : Type) where
  /-- the storages that the constructor leaves -/
  Initial : σ → Prop
  /-- run an external function -/
  exec : Msg → σ → κ → Call ε (σ × List TokenCall)
  /-- ownership and roles, which inherited code manages, are set -/
  setRoles : σ → ρ → σ
  /-- tokens are pulled from the caller only -/
  pulls_sender : ∀ {m s c r}, exec m s c = .ok r → ∀ {holder v},
    TokenCall.transferFrom holder v ∈ r.2 → holder = m.sender

/-- The storage of the contract, its token and the clock. -/
structure World (σ : Type) (cap : ℕ) where
  /-- the timestamp of the last step -/
  now : ℕ
  storage : σ
  token : Token cap

/-- What can happen next, at a time `t`. -/
inductive Action (κ ρ : Type) where
  /-- `sender` calls an external function of the contract. -/
  | call (sender : Address) (t : ℕ) (c : κ)
  /-- Another account uses the token. -/
  | token (t : ℕ) (op : Token.Op)
  /-- Ownership or roles change. -/
  | access (t : ℕ) (roles : ρ)

variable {σ κ ρ ε : Type} {cap : ℕ}

/-- The time of a step. -/
def Action.time : Action κ ρ → ℕ
  | .call _ t _ => t
  | .token t _ => t
  | .access t _ => t

namespace World

/-- What a call by `sender` at time `t` reads from its surroundings. -/
def msg (self : Address) (w : World σ cap) (sender : Address) (t : ℕ) : Msg :=
  ⟨sender, t, w.token.balanceOf self⟩

/-- The clock may move from `w.now` to `t`. -/
def Admits (w : World σ cap) (t : ℕ) : Prop := w.now ≤ t ∧ t < timestampBound

instance (w : World σ cap) (t : ℕ) : Decidable (w.Admits t) := inferInstanceAs (Decidable (_ ∧ _))

/-- One step of the world in which the contract lives at `self`. -/
def next (C : Contract σ κ ρ ε) (self : Address) (w : World σ cap) :
    Action κ ρ → Option (World σ cap)
  | .call sender t c =>
    if w.Admits t ∧ sender ≠ self ∧ sender ≠ 0 then
      match C.exec (w.msg self sender t) w.storage c with
      | .error _ => none
      | .ok (s', calls) =>
        match Token.runCalls self calls w.token with
        | .error _ => none
        | .ok T' => some ⟨t, s', T'⟩
    else none
  | .token t op =>
    if w.Admits t ∧ op.actor ≠ some self then
      match op.apply w.token with
      | .error _ => none
      | .ok T' => some ⟨t, w.storage, T'⟩
    else none
  | .access t roles =>
    if w.Admits t then some ⟨t, C.setRoles w.storage roles, w.token⟩ else none

end World

/-- The step relation of the contract at `self`. -/
def Step (C : Contract σ κ ρ ε) (self : Address) (w : World σ cap) (a : Action κ ρ)
    (w' : World σ cap) : Prop := w.next C self a = some w'

/-- The worlds in which the contract has just been deployed at `self`. The token may be in any
state in which the new address has approved nobody. -/
structure Deployed (C : Contract σ κ ρ ε) (contract : Address) (w : World σ cap) : Prop where
  ne_zero : contract ≠ 0
  now_lt : w.now < timestampBound
  initial : C.Initial w.storage
  allowance : ∀ spender, w.token.allowance contract spender = 0

/-- The worlds that some run from a deployment reaches. -/
def Reached (C : Contract σ κ ρ ε) (self : Address) (w : World σ cap) : Prop :=
  ∃ w₀, Deployed C self w₀ ∧ Reachable (Step C self) w₀ w

/-! ## What a step does -/

section Steps

variable {C : Contract σ κ ρ ε} {self : Address} {w w' : World σ cap} {a : Action κ ρ}

/-- **The three kinds of steps.** -/
theorem step_cases (h : Step C self w a w') :
    (∃ sender t c calls, a = .call sender t c ∧ w.Admits t ∧ sender ≠ self ∧ sender ≠ 0 ∧
        C.exec (w.msg self sender t) w.storage c = .ok (w'.storage, calls) ∧
        Token.runCalls self calls w.token = .ok w'.token ∧ w'.now = t) ∨
      (∃ t op, a = .token t op ∧ w.Admits t ∧ op.actor ≠ some self ∧
        op.apply w.token = .ok w'.token ∧ w' = ⟨t, w.storage, w'.token⟩) ∨
      (∃ t roles, a = .access t roles ∧ w.Admits t ∧
        w' = ⟨t, C.setRoles w.storage roles, w.token⟩) := by
  unfold Step at h
  cases a <;> simp only [World.next] at h
  case call sender t c =>
    split at h
    · next hadm =>
      split at h
      · cases h
      · next s' calls hexec =>
        split at h
        · cases h
        · next T' htoken =>
          cases h
          exact .inl ⟨sender, t, c, calls, rfl, hadm.1, hadm.2.1, hadm.2.2, hexec, htoken,
            rfl⟩
    · cases h
  case token t op =>
    split at h
    · next hadm =>
      split at h
      · cases h
      · next T' happly =>
        cases h
        exact .inr (.inl ⟨t, op, rfl, hadm.1, hadm.2, happly, rfl⟩)
    · cases h
  case access t roles =>
    split at h
    · next hadm =>
      cases h
      exact .inr (.inr ⟨t, roles, rfl, hadm, rfl⟩)
    · cases h

/-- The clock after a step is the time of the step. -/
lemma step_now (h : Step C self w a w') : w.Admits a.time ∧ w'.now = a.time := by
  rcases step_cases h with ⟨_, _, _, _, rfl, hadm, -, -, -, -, hnow⟩ |
    ⟨_, _, rfl, hadm, -, -, hw'⟩ | ⟨_, _, rfl, hadm, rfl⟩
  · exact ⟨hadm, hnow⟩
  · exact ⟨hadm, by rw [hw']; rfl⟩
  · exact ⟨hadm, rfl⟩

lemma now_le_of_step (h : Step C self w a w') : w.now ≤ w'.now := by
  obtain ⟨hadm, hnow⟩ := step_now h
  exact hnow ▸ hadm.1

/-- The contract has approved nobody. -/
def NoAllowance (self : Address) (w : World σ cap) : Prop :=
  ∀ spender, w.token.allowance self spender = 0

/-- **What a step does to the tokens of the contract.** A call moves its flows; what others do with
the token can only add to the balance. -/
theorem step_balance (hall : NoAllowance self w) (h : Step C self w a w') : NoAllowance self w' ∧
    ((∃ sender t c calls, a = .call sender t c ∧ sender ≠ self ∧
        C.exec (w.msg self sender t) w.storage c = .ok (w'.storage, calls) ∧
        Token.runCalls self calls w.token = .ok w'.token ∧
        w.token.balanceOf self + inflow calls ≤ w'.token.balanceOf self + outflow calls) ∨
      ((∀ sender t c, a ≠ .call sender t c) ∧
        (w'.storage = w.storage ∨ ∃ roles, w'.storage = C.setRoles w.storage roles) ∧
        w.token.balanceOf self ≤ w'.token.balanceOf self)) := by
  rcases step_cases h with ⟨sender, t, c, calls, rfl, -, hself, -, hexec, htoken, -⟩ |
    ⟨t, op, rfl, -, hact, happly, hw'⟩ | ⟨t, roles, rfl, -, rfl⟩
  · obtain ⟨hbal, hall'⟩ := Token.runCalls_balance
      (fun holder v hmem => by rw [C.pulls_sender hexec hmem]; exact hself) htoken
    exact ⟨fun spender => by rw [hall']; exact hall spender,
      .inl ⟨sender, t, c, calls, rfl, hself, hexec, htoken, hbal⟩⟩
  · obtain ⟨hbal, hall'⟩ := Token.Op.apply_self hact hall happly
    exact ⟨hall', .inr ⟨nofun, .inl (by rw [hw']), hbal⟩⟩
  · exact ⟨hall, .inr ⟨nofun, .inr ⟨roles, rfl⟩, le_rfl⟩⟩

end Steps

/-! ## Concrete runs -/

section Traces

variable (C : Contract σ κ ρ ε) (self : Address)

/-- The run of a list of actions, up to the first that is refused. -/
def World.trace (w : World σ cap) (actions : List (Action κ ρ)) :
    List (Action κ ρ × World σ cap) := Lib.trace (World.next C self) w actions

lemma World.trace_path {w : World σ cap} {actions : List (Action κ ρ)} :
    Path (Step C self) w (w.trace C self actions) := Lib.trace_path w actions

/-- Every run of a list of actions from a deployment reaches its last state. -/
lemma Deployed.reached {w : World σ cap} (h : Deployed C self w) {actions : List (Action κ ρ)} :
    Reached C self (endState w (w.trace C self actions)) :=
  ⟨w, h, _, World.trace_path C self, rfl⟩

end Traces

end Moltbunker.Contracts.Chain
