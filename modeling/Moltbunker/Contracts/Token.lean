import Moltbunker.Contracts.Evm

/-!
# The BUNKER token

`BunkerToken` is an ERC-20 with exact transfers, `burn` for any holder and owner-controlled
`mint` under `SUPPLY_CAP`. The ERC-20 base is not part of the repository; it is modelled by what
the standard documents of it (exact moves, the balance and allowance checks, the rejected zero
address), which is also what the contracts of the repository assume of their token. The cap is a
parameter of the type, so that the escrow, which assumes no cap, is covered by the same model.

`Token cap` carries its own accounting: the balances add up to the supply and the supply is at
most `cap`, so no operation below can be written that creates or loses tokens.

* `Token.runCalls self` executes the token calls of the contract at `self`.
* `Token.Op` lists what every other account may do with the token between two calls. An account
  other than `self` acts in each of them; `self` never approves a spender, so none of them can
  take tokens from it (`Token.Op.apply_self`).
-/

namespace Moltbunker.Contracts

open Lib Function
open Finset

/-- `BunkerToken.SUPPLY_CAP`: 100 billion tokens of 18 decimals. -/
def supplyCap : ℕ := 100000000000 * 10 ^ 18

lemma supplyCap_lt : supplyCap < 2 ^ 128 := by decide

/-- `type(uint256).max`, the allowance that is never spent down. -/
def maxUint256 : ℕ := 2 ^ 256 - 1

/-- The errors of the token. -/
inductive TokenError where
  | insufficientBalance (holder : Address) (balance needed : ℕ)
  | insufficientAllowance (spender : Address) (allowance needed : ℕ)
  | invalidSender
  | invalidReceiver
  | invalidApprover
  | invalidSpender
  | supplyCapExceeded (requested available : ℕ)
  | mintAmountZero
  deriving DecidableEq

/-- The storage of an exact-transfer ERC-20 whose supply stays under `cap`. -/
structure Token (cap : ℕ) where
  balanceOf : Address → ℕ
  /-- `allowance holder spender` -/
  allowance : Address → Address → ℕ
  totalSupply : ℕ
  /-- The balances add up to the supply. -/
  sum_balanceOf : ∑ a, balanceOf a = totalSupply
  totalSupply_le : totalSupply ≤ cap

namespace Token

variable {cap : ℕ}

/-- The token before anything was minted. -/
def empty (cap : ℕ) : Token cap where
  balanceOf _ := 0
  allowance _ _ := 0
  totalSupply := 0
  sum_balanceOf := by simp
  totalSupply_le := Nat.zero_le _

lemma balanceOf_le_cap (T : Token cap) (a : Address) : T.balanceOf a ≤ cap :=
  (entry_le_sum T.balanceOf a).trans (T.sum_balanceOf.le.trans T.totalSupply_le)

/-- Debit `src`, then credit `dst`. -/
def moved (b : Address → ℕ) (src dst : Address) (v : ℕ) : Address → ℕ :=
  let b' := update b src (b src - v)
  update b' dst (b' dst + v)

variable {src dst a sender holder spender self : Address} {v : ℕ} {T T' : Token cap}

lemma sum_moved {b : Address → ℕ} (h : v ≤ b src) : ∑ a, moved b src dst v a = ∑ a, b a := by
  have h₁ := sum_update id b src (b src - v)
  have h₂ := sum_update id (update b src (b src - v)) dst
    (update b src (b src - v) dst + v)
  simp only [id] at h₁ h₂
  unfold moved
  omega

/-- The exact move of `v` tokens. -/
def move (T : Token cap) (src dst : Address) (v : ℕ) (h : v ≤ T.balanceOf src) : Token cap where
  balanceOf := moved T.balanceOf src dst v
  allowance := T.allowance
  totalSupply := T.totalSupply
  sum_balanceOf := by rw [sum_moved h]; exact T.sum_balanceOf
  totalSupply_le := T.totalSupply_le

/-- `ERC20.transfer` -/
def transfer (sender dst : Address) (v : ℕ) (T : Token cap) : Call TokenError (Token cap) := do
  revertIf (sender = 0) .invalidSender
  revertIf (dst = 0) .invalidReceiver
  if h : v ≤ T.balanceOf sender then
    return T.move sender dst v h
  else
    throw (.error (.insufficientBalance sender (T.balanceOf sender) v))

/-- `ERC20.approve`, also reached through `permit` with the holder's signature. -/
def approve (holder spender : Address) (v : ℕ) (T : Token cap) : Call TokenError (Token cap) := do
  revertIf (holder = 0) .invalidApprover
  revertIf (spender = 0) .invalidSpender
  return { T with
    allowance := update T.allowance holder
      (update (T.allowance holder) spender v) }

/-- `ERC20._spendAllowance`: an allowance of `type(uint256).max` is not spent down. -/
def spendAllowance (holder spender : Address) (v : ℕ) (T : Token cap) :
    Call TokenError (Token cap) := do
  if T.allowance holder spender < maxUint256 then
    revertIf (T.allowance holder spender < v)
      (.insufficientAllowance spender (T.allowance holder spender) v)
    approve holder spender (T.allowance holder spender - v) T
  else
    return T

/-- `ERC20.transferFrom` -/
def transferFrom (spender src dst : Address) (v : ℕ) (T : Token cap) :
    Call TokenError (Token cap) := do
  let T' ← spendAllowance src spender v T
  transfer src dst v T'

/-- `ERC20Burnable.burn` -/
def burn (sender : Address) (v : ℕ) (T : Token cap) : Call TokenError (Token cap) := do
  revertIf (sender = 0) .invalidSender
  if h : v ≤ T.balanceOf sender then
    return {
      balanceOf := update T.balanceOf sender (T.balanceOf sender - v)
      allowance := T.allowance
      totalSupply := T.totalSupply - v
      sum_balanceOf := by
        have h₁ := sum_update id T.balanceOf sender (T.balanceOf sender - v)
        have h₂ := T.sum_balanceOf
        simp only [id] at h₁
        omega
      totalSupply_le := (Nat.sub_le _ _).trans T.totalSupply_le }
  else
    throw (.error (.insufficientBalance sender (T.balanceOf sender) v))

/-- `ERC20Burnable.burnFrom` -/
def burnFrom (spender holder : Address) (v : ℕ) (T : Token cap) : Call TokenError (Token cap) := do
  let T' ← spendAllowance holder spender v T
  burn holder v T'

/-- `BunkerToken.mint`; the caller passed `onlyOwner`. -/
def mint (dst : Address) (v : ℕ) (T : Token cap) : Call TokenError (Token cap) := do
  revertIf (v = 0) .mintAmountZero
  if h : v ≤ cap - T.totalSupply then
    revertIf (dst = 0) .invalidReceiver
    return {
      balanceOf := update T.balanceOf dst (T.balanceOf dst + v)
      allowance := T.allowance
      totalSupply := T.totalSupply + v
      sum_balanceOf := by
        have h₁ := sum_update id T.balanceOf dst (T.balanceOf dst + v)
        have h₂ := T.sum_balanceOf
        simp only [id] at h₁
        omega
      totalSupply_le := by
        have h₁ := T.totalSupply_le
        omega }
  else
    throw (.error (.supplyCapExceeded v (cap - T.totalSupply)))

/-! ## The calls of a contract -/

/-- Execute one token call of the contract at `self`. -/
def runCall (self : Address) : TokenCall → Token cap → Call TokenError (Token cap)
  | .transferFrom holder v, T => transferFrom self holder self v T
  | .transfer dst v, T => transfer self dst v T
  | .burn v, T => burn self v T

/-- Execute the token calls of the contract at `self`, in order. -/
def runCalls (self : Address) : List TokenCall → Token cap → Call TokenError (Token cap)
  | [], T => return T
  | c :: cs, T => do
      let T' ← runCall self c T
      runCalls self cs T'

/-! ### What the operations do to balances -/

lemma move_balanceOf_src (h : v ≤ T.balanceOf src) (hne : src ≠ dst) :
    (T.move src dst v h).balanceOf src = T.balanceOf src - v := by
  simp [move, moved, update_of_ne hne]

lemma move_balanceOf_dst (h : v ≤ T.balanceOf src) (hne : src ≠ dst) :
    (T.move src dst v h).balanceOf dst = T.balanceOf dst + v := by
  simp [move, moved, update_of_ne (Ne.symm hne)]

/-- A successful transfer is the exact move. -/
lemma transfer_eq_ok : transfer sender dst v T = .ok T' ↔
    sender ≠ 0 ∧ dst ≠ 0 ∧ ∃ h : v ≤ T.balanceOf sender, T' = T.move sender dst v h := by
  unfold transfer
  simp only [bind_eq_ok, revertIf_eq_ok]
  by_cases h : v ≤ T.balanceOf sender
  · simp [h, eq_comm]
  · simp [h, throw_eq_ok]

lemma approve_balanceOf (h : approve holder spender v T = .ok T') :
    T'.balanceOf = T.balanceOf := by
  simp only [approve, bind_eq_ok, revertIf_eq_ok, pure_eq_ok] at h
  obtain ⟨_, _, _, _, rfl⟩ := h
  rfl

lemma approve_allowance_of_ne (h : approve holder spender v T = .ok T') (ha : a ≠ holder) :
    T'.allowance a = T.allowance a := by
  simp only [approve, bind_eq_ok, revertIf_eq_ok, pure_eq_ok] at h
  obtain ⟨_, _, _, _, rfl⟩ := h
  exact update_of_ne ha _ _

lemma spendAllowance_balanceOf (h : spendAllowance holder spender v T = .ok T') :
    T'.balanceOf = T.balanceOf := by
  unfold spendAllowance at h
  split at h
  · simp only [bind_eq_ok, revertIf_eq_ok] at h
    obtain ⟨_, _, h⟩ := h
    exact approve_balanceOf h
  · rw [pure_eq_ok.mp h]

lemma spendAllowance_allowance_of_ne (h : spendAllowance holder spender v T = .ok T')
    (ha : a ≠ holder) : T'.allowance a = T.allowance a := by
  unfold spendAllowance at h
  split at h
  · simp only [bind_eq_ok, revertIf_eq_ok] at h
    obtain ⟨_, _, h⟩ := h
    exact approve_allowance_of_ne h ha
  · rw [pure_eq_ok.mp h]

lemma burn_eq_ok (h : burn sender v T = .ok T') :
    v ≤ T.balanceOf sender ∧ T'.allowance = T.allowance ∧
      T'.balanceOf = update T.balanceOf sender (T.balanceOf sender - v) := by
  unfold burn at h
  simp only [bind_eq_ok, revertIf_eq_ok] at h
  obtain ⟨_, _, h⟩ := h
  split at h
  · next hv =>
    rw [pure_eq_ok] at h
    subst h
    exact ⟨hv, rfl, rfl⟩
  · exact absurd h (by simp [throw_eq_ok])

lemma burn_ok (h₀ : sender ≠ 0) (hv : v ≤ T.balanceOf sender) :
    ∃ T', burn sender v T = .ok T' := by
  unfold burn
  rw [revertIf_neg h₀, ok_bind, dif_pos hv]
  exact ⟨_, rfl⟩

lemma transfer_ok (h₀ : sender ≠ 0) (h₁ : dst ≠ 0) (hv : v ≤ T.balanceOf sender) :
    transfer sender dst v T = .ok (T.move sender dst v hv) :=
  transfer_eq_ok.mpr ⟨h₀, h₁, hv, rfl⟩

/-! ### The balance of the calling contract -/

/-- A successful pull brings exactly the amount, which the holder had. -/
lemma transferFrom_self (hne : holder ≠ self) (h : transferFrom self holder self v T = .ok T') :
    T'.balanceOf self = T.balanceOf self + v ∧ v ≤ T.balanceOf holder ∧
      T'.allowance self = T.allowance self := by
  unfold transferFrom at h
  rw [bind_eq_ok] at h
  obtain ⟨T₁, hspend, h⟩ := h
  have hbal := spendAllowance_balanceOf hspend
  have hall := spendAllowance_allowance_of_ne hspend (Ne.symm hne)
  obtain ⟨-, -, hv, rfl⟩ := transfer_eq_ok.mp h
  refine ⟨?_, by rw [← hbal]; exact hv, hall⟩
  rw [move_balanceOf_dst hv hne, hbal]

/-- **One token call changes the contract's balance by its flow.** A transfer to the contract
itself leaves the balance where it was, so the outflow is an upper bound there. -/
theorem runCall_balance {c : TokenCall}
    (hne : ∀ holder v, c = .transferFrom holder v → holder ≠ self) (h : runCall self c T = .ok T') :
    T.balanceOf self + c.inflow ≤ T'.balanceOf self + c.outflow ∧
      c.outflow ≤ T.balanceOf self ∧ T'.allowance self = T.allowance self := by
  cases c with
  | transferFrom holder v =>
    obtain ⟨hb, -, ha⟩ := transferFrom_self (hne holder v rfl) h
    refine ⟨?_, Nat.zero_le _, ha⟩
    rw [hb]
    exact Nat.le_add_right _ _
  | transfer dst v =>
    obtain ⟨-, -, hv, rfl⟩ := transfer_eq_ok.mp h
    refine ⟨?_, hv, rfl⟩
    by_cases hd : self = dst
    · subst hd
      simp only [move, moved, update_self, Nat.sub_add_cancel hv]
      exact Nat.add_le_add_left (Nat.zero_le _) _
    · rw [move_balanceOf_src hv hd]
      simp only [TokenCall.inflow, TokenCall.outflow]
      omega
  | burn v =>
    obtain ⟨hv, ha, hb⟩ := burn_eq_ok h
    refine ⟨?_, hv, by rw [ha]⟩
    rw [hb, update_self]
    simp only [TokenCall.inflow, TokenCall.outflow]
    omega

/-- **A list of token calls changes the contract's balance by its flows.** -/
theorem runCalls_balance {cs : List TokenCall}
    (hne : ∀ holder v, TokenCall.transferFrom holder v ∈ cs → holder ≠ self)
    (h : runCalls self cs T = .ok T') :
    T.balanceOf self + inflow cs ≤ T'.balanceOf self + outflow cs ∧
      T'.allowance self = T.allowance self := by
  induction cs generalizing T with
  | nil =>
    rw [runCalls, pure_eq_ok] at h
    subst h
    exact ⟨le_rfl, rfl⟩
  | cons c cs ih =>
    rw [runCalls, bind_eq_ok] at h
    obtain ⟨T₁, hc, hcs⟩ := h
    obtain ⟨h₁, -, ha₁⟩ := runCall_balance (fun holder v e => hne holder v (by simp [e])) hc
    obtain ⟨h₂, ha₂⟩ := ih (fun holder v hm => hne holder v (List.mem_cons_of_mem c hm)) hcs
    refine ⟨?_, ha₂.trans ha₁⟩
    rw [inflow_cons, outflow_cons]
    omega

/-! ## What the other accounts do -/

/-- The operations of accounts other than the modelled contract, between two of its calls. -/
inductive Op where
  | transfer (sender dst : Address) (v : ℕ)
  | approve (holder spender : Address) (v : ℕ)
  | transferFrom (spender src dst : Address) (v : ℕ)
  | burn (sender : Address) (v : ℕ)
  | burnFrom (spender holder : Address) (v : ℕ)
  | mint (dst : Address) (v : ℕ)

namespace Op

/-- The account that makes the call; minting is the token owner's. -/
def actor : Op → Option Address
  | transfer sender _ _ => some sender
  | approve holder _ _ => some holder
  | transferFrom spender _ _ _ => some spender
  | burn sender _ => some sender
  | burnFrom spender _ _ => some spender
  | mint _ _ => none

/-- Execute the operation. -/
def apply : Op → Token cap → Call TokenError (Token cap)
  | transfer sender dst v, T => T.transfer sender dst v
  | approve holder spender v, T => T.approve holder spender v
  | transferFrom spender src dst v, T => T.transferFrom spender src dst v
  | burn sender v, T => T.burn sender v
  | burnFrom spender holder v, T => T.burnFrom spender holder v
  | mint dst v, T => T.mint dst v

end Op

/-- An account that approved nobody keeps its whole balance when tokens are moved out of it. -/
lemma spendAllowance_zero (h₀ : T.allowance holder spender = 0)
    (h : spendAllowance holder spender v T = .ok T') :
    v = 0 ∧ T'.allowance holder = T.allowance holder := by
  unfold spendAllowance at h
  rw [if_pos (by rw [h₀]; decide)] at h
  simp only [bind_eq_ok, revertIf_eq_ok] at h
  obtain ⟨_, hv, h⟩ := h
  refine ⟨by omega, ?_⟩
  simp only [approve, bind_eq_ok, revertIf_eq_ok, pure_eq_ok] at h
  obtain ⟨_, _, _, _, rfl⟩ := h
  funext a
  by_cases ha : a = spender
  · subst ha
    simp [h₀]
  · simp [update_of_ne ha]

/-- A transfer out of another account never lowers the balance of `self`. -/
lemma transfer_balanceOf_le {sender dst self : Address} {v : ℕ} {T T' : Token cap}
    (hne : sender ≠ self ∨ v = 0) (h : transfer sender dst v T = .ok T') :
    T.balanceOf self ≤ T'.balanceOf self ∧ T'.allowance = T.allowance := by
  obtain ⟨-, -, hv, rfl⟩ := transfer_eq_ok.mp h
  simp only [move, moved]
  by_cases hs : self = sender
  · subst hs
    have hv0 : v = 0 := by tauto
    by_cases hd : self = dst
    · simp [← hd, hv0]
    · simp [hd, hv0]
  · by_cases hd : self = dst
    · simp [← hd, update_of_ne hs]
    · simp [hd, hs]

/-- **Nobody else can take tokens from a contract that approved nobody.** -/
theorem Op.apply_self {op : Op} (hact : op.actor ≠ some self) (hall : ∀ a, T.allowance self a = 0)
    (h : op.apply T = .ok T') :
    T.balanceOf self ≤ T'.balanceOf self ∧ ∀ a, T'.allowance self a = 0 := by
  cases op with
  | transfer sender dst v =>
    have hne : sender ≠ self := fun e => hact (by rw [e]; rfl)
    obtain ⟨hb, ha⟩ := transfer_balanceOf_le (.inl hne) h
    exact ⟨hb, by rw [ha]; exact hall⟩
  | approve holder spender v =>
    have hne : self ≠ holder := fun e => hact (by rw [e]; rfl)
    refine ⟨(congrFun (approve_balanceOf h) self).ge, ?_⟩
    rw [approve_allowance_of_ne h hne]
    exact hall
  | transferFrom spender src dst v =>
    simp only [Op.apply, Token.transferFrom, bind_eq_ok] at h
    obtain ⟨T₁, hspend, h⟩ := h
    have hbal := congrFun (spendAllowance_balanceOf hspend) self
    by_cases hs : src = self
    · subst hs
      obtain ⟨hv, ha⟩ := spendAllowance_zero (hall spender) hspend
      obtain ⟨hb, ha'⟩ := @transfer_balanceOf_le _ _ _ src _ _ _ (.inr hv) h
      exact ⟨hbal ▸ hb, by rw [ha', ha]; exact hall⟩
    · obtain ⟨hb, ha'⟩ := transfer_balanceOf_le (.inl hs) h
      rw [ha', spendAllowance_allowance_of_ne hspend (Ne.symm hs)]
      exact ⟨hbal ▸ hb, hall⟩
  | burn sender v =>
    have hne : self ≠ sender := fun e => hact (by rw [e]; rfl)
    obtain ⟨-, ha, hb⟩ := burn_eq_ok h
    rw [ha, hb, update_of_ne hne]
    exact ⟨le_rfl, hall⟩
  | burnFrom spender holder v =>
    simp only [Op.apply, Token.burnFrom, bind_eq_ok] at h
    obtain ⟨T₁, hspend, h⟩ := h
    have hbal := congrFun (spendAllowance_balanceOf hspend) self
    obtain ⟨-, ha', hb⟩ := burn_eq_ok h
    by_cases hs : self = holder
    · subst hs
      obtain ⟨rfl, ha⟩ := spendAllowance_zero (hall spender) hspend
      rw [ha', ha, hb, update_self, Nat.sub_zero]
      exact ⟨hbal.ge, hall⟩
    · rw [ha', hb, update_of_ne hs, spendAllowance_allowance_of_ne hspend hs]
      exact ⟨hbal.ge, hall⟩
  | mint dst v =>
    simp only [Op.apply, Token.mint, bind_eq_ok, revertIf_eq_ok] at h
    obtain ⟨_, _, h⟩ := h
    split at h
    · simp only [bind_eq_ok, revertIf_eq_ok, pure_eq_ok] at h
      obtain ⟨_, _, rfl⟩ := h
      refine ⟨?_, hall⟩
      by_cases hd : self = dst
      · subst hd
        simp
      · simp [update_of_ne hd]
    · exact absurd h (by simp [throw_eq_ok])

end Token

end Moltbunker.Contracts
