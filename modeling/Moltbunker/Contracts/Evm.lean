import Moltbunker.Lib.Checked
import Moltbunker.Lib.PointUpdate

/-!
# What the contracts take from the chain

* `Address` is the 160-bit account name, with `0` for Solidity's `address(0)`. It is a finite
  type, so "the sum over all providers" is a sum over `Address`.
* `Bytes32` is the 32-byte word used for node and region identifiers.
* `Msg` is what a call reads from its surroundings: `msg.sender`, `block.timestamp`, and
  `token.balanceOf(address(this))` at the start of the call, the only foreign state that the
  contracts of `src/contracts` read before they move tokens themselves.
* `TokenCall` is a token operation a contract asks for. A contract function returns its new
  storage together with the list of its token calls; the token (`Token.lean`) executes the list,
  and the whole call reverts when one of them does.

The chain bounds `block.timestamp` by its 64-bit header field (`timestampBound`). Reentrancy is
excluded by the token, which calls nobody, so the `nonReentrant` guards have no counterpart.
-/

namespace Moltbunker.Contracts

/-- A 160-bit account address. -/
structure Address where
  toFin : Fin (2 ^ 160)
  deriving DecidableEq

/-- Numerals name addresses; `0` is `address(0)`. -/
instance (n : ℕ) : OfNat Address n := ⟨⟨Fin.ofNat (2 ^ 160) n⟩⟩

/-- There are finitely many addresses. -/
instance : Fintype Address :=
  Fintype.ofEquiv (Fin (2 ^ 160)) ⟨Address.mk, Address.toFin, fun _ => rfl, fun _ => rfl⟩

/-- A 32-byte word. -/
abbrev Bytes32 : Type := BitVec 256

/-- `block.timestamp` is read from a 64-bit header field. -/
def timestampBound : ℕ := 2 ^ 64

/-- What a call reads from its surroundings. -/
structure Msg where
  /-- `msg.sender` -/
  sender : Address
  /-- `block.timestamp` -/
  timestamp : ℕ
  /-- `token.balanceOf(address(this))` at the start of the call -/
  balance : ℕ

/-- A token operation that a contract asks for in the course of a call. -/
inductive TokenCall where
  /-- `token.safeTransferFrom(holder, address(this), amount)` -/
  | transferFrom (holder : Address) (amount : ℕ)
  /-- `token.safeTransfer(dst, amount)` -/
  | transfer (dst : Address) (amount : ℕ)
  /-- `IBurnable(address(token)).burn(amount)` -/
  | burn (amount : ℕ)
  deriving DecidableEq

namespace TokenCall

/-- Tokens the call brings to the contract. -/
def inflow : TokenCall → ℕ
  | transferFrom _ v => v
  | transfer _ _ => 0
  | burn _ => 0

/-- Tokens the call takes from the contract. -/
def outflow : TokenCall → ℕ
  | transferFrom _ _ => 0
  | transfer _ v => v
  | burn v => v

end TokenCall

/-- Tokens that a list of calls brings in. -/
def inflow (calls : List TokenCall) : ℕ := (calls.map TokenCall.inflow).sum

/-- Tokens that a list of calls takes out. -/
def outflow (calls : List TokenCall) : ℕ := (calls.map TokenCall.outflow).sum

@[simp] lemma inflow_nil : inflow [] = 0 := rfl

@[simp] lemma outflow_nil : outflow [] = 0 := rfl

@[simp] lemma inflow_cons (c : TokenCall) (cs : List TokenCall) :
    inflow (c :: cs) = c.inflow + inflow cs := by simp [inflow]

@[simp] lemma outflow_cons (c : TokenCall) (cs : List TokenCall) :
    outflow (c :: cs) = c.outflow + outflow cs := by simp [outflow]

@[simp] lemma inflow_append (cs ds : List TokenCall) :
    inflow (cs ++ ds) = inflow cs + inflow ds := by simp [inflow]

@[simp] lemma outflow_append (cs ds : List TokenCall) :
    outflow (cs ++ ds) = outflow cs + outflow ds := by simp [outflow]

/-- Tokens that a list of calls sends to `p`. -/
def sentTo (p : Address) : List TokenCall → ℕ
  | [] => 0
  | .transfer dst v :: cs => (if dst = p then v else 0) + sentTo p cs
  | _ :: cs => sentTo p cs

@[simp] lemma sentTo_append (p : Address) (cs ds : List TokenCall) :
    sentTo p (cs ++ ds) = sentTo p cs + sentTo p ds := by
  induction cs with
  | nil => exact (Nat.zero_add _).symm
  | cons c cs ih =>
    cases c with
    | transfer dst v =>
      show _ + sentTo p (cs ++ ds) = _ + sentTo p cs + sentTo p ds
      rw [ih, Nat.add_assoc]
    | transferFrom holder v => exact ih
    | burn v => exact ih

end Moltbunker.Contracts
