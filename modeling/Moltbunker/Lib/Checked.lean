import Mathlib

/-!
# Reverting computations and checked machine arithmetic

A call of a smart contract either returns a value or reverts and leaves no trace. The library
writes such calls in `Except (Revert ε)`:

* `Revert ε` separates a **panic** (the arithmetic checks of the compiler) from a declared error
  of the contract;
* `revertIf c e` is the guard `if (c) revert e`;
* `addW w`, `mulW w`, `subC`, `divC` are the checked operations on words held as natural numbers;
* `addB`, `subB` are the checked operations on words that are stored with their width, as
  `BitVec w`. The narrowing cast is `BitVec.ofNat w`, which silently drops the high bits.

Every operation comes with the equivalence that says when it returns (`_eq_ok`). Together with
`bind_eq_ok` these turn "the call returned `r`" into the list of what held on the way, which is
the only form in which the developments above use a returned call.
-/

namespace Moltbunker.Lib

variable {ε α β : Type}

/-- Why a call did not return. -/
inductive Revert (ε : Type) where
  /-- A failed check of the compiler: overflow, underflow, division by zero. -/
  | panic
  /-- An error the contract declares. -/
  | error (e : ε)
  deriving DecidableEq, Repr

/-- Computations that may revert. -/
abbrev Call (ε α : Type) : Type := Except (Revert ε) α

/-- The computation fails a check of the compiler. -/
def panics {ε α : Type} : Call ε α → Bool
  | .error .panic => true
  | _ => false

lemma panics_iff {x : Call ε α} : panics x = true ↔ x = .error .panic := by
  unfold panics
  split
  · simp
  · next h => exact ⟨fun h' => (Bool.false_ne_true h').elim, fun h' => (h h').elim⟩

/-! ## Sequencing -/

variable {x : Call ε α} {f : α → Call ε β} {r : Revert ε} {c : Prop} {w a b : ℕ}

/-- A sequence returns iff its first part returns and the rest returns on that value. -/
lemma bind_eq_ok {b : β} : (x >>= f) = .ok b ↔ ∃ a, x = .ok a ∧ f a = .ok b := by
  cases x <;> simp [bind, Except.bind]

lemma pure_eq_ok {a b : α} : (pure a : Call ε α) = .ok b ↔ a = b := by
  simp [pure, Except.pure]

lemma throw_eq_ok {b : α} : (throw r : Call ε α) = .ok b ↔ False := by
  simp [throw, throwThe, MonadExceptOf.throw]

@[simp] lemma ok_bind {a : α} {f : α → Call ε β} : ((.ok a : Call ε α) >>= f) = f a := rfl

@[simp] lemma error_bind (r : Revert ε) {f : α → Call ε β} :
    ((.error r : Call ε α) >>= f) = .error r := rfl

@[simp] lemma pure_eq {a : α} : (pure a : Call ε α) = .ok a := rfl

/-! ## Guards -/

/-- The guard `if (c) revert e`. -/
def revertIf (c : Prop) [Decidable c] (e : ε) : Call ε Unit :=
  if c then .error (.error e) else .ok ()

lemma revertIf_eq_ok [Decidable c] {e : ε} {u : Unit} : revertIf c e = .ok u ↔ ¬ c := by
  unfold revertIf
  split <;> simp_all

lemma revertIf_neg [Decidable c] (h : ¬ c) (e : ε) :
    revertIf c e = .ok () := if_neg h

/-! ## Checked words -/

/-- Checked addition of `w`-bit words. -/
def addW (w a b : ℕ) : Call ε ℕ := if a + b < 2 ^ w then .ok (a + b) else .error .panic

/-- Checked multiplication of `w`-bit words. -/
def mulW (w a b : ℕ) : Call ε ℕ := if a * b < 2 ^ w then .ok (a * b) else .error .panic

/-- Checked subtraction: panics below zero. -/
def subC (a b : ℕ) : Call ε ℕ := if b ≤ a then .ok (a - b) else .error .panic

/-- Checked division: panics on a zero divisor. -/
def divC (a b : ℕ) : Call ε ℕ := if b = 0 then .error .panic else .ok (a / b)

/-- Checked addition of stored words. -/
def addB {w : ℕ} (a b : BitVec w) : Call ε (BitVec w) :=
  if a.toNat + b.toNat < 2 ^ w then .ok (a + b) else .error .panic

/-- Checked subtraction of stored words. -/
def subB {w : ℕ} (a b : BitVec w) : Call ε (BitVec w) :=
  if b.toNat ≤ a.toNat then .ok (a - b) else .error .panic

/-! ## Computations that fail only in a check of the compiler -/

/-- The computation returns or panics. -/
def OnlyPanics (x : Call ε α) : Prop := ∀ r, x = .error r → r = .panic

lemma bind_eq_error : (x >>= f) = .error r ↔ x = .error r ∨ ∃ a, x = .ok a ∧ f a = .error r := by
  cases x <;> simp [bind, Except.bind]

lemma OnlyPanics.bind (hx : OnlyPanics x) (hf : ∀ a, OnlyPanics (f a)) :
    OnlyPanics (x >>= f) := by
  intro r h
  rcases bind_eq_error.mp h with h | ⟨a, -, h⟩
  · exact hx r h
  · exact hf a r h

lemma OnlyPanics.ok (a : α) : OnlyPanics (.ok a : Call ε α) := by
  intro r h
  cases h

lemma OnlyPanics.ite [Decidable c] {y : Call ε α} (hx : OnlyPanics x) (hy : OnlyPanics y) :
    OnlyPanics (if c then x else y) := by
  split
  · exact hx
  · exact hy

lemma OnlyPanics.panic : OnlyPanics (.error .panic : Call ε α) :=
  fun _ h => (Except.error.inj h).symm

lemma onlyPanics_addW : OnlyPanics (addW w a b : Call ε ℕ) := .ite (.ok _) .panic

lemma onlyPanics_mulW : OnlyPanics (mulW w a b : Call ε ℕ) := .ite (.ok _) .panic

lemma onlyPanics_subC : OnlyPanics (subC a b : Call ε ℕ) := .ite (.ok _) .panic

lemma onlyPanics_divC : OnlyPanics (divC a b : Call ε ℕ) := .ite .panic (.ok _)

lemma revertIf_eq_error [Decidable c] {e : ε} : revertIf c e = .error r ↔ c ∧ r = .error e := by
  unfold revertIf
  split <;> simp_all [eq_comm]

lemma addW_eq_ok {c : ℕ} : (addW w a b : Call ε ℕ) = .ok c ↔ a + b < 2 ^ w ∧ c = a + b := by
  unfold addW
  split <;> simp_all [eq_comm]

lemma mulW_eq_ok {c : ℕ} : (mulW w a b : Call ε ℕ) = .ok c ↔ a * b < 2 ^ w ∧ c = a * b := by
  unfold mulW
  split <;> simp_all [eq_comm]

lemma subC_eq_ok {c : ℕ} : (subC a b : Call ε ℕ) = .ok c ↔ b ≤ a ∧ c = a - b := by
  unfold subC
  split <;> simp_all [eq_comm]

lemma subC_ok (h : b ≤ a) : (subC a b : Call ε ℕ) = .ok (a - b) := subC_eq_ok.mpr ⟨h, rfl⟩

lemma divC_eq_ok {c : ℕ} : (divC a b : Call ε ℕ) = .ok c ↔ b ≠ 0 ∧ c = a / b := by
  unfold divC
  split <;> simp_all [eq_comm]

lemma addB_eq_ok {a b c : BitVec w} (h : (addB a b : Call ε (BitVec w)) = .ok c) :
    c = a + b ∧ c.toNat = a.toNat + b.toNat := by
  unfold addB at h
  split at h
  · next hlt =>
    cases h
    exact ⟨rfl, by rw [BitVec.toNat_add]; exact Nat.mod_eq_of_lt hlt⟩
  · cases h

lemma addB_ok {a b : BitVec w} (h : a.toNat + b.toNat < 2 ^ w) :
    (addB a b : Call ε (BitVec w)) = .ok (a + b) := if_pos h

lemma subB_eq_ok {a b c : BitVec w} (h : (subB a b : Call ε (BitVec w)) = .ok c) :
    c = a - b ∧ b.toNat ≤ a.toNat ∧ c.toNat = a.toNat - b.toNat := by
  unfold subB at h
  split at h
  · next hle =>
    cases h
    exact ⟨rfl, hle, BitVec.toNat_sub_of_le hle⟩
  · cases h

lemma subB_ok {a b : BitVec w} (h : b.toNat ≤ a.toNat) :
    (subB a b : Call ε (BitVec w)) = .ok (a - b) := if_pos h

/-- A cast keeps the value exactly when the value fits. -/
lemma toNat_ofNat_eq_iff {n : ℕ} : (BitVec.ofNat w n).toNat = n ↔ n < 2 ^ w := by
  constructor
  · intro h
    rw [← h]
    exact (BitVec.ofNat w n).isLt
  · intro h
    exact Nat.mod_eq_of_lt h

/-- What is taken from a word fits. -/
lemma toNat_ofNat_min (n : ℕ) (x : BitVec w) :
    (BitVec.ofNat w (min n x.toNat)).toNat = min n x.toNat :=
  toNat_ofNat_eq_iff.mpr ((min_le_right _ _).trans_lt x.isLt)

lemma ite_gt_eq_min : (if a > b then b else a) = min a b := by
  split <;> omega

lemma toNat_ofNat_le (w n : ℕ) : (BitVec.ofNat w n).toNat ≤ n := by
  exact Nat.mod_le _ _

end Moltbunker.Lib
