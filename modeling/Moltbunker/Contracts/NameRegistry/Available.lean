import Moltbunker.Contracts.NameRegistry.Index

/-!
# `BunkerRegistry`: what `isAvailable` promises

`isAvailable` reads the record of a name only, `register` also checks the name itself.
`register_returns_iff` says when a registration by a sender who can pay returns, and
`isAvailable_agrees_iff` when the view agrees with it: the name is admissible, or it is held.
-/

namespace Moltbunker.Contracts.NameRegistry

open Lib Function

/-! ## The grammar of names -/

/-- One to 32 letters, digits and hyphens, no hyphen at either end and no two in a row. -/
def WellFormed (name : Name) : Prop :=
  (1 ≤ name.length ∧ name.length ≤ 32) ∧
    (isAlphanumeric (name.headD 0) = true ∧ isAlphanumeric (name.getLastD 0) = true) ∧
    (∀ c ∈ name.tail.dropLast, isAlphanumeric c = true ∨ c = 0x2D) ∧
    name.tail.dropLast.IsChain fun a b => a = 0x2D → b ≠ 0x2D

instance (name : Name) : Decidable (WellFormed name) := inferInstanceAs (Decidable (_ ∧ _))

/-- The loop accepts the bytes if they are of the alphabet and no hyphen follows another, the one
before the first byte included. -/
lemma validateMiddle_eq_ok {name bytes : Name} {prevHyphen : Bool} {u : Unit} :
    validateMiddle name prevHyphen bytes = .ok u ↔
      (∀ c ∈ bytes, isAlphanumeric c = true ∨ c = 0x2D) ∧
        (∀ c ∈ bytes.head?, prevHyphen = true → c ≠ 0x2D) ∧
        bytes.IsChain fun a b => a = 0x2D → b ≠ 0x2D := by
  induction bytes generalizing prevHyphen with
  | nil => simp [validateMiddle]
  | cons c rest ih =>
    simp only [validateMiddle, bind_eq_ok, revertIf_eq_ok, ih, List.forall_mem_cons,
      List.isChain_cons, List.head?_cons, Option.mem_some_iff, forall_eq']
    grind

lemma validateName_eq_ok {name : Name} {u : Unit} :
    validateName name = .ok u ↔ WellFormed name := by
  simp only [validateName, bind_eq_ok, revertIf_eq_ok, validateMiddle_eq_ok, WellFormed]
  grind

/-! ## Registration -/

namespace Storage

variable (keccak : Name → Bytes32) (s : Storage) (m : Msg) (name : Name)

/-- The name itself may be registered: it is well formed, not short while short names are disabled,
and not on the administrator's list. -/
def Admissible : Prop :=
  WellFormed name ∧ (name.length ≤ 3 → s.shortNamesEnabled = true) ∧
    s.reservedNames (keccak name) = false

/-- The name has an owner, and its registration or reservation has not run out. -/
def Held : Prop :=
  (s.subdomains (keccak name)).owner ≠ 0 ∧ s.isFullyExpired m (keccak name) = false ∧
    (s.subdomains (keccak name)).lapsed m.timestamp = false

variable (self : Address) (token : Token supplyCap) (deploymentID : Bytes32)
  (getTier : Address → Option (BitVec 8))

/-- The sender has the balance and the allowance for the fee. -/
def CanPay : Prop :=
  ∃ calls token', s.collectPrice m name 0 getTier = .ok calls ∧
    Token.runCalls self calls token = .ok token'

/-- `register(name, deploymentID)` returns, with the transfers of its fee. -/
def Registers : Prop :=
  ∃ r token', s.register keccak m name deploymentID getTier = .ok r ∧
    Token.runCalls self r.2 token = .ok token'

variable {keccak s m name self token deploymentID getTier}

lemma checkName_eq_ok_iff {u : Unit} :
    s.checkName keccak name = .ok u ↔ s.Admissible keccak name := by
  simp only [checkName, bind_eq_ok, revertIf_eq_ok, validateName_eq_ok, Admissible]
  grind

lemma isAvailable_iff : s.isAvailable keccak m name = true ↔ ¬ s.Held keccak m name := by
  simp only [isAvailable, Held, decide_eq_true_eq]
  grind

/-- The clean-up returns unless the name is held, and the fee does not depend on it. -/
lemma cleanUp_returns (h : ¬ s.Held keccak m name) : ∃ s', s.cleanUp keccak m name = .ok s' ∧
    ∀ getTier, s'.collectPrice m name 0 getTier = s.collectPrice m name 0 getTier := by
  unfold Held at h
  unfold cleanUp
  dsimp only
  split_ifs with howner hexpired hlapsed
  · exact ⟨_, rfl, fun _ => rfl⟩
  · exact ⟨_, rfl, fun _ => rfl⟩
  · simp_all
  · exact ⟨_, rfl, fun _ => rfl⟩

section Calls

variable (hpaused : s.paused = false) (hdeployment : deploymentID ≠ 0)
  (hroom : (s.ownedNames m.sender).length < maxNamesPerOwner)
  (hpay : s.CanPay m name self token getTier)
include hpaused hdeployment hroom hpay

/-- **When a registration returns**, for a sender who can pay and has room. -/
theorem registers_iff : s.Registers keccak m name self token deploymentID getTier ↔
    s.Admissible keccak name ∧ ¬ s.Held keccak m name := by
  constructor
  · rintro ⟨r, token', hr, -⟩
    simp only [register, registerInternal, bind_eq_ok] at hr
    obtain ⟨_, -, _, hname, _, -, _, -, cleaned, hcleaned, -⟩ := hr
    refine ⟨checkName_eq_ok_iff.mp hname, ?_⟩
    rintro ⟨howner, hcurrent, hlapsed⟩
    simp [cleanUp, howner, hcurrent, hlapsed, throw_eq_ok] at hcleaned
  · rintro ⟨hname, hheld⟩
    obtain ⟨calls, token', hcalls, htoken⟩ := hpay
    obtain ⟨cleaned, hcleaned, hprice⟩ := cleanUp_returns hheld
    have hr : ∃ s', s.register keccak m name deploymentID getTier = .ok (s', calls) := by
      simp only [register, registerInternal, whenNotPaused, checkRoom, bind_eq_ok, revertIf_eq_ok,
        pure_eq_ok]
      exact ⟨_, (), by simp [hpaused], (), checkName_eq_ok_iff.mpr hname, (), hdeployment, (),
        not_le.mpr hroom, cleaned, hcleaned, calls, (hprice getTier).trans hcalls, rfl⟩
    obtain ⟨s', hr⟩ := hr
    exact ⟨_, token', hr, htoken⟩

end Calls

end Storage

/-- Nobody pays for a name in a deployment without fees. -/
lemma fresh_canPay (m : Msg) (name : Name) :
    fresh.storage.CanPay m name 100 fresh.token fun _ => none := by
  refine ⟨[], fresh.token, ?_, rfl⟩
  unfold Storage.collectPrice Storage.calculatePrice
  split <;> rfl

end Moltbunker.Contracts.NameRegistry
