import Moltbunker.Contracts.NameRegistry.Model

/-!
# `BunkerRegistry`: one operation on one name

Every function of the registry is a sequence of operations on single names (`ExtCall.ops`): most are
one, `bulkRegister` and `bulkRenew` are as many as they have names, and the owner's setters are
none. `Made` says what one operation found and wrote. `exec_made` takes a returned call apart into
its operations, as a `Path` of `Made` steps, so that an invariant of the registry is an invariant of
single operations.
-/

namespace Moltbunker.Contracts.NameRegistry

open Lib Function Storage

/-- An operation on one name. -/
inductive NameOp where
  | register (name : Name) (deploymentID : Bytes32) (referrer : Address)
  | renew (name : Name)
  | reserve (name : Name)
  | claimReservation (name : Name) (deploymentID : Bytes32)
  | cancelReservation (name : Name)
  | release (name : Name)
  | transfer (name : Name) (newOwner : Address)
  | updateDeployment (name : Name) (newDeploymentID : Bytes32)
  | setMetadata (name : Name) (description avatarURL : List (BitVec 8))
  | reclaimSquatted (name : Name)
  | setPrimaryName (name : Name)

/-- The operations of a call, in the order in which it makes them. -/
def ExtCall.ops : ExtCall → List NameOp
  | .register name deploymentID _ => [.register name deploymentID 0]
  | .registerWithReferral name deploymentID referrer _ => [.register name deploymentID referrer]
  | .bulkRegister names deploymentIDs _ =>
    (names.zip deploymentIDs).map fun x => .register x.1 x.2 0
  | .renew name _ => [.renew name]
  | .bulkRenew names _ => names.map .renew
  | .reserve name _ => [.reserve name]
  | .claimReservation name deploymentID => [.claimReservation name deploymentID]
  | .cancelReservation name => [.cancelReservation name]
  | .release name => [.release name]
  | .transfer name newOwner => [.transfer name newOwner]
  | .updateDeployment name newDeploymentID => [.updateDeployment name newDeploymentID]
  | .setMetadata name description avatarURL => [.setMetadata name description avatarURL]
  | .reclaimSquatted name => [.reclaimSquatted name]
  | .setPrimaryName name => [.setPrimaryName name]
  | _ => []

/-! ## What an operation does -/

/-- The storage in which `register` writes: the record that the name had, if any, was fully expired
or a lapsed reservation, and is cleaned up. -/
inductive CleanedUp (m : Msg) (s : Storage) (h : Bytes32) : Storage → Prop
  | unowned (howner : (s.subdomains h).owner = 0) : CleanedUp m s h s
  | expired (howner : (s.subdomains h).owner ≠ 0) (hexpired : s.isFullyExpired m h = true) :
      CleanedUp m s h (((s.removeOwnedName (s.subdomains h).owner h).clearPrimary
        (s.subdomains h).deploymentID h).deleteMetadata h)
  | lapsed (howner : (s.subdomains h).owner ≠ 0)
      (hlapsed : (s.subdomains h).lapsed m.timestamp = true)
      (hcurrent : s.isFullyExpired m h = false) :
      CleanedUp m s h ((s.removeOwnedName (s.subdomains h).owner h).deleteMetadata h)

/-- The storage in which `reserve` writes: the old record is taken from its owner's list. -/
inductive Vacated (m : Msg) (s : Storage) (h : Bytes32) : Storage → Prop
  | unowned (howner : (s.subdomains h).owner = 0) : Vacated m s h s
  | taken (howner : (s.subdomains h).owner ≠ 0)
      (hover : s.isFullyExpired m h = true ∨ (s.subdomains h).lapsed m.timestamp = true) :
      Vacated m s h (s.removeOwnedName (s.subdomains h).owner h)

/-- The sender owns the name. -/
def Owns (m : Msg) (s : Storage) (h : Bytes32) : Prop :=
  (s.subdomains h).owner ≠ 0 ∧ (s.subdomains h).owner = m.sender

/-- What an operation found and wrote. -/
inductive Made (keccak : Name → Bytes32) (m : Msg) (s : Storage) : NameOp → Storage → Prop
  | registered {name : Name} {deploymentID : Bytes32} {referrer : Address} {cleaned : Storage}
      (hname : name ≠ []) (hdeployment : deploymentID ≠ 0)
      (hroom : (s.ownedNames m.sender).length < maxNamesPerOwner)
      (hcleaned : CleanedUp m s (keccak name) cleaned) :
      Made keccak m s (.register name deploymentID referrer) (cleaned.place (keccak name) name
        { owner := m.sender
          deploymentID := deploymentID
          registeredAt := .ofNat 48 m.timestamp
          expiresAt := .ofNat 48 (m.timestamp + s.expirationPeriod)
          reservedUntil := 0
          referrer := referrer })
  | renewed {name : Name} {expiresAt : BitVec 48} (hown : Owns m s (keccak name)) :
      Made keccak m s (.renew name) (s.setRecord (keccak name)
        { s.subdomains (keccak name) with expiresAt := expiresAt })
  | reserved {name : Name} {vacated : Storage} (hname : name ≠ [])
      (hroom : (s.ownedNames m.sender).length < maxNamesPerOwner)
      (hvacated : Vacated m s (keccak name) vacated) :
      Made keccak m s (.reserve name) (vacated.place (keccak name) name
        { owner := m.sender
          deploymentID := 0
          registeredAt := .ofNat 48 m.timestamp
          expiresAt := .ofNat 48 (m.timestamp + s.expirationPeriod)
          reservedUntil := .ofNat 48 (m.timestamp + s.reservationPeriod)
          referrer := 0 })
  | claimed {name : Name} {deploymentID : Bytes32} (hown : Owns m s (keccak name))
      (hdeployment : deploymentID ≠ 0) :
      Made keccak m s (.claimReservation name deploymentID) (s.setRecord (keccak name)
        { s.subdomains (keccak name) with
          deploymentID := deploymentID
          reservedUntil := 0 })
  | cancelled {name : Name} (hown : Owns m s (keccak name)) :
      Made keccak m s (.cancelReservation name) ((s.deleteRecord (keccak name)).removeOwnedName
        (s.subdomains (keccak name)).owner (keccak name))
  | released {name : Name} (hown : Owns m s (keccak name)) :
      Made keccak m s (.release name)
        ((((s.clearPrimary (s.subdomains (keccak name)).deploymentID (keccak name)).deleteRecord
          (keccak name)).deleteMetadata (keccak name)).removeOwnedName
            (s.subdomains (keccak name)).owner (keccak name))
  | transferred {name : Name} {newOwner : Address} (hown : Owns m s (keccak name))
      (hnew : newOwner ≠ 0) (hother : newOwner ≠ m.sender)
      (hroom : (s.ownedNames newOwner).length < maxNamesPerOwner) :
      Made keccak m s (.transfer name newOwner)
        { s.setRecord (keccak name) { s.subdomains (keccak name) with owner := newOwner } with
          ownedNames :=
            let taken := update s.ownedNames (s.subdomains (keccak name)).owner
              (swapPopFirst (keccak name) (s.ownedNames (s.subdomains (keccak name)).owner))
            update taken newOwner (taken newOwner ++ [keccak name]) }
  | updated {name : Name} {deploymentID : Bytes32} (hown : Owns m s (keccak name))
      (hdeployment : deploymentID ≠ 0) :
      Made keccak m s (.updateDeployment name deploymentID)
        ((s.clearPrimary (s.subdomains (keccak name)).deploymentID (keccak name)).setRecord
          (keccak name) { s.subdomains (keccak name) with deploymentID := deploymentID })
  | described {name : Name} {description avatarURL : List (BitVec 8)}
      (hown : Owns m s (keccak name)) :
      Made keccak m s (.setMetadata name description avatarURL)
        { s with metadata := update s.metadata (keccak name) ⟨description, avatarURL⟩ }
  | reclaimed {name : Name} (howner : (s.subdomains (keccak name)).owner ≠ 0)
      (hsquatted : s.isSquatted m (keccak name) = true) :
      Made keccak m s (.reclaimSquatted name)
        (((s.deleteRecord (keccak name)).deleteMetadata (keccak name)).removeOwnedName
          (s.subdomains (keccak name)).owner (keccak name))
  | primarySet {name : Name} (hown : Owns m s (keccak name))
      (hdeployment : (s.subdomains (keccak name)).deploymentID ≠ 0) :
      Made keccak m s (.setPrimaryName name)
        { s with
          primaryName := update s.primaryName (s.subdomains (keccak name)).deploymentID
            (keccak name) }

/-! ## The parts of a function -/

variable {keccak : Name → Bytes32} {m : Msg} {s s' : Storage} {name : Name} {r : Outcome}

/-- The calls pull tokens from the sender only. -/
def PullsFrom (payer : Address) (calls : List TokenCall) : Prop :=
  ∀ holder v, TokenCall.transferFrom holder v ∈ calls → holder = payer

lemma pullsFrom_nil (payer : Address) : PullsFrom payer [] :=
  nofun

variable {referrer : Address} {calls : List TokenCall} {getTier : Address → Option (BitVec 8)}
  {u : Unit}

lemma collectFee_pulls {payer : Address} {amount reward : ℕ}
    (h : s.collectFee payer amount referrer reward = .ok calls) : PullsFrom payer calls := by
  unfold collectFee at h
  split at h
  · cases pure_eq_ok.mp h
    exact pullsFrom_nil _
  · simp only [bind_eq_ok, pure_eq_ok] at h
    obtain ⟨_, -, _, -, _, -, rfl⟩ := h
    intro holder v hmem
    rcases List.mem_cons.mp hmem with heq | hmem
    · exact (TokenCall.transferFrom.inj heq).1
    · exfalso
      simp only [List.mem_append] at hmem
      rcases hmem with (hmem | hmem) | hmem <;> split at hmem <;> simp at hmem

lemma collectPrice_pulls (h : s.collectPrice m name referrer getTier = .ok calls) :
    PullsFrom m.sender calls := by
  simp only [collectPrice, bind_eq_ok] at h
  obtain ⟨_, -, _, -, h⟩ := h
  split at h
  · simp only [bind_eq_ok] at h
    obtain ⟨_, -, h⟩ := h
    exact collectFee_pulls h
  · exact collectFee_pulls h

lemma collectChangeFee_pulls (h : s.collectChangeFee m = .ok calls) :
    PullsFrom m.sender calls := by
  unfold collectChangeFee at h
  split at h
  · exact collectFee_pulls h
  · cases pure_eq_ok.mp h
    exact pullsFrom_nil _

/-- A checked name is not empty. -/
lemma checkName_eq_ok (h : s.checkName keccak name = .ok u) : name ≠ [] := by
  simp only [checkName, validateName, bind_eq_ok, revertIf_eq_ok] at h
  obtain ⟨_, ⟨_, hlength, -⟩, -⟩ := h
  rintro rfl
  exact hlength (.inl Nat.one_pos)

lemma checkRoom_eq_ok {owner : Address} (h : s.checkRoom owner = .ok u) :
    (s.ownedNames owner).length < maxNamesPerOwner :=
  not_le.mp (revertIf_eq_ok.mp h)

lemma cleanUp_eq_ok (h : s.cleanUp keccak m name = .ok s') : CleanedUp m s (keccak name) s' := by
  unfold cleanUp at h
  dsimp only at h
  split at h
  · next howner =>
    split at h
    · next hexpired =>
      cases pure_eq_ok.mp h
      exact .expired howner hexpired
    · next hcurrent =>
      split at h
      · next hlapsed =>
        cases pure_eq_ok.mp h
        exact .lapsed howner hlapsed (Bool.not_eq_true _ ▸ hcurrent)
      · cases h
  · next howner =>
    cases pure_eq_ok.mp h
    exact .unowned (not_not.mp howner)

lemma vacate_eq_ok (h : s.vacate keccak m name = .ok s') : Vacated m s (keccak name) s' := by
  unfold vacate at h
  dsimp only at h
  split at h
  · next howner =>
    split at h
    · simp only [bind_eq_ok, revertIf_eq_ok, pure_eq_ok] at h
      obtain ⟨_, hlapsed, rfl⟩ := h
      refine .taken howner (.inr ?_)
      rw [not_or] at hlapsed
      unfold SubdomainRecord.lapsed
      rw [decide_eq_true_eq]
      refine ⟨Nat.pos_of_ne_zero fun hzero => hlapsed.1 ?_, not_le.mp hlapsed.2⟩
      exact BitVec.eq_of_toNat_eq hzero
    · next hexpired =>
      cases pure_eq_ok.mp h
      exact .taken howner (.inl (Bool.not_eq_false _ ▸ hexpired))
  · next howner =>
    cases pure_eq_ok.mp h
    exact .unowned (not_not.mp howner)

lemma onlyNameOwner_eq_ok (h : s.onlyNameOwner keccak m name = .ok u) :
    Owns m s (keccak name) := by
  simp only [onlyNameOwner, bind_eq_ok, revertIf_eq_ok] at h
  obtain ⟨_, howner, hsender⟩ := h
  exact ⟨howner, not_not.mp hsender⟩

lemma onlyReservationOwner_eq_ok (h : s.onlyReservationOwner keccak m name = .ok u) :
    Owns m s (keccak name) := by
  simp only [onlyReservationOwner, bind_eq_ok, revertIf_eq_ok] at h
  obtain ⟨_, howner, _, hsender, -⟩ := h
  exact ⟨howner, not_not.mp hsender⟩

/-! ## A call as its operations -/

/-- A returned call made these operations, and pulled tokens from the sender only. -/
structure Ran (keccak : Name → Bytes32) (m : Msg) (s : Storage) (ops : List NameOp)
    (r : Outcome) : Prop where
  path : ∃ l, Path (Made keccak m) s l ∧ l.map Prod.fst = ops ∧
    (endState s l).toNames = r.1.toNames
  pulls : PullsFrom m.sender r.2

/-- One operation. -/
lemma Ran.one {op : NameOp} (h : Made keccak m s op r.1) (hpulls : PullsFrom m.sender r.2) :
    Ran keccak m s [op] r :=
  ⟨⟨[(op, r.1)], ⟨h, trivial⟩, rfl, rfl⟩, hpulls⟩

/-- An operation, and the rest of the call. -/
lemma Ran.cons {op : NameOp} {ops : List NameOp} {r₁ r₂ : Outcome}
    (h : Made keccak m s op r₁.1 ∧ PullsFrom m.sender r₁.2) (hrest : Ran keccak m r₁.1 ops r₂) :
    Ran keccak m s (op :: ops) (r₂.1, r₁.2 ++ r₂.2) := by
  obtain ⟨⟨l, hpath, hops, hend⟩, hpulls⟩ := hrest
  refine ⟨⟨(op, r₁.1) :: l, ⟨h.1, hpath⟩, by rw [List.map_cons, hops], hend⟩, ?_⟩
  intro holder v hmem
  rcases List.mem_append.mp hmem with hmem | hmem
  · exact h.2 holder v hmem
  · exact hpulls holder v hmem

/-- A call without operations on names leaves their maps. -/
lemma Ran.nil (h : r.1.toNames = s.toNames) (hcalls : r.2 = []) : Ran keccak m s [] r :=
  ⟨⟨[], trivial, rfl, h.symm⟩, by rw [hcalls]; exact pullsFrom_nil _⟩

lemma registerInternal_made {deploymentID : Bytes32}
    (h : s.registerInternal keccak m name deploymentID referrer getTier = .ok r) :
    Made keccak m s (.register name deploymentID referrer) r.1 ∧ PullsFrom m.sender r.2 := by
  simp only [registerInternal, bind_eq_ok, revertIf_eq_ok, pure_eq_ok] at h
  obtain ⟨_, hname, _, hdeployment, _, hroom, cleaned, hcleaned, calls, hcalls, rfl⟩ := h
  exact ⟨.registered (checkName_eq_ok hname) hdeployment (checkRoom_eq_ok hroom)
    (cleanUp_eq_ok hcleaned), collectPrice_pulls hcalls⟩

lemma renewFrom_made {baseTime : BitVec 48}
    (h : s.renewFrom keccak m name baseTime getTier = .ok r) :
    Made keccak m s (.renew name) r.1 ∧ PullsFrom m.sender r.2 := by
  simp only [renewFrom, bind_eq_ok, pure_eq_ok] at h
  obtain ⟨_, hown, _, -, calls, hcalls, _, -, rfl⟩ := h
  exact ⟨.renewed (onlyNameOwner_eq_ok hown), collectPrice_pulls hcalls⟩

lemma registerAll_ran {items : List (Name × Bytes32)}
    (h : s.registerAll keccak m getTier items = .ok r) :
    Ran keccak m s (items.map fun x => .register x.1 x.2 0) r := by
  induction items generalizing s r with
  | nil =>
    cases pure_eq_ok.mp h
    exact .nil rfl rfl
  | cons item items ih =>
    simp only [registerAll, bind_eq_ok, pure_eq_ok] at h
    obtain ⟨_, hfirst, _, hrest, rfl⟩ := h
    exact .cons (registerInternal_made hfirst) (ih hrest)

lemma renewAll_ran {names : List Name} (h : s.renewAll keccak m getTier names = .ok r) :
    Ran keccak m s (names.map .renew) r := by
  induction names generalizing s r with
  | nil =>
    cases pure_eq_ok.mp h
    exact .nil rfl rfl
  | cons name names ih =>
    simp only [renewAll, bind_eq_ok, pure_eq_ok] at h
    obtain ⟨_, hfirst, _, hrest, rfl⟩ := h
    exact .cons (renewFrom_made hfirst) (ih hrest)

lemma transfer_made {newOwner : Address} (h : s.transfer keccak m name newOwner = .ok r) :
    Made keccak m s (.transfer name newOwner) r.1 ∧ r.2 = [] := by
  simp only [transfer, bind_eq_ok, revertIf_eq_ok, pure_eq_ok] at h
  obtain ⟨_, -, _, hnew, _, hother, _, hroom, _, hown, _, -, rfl⟩ := h
  exact ⟨.transferred (onlyNameOwner_eq_ok hown) hnew hother (checkRoom_eq_ok hroom), rfl⟩

lemma adminWrite_ran {checks : Exec Unit} (h : adminWrite m s checks s' = .ok r)
    (hnames : s'.toNames = s.toNames) : Ran keccak m s [] r := by
  simp only [adminWrite, bind_eq_ok, pure_eq_ok] at h
  obtain ⟨_, -, _, -, rfl⟩ := h
  exact .nil hnames rfl

/-- **A returned call is its operations**, made one after the other. -/
theorem exec_ran {c : ExtCall} (h : exec keccak m s c = .ok r) : Ran keccak m s c.ops r := by
  cases c with
  | register name deploymentID getTier =>
    simp only [exec, register, bind_eq_ok] at h
    obtain ⟨_, -, h⟩ := h
    obtain ⟨hmade, hpulls⟩ := registerInternal_made h
    exact .one hmade hpulls
  | registerWithReferral name deploymentID referrer getTier =>
    simp only [exec, registerWithReferral, bind_eq_ok] at h
    obtain ⟨_, -, _, -, _, -, h⟩ := h
    obtain ⟨hmade, hpulls⟩ := registerInternal_made h
    exact .one hmade hpulls
  | bulkRegister names deploymentIDs getTier =>
    simp only [exec, bulkRegister, bind_eq_ok] at h
    obtain ⟨_, -, _, -, _, -, h⟩ := h
    exact registerAll_ran h
  | renew name getTier =>
    simp only [exec, renew, bind_eq_ok] at h
    obtain ⟨_, -, h⟩ := h
    obtain ⟨hmade, hpulls⟩ := renewFrom_made h
    exact .one hmade hpulls
  | bulkRenew names getTier =>
    simp only [exec, bulkRenew, bind_eq_ok] at h
    obtain ⟨_, -, _, -, h⟩ := h
    exact renewAll_ran h
  | reserve name getTier =>
    simp only [exec, reserve, bind_eq_ok, pure_eq_ok] at h
    obtain ⟨_, -, _, hname, _, hroom, _, hvacated, _, hcalls, rfl⟩ := h
    exact .one (.reserved (checkName_eq_ok hname) (checkRoom_eq_ok hroom)
      (vacate_eq_ok hvacated)) (collectPrice_pulls hcalls)
  | claimReservation name deploymentID =>
    simp only [exec, claimReservation, bind_eq_ok, revertIf_eq_ok, pure_eq_ok] at h
    obtain ⟨_, -, _, hdeployment, _, hown, _, -, rfl⟩ := h
    exact .one (.claimed (onlyReservationOwner_eq_ok hown) hdeployment) (pullsFrom_nil _)
  | cancelReservation name =>
    simp only [exec, cancelReservation, bind_eq_ok, pure_eq_ok] at h
    obtain ⟨_, -, _, hown, rfl⟩ := h
    exact .one (.cancelled (onlyReservationOwner_eq_ok hown)) (pullsFrom_nil _)
  | release name =>
    simp only [exec, release, bind_eq_ok, pure_eq_ok] at h
    obtain ⟨_, -, _, hown, rfl⟩ := h
    exact .one (.released (onlyNameOwner_eq_ok hown)) (pullsFrom_nil _)
  | transfer name newOwner =>
    obtain ⟨hmade, hcalls⟩ := transfer_made h
    exact .one hmade (hcalls ▸ pullsFrom_nil _)
  | updateDeployment name deploymentID =>
    simp only [exec, updateDeployment, bind_eq_ok, revertIf_eq_ok, pure_eq_ok] at h
    obtain ⟨_, -, _, hdeployment, _, hown, _, -, _, hcalls, rfl⟩ := h
    exact .one (.updated (onlyNameOwner_eq_ok hown) hdeployment) (collectChangeFee_pulls hcalls)
  | setMetadata name description avatarURL =>
    simp only [exec, setMetadata, bind_eq_ok, pure_eq_ok] at h
    obtain ⟨_, -, _, -, _, -, _, hown, _, -, _, hcalls, rfl⟩ := h
    exact .one (.described (onlyNameOwner_eq_ok hown)) (collectChangeFee_pulls hcalls)
  | reclaimSquatted name =>
    simp only [exec, reclaimSquatted, bind_eq_ok, revertIf_eq_ok, pure_eq_ok] at h
    obtain ⟨_, -, _, howner, _, hsquatted, rfl⟩ := h
    exact .one (.reclaimed howner (Bool.not_eq_false _ ▸ hsquatted)) (pullsFrom_nil _)
  | setPrimaryName name =>
    simp only [exec, setPrimaryName, bind_eq_ok, revertIf_eq_ok, pure_eq_ok] at h
    obtain ⟨_, -, _, hown, _, -, _, hdeployment, rfl⟩ := h
    exact .one (.primarySet (onlyNameOwner_eq_ok hown) hdeployment) (pullsFrom_nil _)
  | _ => exact adminWrite_ran h rfl

/-! ## On the chain -/

/-- The contract, for a hash function; of roles it has the owner only. -/
def contract (keccak : Name → Bytes32) :
    Chain.Contract Storage ExtCall Address RegistryError where
  Initial s := ∃ token treasury registrationFee initialOwner stakingContract,
    constructor token treasury registrationFee initialOwner stakingContract = .ok s
  exec := exec keccak
  setRoles s owner := { s with owner := owner }
  pulls_sender h := by
    intro holder v hmem
    exact (exec_ran h).pulls holder v hmem

/-- The contract with its token and the clock. -/
abbrev World : Type := Chain.World Storage supplyCap

/-- What can happen next. -/
abbrev Action : Type := Chain.Action ExtCall Address

/-- A registry without names. -/
def Names.empty : Names := ⟨fun _ => .empty, fun _ => [], fun _ => [], fun _ => .empty, fun _ => 0⟩

/-- A deployment has no names. -/
lemma names_deployed {self : Address} {w : World}
    (hw : Chain.Deployed (contract keccak) self w) : w.storage.toNames = .empty := by
  obtain ⟨_, _, _, _, _, hs⟩ := hw.initial
  simp only [constructor, bind_eq_ok, pure_eq_ok] at hs
  obtain ⟨_, -, _, -, _, -, hs⟩ := hs
  rw [← hs]
  rfl

/-- The operations of a step. -/
def opsOf : Action → List NameOp
  | .call _ _ c => c.ops
  | _ => []

section Steps

variable {self : Address} {w w' : World} {a : Action}

/-- **A step is its operations**, made by its sender at its time. -/
theorem step_ran (h : Chain.Step (contract keccak) self w a w') :
    (∃ sender t c l, a = .call sender t c ∧ sender ≠ 0 ∧
        Path (Made keccak (w.msg self sender t)) w.storage l ∧ l.map Prod.fst = c.ops ∧
        (endState w.storage l).toNames = w'.storage.toNames) ∨
      (opsOf a = [] ∧ w'.storage.toNames = w.storage.toNames) := by
  rcases Chain.step_cases h with ⟨sender, t, c, calls, rfl, -, -, hzero, hexec, -, -⟩ |
    ⟨t, _, rfl, -, -, -, hw'⟩ | ⟨t, _, rfl, -, rfl⟩
  · obtain ⟨l, hpath, hops, hend⟩ := (exec_ran hexec).path
    exact .inl ⟨sender, t, c, l, rfl, hzero, hpath, hops, hend⟩
  · exact .inr ⟨rfl, by rw [hw']⟩
  · exact .inr ⟨rfl, rfl⟩

/-- An invariant of the maps that every operation keeps is one of every step. -/
lemma step_invariant {P : Names → Prop}
    (hmade : ∀ m s op s', m.sender ≠ 0 → P s.toNames → Made keccak m s op s' → P s'.toNames)
    (hw : P w.storage.toNames) (h : Chain.Step (contract keccak) self w a w') :
    P w'.storage.toNames := by
  rcases step_ran h with ⟨sender, t, c, l, -, hzero, hpath, -, hend⟩ | ⟨-, hsame⟩
  · have hrun := Path.invariant (fun s op s' hs hop => hmade _ s op s' hzero hs hop) hw hpath
    rw [← hend]
    exact hrun.endState
  · rw [hsame]
    exact hw

/-- A call makes one operation, or it only registers, or it only renews. -/
lemma ops_cases (c : ExtCall) : (∃ op, c.ops = [op]) ∨
    (∀ op ∈ c.ops, ∃ name deploymentID referrer, op = .register name deploymentID referrer) ∨
    (∀ op ∈ c.ops, ∃ name, op = .renew name) := by
  cases c with
  | bulkRegister names deploymentIDs getTier =>
    refine .inr (.inl fun op hop => ?_)
    obtain ⟨x, -, rfl⟩ := List.mem_map.mp hop
    exact ⟨x.1, x.2, 0, rfl⟩
  | bulkRenew names getTier =>
    refine .inr (.inr fun op hop => ?_)
    obtain ⟨name, -, rfl⟩ := List.mem_map.mp hop
    exact ⟨name, rfl⟩
  -- a call on one name, or a setter
  | _ => first | exact .inl ⟨_, rfl⟩ | exact .inr (.inl nofun)

/-- **A condition on the state before a call** is one on the state before each of its operations, if
it asks nothing of renewals and a registration keeps it for the registrations that follow. -/
theorem stepsMeet_of_ops {G : Storage → NameOp → Prop} {c : ExtCall} {l : List (NameOp × Storage)}
    (hrenew : ∀ s name, G s (.renew name))
    (hregister : ∀ s s' name deploymentID referrer name' deploymentID' referrer',
      Made keccak m s (.register name deploymentID referrer) s' →
        G s (.register name' deploymentID' referrer') →
          G s' (.register name' deploymentID' referrer'))
    (hpath : Path (Made keccak m) s l) (hops : l.map Prod.fst = c.ops)
    (hG : ∀ op ∈ c.ops, G s op) : StepsMeet G s l := by
  rcases ops_cases c with ⟨op, hop⟩ | hall | hall
  · rw [hop] at hops hG
    obtain ⟨x, rfl, rfl⟩ := List.map_eq_singleton_iff.mp hops
    exact ⟨hG x.1 (List.mem_singleton_self _), trivial⟩
  · rw [← hops] at hall hG
    clear hops
    -- the operations that are left are registrations that meet the condition now
    induction l generalizing s with
    | nil => trivial
    | cons x l ih =>
      obtain ⟨op, s₁⟩ := x
      obtain ⟨hmade, hpath⟩ := hpath
      obtain ⟨name, deploymentID, referrer, rfl⟩ := hall op List.mem_cons_self
      refine ⟨hG _ List.mem_cons_self, ih hpath ?_ ?_⟩
      · intro op hop
        obtain ⟨name', deploymentID', referrer', rfl⟩ := hall op (List.mem_cons_of_mem _ hop)
        exact hregister _ _ _ _ _ _ _ _ hmade (hG _ (List.mem_cons_of_mem _ hop))
      · exact fun op hop => hall op (List.mem_cons_of_mem _ hop)
  · rw [← hops] at hall
    apply stepsMeet_of_mem
    intro x hx s
    obtain ⟨name, hname⟩ := hall x.1 (List.mem_map_of_mem hx)
    rw [hname]
    exact hrenew s name

end Steps

end Moltbunker.Contracts.NameRegistry
