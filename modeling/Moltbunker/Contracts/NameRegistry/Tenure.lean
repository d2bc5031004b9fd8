import Moltbunker.Contracts.NameRegistry.Index

/-!
# `BunkerRegistry`: how long a name is safe

A name with a deployment belongs to its owner until its expiry and the grace period have passed.
`name_tenure` states it for every run: no call of another account changes the record of such a name,
and the name is not available. It needs one condition on the calls of the owner
(`NotReserved`), that a deployment is not set by `updateDeployment` while the name is reserved.

`claimReservation` ends a reservation and `updateDeployment` does not, so that after such an update
the record still looks like a reservation that nobody claimed (`reclaimed_with_deployment`).
-/

namespace Moltbunker.Contracts.NameRegistry

open Lib Function
open Chain (Step Deployed)

variable {keccak : Name → Bytes32} {m : Msg} {s s' : Storage} {n n' : Names} {h : Bytes32}
  {op : NameOp} {r : SubdomainRecord}

/-! ## A deployment ends the reservation -/

/-- A name that has a deployment is not reserved. -/
def Settled (h : Bytes32) (n : Names) : Prop :=
  (n.subdomains h).deploymentID ≠ 0 → (n.subdomains h).reservedUntil = 0

/-- The deployment of `h` is not updated while the name is reserved. -/
def NotReserved (keccak : Name → Bytes32) (h : Bytes32) (s : Storage) : NameOp → Prop
  | .updateDeployment name _ => keccak name = h → (s.subdomains h).reservedUntil = 0
  | _ => True

/-- A write of another name's record, or one of a settled record. -/
lemma Settled.write (hn : Settled h n) {k : Bytes32}
    (hrecord : n'.subdomains = update n.subdomains k r)
    (hr : k = h → r.deploymentID ≠ 0 → r.reservedUntil = 0) : Settled h n' := by
  unfold Settled
  rw [hrecord]
  by_cases hk : k = h
  · subst hk
    rw [update_self]
    exact hr rfl
  · rw [update_of_ne (Ne.symm hk)]
    exact hn

/-- The storage in which `register` or `reserve` writes has the old records. -/
lemma CleanedUp.subdomains_eq {cleaned : Storage} (hcleaned : CleanedUp m s h cleaned) :
    cleaned.subdomains = s.subdomains := by
  cases hcleaned <;> rfl

lemma Vacated.subdomains_eq {vacated : Storage} (hvacated : Vacated m s h vacated) :
    vacated.subdomains = s.subdomains := by
  cases hvacated <;> rfl

/-- Every operation that meets the condition keeps `h` settled. -/
lemma Settled.made (hn : Settled h s.toNames) (hG : NotReserved keccak h s op)
    (hmade : Made keccak m s op s') : Settled h s'.toNames := by
  cases hmade with
  | registered hname hdeployment hroom hcleaned =>
    refine hn.write (congrArg (update · _ _) hcleaned.subdomains_eq) ?_
    intro _ _
    rfl
  | reserved hname hroom hvacated =>
    refine hn.write (congrArg (update · _ _) hvacated.subdomains_eq) ?_
    intro _ hdeployment
    exact absurd rfl hdeployment
  | renewed hown | transferred hown hnew hother hroom =>
    refine hn.write rfl ?_
    rintro rfl
    exact hn
  | claimed hown hdeployment =>
    refine hn.write rfl ?_
    intro _ _
    rfl
  | cancelled hown | released hown | reclaimed howner hsquatted =>
    refine hn.write rfl ?_
    intro _ hdeployment
    exact absurd rfl hdeployment
  | updated hown hdeployment =>
    refine hn.write rfl ?_
    intro heq _
    have hfree := hG heq
    subst heq
    exact hfree
  | described hown => exact hn
  | primarySet hown hdeployment => exact hn

/-- Every step that meets the condition keeps `h` settled. -/
lemma Settled.step {self : Address} {w w' : World} {a : Action}
    (hw : Settled h w.storage.toNames) (hG : ∀ op ∈ opsOf a, NotReserved keccak h w.storage op)
    (hstep : Step (contract keccak) self w a w') : Settled h w'.storage.toNames := by
  rcases step_ran hstep with ⟨sender, t, c, l, rfl, -, hpath, hops, hend⟩ | ⟨-, hsame⟩
  · have hmeets : StepsMeet (NotReserved keccak h) w.storage l :=
      stepsMeet_of_ops (fun _ _ => trivial) (fun _ _ _ _ _ _ _ _ _ _ => trivial) hpath hops hG
    have hrun := Path.invariant_of_steps (P := fun s : Storage => Settled h s.toNames)
      (fun _ _ _ hs hop hmade => hs.made hop hmade) hw hpath hmeets
    rw [← hend]
    exact hrun.endState
  · rw [hsame]
    exact hw

/-! ## Calls of others -/

/-- A name with an owner and a deployment, settled and not fully expired, and a call that is not the
owner's. -/
structure Tenured (m : Msg) (s : Storage) (h : Bytes32) : Prop where
  owned : (s.subdomains h).owner ≠ 0
  foreign : (s.subdomains h).owner ≠ m.sender
  deployed : (s.subdomains h).deploymentID ≠ 0
  settled : (s.subdomains h).reservedUntil = 0
  current : m.timestamp ≤ (s.subdomains h).expiresAt.toNat + s.gracePeriod

lemma not_fullyExpired
    (hcurrent : m.timestamp ≤ (s.subdomains h).expiresAt.toNat + s.gracePeriod) :
    s.isFullyExpired m h = false := by
  unfold Storage.isFullyExpired
  rw [decide_eq_false_iff_not]
  exact fun hexpired => absurd hexpired.2 (not_lt.mpr hcurrent)

lemma not_lapsed (hsettled : r.reservedUntil = 0) (t : ℕ) : r.lapsed t = false := by
  unfold SubdomainRecord.lapsed
  rw [decide_eq_false_iff_not, hsettled]
  exact fun hlapsed => absurd hlapsed.1 (lt_irrefl 0)

namespace Tenured

/-- A name that is not free is not the one that is registered or reserved. -/
lemma not_cleanedUp {cleaned : Storage} (ht : Tenured m s h) : ¬ CleanedUp m s h cleaned := by
  rintro (howner | ⟨-, hexpired⟩ | ⟨-, hlapsed, -⟩)
  · exact ht.owned howner
  · rw [not_fullyExpired ht.current] at hexpired
    cases hexpired
  · rw [not_lapsed ht.settled] at hlapsed
    cases hlapsed

lemma not_vacated {vacated : Storage} (ht : Tenured m s h) : ¬ Vacated m s h vacated := by
  rintro (howner | ⟨-, hexpired | hlapsed⟩)
  · exact ht.owned howner
  · rw [not_fullyExpired ht.current] at hexpired
    cases hexpired
  · rw [not_lapsed ht.settled] at hlapsed
    cases hlapsed

lemma not_squatted (ht : Tenured m s h) : ¬ s.isSquatted m h = true := by
  intro hsquatted
  unfold Storage.isSquatted at hsquatted
  rw [decide_eq_true_eq] at hsquatted
  rcases hsquatted with hlapsed | ⟨hdeployment, -⟩
  · rw [not_lapsed ht.settled] at hlapsed
    cases hlapsed
  · exact ht.deployed hdeployment

/-- **An operation of another account leaves the record**, and the grace period. -/
theorem made (ht : Tenured m s h) (hmade : Made keccak m s op s') :
    s'.subdomains h = s.subdomains h ∧ s'.gracePeriod = s.gracePeriod := by
  -- an operation writes the record of its own name, which is not `h`
  have hwrite : ∀ {k : Bytes32} {r : SubdomainRecord}, k ≠ h →
      update s.subdomains k r h = s.subdomains h :=
    fun hk => update_of_ne (Ne.symm hk) _ _
  have howns : ∀ {k : Bytes32}, Owns m s k → k ≠ h := by
    rintro k hown rfl
    exact ht.foreign hown.2
  cases hmade with
  | @registered name _ _ _ hname hdeployment hroom hcleaned =>
    have hne : keccak name ≠ h := by
      rintro rfl
      exact ht.not_cleanedUp hcleaned
    cases hcleaned <;> exact ⟨hwrite hne, rfl⟩
  | @reserved name _ hname hroom hvacated =>
    have hne : keccak name ≠ h := by
      rintro rfl
      exact ht.not_vacated hvacated
    cases hvacated <;> exact ⟨hwrite hne, rfl⟩
  | @reclaimed name howner hsquatted =>
    have hne : keccak name ≠ h := by
      rintro rfl
      exact ht.not_squatted hsquatted
    exact ⟨hwrite hne, rfl⟩
  | renewed hown | claimed hown _ | cancelled hown | released hown | transferred hown _ _ _
  | updated hown _ => exact ⟨hwrite (howns hown), rfl⟩
  | described hown | primarySet hown _ => exact ⟨rfl, rfl⟩

/-- So do all operations of a call. -/
lemma run (ht : Tenured m s h) {l : List (NameOp × Storage)} (hl : Path (Made keccak m) s l) :
    (endState s l).subdomains h = s.subdomains h := by
  induction l generalizing s with
  | nil => rfl
  | cons x l ih =>
    obtain ⟨op, s₁⟩ := x
    obtain ⟨hmade, hl⟩ := hl
    obtain ⟨hrecord, hgrace⟩ := ht.made hmade
    have ht₁ : Tenured m s₁ h := by
      obtain ⟨howned, hforeign, hdeployed, hsettled, hcurrent⟩ := ht
      rw [← hrecord] at howned hforeign hdeployed hsettled hcurrent
      rw [← hgrace] at hcurrent
      exact ⟨howned, hforeign, hdeployed, hsettled, hcurrent⟩
    exact (ih ht₁ hl).trans hrecord

end Tenured

/-- A settled name with an owner is not available before it is fully expired. -/
lemma not_available {name : Name} (howned : (s.subdomains (keccak name)).owner ≠ 0)
    (hsettled : (s.subdomains (keccak name)).reservedUntil = 0)
    (hcurrent : m.timestamp ≤ (s.subdomains (keccak name)).expiresAt.toNat + s.gracePeriod) :
    s.isAvailable keccak m name = false := by
  unfold Storage.isAvailable
  rw [decide_eq_false_iff_not]
  rintro (howner | hexpired | hlapsed)
  · exact howned howner
  · rw [not_fullyExpired hcurrent] at hexpired
    cases hexpired
  · rw [not_lapsed hsettled] at hlapsed
    cases hlapsed

/-- **The tenure of a name.** In every run in which the deployment of `h` is not updated while the
name is reserved: if `h` has an owner and a deployment, then until its expiry and the grace period
have passed the name is not available, and no call of another account changes its record or makes it
available. -/
theorem name_tenure {self : Address} {w₀ : World} {l : List (Action × World)} {o : Address}
    (hw₀ : Deployed (contract keccak) self w₀) (hl : Path (Step (contract keccak) self) w₀ l)
    (hG : StepsMeet (fun w a => ∀ op ∈ opsOf a, NotReserved keccak h w.storage op) w₀ l)
    (ho : ((endState w₀ l).storage.subdomains h).owner = o) (hzero : o ≠ 0)
    (hdeployed : ((endState w₀ l).storage.subdomains h).deploymentID ≠ 0) :
    (∀ m name, keccak name = h →
      m.timestamp ≤ ((endState w₀ l).storage.subdomains h).expiresAt.toNat +
        (endState w₀ l).storage.gracePeriod →
      (endState w₀ l).storage.isAvailable keccak m name = false) ∧
    ∀ sender t c w', sender ≠ o →
      t ≤ ((endState w₀ l).storage.subdomains h).expiresAt.toNat +
        (endState w₀ l).storage.gracePeriod →
      Step (contract keccak) self (endState w₀ l) (.call sender t c) w' →
      w'.storage.subdomains h = (endState w₀ l).storage.subdomains h ∧
      ∀ m name, keccak name = h → m.timestamp = t →
        t ≤ (w'.storage.subdomains h).expiresAt.toNat + w'.storage.gracePeriod →
        w'.storage.isAvailable keccak m name = false := by
  have hinit : Settled h w₀.storage.toNames := by
    rw [names_deployed hw₀]
    exact fun _ => rfl
  have hsettled : Settled h (endState w₀ l).storage.toNames :=
    (Path.invariant_of_steps (P := fun w : World => Settled h w.storage.toNames)
      (fun _ _ _ hw hop hstep => hw.step hop hstep) hinit hl hG).endState
  have hreserved := hsettled hdeployed
  generalize endState w₀ l = w at *
  refine ⟨?_, ?_⟩
  · rintro m name rfl hcurrent
    exact not_available (ho ▸ hzero) hreserved hcurrent
  · intro sender t c w' hsender hcurrent hstep
    have hrecord : w'.storage.subdomains h = w.storage.subdomains h := by
      rcases step_ran hstep with ⟨sender', t', c', l', heq, -, hpath, -, hend⟩ | ⟨-, hsame⟩
      · cases heq
        have ht : Tenured (w.msg self sender t) w.storage h :=
          ⟨ho ▸ hzero, ho ▸ hsender.symm, hdeployed, hreserved, hcurrent⟩
        have hkept := ht.run hpath
        have hsub : (endState w.storage l').subdomains = w'.storage.subdomains :=
          congrArg Names.subdomains hend
        rw [← hsub]
        exact hkept
      · exact congrFun (congrArg Names.subdomains hsame) h
    refine ⟨hrecord, ?_⟩
    rintro m name rfl rfl hcurrent'
    apply not_available
    · rw [hrecord, ho]
      exact hzero
    · rw [hrecord]
      exact hreserved
    · exact hcurrent'

/-- Account `3` reserves a name and claims it with a deployment; account `4` registers another. -/
theorem name_tenure_claimed :
    let l := fresh.trace (contract packName) 100
      [.call 3 0 (.reserve alpha fun _ => none), .call 3 100 (.claimReservation alpha 7)]
    ∃ w', Step (contract packName) 100 (endState fresh l)
        (.call 4 200000 (.register beta 8 fun _ => none)) w' ∧
      (w'.storage.subdomains (packName alpha)).owner = 3 ∧
      (endState fresh l).storage.isAvailable packName ⟨4, 200000, 0⟩ alpha = false ∧
      w'.storage.subdomains (packName alpha) =
        (endState fresh l).storage.subdomains (packName alpha) := by
  intro l
  have hsome : ((endState fresh l).next (contract packName) 100
      (.call 4 200000 (.register beta 8 fun _ => none))).isSome = true := by decide +kernel
  have howner : ((Option.get _ hsome).storage.subdomains (packName alpha)).owner = 3 := by
    decide +kernel +revert
  have hstep : Step (contract packName) 100 (endState fresh l)
      (.call 4 200000 (.register beta 8 fun _ => none)) (Option.get _ hsome) :=
    (Option.some_get hsome).symm
  have hguard : StepsMeet (fun (w : World) a =>
      ∀ op ∈ opsOf a, NotReserved packName (packName alpha) w.storage op) fresh l := by
    apply stepsMeet_trace
    simp [opsOf, ExtCall.ops, NotReserved]
  obtain ⟨havailable, hothers⟩ := name_tenure (o := 3) (fresh_deployed (by decide))
    (Chain.World.trace_path (contract packName) 100) hguard (by decide +kernel) (by decide)
    (by decide +kernel)
  exact ⟨_, hstep, howner, havailable _ _ rfl (by decide +kernel),
    (hothers 4 _ _ _ (by decide) (by decide +kernel) hstep).1⟩

/-- Account `3` reserves a name and gives it a deployment with `updateDeployment`, which the owner
of the registry has made free of charge. -/
def updatedReservation : List Action :=
  [.call 2 0 (.setChangeFee 0), .call 3 0 (.reserve alpha fun _ => none),
    .call 3 1 (.updateDeployment alpha 7)]

/-- **The update that does not end the reservation.** Two days later, and long before the name
expires, it is available, and another account takes it from its owner. -/
theorem reclaimed_with_deployment :
    let l := fresh.trace (contract packName) 100 updatedReservation
    ∃ w', Deployed (contract packName) 100 fresh ∧
      Path (Step (contract packName) 100) fresh l ∧ l.length = 3 ∧
      ((endState fresh l).storage.subdomains (packName alpha)).owner = 3 ∧
      ((endState fresh l).storage.subdomains (packName alpha)).deploymentID = 7 ∧
      ((endState fresh l).storage.subdomains (packName alpha)).expiresAt = 31536000 ∧
      (endState fresh l).storage.isAvailable packName ⟨4, 172801, 0⟩ alpha = true ∧
      Step (contract packName) 100 (endState fresh l)
        (.call 4 172801 (.reclaimSquatted alpha)) w' ∧
      (w'.storage.subdomains (packName alpha)).owner = 0 := by
  intro l
  have hsome : ((endState fresh l).next (contract packName) 100
      (.call 4 172801 (.reclaimSquatted alpha))).isSome = true := by decide +kernel
  exact ⟨Option.get _ hsome, fresh_deployed (by decide),
    Chain.World.trace_path (contract packName) 100, by decide +kernel, by decide +kernel,
    by decide +kernel, by decide +kernel, by decide +kernel, (Option.some_get hsome).symm,
    by decide +kernel +revert⟩

end Moltbunker.Contracts.NameRegistry
