import Moltbunker.Contracts.NameRegistry.Tenure

/-!
# `BunkerRegistry`: reverse resolution

`primaryName` points from a deployment back to one of its names. `Primary` says that it does so
rightly, and `Points` that a pointer which is set is right. Operations that take a name from its
deployment have to clear the pointer. `reverse_resolution` states that reverse resolution agrees
with forward resolution in every run in which those that do not clear it are not made on a primary
name (`NotPrimary`): `reserve`, `cancelReservation`, `reclaimSquatted`, and `register` and
`claimReservation` when they set another deployment in the place of a reservation's.

`reversed_to_other_deployment` is a run in which the pointer of a deployment leads to a name of
another one.
-/

namespace Moltbunker.Contracts.NameRegistry

open Lib Function
open Chain (Step Deployed)

/-- The name `h` is the primary name of the deployment `d`, and the pointer is right. -/
structure Primary (d h : Bytes32) (n : Names) : Prop where
  points : n.primaryName d = h
  hash : h ≠ 0
  deployment : d ≠ 0
  owned : (n.subdomains h).owner ≠ 0
  deployed : (n.subdomains h).deploymentID = d

/-- If the pointer of `d` is set, it is right. -/
def Points (d : Bytes32) (n : Names) : Prop :=
  n.primaryName d ≠ 0 → Primary d (n.primaryName d) n

/-- An operation that would leave the pointer of `d` is not made on the primary name of `d`. -/
def NotPrimary (keccak : Name → Bytes32) (d : Bytes32) (m : Msg) (s : Storage) : NameOp → Prop
  | .register name deploymentID _ => deploymentID ≠ d →
      (s.subdomains (keccak name)).lapsed m.timestamp = true →
        s.isFullyExpired m (keccak name) = false → ¬ Primary d (keccak name) s.toNames
  | .claimReservation name deploymentID => deploymentID ≠ d → ¬ Primary d (keccak name) s.toNames
  | .reserve name => ¬ Primary d (keccak name) s.toNames
  | .cancelReservation name => ¬ Primary d (keccak name) s.toNames
  | .reclaimSquatted name => ¬ Primary d (keccak name) s.toNames
  | _ => True

/-- The operations of a step meet the condition, at its time. -/
def KeepsPrimary (keccak : Name → Bytes32) (d : Bytes32) (self : Address) (w : World) :
    Action → Prop
  | .call sender t c => ∀ op ∈ c.ops, NotPrimary keccak d (w.msg self sender t) w.storage op
  | _ => True

variable {keccak : Name → Bytes32} {m : Msg} {s s' : Storage} {n n' : Names} {d h k : Bytes32}
  {op : NameOp}

/-! ## One operation -/

lemma Primary.congr (hprimary : Primary d h n) (hpoints : n'.primaryName d = n.primaryName d)
    (hrecord : n'.subdomains h = n.subdomains h) : Primary d h n' := by
  refine ⟨hpoints.trans hprimary.points, hprimary.hash, hprimary.deployment, ?_, ?_⟩
  · rw [hrecord]
    exact hprimary.owned
  · rw [hrecord]
    exact hprimary.deployed

/-- A pointer that `clearPrimary` leaves set is the old one. -/
lemma clearPrimary_eq {d' : Bytes32} (hset : (s.clearPrimary d' k).primaryName d ≠ 0) :
    (s.clearPrimary d' k).primaryName d = s.primaryName d := by
  unfold Storage.clearPrimary at hset ⊢
  dsimp only at hset ⊢
  split at hset
  · by_cases hd : d = d'
    · subst hd
      rw [update_self] at hset
      exact absurd rfl hset
    · rw [if_pos ‹_›, update_of_ne hd]
  · rw [if_neg ‹_›]

/-- The pointer to a primary name is cleared. -/
lemma Primary.cleared (hprimary : Primary d k s.toNames) :
    (s.clearPrimary (s.subdomains k).deploymentID k).primaryName d = 0 := by
  unfold Storage.clearPrimary
  dsimp only
  rw [hprimary.deployed, if_pos ⟨hprimary.deployment, hprimary.points⟩, update_self]

/-- The record of `k` is written. The pointer of `d` stays or is cleared, and if it stays and leads
to `k`, the new record is one of `d`. -/
lemma Points.write (hn : Points d n) {r : SubdomainRecord}
    (hrecord : n'.subdomains = update n.subdomains k r)
    (hkeep : n'.primaryName d ≠ 0 → n'.primaryName d = n.primaryName d)
    (hself : Primary d k n → n'.primaryName d = k → r.owner ≠ 0 ∧ r.deploymentID = d) :
    Points d n' := by
  intro hset
  have heq := hkeep hset
  have hold : Primary d (n'.primaryName d) n := heq ▸ hn (heq ▸ hset)
  by_cases hk : n'.primaryName d = k
  · obtain ⟨howned, hdeployed⟩ := hself (hk ▸ hold) hk
    refine ⟨rfl, hset, hold.deployment, ?_, ?_⟩
    · rw [hrecord, hk, update_self]
      exact howned
    · rw [hrecord, hk, update_self]
      exact hdeployed
  · apply hold.congr heq
    rw [hrecord, update_of_ne hk]

/-- **Every operation that meets the condition keeps the pointer right.** -/
theorem Points.made (hzero : m.sender ≠ 0) (hn : Points d s.toNames)
    (hG : NotPrimary keccak d m s op) (hmade : Made keccak m s op s') : Points d s'.toNames := by
  -- the operations that clear the pointer to a primary name
  have hcleared : ∀ {k : Bytes32}, Primary d k s.toNames →
      (s.clearPrimary (s.subdomains k).deploymentID k).primaryName d ≠ k :=
    fun hprimary hk => hprimary.hash (hk.symm.trans hprimary.cleared)
  cases hmade with
  | @registered name deploymentID _ _ hname hdeployment hroom hcleaned =>
    cases hcleaned with
    | unowned howner =>
      exact hn.write rfl (fun _ => rfl) fun hprimary _ => absurd howner hprimary.owned
    | expired howner hexpired =>
      exact hn.write rfl clearPrimary_eq fun hprimary hk => absurd hk (hcleared hprimary)
    | lapsed howner hlapsed hcurrent =>
      refine hn.write rfl (fun _ => rfl) ?_
      intro hprimary _
      refine ⟨hzero, ?_⟩
      by_contra hne
      exact hG hne hlapsed hcurrent hprimary
  | reserved hname hroom hvacated =>
    refine hn.write (congrArg (update · _ _) hvacated.subdomains_eq) ?_ ?_
    · intro _
      cases hvacated <;> rfl
    · intro hprimary
      exact absurd hprimary hG
  | renewed hown =>
    exact hn.write rfl (fun _ => rfl) fun hprimary _ => ⟨hprimary.owned, hprimary.deployed⟩
  | claimed hown hdeployment =>
    refine hn.write rfl (fun _ => rfl) ?_
    intro hprimary _
    refine ⟨hprimary.owned, ?_⟩
    by_contra hne
    exact hG hne hprimary
  | cancelled hown => exact hn.write rfl (fun _ => rfl) fun hprimary _ => absurd hprimary hG
  | released hown | updated hown hdeployment =>
    exact hn.write rfl clearPrimary_eq fun hprimary hk => absurd hk (hcleared hprimary)
  | transferred hown hnew hother hroom =>
    exact hn.write rfl (fun _ => rfl) fun hprimary _ => ⟨hnew, hprimary.deployed⟩
  | described hown => exact fun hset => (hn hset).congr rfl rfl
  | reclaimed howner hsquatted =>
    exact hn.write rfl (fun _ => rfl) fun hprimary _ => absurd hprimary hG
  | @primarySet name hown hdeployment =>
    intro hset
    dsimp only at hset ⊢
    by_cases hd : d = (s.subdomains (keccak name)).deploymentID
    · subst hd
      rw [update_self] at hset ⊢
      exact ⟨update_self _ _ _, hset, hdeployment, hown.1, rfl⟩
    · rw [update_of_ne hd] at hset ⊢
      exact (hn hset).congr (update_of_ne hd _ _) rfl

/-- What a registration leaves to those after it: the other records and the grace period, no
reservation of its name, and no new pointer. -/
lemma registered_spec {name : Name} {deploymentID : Bytes32} {referrer : Address}
    (hmade : Made keccak m s (.register name deploymentID referrer) s') :
    (∀ x, x ≠ keccak name → s'.subdomains x = s.subdomains x) ∧
      (s'.subdomains (keccak name)).reservedUntil = 0 ∧ s'.gracePeriod = s.gracePeriod ∧
      (s'.primaryName d ≠ 0 → s'.primaryName d = s.primaryName d) := by
  cases hmade with
  | registered hname hdeployment hroom hcleaned =>
    have hfree : ∀ {f : Bytes32 → SubdomainRecord} {r : SubdomainRecord}, r.reservedUntil = 0 →
        (update f (keccak name) r (keccak name)).reservedUntil = 0 := by
      intro f r hr
      rw [update_self]
      exact hr
    cases hcleaned with
    | unowned _ | lapsed _ _ _ =>
      exact ⟨fun _ hx => update_of_ne hx _ _, hfree rfl, rfl, fun _ => rfl⟩
    | expired _ _ =>
      exact ⟨fun _ hx => update_of_ne hx _ _, hfree rfl, rfl, clearPrimary_eq⟩

/-- A registration keeps the condition of the registrations after it: the name that it registers is
no lapsed reservation, and another name is primary only if it was. -/
lemma NotPrimary.registered {name name' : Name} {deploymentID deploymentID' : Bytes32}
    {referrer referrer' : Address}
    (hmade : Made keccak m s (.register name deploymentID referrer) s')
    (hG : NotPrimary keccak d m s (.register name' deploymentID' referrer')) :
    NotPrimary keccak d m s' (.register name' deploymentID' referrer') := by
  intro hne hlapsed hcurrent hprimary
  obtain ⟨hothers, hfree, hgrace, hkeep⟩ := registered_spec (d := d) hmade
  by_cases hk : keccak name' = keccak name
  · rw [hk, not_lapsed hfree] at hlapsed
    cases hlapsed
  · have hrecord := hothers _ hk
    have hset : s'.primaryName d ≠ 0 := by
      rw [hprimary.points]
      exact hprimary.hash
    unfold Storage.isFullyExpired at hcurrent
    rw [hrecord, hgrace] at hcurrent
    rw [hrecord] at hlapsed
    exact hG hne hlapsed hcurrent (hprimary.congr (hkeep hset).symm hrecord.symm)

/-! ## Names and their hashes -/

/-- The text of a name is stored at its hash. -/
def Named (keccak : Name → Bytes32) (n : Names) : Prop :=
  ∀ h, n.nameOf h ≠ [] → keccak (n.nameOf h) = h

/-- A text is written at its hash, or none. -/
lemma Named.write (hn : Named keccak n) {name : Name}
    (hname : n'.nameOf = update n.nameOf k name) (hk : name ≠ [] → keccak name = k) :
    Named keccak n' := by
  unfold Named
  rw [hname, forall_update_iff n.nameOf fun h name => name ≠ [] → keccak name = h]
  exact ⟨hk, fun h _ => hn h⟩

lemma Named.made (hn : Named keccak s.toNames) (hmade : Made keccak m s op s') :
    Named keccak s'.toNames := by
  cases hmade with
  | registered hname hdeployment hroom hcleaned =>
    cases hcleaned <;> exact hn.write rfl fun _ => rfl
  | reserved hname hroom hvacated => cases hvacated <;> exact hn.write rfl fun _ => rfl
  | cancelled _ | released _ | reclaimed _ _ => exact hn.write rfl fun hne => absurd rfl hne
  | _ => exact hn

/-! ## Over a run -/

section Runs

variable {self : Address} {w w' : World} {a : Action}

/-- Every step that meets the condition keeps the pointer right. -/
lemma Points.step (hw : Points d w.storage.toNames) (hG : KeepsPrimary keccak d self w a)
    (hstep : Step (contract keccak) self w a w') : Points d w'.storage.toNames := by
  rcases step_ran hstep with ⟨sender, t, c, l, rfl, hzero, hpath, hops, hend⟩ | ⟨-, hsame⟩
  · have hmeets : StepsMeet (NotPrimary keccak d (w.msg self sender t)) w.storage l :=
      stepsMeet_of_ops (fun _ _ => trivial)
        (fun _ _ _ _ _ _ _ _ hmade hop => hop.registered hmade) hpath hops hG
    have hrun := Path.invariant_of_steps (P := fun s : Storage => Points d s.toNames)
      (fun _ _ _ hs hop hmade => hs.made hzero hop hmade) hw hpath hmeets
    rw [← hend]
    exact hrun.endState
  · rw [hsame]
    exact hw

/-- **Reverse resolution agrees with forward resolution**, in every run whose operations meet the
condition: a name to which the deployment `d` resolves back resolves to `d`, and the pointer of `d`,
if it is set, leads to a name of `d`. -/
theorem reverse_resolution {w₀ : World} {l : List (Action × World)}
    (hw₀ : Deployed (contract keccak) self w₀) (hl : Path (Step (contract keccak) self) w₀ l)
    (hG : StepsMeet (KeepsPrimary keccak d self) w₀ l) :
    ((endState w₀ l).storage.reverseResolve d ≠ [] →
      ((endState w₀ l).storage.resolve keccak
        ((endState w₀ l).storage.reverseResolve d)).2.1 = d) ∧
    ((endState w₀ l).storage.primaryName d ≠ 0 →
      ((endState w₀ l).storage.subdomains
        ((endState w₀ l).storage.primaryName d)).deploymentID = d) := by
  have hnamed : Named keccak (endState w₀ l).storage.toNames := by
    have hinit : Named keccak w₀.storage.toNames := by
      rw [names_deployed hw₀]
      exact fun _ hne => absurd rfl hne
    exact (Path.invariant (P := fun w : World => Named keccak w.storage.toNames)
      (fun _ _ _ hw hs => step_invariant (fun _ _ _ _ _ hn hop => hn.made hop) hw hs)
      hinit hl).endState
  have hpoints : Points d (endState w₀ l).storage.toNames := by
    have hinit : Points d w₀.storage.toNames := by
      rw [names_deployed hw₀]
      exact fun hne => absurd rfl hne
    exact (Path.invariant_of_steps (P := fun w : World => Points d w.storage.toNames)
      (fun _ _ _ hw hop hstep => hw.step hop hstep) hinit hl hG).endState
  generalize endState w₀ l = w at *
  refine ⟨?_, fun hset => (hpoints hset).deployed⟩
  intro hname
  unfold Storage.reverseResolve at hname ⊢
  by_cases hset : w.storage.primaryName d = 0
  · rw [if_pos hset] at hname
    exact absurd rfl hname
  · rw [if_neg hset] at hname ⊢
    unfold Storage.resolve
    rw [hnamed _ hname]
    exact (hpoints hset).deployed

end Runs

/-- Account `3` registers a name, makes it the primary name of its deployment and gives it away. -/
def primaryGiven : List Action :=
  [.call 3 0 (.register alpha 7 fun _ => none), .call 3 1 (.setPrimaryName alpha),
    .call 3 2 (.transfer alpha 4)]

theorem reverse_resolution_given :
    let l := fresh.trace (contract packName) 100 primaryGiven
    l.length = 3 ∧ (endState fresh l).storage.reverseResolve 7 = alpha ∧
      ((endState fresh l).storage.resolve packName
        ((endState fresh l).storage.reverseResolve 7)).2.1 = 7 := by
  intro l
  have hreverse : (endState fresh l).storage.reverseResolve 7 = alpha := by decide +kernel
  have hguard : StepsMeet (KeepsPrimary packName 7 100) fresh l := by
    -- the registration is the first of its name
    refine ⟨List.forall_mem_singleton.mpr fun hne => absurd rfl hne, ?_, ?_, trivial⟩
    · exact List.forall_mem_singleton.mpr trivial
    · exact List.forall_mem_singleton.mpr trivial
  refine ⟨by decide +kernel, hreverse, ?_⟩
  apply (reverse_resolution (fresh_deployed (by decide))
    (Chain.World.trace_path (contract packName) 100) hguard).1
  rw [hreverse]
  decide

/-- Account `3` registers a name and makes it primary. When the name has expired for good, account
`4` reserves it and claims it for its own deployment. -/
def reservedPrimary : List Action :=
  [.call 3 0 (.register alpha 7 fun _ => none), .call 3 1 (.setPrimaryName alpha),
    .call 4 34128001 (.reserve alpha fun _ => none), .call 4 34128002 (.claimReservation alpha 9)]

/-- **The pointer that stays.** The deployment `7` resolves back to a name, and the name to the
deployment `9` of another account. -/
theorem reversed_to_other_deployment :
    let l := fresh.trace (contract packName) 100 reservedPrimary
    Deployed (contract packName) 100 fresh ∧ Path (Step (contract packName) 100) fresh l ∧
      l.length = 4 ∧ (endState fresh l).storage.reverseResolve 7 = alpha ∧
      (endState fresh l).storage.resolve packName alpha = (4, 9, 34128001) :=
  ⟨fresh_deployed (by decide), Chain.World.trace_path (contract packName) 100,
    by decide +kernel⟩

end Moltbunker.Contracts.NameRegistry
