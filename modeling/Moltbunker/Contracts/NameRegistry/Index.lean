import Moltbunker.Contracts.NameRegistry.Turn

/-!
# `BunkerRegistry`: the lists of the owners

The registry keeps, beside the record of each name, the name itself and a list of the names of every
owner. `registry_index` states that they agree in every reachable state: a name stands once in the
list of its owner and in no other list, it has a text exactly if it has an owner, and no list is
longer than `MAX_NAMES_PER_OWNER`.

The lists are the index of `Lib/OwnerIndex.lean`, with the zero address as "no owner". An operation
is one of four things for them: it leaves the owners, takes a name away (`Consistent.taken`), gives
a name that is free or was freed (`Consistent.given`), or passes it on.
-/

namespace Moltbunker.Contracts.NameRegistry

open Lib Function SubdomainRecord
open Chain (Deployed Reached)

/-- The owner of a record, if it has one. -/
def SubdomainRecord.holder (r : SubdomainRecord) : Option Address :=
  if r.owner = 0 then none else some r.owner

variable {r : SubdomainRecord} {owned : Address → List Bytes32}

lemma SubdomainRecord.holder_of_ne (h : r.owner ≠ 0) :
    r.holder = some r.owner := if_neg h

lemma SubdomainRecord.holder_eq_some {o : Address} : r.holder = some o ↔ r.owner = o ∧ o ≠ 0 := by
  unfold holder
  by_cases h : r.owner = 0
  · rw [if_pos h]
    constructor
    · nofun
    · rintro ⟨rfl, hne⟩
      exact absurd h hne
  · rw [if_neg h]
    constructor
    · rintro ⟨⟩
      exact ⟨rfl, h⟩
    · rintro ⟨rfl, -⟩
      rfl

/-- The lists, the names and the records agree. -/
structure Consistent (n : Names) : Prop where
  index : Indexed (fun h => (n.subdomains h).holder) n.ownedNames
  named : ∀ h, n.nameOf h ≠ [] ↔ (n.subdomains h).owner ≠ 0
  capped : ∀ o, (n.ownedNames o).length ≤ maxNamesPerOwner

variable {keccak : Name → Bytes32} {m : Msg} {s s' : Storage} {n n' : Names} {h : Bytes32}

/-- The owners after a record was written. -/
lemma holder_update : (fun x => (update n.subdomains h r x).holder) =
    update (fun x => (n.subdomains x).holder) h r.holder :=
  comp_update holder n.subdomains h r

/-- A bound on the lengths of all lists survives a shorter list. -/
lemma capped_update {o : Address} {l : List Bytes32}
    (hcap : ∀ x, (owned x).length ≤ maxNamesPerOwner) (hl : l.length ≤ maxNamesPerOwner) :
    ∀ x, (update owned o l x).length ≤ maxNamesPerOwner := by
  rw [forall_update_iff owned fun _ l => l.length ≤ maxNamesPerOwner]
  exact ⟨hl, fun x _ => hcap x⟩

namespace Consistent

/-- The owners are as they were. -/
lemma kept (hn : Consistent n) (howner : ∀ x, (n'.subdomains x).owner = (n.subdomains x).owner)
    (hname : n'.nameOf = n.nameOf) (howned : n'.ownedNames = n.ownedNames) : Consistent n' := by
  refine ⟨?_, ?_, ?_⟩
  · rw [howned]
    apply hn.index.congr
    intro x
    unfold holder
    rw [howner]
  · intro x
    rw [hname, howner]
    exact hn.named x
  · rw [howned]
    exact hn.capped

/-- The record of one name was written, and its owner left. -/
lemma kept_record (hn : Consistent n)
    (hrecord : n'.subdomains = update n.subdomains h r)
    (howner : r.owner = (n.subdomains h).owner) (hname : n'.nameOf = n.nameOf)
    (howned : n'.ownedNames = n.ownedNames) : Consistent n' := by
  refine hn.kept ?_ hname howned
  rw [hrecord, forall_update_iff n.subdomains fun x r => r.owner = (n.subdomains x).owner]
  exact ⟨howner, fun _ _ => rfl⟩

/-- A name is taken from its owner and deleted. -/
lemma taken (hn : Consistent n) (howner : (n.subdomains h).owner ≠ 0)
    (hrecord : n'.subdomains = update n.subdomains h .empty)
    (hname : n'.nameOf = update n.nameOf h [])
    (howned : n'.ownedNames = update n.ownedNames (n.subdomains h).owner
      (swapPopFirst h (n.ownedNames (n.subdomains h).owner))) : Consistent n' := by
  refine ⟨?_, ?_, ?_⟩
  · rw [hrecord, howned, holder_update]
    exact hn.index.remove (holder_of_ne howner)
  · intro x
    rw [hrecord, hname]
    by_cases hx : x = h
    · subst hx
      rw [update_self, update_self]
      exact ⟨fun hne => absurd rfl hne, fun hne => absurd rfl hne⟩
    · rw [update_of_ne hx, update_of_ne hx]
      exact hn.named x
  · rw [howned]
    exact capped_update hn.capped ((length_swapPopFirst_le).trans (hn.capped _))

end Consistent

/-- The lists in which a name may be given to a new owner: nobody has it, or it was taken from the
list of the owner that its record still names. -/
def Freed (n : Names) (h : Bytes32) (owned : Address → List Bytes32) : Prop :=
  ((n.subdomains h).owner = 0 ∧ owned = n.ownedNames) ∨
    ((n.subdomains h).owner ≠ 0 ∧ owned = update n.ownedNames (n.subdomains h).owner
      (swapPopFirst h (n.ownedNames (n.subdomains h).owner)))

/-- Nobody's list grows when a name is freed. -/
lemma Freed.length_le (hfreed : Freed n h owned) (o : Address) :
    (owned o).length ≤ (n.ownedNames o).length := by
  rcases hfreed with ⟨-, rfl⟩ | ⟨-, rfl⟩
  · exact le_rfl
  · by_cases ho : o = (n.subdomains h).owner
    · rw [ho, update_self]
      exact length_swapPopFirst_le
    · rw [update_of_ne ho]

lemma CleanedUp.freed {cleaned : Storage} (hcleaned : CleanedUp m s h cleaned) :
    Freed s.toNames h cleaned.ownedNames := by
  cases hcleaned with
  | unowned howner => exact .inl ⟨howner, rfl⟩
  | expired howner _ => exact .inr ⟨howner, rfl⟩
  | lapsed howner _ _ => exact .inr ⟨howner, rfl⟩

lemma Vacated.freed {vacated : Storage} (hvacated : Vacated m s h vacated) :
    Freed s.toNames h vacated.ownedNames := by
  cases hvacated with
  | unowned howner => exact .inl ⟨howner, rfl⟩
  | taken howner _ => exact .inr ⟨howner, rfl⟩

/-- A freed name is given to the owner of its new record. -/
lemma Consistent.given (hn : Consistent n) {name : Name} (hfreed : Freed n h owned)
    (hzero : r.owner ≠ 0) (hnew : name ≠ [])
    (hroom : (n.ownedNames r.owner).length < maxNamesPerOwner)
    (hrecord : n'.subdomains = update n.subdomains h r)
    (hname : n'.nameOf = update n.nameOf h name)
    (howned : n'.ownedNames = update owned r.owner (owned r.owner ++ [h])) : Consistent n' := by
  refine ⟨?_, ?_, ?_⟩
  · rw [hrecord, howned, holder_update, holder_of_ne hzero]
    rcases hfreed with ⟨howner, rfl⟩ | ⟨howner, rfl⟩
    · exact hn.index.push (if_pos howner) r.owner
    · exact hn.index.move (holder_of_ne howner) r.owner
  · intro x
    rw [hrecord, hname]
    by_cases hx : x = h
    · subst hx
      rw [update_self, update_self]
      exact ⟨fun _ => hzero, fun _ => hnew⟩
    · rw [update_of_ne hx, update_of_ne hx]
      exact hn.named x
  · rw [howned]
    apply capped_update (fun o => (hfreed.length_le o).trans (hn.capped o))
    rw [List.length_append, List.length_singleton]
    exact (hfreed.length_le r.owner).trans_lt hroom

/-- **Every operation keeps the lists.** -/
theorem Consistent.made {op : NameOp} (hzero : m.sender ≠ 0) (hn : Consistent s.toNames)
    (hmade : Made keccak m s op s') : Consistent s'.toNames := by
  cases hmade with
  | registered hname hdeployment hroom hcleaned =>
    have hfreed := hcleaned.freed
    cases hcleaned with
    | _ => exact hn.given hfreed hzero hname hroom rfl rfl rfl
  | reserved hname hroom hvacated =>
    have hfreed := hvacated.freed
    cases hvacated with
    | unowned _ | taken _ _ => exact hn.given hfreed hzero hname hroom rfl rfl rfl
  | renewed hown | claimed hown _ | updated hown _ => exact hn.kept_record rfl rfl rfl rfl
  | described hown | primarySet hown _ => exact hn.kept (fun _ => rfl) rfl rfl
  | cancelled hown | released hown => exact hn.taken hown.1 rfl rfl rfl
  | reclaimed howner hsquatted => exact hn.taken howner rfl rfl rfl
  | transferred hown hnew hother hroom =>
    -- the text of the name stays, which is a write of what was there
    exact hn.given (.inr ⟨hown.1, rfl⟩) hnew ((hn.named _).mpr hown.1) hroom rfl
      (update_eq_self _ _).symm rfl

/-- A registry without names is consistent. -/
lemma Consistent.empty : Consistent .empty := by
  refine ⟨fun h o => rfl, fun h => ?_, fun o => Nat.zero_le _⟩
  exact ⟨fun hne => absurd rfl hne, fun hne => absurd rfl hne⟩

/-- **The index of the registry.** In every reachable state a name stands once in the list of its
owner and in no other list, it has a text exactly if it has an owner, and no list is longer than
`MAX_NAMES_PER_OWNER`. -/
theorem registry_index {self : Address} {w : World} (hw : Reached (contract keccak) self w) :
    (∀ h o, (w.storage.ownedNames o).count h =
      if (w.storage.subdomains h).owner = o ∧ o ≠ 0 then 1 else 0) ∧
    (∀ h, w.storage.nameOf h ≠ [] ↔ (w.storage.subdomains h).owner ≠ 0) ∧
    ∀ o, (w.storage.ownedNames o).length ≤ maxNamesPerOwner := by
  obtain ⟨w₀, hdep, hreach⟩ := hw
  have hn : Consistent w.storage.toNames := by
    refine Reachable.invariant (P := fun w : World => Consistent w.storage.toNames) ?_ ?_ hreach
    · intro w a w' hw hstep
      exact step_invariant (fun _ _ _ _ hzero hn hop => hn.made hzero hop) hw hstep
    · rw [names_deployed hdep]
      exact .empty
  refine ⟨fun h o => ?_, hn.named, hn.capped⟩
  rw [hn.index h o]
  simp only [holder_eq_some]

/-! ## Concrete runs -/

/-- The bytes of a name as a number, the hash of the concrete runs: no two valid names have the
same, since they have at most 32 bytes. -/
def packName (name : Name) : Bytes32 :=
  name.foldl (fun hash c => hash <<< 8 ||| c.setWidth 256) 0

/-- The name `alpha`. -/
def alpha : Name := [0x61, 0x6C, 0x70, 0x68, 0x61]

/-- The name `beta`. -/
def beta : Name := [0x62, 0x65, 0x74, 0x61]

/-- A fresh deployment at time `0` with treasury `1` and owner `2`, without fees for a name and
without a staking contract. -/
def fresh : World := ⟨0, .deployed 1 0 2 0, .empty supplyCap⟩

lemma fresh_deployed {self : Address} (h : self ≠ 0) : Deployed (contract keccak) self fresh :=
  ⟨h, by decide, ⟨1, 1, 0, 2, 0, rfl⟩, fun _ => rfl⟩

/-- Account `3` registers two names and gives one away. When the other one has expired for good,
account `4` registers it. -/
def reregistered : List Action :=
  [.call 3 0 (.bulkRegister [alpha, beta] [7, 8] fun _ => none), .call 3 1 (.transfer beta 4),
    .call 4 34128001 (.register alpha 9 fun _ => none)]

theorem registry_index_reregistered :
    let w := endState fresh (fresh.trace (contract packName) 100 reregistered)
    (fresh.trace (contract packName) 100 reregistered).length = 3 ∧
      w.storage.ownedNames 4 = [packName beta, packName alpha] ∧
      (w.storage.ownedNames 3).count (packName alpha) =
        if (w.storage.subdomains (packName alpha)).owner = 3 ∧ (3 : Address) ≠ 0 then 1 else 0 := by
  intro w
  have hreached : Reached (contract packName) 100 w :=
    (fresh_deployed (by decide)).reached (contract packName) 100
  exact ⟨by decide +kernel, by decide +kernel, (registry_index hreached).1 _ _⟩

end Moltbunker.Contracts.NameRegistry
