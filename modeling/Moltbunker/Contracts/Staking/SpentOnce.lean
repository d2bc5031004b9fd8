import Moltbunker.Contracts.Staking.Bounds

/-!
# `BunkerStaking`: a vested reward is spent once

What a provider claims from an entry and what a slash forfeits from it are computed by two
functions that do not know of each other. To compare them the entries are tracked through the run:
`World.track` keeps beside each entry what was ever paid from it (`Tracked.paid`) and what
`_forfeitUnvestedRewards` ever counted from it (`Tracked.forfeited`), also after a claim has removed
the entry from storage. The tracked entries are the stored ones (`tracks_sync`), and the tracked
amounts add up to what the two functions compute (`Tracks.paid_claimed`,
`Tracks.forfeited_slashed`).

The forfeiture does not look at what was released. A second slash of an entry counts its unvested
part again (`entry_forfeited_twice`). In a run in which no slash hits an entry that has released
more than has vested, no entry is spent beyond its amount (`vested_spent_once`).
-/

namespace Moltbunker.Contracts.Staking

open Lib Function

/-- An entry, what was ever paid from it and what was ever counted as forfeited from it. -/
structure Tracked where
  entry : VestedReward
  paid : ℕ
  forfeited : ℕ
  deriving DecidableEq

namespace Tracked

/-- The entry is claimed from. -/
def claimed (period t : ℕ) (x : Tracked) : Tracked where
  entry := claimedEntry period t x.entry
  paid := x.paid + claimableValue period t x.entry
  forfeited := x.forfeited

/-- The entry is slashed. -/
def slashed (period t : ℕ) (x : Tracked) : Tracked where
  entry := forfeitedEntry period t x.entry
  paid := x.paid
  forfeited := x.forfeited + unvestedValue period t x.entry

/-- The entry is fully released. -/
def released (x : Tracked) : Bool := x.entry.releasedAmount == x.entry.totalAmount

/-- What keeps an entry from being spent twice: before it is slashed, what was released is what was
paid; after it is slashed it is released in full. -/
def SpentOnce (x : Tracked) : Prop :=
  (x.forfeited = 0 ∧ x.paid = x.entry.releasedAmount.toNat ∧
      x.entry.releasedAmount.toNat ≤ x.entry.totalAmount.toNat) ∨
    (x.entry.releasedAmount = x.entry.totalAmount ∧
      x.paid + x.forfeited ≤ x.entry.totalAmount.toNat)

variable {x : Tracked} {period t : ℕ}

lemma SpentOnce.le_total (h : x.SpentOnce) :
    x.paid + x.forfeited ≤ x.entry.totalAmount.toNat := by
  rcases h with ⟨h₁, h₂, h₃⟩ | ⟨-, h⟩
  · omega
  · exact h

lemma SpentOnce.claimed (h : x.SpentOnce)
    (hle : x.entry.releasedAmount.toNat ≤ vestedValue period t x.entry) :
    (x.claimed period t).SpentOnce := by
  have htotal := vestedValue_le_total period t x.entry
  have hreleased := claimedEntry_releasedAmount period t x.entry
  rcases h with ⟨h₁, h₂, h₃⟩ | ⟨h₁, h₂⟩
  · refine .inl ⟨h₁, ?_, ?_⟩
    · simp only [Tracked.claimed, claimableValue, hreleased]
      omega
    · simp only [Tracked.claimed, hreleased]
      exact htotal
  · -- an entry that was released in full has nothing to claim
    rw [h₁] at hle
    have hvested : vestedValue period t x.entry = x.entry.totalAmount.toNat :=
      le_antisymm htotal hle
    refine .inr ⟨?_, ?_⟩
    · refine BitVec.eq_of_toNat_eq ?_
      simp only [Tracked.claimed, hreleased]
      exact hvested
    · simp only [Tracked.claimed, claimableValue, hvested, h₁, Nat.sub_self, Nat.add_zero]
      exact h₂

lemma SpentOnce.slashed (h : x.SpentOnce)
    (hle : x.entry.releasedAmount.toNat ≤ vestedValue period t x.entry) :
    (x.slashed period t).SpentOnce := by
  unfold Tracked.slashed forfeitedEntry
  by_cases hpos : unvestedValue period t x.entry > 0
  · rw [if_pos hpos]
    refine .inr ⟨rfl, ?_⟩
    unfold unvestedValue at hpos ⊢
    rcases h with ⟨h₁, h₂, -⟩ | ⟨h₁, -⟩
    · dsimp only
      omega
    · rw [h₁] at hle
      omega
  · rw [if_neg hpos, Nat.eq_zero_of_not_pos hpos, Nat.add_zero]
    exact h

end Tracked

/-- The entries of a provider and those that its claims have removed. -/
structure Tracks where
  live : List Tracked
  closed : List Tracked

namespace Tracks

def empty : Tracks := ⟨[], []⟩

/-- A claim of rewards opens an entry for the part that vests. -/
def opened (x : Tracks) (t vested : ℕ) : Tracks :=
  { x with
    live := if vested > 0 then x.live ++ [⟨⟨.ofNat 128 vested, 0, .ofNat 48 t⟩, 0, 0⟩]
      else x.live }

/-- Every entry is claimed from, and the fully released ones are removed. -/
def claimed (period t : ℕ) (x : Tracks) : Tracks where
  live := swapPop Tracked.released (x.live.map (Tracked.claimed period t))
  closed := x.closed ++ (x.live.map (Tracked.claimed period t)).filter Tracked.released

/-- Every entry is slashed. -/
def slashed (period t : ℕ) (x : Tracks) : Tracks :=
  { x with live := x.live.map (Tracked.slashed period t) }

/-- The entries as they are stored. -/
def entries (x : Tracks) : List VestedReward := x.live.map Tracked.entry

/-- What was ever paid. -/
def paid (x : Tracks) : ℕ := ((x.live ++ x.closed).map Tracked.paid).sum

/-- What was ever forfeited. -/
def forfeited (x : Tracks) : ℕ := ((x.live ++ x.closed).map Tracked.forfeited).sum

lemma entries_opened {x : Tracks} {t vested : ℕ} :
    (x.opened t vested).entries = Storage.pushEntry x.entries t vested := by
  unfold opened entries Storage.pushEntry
  split <;> simp

lemma entries_claimed {period t : ℕ} {x : Tracks} :
    (x.claimed period t).entries = swapPop (fun e => e.releasedAmount == e.totalAmount)
      (x.entries.map (claimedEntry period t)) := by
  have hmap : (x.live.map (Tracked.claimed period t)).map Tracked.entry =
      x.entries.map (claimedEntry period t) := by
    simp [entries, Tracked.claimed, Function.comp_def]
  rw [← hmap]
  exact swapPop_map Tracked.entry (fun e => e.releasedAmount == e.totalAmount) _

lemma entries_slashed {period t : ℕ} {x : Tracks} :
    (x.slashed period t).entries = x.entries.map (forfeitedEntry period t) := by
  simp [entries, slashed, Tracked.slashed, Function.comp_def]

/-- A claim pays what the entries let the provider claim. -/
lemma paid_claimed {period t : ℕ} {x : Tracks} :
    (x.claimed period t).paid = x.paid + (x.entries.map (claimableValue period t)).sum := by
  have hperm := ((swapPop_perm Tracked.released
    (x.live.map (Tracked.claimed period t))).map Tracked.paid).sum_eq
  have hsplit := ((List.filter_append_perm Tracked.released
    (x.live.map (Tracked.claimed period t))).map Tracked.paid).sum_eq
  have hsum : ((x.live.map (Tracked.claimed period t)).map Tracked.paid).sum =
      (x.live.map Tracked.paid).sum + (x.entries.map (claimableValue period t)).sum := by
    rw [entries, List.map_map, List.map_map, ← List.sum_map_add]
    rfl
  simp only [paid, claimed, List.map_append, List.sum_append] at hperm hsplit ⊢
  omega

/-- A slash counts the unvested parts of the entries. -/
lemma forfeited_slashed {period t : ℕ} {x : Tracks} : (x.slashed period t).forfeited =
    x.forfeited + (x.entries.map (unvestedValue period t)).sum := by
  have hsum : ((x.live.map (Tracked.slashed period t)).map Tracked.forfeited).sum =
      (x.live.map Tracked.forfeited).sum + (x.entries.map (unvestedValue period t)).sum := by
    rw [entries, List.map_map, List.map_map, ← List.sum_map_add]
    rfl
  simp only [forfeited, slashed, List.map_append, List.sum_append]
  omega

end Tracks

/-! ## Tracking a run -/

/-- Track the entries of the provider that is slashed, if one is. -/
def trackSlash (tracks : Address → Tracks) (period t : ℕ) : Option Address → Address → Tracks
  | some p => update tracks p ((tracks p).slashed period t)
  | none => tracks

/-- Track the entries of all providers through a step. -/
def World.track (w : World) (tracks : Address → Tracks) : Action → Address → Tracks
  | .call sender t .claimRewards =>
    update tracks sender ((tracks sender).opened t
      ((w.staking.updated t sender).rewards sender -
        w.staking.immediatePart ((w.staking.updated t sender).rewards sender)))
  | .call sender t .claimVestedRewards =>
    update tracks sender ((tracks sender).claimed w.staking.vestingPeriod t)
  | .call _ t c => trackSlash tracks w.staking.vestingPeriod t (slashTarget w.staking c)
  | _ => tracks

/-- Track the entries of all providers through a run. -/
def World.tracksIn : World → (Address → Tracks) → List (Action × World) → Address → Tracks
  | _, tracks, [] => tracks
  | w, tracks, (a, w') :: rest => w'.tracksIn (w.track tracks a) rest

/-- The tracked entries are the stored ones. -/
def InSync (tracks : Address → Tracks) (s : Storage) : Prop :=
  ∀ p, (tracks p).entries = s.vestedRewards p

variable {tracks : Address → Tracks} {s : Storage} {p self : Address} {x : Tracks} {r : Outcome}
  {w : World} {t : ℕ} {l : List (Action × World)} {period : ℕ} {s₀ : Storage}

lemma inSync_update {s' : Storage} (h : InSync tracks s)
    (hs : s'.vestedRewards = update s.vestedRewards p x.entries) :
    InSync (update tracks p x) s' := by
  intro q
  rw [hs]
  by_cases hq : q = p
  · subst hq
    rw [update_self, update_self]
  · rw [update_of_ne hq, update_of_ne hq]
    exact h q

/-- A slash keeps the tracked entries in sync. -/
lemma inSync_slashes (h : InSync tracks s) {m : Msg} {amount : ℕ}
    {info' : ProviderInfo} (hslash : s₀.Slashes m p amount info' r)
    (hvested : s₀.vestedRewards = s.vestedRewards) (hperiod : s₀.vestingPeriod = s.vestingPeriod) :
    InSync (update tracks p ((tracks p).slashed s.vestingPeriod m.timestamp)) r.1 := by
  refine inSync_update h ?_
  rw [hslash.storage, Tracks.entries_slashed, h p]
  unfold Storage.afterSlash
  rw [hvested, hperiod]

/-- Applying a proposal keeps the tracked entries in sync. -/
lemma inSync_applies (h : InSync tracks s) {m : Msg} {x : SlashProposal}
    (hr : s₀.Applies m x r) (hvested : s₀.vestedRewards = s.vestedRewards)
    (hperiod : s₀.vestingPeriod = s.vestingPeriod)
    (hslashable : s₀.slashable x.provider = s.slashable x.provider) :
    InSync (trackSlash tracks s.vestingPeriod m.timestamp (proposalTarget s x)) r.1 := by
  unfold proposalTarget
  rw [← hslashable]
  obtain ⟨-, ⟨hzero, rfl⟩ | ⟨info', hslash⟩⟩ := hr
  · rw [if_pos hzero]
    intro p
    exact (h p).trans (congrFun hvested p).symm
  · rw [if_neg hslash.amount_ne]
    exact inSync_slashes h hslash hvested hperiod

/-- **A call keeps the tracked entries in sync.** -/
theorem inSync_effect {sender : Address} {c : ExtCall} (h : InSync tracks w.staking)
    (he : Effect (w.msg self sender t) w.staking c r) :
    InSync (w.track tracks (.call sender t c)) r.1 := by
  cases he with
  | slash hc hrole henabled hupdate hslash =>
    rcases hc with rfl | rfl <;> exact inSync_slashes h hslash rfl rfl
  | propose p amount text reason hc =>
    rcases hc with rfl | rfl <;> exact h
  | executeSlash _ _ _ _ _ _ hr | uphold _ _ _ _ _ _ hr =>
    have hsync := inSync_applies h hr rfl rfl rfl
    exact hsync
  | claimRewards _ _ _ =>
    refine inSync_update h ?_
    rw [Tracks.entries_opened, h sender]
    rfl
  | claimVestedRewards _ =>
    refine inSync_update h ?_
    rw [Tracks.entries_claimed, h sender]
    rfl
  | @quiet c s' hc hquiet =>
    have hvested : s'.vestedRewards = w.staking.vestedRewards :=
      congrArg Books.vested (hquiet.books 0 0)
    have htrack : w.track tracks (.call sender t c) = tracks := by
      cases c <;> first | rfl | cases hc
    rw [htrack]
    intro p
    rw [hvested]
    exact h p
  | _ => exact h

lemma inSync_step {w' : World} {a : Action} (h : InSync tracks w.staking)
    (hstep : Step self w a w') : InSync (w.track tracks a) w'.staking := by
  rcases step_cases hstep with ⟨sender, t, c, calls, rfl, -, -, -, hexec, -, -⟩ |
    ⟨t, op, rfl, -, -, -, hw'⟩ | ⟨t, owner, isSlasher, rfl, -, rfl⟩
  · exact inSync_effect h (exec_effect hexec)
  · rw [hw']
    exact h
  · exact h

/-- **The tracked entries are the stored ones** at the end of every run. -/
theorem tracks_sync (h : InSync tracks w.staking)
    (hl : Path (Step self) w l) : InSync (w.tracksIn tracks l) (endState w l).staking := by
  induction l generalizing w tracks with
  | nil => exact h
  | cons x l ih => exact ih (inSync_step h hl.1) hl.2

/-! ## Spent once -/

/-- Every tracked entry is spent once. -/
def AllSpentOnce (tracks : Address → Tracks) : Prop :=
  ∀ p, ∀ x ∈ (tracks p).live ++ (tracks p).closed, x.SpentOnce

/-- The condition on a step: a slash hits entries that have released at most what has vested. -/
def SlashGuard (w : World) : Action → Prop
  | .call _ t c => ∀ p, slashTarget w.staking c = some p → ReleasedVested w.staking t p
  | _ => True

instance (w : World) : (a : Action) → Decidable (SlashGuard w a)
  | .call _ t c =>
    match h : slashTarget w.staking c with
    | none => .isTrue fun p hp => by simp [h] at hp
    | some p => decidable_of_iff (ReleasedVested w.staking t p)
        ⟨fun hr q hq => by rw [h] at hq; cases hq; exact hr, fun hG => hG p h⟩
  | .token _ _ => inferInstanceAs (Decidable True)
  | .access _ _ _ => inferInstanceAs (Decidable True)

lemma allSpentOnce_update (h : AllSpentOnce tracks) (hx : ∀ y ∈ x.live ++ x.closed, y.SpentOnce) :
    AllSpentOnce (update tracks p x) := by
  intro q
  by_cases hq : q = p
  · subst hq
    rw [update_self]
    exact hx
  · rw [update_of_ne hq]
    exact h q

section Entries

variable (h : ∀ y ∈ x.live ++ x.closed, y.SpentOnce)
include h

lemma spentOnce_opened {t vested : ℕ} :
    ∀ y ∈ (x.opened t vested).live ++ (x.opened t vested).closed, y.SpentOnce := by
  intro y hy
  unfold Tracks.opened at hy
  split at hy
  · rcases List.mem_append.mp hy with hy | hy
    · rcases List.mem_append.mp hy with hy | hy
      · exact h y (List.mem_append_left _ hy)
      · rw [List.mem_singleton] at hy
        subst hy
        exact .inl ⟨rfl, rfl, Nat.zero_le _⟩
    · exact h y (List.mem_append_right _ hy)
  · exact h y hy

lemma spentOnce_claimed (hle : ∀ e ∈ x.entries, e.releasedAmount.toNat ≤ vestedValue period t e) :
    ∀ y ∈ (x.claimed period t).live ++ (x.claimed period t).closed, y.SpentOnce := by
  have hmap : ∀ y ∈ x.live.map (Tracked.claimed period t), y.SpentOnce := by
    intro y hy
    obtain ⟨z, hz, rfl⟩ := List.mem_map.mp hy
    exact (h z (List.mem_append_left _ hz)).claimed (hle _ (List.mem_map_of_mem hz))
  intro y hy
  rcases List.mem_append.mp hy with hy | hy
  · exact hmap y (mem_swapPop.mp hy).1
  · rcases List.mem_append.mp hy with hy | hy
    · exact h y (List.mem_append_right _ hy)
    · exact hmap y (List.mem_of_mem_filter hy)

lemma spentOnce_slashed (hle : ∀ e ∈ x.entries, e.releasedAmount.toNat ≤ vestedValue period t e) :
    ∀ y ∈ (x.slashed period t).live ++ (x.slashed period t).closed, y.SpentOnce := by
  intro y hy
  rcases List.mem_append.mp hy with hy | hy
  · obtain ⟨z, hz, rfl⟩ := List.mem_map.mp hy
    exact (h z (List.mem_append_left _ hz)).slashed (hle _ (List.mem_map_of_mem hz))
  · exact h y (List.mem_append_right _ hy)

end Entries

/-- **A guarded step spends no entry twice.** -/
theorem allSpentOnce_step {w' : World} {a : Action} (hsync : InSync tracks w.staking)
    (h : AllSpentOnce tracks) (hG : SlashGuard w a) (hstep : Step self w a w') :
    AllSpentOnce (w.track tracks a) := by
  cases a with
  | token t op => exact h
  | access t owner isSlasher => exact h
  | call sender t c =>
    have hslash : AllSpentOnce
        (trackSlash tracks w.staking.vestingPeriod t (slashTarget w.staking c)) := by
      cases hc : slashTarget w.staking c with
      | none => exact h
      | some p =>
        refine allSpentOnce_update h (spentOnce_slashed (h p) ?_)
        rw [hsync p]
        exact hG p hc
    cases c with
    | claimRewards => exact allSpentOnce_update h (spentOnce_opened (h sender))
    | claimVestedRewards =>
      refine allSpentOnce_update h (spentOnce_claimed (h sender) ?_)
      rw [hsync sender]
      -- the claim has returned, so it met no entry it would have panicked on
      obtain ⟨_, -, -, -, hexec, -, -⟩ := call_of_step hstep
      exact (Storage.claimVestedRewards_eq_ok hexec).1
    | _ => exact hslash

/-- A run of guarded steps spends no entry twice. -/
lemma allSpentOnce_run (hsync : InSync tracks w.staking)
    (h : AllSpentOnce tracks) (hl : Path (Step self) w l) (hG : StepsMeet SlashGuard w l) :
    AllSpentOnce (w.tracksIn tracks l) := by
  induction l generalizing w tracks with
  | nil => exact h
  | cons x l ih =>
    exact ih (inSync_step hsync hl.1) (allSpentOnce_step hsync h hG.1 hl.1) hl.2 hG.2

/-- **A vested reward is spent at most once.** In every run from a deployment in which no slash hits
an entry that has released more than has vested, what was ever paid from an entry and what was ever
forfeited from it are together at most its amount. -/
theorem vested_spent_once {self : Address} {w₀ : World} {l : List (Action × World)}
    (hdep : Deployed self w₀) (hl : Path (Step self) w₀ l) (hG : StepsMeet SlashGuard w₀ l) :
    InSync (w₀.tracksIn (fun _ => .empty) l) (endState w₀ l).staking ∧
      ∀ p, ∀ x ∈ (w₀.tracksIn (fun _ => .empty) l p).live ++
        (w₀.tracksIn (fun _ => .empty) l p).closed,
          x.paid + x.forfeited ≤ x.entry.totalAmount.toNat := by
  have hsync : InSync (fun _ => .empty) w₀.staking := by
    obtain ⟨treasury, owner, hs⟩ := books_deployed hdep
    rw [hs]
    exact fun _ => rfl
  refine ⟨tracks_sync hsync hl, fun p x hx => ?_⟩
  have hspent := allSpentOnce_run hsync nofun hl hG
  exact (hspent p x hx).le_total

theorem vested_spent_once_slashEarly :
    (World.fresh.trace 100 slashEarly).length = 9 ∧
      ∀ p, ∀ x ∈ (World.fresh.tracksIn (fun _ => .empty)
          (World.fresh.trace 100 slashEarly) p).live ++
        (World.fresh.tracksIn (fun _ => .empty) (World.fresh.trace 100 slashEarly) p).closed,
          x.paid + x.forfeited ≤ x.entry.totalAmount.toNat :=
  ⟨by decide +kernel, (vested_spent_once (World.fresh_deployed (by decide))
    (World.trace_path _) (by decide +kernel)).2⟩

/-- A second slash counts the unvested part of the entry again. -/
theorem entry_forfeited_twice :
    ∃ l, Path (Step 100) World.fresh l ∧ ∃ x ∈ (World.fresh.tracksIn (fun _ => .empty) l 3).live,
      x.entry.totalAmount.toNat < x.paid + x.forfeited :=
  ⟨_, World.trace_path (slashEarly ++ [.call 4 604802 (.slash 3 1)]),
    by decide +kernel⟩

end Moltbunker.Contracts.Staking
