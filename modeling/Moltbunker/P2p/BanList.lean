import Moltbunker.Identity.NodeID
import Moltbunker.Lib.GoTime

/-!
# Bans

`internal/p2p/banlist.go`. A ban replaces the ban that the peer had before, whichever of the two
lasts longer. The zero time of Go, which stands for a ban without an end, is `none`.

* `isBanned_ban_self` — until when a peer is banned after a ban.
-/

namespace Moltbunker.P2p

open Lib Function
open Identity (NodeID)

/-- `BanEntry` -/
structure BanEntry where
  peerID : NodeID
  reason : Text
  bannedAt : ℤ
  expiresAt : Option ℤ

/-- `IsExpired` -/
def BanEntry.isExpired (e : BanEntry) (now : ℤ) : Bool :=
  match e.expiresAt with
  | none => false
  | some expiresAt => expiresAt < now

/-- `BanList` -/
structure BanList where
  entries : NodeID → Option BanEntry

/-- `NewBanList` -/
def newBanList : BanList := ⟨fun _ => none⟩

/-- When a ban that is issued now ends. -/
def banEnd (now : ℤ) (duration : Duration) : Option ℤ :=
  if 0 < duration then some (Time.add now duration) else none

namespace BanList

/-- `Ban` -/
def ban (bl : BanList) (now : ℤ) (peerID : NodeID) (reason : Text) (duration : Duration) :
    BanList :=
  ⟨update bl.entries peerID (some ⟨peerID, reason, now, banEnd now duration⟩)⟩

/-- `Unban` -/
def unban (bl : BanList) (peerID : NodeID) : BanList :=
  ⟨update bl.entries peerID none⟩

/-- `IsBanned` -/
def isBanned (bl : BanList) (now : ℤ) (peerID : NodeID) : Bool :=
  match bl.entries peerID with
  | none => false
  | some entry => !entry.isExpired now

/-- `CleanExpired` -/
def cleanExpired (bl : BanList) (now : ℤ) : BanList :=
  ⟨fun id => (bl.entries id).filter fun entry => !entry.isExpired now⟩

variable {bl : BanList} {peerID id : NodeID} {now t : ℤ}

lemma isBanned_ban_self (reason : Text) (duration : Duration) :
    (bl.ban now peerID reason duration).isBanned t peerID = true ↔
      ∀ expiresAt ∈ banEnd now duration, t ≤ expiresAt := by
  simp only [isBanned, ban, update_self, BanEntry.isExpired]
  cases banEnd now duration <;> simp

lemma isBanned_unban_of_ne (h : id ≠ peerID) :
    (bl.unban peerID).isBanned t id = bl.isBanned t id := by
  simp only [isBanned, unban, update_of_ne h]

/-- A ban that ends is over later. -/
lemma BanEntry.isExpired_mono {e : BanEntry} (h : e.isExpired now = true) (hle : now ≤ t) :
    e.isExpired t = true := by
  unfold BanEntry.isExpired at h ⊢
  split at h
  · cases h
  · next expiresAt hend =>
    rw [decide_eq_true_eq] at h ⊢
    omega

/-- A ban that is over is not missed. -/
lemma isBanned_cleanExpired (hle : now ≤ t) :
    (bl.cleanExpired now).isBanned t id = bl.isBanned t id := by
  cases hentry : bl.entries id with
  | none => simp [isBanned, cleanExpired, hentry]
  | some entry =>
    cases hexpired : entry.isExpired now with
    | true =>
      simp [isBanned, cleanExpired, hentry, Option.filter_some, hexpired,
        BanEntry.isExpired_mono hexpired hle]
    | false => simp [isBanned, cleanExpired, hentry, Option.filter_some, hexpired]

end BanList

end Moltbunker.P2p
