import Moltbunker.Lib.Text

/-!
# What a proxy session is billed for

`relay` of `internal/proxy` copies between the client and the target in two goroutines. It wraps
both connections where they are read and neither where it is written, so the meter counts what the
target sends as read (`relay_eq`).

* `session_billed_iff` — a session is billed for what it carried when the target sends nothing;
* `download_billed_as_upload` — a download is recorded as `bytesIn`.
-/

namespace Moltbunker.Proxy

open Lib

/-- `BandwidthMeter` -/
structure BandwidthMeter where
  bytesRead : Int64
  bytesWritten : Int64

inductive Peer where
  | client
  | target
  deriving DecidableEq

/-- The connection to a peer: a `net.Conn`, or a `MeteredConn` around it. -/
structure Conn where
  peer : Peer
  metered : Bool

/-- `Read` of `n` bytes -/
def Conn.read (c : Conn) (n : ℕ) (m : BandwidthMeter) : BandwidthMeter :=
  if c.metered then { m with bytesRead := m.bytesRead + .ofNat n } else m

/-- `Write` of `n` bytes -/
def Conn.write (c : Conn) (n : ℕ) (m : BandwidthMeter) : BandwidthMeter :=
  if c.metered then { m with bytesWritten := m.bytesWritten + .ofNat n } else m

/-- `io.Copy(target, meteredClient)` and `io.Copy(client, meteredTarget)` -/
inductive Copy where
  | upload
  | download

def Copy.dst : Copy → Conn
  | .upload => ⟨.target, false⟩
  | .download => ⟨.client, false⟩

def Copy.src : Copy → Conn
  | .upload => ⟨.client, true⟩
  | .download => ⟨.target, true⟩

/-- What a copy does next. -/
inductive Event where
  | read (copy : Copy) (n : ℕ)
  | write (copy : Copy) (n : ℕ)

def BandwidthMeter.next (m : BandwidthMeter) : Event → BandwidthMeter
  | .read copy n => copy.src.read n m
  | .write copy n => copy.dst.write n m

/-- `relay`, with the reads and writes of both goroutines in any order. -/
def relay (events : List Event) : BandwidthMeter := events.foldl .next ⟨0, 0⟩

/-- The calls of `RecordProxySession` at the end of `handleConnection` and of `handleConnect`, where
a service meter may be missing. -/
def recordSession (meter : Bool) (wallet : Text) (events : List Event) :
    List (Text × Int64 × Int64) :=
  if meter then [(wallet, (relay events).bytesRead, (relay events).bytesWritten)] else []

def Event.readFrom (peer : Peer) : Event → ℕ
  | .read copy n => if copy.src.peer = peer then n else 0
  | .write .. => 0

/-- The number of bytes that are read from a peer. -/
def readFrom (peer : Peer) (events : List Event) : ℕ := (events.map (·.readFrom peer)).sum

/-- One call bills the session for what it carried. -/
def Billed (meter : Bool) (wallet : Text) (events : List Event) : Prop :=
  ∃ bytesIn bytesOut, recordSession meter wallet events = [(wallet, bytesIn, bytesOut)] ∧
    bytesIn.toInt = readFrom .client events ∧ bytesOut.toInt = readFrom .target events

/-- All that is read counts as read, and nothing as written. -/
lemma relay_eq (events : List Event) :
    relay events = ⟨.ofNat (readFrom .client events + readFrom .target events), 0⟩ := by
  induction events using List.reverseRecOn with
  | nil => rfl
  | append_singleton events e ih =>
    have hnext : relay (events ++ [e]) = (relay events).next e := List.foldl_concat ..
    rw [hnext, ih]
    unfold readFrom BandwidthMeter.next
    rcases e with ⟨copy, n⟩ | ⟨copy, n⟩
    · cases copy <;> simp [Event.readFrom, Copy.src, Conn.read] <;> ac_rfl
    · cases copy <;> simp [Event.readFrom, Copy.dst, Conn.write]

/-- **When a session is billed for what it carried.** -/
theorem session_billed_iff (meter : Bool) (wallet : Text) (events : List Event) :
    Billed meter wallet events ↔
      meter = true ∧ readFrom .target events = 0 ∧ readFrom .client events < 2 ^ 63 := by
  unfold Billed recordSession
  rw [relay_eq]
  cases meter with
  | false => simp
  | true =>
    simp only [if_true, List.cons.injEq, Prod.mk.injEq, true_and, and_true]
    constructor
    · rintro ⟨_, _, ⟨rfl, rfl⟩, hin, hout⟩
      have hzero : readFrom .target events = 0 := by simpa using hout.symm
      refine ⟨hzero, ?_⟩
      have hlt := (Int64.ofNat (readFrom .client events + readFrom .target events)).toInt_lt
      omega
    · rintro ⟨hzero, hlt⟩
      rw [hzero]
      exact ⟨_, _, ⟨rfl, rfl⟩, Int64.toInt_ofNat_of_lt hlt, rfl⟩

/-- **A download is billed as an upload.** The target sends five bytes, which are `bytesIn`. -/
theorem download_billed_as_upload :
    recordSession true [] [.read .download 5, .write .download 5] = [([], 5, 0)] ∧
      ¬ Billed true [] [.read .download 5, .write .download 5] := by
  refine ⟨rfl, ?_⟩
  rintro ⟨_, _, h, hin, -⟩
  cases h
  cases hin

end Moltbunker.Proxy
