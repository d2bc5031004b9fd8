import Moltbunker.Lib.GoTime

/-!
# Replay protection

`internal/p2p/nonce_tracker.go`: a message is accepted if its timestamp is neither too old nor too
far in the future and its nonce is not among those seen. Seen nonces are forgotten after a while, so
that a message might be accepted again once its nonce is. It is not, because by then its timestamp
is too old: from the time at which a nonce was seen until it is forgotten more time passes than any
accepted skew and any accepted age together (`RetentionCovers`).

The times at which `Check` and `CleanExpired` read the clock are arguments.

* `spent_next` — what was accepted once stays spent: its nonce is remembered, or its timestamp is
  too old;
* `accepted_once` — over every sequence of calls at times that do not go back, no pair of a nonce
  and a timestamp is accepted twice;
* `retentionCovers_iff` — the windows for which this is so.
-/

namespace Moltbunker.P2p

open Lib Function

/-- The nonce of a message. -/
abbrev Nonce := List.Vector UInt8 24

/-- The nonce of a message that was given none. -/
def zeroNonce : Nonce := List.Vector.replicate 24 0

/-- The errors of `Check`, with the durations that they name; an age is rounded in the text. -/
inductive NonceError where
  /-- `zero nonce not allowed` -/
  | zeroNonce
  /-- `message too old: %s ago (max %s)` -/
  | tooOld (age max : Duration)
  /-- `message timestamp too far in future: %s ahead (max %s)` -/
  | tooFarInFuture (ahead max : Duration)
  /-- `duplicate nonce (replay detected)` -/
  | duplicate
  deriving DecidableEq

/-- `NonceTracker`: when each nonce was seen, and the windows. -/
structure NonceTracker where
  seen : Nonce → Option ℤ
  maxAge : Duration
  futureSkew : Duration
  nonceWindow : Duration

/-- `NewNonceTrackerWithConfig` -/
def newNonceTrackerWithConfig (maxAge futureSkew nonceWindow : Duration) : NonceTracker :=
  ⟨fun _ => none, maxAge, futureSkew, nonceWindow⟩

/-- `NewNonceTracker` -/
def newNonceTracker : NonceTracker :=
  newNonceTrackerWithConfig (5 * .minute) (30 * .second) (10 * .minute)

namespace NonceTracker

variable (nt : NonceTracker)

/-- The message is older than the accepted age. -/
def TooOld (now timestamp : ℤ) : Prop :=
  Time.sub now timestamp > nt.maxAge

/-- The message is further ahead than the accepted skew. -/
def TooFarInFuture (now timestamp : ℤ) : Prop :=
  Time.sub timestamp now > nt.futureSkew

instance (nt : NonceTracker) (now timestamp : ℤ) : Decidable (nt.TooOld now timestamp) :=
  inferInstanceAs (Decidable (_ < _))

instance (nt : NonceTracker) (now timestamp : ℤ) : Decidable (nt.TooFarInFuture now timestamp) :=
  inferInstanceAs (Decidable (_ < _))

/-- `Check` -/
def check (now : ℤ) (nonce : Nonce) (timestamp : ℤ) : Except NonceError NonceTracker :=
  if nonce = P2p.zeroNonce then .error .zeroNonce
  else if nt.TooOld now timestamp then .error (.tooOld (Time.sub now timestamp) nt.maxAge)
  else if nt.TooFarInFuture now timestamp then
    .error (.tooFarInFuture (Time.sub timestamp now) nt.futureSkew)
  else
    match nt.seen nonce with
    | some _ => .error .duplicate
    | none => .ok { nt with seen := update nt.seen nonce (some now) }

/-- `CleanExpired` -/
def cleanExpired (now : ℤ) : NonceTracker :=
  let cutoff := Time.add now (-nt.nonceWindow)
  { nt with seen := fun nonce => (nt.seen nonce).filter fun seenAt => ¬ seenAt < cutoff }

/-! ## Runs -/

/-- A call and the time at which it reads the clock. -/
inductive Call where
  | check (now : ℤ) (nonce : Nonce) (timestamp : ℤ)
  | cleanExpired (now : ℤ)

/-- The time of a call. -/
def Call.now : Call → ℤ
  | .check now _ _ => now
  | .cleanExpired now => now

/-- The tracker after a call. -/
def next : Call → NonceTracker
  | .check now nonce timestamp =>
    match nt.check now nonce timestamp with
    | .ok nt' => nt'
    | .error _ => nt
  | .cleanExpired now => nt.cleanExpired now

/-- The pairs that are accepted along a sequence of calls. -/
def accepted (nt : NonceTracker) : List Call → List (Nonce × ℤ)
  | [] => []
  | .check now nonce timestamp :: calls =>
    match nt.check now nonce timestamp with
    | .ok nt' => (nonce, timestamp) :: nt'.accepted calls
    | .error _ => nt.accepted calls
  | .cleanExpired now :: calls => (nt.cleanExpired now).accepted calls

/-- Every accepted age and every accepted skew are together at most the time for which a nonce is
remembered. -/
def RetentionCovers : Prop :=
  ∀ seenAt timestamp now, ¬ nt.TooFarInFuture seenAt timestamp → ¬ nt.TooOld now timestamp →
    (timestamp - seenAt) + (now - timestamp) ≤ nt.nonceWindow.toInt

/-! ## One call -/

variable {nt nt' : NonceTracker} {now timestamp : ℤ} {nonce : Nonce}

/-- What `Check` requires and does. -/
lemma check_eq_ok (h : nt.check now nonce timestamp = .ok nt') :
    ¬ nt.TooOld now timestamp ∧ ¬ nt.TooFarInFuture now timestamp ∧ nt.seen nonce = none ∧
      nt' = { nt with seen := update nt.seen nonce (some now) } := by
  unfold check at h
  split at h
  · cases h
  split at h
  · cases h
  split at h
  · cases h
  · next hold hfuture =>
    split at h
    · cases h
    · next hseen =>
      cases h
      exact ⟨hold, hfuture, hseen, rfl⟩

variable {now' : ℤ} {p : Nonce × ℤ} {calls : List Call}

/-- A message gets no younger. -/
lemma TooOld.mono (h : nt.TooOld now timestamp) (hle : now ≤ now') : nt.TooOld now' timestamp :=
  Int64.lt_of_lt_of_le h (Time.sub_mono hle timestamp)

/-- The windows do not change. -/
lemma next_windows (c : Call) :
    (nt.next c).maxAge = nt.maxAge ∧ (nt.next c).futureSkew = nt.futureSkew ∧
      (nt.next c).nonceWindow = nt.nonceWindow := by
  cases c with
  | check now nonce timestamp =>
    unfold next
    dsimp only
    split
    · next nt' hok =>
      obtain ⟨-, -, -, rfl⟩ := check_eq_ok hok
      exact ⟨rfl, rfl, rfl⟩
    · exact ⟨rfl, rfl, rfl⟩
  | cleanExpired now => exact ⟨rfl, rfl, rfl⟩

lemma RetentionCovers.next (h : nt.RetentionCovers) (c : Call) : (nt.next c).RetentionCovers := by
  obtain ⟨hage, hskew, hwindow⟩ := nt.next_windows c
  unfold RetentionCovers TooFarInFuture TooOld at h ⊢
  rw [hage, hskew, hwindow]
  exact h

/-! ## Pairs that were accepted -/

/-- The pair cannot be accepted from now on: its timestamp is too old, or its nonce was seen at a
time at which the timestamp was not too far ahead. -/
def Spent (nt : NonceTracker) (now : ℤ) (p : Nonce × ℤ) : Prop :=
  nt.TooOld now p.2 ∨ ∃ seenAt, nt.seen p.1 = some seenAt ∧ ¬ nt.TooFarInFuture seenAt p.2

lemma spent_of_ok (h : nt.check now nonce timestamp = .ok nt') :
    nt'.Spent now (nonce, timestamp) := by
  obtain ⟨-, hfuture, -, rfl⟩ := check_eq_ok h
  exact .inr ⟨now, update_self .., hfuture⟩

lemma Spent.check_ne_ok (h : nt.Spent now (nonce, timestamp)) (hle : now ≤ now') :
    nt.check now' nonce timestamp ≠ .ok nt' := by
  intro hok
  obtain ⟨hage, -, hseen, -⟩ := check_eq_ok hok
  rcases h with hold | ⟨seenAt, hsome, -⟩
  · exact hage (hold.mono hle)
  · rw [hseen] at hsome
    cases hsome

/-- A nonce that is forgotten was seen longer ago than its timestamp can be accepted. -/
lemma Spent.cleanExpired (h : nt.Spent now p) (hcover : nt.RetentionCovers) (hle : now ≤ now') :
    (nt.cleanExpired now').Spent now' p := by
  rcases h with hold | ⟨seenAt, hseen, hfuture⟩
  · exact .inl (hold.mono hle)
  by_cases hkept : seenAt < Time.add now' (-nt.nonceWindow)
  · left
    by_contra hage
    have hwindow := hcover seenAt p.2 now' hfuture hage
    have hcutoff := Time.add_neg_le now' nt.nonceWindow
    omega
  · right
    refine ⟨seenAt, ?_, hfuture⟩
    show (nt.seen p.1).filter _ = some seenAt
    rw [hseen]
    simpa using hkept

/-- A check of another pair leaves the nonce as it is: a nonce that is seen is not seen again. -/
lemma Spent.check (h : nt.Spent now p) (hle : now ≤ now')
    (hok : nt.check now' nonce timestamp = .ok nt') : nt'.Spent now' p := by
  obtain ⟨-, -, hnone, rfl⟩ := check_eq_ok hok
  rcases h with hold | ⟨seenAt, hseen, hfuture⟩
  · exact .inl (hold.mono hle)
  · have hne : p.1 ≠ nonce := by
      rintro rfl
      rw [hnone] at hseen
      cases hseen
    exact .inr ⟨seenAt, (update_of_ne hne ..).trans hseen, hfuture⟩

/-- **A pair that is spent stays spent.** -/
theorem spent_next {c : Call} (h : nt.Spent now p) (hcover : nt.RetentionCovers)
    (hle : now ≤ c.now) : (nt.next c).Spent c.now p := by
  cases c with
  | check now' nonce timestamp =>
    show NonceTracker.Spent (match nt.check now' nonce timestamp with
      | .ok nt' => nt'
      | .error _ => nt) now' p
    split
    · next nt' hok => exact h.check hle hok
    · exact h.imp (fun hold => hold.mono hle) id
  | cleanExpired now' => exact h.cleanExpired hcover hle

/-! ## Sequences of calls -/

/-- One call of a sequence, and what is accepted after it. -/
lemma accepted_cons (c : Call) (calls : List Call) :
    nt.accepted (c :: calls) = (nt.next c).accepted calls ∨
      ∃ now nonce timestamp nt', c = .check now nonce timestamp ∧
        nt.check now nonce timestamp = .ok nt' ∧
        nt.accepted (c :: calls) = (nonce, timestamp) :: (nt.next c).accepted calls := by
  cases c with
  | cleanExpired now => exact .inl rfl
  | check now nonce timestamp =>
    cases hcheck : nt.check now nonce timestamp with
    | error e => exact .inl (by simp only [accepted, next, hcheck])
    | ok nt' =>
      exact .inr ⟨now, nonce, timestamp, nt', rfl, hcheck, by simp only [accepted, next, hcheck]⟩

/-- A pair that is spent is not accepted again. -/
lemma Spent.not_mem_accepted (h : nt.Spent now p)
    (hcover : nt.RetentionCovers) (hle : ∀ c ∈ calls, now ≤ c.now)
    (hordered : calls.Pairwise fun a b => a.now ≤ b.now) : p ∉ nt.accepted calls := by
  induction calls generalizing nt now with
  | nil => exact List.not_mem_nil
  | cons c calls ih =>
    obtain ⟨hlater, hordered⟩ := List.pairwise_cons.mp hordered
    have hnow := hle c List.mem_cons_self
    have hrest := ih (spent_next h hcover hnow) (hcover.next c) hlater hordered
    rcases nt.accepted_cons c calls with heq | ⟨now', nonce, timestamp, nt', rfl, hok, heq⟩
    · rw [heq]
      exact hrest
    · rw [heq, List.mem_cons]
      rintro (rfl | hmem)
      · exact h.check_ne_ok hnow hok
      · exact hrest hmem

lemma accepted_nodup (hcover : nt.RetentionCovers)
    (hordered : calls.Pairwise fun a b => a.now ≤ b.now) : (nt.accepted calls).Nodup := by
  induction calls generalizing nt with
  | nil => exact List.nodup_nil
  | cons c calls ih =>
    obtain ⟨hlater, htail⟩ := List.pairwise_cons.mp hordered
    have hrest := ih (hcover.next c) htail
    rcases nt.accepted_cons c calls with heq | ⟨now, nonce, timestamp, nt', rfl, hok, heq⟩
    · rw [heq]
      exact hrest
    · rw [heq, List.nodup_cons]
      refine ⟨?_, hrest⟩
      have hnext : nt.next (.check now nonce timestamp) = nt' := by simp only [next, hok]
      have hspent : (nt.next (.check now nonce timestamp)).Spent now (nonce, timestamp) := by
        rw [hnext]
        exact spent_of_ok hok
      exact hspent.not_mem_accepted (hcover.next _) hlater htail

/-! ## The windows -/

/-- With an accepted age and an accepted skew below the largest duration, the condition on the
windows is an inequality between them. -/
lemma retentionCovers_iff (hage : nt.maxAge < Int64.maxValue)
    (hskew : nt.futureSkew < Int64.maxValue) : nt.RetentionCovers ↔
    nt.maxAge.toInt + nt.futureSkew.toInt ≤ nt.nonceWindow.toInt := by
  have hold : ∀ now timestamp, ¬ nt.TooOld now timestamp ↔ now - timestamp ≤ nt.maxAge.toInt := by
    intro now timestamp
    rw [TooOld, gt_iff_lt, Int64.not_lt, Time.sub_le_iff hage]
  have hfuture : ∀ now timestamp, ¬ nt.TooFarInFuture now timestamp ↔
      timestamp - now ≤ nt.futureSkew.toInt := by
    intro now timestamp
    rw [TooFarInFuture, gt_iff_lt, Int64.not_lt, Time.sub_le_iff hskew]
  constructor
  · intro h
    have hlimit := h 0 nt.futureSkew.toInt (nt.futureSkew.toInt + nt.maxAge.toInt)
      ((hfuture _ _).mpr (by omega)) ((hold _ _).mpr (by omega))
    omega
  · intro h seenAt timestamp now hseen hnow
    rw [hfuture] at hseen
    rw [hold] at hnow
    omega

lemma newNonceTracker_retentionCovers : newNonceTracker.RetentionCovers :=
  (retentionCovers_iff (by decide) (by decide)).mpr (by decide)

/-- **No pair is accepted twice**, over every sequence of calls at times that do not go back, with
the default windows and with any windows whose retention covers what they accept. Below the largest
duration, where differences of times saturate, these are the windows whose retention is at least the
accepted age and the accepted skew together. -/
theorem accepted_once (calls : List Call) (hordered : calls.Pairwise fun a b => a.now ≤ b.now) :
    (newNonceTracker.accepted calls).Nodup ∧
      (∀ nt : NonceTracker, nt.RetentionCovers → (nt.accepted calls).Nodup) ∧
      ∀ nt : NonceTracker, nt.maxAge < Int64.maxValue → nt.futureSkew < Int64.maxValue →
        nt.maxAge.toInt + nt.futureSkew.toInt ≤ nt.nonceWindow.toInt →
        (nt.accepted calls).Nodup := by
  refine ⟨accepted_nodup newNonceTracker_retentionCovers hordered,
    fun _ hcover => accepted_nodup hcover hordered, ?_⟩
  intro nt hage hskew hwindow
  exact accepted_nodup ((retentionCovers_iff hage hskew).mpr hwindow) hordered

/-- A message that is sent again while its nonce is remembered, and once more after it was
forgotten. -/
def replays : List Call :=
  let nonce : Nonce := List.Vector.replicate 24 1
  [.check 0 nonce 0, .check 60000000000 nonce 0, .cleanExpired 660000000000,
    .check 660000000000 nonce 0]

theorem accepted_once_replays :
    (replays.Pairwise fun a b => a.now ≤ b.now) ∧ newNonceTracker.RetentionCovers ∧
      newNonceTracker.accepted replays = [(List.Vector.replicate 24 1, 0)] ∧
      (newNonceTracker.accepted replays).Nodup :=
  ⟨by decide +kernel, newNonceTracker_retentionCovers, by decide +kernel,
    (accepted_once replays (by decide +kernel)).2.1 _ newNonceTracker_retentionCovers⟩

end NonceTracker

end Moltbunker.P2p
