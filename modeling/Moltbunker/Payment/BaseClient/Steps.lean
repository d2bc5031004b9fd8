import Moltbunker.Payment.BaseClient.Model

/-!
# What the steps of the client do

One inversion of `next` for all properties of the client: a step changes what the client is
connected to, or the nonces that were handed out, or neither of them.

* `tryEndpoints_spec`, `connect_spec`, `switchRPC_spec` — what the two ways of installing a client
  leave behind;
* `move_next` — what a step can do.
-/

namespace Moltbunker.Payment.BaseClient

open Lib

variable {sortSlice : (Candidate → Candidate → Bool) → List Candidate → List Candidate}

/-! ## Installing a client -/

/-- The client is the one from before, or one that has answered with the configured chain id. -/
def Installed (bc bc' : BaseClient) : Prop :=
  (bc'.client = bc.client ∧ bc'.activeRPC = bc.activeRPC) ∨
    bc'.client = some ⟨bc'.activeRPC, .ok bc.config.chainID⟩

/-- What the loop of `Connect` keeps, and the client that it leaves. -/
lemma tryEndpoints_spec (world : Text → Answer) (bc : BaseClient) (lastErr : Option Text)
    (urls : List Text) : (tryEndpoints world bc lastErr urls).1.config = bc.config ∧
    (tryEndpoints world bc lastErr urls).1.connected = bc.connected ∧
    Installed bc (tryEndpoints world bc lastErr urls).1 := by
  induction urls generalizing bc lastErr with
  | nil => exact ⟨rfl, rfl, .inl ⟨rfl, rfl⟩⟩
  | cons rpcURL rest ih =>
    unfold tryEndpoints
    dsimp only
    split
    · exact ih (bc.recordError rpcURL (world rpcURL).now) _
    · exact ih (bc.recordError rpcURL (world rpcURL).now) _
    · next chainID _ =>
      split
      · exact ih (bc.recordError rpcURL (world rpcURL).now) _
      · next hchain =>
        rw [not_not] at hchain
        refine ⟨rfl, rfl, .inr ?_⟩
        rw [← hchain]
        rfl

variable (sortSlice) in
/-- `Connect` reports success only with a client. -/
lemma connect_spec (bc : BaseClient) (now : ℤ) (world : Text → Answer) :
    (bc.connect sortSlice now world).1.config = bc.config ∧
      (bc.connect sortSlice now world).1.connected = bc.connected ∧
      Installed bc (bc.connect sortSlice now world).1 ∧
      ((bc.connect sortSlice now world).2 = none →
        (bc.connect sortSlice now world).1.client.isSome) := by
  have hspec := tryEndpoints_spec world bc none (bc.endpointsToTry sortSlice now)
  unfold connect
  dsimp only
  split
  · next c hclient =>
    exact ⟨hspec.1, hspec.2.1, hspec.2.2, fun _ => by simp [hclient]⟩
  · exact ⟨hspec.1, hspec.2.1, hspec.2.2, fun h => by cases h⟩
  · exact ⟨hspec.1, hspec.2.1, hspec.2.2, fun h => by cases h⟩

variable (sortSlice) in
/-- The endpoint that `switchRPC` dials. -/
def nextEndpoint (bc : BaseClient) (now : ℤ) : Option Text :=
  bc.rpcTracker.bind fun et => et.getNext sortSlice now bc.activeRPC

variable (sortSlice) in
/-- `switchRPC` leaves everything, or no client, or one at the next endpoint that nobody has asked
for its chain id. -/
lemma switchRPC_spec {bc : BaseClient} {now : ℤ} {world : Text → Answer} :
    (bc.switchRPC sortSlice now world).1.config = bc.config ∧
      ((bc.nextEndpoint sortSlice now = none ∧
          (bc.switchRPC sortSlice now world).1 = bc) ∨
        (∃ url err, bc.nextEndpoint sortSlice now = some url ∧ (world url).dial = .error err ∧
          (bc.switchRPC sortSlice now world).1.client = none ∧
          (bc.switchRPC sortSlice now world).1.connected = false) ∨
        (∃ url report, bc.nextEndpoint sortSlice now = some url ∧
          (world url).dial = .ok report ∧
          (bc.switchRPC sortSlice now world).1.client = some ⟨url, report⟩ ∧
          (bc.switchRPC sortSlice now world).1.activeRPC = url ∧
          (bc.switchRPC sortSlice now world).1.connected = true)) := by
  unfold switchRPC nextEndpoint
  cases htracker : bc.rpcTracker with
  | none => exact ⟨rfl, .inl ⟨rfl, rfl⟩⟩
  | some et =>
    simp only [Option.bind_some]
    cases hnext : et.getNext sortSlice now bc.activeRPC with
    | none => exact ⟨rfl, .inl ⟨rfl, rfl⟩⟩
    | some url =>
      dsimp only
      cases hdial : (world url).dial with
      | error err => exact ⟨rfl, .inr (.inl ⟨url, err, rfl, hdial, rfl, rfl⟩)⟩
      | ok report => exact ⟨rfl, .inr (.inr ⟨url, report, rfl, hdial, rfl, rfl, rfl⟩)⟩

/-! ## Steps -/

/-- The time and the answers of a `switchRPC`, where the step is one. -/
def Action.switches : Action → Option (ℤ × (Text → Answer))
  | .switchRPC now world => some (now, world)
  | .failover _ now world => some (now, world)
  | _ => none

namespace World

variable {s s' : World} {a : Action}

/-- A goroutine is in the second half of `Connect`. -/
def Connecting (s : World) : Prop := ∃ nonce, s.mu = some (.connect nonce)

/-- The fields of the client that say what it is connected to. -/
structure SameLink (bc bc' : BaseClient) : Prop where
  config : bc'.config = bc.config
  client : bc'.client = bc.client
  activeRPC : bc'.activeRPC = bc.activeRPC
  connected : bc'.connected = bc.connected

lemma SameLink.refl (bc : BaseClient) : SameLink bc bc := ⟨rfl, rfl, rfl, rfl⟩

/-- The nonces that were handed out and submitted. -/
structure SameNonces (s s' : World) : Prop where
  opts : s'.opts = s.opts
  log : s'.log = s.log
  pending : s'.pending = s.pending

lemma SameNonces.refl (s : World) : SameNonces s s := ⟨rfl, rfl, rfl⟩

variable (sortSlice) in
/-- The steps: neither the connection nor the nonces change, `Connect` has found its client,
`Connect` returns, the client is switched, it is closed, a nonce is handed out, or one is submitted
or given up. -/
inductive Move (s : World) : Action → World → Prop where
  | quiet {a : Action} {s' : World} (hlabel : a.switches = none) (hlink : SameLink s.bc s'.bc)
      (hmu : s'.Connecting → s.Connecting) (hnonces : SameNonces s s') : Move s a s'
  | connect {now : ℤ} {world : Text → Answer} {s' : World}
      (hconfig : s'.bc.config = s.bc.config) (hinstalled : Installed s.bc s'.bc)
      (hconnected : s'.bc.connected = s.bc.connected ∨
        s'.bc.connected = true ∧ s'.bc.client.isSome)
      (hmu : s'.Connecting → s'.bc.client.isSome) (hnonces : SameNonces s s') :
      Move s (.connect now world) s'
  | connected {s' : World} (hmu : s.Connecting) (hmu' : ¬ s'.Connecting)
      (hlink : SameLink { s.bc with connected := true } s'.bc) (hnonces : SameNonces s s') :
      Move s .writeNonce s'
  | switch {a : Action} {now : ℤ} {world : Text → Answer} {s' : World}
      (hlabel : a.switches = some (now, world))
      (hlink : SameLink (s.bc.switchRPC sortSlice now world).1 s'.bc) (hmu : ¬ s'.Connecting)
      (hnonces : SameNonces s s') : Move s a s'
  | close {s' : World} (hlink : SameLink s.bc.close s'.bc) (hmu : ¬ s'.Connecting)
      (hnonces : SameNonces s s') : Move s .close s'
  | handOut {i : ℕ} {gasPrice : ℤ} : Move s (.gasPrice i (.ok gasPrice)) (s.handOut i gasPrice)
  | submit {i : ℕ} {o : TransactOpts} {err : Option Text} (ho : s.opts[i]? = some o)
      (hheld : o.fate = .held) : Move s (.submit i err) (s.submit i o err)

lemma not_connecting_of_isNone (h : s.mu.isNone = true) : ¬ s.Connecting := by
  rintro ⟨nonce, hmu⟩
  simp [hmu] at h

/-- The first half of `Connect`. -/
lemma move_connect {now : ℤ} {world : Text → Answer} (hfree : s.mu.isNone = true) :
    Move sortSlice s (.connect now world) (s.connect sortSlice now world) := by
  obtain ⟨hconfig, hconnected, hinstalled, hclient⟩ := connect_spec sortSlice s.bc now world
  unfold World.connect
  split
  · next bc err heq =>
    rw [heq] at hconfig hconnected hinstalled
    exact .connect hconfig hinstalled (.inl hconnected)
      (fun h => absurd h (not_connecting_of_isNone hfree)) ⟨rfl, rfl, rfl⟩
  · next bc heq =>
    rw [heq] at hconfig hconnected hinstalled hclient
    split
    · exact .connect hconfig hinstalled (.inl hconnected) (fun _ => hclient rfl) ⟨rfl, rfl, rfl⟩
    · exact .connect hconfig hinstalled (.inr ⟨rfl, hclient rfl⟩) (fun _ => hclient rfl)
        ⟨rfl, rfl, rfl⟩

variable (sortSlice) in
/-- What `switchRPC` does, under whichever label. -/
lemma switchRPC_effect {now : ℤ} {world : Text → Answer} (hfree : s.mu.isNone = true) :
    (s.switchRPC sortSlice now world).bc = (s.bc.switchRPC sortSlice now world).1 ∧
      ¬ (s.switchRPC sortSlice now world).Connecting ∧
      SameNonces s (s.switchRPC sortSlice now world) := by
  unfold World.switchRPC
  split
  · next bc err heq => exact ⟨by rw [heq], not_connecting_of_isNone hfree, ⟨rfl, rfl, rfl⟩⟩
  · next bc heq =>
    refine ⟨by rw [heq], ?_, ⟨rfl, rfl, rfl⟩⟩
    rintro ⟨nonce, hmu⟩
    split at hmu <;> cases hmu

/-- A goroutine starts that only reads the client. -/
lemma move_withClient (task : Task) (hlabel : a.switches = none) :
    Move sortSlice s a (s.withClient task) := by
  unfold withClient
  split
  · exact .quiet hlabel (.refl _) id ⟨rfl, rfl, rfl⟩
  · exact .quiet hlabel (.refl _) id (.refl s)

lemma move_returned {i : ℕ} (activeRPC : Text) {err : Option Text} {now : ℤ} :
    Move sortSlice s (.returned i err now) (s.returned i activeRPC err now) := by
  unfold returned
  split
  · refine .quiet rfl ?_ id ⟨rfl, rfl, rfl⟩
    split <;> exact ⟨rfl, rfl, rfl, rfl⟩
  · split
    · refine .quiet rfl ?_ id ⟨rfl, rfl, rfl⟩
      split <;> exact ⟨rfl, rfl, rfl, rfl⟩
    · exact .quiet rfl (.refl _) id ⟨rfl, rfl, rfl⟩

/-- The goroutine that holds `bc.mu` has asked for the nonce. -/
lemma move_askNonce {err : Option Text} (h : s.askNonce err = some s') :
    Move sortSlice s (.askNonce err) s' := by
  unfold askNonce at h
  split at h
  · next hmu =>
    cases h
    exact .quiet rfl (.refl _) (fun _ => ⟨none, hmu⟩) ⟨rfl, rfl, rfl⟩
  all_goals cases h
  all_goals exact .quiet rfl (.refl _) (fun ⟨_, h⟩ => by cases h) ⟨rfl, rfl, rfl⟩

/-- The goroutine that holds `bc.mu` returns. -/
lemma move_writeNonce (h : s.writeNonce = some s') : Move sortSlice s .writeNonce s' := by
  unfold writeNonce at h
  split at h
  · next nonce hmu =>
    cases h
    exact .connected ⟨_, hmu⟩ (fun ⟨_, h⟩ => by cases h) ⟨rfl, rfl, rfl, rfl⟩ ⟨rfl, rfl, rfl⟩
  · cases h
    exact .quiet rfl ⟨rfl, rfl, rfl, rfl⟩ (fun ⟨_, h⟩ => by cases h) ⟨rfl, rfl, rfl⟩
  · cases h

/-- **What a step can do.** -/
theorem move_next (h : Step sortSlice s a s') : Move sortSlice s a s' := by
  unfold Step at h
  cases a with
  | connect now world =>
    simp only [next, Option.ite_none_right_eq_some, Option.some.injEq] at h
    obtain ⟨hfree, rfl⟩ := h
    exact move_connect hfree
  | switchRPC now world =>
    simp only [next, Option.ite_none_right_eq_some, Option.some.injEq] at h
    obtain ⟨hfree, rfl⟩ := h
    obtain ⟨hbc, hmu, hnonces⟩ := switchRPC_effect sortSlice hfree
    exact .switch rfl (hbc ▸ .refl _) hmu hnonces
  | close =>
    simp only [next, Option.ite_none_right_eq_some, Option.some.injEq] at h
    obtain ⟨hfree, rfl⟩ := h
    exact .close (.refl _) (not_connecting_of_isNone hfree) ⟨rfl, rfl, rfl⟩
  | askNonce err => exact move_askNonce h
  | writeNonce => exact move_writeNonce h
  | callWithFailover | getTransactOpts | syncNonce =>
    simp only [next, Option.ite_none_right_eq_some, Option.some.injEq] at h
    obtain ⟨-, rfl⟩ := h
    exact move_withClient _ rfl
  | returned i err now =>
    simp only [next] at h
    split at h
    · cases h
      exact move_returned ..
    · cases h
  | failover i now world =>
    simp only [next] at h
    split at h
    · rw [Option.ite_none_right_eq_some, Option.some.injEq] at h
      obtain ⟨hfree, rfl⟩ := h
      obtain ⟨hbc, hmu, hnonces⟩ := switchRPC_effect sortSlice hfree
      exact .switch rfl (hbc ▸ .refl _) hmu ⟨hnonces.opts, hnonces.log, hnonces.pending⟩
    · cases h
  | gasPrice i price =>
    simp only [next] at h
    split at h
    · cases h
      exact .handOut
    · cases h
      exact .quiet rfl (.refl _) id ⟨rfl, rfl, rfl⟩
    · cases h
  | submit i err =>
    simp only [next] at h
    split at h
    · next o ho =>
      rw [Option.ite_none_right_eq_some, Option.some.injEq] at h
      obtain ⟨hheld, rfl⟩ := h
      exact .submit ho hheld
    · cases h
  | waitForTransaction i outcome =>
    simp only [next] at h
    split at h
    · rw [Option.ite_none_right_eq_some, Option.some.injEq] at h
      obtain ⟨-, rfl⟩ := h
      split
      · exact .quiet rfl (.refl _) id (.refl s)
      · exact move_withClient _ rfl
    · cases h
  | synced i err =>
    simp only [next] at h
    split at h <;> cases h
    all_goals exact .quiet rfl (.refl _) id ⟨rfl, rfl, rfl⟩
  | writeSynced i =>
    simp only [next] at h
    split at h
    · cases h
      exact .quiet rfl ⟨rfl, rfl, rfl, rfl⟩ id ⟨rfl, rfl, rfl⟩
    · cases h

/-- Submitting or giving up does not touch the client. -/
lemma bc_submit {i : ℕ} (o : TransactOpts) {err : Option Text} :
    (s.submit i o err).bc = s.bc ∧ (s.submit i o err).mu = s.mu := by
  cases err with
  | none => exact ⟨rfl, rfl⟩
  | some err => exact ⟨rfl, rfl⟩

end World

end Moltbunker.Payment.BaseClient
