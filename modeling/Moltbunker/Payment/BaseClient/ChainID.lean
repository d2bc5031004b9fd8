import Moltbunker.Payment.BaseClient.Steps

/-!
# Which chain the client talks to

`Connect` asks an endpoint for its chain id before it installs it; `switchRPC` installs the next
endpoint without asking. A client that has lost its endpoint may so end up on another chain, where
its key signs transactions for the configured one.

* `Linked.move` — what every step keeps, whatever the endpoints report;
* `onChain_move_iff` — the step after which the client is on a wrong chain;
* `on_chain_iff` — the runs along which it never is.
-/

namespace Moltbunker.Payment.BaseClient

open Lib World

variable {sortSlice : (Candidate → Candidate → Bool) → List Candidate → List Candidate}

namespace World

variable {s s' : World} {a : Action}

/-! ## The property -/

/-- A client that counts as connected is dialled to the active endpoint, which reports the
configured chain id. -/
def OnChain (s : World) : Prop :=
  s.bc.connected = true → s.bc.client = some ⟨s.bc.activeRPC, .ok s.bc.config.chainID⟩

variable (sortSlice) in
/-- If the next endpoint can be dialled, it reports the configured chain id. -/
def nextOnChain (s : World) (now : ℤ) (world : Text → Answer) : Bool :=
  (s.bc.nextEndpoint sortSlice now).all fun url =>
    match (world url).dial with
    | .error _ => true
    | .ok report => decide (report = .ok s.bc.config.chainID)

variable (sortSlice) in
/-- The condition on a step. -/
def Verified (s : World) (a : Action) : Prop :=
  a.switches.all (fun (now, world) => s.nextOnChain sortSlice now world) = true

instance (s : World) : DecidablePred (s.Verified sortSlice) :=
  fun _ => inferInstanceAs (Decidable (_ = true))

lemma verified_of_none (h : a.switches = none) : s.Verified sortSlice a := by
  simp [Verified, h]

/-! ## Runs -/

/-- What holds in every run: the client was dialled to the active endpoint, and where it was not
installed by `switchRPC`, which also connects, it was asked for its chain id. -/
structure Linked (s : World) : Prop where
  dialled : ∀ c, s.bc.client = some c → c.url = s.bc.activeRPC
  present : s.bc.connected = true → s.bc.client.isSome = true
  asked : s.bc.connected = false → ∀ c, s.bc.client = some c → c.report = .ok s.bc.config.chainID
  waiting : s.Connecting → s.bc.client.isSome = true

/-- A client, connected or not, on the configured chain. -/
lemma Linked.client_eq (h : s.Linked) (hchain : s.OnChain) (hsome : s.bc.client.isSome = true) :
    s.bc.client = some ⟨s.bc.activeRPC, .ok s.bc.config.chainID⟩ := by
  cases hconnected : s.bc.connected with
  | true => exact hchain hconnected
  | false =>
    obtain ⟨c, hc⟩ := Option.isSome_iff_exists.mp hsome
    rw [hc, ← h.dialled c hc, ← h.asked hconnected c hc]

lemma linked_new (config : BaseClientConfig) (privateKey : Bool) (pending : ℕ) :
    (new (newBaseClient config privateKey) pending).Linked where
  dialled _ h := by cases h
  present h := by cases h
  asked _ _ h := by cases h
  waiting h := by
    obtain ⟨nonce, hmu⟩ := h
    cases hmu

/-- A step that leaves the connection. -/
lemma Linked.of_sameLink (h : s.Linked) (hlink : SameLink s.bc s'.bc)
    (hmu : s'.Connecting → s.Connecting) : s'.Linked := by
  constructor
  · rw [hlink.client, hlink.activeRPC]
    exact h.dialled
  · rw [hlink.client, hlink.connected]
    exact h.present
  · rw [hlink.client, hlink.connected, hlink.config]
    exact h.asked
  · rw [hlink.client]
    exact fun hconnecting => h.waiting (hmu hconnecting)

/-- A step after which there is no client. -/
lemma linked_of_none (hclient : s.bc.client = none) (hconnected : s.bc.connected = false)
    (hmu : ¬ s.Connecting) : s.Linked := by
  refine ⟨?_, ?_, ?_, fun h => absurd h hmu⟩
  · rw [hclient]
    exact fun c hc => by cases hc
  · rw [hconnected]
    exact fun hc => by cases hc
  · rw [hclient]
    exact fun _ c hc => by cases hc

/-- Every step keeps this, whatever the endpoints report. -/
lemma Linked.move (h : s.Linked) (hmove : Move sortSlice s a s') : s'.Linked := by
  cases hmove with
  | quiet _ hlink hmu _ => exact h.of_sameLink hlink hmu
  | connect hconfig hinstalled hconnected hmu _ =>
    rcases hinstalled with ⟨hclient, hactive⟩ | hclient
    · refine ⟨?_, ?_, ?_, hmu⟩
      · rw [hclient, hactive]
        exact h.dialled
      · intro hafter
        rcases hconnected with hsame | ⟨-, hsome⟩
        · rw [hclient]
          exact h.present (hsame ▸ hafter)
        · exact hsome
      · intro hafter
        rcases hconnected with hsame | ⟨htrue, -⟩
        · rw [hclient, hconfig]
          exact h.asked (hsame ▸ hafter)
        · rw [htrue] at hafter
          cases hafter
    · refine ⟨?_, ?_, ?_, hmu⟩
      · intro c hc
        rw [hclient] at hc
        cases hc
        rfl
      · intro _
        rw [hclient]
        rfl
      · intro _ c hc
        rw [hclient] at hc
        cases hc
        rw [hconfig]
  | connected hmu hmu' hlink _ =>
    have hsome := h.waiting hmu
    refine ⟨?_, ?_, ?_, fun h => absurd h hmu'⟩
    · rw [hlink.client, hlink.activeRPC]
      exact h.dialled
    · rw [hlink.client]
      exact fun _ => hsome
    · rw [hlink.connected]
      exact fun hfalse => by cases hfalse
  | @switch _ now world _ _ hlink hmu _ =>
    obtain ⟨-, ⟨-, hsame⟩ | ⟨url, err, -, -, hclient, hconnected⟩ |
      ⟨url, report, -, -, hclient, hactive, hconnected⟩⟩ :=
      switchRPC_spec sortSlice
    · rw [hsame] at hlink
      exact h.of_sameLink hlink fun hconnecting => absurd hconnecting hmu
    · exact linked_of_none (hlink.client.trans hclient) (hlink.connected.trans hconnected) hmu
    · refine ⟨?_, ?_, ?_, fun h => absurd h hmu⟩
      · rw [hlink.client, hclient, hlink.activeRPC, hactive]
        exact fun c hc => by cases hc; rfl
      · rw [hlink.client, hclient]
        exact fun _ => rfl
      · rw [hlink.connected, hconnected]
        exact fun hc => by cases hc
  | close hlink hmu _ => exact linked_of_none hlink.client hlink.connected hmu
  | handOut => exact h.of_sameLink ⟨rfl, rfl, rfl, rfl⟩ id
  | @submit i o err _ _ =>
    obtain ⟨hbc, hmu⟩ := bc_submit (s := s) o
    exact h.of_sameLink (hbc ▸ .refl _) fun ⟨nonce, hconnecting⟩ => ⟨nonce, hmu ▸ hconnecting⟩

lemma onChain_of_sameLink (hlink : SameLink s.bc s'.bc) : s'.OnChain ↔ s.OnChain := by
  unfold OnChain
  rw [hlink.connected, hlink.client, hlink.activeRPC, hlink.config]

/-- The client after `switchRPC` is on the chain iff the endpoint that was dialled is. -/
lemma onChain_switch_iff {now : ℤ} {world : Text → Answer} (hchain : s.OnChain)
    (hlink : SameLink (s.bc.switchRPC sortSlice now world).1 s'.bc) :
    s'.OnChain ↔ s.nextOnChain sortSlice now world = true := by
  obtain ⟨hconfig, ⟨hnext, hsame⟩ | ⟨url, err, hnext, hdial, -, hconnected⟩ |
    ⟨url, report, hnext, hdial, hclient, hactive, hconnected⟩⟩ :=
    switchRPC_spec sortSlice
  · rw [hsame] at hlink
    rw [onChain_of_sameLink hlink]
    exact iff_of_true hchain (by simp [nextOnChain, hnext])
  · refine iff_of_true ?_ (by simp [nextOnChain, hnext, hdial])
    intro hafter
    rw [hlink.connected, hconnected] at hafter
    cases hafter
  · unfold OnChain
    rw [hlink.connected, hconnected, hlink.client, hclient, hlink.activeRPC, hactive, hlink.config,
      hconfig]
    simp [nextOnChain, hnext, hdial]

/-- **The step after which the client is on a wrong chain** is a switch to an endpoint that does
not report the configured chain id. -/
theorem onChain_move_iff (h : s.Linked) (hchain : s.OnChain) (hmove : Move sortSlice s a s') :
    s'.OnChain ↔ s.Verified sortSlice a := by
  cases hmove with
  | quiet hlabel hlink _ _ =>
    exact iff_of_true ((onChain_of_sameLink hlink).mpr hchain) (verified_of_none hlabel)
  | connect hconfig hinstalled hconnected _ _ =>
    refine iff_of_true ?_ (verified_of_none rfl)
    intro hafter
    rcases hinstalled with ⟨hclient, hactive⟩ | hclient
    · -- the client from before was kept
      have hsome : s.bc.client.isSome = true := by
        rcases hconnected with hsame | ⟨-, hsome⟩
        · exact h.present (hsame ▸ hafter)
        · exact hclient ▸ hsome
      rw [hclient, hactive, hconfig]
      exact h.client_eq hchain hsome
    · rw [hclient, hconfig]
  | connected hmu _ hlink _ =>
    refine iff_of_true ?_ (verified_of_none rfl)
    intro _
    rw [hlink.client, hlink.activeRPC, hlink.config]
    exact h.client_eq hchain (h.waiting hmu)
  | switch hlabel hlink _ _ =>
    simp [onChain_switch_iff hchain hlink, Verified, hlabel]
  | close hlink _ _ =>
    refine iff_of_true ?_ (verified_of_none rfl)
    intro hafter
    rw [hlink.connected] at hafter
    cases hafter
  | handOut => exact iff_of_true hchain (verified_of_none rfl)
  | @submit i o err _ _ =>
    have hlink : SameLink s.bc (s.submit i o err).bc := by
      rw [(bc_submit o).1]
      exact .refl _
    exact iff_of_true ((onChain_of_sameLink hlink).mpr hchain) (verified_of_none rfl)

/-- **The client is on the configured chain in every state of a run iff every switch goes to an
endpoint that reports its chain id**, if it can be dialled at all. The run is any sequence of steps
of `Connect`, `callWithFailover`, `switchRPC`, `Close` and the functions around nonces, by any
goroutines, and endpoints answer in any way. -/
theorem on_chain_iff {config : BaseClientConfig} {privateKey : Bool} {pending : ℕ}
    {l : List (Action × World)}
    (h : Path (Step sortSlice) (new (newBaseClient config privateKey) pending) l) :
    StatesMeet OnChain (new (newBaseClient config privateKey) pending) l ↔
      StepsMeet (Verified sortSlice) (new (newBaseClient config privateKey) pending) l := by
  refine Path.statesMeet_iff_stepsMeet (I := Linked) ?_ ?_ (linked_new config privateKey pending)
    ?_ h
  · intro s a s' hlinked hstep
    exact hlinked.move (move_next hstep)
  · intro s a s' hlinked hchain hstep
    exact onChain_move_iff hlinked hchain (move_next hstep)
  · intro hconnected
    cases hconnected

/-- Two endpoints; the client is to be on chain 8453. -/
def twoEndpoints : BaseClientConfig where
  rpcURL := text "https://a"
  rpcURLs := [text "https://b"]
  chainID := 8453
  maxGasPrice := none

/-- The first endpoint is on chain 8453, any other on the given chain. -/
def chains (other : ℤ) (url : Text) : Answer where
  dial := .ok (.ok (if url = text "https://a" then 8453 else other))
  now := 0
  latency := 1000

/-- The client connects, a call fails, and the client switches to the second endpoint. -/
def failOver (other : ℤ) : List (Action × World) :=
  trace (next fun _ l => l) (new (newBaseClient twoEndpoints false) 0)
    [.connect 0 (chains other), .callWithFailover, .returned 0 (some (text "unexpected EOF")) 0,
      .failover 0 0 (chains other)]

/-- With both endpoints on the same chain, the client stays there. -/
theorem on_chain_same :
    (failOver 8453).length = 4 ∧
      StepsMeet (Verified fun _ l => l) (new (newBaseClient twoEndpoints false) 0)
        (failOver 8453) ∧
      StatesMeet OnChain (new (newBaseClient twoEndpoints false) 0) (failOver 8453) := by
  have hpath : Path (Step fun _ l => l) (new (newBaseClient twoEndpoints false) 0)
      (failOver 8453) := trace_path ..
  have hverified : StepsMeet (Verified fun _ l => l)
      (new (newBaseClient twoEndpoints false) 0) (failOver 8453) := by decide
  exact ⟨by decide, hverified, (on_chain_iff hpath).mpr hverified⟩

/-- **The client ends up connected to chain 1**, although it is configured for chain 8453. -/
theorem switch_changes_chain :
    Path (Step fun _ l => l) (new (newBaseClient twoEndpoints false) 0) (failOver 1) ∧
      (endState (new (newBaseClient twoEndpoints false) 0) (failOver 1)).bc.connected = true ∧
      (endState (new (newBaseClient twoEndpoints false) 0) (failOver 1)).bc.client =
        some ⟨text "https://b", .ok 1⟩ ∧
      ¬ StatesMeet OnChain (new (newBaseClient twoEndpoints false) 0) (failOver 1) := by
  have hclient : (endState (new (newBaseClient twoEndpoints false) 0)
      (failOver 1)).bc.client = some ⟨text "https://b", .ok 1⟩ := by decide
  have hconnected : (endState (new (newBaseClient twoEndpoints false) 0)
      (failOver 1)).bc.connected = true := by decide
  refine ⟨trace_path .., hconnected, hclient, ?_⟩
  intro hall
  have hchain := hall.endState hconnected
  revert hchain
  decide

end World

end Moltbunker.Payment.BaseClient
