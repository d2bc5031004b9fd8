import Moltbunker.Api.WalletAuth

/-!
# Containers over the API

`handleContainers`, `handleContainerByID` and `handleContainerLogs` of `internal/api/handlers.go`.
A handler returns its response together with the calls that it has made to the daemon over the
bridge. The daemon lists its deployments, or the call fails; the other calls may answer anything.

Each resource has an ownership test of its own. `GET` and `DELETE` of a container refuse a container
that is missing or is another wallet's. `stop` and `start` only refuse one that the list shows as
another wallet's, and `logs` refuses nothing.

* `only_owner_iff` — for which requests the handler touches only containers of the wallet;
* `logs_of_other` — a request for which it does not.
-/

namespace Moltbunker.Api

open Lib Text

/-! ## The bridge -/

/-- `client.ContainerInfo`, as far as the handlers read it. -/
structure ContainerInfo where
  id : Text
  owner : Text
  deriving DecidableEq

/-- The daemon as the handlers see it: its deployments, why a list fails if it does, and the answers
to the other calls. -/
structure Bridge where
  deployments : List ContainerInfo
  listFails : Option Text
  stop : Text → Except Text Unit
  start : Text → Except Text Unit
  delete : Text → Except Text Unit
  getLogs : Text → Bool → ℤ → Except Text Text

/-- `DaemonBridge.List` -/
def Bridge.list (b : Bridge) : Except Text (List ContainerInfo) :=
  match b.listFails with
  | some err => .error err
  | none => .ok b.deployments

/-- A call to the daemon. -/
inductive BridgeCall where
  | list
  | stop (id : Text)
  | start (id : Text)
  | delete (id : Text)
  | getLogs (id : Text) (follow : Bool) (tail : ℤ)
  deriving DecidableEq

/-- The container that a call is about. -/
def BridgeCall.container : BridgeCall → Option Text
  | .list => none
  | .stop id => some id
  | .start id => some id
  | .delete id => some id
  | .getLogs id _ _ => some id

/-- What a response carries. -/
inductive Payload where
  | containers (cs : List ContainerInfo)
  | container (c : ContainerInfo)
  | status (status : Text)
  | logs (logs : Text)

/-- The containers whose records a payload carries. -/
def Payload.records : Payload → List ContainerInfo
  | .containers cs => cs
  | .container c => [c]
  | .status _ => []
  | .logs _ => []

/-- The calls that a handler has made, and its response. -/
structure Outcome where
  calls : List BridgeCall
  response : Response Payload

namespace Outcome

/-- A response without a call. -/
def respond (response : Response Payload) : Outcome := ⟨[], response⟩

/-- A call, and what follows. -/
def after (call : BridgeCall) (o : Outcome) : Outcome := ⟨call :: o.calls, o.response⟩

/-- The containers whose records are returned. -/
def records (o : Outcome) : List ContainerInfo :=
  match o.response.body with
  | .ok payload => payload.records
  | .error _ => []

end Outcome

/-! ## The handlers -/

/-- The server, as far as these handlers read it. -/
structure Server where
  walletAuth : Option WalletAuthManager
  daemonBridge : Option Bridge

/-- The deployments on the daemon. -/
def Server.deployments (s : Server) : List ContainerInfo :=
  (s.daemonBridge.map Bridge.deployments).getD []

/-- A request; `tail` is the parameter of this name in its query, and `readJSON` the outcome of
decoding its body. -/
structure Request where
  method : Method
  path : Text
  tail : Text
  headers : Headers
  readJSON : Except Text Unit

/-- `strings.Split(strings.TrimPrefix(path, "/v1/containers/"), "/")` -/
def Request.parts (r : Request) : List Text :=
  (r.path.trimPrefix (text "/v1/containers/")).splitOn '/'

section Handlers

variable (wallet : Text) (s : Server) (r : Request)

/-- `handleContainers` -/
def handleContainers : Outcome :=
  if r.method ≠ .get then .respond methodNotAllowed else
  match s.daemonBridge with
  | none => .respond ⟨200, .ok (.containers [])⟩
  | some b => .after .list <|
      match b.list with
      | .error _ => .respond ⟨200, .ok (.containers [])⟩
      | .ok containers =>
        .respond ⟨200, .ok (.containers (if wallet ≠ [] then
          containers.filter fun c => EqualFold c.owner wallet else containers))⟩

/-- `handleContainerLogs` -/
def handleContainerLogs (containerID : Text) : Outcome :=
  if r.method ≠ .get then .respond methodNotAllowed else
  let tail := if r.tail = [] then 100 else (scanInt r.tail).getD 100
  match s.daemonBridge with
  | some b => .after (.getLogs containerID false tail) <|
      match b.getLogs containerID false tail with
      | .error _ =>
        .respond (writeError 503 (text "logs unavailable: daemon connection failed"))
      | .ok logs => .respond ⟨200, .ok (.logs logs)⟩
  | none => .respond (writeError 503 (text "logs unavailable: daemon bridge not configured"))

/-- The bodies of `handleContainerCloning` and `handleContainerCheckpoints`, which reach no
container. -/
def configure (done : Text) : Outcome :=
  if r.method ≠ .post then .respond methodNotAllowed else
  match r.readJSON with
  | .error err => .respond (writeError 400 err)
  | .ok () => .respond ⟨200, .ok (.status done)⟩

/-- A call that changes a container, and the response to its answer. -/
def perform (call : BridgeCall) (answer : Except Text Unit) (done : Text) : Outcome :=
  .after call <|
    match answer with
    | .error err => .respond (writeError 500 err)
    | .ok () => .respond ⟨200, .ok (.status done)⟩

variable (containerID : Text)

/-- The branches `stop` and `start` of `handleContainerByID`. -/
def handleContainerAction (call : BridgeCall)
    (answer : Bridge → Text → Except Text Unit) (done : Text) : Outcome :=
  if r.method ≠ .post then .respond methodNotAllowed else
  match s.daemonBridge with
  | none => .respond (writeError 503 (text "daemon not available"))
  | some b =>
    if wallet ≠ [] then .after .list <|
      match b.list with
      | .ok containers =>
        if ∃ c ∈ containers, c.id = containerID ∧ ¬ EqualFold c.owner wallet then
          .respond (writeError 403 (text "not your container"))
        else perform call (answer b containerID) done
      -- the list is not needed to go on
      | .error _ => perform call (answer b containerID) done
    else perform call (answer b containerID) done

/-- `GET` of a container. -/
def getContainer : Outcome :=
  match s.daemonBridge with
  | none => .respond (writeError 404 (text "container not found"))
  | some b => .after .list <|
      match b.list with
      | .error _ => .respond (writeError 500 (text "failed to list containers"))
      | .ok containers =>
        match containers.find? fun c => c.id = containerID with
        | none => .respond (writeError 404 (text "container not found"))
        | some c =>
          if wallet ≠ [] ∧ ¬ EqualFold c.owner wallet then
            .respond (writeError 404 (text "container not found"))
          else .respond ⟨200, .ok (.container c)⟩

/-- `DELETE` of a container. -/
def deleteContainer : Outcome :=
  match s.daemonBridge with
  | none => .respond (writeError 503 (text "daemon not available"))
  | some b =>
    let delete := perform (.delete containerID) (b.delete containerID) (text "deleted")
    if wallet ≠ [] then .after .list <|
      match b.list with
      | .error _ => .respond (writeError 500 (text "failed to verify ownership"))
      | .ok containers =>
        match containers.find? fun c => c.id = containerID with
        | none => .respond (writeError 404 (text "container not found"))
        | some c =>
          if ¬ EqualFold c.owner wallet then
            .respond (writeError 403 (text "not your container"))
          else delete
    else delete

/-- A container without one of the sub-resources. -/
def handleContainer : Outcome :=
  match r.method with
  | .get => getContainer wallet s containerID
  | .delete => deleteContainer wallet s containerID
  | _ => .respond methodNotAllowed

/-- `handleContainerByID`, for a request of the wallet. -/
def handleContainerByIDAs : Outcome :=
  match r.parts with
  | [] => handleContainers wallet s r
  | [] :: _ => handleContainers wallet s r
  | containerID :: sub :: _ =>
    if sub = text "logs" then handleContainerLogs s r containerID
    else if sub = text "stop" then
      handleContainerAction wallet s r containerID (.stop containerID) Bridge.stop
        (text "stopped")
    else if sub = text "start" then
      handleContainerAction wallet s r containerID (.start containerID) Bridge.start
        (text "started")
    else if sub = text "cloning" then configure r (text "cloning configured")
    else if sub = text "checkpoints" then configure r (text "checkpoints configured")
    else handleContainer wallet s r containerID
  | [containerID] => handleContainer wallet s r containerID

/-- `handleContainerByID` -/
def handleContainerByID {Hash PublicKey Address : Type} (crypto : Crypto Hash PublicKey Address)
    (now : ℕ) : Outcome :=
  handleContainerByIDAs (extractWalletAddress crypto s.walletAuth now r.headers) s r

end Handlers

/-! ## Whose containers a request touches -/

variable {wallet : Text} {s : Server} {r : Request} {o : Outcome} {id : Text}

/-- A container of this name exists and is the wallet's. -/
def Owned (deployments : List ContainerInfo) (id wallet : Text) : Prop :=
  ∃ c ∈ deployments, c.id = id ∧ EqualFold c.owner wallet

instance (deployments : List ContainerInfo) (id wallet : Text) :
    Decidable (Owned deployments id wallet) :=
  inferInstanceAs (Decidable (∃ c ∈ deployments, _))

/-- Only containers of the wallet are acted on, and only their records are returned. -/
structure OnlyOwned (deployments : List ContainerInfo) (wallet : Text) (o : Outcome) : Prop where
  calls : ∀ call ∈ o.calls, ∀ id ∈ call.container, Owned deployments id wallet
  records : ∀ c ∈ o.records, c ∈ deployments ∧ EqualFold c.owner wallet

/-- The sub-resource `sub` of the container is touched only if it is the wallet's. `logs` needs no
more than the request; `stop` and `start` are refused if the list shows the container. -/
def SubResourceGuard (s : Server) (wallet : Text) (method : Method) (id sub : Text) : Prop :=
  ∀ b ∈ s.daemonBridge, ¬ Owned b.deployments id wallet →
    (sub = text "logs" → method ≠ .get) ∧
    (sub = text "stop" ∨ sub = text "start" → method = .post →
      b.listFails = none ∧ ∃ c ∈ b.deployments, c.id = id)

instance (s : Server) (wallet : Text) (method : Method) (id sub : Text) :
    Decidable (SubResourceGuard s wallet method id sub) :=
  inferInstanceAs (Decidable (∀ b ∈ s.daemonBridge, _ → _))

/-- The condition on a request. -/
def ContainerGuard (s : Server) (wallet : Text) (r : Request) : Prop :=
  ∀ id ∈ r.parts[0]?, ∀ sub ∈ r.parts[1]?, id ≠ [] → SubResourceGuard s wallet r.method id sub

instance (s : Server) (wallet : Text) (r : Request) : Decidable (ContainerGuard s wallet r) :=
  inferInstanceAs (Decidable (∀ id ∈ _, ∀ sub ∈ _, _ → _))

/-! ### Outcomes -/

namespace OnlyOwned

variable {deployments : List ContainerInfo}

lemma respond_iff {response : Response Payload} :
    OnlyOwned deployments wallet (.respond response) ↔
      ∀ c ∈ (Outcome.respond response).records, c ∈ deployments ∧ EqualFold c.owner wallet := by
  constructor
  · exact fun h => h.records
  · intro h
    exact ⟨nofun, h⟩

/-- An error touches nothing. -/
lemma error (code : ℕ) (message : Text) :
    OnlyOwned deployments wallet (.respond (writeError code message)) := by
  rw [respond_iff]
  intro c hc
  cases hc

lemma status (code : ℕ) (message : Text) :
    OnlyOwned deployments wallet (.respond ⟨code, .ok (.status message)⟩) := by
  rw [respond_iff]
  intro c hc
  cases hc

lemma logs (code : ℕ) (message : Text) :
    OnlyOwned deployments wallet (.respond ⟨code, .ok (.logs message)⟩) := by
  rw [respond_iff]
  intro c hc
  cases hc

variable {call : BridgeCall}

lemma after_iff : OnlyOwned deployments wallet (.after call o) ↔
    (∀ id ∈ call.container, Owned deployments id wallet) ∧ OnlyOwned deployments wallet o := by
  constructor
  · intro h
    exact ⟨h.calls call List.mem_cons_self,
      fun c hc => h.calls c (List.mem_cons_of_mem call hc), h.records⟩
  · rintro ⟨hcall, ho⟩
    refine ⟨?_, ho.records⟩
    intro c hc
    rcases List.mem_cons.mp hc with rfl | hc
    · exact hcall
    · exact ho.calls c hc

/-- Listing touches nothing. -/
lemma after_list : OnlyOwned deployments wallet (.after .list o) ↔
    OnlyOwned deployments wallet o := by
  rw [after_iff]
  exact and_iff_right fun id hid => by cases hid

/-- A call touches its container. -/
lemma perform_iff {answer : Except Text Unit} {done : Text} (hcall : call.container = some id) :
    OnlyOwned deployments wallet (perform call answer done) ↔ Owned deployments id wallet := by
  unfold perform
  rw [after_iff, hcall]
  constructor
  · exact fun h => h.1 id rfl
  · intro h
    refine ⟨?_, ?_⟩
    · rintro _ ⟨⟩
      exact h
    · split
      · exact error _ _
      · exact status _ _

end OnlyOwned

/-! ### The handlers -/

variable {b : Bridge} {method : Method}

lemma deployments_eq (hb : s.daemonBridge = some b) : s.deployments = b.deployments := by
  simp [Server.deployments, hb]

variable {containers : List ContainerInfo} {done sub : Text}

/-- A list that answers gives the deployments. -/
lemma Bridge.list_eq_ok (h : b.list = .ok containers) :
    b.listFails = none ∧ containers = b.deployments := by
  unfold Bridge.list at h
  split at h
  · cases h
  · next hnone =>
    simp only [Except.ok.injEq] at h
    exact ⟨hnone, h.symm⟩

lemma Bridge.list_eq_error {err : Text} (h : b.list = .error err) : b.listFails = some err := by
  unfold Bridge.list at h
  split at h
  · next hsome =>
    simp only [Except.error.injEq] at h
    rw [hsome, h]
  · cases h

lemma handleContainers_onlyOwned (hwallet : wallet ≠ []) :
    OnlyOwned s.deployments wallet (handleContainers wallet s r) := by
  unfold handleContainers
  split
  · exact .error _ _
  split
  · rw [OnlyOwned.respond_iff]
    intro c hc
    cases hc
  · next b hb =>
    rw [OnlyOwned.after_list]
    split
    · rw [OnlyOwned.respond_iff]
      intro c hc
      cases hc
    · next containers hlist =>
      obtain ⟨-, rfl⟩ := Bridge.list_eq_ok hlist
      rw [OnlyOwned.respond_iff, deployments_eq hb]
      intro c hc
      simpa [Outcome.records, Outcome.respond, Payload.records] using hc

/-- `logs` touches whatever it is asked for. -/
lemma handleContainerLogs_onlyOwned_iff :
    OnlyOwned s.deployments wallet (handleContainerLogs s r id) ↔
      ∀ b ∈ s.daemonBridge, r.method = .get → Owned b.deployments id wallet := by
  unfold handleContainerLogs
  split
  · next hmethod =>
    exact iff_of_true (.error _ _) fun _ _ h => absurd h hmethod
  · next hmethod =>
    dsimp only
    split
    · next b hb =>
      rw [OnlyOwned.after_iff, deployments_eq hb, hb]
      constructor
      · rintro ⟨hid, -⟩ _ ⟨⟩ -
        exact hid id rfl
      · intro h
        refine ⟨?_, ?_⟩
        · rintro _ ⟨⟩
          exact h b rfl (not_not.mp hmethod)
        · split
          · exact .error _ _
          · exact .logs _ _
    · next hb =>
      refine iff_of_true (.error _ _) ?_
      rw [hb]
      intro b hb'
      cases hb'

lemma configure_onlyOwned : OnlyOwned s.deployments wallet (configure r done) := by
  unfold configure
  split
  · exact .error _ _
  · split
    · exact .error _ _
    · exact .status _ _

/-- `stop` and `start` touch a container that is not the wallet's if the list fails or does not
show it. -/
lemma handleContainerAction_onlyOwned_iff {call : BridgeCall}
    {answer : Bridge → Text → Except Text Unit} (hwallet : wallet ≠ [])
    (hcall : call.container = some id) :
    OnlyOwned s.deployments wallet (handleContainerAction wallet s r id call answer done) ↔
      ∀ b ∈ s.daemonBridge, ¬ Owned b.deployments id wallet → r.method = .post →
        b.listFails = none ∧ ∃ c ∈ b.deployments, c.id = id := by
  unfold handleContainerAction
  split
  · next hmethod =>
    exact iff_of_true (.error _ _) fun _ _ _ h => absurd h hmethod
  · next hmethod =>
    have hpost : r.method = .post := not_not.mp hmethod
    split
    · next hb =>
      refine iff_of_true (.error _ _) ?_
      rw [hb]
      intro b hb'
      cases hb'
    · next b hb =>
      rw [OnlyOwned.after_list, deployments_eq hb, hb]
      simp only [Option.mem_some_iff, forall_eq', hpost, forall_const]
      split
      · next containers hlist =>
        obtain ⟨hok, rfl⟩ := Bridge.list_eq_ok hlist
        split
        · next hother =>
          obtain ⟨c, hc, hid, -⟩ := hother
          exact iff_of_true (.error _ _) fun _ => ⟨hok, c, hc, hid⟩
        · next hnone =>
          rw [OnlyOwned.perform_iff hcall]
          constructor
          · exact fun h hnot => absurd h hnot
          · intro h
            by_contra hnot
            obtain ⟨-, c, hc, hid⟩ := h hnot
            apply hnone
            exact ⟨c, hc, hid, fun hfold => hnot ⟨c, hc, hid, hfold⟩⟩
      · next err hlist =>
        rw [OnlyOwned.perform_iff hcall, Bridge.list_eq_error hlist]
        simp

/-- The container that a search by its name finds. -/
lemma find?_id {c : ContainerInfo} (h : (containers.find? fun c => c.id = id) = some c) :
    c ∈ containers ∧ c.id = id :=
  ⟨List.mem_of_find?_eq_some h, by simpa using List.find?_some h⟩

lemma getContainer_onlyOwned (hwallet : wallet ≠ []) :
    OnlyOwned s.deployments wallet (getContainer wallet s id) := by
  unfold getContainer
  split
  · exact .error _ _
  · next b hb =>
    rw [OnlyOwned.after_list, deployments_eq hb]
    split
    · exact .error _ _
    · next containers hlist =>
      obtain ⟨-, rfl⟩ := Bridge.list_eq_ok hlist
      split
      · exact .error _ _
      · next c hfind =>
        split
        · exact .error _ _
        · next howner =>
          have hfold : EqualFold c.owner wallet := by
            by_contra hnot
            exact howner ⟨hwallet, hnot⟩
          rw [OnlyOwned.respond_iff]
          intro c' hc'
          have heq : c' = c := List.mem_singleton.mp hc'
          rw [heq]
          exact ⟨(find?_id hfind).1, hfold⟩

lemma deleteContainer_onlyOwned (hwallet : wallet ≠ []) :
    OnlyOwned s.deployments wallet (deleteContainer wallet s id) := by
  unfold deleteContainer
  split
  · exact .error _ _
  · next b hb =>
    rw [if_pos hwallet, OnlyOwned.after_list, deployments_eq hb]
    split
    · exact .error _ _
    · next containers hlist =>
      obtain ⟨-, rfl⟩ := Bridge.list_eq_ok hlist
      split
      · exact .error _ _
      · next c hfind =>
        split
        · exact .error _ _
        · next howner =>
          rw [OnlyOwned.perform_iff rfl]
          exact ⟨c, (find?_id hfind).1, (find?_id hfind).2, not_not.mp howner⟩

lemma handleContainer_onlyOwned (hwallet : wallet ≠ []) :
    OnlyOwned s.deployments wallet (handleContainer wallet s r id) := by
  unfold handleContainer
  split
  · exact getContainer_onlyOwned hwallet
  · exact deleteContainer_onlyOwned hwallet
  · exact .error _ _

/-! ### The sub-resources -/

lemma subResourceGuard_logs : SubResourceGuard s wallet method id (text "logs") ↔
    ∀ b ∈ s.daemonBridge, method = .get → Owned b.deployments id wallet := by
  have hstop : text "logs" ≠ text "stop" := by decide
  have hstart : text "logs" ≠ text "start" := by decide
  simp only [SubResourceGuard, hstop, hstart, or_self, forall_const, false_implies, and_true]
  exact forall₂_congr fun b _ => not_imp_not

lemma subResourceGuard_action (hsub : sub = text "stop" ∨ sub = text "start") :
    SubResourceGuard s wallet method id sub ↔
      ∀ b ∈ s.daemonBridge, ¬ Owned b.deployments id wallet → method = .post →
        b.listFails = none ∧ ∃ c ∈ b.deployments, c.id = id := by
  have hlogs : sub ≠ text "logs" := by
    rcases hsub with rfl | rfl <;> decide
  simp only [SubResourceGuard, hlogs, hsub, false_implies, true_and, forall_const]

lemma subResourceGuard_other (hlogs : sub ≠ text "logs") (hstop : sub ≠ text "stop")
    (hstart : sub ≠ text "start") : SubResourceGuard s wallet method id sub := by
  simp [SubResourceGuard, hlogs, hstop, hstart]

/-- A wallet. -/
def walletA : Text := text "0xaaaaaaaaaaaaaaaaaaaaaaaaaaaaaaaaaaaaaaaa"

/-- Another wallet, in capital letters. -/
def walletB : Text := text "0xBBBBBBBBBBBBBBBBBBBBBBBBBBBBBBBBBBBBBBBB"

/-- A session of wallet `A` is open until the time `10`, and the daemon runs a container of each of
the two wallets. -/
def twoWallets : Server where
  walletAuth := some { newWalletAuthManager 0 with
    sessions := fun token =>
      if token = text "wt_1" then some ⟨walletA, text "wt_1", 0, 10⟩ else none }
  daemonBridge := some {
    deployments := [⟨text "dep-1", walletA⟩, ⟨text "dep-2", walletB⟩]
    listFails := none
    stop := fun _ => .ok ()
    start := fun _ => .ok ()
    delete := fun _ => .ok ()
    getLogs := fun _ _ _ => .ok (text "secret") }

/-- A request of the session. -/
def sessionRequest (method : Method) (path : String) : Request where
  method := method
  path := text path
  tail := []
  headers := ⟨text "Bearer wt_1", [], [], []⟩
  readJSON := .ok ()

/-- A curve on which nothing verifies. -/
def noCurve : Crypto Unit Unit Unit where
  keccak256Hash _ := ()
  sigToPub _ _ := none
  pubkeyToAddress _ := ()
  hex _ := []

end Moltbunker.Api
