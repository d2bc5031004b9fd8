import Moltbunker.Lib.GoTime
import Moltbunker.Lib.Path
import Moltbunker.Lib.Text

/-!
# The client of the Base network

`BaseClient` of `internal/payment/base_client.go`, with the `EndpointTracker` of
`internal/payment/endpoint_health.go`. The client keeps one connection to an RPC endpoint and a
counter for the nonces of its transactions. `Connect` installs the first endpoint that answers with
the configured chain id; `switchRPC`, which `callWithFailover` runs after a connection error,
installs the next one.

A goroutine that holds the lock `bc.mu` to the end of its function may wait for the node in between.
Such a goroutine is `mu` of the state: while there is one, no other goroutine enters a section that
takes `bc.mu`, and sections that take only `nonceMu` may run. All other functions are cut where they
give up a lock or wait for an answer, and what is left of them is a `Task`.

What comes from outside is in the labels of the steps: the answers of endpoints when they are
dialled, errors of calls, and outcomes of transactions. The node counts the transactions that it
has accepted, and this is its pending nonce.

Left out are the WebSocket connection, which no function here reads, and the retries of a dial, of
which only the last answer counts. `sort.Slice` of Go is not stable, so the order of endpoints is a
parameter.
-/

namespace Moltbunker.Payment

open Lib Text Duration Time

/-! ## Endpoints -/

/-- `EndpointHealth`; a time that is zero is `none`. -/
structure EndpointHealth where
  url : Text
  latency : Duration
  consecutiveErrs : ℕ
  lastError : Option ℤ
  healthy : Bool
  latencySamples : ℕ

/-- `EndpointTracker` -/
structure EndpointTracker where
  endpoints : List EndpointHealth
  maxErrors : ℕ
  recovery : Duration

/-- A URL on its way through `GetHealthy`. -/
structure Candidate where
  url : Text
  latency : Duration
  recover : Bool

/-- `defaultMaxConsecutiveErrors` -/
def defaultMaxConsecutiveErrors : ℕ := 3

/-- `defaultRecoveryInterval` -/
def defaultRecoveryInterval : Duration := 30 * second

/-- `defaultInitialLatency` -/
def defaultInitialLatency : Duration := 100000000

/-- The EWMA of `RecordSuccess`, with `ewmaAlpha`. -/
def ewma (latency old : Duration) : Duration :=
  (0.3 * Float.ofInt latency.toInt + 0.7 * Float.ofInt old.toInt).toInt64

/-- `NewEndpointTracker` -/
def newEndpointTracker (urls : List Text) : EndpointTracker where
  endpoints := urls.map fun u => ⟨u, defaultInitialLatency, 0, none, true, 0⟩
  maxErrors := defaultMaxConsecutiveErrors
  recovery := defaultRecoveryInterval

/-- The order of `GetHealthy`: healthy before recovery, then by latency. -/
def Candidate.less (c d : Candidate) : Bool :=
  if c.recover ≠ d.recover then !c.recover else decide (c.latency < d.latency)

namespace EndpointTracker

variable (et : EndpointTracker)

/-- The endpoint that `find` returns is changed. -/
def modify (url : Text) (f : EndpointHealth → EndpointHealth) : EndpointTracker :=
  { et with endpoints := et.endpoints.modify (et.endpoints.findIdx fun ep => ep.url = url) f }

/-- `RecordSuccess` -/
def recordSuccess (url : Text) (latency : Duration) : EndpointTracker :=
  et.modify url fun ep =>
    { ep with
      consecutiveErrs := 0
      healthy := true
      latency := if ep.latencySamples = 0 then latency else ewma latency ep.latency
      latencySamples := ep.latencySamples + 1 }

/-- `RecordError` -/
def recordError (url : Text) (now : ℤ) : EndpointTracker :=
  et.modify url fun ep =>
    { ep with
      consecutiveErrs := ep.consecutiveErrs + 1
      lastError := some now
      healthy := if et.maxErrors ≤ ep.consecutiveErrs + 1 then false else ep.healthy }

/-- The endpoints that `GetHealthy` may return. -/
def candidates (now : ℤ) : List Candidate :=
  et.endpoints.filterMap fun ep =>
    if ep.healthy then some ⟨ep.url, ep.latency, false⟩
    else
      match ep.lastError with
      | none => none
      | some lastError =>
        if et.recovery ≤ sub now lastError then some ⟨ep.url, hour, true⟩ else none

variable (sortSlice : (Candidate → Candidate → Bool) → List Candidate → List Candidate)

/-- `GetHealthy` -/
def getHealthy (et : EndpointTracker) (now : ℤ) : List Text :=
  (sortSlice Candidate.less (et.candidates now)).map Candidate.url

/-- `GetNext` -/
def getNext (et : EndpointTracker) (now : ℤ) (exclude : Text) : Option Text :=
  (et.getHealthy sortSlice now).find? fun u => u ≠ exclude

end EndpointTracker

/-! ## The client -/

/-- The fields of `BaseClientConfig` that are read here. -/
structure BaseClientConfig where
  rpcURL : Text
  rpcURLs : List Text
  chainID : ℤ
  maxGasPrice : Option ℤ

/-- An `ethclient.Client`: the URL that was dialled, and what the endpoint answers there when it is
asked for its chain id. -/
structure Connection where
  url : Text
  report : Except Text ℤ
  deriving DecidableEq

/-- `BaseClient`; of the key it matters whether there is one. -/
structure BaseClient where
  config : BaseClientConfig
  client : Option Connection
  privateKey : Bool
  pendingNonce : UInt64
  rpcTracker : Option EndpointTracker
  activeRPC : Text
  connected : Bool

/-- What happens when an endpoint is dialled: the dial fails, or the endpoint is there and answers
the question for its chain id. The time is that of the answer, the latency that of the dial. -/
structure Answer where
  dial : Except Text (Except Text ℤ)
  now : ℤ
  latency : Duration

/-- `mergeEndpoints` -/
def mergeEndpoints (primary : Text) (extras : List Text) : List Text :=
  extras.foldl (fun result u => if u ≠ [] ∧ u ∉ result then result ++ [u] else result)
    (if primary ≠ [] then [primary] else [])

/-- `NewBaseClient` -/
def newBaseClient (config : BaseClientConfig) (privateKey : Bool) : BaseClient where
  config := config
  client := none
  privateKey := privateKey
  pendingNonce := 0
  rpcTracker :=
    match mergeEndpoints config.rpcURL config.rpcURLs with
    | [] => none
    | rpcURLs => some (newEndpointTracker rpcURLs)
  activeRPC := []
  connected := false

/-- `isConnectionError` -/
def isConnectionError (err : Text) : Bool :=
  [text "connection refused", text "connection reset", text "EOF", text "broken pipe",
    text "no such host", text "i/o timeout", text "TLS handshake timeout",
    text "context deadline exceeded", text "server returned HTTP status 502",
    text "server returned HTTP status 503", text "server returned HTTP status 429"].any
    fun substr => decide (substr <:+: err)

namespace BaseClient

/-- `RecordError`, where there is a tracker. -/
def recordError (bc : BaseClient) (url : Text) (now : ℤ) : BaseClient :=
  { bc with rpcTracker := bc.rpcTracker.map fun et => et.recordError url now }

/-- `RecordSuccess`, where there is a tracker. -/
def recordSuccess (bc : BaseClient) (url : Text) (latency : Duration) : BaseClient :=
  { bc with rpcTracker := bc.rpcTracker.map fun et => et.recordSuccess url latency }

/-- A connection becomes the client. -/
def install (bc : BaseClient) (conn : Connection) (latency : Duration) : BaseClient :=
  { bc with client := some conn, activeRPC := conn.url }.recordSuccess conn.url latency

/-- The loop of `Connect` over the endpoints, with the last error. -/
def tryEndpoints (world : Text → Answer) : BaseClient → Option Text → List Text →
    BaseClient × Option Text
  | bc, lastErr, [] => (bc, lastErr)
  | bc, _, rpcURL :: rest =>
    let answer := world rpcURL
    match answer.dial with
    | .error err => tryEndpoints world (bc.recordError rpcURL answer.now) (some err) rest
    | .ok (.error err) => tryEndpoints world (bc.recordError rpcURL answer.now) (some err) rest
    | .ok (.ok chainID) =>
      if chainID ≠ bc.config.chainID then
        tryEndpoints world (bc.recordError rpcURL answer.now)
          (some (text "chain ID mismatch: expected " ++ ofInt bc.config.chainID ++
            text ", got " ++ ofInt chainID)) rest
      else (bc.install ⟨rpcURL, .ok chainID⟩ answer.latency, none)

variable (sortSlice : (Candidate → Candidate → Bool) → List Candidate → List Candidate)

variable (bc : BaseClient)

/-- The endpoints that `Connect` tries. -/
def endpointsToTry (now : ℤ) : List Text :=
  match (bc.rpcTracker.map fun et => et.getHealthy sortSlice now).getD [] with
  | [] => if bc.config.rpcURL ≠ [] then [bc.config.rpcURL] else []
  | rpcURLs => rpcURLs

/-- `Connect` up to the point where it asks for the nonce, with its error. A client that is there
already is kept when no endpoint can be installed. -/
def connect (now : ℤ) (world : Text → Answer) : BaseClient × Option Text :=
  let (bc', lastErr) := tryEndpoints world bc none (bc.endpointsToTry sortSlice now)
  match bc'.client, lastErr with
  | some _, _ => (bc', none)
  | none, some err => (bc', some (text "failed to connect to any RPC endpoint: " ++ err))
  | none, none => (bc', some (text "no RPC endpoints configured"))

/-- `switchRPC` up to the point where it asks for the nonce, with its error. -/
def switchRPC (now : ℤ) (world : Text → Answer) : BaseClient × Option Text :=
  match bc.rpcTracker with
  | none => (bc, some (text "no RPC failover configured"))
  | some et =>
    match et.getNext sortSlice now bc.activeRPC with
    | none => (bc, some (text "no alternative RPC endpoint available"))
    | some nextURL =>
      let answer := world nextURL
      match answer.dial with
      | .error err =>
        ({ bc with client := none, connected := false }.recordError nextURL answer.now,
          some (text "failed to connect to alternative RPC " ++ nextURL ++ text ": " ++ err))
      | .ok report =>
        ({ bc.install ⟨nextURL, report⟩ answer.latency with connected := true }, none)

/-- `Close` -/
def close : BaseClient := { bc with client := none, connected := false }

/-- The gas price of `GetTransactOpts`, which is capped. -/
def capGasPrice (gasPrice : ℤ) : ℤ :=
  match bc.config.maxGasPrice with
  | none => gasPrice
  | some maxGasPrice => if maxGasPrice < gasPrice then maxGasPrice else gasPrice

end BaseClient

/-! ## Goroutines -/

namespace BaseClient

/-- The goroutine that holds `bc.mu`: it asks for the nonce, or has the answer. -/
inductive Holder where
  | connect (nonce : Option UInt64)
  | switchRPC (nonce : Option UInt64)
  deriving DecidableEq

/-- What is left of a function that has given up `bc.mu`. -/
inductive Task where
  /-- `callWithFailover` waits for the call, and was connected to the URL. -/
  | call (activeRPC : Text)
  /-- `callWithFailover` is about to switch. -/
  | failover
  /-- `GetTransactOpts` has its client and waits for the gas price. -/
  | transactOpts
  /-- `SyncNonce` has its client and waits for the nonce. -/
  | askNonce
  /-- `SyncNonce` has the nonce. -/
  | writeNonce (nonce : UInt64)
  deriving DecidableEq

/-- What has become of a nonce that was handed out. -/
inductive Fate where
  | held
  | submitted
  | givenUp
  deriving DecidableEq

/-- The `bind.TransactOpts` that `GetTransactOpts` has returned. -/
structure TransactOpts where
  nonce : ℤ
  gasPrice : ℤ
  fate : Fate
  deriving DecidableEq

/-- A transaction that was submitted: its nonce, the pending nonce of the node before, and whether
every nonce that was handed out earlier had been submitted or given up. -/
structure Submission where
  nonce : ℤ
  pending : ℕ
  settled : Bool
  deriving DecidableEq

/-- The client, its goroutines and the node. -/
structure World where
  bc : BaseClient
  mu : Option Holder
  tasks : List Task
  opts : List TransactOpts
  log : List Submission
  pending : ℕ

/-- How `WaitForTransaction` ends, after which it may synchronize. -/
inductive Outcome where
  | waitFailed
  | receiptFailed
  | succeeded
  deriving DecidableEq

/-- A step of a goroutine, with what it gets from outside. -/
inductive Action where
  | connect (now : ℤ) (world : Text → Answer)
  | switchRPC (now : ℤ) (world : Text → Answer)
  | close
  /-- The goroutine that holds `bc.mu` asks for the nonce, and may get an error. -/
  | askNonce (err : Option Text)
  /-- The goroutine that holds `bc.mu` writes the nonce and returns. -/
  | writeNonce
  | callWithFailover
  | returned (i : ℕ) (err : Option Text) (now : ℤ)
  | failover (i : ℕ) (now : ℤ) (world : Text → Answer)
  | getTransactOpts
  | gasPrice (i : ℕ) (price : Except Text ℤ)
  | submit (i : ℕ) (err : Option Text)
  | waitForTransaction (i : ℕ) (outcome : Outcome)
  | syncNonce
  | synced (i : ℕ) (err : Option Text)
  | writeSynced (i : ℕ)

namespace World

/-- A world in which nothing has happened. -/
def new (bc : BaseClient) (pending : ℕ) : World := ⟨bc, none, [], [], [], pending⟩

/-- `PendingNonceAt` -/
def pendingNonceAt (s : World) : UInt64 := UInt64.ofNat s.pending

/-- The task is done. -/
def drop (s : World) (i : ℕ) : World := { s with tasks := s.tasks.eraseIdx i }

/-- The task goes on as another. -/
def replace (s : World) (i : ℕ) (task : Task) : World := { s with tasks := s.tasks.set i task }

/-- A goroutine that has read the client goes on, and one that found none returns an error. -/
def withClient (s : World) (task : Task) : World :=
  if s.bc.client.isSome then { s with tasks := s.tasks ++ [task] } else s

variable (sortSlice : (Candidate → Candidate → Bool) → List Candidate → List Candidate)

variable (s : World)

/-- `Connect` up to the point where it asks for the nonce; without a key it returns. -/
def connect (now : ℤ) (world : Text → Answer) : World :=
  match s.bc.connect sortSlice now world with
  | (bc, some _) => { s with bc := bc }
  | (bc, none) =>
    if bc.privateKey then { s with bc := bc, mu := some (.connect none) }
    else { s with bc := { bc with connected := true } }

/-- `switchRPC` up to the point where it asks for the nonce; without a key it returns. -/
def switchRPC (now : ℤ) (world : Text → Answer) : World :=
  match s.bc.switchRPC sortSlice now world with
  | (bc, some _) => { s with bc := bc }
  | (bc, none) => { s with bc := bc, mu := if bc.privateKey then some (.switchRPC none) else none }

/-- The goroutine that holds `bc.mu` asks for the nonce. After an error `Connect` returns it, and
`switchRPC` goes on without. -/
def askNonce (err : Option Text) : Option World :=
  match s.mu, err with
  | some (.connect none), none =>
    some { s with mu := some (.connect (some s.pendingNonceAt)) }
  | some (.switchRPC none), none =>
    some { s with mu := some (.switchRPC (some s.pendingNonceAt)) }
  | some (.connect none), some _ => some { s with mu := none }
  | some (.switchRPC none), some _ => some { s with mu := none }
  | _, _ => none

/-- The goroutine that holds `bc.mu` writes the nonce that it was given, and returns. -/
def writeNonce : Option World :=
  match s.mu with
  | some (.connect (some nonce)) =>
    some { s with bc := { s.bc with pendingNonce := nonce, connected := true }, mu := none }
  | some (.switchRPC (some nonce)) =>
    some { s with bc := { s.bc with pendingNonce := nonce }, mu := none }
  | _ => none

/-- The call of `callWithFailover` has returned. -/
def returned (i : ℕ) (activeRPC : Text) (err : Option Text) (now : ℤ) : World :=
  match err with
  | none =>
    let bc := if activeRPC ≠ [] then s.bc.recordSuccess activeRPC 0 else s.bc
    { s with bc := bc }.drop i
  | some err =>
    if isConnectionError err then
      let bc := if activeRPC ≠ [] then s.bc.recordError activeRPC now else s.bc
      { s with bc := bc }.replace i .failover
    else s.drop i

/-- `GetTransactOpts` has the gas price, takes a nonce and returns. -/
def handOut (i : ℕ) (gasPrice : ℤ) : World where
  bc := { s.bc with pendingNonce := s.bc.pendingNonce + 1 }
  mu := s.mu
  tasks := s.tasks.eraseIdx i
  opts := s.opts ++ [⟨s.bc.pendingNonce.toInt64.toInt, s.bc.capGasPrice gasPrice, .held⟩]
  log := s.log
  pending := s.pending

/-- Every nonce that was handed out before the `i`-th was submitted or given up. -/
def settledBefore (i : ℕ) : Bool := (s.opts.take i).all fun opts => opts.fate ≠ .held

/-- The transaction with the `i`-th options is submitted, or the submission fails and the options
are dropped. -/
def submit (i : ℕ) (opts : TransactOpts) (err : Option Text) : World :=
  match err with
  | none =>
    { s with
      opts := s.opts.set i { opts with fate := .submitted }
      log := s.log ++ [⟨opts.nonce, s.pending, s.settledBefore i⟩]
      pending := s.pending + 1 }
  | some _ => { s with opts := s.opts.set i { opts with fate := .givenUp } }

/-- A step. A section that takes `bc.mu` runs when nobody holds it. -/
def next : Action → Option World
  | .connect now world => if s.mu.isNone then some (s.connect sortSlice now world) else none
  | .switchRPC now world => if s.mu.isNone then some (s.switchRPC sortSlice now world) else none
  | .close => if s.mu.isNone then some { s with bc := s.bc.close } else none
  | .askNonce err => s.askNonce err
  | .writeNonce => s.writeNonce
  | .callWithFailover =>
    if s.mu.isNone then some (s.withClient (.call s.bc.activeRPC)) else none
  | .returned i err now =>
    match s.tasks[i]? with
    | some (.call activeRPC) => some (s.returned i activeRPC err now)
    | _ => none
  | .failover i now world =>
    match s.tasks[i]? with
    | some .failover =>
      if s.mu.isNone then some ((s.switchRPC sortSlice now world).drop i) else none
    | _ => none
  | .getTransactOpts =>
    if s.bc.privateKey ∧ s.mu.isNone then some (s.withClient .transactOpts) else none
  | .gasPrice i price =>
    match s.tasks[i]?, price with
    | some .transactOpts, .ok gasPrice => some (s.handOut i gasPrice)
    | some .transactOpts, .error _ => some (s.drop i)
    | _, _ => none
  | .submit i err =>
    match s.opts[i]? with
    | some opts => if opts.fate = .held then some (s.submit i opts err) else none
    | none => none
  | .waitForTransaction i outcome =>
    match s.opts[i]? with
    | some opts =>
      if opts.fate = .submitted ∧ s.mu.isNone then
        some (if outcome = .succeeded then s else s.withClient .askNonce)
      else none
    | none => none
  | .syncNonce => if s.mu.isNone then some (s.withClient .askNonce) else none
  | .synced i err =>
    match s.tasks[i]?, err with
    | some .askNonce, none => some (s.replace i (.writeNonce s.pendingNonceAt))
    | some .askNonce, some _ => some (s.drop i)
    | _, _ => none
  | .writeSynced i =>
    match s.tasks[i]? with
    | some (.writeNonce nonce) =>
      some ({ s with bc := { s.bc with pendingNonce := nonce } }.drop i)
    | _ => none

/-- The step relation. -/
def Step (a : Action) (s' : World) : Prop := s.next sortSlice a = some s'

end World

end BaseClient

end Moltbunker.Payment
