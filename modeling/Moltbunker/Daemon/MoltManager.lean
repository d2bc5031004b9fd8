import Moltbunker.Lib.Path
import Moltbunker.Lib.Tally
import Moltbunker.Lib.Text

/-!
# Molt deployments

`handleMoltDeploy` of `internal/daemon/molt_handlers.go`, `MoltManager` of `molt_manager.go`, and
`Compile` and `ModuleCache` of `internal/molt`. A module is compiled once for a CID and is taken
from the cache after that. The CID is what the client wrote into its request; nothing compares it
with the bytes.

* `compile_module` — what `Compile` returns was compiled from the bytes, if what is cached was;
* `runs_own_code` — every deployment runs its own bytes, if no deploy finds the module of other
  bytes under its CID;
* `other_code_invoked` — two clients use one CID, and the second deployment runs the code of the
  first.
-/

namespace Moltbunker.Daemon

open Lib Function

/-- `CompiledMolt`, with the bytes that its module was compiled from. -/
structure CompiledMolt where
  cid : Text
  module : List UInt8
  compiledAt : ℤ
  sizeBytes : ℕ
  deriving DecidableEq

/-- `cacheEntry` -/
structure CacheEntry where
  molt : CompiledMolt
  lastAccess : ℤ

/-- `ModuleCache` -/
structure ModuleCache where
  entries : Table Text CacheEntry
  maxEntries : ℕ

namespace ModuleCache

variable (c : ModuleCache)

/-- `Get` -/
def get (now : ℤ) (cid : Text) : ModuleCache × Option CompiledMolt :=
  match c.entries.lookup cid with
  | none => (c, none)
  | some entry =>
    ({ c with entries := c.entries.insert cid { entry with lastAccess := now } }, some entry.molt)

/-- `Evict` -/
def evict (cid : Text) : ModuleCache := { c with entries := c.entries.erase cid }

/-- The loop of `evictOldest`, over the CIDs in the order of the map. -/
def oldest (order : List Text) : Text × ℤ :=
  order.foldl (fun best cid =>
    match c.entries.lookup cid with
    | none => best
    | some entry =>
      if best.1 = [] ∨ entry.lastAccess < best.2 then (cid, entry.lastAccess) else best) ([], 0)

/-- `evictOldest` -/
def evictOldest (order : List Text) : ModuleCache :=
  if (c.oldest order).1 = [] then c else c.evict (c.oldest order).1

/-- `Put` -/
def put (now : ℤ) (order : List Text) (cid : Text) (molt : CompiledMolt) : ModuleCache :=
  let c := if (c.entries.lookup cid).isNone ∧ c.maxEntries ≤ tableSize c.entries then
    c.evictOldest order else c
  { c with entries := c.entries.insert cid ⟨molt, now⟩ }

end ModuleCache

/-- `MoltDeploymentStatus`, as far as it is set here. -/
inductive MoltStatus where
  | running
  | stopped
  deriving DecidableEq

/-- The word of a status. -/
def MoltStatus.toText : MoltStatus → Text
  | .running => text "running"
  | .stopped => text "stopped"

/-- `MoltDeployment` -/
structure MoltDeployment where
  moduleCID : Text
  status : MoltStatus
  createdAt : ℤ
  owner : Text
  compiled : CompiledMolt

/-- `MoltDeployRequest` -/
structure MoltDeployRequest where
  moduleCID : Text
  wasmBytes : List UInt8
  owner : Text

/-- The CID of a deployment: that of the request, or the identifier of the deployment. -/
def MoltDeployRequest.cid (req : MoltDeployRequest) (deploymentID : Text) : Text :=
  if req.moduleCID = [] then deploymentID else req.moduleCID

/-- `MoltManager` with its `MoltRuntime`, if there is one. -/
structure MoltManager where
  available : Bool
  closed : Bool
  runtimeClosed : Bool
  cache : ModuleCache
  deployments : Table Text MoltDeployment

namespace MoltManager

variable (m : MoltManager)

/-- `Compile`; whether wazero compiles the bytes is an argument. -/
def compile (compileModule : List UInt8 → Option Text) (now : ℤ)
    (order : List Text) (wasmBytes : List UInt8) (cid : Text) :
    ModuleCache × Except Text CompiledMolt :=
  if m.runtimeClosed then (m.cache, .error (text "molt runtime is closed"))
  else
    match m.cache.get now cid, compileModule wasmBytes with
    | (cache, some cached), _ => (cache, .ok cached)
    | (cache, none), some err =>
      (cache, .error (text "compiling wasm module (cid=" ++ cid ++ text "): " ++ err))
    | (cache, none), none =>
      let molt : CompiledMolt := ⟨cid, wasmBytes, now, wasmBytes.length⟩
      (cache.put now order cid molt, .ok molt)

/-- `Deploy` -/
def deploy (compileModule : List UInt8 → Option Text) (now : ℤ)
    (order : List Text) (deploymentID : Text) (wasmBytes : List UInt8) (cid owner : Text) :
    MoltManager × Except Text MoltDeployment :=
  if ¬ m.available then (m, .error (text "molt runtime not available"))
  else if m.closed then (m, .error (text "molt manager is closed"))
  else if (m.deployments.lookup deploymentID).isSome then
    (m, .error (text "molt deployment " ++ deploymentID ++ text " already exists"))
  else
    match m.compile compileModule now order wasmBytes cid with
    | (cache, .error err) =>
      ({ m with cache := cache },
        .error (text "compiling molt " ++ deploymentID ++ text ": " ++ err))
    | (cache, .ok compiled) =>
      let d : MoltDeployment := ⟨cid, .running, now, owner, compiled⟩
      ({ m with
          cache := cache
          deployments := m.deployments.insert deploymentID d }, .ok d)

/-- `handleMoltDeploy`, with the identifier that it draws. -/
def handleMoltDeploy (compileModule : List UInt8 → Option Text) (now : ℤ)
    (order : List Text) (deploymentID : Text) (req : MoltDeployRequest) :
    MoltManager × Except Text MoltDeployment :=
  if req.moduleCID = [] ∧ req.wasmBytes = [] then
    (m, .error (text "module_cid or wasm_bytes required"))
  else if ¬ m.available then (m, .error (text "molt runtime not available on this node"))
  else if req.wasmBytes = [] then
    (m, .error (text "wasm_bytes required (IPFS fetch not yet implemented)"))
  else
    match m.deploy compileModule now order deploymentID req.wasmBytes (req.cid deploymentID)
      req.owner with
    | (m', .error err) => (m', .error (text "molt deploy failed: " ++ err))
    | (m', .ok d) => (m', .ok d)

/-- `Invoke`, up to the module that is instantiated. -/
def invoke (deploymentID : Text) : Except Text CompiledMolt :=
  if ¬ m.available then .error (text "molt runtime not available")
  else
    match m.deployments.lookup deploymentID with
    | none => .error (text "molt deployment " ++ deploymentID ++ text " not found")
    | some d =>
      if d.status ≠ .running then
        .error (text "molt deployment " ++ deploymentID ++ text " is " ++ d.status.toText ++
          text ", not running")
      else if m.runtimeClosed then .error (text "molt runtime is closed")
      else .ok d.compiled

/-- `Stop` -/
def stop (deploymentID : Text) : MoltManager :=
  match m.deployments.lookup deploymentID with
  | none => m
  | some d =>
    { m with deployments := m.deployments.insert deploymentID { d with status := .stopped } }

/-- `Delete` -/
def delete (deploymentID : Text) : MoltManager :=
  { m with deployments := m.deployments.erase deploymentID }

variable {m : MoltManager} {compileModule : List UInt8 → Option Text} {now : ℤ}
  {order : List Text} {wasmBytes : List UInt8}

/-- **What `Compile` returns** was compiled from the bytes, if what is cached under the CID was. -/
theorem compile_module {cid : Text} {compiled : CompiledMolt}
    (hcached : ∀ entry ∈ m.cache.entries.lookup cid, entry.molt.module = wasmBytes)
    (h : (m.compile compileModule now order wasmBytes cid).2 = .ok compiled) :
    compiled.module = wasmBytes := by
  unfold compile ModuleCache.get at h
  grind

/-- A deploy that succeeds adds what `Compile` returned, and one that fails adds nothing. -/
lemma handleMoltDeploy_deployments {id : Text} {req : MoltDeployRequest} {m' : MoltManager}
    {res : Except Text MoltDeployment}
    (h : m.handleMoltDeploy compileModule now order id req = (m', res)) :
    (∃ err, res = .error err ∧ m'.deployments = m.deployments) ∨
      ∃ d, res = .ok d ∧ m'.deployments = m.deployments.insert id d ∧
        (m.compile compileModule now order req.wasmBytes (req.cid id)).2 = .ok d.compiled := by
  unfold handleMoltDeploy deploy at h
  grind

end MoltManager

/-! ## Runs -/

/-- The manager, and the bytes that were submitted for each deployment. -/
structure Molts where
  manager : MoltManager
  submitted : Text → Option (List UInt8)

inductive MoltAction where
  | deploy (deploymentID : Text) (req : MoltDeployRequest) (now : ℤ) (order : List Text)
  | evict (cid : Text)
  | stop (deploymentID : Text)
  | delete (deploymentID : Text)

namespace Molts

variable (compileModule : List UInt8 → Option Text)

/-- One request or eviction; an invocation changes nothing. -/
def next (s : Molts) : MoltAction → Option Molts
  | .deploy id req now order =>
    match s.manager.handleMoltDeploy compileModule now order id req with
    | (m, .error _) => some { s with manager := m }
    | (m, .ok _) => some ⟨m, update s.submitted id (some req.wasmBytes)⟩
  | .evict cid => some { s with manager := { s.manager with cache := s.manager.cache.evict cid } }
  | .stop id => some { s with manager := s.manager.stop id }
  | .delete id => some { s with manager := s.manager.delete id }

/-- **Every deployment runs its own code.** -/
def RunsOwn (s : Molts) : Prop :=
  ∀ id compiled, s.manager.invoke id = .ok compiled → s.submitted id = some compiled.module

/-- A deploy does not find the module of other bytes under its CID. -/
def Honest (s : Molts) : MoltAction → Prop
  | .deploy id req _ _ => ∀ entry ∈ s.manager.cache.entries.lookup (req.cid id),
      entry.molt.module = req.wasmBytes
  | _ => True

instance (s : Molts) : DecidablePred s.Honest
  | .deploy .. => inferInstanceAs (Decidable (∀ entry ∈ _, _))
  | .evict _ | .stop _ | .delete _ => .isTrue trivial

/-- The deployments have the modules of their bytes. -/
def Own (s : Molts) : Prop :=
  ∀ id d, s.manager.deployments.lookup id = some d → s.submitted id = some d.compiled.module

variable {compileModule} {s s' : Molts} {a : MoltAction}

lemma Own.runsOwn (h : s.Own) : s.RunsOwn := by
  intro id compiled hinvoke
  unfold MoltManager.invoke at hinvoke
  grind [Own]

lemma Own.next (h : s.Own) (hG : s.Honest a) (hnext : s.next compileModule a = some s') :
    s'.Own := by
  cases a with
  | deploy id req now order =>
    rcases hdeploy : s.manager.handleMoltDeploy compileModule now order id req with ⟨m, res⟩
    simp only [Molts.next, hdeploy] at hnext
    rcases MoltManager.handleMoltDeploy_deployments hdeploy with
      ⟨err, rfl, hsame⟩ | ⟨d, rfl, hinsert, hcompiled⟩
    · cases hnext
      intro id' d' hd'
      exact h id' d' (hsame ▸ hd')
    · cases hnext
      have hmodule := MoltManager.compile_module hG hcompiled
      intro id' d' hd'
      grind [Own, update_apply]
  | evict cid =>
    cases hnext
    exact h
  | stop id =>
    cases hnext
    unfold Own MoltManager.stop
    grind [Own]
  | delete id =>
    cases hnext
    unfold Own MoltManager.delete
    grind [Own]

/-- **Every deployment runs its own code**, along every run in which no deploy finds the module of
other bytes under its CID. -/
theorem runs_own_code (hs : s.Own) {l : List (MoltAction × Molts)}
    (hpath : Path (fun s a s' => Molts.next compileModule s a = some s') s l)
    (hhonest : StepsMeet Honest s l) : StatesMeet RunsOwn s l := by
  have hall := Path.invariant_of_steps (P := Own) (G := Honest)
    (fun _ _ _ h hG hnext => h.next hG hnext) hs hpath hhonest
  exact hall.mono fun _ h => h.runsOwn

/-- A manager without deployments. -/
def empty : Molts := ⟨⟨true, false, false, ⟨∅, 256⟩, ∅⟩, fun _ => none⟩

/-- Two clients deploy under these CIDs; wazero compiles everything. -/
def twoClients (cid₁ cid₂ : String) : List (MoltAction × Molts) :=
  trace (next fun _ => none) empty
    [.deploy (text "molt-1") ⟨text cid₁, [1], text "0xa1"⟩ 0 [],
      .deploy (text "molt-2") ⟨text cid₂, [2], text "0xb2"⟩ 1 []]

/-- Under two CIDs each runs its own code. -/
theorem runs_own_code_two_cids :
    (twoClients "bafy1" "bafy2").length = 2 ∧
      StatesMeet RunsOwn empty (twoClients "bafy1" "bafy2") :=
  ⟨by decide +kernel, runs_own_code (fun _ _ h => by cases h) (trace_path ..) (by decide +kernel)⟩

/-- **Under one CID the second deployment runs the code of the first.** -/
theorem other_code_invoked :
    (endState empty (twoClients "bafy" "bafy")).submitted (text "molt-2") = some [2] ∧
      ((endState empty (twoClients "bafy" "bafy")).manager.invoke (text "molt-2")).map
        CompiledMolt.module = .ok [1] ∧
      ¬ StatesMeet RunsOwn empty (twoClients "bafy" "bafy") := by
  refine ⟨by decide +kernel, by decide +kernel, fun hmeet => ?_⟩
  have hown := hmeet.endState (text "molt-2") ⟨text "bafy", [1], 0, 1⟩ (by decide +kernel)
  exact absurd hown (by decide +kernel)

end Molts

end Moltbunker.Daemon
