import Moltbunker.Lib.Json
import Moltbunker.P2p.Gossip

/-!
# Exposed services in the gossip state

`internal/daemon/gossip_adapter.go` and the cache of `internal/ingress/resolver.go`. A provider
publishes a `ServiceEntry` under the key `expose:<deployment>:<port>`. In the state of the provider
the value is the entry itself; another node has the object that the entry became as JSON, and the
adapter decodes it again. The resolver keeps the entries by the deployment that they name.

`encoding/json` takes a key for a field if the two are equal up to case. The keys of a map are
written in order, so that of several such keys the greatest is decided last. The validator, however,
looks the exact key up.

* `toServiceEntry_provider` — what the validator accepts from a peer and the adapter shows names the
  peer;
* `services_refresh` — what the resolver has for a deployment after a refresh.
-/

namespace Moltbunker.Daemon

open Lib Text Identity P2p

/-! ## Values -/

/-- `ingress.ServiceEntry`; the time is its text. -/
structure ServiceEntry where
  deploymentID : Text
  providerNodeID : Text
  providerAddr : Text
  containerPort : ℤ
  hostPort : ℤ
  lastSeen : Text
  runtimeType : Text
  deriving DecidableEq

/-- A member of a decoded object. -/
inductive Member where
  | null
  | bool (b : Bool)
  /-- a number that is written without a fraction or an exponent -/
  | num (n : ℤ)
  | str (t : Text)
  /-- another number, an array or an object, as its text -/
  | other (json : Text)
  deriving DecidableEq

/-- A value of the gossip state. -/
inductive GossipValue where
  /-- a service that has been removed -/
  | nil
  /-- `*ingress.ServiceEntry`, published by the node itself -/
  | service (entry : ServiceEntry)
  /-- `map[string]interface{}`, received from a peer -/
  | object (members : Table Text Member)
  /-- something else, as its text -/
  | other (json : Text)
  deriving DecidableEq

/-- The members of the object that an entry becomes as JSON. -/
def ServiceEntry.members (entry : ServiceEntry) : List (Text × Member) :=
  [(text "deployment_id", .str entry.deploymentID),
    (text "provider_node_id", .str entry.providerNodeID),
    (text "provider_addr", .str entry.providerAddr),
    (text "container_port", .num entry.containerPort),
    (text "host_port", .num entry.hostPort),
    (text "last_seen", .str entry.lastSeen)] ++
  if entry.runtimeType = [] then [] else [(text "runtime_type", .str entry.runtimeType)]

namespace GossipValue

/-- The value that a peer decodes. -/
def wire : GossipValue → GossipValue
  | .service entry =>
    .object (entry.members.foldl (fun members member => members.insert member.1 member.2) ∅)
  | value => value

/-- The text of a member. -/
def renderMember : Member → Text
  | .null => text "null"
  | .bool true => text "true"
  | .bool false => text "false"
  | .num n => ofInt n
  | .str t => Json.quoted t
  | .other json => json

/-- The text of an object. -/
def renderMembers (members : List (Text × Member)) : Text :=
  text "\x7b" ++ (text ",").intercalate
    (members.map fun member => Json.quoted member.1 ++ text ":" ++ renderMember member.2) ++
    text "\x7d"

/-- The length of the JSON of a value. -/
def size : GossipValue → ℕ
  | .nil => 4
  | .service entry => byteLen (renderMembers entry.members)
  | .object members =>
    byteLen (renderMembers (members.entries.map fun member => (member.1, member.2)))
  | .other json => byteLen json

end GossipValue

/-! ## Decoding -/

/-- A character up to case. The long s and the sign of the kelvin fold to ASCII letters too. -/
def foldChar (c : Char) : Char :=
  if c = Char.ofNat 0x17f then 's' else if c = Char.ofNat 0x212a then 'k' else c.toLower

/-- `foldName`, to compare with names in lower case -/
def foldName (key : Text) : Text := key.map foldChar

section Decode

variable (members : Table Text Member)

/-- The members that are decoded into the field of this name and are not `null`, which changes
nothing. -/
def candidates (name : Text) : List (Sigma fun _ : Text => Member) :=
  members.entries.filter fun member => foldName member.1 = name ∧ member.2 ≠ .null

/-- The member that is decoded last. -/
def decided (name : Text) : Option Member :=
  ((candidates members name).find? fun member =>
    (candidates members name).all fun other => other.1 ≤ member.1).map Sigma.snd

/-- A field is decoded if every member of its name is of its type. -/
def readField {α : Type} (read : Member → Option α) (zero : α) (name : Text) : Option α :=
  if (candidates members name).all fun member => (read member.2).isSome then
    some (((decided members name).bind read).getD zero)
  else none

end Decode

/-- A string. -/
def readString : Member → Option Text
  | .str t => some t
  | _ => none

/-- `int` -/
def readInt : Member → Option ℤ
  | .num n => if -2 ^ 63 ≤ n ∧ n < 2 ^ 63 then some n else none
  | _ => none

section Adapter

-- whether `time.Time` is decoded from a text
variable (validTime : Text → Bool)

/-- `time.Time` -/
def readTime : Member → Option Text
  | .str t => if validTime t then some t else none
  | _ => none

/-- `json.Unmarshal` of an object into a `ServiceEntry` -/
def unmarshalEntry (members : Table Text Member) : Option ServiceEntry := do
  let deploymentID ← readField members readString [] (text "deployment_id")
  let providerNodeID ← readField members readString [] (text "provider_node_id")
  let providerAddr ← readField members readString [] (text "provider_addr")
  let containerPort ← readField members readInt 0 (text "container_port")
  let hostPort ← readField members readInt 0 (text "host_port")
  let lastSeen ← readField members (readTime validTime) (text "0001-01-01T00:00:00Z")
    (text "last_seen")
  let runtimeType ← readField members readString [] (text "runtime_type")
  return ⟨deploymentID, providerNodeID, providerAddr, containerPort, hostPort, lastSeen,
    runtimeType⟩

/-- `toServiceEntry` -/
def toServiceEntry : GossipValue → Option ServiceEntry
  | .nil => none
  | .service entry => some entry
  | .object members =>
    (unmarshalEntry validTime members).filter fun entry =>
      ¬ (entry.deploymentID = [] ∨ entry.providerAddr = [])
  | .other _ => none

/-- `GetExposedServices` -/
def getExposedServices (state : GossipState GossipValue) : List (Text × ServiceEntry) :=
  (state.getStateByPrefix (text "expose:")).filterMap fun entry =>
    (toServiceEntry validTime entry.2).map fun service => (entry.1, service)

end Adapter

/-! ### The order of the keys -/

lemma le_toLower (c : Char) : c ≤ c.toLower := by
  unfold Char.toLower
  split
  · next h =>
    obtain ⟨hlow, hhigh⟩ := h
    simp only [Char.le_def, UInt32.le_iff_toNat_le, ge_iff_le] at hlow hhigh ⊢
    have hZ : 'Z'.val.toNat = 90 := rfl
    have hdiff : ('a'.val - 'A'.val).toNat = 32 := rfl
    rw [UInt32.toNat_add, hdiff, Nat.mod_eq_of_lt (by omega)]
    omega
  · exact le_refl c

/-- Other cases of a letter are before the lower one, but for two letters. -/
lemma le_foldChar {c : Char} (hs : foldChar c ≠ 's') (hk : foldChar c ≠ 'k') :
    c ≤ foldChar c := by
  unfold foldChar at hs hk ⊢
  split_ifs at hs hk ⊢ with hlong hkelvin
  · exact absurd rfl hs
  · exact absurd rfl hk
  · exact le_toLower c

lemma le_foldName {key : Text} (h : ∀ c ∈ foldName key, c ≠ 's' ∧ c ≠ 'k') :
    key ≤ foldName key := by
  induction key with
  | nil => exact le_refl []
  | cons c rest ih =>
    have hc : foldChar c ≠ 's' ∧ foldChar c ≠ 'k' := h _ List.mem_cons_self
    have hrest : rest ≤ foldName rest := ih fun c hmem => h c (List.mem_cons_of_mem _ hmem)
    show c :: rest ≤ foldChar c :: foldName rest
    rcases lt_or_eq_of_le (le_foldChar hc.1 hc.2) with hlt | heq
    · exact le_of_lt (List.cons_lt_cons_iff.mpr (.inl hlt))
    · rw [← heq]
      rcases lt_or_eq_of_le hrest with hlt | hsame
      · exact le_of_lt (List.cons_lt_cons_iff.mpr (.inr ⟨rfl, hlt⟩))
      · rw [← hsame]

/-- If no letter of a name has a case after the lower one, the exact key is decided last. -/
lemma decided_of_exact {members : Table Text Member} {name : Text} {member : Member}
    (hname : ∀ c ∈ name, c ≠ 's' ∧ c ≠ 'k') (hfold : foldName name = name)
    (hlookup : members.lookup name = some member) (hnull : member ≠ .null) :
    decided members name = some member := by
  have hmem : (⟨name, member⟩ : Sigma fun _ : Text => Member) ∈ candidates members name :=
    List.mem_filter.mpr ⟨AList.mem_lookup_iff.mp hlookup, by simp [hfold, hnull]⟩
  have hle : ∀ other ∈ candidates members name, other.1 ≤ name := by
    intro other hother
    have hother : foldName other.1 = name := by
      have := (List.mem_filter.mp hother).2
      simp only [decide_eq_true_eq] at this
      exact this.1
    have hlast : (∀ c ∈ foldName other.1, c ≠ 's' ∧ c ≠ 'k') → other.1 ≤ foldName other.1 :=
      le_foldName
    rw [hother] at hlast
    exact hlast hname
  unfold decided
  cases hfind : (candidates members name).find? fun member =>
      (candidates members name).all fun other => other.1 ≤ member.1 with
  | none =>
    rw [List.find?_eq_none] at hfind
    exact absurd (List.all_eq_true.mpr fun other hother => decide_eq_true (hle other hother))
      (hfind _ hmem)
  | some found =>
    have hfound := List.mem_of_find?_eq_some hfind
    have hall := List.find?_some hfind
    have hlast : name ≤ found.1 := of_decide_eq_true (List.all_eq_true.mp hall _ hmem)
    have hkey : found.1 = name := le_antisymm (hle found hfound) hlast
    obtain ⟨key, value⟩ := found
    obtain rfl : key = name := hkey
    exact congrArg some
      (members.nodupKeys.eq_of_mk_mem (List.mem_filter.mp hfound).1 (List.mem_filter.mp hmem).1)

/-! ## The validator -/

/-- `validateExposeEntry` -/
def validateExposeEntry (senderID : NodeID) (value : GossipValue) : Bool :=
  match value with
  | .nil => true
  | .service entry => named entry.providerNodeID
  | .object members =>
    match members.lookup (text "provider_node_id") with
    | some (.str providerNodeID) => named providerNodeID
    | _ => false
  | .other _ => false
where
  /-- The provider is given, and it is the sender. -/
  named (providerNodeID : Text) : Bool :=
    decide (providerNodeID ≠ [] ∧ providerNodeID = senderID.string)

/-- `NewGossipStateValidator` -/
def newGossipStateValidator : StateValidator GossipValue := fun senderID key value =>
  if senderID = List.Vector.replicate 32 0 then true
  else if text "expose:" <+: key then validateExposeEntry senderID value
  else if text "subdomain:" <+: key then false
  else true

/-- What is accepted from a peer under a key of a service and shown by the adapter names the
peer. -/
lemma toServiceEntry_provider {validTime : Text → Bool} {senderID : NodeID} {value : GossipValue}
    {entry : ServiceEntry} (haccept : validateExposeEntry senderID value = true)
    (hentry : toServiceEntry validTime value = some entry) :
    entry.providerNodeID = senderID.string := by
  cases value with
  | nil => cases hentry
  | other json => cases hentry
  | service own =>
    obtain rfl : own = entry := Option.some.inj hentry
    exact (of_decide_eq_true haccept).2
  | object members =>
    have hread := (Option.filter_eq_some_iff.mp hentry).1
    simp only [unmarshalEntry, Option.bind_eq_bind, Option.bind_eq_some_iff] at hread
    obtain ⟨_, -, provider, hprovider, _, -, _, -, _, -, _, -, _, -, hmk⟩ := hread
    cases hmk
    simp only [validateExposeEntry] at haccept
    split at haccept
    · next named hlookup =>
      have hdecided := decided_of_exact (by simp [text]) (by decide +kernel) hlookup
        (by simp)
      unfold readField at hprovider
      split at hprovider
      · rw [hdecided] at hprovider
        obtain rfl : named = provider := Option.some.inj hprovider
        exact (of_decide_eq_true haccept).2
      · cases hprovider
    · cases haccept

/-! ## The resolver -/

/-- `Resolver`: the cached services by their deployments. -/
structure Resolver where
  services : Text → Option ServiceEntry

/-- `refreshFromGossip`, for the order in which the map of the services is walked. -/
def Resolver.refreshFromGossip (r : Resolver) (entries : List (Text × ServiceEntry)) : Resolver :=
  entries.foldl (fun r entry =>
    ⟨Function.update r.services entry.2.deploymentID (some entry.2)⟩) r

/-- The entry that is walked last is the one of its deployment. -/
lemma services_refresh_last (r : Resolver) (entries : List (Text × ServiceEntry))
    (entry : Text × ServiceEntry) :
    (r.refreshFromGossip (entries ++ [entry])).services entry.2.deploymentID = some entry.2 := by
  simp [Resolver.refreshFromGossip]

/-- After a refresh a deployment has one of the entries that name it, or it has what it had and no
entry names it. -/
lemma services_refresh (r : Resolver) (entries : List (Text × ServiceEntry)) (dep : Text) :
    (∃ entry ∈ entries, entry.2.deploymentID = dep ∧
        (r.refreshFromGossip entries).services dep = some entry.2) ∨
      (∀ entry ∈ entries, entry.2.deploymentID ≠ dep) ∧
        (r.refreshFromGossip entries).services dep = r.services dep := by
  induction entries using List.reverseRecOn with
  | nil => exact .inr ⟨nofun, rfl⟩
  | append_singleton entries entry ih =>
    by_cases hdep : entry.2.deploymentID = dep
    · subst hdep
      exact .inl ⟨entry, by simp, rfl, services_refresh_last r entries entry⟩
    · have hsame : (r.refreshFromGossip (entries ++ [entry])).services dep =
          (r.refreshFromGossip entries).services dep := by
        simp [Resolver.refreshFromGossip, Function.update_of_ne (Ne.symm hdep)]
      rw [hsame]
      rcases ih with ⟨other, hmem, hother, hservices⟩ | ⟨hnone, hservices⟩
      · exact .inl ⟨other, List.mem_append_left _ hmem, hother, hservices⟩
      · refine .inr ⟨?_, hservices⟩
        intro other hmem
        rcases List.mem_append.mp hmem with hmem | hmem
        · exact hnone other hmem
        · exact List.mem_singleton.mp hmem ▸ hdep

end Moltbunker.Daemon
