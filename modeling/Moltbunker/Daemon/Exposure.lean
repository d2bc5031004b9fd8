import Moltbunker.Daemon.GossipAdapter

/-!
# Who may change the entries of a provider

A node has under a key the entry of a provider `P`, and the resolver sends the traffic of a
deployment to `P`. Another peer sends a gossip message. The validator compares the provider that an
incoming value names with the sender; it does not look at the value that the node already has, lets
a value through that is `nil`, and does not compare the deployment that a value names with the key.

* `entry_safe_iff` — the entry of `P` is kept and the deployment stays with `P` exactly if the
  message has no accepted other value for the key, and none that gives the deployment to another
  provider;
* `stranger_removes_and_takes_over` — a peer removes the entry of a provider, and a peer takes over
  its deployment;
* `quiet_iff` — for a peer that is not `P`, the condition says that it sends nothing for the key and
  nothing that the adapter shows for the deployment.
-/

namespace Moltbunker.Daemon

open Lib Text Identity P2p GossipValue GossipProtocol

lemma NodeID.string_injective {a b : NodeID} (h : a.string = b.string) : a = b :=
  Subtype.ext (hexEncode_injective h)

section Exposure

-- whether `time.Time` is decoded from a text
variable (validTime : Text → Bool)

/-- The adapter shows the value as an entry of the deployment. -/
def ShowsFor (dep : Text) (value : GossipValue) (service : ServiceEntry) : Prop :=
  toServiceEntry validTime value = some service ∧ service.deploymentID = dep

/-- In whatever order a refresh walks the services, the deployment is mapped to an entry of `P`. -/
def MapsTo (r : Resolver) (state : GossipState GossipValue) (dep : Text) (P : NodeID) : Prop :=
  ∀ order, order.Perm (getExposedServices validTime state) →
    ∃ service, (r.refreshFromGossip order).services dep = some service ∧
      service.providerNodeID = P.string

/-- After the message the value under the key is as before, and the resolver maps the deployment to
an entry of `P` and to none of `S`. -/
def EntrySafe (gp gp' : GossipProtocol GossipValue) (r : Resolver) (key dep : Text)
    (P S : NodeID) : Prop :=
  (gp'.state.lookup key).map StateEntry.value = (gp.state.lookup key).map StateEntry.value ∧
    MapsTo validTime r gp'.state dep P ∧
    ∀ order, order.Perm (getExposedServices validTime gp'.state) →
      ∀ service, (r.refreshFromGossip order).services dep = some service →
        service.providerNodeID ≠ S.string

/-- Of what the node takes from the message, nothing changes the value under the key, and no service
gives the deployment to another provider than `P`. -/
def Quiet (gp : GossipProtocol GossipValue) (payload : Except Text (GossipMessage GossipValue))
    (S : NodeID) (key dep : Text) (value : GossipValue) (P : NodeID) : Prop :=
  ∀ entry ∈ gp.takes size payload S,
    (entry.1 = key → entry.2 = value) ∧
      (text "expose:" <+: entry.1 → ∀ service, ShowsFor validTime dep entry.2 service →
        service.providerNodeID = P.string)

/-! ## The services of a state -/

variable {validTime}

variable {state : GossipState GossipValue} {r : Resolver} {service : ServiceEntry}

/-- What the adapter shows is under a key of the state. -/
lemma mem_getExposedServices {key : Text} : (key, service) ∈ getExposedServices validTime state ↔
    text "expose:" <+: key ∧ ∃ held, state.lookup key = some held ∧
      toServiceEntry validTime held.value = some service := by
  simp only [getExposedServices, GossipState.getStateByPrefix, List.mem_filterMap, List.mem_map,
    List.mem_filter, decide_eq_true_eq, Option.map_eq_some_iff, Prod.mk.injEq]
  constructor
  · rintro ⟨_, ⟨⟨key', held⟩, ⟨hmem, hkey⟩, rfl⟩, service', hshow, rfl, rfl⟩
    exact ⟨hkey, held, AList.mem_lookup_iff.mpr hmem, hshow⟩
  · rintro ⟨hkey, held, hlookup, hshow⟩
    exact ⟨_, ⟨⟨key, held⟩, ⟨AList.mem_lookup_iff.mp hlookup, hkey⟩, rfl⟩, service, hshow, rfl, rfl⟩

/-- The deployment stays with `P` if every service of it is one of `P`, and the resolver knows one
of `P` already or is shown one. -/
lemma mapsTo_of_services {dep : Text} {P : NodeID}
    (hall : ∀ entry ∈ getExposedServices validTime state, entry.2.deploymentID = dep →
      entry.2.providerNodeID = P.string)
    (hsome : (∃ service, r.services dep = some service ∧ service.providerNodeID = P.string) ∨
      ∃ entry ∈ getExposedServices validTime state, entry.2.deploymentID = dep) :
    MapsTo validTime r state dep P := by
  intro order hperm
  rcases services_refresh r order dep with ⟨entry, hmem, hdep, hservices⟩ | ⟨hnone, hservices⟩
  · exact ⟨entry.2, hservices, hall entry (hperm.mem_iff.mp hmem) hdep⟩
  · rcases hsome with ⟨service, hcached, hnames⟩ | ⟨entry, hmem, hdep⟩
    · exact ⟨service, hservices.trans hcached, hnames⟩
    · exact absurd hdep (hnone entry (hperm.mem_iff.mpr hmem))

/-- If the deployment stays with `P`, every service of it is one of `P`: a refresh may walk it
last. -/
lemma services_of_mapsTo {dep : Text} {P : NodeID}
    (h : MapsTo validTime r state dep P) {entry : Text × ServiceEntry}
    (hmem : entry ∈ getExposedServices validTime state) (hdep : entry.2.deploymentID = dep) :
    entry.2.providerNodeID = P.string := by
  obtain ⟨front, back, hsplit⟩ := List.append_of_mem hmem
  have hperm : ((front ++ back) ++ [entry]).Perm (getExposedServices validTime state) := by
    rw [hsplit, List.append_assoc]
    exact (List.perm_append_singleton entry back).append_left front
  obtain ⟨service, hservices, hnames⟩ := h _ hperm
  subst hdep
  rw [services_refresh_last] at hservices
  exact Option.some.inj hservices ▸ hnames

/-! ## One message -/

variable {gp : GossipProtocol GossipValue} {now : ℤ}
  {payload : Except Text (GossipMessage GossipValue)} {r : Resolver} {key dep : Text}
  {P S : NodeID} {held : StateEntry GossipValue}

/-- The node after the message. -/
abbrev after (gp : GossipProtocol GossipValue) (now : ℤ)
    (payload : Except Text (GossipMessage GossipValue)) (S : NodeID) :
    GossipProtocol GossipValue :=
  gp.process size now payload S

variable (now) in
lemma value_kept_of_quiet (hheld : gp.state.lookup key = some held)
    (hquiet : Quiet validTime gp payload S key dep held.value P) :
    ((after gp now payload S).state.lookup key).map StateEntry.value = some held.value := by
  by_cases htaken : ∃ entry ∈ gp.takes size payload S, entry.1 = key
  · obtain ⟨entry, hmem, rfl⟩ := htaken
    rw [lookup_process_of_mem now hmem]
    exact congrArg some ((hquiet entry hmem).1 rfl)
  · rw [lookup_process_of_notMem fun entry hmem heq => htaken ⟨entry, hmem, heq⟩, hheld]
    rfl

/-- What is shown for the deployment after a quiet message is of `P`, as it was before. -/
lemma services_of_quiet (hbefore : MapsTo validTime r gp.state dep P)
    (hquiet : Quiet validTime gp payload S key dep held.value P) :
    ∀ entry ∈ getExposedServices validTime (after gp now payload S).state,
      entry.2.deploymentID = dep → entry.2.providerNodeID = P.string := by
  rintro ⟨other, service⟩ hmem hdep
  obtain ⟨hexpose, kept, hlookup, hshow⟩ := mem_getExposedServices.mp hmem
  rcases lookup_process hlookup with hold | htaken
  · exact services_of_mapsTo hbefore (mem_getExposedServices.mpr ⟨hexpose, kept, hold, hshow⟩) hdep
  · exact (hquiet _ htaken).2 hexpose service ⟨hshow, hdep⟩

/-- **Only a quiet message leaves a provider its entry and its deployment.** The key holds a value,
the resolver maps the deployment to `P`, and it does so from its cache or because the adapter shows
the value for the deployment. -/
theorem entry_safe_iff (hheld : gp.state.lookup key = some held) (hexpose : text "expose:" <+: key)
    (hbefore : MapsTo validTime r gp.state dep P) (hne : S ≠ P)
    (hknown : (∃ service, r.services dep = some service ∧ service.providerNodeID = P.string) ∨
      ∃ service, ShowsFor validTime dep held.value service) :
    EntrySafe validTime gp (after gp now payload S) r key dep P S ↔
      Quiet validTime gp payload S key dep held.value P := by
  constructor
  · rintro ⟨hvalue, hmaps, -⟩ entry hmem
    have hnow := lookup_process_of_mem now hmem
    constructor
    · rintro rfl
      rw [hnow, hheld] at hvalue
      exact Option.some.inj hvalue
    · rintro hservice service ⟨hshow, hdep⟩
      have hshown : (entry.1, service) ∈
          getExposedServices validTime (after gp now payload S).state :=
        mem_getExposedServices.mpr ⟨hservice, _, hnow, hshow⟩
      exact services_of_mapsTo hmaps hshown hdep
  · intro hquiet
    have hvalue := value_kept_of_quiet now hheld hquiet
    have hmaps : MapsTo validTime r (after gp now payload S).state dep P := by
      refine mapsTo_of_services (services_of_quiet hbefore hquiet) ?_
      -- the entry under the key is still shown, if it is what the resolver knows `P` from
      rcases hknown with hcached | ⟨service, hshow, hdep⟩
      · exact .inl hcached
      · obtain ⟨kept, hlookup, hkept⟩ := Option.map_eq_some_iff.mp hvalue
        exact .inr ⟨(key, service),
          mem_getExposedServices.mpr ⟨hexpose, kept, hlookup, hkept ▸ hshow⟩, hdep⟩
    refine ⟨by rw [hvalue, hheld]; rfl, hmaps, ?_⟩
    intro order hperm service hservices hstranger
    obtain ⟨service', hservices', hnames⟩ := hmaps order hperm
    obtain rfl : service = service' := Option.some.inj (hservices.symm.trans hservices')
    exact hne (NodeID.string_injective (hstranger.symm.trans hnames))

section Stranger

variable (hvalidator : gp.stateValidator = some newGossipStateValidator) (hne : S ≠ P)
  (hid : S ≠ List.Vector.replicate 32 0)
include hvalidator hne hid

/-- What is taken from a peer under a key of a service and shown by the adapter names no other
node. -/
lemma provider_ne_of_mem_takes {entry : MessageEntry GossipValue}
    (hmem : entry ∈ gp.takes size payload S) (hexpose : text "expose:" <+: entry.1)
    (hshow : toServiceEntry validTime entry.2 = some service) :
    service.providerNodeID ≠ P.string := by
  intro hnames
  have hpassed := validated_of_mem_takes hvalidator hmem
  simp only [newGossipStateValidator, hid, if_false, hexpose, if_true] at hpassed
  have hown := toServiceEntry_provider hpassed hshow
  exact hne (NodeID.string_injective (hown.symm.trans hnames))

/-- From a peer other than `P`, a quiet message has nothing that is accepted under the key, and
nothing that the adapter shows for the deployment. A sender without an identity is the node itself
to the validator. -/
lemma quiet_iff (hexpose : text "expose:" <+: key)
    (hprovider : ∃ service, ShowsFor validTime dep held.value service ∧
      service.providerNodeID = P.string) : Quiet validTime gp payload S key dep held.value P ↔
      ∀ entry ∈ gp.takes size payload S, entry.1 ≠ key ∧
        (text "expose:" <+: entry.1 → ∀ service, ¬ ShowsFor validTime dep entry.2 service) := by
  constructor
  · intro hquiet entry hmem
    refine ⟨?_, fun hservice service hshow => ?_⟩
    · rintro rfl
      obtain ⟨service, ⟨hshow, -⟩, hnames⟩ := hprovider
      rw [← (hquiet entry hmem).1 rfl] at hshow
      exact provider_ne_of_mem_takes hvalidator hne hid hmem hexpose hshow hnames
    · exact provider_ne_of_mem_takes hvalidator hne hid hmem hservice hshow.1
        ((hquiet entry hmem).2 hservice service hshow)
  · intro hnothing entry hmem
    refine ⟨fun heq => absurd heq (hnothing entry hmem).1, fun hservice service hshow => ?_⟩
    exact absurd hshow ((hnothing entry hmem).2 hservice service)

end Stranger

end Exposure

/-! ## A peer that removes an entry, and one that takes over a deployment -/

/-- A provider. -/
def provider : NodeID := List.Vector.replicate 32 1

/-- Another peer. -/
def stranger : NodeID := List.Vector.replicate 32 2

/-- The entry of a node for the deployment `dep-1`. -/
def serviceOf (id : NodeID) : ServiceEntry where
  deploymentID := text "dep-1"
  providerNodeID := id.string
  providerAddr := text "10.0.0.1:9002"
  containerPort := 80
  hostPort := 8080
  lastSeen := text "0001-01-01T00:00:00Z"
  runtimeType := text "container"

/-- The key of the provider. -/
def providerKey : Text := text "expose:dep-1:80"

/-- The value of the provider, as another node has received it. -/
def providerValue : GossipValue := (service (serviceOf provider)).wire

/-- A node that has the entry of the provider. -/
def listener : GossipProtocol GossipValue where
  state := (∅ : GossipState GossipValue).insert providerKey ⟨providerValue, 0⟩
  stateValidator := some newGossipStateValidator
  stakeVerifier := some fun _ => true

/-- An update of one key. -/
def updateOf (key : Text) (value : GossipValue) : Except Text (GossipMessage GossipValue) :=
  .ok ⟨text "state_update", some ((∅ : Table Text GossipValue).insert key value)⟩

/-- An empty cache. -/
def emptyResolver : Resolver := ⟨fun _ => none⟩

/-- Every text is a time. -/
def anyTime (_ : Text) : Bool := true

lemma provider_shown :
    getExposedServices anyTime listener.state = [(providerKey, serviceOf provider)] := by
  decide +kernel

lemma listener_mapsTo : MapsTo anyTime emptyResolver listener.state (text "dep-1") provider := by
  refine mapsTo_of_services ?_ (.inr ⟨(providerKey, serviceOf provider), ?_, rfl⟩)
  · rw [provider_shown]
    rintro entry hmem -
    rw [List.mem_singleton.mp hmem]
    rfl
  · rw [provider_shown]
    exact List.mem_singleton_self _

/-- A message about something else leaves the provider its entry and its deployment. -/
theorem entry_safe_other_key :
    EntrySafe anyTime listener
      (after listener 1 (updateOf (text "load") (.other (text "1"))) stranger) emptyResolver
      providerKey (text "dep-1") provider stranger := by
  have hheld : listener.state.lookup providerKey = some ⟨providerValue, 0⟩ :=
    AList.lookup_insert _
  have hshown : ShowsFor anyTime (text "dep-1") providerValue (serviceOf provider) :=
    ⟨by decide +kernel, rfl⟩
  refine (entry_safe_iff hheld (by decide +kernel) listener_mapsTo (by decide +kernel)
    (.inr ⟨_, hshown⟩)).mpr ?_
  rintro entry hmem
  obtain rfl := List.mem_singleton.mp hmem
  refine ⟨fun hkey => absurd hkey (by decide +kernel), fun hexpose => ?_⟩
  exact absurd hexpose (by decide +kernel)

/-- An entry of the stranger that names the deployment of the provider, under a key of its own. -/
def strangerUpdate : Except Text (GossipMessage GossipValue) :=
  updateOf (text "expose:dep-9:1") (service (serviceOf stranger)).wire

/-- A staked peer sends `nil` under the key of a provider, and the entry is gone; it sends an entry
of its own that names the deployment under another key, and a refresh may give it the deployment. -/
theorem stranger_removes_and_takes_over :
    MapsTo anyTime emptyResolver listener.state (text "dep-1") provider ∧
      ¬ EntrySafe anyTime listener (after listener 1 (updateOf providerKey .nil) stranger)
        emptyResolver providerKey (text "dep-1") provider stranger ∧
      ¬ EntrySafe anyTime listener
        (after listener 1 strangerUpdate stranger) emptyResolver providerKey (text "dep-1")
        provider stranger := by
  refine ⟨listener_mapsTo, ?_, ?_⟩
  · rintro ⟨hvalue, -⟩
    exact absurd hvalue (by decide +kernel)
  · rintro ⟨-, hmaps, -⟩
    have hshown : (text "expose:dep-9:1", serviceOf stranger) ∈ getExposedServices anyTime
        (after listener 1 strangerUpdate stranger).state := by decide +kernel
    exact absurd (services_of_mapsTo hmaps hshown rfl) (by decide +kernel)

end Moltbunker.Daemon
