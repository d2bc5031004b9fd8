import Moltbunker.Daemon.Exposure
import Moltbunker.Lib.Path

/-!
# A node that leaves

A node that shuts down clears its gossip state and sends what is left of it, an empty map, to its
peers (`RemoveLocalState` in `internal/p2p/gossip.go`, called in `cmd/daemon/main.go`). A peer
merges a map key by key, so that a key that is missing from it is kept.

The nodes of a network update their states, send copies of them, merge what they receive and forget
what is old; packets may be lost or late. `N` leaves, and `Q` is a peer with the validator of the
daemon, which is set where the adapter is made.

* `withdrawn_iff` — once `Q` has processed a packet that `N` sent after it cleared its state, and
  until `N` publishes again, `Q` shows no entry of `N`: this holds throughout a run exactly if every
  such packet of `N` overwrites what `Q` shows of `N` and brings nothing of it;
* `third_nodes_quiet` — what other nodes send never shows an entry of `N`;
* `shown_only_by_itself` — `Q` shows nothing of `N` before it hears from `N`;
* `left_but_shown` — an entry is shown after the packet with the empty map.
-/

namespace Moltbunker.Daemon

open Lib Identity P2p Function GossipValue GossipProtocol

/-! ## The network -/

/-- A copy of a state on its way. -/
structure Packet where
  sender : NodeID
  receiver : NodeID
  stateMap : Table Text GossipValue
  /-- sent by the leaving node after it cleared its state, and no entry was published since -/
  leave : Bool

/-- The nodes and the packets between them. The last two fields are about one node `N` and one peer
`Q`: `N` has cleared its state, and `Q` has processed a packet that `N` sent since; both until `N`
publishes an entry. -/
structure Network where
  nodes : NodeID → GossipProtocol GossipValue
  flight : List Packet
  leaving : Bool
  withdrawn : Bool

inductive NetworkAction where
  /-- `UpdateState` at a node, with the entry that is evicted if the map is full -/
  | update (n : NodeID) (key : Text) (value : GossipValue) (victim : Text) (now : ℤ)
  /-- `sendGossip` -/
  | send (n m : NodeID)
  /-- a packet arrives; its map is walked in the order of the table -/
  | deliver (i : ℕ) (stateMap : Table Text GossipValue) (now : ℤ)
  /-- a packet is lost -/
  | drop (i : ℕ)
  /-- `CleanStaleState`, as `Start` calls it -/
  | clean (n : NodeID) (now : ℤ)
  /-- `RemoveLocalState` until the broadcast -/
  | removeLocal (n : NodeID)

/-- What a node writes into its own state: its own entries, removals, and the deployments of
subdomains. -/
def localValue (n : NodeID) : GossipValue → Bool
  | .nil => true
  | .service entry => decide (entry.providerNodeID = n.string)
  | .object _ => false
  | .other _ => true

/-- An entry is published. -/
def GossipValue.isService : GossipValue → Bool
  | .service _ => true
  | _ => false

namespace Network

/-- The state of a node is replaced. -/
def setState (s : Network) (n : NodeID) (state : GossipState GossipValue) : Network :=
  { s with nodes := update s.nodes n { s.nodes n with state := state } }

/-- The state of a node. -/
abbrev state (s : Network) (n : NodeID) : GossipState GossipValue := (s.nodes n).state

/-- The message that a packet is decoded to. -/
def message (stateMap : Table Text GossipValue) : Except Text (GossipMessage GossipValue) :=
  .ok ⟨text "state_update", some stateMap⟩

/-- One step of the network. -/
def next (N Q : NodeID) (s : Network) : NetworkAction → Option Network
  | .update n key value victim now =>
    if localValue n value ∧
        ((s.state n).known key ∨ tableSize (s.state n) < maxStateEntries ∨
          (s.state n).oldest victim) then
      let anew := n = N ∧ value.isService
      some { s.setState n ((s.state n).updateState now victim key value) with
        flight := s.flight.map fun p => { p with leave := p.leave && !decide anew }
        leaving := s.leaving && !decide anew
        withdrawn := s.withdrawn && !decide anew }
    else none
  | .send n m =>
    if (s.nodes n).trusts m then
      some { s with flight := s.flight ++
        [⟨n, m, (s.state n).snapshot wire, decide (n = N) && s.leaving⟩] }
    else none
  | .deliver i stateMap now =>
    match s.flight[i]? with
    | none => none
    | some p =>
      if p.stateMap.entries.Perm stateMap.entries then
        some
          { nodes := update s.nodes p.receiver
              ((s.nodes p.receiver).process size now (message stateMap) p.sender)
            flight := s.flight.eraseIdx i
            leaving := s.leaving
            withdrawn := s.withdrawn || (p.leave && decide (p.receiver = Q)) }
      else none
  | .drop i => if i < s.flight.length then some { s with flight := s.flight.eraseIdx i } else none
  | .clean n now =>
    some (s.setState n ((s.state n).cleanStaleState now (30 * Duration.minute)))
  | .removeLocal n =>
    some { s.setState n ∅ with leaving := s.leaving || decide (n = N) }

end Network

/-! ## One message -/

section Withdrawal

-- whether `time.Time` is decoded from a text
variable (validTime : Text → Bool)

/-- The adapter shows an entry of the provider. -/
def Shows (gp : GossipProtocol GossipValue) (N : NodeID) : Prop :=
  ∃ entry ∈ getExposedServices validTime gp.state, entry.2.providerNodeID = N.string

/-- What is taken from the message overwrites every entry of `N` that is shown, and brings none. -/
def Clears (gp : GossipProtocol GossipValue) (payload : Except Text (GossipMessage GossipValue))
    (sender N : NodeID) : Prop :=
  (∀ shown ∈ getExposedServices validTime gp.state, shown.2.providerNodeID = N.string →
      ∃ entry ∈ gp.takes size payload sender, entry.1 = shown.1) ∧
    ∀ entry ∈ gp.takes size payload sender, text "expose:" <+: entry.1 →
      ∀ service, toServiceEntry validTime entry.2 = some service →
        service.providerNodeID ≠ N.string

instance (entry : MessageEntry GossipValue) (N : NodeID) :
    Decidable (∀ service, toServiceEntry validTime entry.2 = some service →
      service.providerNodeID ≠ N.string) :=
  inferInstanceAs (Decidable (∀ service ∈ toServiceEntry validTime entry.2,
    service.providerNodeID ≠ N.string))

instance (gp : GossipProtocol GossipValue) (payload : Except Text (GossipMessage GossipValue))
    (sender N : NodeID) : Decidable (Clears validTime gp payload sender N) :=
  inferInstanceAs (Decidable (_ ∧ _))

variable {validTime} {gp : GossipProtocol GossipValue} {now : ℤ}
  {payload : Except Text (GossipMessage GossipValue)} {sender N Q : NodeID}

variable (now) in
/-- After a message nothing of `N` is shown exactly if the message clears it. -/
lemma not_shows_process_iff :
    ¬ Shows validTime (after gp now payload sender) N ↔ Clears validTime gp payload sender N := by
  constructor
  · intro hnone
    constructor
    · rintro ⟨key, service⟩ hmem hnames
      by_contra hkept
      obtain ⟨hexpose, held, hlookup, hshow⟩ := mem_getExposedServices.mp hmem
      have hsame : (after gp now payload sender).state.lookup key = some held := by
        rw [← hlookup]
        exact lookup_process_of_notMem fun entry htaken heq =>
          hkept ⟨entry, htaken, heq⟩
      exact hnone ⟨(key, service), mem_getExposedServices.mpr ⟨hexpose, held, hsame, hshow⟩, hnames⟩
    · intro entry htaken hexpose service hshow hnames
      exact hnone ⟨(entry.1, service), mem_getExposedServices.mpr
        ⟨hexpose, _, lookup_process_of_mem now htaken, hshow⟩, hnames⟩
  · rintro ⟨hover, hnothing⟩ ⟨⟨key, service⟩, hmem, hnames⟩
    obtain ⟨hexpose, held, hlookup, hshow⟩ := mem_getExposedServices.mp hmem
    rcases lookup_process hlookup with hold | htaken
    · -- an entry that was shown before has been overwritten
      obtain ⟨entry, htaken, rfl⟩ :=
        hover _ (mem_getExposedServices.mpr ⟨hexpose, held, hold, hshow⟩) hnames
      rw [lookup_process_of_mem now htaken] at hlookup
      cases hlookup
      exact hnothing entry htaken hexpose service hshow hnames
    · exact hnothing _ htaken hexpose service hshow hnames

/-- What another node sends to a node with the validator of the daemon shows nothing of `N`. -/
lemma third_nodes_quiet (hvalidator : gp.stateValidator = some newGossipStateValidator)
    (hne : sender ≠ N) (hid : sender ≠ List.Vector.replicate 32 0)
    (hnone : ¬ Shows validTime gp N) : Clears validTime gp payload sender N := by
  constructor
  · intro shown hmem hnames
    exact absurd ⟨shown, hmem, hnames⟩ hnone
  · intro entry htaken hexpose service hshow
    exact provider_ne_of_mem_takes hvalidator hne hid htaken hexpose hshow

/-! ## Runs -/

namespace Network

variable {s s' : Network} {a : NetworkAction}

/-- What a step is to `Q`: its state gains nothing but values of its own, or a packet arrives. -/
inductive PeerMove (Q : NodeID) (s : Network) : NetworkAction → Network → Prop
  | quiet {a : NetworkAction} {s' : Network}
      (hother : ∀ i stateMap now p, a = .deliver i stateMap now → s.flight[i]? = some p →
        p.receiver ≠ Q)
      (hvalidator : (s'.nodes Q).stateValidator = (s.nodes Q).stateValidator)
      (hstate : ∀ key held, (s'.state Q).lookup key = some held →
        (s.state Q).lookup key = some held ∨ localValue Q held.value = true)
      (hwithdrawn : s'.withdrawn = true → s.withdrawn = true) : PeerMove Q s a s'
  | received {i : ℕ} {stateMap : Table Text GossipValue} {now : ℤ} {s' : Network} (p : Packet)
      (hp : s.flight[i]? = some p) (hreceiver : p.receiver = Q)
      (hnode : s'.nodes Q = after (s.nodes Q) now (message stateMap) p.sender)
      (hwithdrawn : s'.withdrawn = (s.withdrawn || p.leave)) :
      PeerMove Q s (.deliver i stateMap now) s'

/-- A node whose state is replaced by one that gains only values of its own. -/
lemma peerMove_setState {n : NodeID} {state : GossipState GossipValue}
    (hnodes : s'.nodes = (s.setState n state).nodes)
    (hother : ∀ i stateMap now p, a = .deliver i stateMap now → s.flight[i]? = some p →
      p.receiver ≠ Q)
    (hstate : ∀ key held, state.lookup key = some held →
      (s.state n).lookup key = some held ∨ localValue n held.value = true)
    (hwithdrawn : s'.withdrawn = true → s.withdrawn = true) : PeerMove Q s a s' := by
  by_cases hn : Q = n
  · subst hn
    refine .quiet hother ?_ ?_ hwithdrawn
    · simp [hnodes, setState]
    · intro key held hlookup
      simp only [Network.state, hnodes, setState, update_self] at hlookup
      exact hstate key held hlookup
  · have hsame : s'.nodes Q = s.nodes Q := by
      rw [hnodes]
      exact update_of_ne hn ..
    refine .quiet hother (by rw [hsame]) ?_ hwithdrawn
    intro key held hlookup
    rw [Network.state, hsame] at hlookup
    exact .inl hlookup

/-- Every step is such a move. -/
lemma peerMove_next (h : next N Q s a = some s') : PeerMove Q s a s' := by
  cases a with
  | update n key value victim now =>
    simp only [next] at h
    split_ifs at h with hguard
    cases h
    refine peerMove_setState rfl (by rintro _ _ _ _ ⟨⟩) ?_ ?_
    · intro other held hlookup
      rcases GossipState.lookup_updateState hlookup with ⟨-, hvalue⟩ | hold
      · exact .inr (hvalue ▸ hguard.1)
      · exact .inl hold
    · intro hwithdrawn
      exact (Bool.and_eq_true_iff.mp hwithdrawn).1
  | send n m | drop i =>
    simp only [next] at h
    split_ifs at h
    cases h
    exact .quiet (by rintro _ _ _ _ ⟨⟩) rfl (fun _ _ => .inl) id
  | deliver i stateMap now =>
    simp only [next] at h
    cases hp : s.flight[i]? with
    | none =>
      rw [hp] at h
      cases h
    | some p =>
      rw [hp] at h
      simp only at h
      split_ifs at h
      cases h
      by_cases hreceiver : p.receiver = Q
      · refine .received p hp hreceiver ?_ (by simp [hreceiver])
        simp [after, hreceiver]
      · refine .quiet ?_ ?_ ?_ (by simp [hreceiver])
        · rintro _ _ _ p' ⟨⟩ hp'
          exact Option.some.inj (hp.symm.trans hp') ▸ hreceiver
        · simp [update_of_ne (Ne.symm hreceiver)]
        · intro key held hlookup
          left
          simpa [Network.state, update_of_ne (Ne.symm hreceiver)] using hlookup
  | clean n now =>
    cases h
    exact peerMove_setState rfl (by rintro _ _ _ _ ⟨⟩)
      (fun _ _ hlookup => .inl (GossipState.lookup_cleanStaleState hlookup)) id
  | removeLocal n =>
    cases h
    exact peerMove_setState rfl (by rintro _ _ _ _ ⟨⟩) (fun _ _ hlookup => by cases hlookup) id

/-- `Q` has the validator of the daemon, and only `N` sends packets of a leave. -/
structure Wired (N Q : NodeID) (s : Network) : Prop where
  validator : (s.nodes Q).stateValidator = some newGossipStateValidator
  leave : ∀ p ∈ s.flight, p.leave = true → p.sender = N

lemma leave_next (h : next N Q s a = some s')
    (hs : ∀ p ∈ s.flight, p.leave = true → p.sender = N) :
    ∀ p ∈ s'.flight, p.leave = true → p.sender = N := by
  cases a <;> simp only [next] at h
  case update n key value victim now =>
    split_ifs at h
    cases h
    intro p hmem hleave
    obtain ⟨old, hold, rfl⟩ := List.mem_map.mp hmem
    exact hs old hold (Bool.and_eq_true_iff.mp hleave).1
  case send n m =>
    split_ifs at h
    cases h
    intro p hmem hleave
    rcases List.mem_append.mp hmem with hold | hnew
    · exact hs p hold hleave
    · obtain rfl := List.mem_singleton.mp hnew
      exact of_decide_eq_true (Bool.and_eq_true_iff.mp hleave).1
  case deliver i stateMap now =>
    split at h
    · cases h
    · split_ifs at h
      cases h
      exact fun p hmem => hs p (List.mem_of_mem_eraseIdx hmem)
  case drop i =>
    split_ifs at h
    cases h
    exact fun p hmem => hs p (List.mem_of_mem_eraseIdx hmem)
  case clean n now | removeLocal n =>
    cases h
    exact hs

lemma wired_next (hs : Wired N Q s) (h : next N Q s a = some s') : Wired N Q s' := by
  refine ⟨?_, leave_next h hs.leave⟩
  cases peerMove_next h with
  | quiet hother hvalidator => exact hvalidator.trans hs.validator
  | received p hp hreceiver hnode =>
    rw [hnode, process_stateValidator]
    exact hs.validator

variable (validTime N Q)

/-- Once `Q` has processed the leave of `N`, it shows nothing of `N`. -/
def Gone (s : Network) : Prop := s.withdrawn = true → ¬ Shows validTime (s.nodes Q) N

/-- A packet that `Q` gets from `N`, with or after the leave, clears what `Q` shows of `N`. A sender
without an identity passes the validator with everything, and is held to the same. -/
def LeaveClears (s : Network) : NetworkAction → Prop
  | .deliver i stateMap _ =>
    ∀ p, s.flight[i]? = some p → p.receiver = Q →
      (p.sender = N ∨ p.sender = List.Vector.replicate 32 0) →
      (s.withdrawn = true ∨ p.leave = true) →
      Clears validTime (s.nodes Q) (message stateMap) p.sender N
  | _ => True

instance (s : Network) (a : NetworkAction) : Decidable (LeaveClears validTime N Q s a) :=
  match a with
  | .deliver i stateMap _ =>
    inferInstanceAs (Decidable (∀ p ∈ s.flight[i]?, p.receiver = Q →
      (p.sender = N ∨ p.sender = List.Vector.replicate 32 0) →
      (s.withdrawn = true ∨ p.leave = true) →
      Clears validTime (s.nodes Q) (message stateMap) p.sender N))
  | .update .. | .send .. | .drop .. | .clean .. | .removeLocal .. => isTrue trivial

variable {validTime N Q}

/-- What `Q` writes itself is not of another node. -/
lemma not_shows_of_quiet (hne : N ≠ Q)
    (hstate : ∀ key held, (s'.state Q).lookup key = some held →
      (s.state Q).lookup key = some held ∨ localValue Q held.value = true)
    (hnone : ¬ Shows validTime (s.nodes Q) N) : ¬ Shows validTime (s'.nodes Q) N := by
  rintro ⟨⟨key, service⟩, hmem, hnames⟩
  obtain ⟨hexpose, held, hlookup, hshow⟩ := mem_getExposedServices.mp hmem
  rcases hstate key held hlookup with hold | hlocal
  · exact hnone ⟨_, mem_getExposedServices.mpr ⟨hexpose, held, hold, hshow⟩, hnames⟩
  · cases hvalue : held.value with
    | nil | other json =>
      rw [hvalue] at hshow
      cases hshow
    | object members =>
      rw [hvalue] at hlocal
      cases hlocal
    | service entry =>
      rw [hvalue] at hshow hlocal
      obtain rfl : entry = service := Option.some.inj hshow
      exact hne (NodeID.string_injective (hnames.symm.trans (of_decide_eq_true hlocal)))

/-- One step keeps it exactly if the packet clears. -/
lemma gone_next_iff (hne : N ≠ Q) (hs : Wired N Q s) (hgone : Gone validTime N Q s)
    (h : next N Q s a = some s') : Gone validTime N Q s' ↔ LeaveClears validTime N Q s a := by
  cases peerMove_next h with
  | quiet hother hvalidator hstate hwithdrawn =>
    refine iff_of_true ?_ ?_
    · intro hafter
      exact not_shows_of_quiet hne hstate (hgone (hwithdrawn hafter))
    · cases a with
      | deliver i stateMap now =>
        intro p hp hreceiver
        exact absurd hreceiver (hother i stateMap now p rfl hp)
      | _ => trivial
  | @received i stateMap now _ p hp hreceiver hnode hwithdrawn =>
    have hafter : Gone validTime N Q s' ↔ (s.withdrawn = true ∨ p.leave = true →
        Clears validTime (s.nodes Q) (message stateMap) p.sender N) := by
      unfold Gone
      rw [hnode, not_shows_process_iff, hwithdrawn, Bool.or_eq_true_iff]
    rw [hafter]
    constructor
    · rintro hclears p' hp' - -
      obtain rfl : p = p' := Option.some.inj (hp.symm.trans hp')
      exact hclears
    · intro hclears hwhen
      by_cases hsender : p.sender = N ∨ p.sender = List.Vector.replicate 32 0
      · exact hclears p hp hreceiver hsender hwhen
      · obtain ⟨hN, hid⟩ := not_or.mp hsender
        rcases hwhen with hwithdrawn | hleave
        · exact third_nodes_quiet hs.validator hN hid (hgone hwithdrawn)
        · exact absurd (hs.leave p (List.mem_of_getElem? hp) hleave) hN

/-- **When a leave is a withdrawal.** -/
theorem withdrawn_iff (hne : N ≠ Q) (hs : Wired N Q s) (hgone : Gone validTime N Q s)
    {l : List (NetworkAction × Network)}
    (hpath : Path (fun s a s' => next N Q s a = some s') s l) :
    StatesMeet (Gone validTime N Q) s l ↔ StepsMeet (LeaveClears validTime N Q) s l := by
  refine Path.statesMeet_iff_stepsMeet (I := Wired N Q) ?_ ?_ hs hgone hpath
  · intro s a s' hwired hstep
    exact wired_next hwired hstep
  · intro s a s' hwired hbefore hstep
    exact gone_next_iff hne hwired hbefore hstep

/-- What `Q` gets comes from nodes other than `N`, with an identity. -/
def FromOthers (N Q : NodeID) (s : Network) : NetworkAction → Prop
  | .deliver i _ _ => ∀ p ∈ s.flight[i]?, p.receiver = Q →
      p.sender ≠ N ∧ p.sender ≠ List.Vector.replicate 32 0
  | _ => True

instance (s : Network) (a : NetworkAction) : Decidable (FromOthers N Q s a) :=
  match a with
  | .deliver i _ _ => inferInstanceAs (Decidable (∀ p ∈ s.flight[i]?, p.receiver = Q → _ ∧ _))
  | .update .. | .send .. | .drop .. | .clean .. | .removeLocal .. => isTrue trivial

/-- **Nobody else speaks for a node.** In every run in which no packet of `N` reaches `Q`, `Q` never
shows an entry of `N`, whatever the other nodes publish and pass on. -/
theorem shown_only_by_itself (hne : N ≠ Q) (hs : Wired N Q s)
    (hnone : ¬ Shows validTime (s.nodes Q) N) {l : List (NetworkAction × Network)}
    (hpath : Path (fun s a s' => next N Q s a = some s') s l)
    (hG : StepsMeet (FromOthers N Q) s l) :
    StatesMeet (fun s => ¬ Shows validTime (s.nodes Q) N) s l := by
  have hkept : StatesMeet (fun s => Wired N Q s ∧ ¬ Shows validTime (s.nodes Q) N) s l := by
    refine Path.invariant_of_steps ?_ ⟨hs, hnone⟩ hpath hG
    rintro s a s' ⟨hwired, hbefore⟩ hothers hstep
    refine ⟨wired_next hwired hstep, ?_⟩
    cases peerMove_next hstep with
    | quiet _ _ hstate _ => exact not_shows_of_quiet hne hstate hbefore
    | received p hp hreceiver hnode _ =>
      obtain ⟨hN, hid⟩ := hothers p hp hreceiver
      rw [hnode, not_shows_process_iff]
      exact third_nodes_quiet hwired.validator hN hid hbefore
  exact hkept.mono fun _ h => h.2

end Network

end Withdrawal

/-! ## A leave that is heard and changes nothing -/

namespace Network

/-- The provider has published its entry; the stranger has this node. -/
def publishedTo (q : GossipProtocol GossipValue) : Network where
  nodes := fun n =>
    if n = stranger then q
    else if n = provider then
      ⟨(∅ : GossipState GossipValue).insert providerKey ⟨.service (serviceOf provider), 0⟩, none,
        none⟩
    else ⟨∅, none, none⟩
  flight := []
  leaving := false
  withdrawn := false

lemma publishedTo_wired {q : GossipProtocol GossipValue}
    (hq : q.stateValidator = some newGossipStateValidator) :
    Wired provider stranger (publishedTo q) :=
  ⟨by simpa [publishedTo] using hq, nofun⟩

/-- The provider leaves, and the stranger gets its packet. -/
def leaveActions : List NetworkAction :=
  [.removeLocal provider, .send provider stranger, .deliver 0 ∅ 1]

/-- The provider removes its entry by name, and then it leaves. -/
def removeAndLeave : List NetworkAction :=
  [.update provider providerKey .nil providerKey 1, .send provider stranger,
    .deliver 0 ((∅ : Table Text GossipValue).insert providerKey .nil) 2] ++ leaveActions

theorem shown_only_by_itself_leave :
    let third : NodeID := List.Vector.replicate 32 3
    StatesMeet (fun s => ¬ Shows anyTime (s.nodes stranger) third) (publishedTo listener)
      (trace (next third stranger) (publishedTo listener) leaveActions) := by
  intro third
  refine shown_only_by_itself (by decide +kernel) ⟨rfl, by simp [publishedTo]⟩ ?_ (trace_path ..)
    (by decide +kernel)
  rintro ⟨entry, hmem, hnames⟩
  have hshown : (publishedTo listener).nodes stranger = listener := rfl
  rw [hshown, provider_shown, List.mem_singleton] at hmem
  subst hmem
  revert hnames
  decide +kernel

/-- An entry that the provider has removed by name is not shown after its leave. -/
theorem withdrawn_removed_before :
    (trace (next provider stranger) (publishedTo listener) removeAndLeave).length = 6 ∧
      StatesMeet (Gone anyTime provider stranger) (publishedTo listener)
        (trace (next provider stranger) (publishedTo listener) removeAndLeave) := by
  refine ⟨by decide +kernel, ?_⟩
  refine (withdrawn_iff (by decide +kernel) (publishedTo_wired rfl) ?_ (trace_path ..)).mpr ?_
  · rintro ⟨⟩
  · decide +kernel

/-- The stranger has the entry of the provider, processes the empty map, and shows the entry
still. -/
theorem left_but_shown :
    (trace (next provider stranger) (publishedTo listener) leaveActions).length = 3 ∧
      ¬ StatesMeet (Gone anyTime provider stranger) (publishedTo listener)
        (trace (next provider stranger) (publishedTo listener) leaveActions) := by
  refine ⟨by decide +kernel, fun hmeet => ?_⟩
  refine hmeet.endState (by decide +kernel) ⟨(providerKey, serviceOf provider), ?_, rfl⟩
  decide +kernel

end Network

end Moltbunker.Daemon
