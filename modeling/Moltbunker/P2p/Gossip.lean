import Moltbunker.Identity.NodeID
import Moltbunker.Lib.GoTime
import Moltbunker.Lib.Tally

/-!
# Gossip

`GossipProtocol` of `internal/p2p/gossip.go`. A node keeps a map of values with the times of their
last change, sends all of it to its peers, and merges what it receives from them key by key. A value
that is too large, or that the validator rejects, is skipped; a new key needs room in the map. The
values are of any type here, with their size as JSON text as a parameter.

A message is a map, so that the order in which its entries are merged is not fixed: it is the order
of the association list.

* `takenUp` — the entries of a message that are merged, told from the message, the known keys and
  the room that is left;
* `lookup_merge_of_mem`, `lookup_merge_of_notMem` — what the map holds after the merge.
-/

namespace Moltbunker.P2p

open Lib Identity

variable {V : Type}

/-- `maxStateEntries` -/
def maxStateEntries : ℕ := 10000

/-- `maxStateValueSize` -/
def maxStateValueSize : ℕ := 64 * 1024

/-- `stateEntry` -/
structure StateEntry (V : Type) where
  value : V
  lastUpdated : ℤ

/-- The map of a node. -/
abbrev GossipState (V : Type) := Table Text (StateEntry V)

/-- `StateValidator` -/
abbrev StateValidator (V : Type) := NodeID → Text → V → Bool

/-- `GossipProtocol`, without its peers. The stake verifier tells whether a peer is staked. -/
structure GossipProtocol (V : Type) where
  state : GossipState V
  stateValidator : Option (StateValidator V)
  stakeVerifier : Option (NodeID → Bool)

/-- `GossipMessage`, as it is decoded; the value may be something else than a map. -/
structure GossipMessage (V : Type) where
  type : Text
  value : Option (Table Text V)

/-- An entry of a message. -/
abbrev MessageEntry (V : Type) := Sigma fun _ : Text => V

/-! ## Merging -/

section Merge

variable (size : V → ℕ) (validator : Option (StateValidator V)) (senderID : NodeID)

/-- The value is not too large, and the validator, if there is one, accepts it. -/
def acceptsEntry (entry : MessageEntry V) : Bool :=
  decide (size entry.2 ≤ maxStateValueSize) &&
    match validator with
    | none => true
    | some validator => validator senderID entry.1 entry.2

/-- One entry of a message is merged. -/
def mergeEntry (now : ℤ) (state : GossipState V) (entry : MessageEntry V) : GossipState V :=
  if acceptsEntry size validator senderID entry then
    if (state.lookup entry.1).isSome ∨ tableSize state < maxStateEntries then
      state.insert entry.1 ⟨entry.2, now⟩
    else state
  else state

/-- The entries of a message are merged. -/
def merge (now : ℤ) (state : GossipState V) (entries : List (MessageEntry V)) : GossipState V :=
  entries.foldl (mergeEntry size validator senderID now) state

/-- The entries that are merged: those that are accepted and have known keys, and of those that are
accepted and new as many as there is room for. -/
def takenUp (known : Text → Bool) : ℕ → List (MessageEntry V) → List (MessageEntry V)
  | _, [] => []
  | room, entry :: rest =>
    if acceptsEntry size validator senderID entry then
      if known entry.1 then entry :: takenUp known room rest
      else
        match room with
        | 0 => takenUp known 0 rest
        | room + 1 => entry :: takenUp known room rest
    else takenUp known room rest

end Merge

namespace GossipState

variable (state : GossipState V)

/-- The key is in the map. -/
def known (key : Text) : Bool := (state.lookup key).isSome

/-- How many keys may be added. -/
def room : ℕ := maxStateEntries - tableSize state

/-- `CleanStaleState` -/
def cleanStaleState (now : ℤ) (maxAge : Duration) : GossipState V where
  entries := state.entries.filter fun entry => ¬ entry.2.lastUpdated < Time.add now (-maxAge)
  nodupKeys := state.nodupKeys.sublist List.filter_sublist

/-- The key is one of the oldest, one of which is evicted when the map is full. -/
def oldest (key : Text) : Bool :=
  match state.lookup key with
  | none => false
  | some entry => state.entries.all fun other => entry.lastUpdated ≤ other.2.lastUpdated

/-- `UpdateState`, for the entry that is evicted if there must be one. -/
def updateState (now : ℤ) (victim key : Text) (value : V) : GossipState V :=
  if (state.lookup key).isSome then state.insert key ⟨value, now⟩
  else if maxStateEntries ≤ tableSize state then (state.erase victim).insert key ⟨value, now⟩
  else state.insert key ⟨value, now⟩

/-- The copy that `sendGossip` makes, for what a value becomes on the way. -/
def snapshot (wire : V → V) : Table Text V where
  entries := state.entries.map fun entry => ⟨entry.1, wire entry.2.value⟩
  nodupKeys := by
    have hkeys : List.keys (state.entries.map fun entry =>
        (⟨entry.1, wire entry.2.value⟩ : MessageEntry V)) = state.entries.keys := by
      simp [List.keys, Function.comp_def]
    rw [List.NodupKeys, hkeys]
    exact state.nodupKeys

/-- `GetStateByPrefix` -/
def getStateByPrefix (start : Text) : List (Text × V) :=
  (state.entries.filter fun entry => start <+: entry.1).map fun entry => (entry.1, entry.2.value)

variable {state : GossipState V} {now : ℤ} {key other : Text} {held : StateEntry V}

/-- After an update a key has the new value, or what it had. -/
lemma lookup_updateState {victim : Text} {value : V}
    (h : (state.updateState now victim key value).lookup other = some held) :
    other = key ∧ held.value = value ∨ state.lookup other = some held := by
  by_cases hkey : other = key
  · subst hkey
    have hnew : (state.updateState now victim other value).lookup other = some ⟨value, now⟩ := by
      unfold updateState
      split_ifs
      all_goals exact AList.lookup_insert _
    rw [hnew] at h
    cases h
    exact .inl ⟨rfl, rfl⟩
  · right
    unfold updateState at h
    split_ifs at h
    · rwa [AList.lookup_insert_ne hkey] at h
    · rw [AList.lookup_insert_ne hkey] at h
      -- the entry is not the one that is evicted
      have hvictim : other ≠ victim := by
        rintro rfl
        rw [AList.lookup_erase] at h
        cases h
      rwa [AList.lookup_erase_ne hvictim] at h
    · rwa [AList.lookup_insert_ne hkey] at h

lemma lookup_cleanStaleState {maxAge : Duration}
    (h : (state.cleanStaleState now maxAge).lookup key = some held) :
    state.lookup key = some held := by
  have hmem := AList.mem_lookup_iff.mp h
  exact AList.mem_lookup_iff.mpr (List.mem_filter.mp hmem).1

end GossipState

/-- `HandleGossipMessage`, for a message that is decoded or fails to be. -/
def GossipProtocol.handleGossipMessage (gp : GossipProtocol V) (size : V → ℕ) (now : ℤ)
    (payload : Except Text (GossipMessage V)) (sender : Option NodeID) :
    Except Text (GossipProtocol V) :=
  match sender, gp.stakeVerifier with
  | some id, some isStaked =>
    if isStaked id then handle id
    else .error (text "rejecting gossip from unstaked peer: " ++ id.string.take 16)
  | some id, none => handle id
  | none, _ => handle (List.Vector.replicate 32 0)
where
  /-- The message of a sender that is staked, or need not be. -/
  handle (senderID : NodeID) : Except Text (GossipProtocol V) :=
    match payload with
    | .error err => .error (text "failed to unmarshal gossip message: " ++ err)
    | .ok message =>
      match message.value with
      | none => .ok gp
      | some stateMap =>
        if message.type = text "state_update" then
          .ok { gp with
            state := merge size gp.stateValidator senderID now gp.state stateMap.entries }
        else .ok gp

namespace GossipProtocol

/-- The node after a message; one that it refuses changes nothing. -/
def process (gp : GossipProtocol V) (size : V → ℕ) (now : ℤ)
    (payload : Except Text (GossipMessage V)) (sender : NodeID) : GossipProtocol V :=
  match gp.handleGossipMessage size now payload (some sender) with
  | .ok gp' => gp'
  | .error _ => gp

/-- The sender is staked, or need not be. -/
def trusts (gp : GossipProtocol V) (sender : NodeID) : Bool :=
  match gp.stakeVerifier with
  | none => true
  | some isStaked => isStaked sender

/-- The entries of a message that the node merges. -/
def takes (gp : GossipProtocol V) (size : V → ℕ) (payload : Except Text (GossipMessage V))
    (sender : NodeID) : List (MessageEntry V) :=
  match payload with
  | .error _ => []
  | .ok message =>
    match message.value with
    | none => []
    | some stateMap =>
      if gp.trusts sender ∧ message.type = text "state_update" then
        takenUp size gp.stateValidator sender gp.state.known gp.state.room stateMap.entries
      else []

end GossipProtocol

/-! ## What is merged -/

section Merge

variable {size : V → ℕ} {validator : Option (StateValidator V)} {senderID : NodeID} {now : ℤ}
  {state : GossipState V} {entries : List (MessageEntry V)} {entry : MessageEntry V} {key : Text}

lemma mem_of_mem_takenUp {known : Text → Bool} {room : ℕ}
    (h : entry ∈ takenUp size validator senderID known room entries) :
    entry ∈ entries ∧ acceptsEntry size validator senderID entry = true := by
  induction entries generalizing room with
  | nil => cases h
  | cons head rest ih =>
    unfold takenUp at h
    split at h
    · next haccept =>
      split at h
      · rcases List.mem_cons.mp h with rfl | hrest
        · exact ⟨List.mem_cons_self, haccept⟩
        · exact ⟨List.mem_cons_of_mem _ (ih hrest).1, (ih hrest).2⟩
      · split at h
        · exact ⟨List.mem_cons_of_mem _ (ih h).1, (ih h).2⟩
        · rcases List.mem_cons.mp h with rfl | hrest
          · exact ⟨List.mem_cons_self, haccept⟩
          · exact ⟨List.mem_cons_of_mem _ (ih hrest).1, (ih hrest).2⟩
    · exact ⟨List.mem_cons_of_mem _ (ih h).1, (ih h).2⟩

/-- Which keys are known matters only for the keys of the message. -/
lemma takenUp_congr {known known' : Text → Bool} {room : ℕ}
    (h : ∀ entry ∈ entries, known' entry.1 = known entry.1) :
    takenUp size validator senderID known' room entries =
      takenUp size validator senderID known room entries := by
  induction entries generalizing room with
  | nil => rfl
  | cons head rest ih =>
    have hrest : ∀ entry ∈ rest, known' entry.1 = known entry.1 :=
      fun entry hmem => h entry (List.mem_cons_of_mem _ hmem)
    cases room <;> simp only [takenUp, h head List.mem_cons_self, ih hrest]

variable (size validator senderID now state) in
/-- The first entry is passed over, or it is merged and the others see the map with it. -/
lemma takenUp_cons {rest : List (MessageEntry V)} (hkey : entry.1 ∉ rest.keys) :
    mergeEntry size validator senderID now state entry = state ∧
        takenUp size validator senderID state.known state.room (entry :: rest) =
          takenUp size validator senderID state.known state.room rest ∨
      mergeEntry size validator senderID now state entry =
          state.insert entry.1 ⟨entry.2, now⟩ ∧
        takenUp size validator senderID state.known state.room (entry :: rest) =
          entry :: takenUp size validator senderID
            (GossipState.known (state.insert entry.1 ⟨entry.2, now⟩))
            (GossipState.room (state.insert entry.1 ⟨entry.2, now⟩)) rest := by
  -- the keys of the others are known after the merge if they were before
  have hknown : ∀ other ∈ rest,
      GossipState.known (state.insert entry.1 ⟨entry.2, now⟩) other.1 =
        state.known other.1 := by
    intro other hother
    have hne : other.1 ≠ entry.1 := by
      rintro heq
      exact hkey (heq ▸ List.mem_keys_of_mem hother)
    simp only [GossipState.known, AList.lookup_insert_ne hne]
  rw [takenUp_congr hknown]
  by_cases haccept : acceptsEntry size validator senderID entry = true
  · cases hlookup : state.lookup entry.1 with
    | some old =>
      refine .inr ⟨by simp [mergeEntry, haccept, hlookup], ?_⟩
      have hroom : GossipState.room (state.insert entry.1 ⟨entry.2, now⟩) = state.room := by
        simp only [GossipState.room, tableSize_replace hlookup]
      rw [hroom]
      simp [takenUp, haccept, GossipState.known, hlookup]
    | none =>
      cases hfree : state.room with
      | zero =>
        have hfull : ¬ tableSize state < maxStateEntries := by
          simp only [GossipState.room] at hfree
          omega
        refine .inl ⟨by simp [mergeEntry, hlookup, hfull], ?_⟩
        simp [takenUp, haccept, GossipState.known, hlookup]
      | succ left =>
        have hfull : tableSize state < maxStateEntries := by
          simp only [GossipState.room] at hfree
          omega
        have hroom : GossipState.room (state.insert entry.1 ⟨entry.2, now⟩) = left := by
          simp only [GossipState.room, tableSize_insert hlookup] at hfree ⊢
          omega
        refine .inr ⟨by simp [mergeEntry, haccept, hfull], ?_⟩
        rw [hroom]
        simp [takenUp, haccept, GossipState.known, hlookup]
  · exact .inl ⟨by simp [mergeEntry, haccept], by simp [takenUp, haccept]⟩

/-- A key that the merge does not take up keeps its entry. -/
lemma lookup_merge_of_notMem (hnodup : entries.NodupKeys)
    (h : ∀ entry ∈ takenUp size validator senderID state.known state.room entries,
      entry.1 ≠ key) :
    (merge size validator senderID now state entries).lookup key = state.lookup key := by
  induction entries generalizing state with
  | nil => rfl
  | cons head rest ih =>
    obtain ⟨hkey, hrest⟩ := List.nodupKeys_cons.mp hnodup
    show (merge size validator senderID now
      (mergeEntry size validator senderID now state head) rest).lookup key = _
    obtain ⟨hstep, htaken⟩ | ⟨hstep, htaken⟩ :=
      takenUp_cons size validator senderID now state hkey
    · rw [hstep]
      exact ih hrest (htaken ▸ h)
    · rw [htaken] at h
      rw [hstep, ih hrest fun entry hmem => h entry (List.mem_cons_of_mem _ hmem)]
      exact AList.lookup_insert_ne (h head List.mem_cons_self).symm

/-- What the merge takes up is there after it. -/
lemma lookup_merge_of_mem (hnodup : entries.NodupKeys)
    (h : entry ∈ takenUp size validator senderID state.known state.room entries) :
    (merge size validator senderID now state entries).lookup entry.1 =
      some ⟨entry.2, now⟩ := by
  induction entries generalizing state with
  | nil => cases h
  | cons head rest ih =>
    obtain ⟨hkey, hrest⟩ := List.nodupKeys_cons.mp hnodup
    show (merge size validator senderID now
      (mergeEntry size validator senderID now state head) rest).lookup entry.1 = _
    obtain ⟨hstep, htaken⟩ | ⟨hstep, htaken⟩ :=
      takenUp_cons size validator senderID now state hkey
    · rw [hstep]
      exact ih hrest (htaken ▸ h)
    · rw [htaken] at h
      rw [hstep]
      rcases List.mem_cons.mp h with rfl | hmem
      · -- no other entry of the message has the key of the first
        rw [lookup_merge_of_notMem hrest, AList.lookup_insert]
        rintro other hother heq
        exact hkey (heq ▸ List.mem_keys_of_mem (mem_of_mem_takenUp hother).1)
      · exact ih hrest hmem

end Merge

/-! ## Messages -/

namespace GossipProtocol

variable {gp : GossipProtocol V} {size : V → ℕ} {now : ℤ}
  {payload : Except Text (GossipMessage V)} {sender : NodeID} {key : Text}
  {entry : MessageEntry V}

variable (gp size now payload sender) in
/-- A message changes nothing and nothing of it is taken, or its map is merged. -/
lemma process_cases :
    gp.process size now payload sender = gp ∧ gp.takes size payload sender = [] ∨
      ∃ stateMap : Table Text V,
        gp.process size now payload sender =
            { gp with
              state := merge size gp.stateValidator sender now gp.state stateMap.entries } ∧
          gp.takes size payload sender =
            takenUp size gp.stateValidator sender gp.state.known gp.state.room
              stateMap.entries := by
  by_cases htrusts : gp.trusts sender = true
  · have hprocess : gp.process size now payload sender =
        match handleGossipMessage.handle gp size now payload sender with
        | .ok gp' => gp'
        | .error _ => gp := by
      unfold trusts at htrusts
      unfold process handleGossipMessage
      cases hverifier : gp.stakeVerifier with
      | none => rfl
      | some isStaked =>
        rw [hverifier] at htrusts
        simp only [htrusts, if_true]
    rw [hprocess]
    cases payload with
    | error err => exact .inl ⟨rfl, rfl⟩
    | ok message =>
      obtain ⟨type, value⟩ := message
      cases value with
      | none => exact .inl ⟨rfl, rfl⟩
      | some stateMap =>
        by_cases htype : type = text "state_update"
        · refine .inr ⟨stateMap, ?_, ?_⟩
          · simp [handleGossipMessage.handle, htype]
          · simp [takes, htrusts, htype]
        · refine .inl ⟨?_, ?_⟩
          · simp [handleGossipMessage.handle, htype]
          · simp [takes, htype]
  · refine .inl ⟨?_, ?_⟩
    · unfold trusts at htrusts
      unfold process handleGossipMessage
      cases hverifier : gp.stakeVerifier with
      | none => exact absurd (by rw [hverifier]) htrusts
      | some isStaked =>
        rw [hverifier] at htrusts
        simp only at htrusts
        simp only [htrusts, if_false, Bool.false_eq_true]
    · unfold takes
      split
      · rfl
      · split
        · rfl
        · simp [htrusts]

@[simp] lemma process_stateValidator :
    (gp.process size now payload sender).stateValidator = gp.stateValidator := by
  obtain ⟨hprocess, -⟩ | ⟨stateMap, hprocess, -⟩ := process_cases gp size now payload sender
  all_goals rw [hprocess]

/-- What is taken has passed the validator. -/
lemma validated_of_mem_takes {validator : StateValidator V}
    (hvalidator : gp.stateValidator = some validator)
    (h : entry ∈ gp.takes size payload sender) : validator sender entry.1 entry.2 = true := by
  -- the time of the message does not matter to what is taken
  obtain ⟨-, htakes⟩ | ⟨stateMap, -, htakes⟩ := process_cases gp size 0 payload sender
  · rw [htakes] at h
    cases h
  · rw [htakes] at h
    have haccept := (mem_of_mem_takenUp h).2
    rw [hvalidator] at haccept
    exact (Bool.and_eq_true_iff.mp haccept).2

variable (now) in
lemma lookup_process_of_mem (h : entry ∈ gp.takes size payload sender) :
    (gp.process size now payload sender).state.lookup entry.1 = some ⟨entry.2, now⟩ := by
  obtain ⟨-, htakes⟩ | ⟨stateMap, hprocess, htakes⟩ := process_cases gp size now payload sender
  · rw [htakes] at h
    cases h
  · rw [htakes] at h
    rw [hprocess]
    exact lookup_merge_of_mem stateMap.nodupKeys h

lemma lookup_process_of_notMem (h : ∀ entry ∈ gp.takes size payload sender, entry.1 ≠ key) :
    (gp.process size now payload sender).state.lookup key = gp.state.lookup key := by
  obtain ⟨hprocess, -⟩ | ⟨stateMap, hprocess, htakes⟩ :=
    process_cases gp size now payload sender
  · rw [hprocess]
  · rw [htakes] at h
    rw [hprocess]
    exact lookup_merge_of_notMem stateMap.nodupKeys h

/-- What is under a key after a message was there before it, or is of the message. -/
lemma lookup_process {held : StateEntry V}
    (h : (gp.process size now payload sender).state.lookup key = some held) :
    gp.state.lookup key = some held ∨
      (⟨key, held.value⟩ : MessageEntry V) ∈ gp.takes size payload sender := by
  by_cases htaken : ∃ entry ∈ gp.takes size payload sender, entry.1 = key
  · obtain ⟨entry, hmem, rfl⟩ := htaken
    rw [lookup_process_of_mem now hmem] at h
    cases h
    exact .inr hmem
  · left
    rw [← h]
    exact (lookup_process_of_notMem fun entry hmem heq => htaken ⟨entry, hmem, heq⟩).symm

end GossipProtocol

end Moltbunker.P2p
