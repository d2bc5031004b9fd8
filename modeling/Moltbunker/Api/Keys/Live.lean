import Moltbunker.Api.Keys.Model
import Moltbunker.Lib.Path

/-!
# Which keys pass

Over any run of calls on a manager, one at a time, with restarts that load its file. Beside the
manager a run keeps what the calls have asked for: a ledger of the keys that were issued and are not
deleted, each with its text, its end and whether it is enabled. A key should pass exactly if it is
in the ledger, enabled and not past its end (`Live`).

The manager finds a key through its first eleven characters, of which eight are random. `store`
writes over the entry of another key with the same eight, and `DeleteKey` removes the entry whoever
it leads to. `Apart` asks of each call what the manager does not check: that a new key has an
identifier and a beginning of its own, that a restart finds the keys in the file, and that no call
waits for its own lock.

* `WellIndexed` — the maps and the records are in step;
* `Simulates` — the manager has the records of the ledger, and finds them;
* `validateKey_iff` — then it lets exactly the live keys pass;
* `live_of_apart` — every run that meets the condition.
-/

namespace Moltbunker.Api

open Lib Text

/-! ## The index -/

namespace APIKeyManager

variable {m : APIKeyManager} {id : Text} {ref : ℕ} {key : APIKey}

/-- Every record is under its identifier, and the entries of the index are those of the records. -/
structure WellIndexed (m : APIKeyManager) : Prop where
  addressed : m.Addressed
  /-- a record is found through the beginning of its key -/
  indexed : ∀ id key, m.keyAt id = some key → m.prefixes.lookup key.keyPrefix = some id
  /-- an entry leads to a record with this beginning -/
  points : ∀ start id, m.prefixes.lookup start = some id →
    ∃ key, m.keyAt id = some key ∧ key.keyPrefix = start

lemma wellIndexed_empty {filePath : Text} : WellIndexed ⟨[], ∅, ∅, filePath⟩ where
  addressed := addressed_empty filePath
  indexed id key h := by
    cases h
  points start id h := by
    cases h

/-- A record is stored under its own identifier. -/
lemma WellIndexed.id_of_keyAt (h : m.WellIndexed) (hkey : m.keyAt id = some key) :
    key.id = id := by
  obtain ⟨ref, hid, hrecord⟩ := keyAt_eq_some_iff.mp hkey
  obtain ⟨key', hrecord', heq⟩ := h.addressed id ref hid
  rw [hrecord] at hrecord'
  cases hrecord'
  exact heq

lemma lookup_prefixes_store (start : Text) : (m.store key).prefixes.lookup start =
    if start = key.keyPrefix then some key.id else m.prefixes.lookup start :=
  lookup_insert_eq

section WellIndexed

variable (h : m.WellIndexed)
include h

/-- A new record with an identifier and a beginning of its own. -/
lemma WellIndexed.store (hid : m.keys.lookup key.id = none)
    (hstart : m.prefixes.lookup key.keyPrefix = none) : (m.store key).WellIndexed where
  addressed := h.addressed.store key
  indexed id key' hkey' := by
    rw [keyAt_store h.addressed] at hkey'
    rw [lookup_prefixes_store]
    split at hkey'
    · next heq =>
      cases hkey'
      rw [if_pos rfl, heq]
    · have hindexed := h.indexed id key' hkey'
      have hne : key'.keyPrefix ≠ key.keyPrefix := by
        intro heq
        rw [heq, hstart] at hindexed
        cases hindexed
      rw [if_neg hne, hindexed]
  points start id hpoint := by
    rw [lookup_prefixes_store] at hpoint
    rw [keyAt_store h.addressed]
    split at hpoint
    · next hs =>
      cases hpoint
      exact ⟨key, if_pos rfl, hs.symm⟩
    · obtain ⟨key', hkey', hstart'⟩ := h.points start id hpoint
      have hne : id ≠ key.id := by
        rintro rfl
        rw [keyAt_of_lookup_none hid] at hkey'
        cases hkey'
      exact ⟨key', by rw [if_neg hne, hkey'], hstart'⟩

/-- A record is written to, and keeps its identifier and its beginning. -/
lemma WellIndexed.modify (hid : m.keys.lookup id = some ref)
    {f : APIKey → APIKey} (hf : ∀ key, (f key).id = key.id ∧ (f key).keyPrefix = key.keyPrefix) :
    (m.modify ref f).WellIndexed where
  addressed := h.addressed.modify ref fun key => (hf key).1
  indexed id' key hkey := by
    rw [keyAt_modify h.addressed hid] at hkey
    split at hkey
    · obtain ⟨key', hkey', rfl⟩ := Option.map_eq_some_iff.mp hkey
      rw [(hf key').2]
      exact h.indexed id' key' hkey'
    · exact h.indexed id' key hkey
  points start id' hpoint := by
    obtain ⟨key, hkey, rfl⟩ := h.points start id' hpoint
    rw [keyAt_modify h.addressed hid, hkey]
    split
    · exact ⟨f key, rfl, (hf key).2⟩
    · exact ⟨key, rfl, rfl⟩

/-- A record is deleted with its entry. No other record has the same beginning. -/
lemma WellIndexed.remove (hkey : m.keyAt id = some key) :
    (m.remove id key).WellIndexed where
  addressed := h.addressed.remove id
  indexed id' key' hkey' := by
    rw [keyAt_remove] at hkey'
    split at hkey'
    · cases hkey'
    · next hne =>
      have hindexed := h.indexed id' key' hkey'
      have hstart : key'.keyPrefix ≠ key.keyPrefix := by
        intro heq
        rw [heq, h.indexed id key hkey] at hindexed
        cases hindexed
        exact hne rfl
      exact (AList.lookup_erase_ne hstart).trans hindexed
  points start id' hpoint := by
    have herase : (m.remove id key).prefixes.lookup start = _ :=
      lookup_erase_eq
    rw [herase] at hpoint
    split at hpoint
    · cases hpoint
    next hstart =>
    obtain ⟨key', hkey', hstart'⟩ := h.points start id' hpoint
    have hne : id' ≠ id := by
      rintro rfl
      rw [hkey] at hkey'
      cases hkey'
      exact hstart hstart'.symm
    exact ⟨key', by rw [keyAt_remove, if_neg hne, hkey'], hstart'⟩

lemma WellIndexed.edit (hid : m.keys.lookup id = some ref) {e : Edit} :
    (m.edit id ref e).WellIndexed := by
  cases e with
  | revoke | permissions perms | update name rateLimit enabled =>
    exact h.modify hid fun key => ⟨rfl, rfl⟩
  | delete =>
    obtain ⟨key, hkey, -⟩ := h.addressed id ref hid
    unfold APIKeyManager.edit
    rw [hkey]
    exact h.remove ((keyAt_of_lookup hid).trans hkey)

lemma WellIndexed.touch (now : ℤ) (id : Text) : (m.touch now id).WellIndexed := by
  unfold APIKeyManager.touch
  split
  · exact h
  · next ref hid => exact h.modify hid fun key => ⟨rfl, rfl⟩

/-! ### Loading -/

/-- Records with identifiers and beginnings of their own are stored one after the other. -/
lemma WellIndexed.foldl_store {keys : List APIKey}
    (hids : (keys.map APIKey.id).Nodup) (hstarts : (keys.map APIKey.keyPrefix).Nodup)
    (hfreshId : ∀ key ∈ keys, m.keys.lookup key.id = none)
    (hfreshStart : ∀ key ∈ keys, m.prefixes.lookup key.keyPrefix = none) :
    (keys.foldl APIKeyManager.store m).WellIndexed ∧
      ∀ id key, (keys.foldl APIKeyManager.store m).keyAt id = some key ↔
        m.keyAt id = some key ∨ key ∈ keys ∧ key.id = id := by
  induction keys generalizing m with
  | nil =>
    refine ⟨h, fun id key => ?_⟩
    simp
  | cons first keys ih =>
    rw [List.map_cons, List.nodup_cons] at hids hstarts
    have hid := hfreshId first List.mem_cons_self
    have hstored := h.store hid (hfreshStart first List.mem_cons_self)
    have hnextId : ∀ key ∈ keys, (m.store first).keys.lookup key.id = none := by
      intro key hkey
      have hne : key.id ≠ first.id := fun heq => hids.1 (heq ▸ List.mem_map_of_mem hkey)
      rw [lookup_store, if_neg hne]
      exact hfreshId key (List.mem_cons_of_mem first hkey)
    have hnextStart : ∀ key ∈ keys, (m.store first).prefixes.lookup key.keyPrefix = none := by
      intro key hkey
      have hne : key.keyPrefix ≠ first.keyPrefix :=
        fun heq => hstarts.1 (heq ▸ List.mem_map_of_mem hkey)
      rw [lookup_prefixes_store, if_neg hne]
      exact hfreshStart key (List.mem_cons_of_mem first hkey)
    obtain ⟨hwell, hiff⟩ := ih hstored hids.2 hstarts.2 hnextId hnextStart
    refine ⟨hwell, fun id key => ?_⟩
    rw [List.foldl_cons, hiff, keyAt_store h.addressed, List.mem_cons]
    by_cases heq : id = first.id
    · subst heq
      rw [if_pos rfl, keyAt_of_lookup_none hid]
      grind
    · rw [if_neg heq]
      grind

end WellIndexed

end APIKeyManager

/-! ## The ledger -/

/-- A key that was issued. -/
structure Issued where
  id : Text
  plain : Text
  expiresAt : Option ℤ
  enabled : Bool
  deriving DecidableEq

/-- What a call of `CreateKey` issues. -/
def issue (zone : Location) (now : ℤ) (draw : Draw) (expiresInDays : ℤ) : Option Issued := do
  let keyBytes ← draw.keyBytes
  let _ ← draw.salt
  let idBytes ← draw.idBytes
  return ⟨hexEncode idBytes.toList, plainKey keyBytes,
    if 0 < expiresInDays then some (zone.addDate now expiresInDays) else none, true⟩

/-- What a call asks for a key that was issued; `none` if it is to be deleted. -/
def Issued.edit (i : Issued) : Edit → Option Issued
  | .revoke => some { i with enabled := false }
  | .delete => none
  | .permissions _ => some i
  | .update _ _ enabled => some { i with enabled := enabled.getD i.enabled }

/-- **The keys that should pass.** -/
def Live (ledger : List Issued) (now : ℤ) (key : Text) : Prop :=
  ∃ i ∈ ledger, i.plain = key ∧ i.enabled = true ∧ ∀ expiresAt ∈ i.expiresAt, now ≤ expiresAt

/-! ## Runs -/

namespace Keys

/-- A call on the manager, or a restart. -/
inductive Action where
  | createKey (draw : Draw) (name : Text) (permissions : List Text) (expiresInDays : ℤ)
      (env : SaveEnv)
  /-- the goroutine of an earlier `ValidateKey` or `ValidateKeyWithPermission` -/
  | touchKey (id : Text) (env : SaveEnv)
  /-- `RevokeKey`, `DeleteKey`, `UpdateKey` or `UpdateKeyPermissions` -/
  | change (id : Text) (e : Edit)
  /-- the process starts again, with the file that is there -/
  | reload

/-- The manager and its file. The process is blocked once a call waits for its own lock: no call
that asks for the lock returns any more. -/
structure Process where
  store : KeyStore
  blocked : Bool

/-- `ValidateKey`; `none` if it does not return. -/
def Process.validateKey (p : Process) (bcrypt : Bcrypt) (now : ℤ) (key : Text) : Option Bool :=
  if key.length < 11 then some false
  else if p.blocked then none
  else some (p.store.manager.validateKey bcrypt now key)

/-- The process after a call; there is none if it does not start. -/
def Process.next (bcrypt : Bcrypt) (zone : Location) (p : Process) (now : ℤ) :
    Action → Option Process
  | .createKey draw name permissions expiresInDays env =>
    if p.blocked then some p
    else some { p with
      store := (p.store.createKey bcrypt zone now draw name permissions expiresInDays env).1 }
  | .touchKey id env =>
    if p.blocked then some p else some { p with store := p.store.touchKey zone now id env }
  | .change id e =>
    if p.blocked then some p
    else match p.store.change id e with
      | some (store, _) => some { p with store := store }
      | none => some { p with blocked := true }
  | .reload =>
    match newAPIKeyManager p.store.manager.filePath p.store.file with
    | .ok m => some ⟨⟨m, p.store.file⟩, false⟩
    | .error _ => none

/-- The ledger after a call. -/
def nextLedger (zone : Location) (now : ℤ) (ledger : List Issued) : Action → List Issued
  | .createKey draw _ _ expiresInDays _ => (issue zone now draw expiresInDays).toList ++ ledger
  | .touchKey _ _ => ledger
  | .change id e => ledger.filterMap fun i => if i.id = id then i.edit e else some i
  | .reload => ledger

/-- The process and the ledger. -/
structure Run where
  process : Process
  ledger : List Issued

/-- One call, at a time. -/
def Run.next (bcrypt : Bcrypt) (zone : Location) (r : Run) (a : ℤ × Action) : Option Run :=
  (r.process.next bcrypt zone a.1 a.2).map fun p => ⟨p, nextLedger zone a.1 r.ledger a.2⟩

/-- One step of a run. -/
def Run.Step (bcrypt : Bcrypt) (zone : Location) (r : Run) (a : ℤ × Action) (r' : Run) : Prop :=
  r.next bcrypt zone a = some r'

/-- A new manager, whose file is not there yet. -/
def newRun (filePath : Text) : Run := ⟨⟨⟨⟨[], ∅, ∅, filePath⟩, .absent⟩, false⟩, []⟩

/-- **Exactly the live keys pass**, now and whenever they are asked for. -/
def Run.Exact (bcrypt : Bcrypt) (r : Run) : Prop :=
  ∀ now key, r.process.validateKey bcrypt now key = some true ↔ Live r.ledger now key

/-! ### The condition -/

/-- What `ValidateKey` reads of a record. -/
def credential (key : APIKey) : Text × Text × Text × Option ℤ × Bool :=
  (key.id, key.keyHash, key.keyPrefix, key.expiresAt, key.enabled)

/-- `ListKeys` -/
def listKeys (m : APIKeyManager) : List APIKey := m.keys.keys.filterMap m.keyAt

/-- What a restart reads. -/
def stored (s : KeyStore) : List APIKey :=
  if s.manager.filePath = [] then []
  else match s.file with
    | .holds keys => keys
    | _ => []

/-- The file holds the records of the manager, up to what `ValidateKey` does not read. -/
def Saved (s : KeyStore) : Prop :=
  ((stored s).map credential).Perm ((listKeys s.manager).map credential)

/-- The identifier and the beginning of a new key are not those of another. -/
def Fresh (m : APIKeyManager) (draw : Draw) : Prop :=
  ∀ keyBytes, draw.keyBytes = some keyBytes → ∀ idBytes, draw.idBytes = some idBytes →
    m.keys.lookup (hexEncode idBytes.toList) = none ∧
      m.prefixes.lookup ((plainKey keyBytes).take 11) = none

/-- What the manager does not check. -/
def Apart (r : Run) (a : ℤ × Action) : Prop :=
  match a.2 with
  | .createKey draw _ _ _ _ => Fresh r.process.store.manager draw
  | .touchKey _ _ => True
  | .change id _ => r.process.store.manager.filePath = [] ∨
      r.process.store.manager.keys.lookup id = none
  | .reload => Saved r.process.store

instance (ledger : List Issued) (now : ℤ) (key : Text) : Decidable (Live ledger now key) :=
  inferInstanceAs (Decidable (∃ i ∈ ledger, _))

instance (s : KeyStore) : Decidable (Saved s) := inferInstanceAs (Decidable (List.Perm _ _))

instance (m : APIKeyManager) : (draw : Draw) → Decidable (Fresh m draw)
  | ⟨none, _, _⟩ => .isTrue fun _ h => (Option.some_ne_none _ h.symm).elim
  | ⟨some _, _, none⟩ => .isTrue fun _ _ _ h => (Option.some_ne_none _ h.symm).elim
  | ⟨some keyBytes, _, some idBytes⟩ =>
    decidable_of_iff (m.keys.lookup (hexEncode idBytes.toList) = none ∧
      m.prefixes.lookup ((plainKey keyBytes).take 11) = none)
      ⟨fun h _ hkey _ hid => Option.some.inj hkey ▸ Option.some.inj hid ▸ h,
        fun h => h keyBytes rfl idBytes rfl⟩

instance (r : Run) (a : ℤ × Action) : Decidable (Apart r a) :=
  match a with
  | (_, .createKey draw _ _ _ _) => inferInstanceAs (Decidable (Fresh _ draw))
  | (_, .touchKey _ _) => .isTrue trivial
  | (_, .change _ _) => inferInstanceAs (Decidable (_ ∨ _))
  | (_, .reload) => inferInstanceAs (Decidable (Saved _))

/-! ## The manager has the records of the ledger -/

/-- The record of a key that was issued. -/
structure Matches (bcrypt : Bcrypt) (i : Issued) (key : APIKey) : Prop where
  id : key.id = i.id
  plain : ∃ keyBytes, i.plain = plainKey keyBytes
  keyHash : ∃ salt, key.keyHash = bcrypt.generateFromPassword salt i.plain
  keyPrefix : key.keyPrefix = i.plain.take 11
  expiresAt : key.expiresAt = i.expiresAt
  enabled : key.enabled = i.enabled

/-- The manager is in step, and its records are those of the ledger. -/
structure Simulates (bcrypt : Bcrypt) (ledger : List Issued) (m : APIKeyManager) : Prop where
  wellIndexed : m.WellIndexed
  issued : ∀ i ∈ ledger, ∃ key, m.keyAt i.id = some key ∧ Matches bcrypt i key
  recorded : ∀ id key, m.keyAt id = some key → ∃ i ∈ ledger, Matches bcrypt i key

variable {bcrypt : Bcrypt} {zone : Location} {ledger : List Issued} {m : APIKeyManager}

lemma length_plainKey (keyBytes : List.Vector UInt8 32) : (plainKey keyBytes).length = 67 := by
  rw [plainKey, List.length_append, length_hexEncode, List.Vector.toList_length]
  rfl

variable {i : Issued} {key : APIKey}

lemma Matches.accepts_iff (hexact : bcrypt.Exact) (h : Matches bcrypt i key) {now : ℤ}
    (text : Text) : key.accepts bcrypt now text = true ↔
    i.plain = text ∧ i.enabled = true ∧ ∀ expiresAt ∈ i.expiresAt, now ≤ expiresAt := by
  obtain ⟨salt, hsalt⟩ := h.keyHash
  have hcompare := hexact salt i.plain text
  rw [← hsalt] at hcompare
  simp only [APIKey.accepts, APIKey.Expired, Bool.and_eq_true, hcompare, h.enabled, h.expiresAt,
    Bool.not_eq_true', decide_eq_false_iff_not, not_exists, not_and, not_lt]
  constructor
  · rintro ⟨⟨henabled, hend⟩, rfl⟩
    exact ⟨rfl, henabled, hend⟩
  · rintro ⟨rfl, henabled, hend⟩
    exact ⟨⟨henabled, hend⟩, rfl⟩

/-- **The manager lets exactly the live keys pass.** -/
theorem validateKey_iff (hexact : bcrypt.Exact) (h : Simulates bcrypt ledger m) {now : ℤ}
    (key : Text) : m.validateKey bcrypt now key = true ↔ Live ledger now key := by
  constructor
  · intro hvalid
    unfold APIKeyManager.validateKey at hvalid
    split at hvalid
    · cases hvalid
    next id ref hfind =>
    split at hvalid
    · cases hvalid
    next apiKey hrecord =>
    unfold APIKeyManager.find at hfind
    split at hfind
    · cases hfind
    obtain ⟨id', -, heq⟩ := Option.map_eq_some_iff.mp hfind
    cases heq
    obtain ⟨i, hi, hmatch⟩ := h.recorded id apiKey hrecord
    exact ⟨i, hi, (hmatch.accepts_iff hexact key).mp hvalid⟩
  · rintro ⟨i, hi, rfl, hlive⟩
    obtain ⟨apiKey, hkeyAt, hmatch⟩ := h.issued i hi
    obtain ⟨keyBytes, hplain⟩ := hmatch.plain
    have hlength : ¬ i.plain.length < 11 := by
      rw [hplain, length_plainKey]
      decide
    have hfind : m.find i.plain = some (i.id, m.keys.lookup i.id) := by
      have hindexed := h.wellIndexed.indexed i.id apiKey hkeyAt
      unfold APIKeyManager.find
      rw [if_neg hlength, ← hmatch.keyPrefix, hindexed]
      rfl
    have hrecord : (m.keys.lookup i.id).bind (m.records[·]?) = some apiKey := hkeyAt
    unfold APIKeyManager.validateKey
    rw [hfind]
    dsimp only
    rw [hrecord]
    exact (hmatch.accepts_iff hexact i.plain).mpr ⟨rfl, hlive⟩

/-! ### New keys -/

variable {now expiresInDays : ℤ} {draw : Draw} {name : Text} {permissions : List Text}
  {s : KeyStore}

/-- What `CreateKey` stores is the record of what it issues. -/
lemma matches_of_newKey {plain : Text} (hfresh : Fresh m draw)
    (h : newKey bcrypt zone now draw name permissions expiresInDays = .ok (key, plain)) :
    m.keys.lookup key.id = none ∧ m.prefixes.lookup key.keyPrefix = none ∧
      ∃ i, issue zone now draw expiresInDays = some i ∧ Matches bcrypt i key := by
  obtain ⟨keyBytes, salt, idBytes, rfl, rfl, hid, hhash, hstart, hend, henabled⟩ := newKey_eq_ok h
  obtain ⟨hfreshId, hfreshStart⟩ := hfresh keyBytes rfl idBytes rfl
  rw [hid, hstart]
  exact ⟨hfreshId, hfreshStart, _, rfl, hid, ⟨keyBytes, rfl⟩, ⟨salt, hhash⟩, hstart, hend, henabled⟩

/-- Nothing is issued if `CreateKey` fails. -/
lemma issue_of_newKey_error {err : Text}
    (h : newKey bcrypt zone now draw name permissions expiresInDays = .error err) :
    issue zone now draw expiresInDays = none := by
  obtain ⟨keyBytes?, salt?, idBytes?⟩ := draw
  cases keyBytes? with
  | none => rfl
  | some keyBytes =>
    cases salt? with
    | none => rfl
    | some salt =>
      cases idBytes? with
      | none => rfl
      | some idBytes => cases h

lemma Simulates.store (h : Simulates bcrypt ledger m) (hmatch : Matches bcrypt i key)
    (hid : m.keys.lookup key.id = none) (hstart : m.prefixes.lookup key.keyPrefix = none) :
    Simulates bcrypt (i :: ledger) (m.store key) where
  wellIndexed := h.wellIndexed.store hid hstart
  issued i' hi' := by
    rw [APIKeyManager.keyAt_store h.wellIndexed.addressed]
    rcases List.mem_cons.mp hi' with rfl | hi'
    · exact ⟨key, if_pos hmatch.id.symm, hmatch⟩
    · obtain ⟨key', hkey', hmatch'⟩ := h.issued i' hi'
      have hne : i'.id ≠ key.id := by
        intro heq
        rw [heq, APIKeyManager.keyAt_of_lookup_none hid] at hkey'
        cases hkey'
      exact ⟨key', by rw [if_neg hne, hkey'], hmatch'⟩
  recorded id key' hkey' := by
    rw [APIKeyManager.keyAt_store h.wellIndexed.addressed] at hkey'
    split at hkey'
    · cases hkey'
      exact ⟨i, List.mem_cons_self, hmatch⟩
    · obtain ⟨i', hi', hmatch'⟩ := h.recorded id key' hkey'
      exact ⟨i', List.mem_cons_of_mem i hi', hmatch'⟩

/-! ### Changes -/

/-- The records as they are after a write agree with the ledger after it. -/
def Matches.Kept (bcrypt : Bcrypt) (f : APIKey → Option APIKey) (g : Issued → Option Issued) :
    Prop :=
  ∀ i key, Matches bcrypt i key → (f key = none ∧ g i = none) ∨
    ∃ key' i', f key = some key' ∧ g i = some i' ∧ i'.id = i.id ∧ Matches bcrypt i' key'

/-- An edit of a record is the edit of what was issued. -/
lemma Matches.kept_edit {e : Edit} : Matches.Kept bcrypt e.apply fun i => i.edit e := by
  intro i key h
  cases e with
  | delete => exact Or.inl ⟨rfl, rfl⟩
  | revoke =>
    exact Or.inr ⟨_, _, rfl, rfl, rfl, h.id, h.plain, h.keyHash, h.keyPrefix, h.expiresAt, rfl⟩
  | permissions perms =>
    exact Or.inr ⟨_, _, rfl, rfl, rfl, h.id, h.plain, h.keyHash, h.keyPrefix, h.expiresAt,
      h.enabled⟩
  | update name rateLimit enabled =>
    refine Or.inr ⟨_, _, rfl, rfl, rfl, h.id, h.plain, h.keyHash, h.keyPrefix, h.expiresAt, ?_⟩
    rw [h.enabled]

/-- The record under one identifier is written to, or deleted. -/
lemma Simulates.write (h : Simulates bcrypt ledger m) {m' : APIKeyManager} {id : Text}
    {f : APIKey → Option APIKey} {g : Issued → Option Issued} (hwell : m'.WellIndexed)
    (hkeyAt : ∀ id', m'.keyAt id' = if id' = id then (m.keyAt id').bind f else m.keyAt id')
    (hkept : Matches.Kept bcrypt f g) :
    Simulates bcrypt (ledger.filterMap fun i => if i.id = id then g i else some i) m' where
  wellIndexed := hwell
  issued i' hi' := by
    obtain ⟨i, hi, hedit⟩ := List.mem_filterMap.mp hi'
    obtain ⟨key, hkey, hmatch⟩ := h.issued i hi
    rw [hkeyAt]
    split at hedit
    · next heq =>
      rcases hkept i key hmatch with ⟨-, hnone⟩ | ⟨key', i'', happly, hsome, hid', hmatch'⟩
      · rw [hnone] at hedit
        cases hedit
      · rw [hsome] at hedit
        cases hedit
        refine ⟨key', ?_, hmatch'⟩
        rw [hid', if_pos heq, hkey, Option.bind_some, happly]
    · next hne =>
      cases hedit
      exact ⟨key, by rw [if_neg hne, hkey], hmatch⟩
  recorded id' key' hkey' := by
    rw [hkeyAt] at hkey'
    split at hkey'
    · next heq =>
      obtain ⟨key, hkey, happly⟩ := Option.bind_eq_some_iff.mp hkey'
      obtain ⟨i, hi, hmatch⟩ := h.recorded id' key hkey
      have hiid : i.id = id := by
        rw [← hmatch.id, h.wellIndexed.id_of_keyAt hkey, heq]
      rcases hkept i key hmatch with ⟨hnone, -⟩ | ⟨key'', i', happly', hsome, -, hmatch'⟩
      · rw [hnone] at happly
        cases happly
      · rw [happly] at happly'
        cases happly'
        exact ⟨i', List.mem_filterMap.mpr ⟨i, hi, by rw [if_pos hiid, hsome]⟩, hmatch'⟩
    · next hne =>
      obtain ⟨i, hi, hmatch⟩ := h.recorded id' key' hkey'
      have hiid : i.id ≠ id := by
        rw [← hmatch.id, h.wellIndexed.id_of_keyAt hkey']
        exact hne
      exact ⟨i, List.mem_filterMap.mpr ⟨i, hi, if_neg hiid⟩, hmatch⟩

/-- A change of a key that is not there changes nothing. -/
lemma Simulates.filterMap_of_lookup_none (h : Simulates bcrypt ledger m) {id : Text}
    (hid : m.keys.lookup id = none) {e : Edit} :
    (ledger.filterMap fun i => if i.id = id then i.edit e else some i) = ledger := by
  have hsome : ∀ i ∈ ledger, (if i.id = id then i.edit e else some i) = some i := by
    intro i hi
    obtain ⟨key, hkey, -⟩ := h.issued i hi
    refine if_neg ?_
    rintro rfl
    rw [APIKeyManager.keyAt_of_lookup_none hid] at hkey
    cases hkey
  rw [List.filterMap_congr hsome, List.filterMap_some]

lemma Simulates.touch (h : Simulates bcrypt ledger m) (now : ℤ) (id : Text) :
    Simulates bcrypt ledger (m.touch now id) := by
  have hkeyAt := APIKeyManager.keyAt_touch h.wellIndexed.addressed now id
  simp only [Option.map_eq_bind] at hkeyAt
  have hwrite := h.write (g := some) (h.wellIndexed.touch now id) hkeyAt
    fun i key hmatch => Or.inr ⟨_, _, rfl, rfl, rfl, hmatch.id, hmatch.plain, hmatch.keyHash,
      hmatch.keyPrefix, hmatch.expiresAt, hmatch.enabled⟩
  simpa using hwrite

/-! ### Restarts -/

lemma mem_listKeys : key ∈ listKeys m ↔ ∃ id, m.keyAt id = some key := by
  unfold listKeys
  rw [List.mem_filterMap]
  constructor
  · rintro ⟨id, -, hkey⟩
    exact ⟨id, hkey⟩
  · rintro ⟨id, hkey⟩
    obtain ⟨ref, hid, -⟩ := APIKeyManager.keyAt_eq_some_iff.mp hkey
    exact ⟨id, AList.mem_keys.mp (AList.lookup_isSome.mp (by rw [hid]; rfl)), hkey⟩

/-- The manager after a restart. -/
lemma eq_of_newAPIKeyManager (h : newAPIKeyManager s.manager.filePath s.file = .ok m) :
    m = (stored s).foldl APIKeyManager.store ⟨[], ∅, ∅, s.manager.filePath⟩ := by
  unfold newAPIKeyManager at h
  unfold stored
  split at h
  · next hpath =>
    rw [if_pos hpath]
    cases h
    rfl
  · next hpath =>
    rw [if_neg hpath]
    split at h
    · next hfile =>
      cases h
      rw [hfile]
      rfl
    · cases h
    · next keys hfile =>
      cases h
      rw [hfile]

/-- The records of a manager have identifiers and beginnings of their own. -/
lemma nodup_listKeys (h : m.WellIndexed) : ((listKeys m).map APIKey.id).Nodup ∧
    ((listKeys m).map APIKey.keyPrefix).Nodup := by
  have hsame : ∀ key ∈ listKeys m, ∀ key' ∈ listKeys m, key.id = key'.id → key = key' := by
    intro key hkey key' hkey' heq
    obtain ⟨id, hid⟩ := mem_listKeys.mp hkey
    obtain ⟨id', hid'⟩ := mem_listKeys.mp hkey'
    rw [h.id_of_keyAt hid, h.id_of_keyAt hid'] at heq
    rw [heq, hid'] at hid
    exact (Option.some.inj hid).symm
  have hnodup : (listKeys m).Nodup := by
    refine List.Nodup.filterMap ?_ m.keys.keys_nodup
    intro id id' key hid hid'
    exact (h.id_of_keyAt hid).symm.trans (h.id_of_keyAt hid')
  refine ⟨hnodup.map_on hsame, hnodup.map_on ?_⟩
  intro key hkey key' hkey' heq
  obtain ⟨id, hid⟩ := mem_listKeys.mp hkey
  obtain ⟨id', hid'⟩ := mem_listKeys.mp hkey'
  -- one entry of the index leads to both
  have hindexed := h.indexed id key hid
  rw [heq, h.indexed id' key' hid'] at hindexed
  apply hsame key hkey key' hkey'
  rw [h.id_of_keyAt hid, h.id_of_keyAt hid']
  exact (Option.some.inj hindexed).symm

lemma Matches.congr {key' : APIKey} (h : Matches bcrypt i key)
    (heq : credential key' = credential key) : Matches bcrypt i key' := by
  simp only [credential, Prod.mk.injEq] at heq
  obtain ⟨hid, hhash, hstart, hend, henabled⟩ := heq
  refine ⟨hid.trans h.id, h.plain, ?_, hstart.trans h.keyPrefix, hend.trans h.expiresAt,
    henabled.trans h.enabled⟩
  rw [hhash]
  exact h.keyHash

/-- **A restart from a file that holds the records.** -/
theorem Simulates.reload (h : Simulates bcrypt ledger s.manager) (hsaved : Saved s)
    (hnew : newAPIKeyManager s.manager.filePath s.file = .ok m) : Simulates bcrypt ledger m := by
  obtain ⟨hids, hstarts⟩ := nodup_listKeys h.wellIndexed
  have hpermId : ((stored s).map APIKey.id).Perm ((listKeys s.manager).map APIKey.id) := by
    have hmap := hsaved.map Prod.fst
    rwa [List.map_map, List.map_map] at hmap
  have hpermStart :
      ((stored s).map APIKey.keyPrefix).Perm ((listKeys s.manager).map APIKey.keyPrefix) := by
    have hmap := hsaved.map fun c => c.2.2.1
    rwa [List.map_map, List.map_map] at hmap
  obtain ⟨hwell, hkeyAt⟩ :=
    (APIKeyManager.wellIndexed_empty).foldl_store
      (hpermId.nodup_iff.mpr hids) (hpermStart.nodup_iff.mpr hstarts)
      (fun key _ => AList.lookup_empty key.id) (fun key _ => AList.lookup_empty key.keyPrefix)
  rw [← eq_of_newAPIKeyManager hnew] at hwell hkeyAt
  have hload : ∀ id key, m.keyAt id = some key ↔ key ∈ stored s ∧ key.id = id := by
    intro id key
    rw [hkeyAt, APIKeyManager.keyAt_of_lookup_none (AList.lookup_empty id)]
    simp
  refine ⟨hwell, ?_, ?_⟩
  · intro i hi
    obtain ⟨key, hkey, hmatch⟩ := h.issued i hi
    have hmem : credential key ∈ (stored s).map credential :=
      hsaved.mem_iff.mpr (List.mem_map_of_mem (mem_listKeys.mpr ⟨i.id, hkey⟩))
    obtain ⟨key', hkey', heq⟩ := List.mem_map.mp hmem
    have hmatch' := hmatch.congr heq
    exact ⟨key', (hload i.id key').mpr ⟨hkey', hmatch'.id⟩, hmatch'⟩
  · intro id key hkey
    have hmem : credential key ∈ (listKeys s.manager).map credential :=
      hsaved.mem_iff.mp (List.mem_map_of_mem ((hload id key).mp hkey).1)
    obtain ⟨key', hkey', heq⟩ := List.mem_map.mp hmem
    obtain ⟨id', hid'⟩ := mem_listKeys.mp hkey'
    obtain ⟨i, hi, hmatch⟩ := h.recorded id' key' hid'
    exact ⟨i, hi, hmatch.congr heq.symm⟩

/-! ## Every run -/

/-- The process is not blocked, and its manager has the records of the ledger. -/
def Good (bcrypt : Bcrypt) (r : Run) : Prop :=
  r.process.blocked = false ∧ Simulates bcrypt r.ledger r.process.store.manager

lemma good_newRun {filePath : Text} : Good bcrypt (newRun filePath) := by
  refine ⟨rfl, APIKeyManager.wellIndexed_empty, ?_, ?_⟩
  · intro i hi
    cases hi
  · intro id key hkey
    cases hkey

lemma manager_save (env : SaveEnv) : (s.save zone env).1.manager = s.manager := by
  unfold KeyStore.save KeyStore.writeKeys
  split
  · rfl
  · split
    · rfl
    · rfl

lemma Good.exact (hexact : bcrypt.Exact) {r : Run} (h : Good bcrypt r) : r.Exact bcrypt := by
  intro now key
  rw [← validateKey_iff hexact h.2]
  unfold Process.validateKey
  rw [h.1]
  split
  · next hlength =>
    have hfind : r.process.store.manager.find key = none := if_pos hlength
    simp [APIKeyManager.validateKey, hfind]
  · simp

/-- **One call.** -/
theorem Good.step {r r' : Run} {a : ℤ × Action} (h : Good bcrypt r) (ha : Apart r a)
    (hstep : r.Step bcrypt zone a r') : Good bcrypt r' := by
  obtain ⟨now, a⟩ := a
  obtain ⟨p', hp', rfl⟩ := Option.map_eq_some_iff.mp hstep
  obtain ⟨hblocked, hsim⟩ := h
  cases a with
  | createKey draw name permissions expiresInDays env =>
    simp only [Process.next, hblocked, Bool.false_eq_true, if_false, Option.some.injEq] at hp'
    subst hp'
    refine ⟨rfl, ?_⟩
    show Simulates bcrypt ((issue zone now draw expiresInDays).toList ++ r.ledger)
      (r.process.store.createKey bcrypt zone now draw name permissions expiresInDays
        env).1.manager
    unfold KeyStore.createKey
    cases hnew : newKey bcrypt zone now draw name permissions expiresInDays with
    | error err =>
      rw [issue_of_newKey_error hnew]
      exact hsim
    | ok created =>
      obtain ⟨hid, hstart, i, hissue, hmatch⟩ := matches_of_newKey ha hnew
      rw [hissue]
      rw [manager_save]
      exact hsim.store hmatch hid hstart
  | touchKey id env =>
    simp only [Process.next, hblocked, Bool.false_eq_true, if_false, Option.some.injEq] at hp'
    subst hp'
    refine ⟨rfl, ?_⟩
    unfold KeyStore.touchKey
    rw [manager_save]
    exact hsim.touch now id
  | change id e =>
    simp only [Process.next, hblocked, Bool.false_eq_true, if_false, KeyStore.change] at hp'
    show Good bcrypt ⟨p', r.ledger.filterMap fun i => if i.id = id then i.edit e else some i⟩
    cases hid : r.process.store.manager.keys.lookup id with
    | none =>
      simp only [hid, Option.some.injEq] at hp'
      subst hp'
      rw [hsim.filterMap_of_lookup_none hid]
      exact ⟨rfl, hsim⟩
    | some ref =>
      have hpath : r.process.store.manager.filePath = [] := by
        rcases ha with hpath | hnone
        · exact hpath
        · rw [hid] at hnone
          cases hnone
      simp only [hid, hpath, if_true, Option.some.injEq] at hp'
      subst hp'
      exact ⟨rfl, hsim.write (hsim.wellIndexed.edit hid)
        (APIKeyManager.keyAt_edit hsim.wellIndexed.addressed hid) Matches.kept_edit⟩
  | reload =>
    simp only [Process.next] at hp'
    split at hp'
    · next m hm =>
      cases hp'
      exact ⟨rfl, hsim.reload ha hm⟩
    · cases hp'

end Keys

open Keys

/-- **Exactly the live keys pass** in every state of a run that meets the condition. -/
theorem live_of_apart {bcrypt : Bcrypt} (hexact : bcrypt.Exact) {zone : Location}
    {filePath : Text} {l : List ((ℤ × Action) × Keys.Run)}
    (hl : Path (Run.Step bcrypt zone) (newRun filePath) l)
    (hapart : StepsMeet Apart (newRun filePath) l) :
    StatesMeet (Run.Exact bcrypt) (newRun filePath) l :=
  StatesMeet.mono (fun _ h => h.exact hexact)
    (Path.invariant_of_steps (fun _ _ _ h ha hstep => h.step ha hstep) good_newRun hl
      hapart)

/-! ## Two keys with one beginning -/

/-- The bytes of a key, with this beginning. -/
def bytesOf (start rest : UInt8) : List.Vector UInt8 32 :=
  ⟨List.replicate 4 start ++ List.replicate 28 rest, by
    rw [List.length_append, List.length_replicate, List.length_replicate]⟩

/-- The random bytes of a call that makes it. -/
def drawOf (start rest : UInt8) : Draw where
  keyBytes := some (bytesOf start rest)
  salt := some (List.Vector.replicate 16 0)
  idBytes := some (List.Vector.replicate 8 rest)

/-- `CreateKey` with these bytes, and what it saves. -/
def create (start rest : UInt8) (order : List Text) : ℤ × Action :=
  (0, .createKey (drawOf start rest) (text "ci") [text "read"] 0 ⟨order, .done⟩)

/-- A manager without a file makes two keys that begin alike. -/
def alikeRun : List ((ℤ × Action) × Keys.Run) :=
  trace (Run.next plainBcrypt utc) (newRun []) [create 7 1 [], create 7 2 []]

/-- **The first key is live and does not pass.** -/
theorem alike_key_rejected :
    Path (Run.Step plainBcrypt utc) (newRun []) alikeRun ∧ bytesOf 7 1 ≠ bytesOf 7 2 ∧
      Live (endState (newRun []) alikeRun).ledger 1 (plainKey (bytesOf 7 1)) ∧
      (endState (newRun []) alikeRun).process.validateKey plainBcrypt 1
        (plainKey (bytesOf 7 1)) = some false :=
  ⟨trace_path _ _, by decide +kernel⟩

/-- A manager with a file makes two keys that begin otherwise, and starts again in between. -/
def unlikeRun : List ((ℤ × Action) × Keys.Run) :=
  trace (Run.next plainBcrypt utc) (newRun (text "keys.json"))
    [create 7 1 [hexEncode (List.replicate 8 1)], (1, .reload), create 8 2 []]

theorem live_of_apart_unlike :
    StepsMeet Apart (newRun (text "keys.json")) unlikeRun ∧
      StatesMeet (Run.Exact plainBcrypt) (newRun (text "keys.json")) unlikeRun :=
  have hapart : StepsMeet Apart (newRun (text "keys.json")) unlikeRun := by decide +kernel
  ⟨hapart, live_of_apart plainBcrypt_exact (trace_path _ _) hapart⟩

end Moltbunker.Api
