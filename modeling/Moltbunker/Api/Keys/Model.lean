import Moltbunker.Lib.Tally
import Moltbunker.Lib.Text

/-!
# API keys

`internal/api/apikey.go`. A key is the text `mb_` with the digits of 32 random bytes. The manager
keeps a record of it with its `bcrypt` hash, finds records by their identifier, and finds the
identifier by the first eleven characters of the key. The records are pointers in Go, which a call
may still hold after the manager has let go of them: here a pointer is a place in the list of all
records that were ever made.

`save` asks for the read lock. `RevokeKey`, `DeleteKey`, `UpdateKey` and `UpdateKeyPermissions` call
it while they hold the write lock, so that with a file they never return: `change` is `none`.
`Api.Keys.Threads` has the steps of the calls between their locks; here a call runs alone.

The functions that read the clock, draw random bytes or touch the file take what they find as an
argument. The zero time of Go, which stands for no time, is `none`. The file holds the records that
were written; that JSON gives them back as they were is not modelled. Keys that pass are plain
ASCII, so that characters and bytes are the same.

* `keyAt_store`, `keyAt_edit`, `keyAt_touch` — what a call changes under which identifier, if every
  record is under its own (`Addressed`).
-/

namespace Moltbunker.Api

open Lib Text

/-! ## Outside the program -/

/-- `golang.org/x/crypto/bcrypt`: the hash of a password with a salt, and the comparison. -/
structure Bcrypt where
  generateFromPassword : List.Vector UInt8 16 → Text → Text
  compareHashAndPassword : Text → Text → Bool

/-- A hash is of one password. -/
def Bcrypt.Exact (bcrypt : Bcrypt) : Prop :=
  ∀ salt password key, bcrypt.compareHashAndPassword (bcrypt.generateFromPassword salt password)
    key = true ↔ key = password

/-- The time zone of the process: `AddDate(0, 0, days)`, and the year of a time. -/
structure Location where
  addDate : ℤ → ℤ → ℤ
  year : ℤ → ℤ

/-- The random bytes of a call of `CreateKey`; those that cannot be read are missing. -/
structure Draw where
  keyBytes : Option (List.Vector UInt8 32)
  salt : Option (List.Vector UInt8 16)
  idBytes : Option (List.Vector UInt8 8)
  deriving DecidableEq

/-! ## Records and the manager -/

/-- `APIKey` -/
structure APIKey where
  id : Text
  name : Text
  keyHash : Text
  keyPrefix : Text
  permissions : List Text
  createdAt : ℤ
  expiresAt : Option ℤ
  lastUsedAt : Option ℤ
  enabled : Bool
  rateLimit : ℤ
  deriving DecidableEq

/-- `APIKeyManager`, with the records that it has made. -/
structure APIKeyManager where
  records : List APIKey
  keys : Table Text ℕ
  prefixes : Table Text Text
  filePath : Text

/-- The file of a manager. -/
inductive StoreFile where
  | absent
  /-- what is there cannot be read or does not decode -/
  | damaged
  | holds (keys : List APIKey)

/-- The outcome of `os.WriteFile`. -/
inductive WriteOutcome where
  | done
  /-- the file is as it was -/
  | failed (err : Text)
  /-- the file was opened, and only a part of it was written -/
  | interrupted (err : Text)
  deriving DecidableEq

/-- A manager and its file. -/
structure KeyStore where
  manager : APIKeyManager
  file : StoreFile

/-- The order in which `save` goes over the map, and the outcome of writing. -/
structure SaveEnv where
  order : List Text
  write : WriteOutcome

/-- The text of a key. -/
def plainKey (keyBytes : List.Vector UInt8 32) : Text := text "mb_" ++ hexEncode keyBytes.toList

/-- The part of `CreateKey` before the lock: the record and the text of the key. -/
def newKey (bcrypt : Bcrypt) (zone : Location) (now : ℤ) (draw : Draw) (name : Text)
    (permissions : List Text) (expiresInDays : ℤ) : Except Text (APIKey × Text) :=
  match draw.keyBytes with
  | none => .error (text "failed to generate key")
  | some keyBytes =>
    match draw.salt with
    | none => .error (text "failed to hash key")
    | some salt =>
      match draw.idBytes with
      | none => .error (text "failed to generate key ID")
      | some idBytes =>
        .ok ({ id := hexEncode idBytes.toList
               name := name
               keyHash := bcrypt.generateFromPassword salt (plainKey keyBytes)
               keyPrefix := (plainKey keyBytes).take 11
               permissions := permissions
               createdAt := now
               expiresAt :=
                 if 0 < expiresInDays then some (zone.addDate now expiresInDays) else none
               lastUsedAt := none
               enabled := true
               rateLimit := 0 }, plainKey keyBytes)

/-- **The record of a new key.** -/
theorem newKey_eq_ok {bcrypt : Bcrypt} {zone : Location} {now : ℤ} {draw : Draw} {name : Text}
    {permissions : List Text} {expiresInDays : ℤ} {key : APIKey} {plain : Text}
    (h : newKey bcrypt zone now draw name permissions expiresInDays = .ok (key, plain)) :
    ∃ keyBytes salt idBytes, draw = ⟨some keyBytes, some salt, some idBytes⟩ ∧
      plain = plainKey keyBytes ∧ key.id = hexEncode idBytes.toList ∧
      key.keyHash = bcrypt.generateFromPassword salt plain ∧ key.keyPrefix = plain.take 11 ∧
      key.expiresAt =
        (if 0 < expiresInDays then some (zone.addDate now expiresInDays) else none) ∧
      key.enabled = true := by
  obtain ⟨keyBytes?, salt?, idBytes?⟩ := draw
  unfold newKey at h
  dsimp only at h
  split at h
  · cases h
  next keyBytes =>
  split at h
  · cases h
  next salt =>
  split at h
  · cases h
  next idBytes =>
  obtain ⟨rfl, rfl⟩ := Prod.mk.inj (Except.ok.inj h)
  exact ⟨keyBytes, salt, idBytes, rfl, rfl, rfl, rfl, rfl, rfl, rfl⟩

namespace APIKey

/-- The record is past its end. -/
def Expired (apiKey : APIKey) (now : ℤ) : Prop := ∃ expiresAt ∈ apiKey.expiresAt, expiresAt < now

instance (apiKey : APIKey) (now : ℤ) : Decidable (apiKey.Expired now) :=
  inferInstanceAs (Decidable (∃ expiresAt ∈ apiKey.expiresAt, expiresAt < now))

/-- The checks of `ValidateKey` on the record that it finds. -/
def accepts (bcrypt : Bcrypt) (apiKey : APIKey) (now : ℤ) (key : Text) : Bool :=
  apiKey.enabled && !apiKey.Expired now && bcrypt.compareHashAndPassword apiKey.keyHash key

/-- The loop of `ValidateKeyWithPermission`: admin before write before read. -/
def hasPermission (apiKey : APIKey) (permission : Text) : Bool :=
  apiKey.permissions.any fun p =>
    p = permission ∨ p = text "admin" ∨ (p = text "write" ∧ permission = text "read")

end APIKey

namespace APIKeyManager

variable (m : APIKeyManager)

/-- The record that the manager has under an identifier. -/
def keyAt (id : Text) : Option APIKey := (m.keys.lookup id).bind (m.records[·]?)

/-- A record goes into the maps, in `CreateKey` and in `load`. -/
def store (key : APIKey) : APIKeyManager :=
  { m with
    records := m.records ++ [key]
    keys := m.keys.insert key.id m.records.length
    prefixes := m.prefixes.insert key.keyPrefix key.id }

/-- A record is written to, through a pointer. -/
def modify (ref : ℕ) (f : APIKey → APIKey) : APIKeyManager :=
  { m with records := m.records.modify ref f }

/-- What the goroutine of `ValidateKey` does under the lock. -/
def touch (now : ℤ) (id : Text) : APIKeyManager :=
  match m.keys.lookup id with
  | none => m
  | some ref => m.modify ref fun k => { k with lastUsedAt := some now }

/-- What `ValidateKey` reads under the lock: the identifier that the key leads to, and the pointer
under it. -/
def find (key : Text) : Option (Text × Option ℕ) :=
  if key.length < 11 then none
  else (m.prefixes.lookup (key.take 11)).map fun id => (id, m.keys.lookup id)

/-- `ValidateKey`, up to the goroutine that it starts. -/
def validateKey (bcrypt : Bcrypt) (now : ℤ) (key : Text) : Bool :=
  match m.find key with
  | none => false
  | some (_, ref) =>
    match ref.bind (m.records[·]?) with
    | none => false
    | some apiKey => apiKey.accepts bcrypt now key

/-- `ValidateKeyWithPermission`, up to the goroutine that it starts. -/
def validateKeyWithPermission (bcrypt : Bcrypt) (now : ℤ) (key permission : Text) : Bool :=
  match m.find key with
  | none => false
  | some (_, ref) =>
    match ref.bind (m.records[·]?) with
    | none => false
    | some apiKey => apiKey.accepts bcrypt now key && apiKey.hasPermission permission

/-- `delete(m.prefixes, key.KeyPrefix)` and `delete(m.keys, id)` -/
def remove (id : Text) (key : APIKey) : APIKeyManager :=
  { m with keys := m.keys.erase id, prefixes := m.prefixes.erase key.keyPrefix }

end APIKeyManager

/-- What the calls that hold the write lock do to the record that they find. -/
inductive Edit where
  | revoke
  | delete
  | permissions (perms : List Text)
  | update (name : Option Text) (rateLimit : Option ℤ) (enabled : Option Bool)
  deriving DecidableEq

/-- The edit, with the pointer that was found under the identifier. -/
def APIKeyManager.edit (m : APIKeyManager) (id : Text) (ref : ℕ) : Edit → APIKeyManager
  | .revoke => m.modify ref fun key => { key with enabled := false }
  | .delete => (m.records[ref]?).elim m fun key => m.remove id key
  | .permissions perms => m.modify ref fun key => { key with permissions := perms }
  | .update name rateLimit enabled => m.modify ref fun key =>
    { key with
      name := name.getD key.name
      rateLimit := rateLimit.getD key.rateLimit
      enabled := enabled.getD key.enabled }

/-! ## Files -/

/-- The times of a record that are written. -/
def APIKey.times (apiKey : APIKey) : List ℤ :=
  apiKey.createdAt :: (apiKey.expiresAt.toList ++ apiKey.lastUsedAt.toList)

/-- `json.MarshalIndent`, which writes the years up to 9999. -/
def marshalIndent (zone : Location) (keys : List APIKey) : Except Text (List APIKey) :=
  if ∀ key ∈ keys, ∀ t ∈ key.times, 0 ≤ zone.year t ∧ zone.year t ≤ 9999 then .ok keys
  else .error (text "json: error calling MarshalJSON for type time.Time: Time.MarshalJSON: " ++
    text "year outside of range [0,9999]")

/-- `os.WriteFile` -/
def StoreFile.writeFile (file : StoreFile) (keys : List APIKey) :
    WriteOutcome → StoreFile × Except Text Unit
  | .done => (.holds keys, .ok ())
  | .failed err => (file, .error err)
  | .interrupted err => (.damaged, .error err)

/-- `NewAPIKeyManager` -/
def newAPIKeyManager (filePath : Text) (file : StoreFile) : Except Text APIKeyManager :=
  let m : APIKeyManager := ⟨[], ∅, ∅, filePath⟩
  if filePath = [] then .ok m else
  match file with
  | .absent => .ok m
  | .damaged => .error (text "failed to load API keys")
  | .holds keys => .ok (keys.foldl APIKeyManager.store m)

namespace KeyStore

variable (s : KeyStore)

/-- The pointers that `save` copies under the lock. -/
def snapshot (order : List Text) : List ℕ := order.filterMap s.manager.keys.lookup

/-- The part of `save` after the lock: the records are read now. -/
def writeKeys (zone : Location) (refs : List ℕ) (write : WriteOutcome) :
    KeyStore × Except Text Unit :=
  match marshalIndent zone (refs.filterMap (s.manager.records[·]?)) with
  | .error err => (s, .error err)
  | .ok keys =>
    let (file, err) := s.file.writeFile keys write
    ({ s with file := file }, err)

/-- `save` -/
def save (zone : Location) (env : SaveEnv) : KeyStore × Except Text Unit :=
  if s.manager.filePath = [] then (s, .ok ())
  else s.writeKeys zone (s.snapshot env.order) env.write

/-- `CreateKey`; that a save fails is only logged. -/
def createKey (bcrypt : Bcrypt) (zone : Location) (now : ℤ) (draw : Draw) (name : Text)
    (permissions : List Text) (expiresInDays : ℤ) (env : SaveEnv) :
    KeyStore × Except Text (APIKey × Text) :=
  match newKey bcrypt zone now draw name permissions expiresInDays with
  | .error err => (s, .error err)
  | .ok (key, plain) =>
    ((({ s with manager := s.manager.store key } : KeyStore).save zone env).1, .ok (key, plain))

/-- The goroutine of `ValidateKey` and `ValidateKeyWithPermission`. -/
def touchKey (zone : Location) (now : ℤ) (id : Text) (env : SaveEnv) : KeyStore :=
  (({ s with manager := s.manager.touch now id } : KeyStore).save zone env).1

/-- The calls that save while they hold the write lock. They do not return if there is a file. -/
def change (id : Text) (e : Edit) : Option (KeyStore × Except Text Unit) :=
  match s.manager.keys.lookup id with
  | none => some (s, .error (text "key not found: " ++ id))
  | some ref =>
    if s.manager.filePath = [] then some ({ s with manager := s.manager.edit id ref e }, .ok ())
    else none

/-- `RevokeKey` -/
def revokeKey (id : Text) : Option (KeyStore × Except Text Unit) := s.change id .revoke

/-- `DeleteKey` -/
def deleteKey (id : Text) : Option (KeyStore × Except Text Unit) := s.change id .delete

/-- `UpdateKeyPermissions` -/
def updateKeyPermissions (id : Text) (permissions : List Text) :
    Option (KeyStore × Except Text Unit) :=
  s.change id (.permissions permissions)

/-- `UpdateKey` -/
def updateKey (id : Text) (name : Option Text) (rateLimit : Option ℤ) (enabled : Option Bool) :
    Option (KeyStore × Except Text Unit) :=
  s.change id (.update name rateLimit enabled)

end KeyStore

/-! ## Records under their identifiers -/

namespace APIKeyManager

variable {m : APIKeyManager} {id id' : Text} {ref : ℕ} {key : APIKey}

lemma keyAt_eq_some_iff :
    m.keyAt id = some key ↔ ∃ ref, m.keys.lookup id = some ref ∧ m.records[ref]? = some key :=
  Option.bind_eq_some_iff

lemma keyAt_of_lookup (h : m.keys.lookup id = some ref) : m.keyAt id = m.records[ref]? := by
  unfold keyAt
  rw [h, Option.bind_some]

lemma keyAt_of_lookup_none (h : m.keys.lookup id = none) : m.keyAt id = none := by
  unfold keyAt
  rw [h, Option.bind_none]

/-- Every record of the manager is under its own identifier. -/
def Addressed (m : APIKeyManager) : Prop :=
  ∀ id ref, m.keys.lookup id = some ref → ∃ key, m.records[ref]? = some key ∧ key.id = id

/-- No two identifiers share a record. -/
lemma Addressed.eq_of_lookup (h : m.Addressed) (hid : m.keys.lookup id = some ref)
    (hid' : m.keys.lookup id' = some ref) : id = id' := by
  obtain ⟨key, hkey, rfl⟩ := h id ref hid
  obtain ⟨key', hkey', rfl⟩ := h id' ref hid'
  rw [hkey] at hkey'
  cases hkey'
  rfl

lemma Addressed.lt_length (h : m.Addressed) (hid : m.keys.lookup id = some ref) :
    ref < m.records.length := by
  obtain ⟨key, hkey, -⟩ := h id ref hid
  exact (List.getElem?_eq_some_iff.mp hkey).1

lemma addressed_empty (filePath : Text) : Addressed ⟨[], ∅, ∅, filePath⟩ := by
  intro id ref h
  cases h

/-! ### Storing -/

lemma lookup_store : (m.store key).keys.lookup id =
    if id = key.id then some m.records.length else m.keys.lookup id :=
  lookup_insert_eq

lemma Addressed.store (h : m.Addressed) (key : APIKey) : (m.store key).Addressed := by
  intro id ref hid
  rw [lookup_store] at hid
  split at hid
  · next heq =>
    cases hid
    exact ⟨key, List.getElem?_concat_length, heq.symm⟩
  · obtain ⟨key', hkey', rfl⟩ := h id ref hid
    have hlt := h.lt_length hid
    exact ⟨key', by rwa [APIKeyManager.store, List.getElem?_append_left hlt], rfl⟩

lemma keyAt_store (h : m.Addressed) :
    (m.store key).keyAt id = if id = key.id then some key else m.keyAt id := by
  unfold keyAt
  rw [lookup_store]
  split
  · exact List.getElem?_concat_length
  · cases hid : m.keys.lookup id with
    | none => rfl
    | some ref => exact List.getElem?_append_left (h.lt_length hid)

/-! ### Writing to a record -/

lemma getElem?_modify (ref ref' : ℕ) {f : APIKey → APIKey} : (m.modify ref f).records[ref']? =
    if ref' = ref then (m.records[ref']?).map f else m.records[ref']? := by
  show (m.records.modify ref f)[ref']? = _
  by_cases h : ref' = ref
  · subst h
    simp
  · simp [h, Ne.symm h]

lemma Addressed.modify (h : m.Addressed) (ref : ℕ) {f : APIKey → APIKey}
    (hf : ∀ key, (f key).id = key.id) : (m.modify ref f).Addressed := by
  intro id ref' hid
  obtain ⟨key, hkey, rfl⟩ := h id ref' hid
  rw [getElem?_modify, hkey]
  split
  · exact ⟨f key, rfl, hf key⟩
  · exact ⟨key, rfl, rfl⟩

lemma keyAt_modify (h : m.Addressed) (hid : m.keys.lookup id = some ref) {f : APIKey → APIKey} :
    (m.modify ref f).keyAt id' = if id' = id then (m.keyAt id').map f else m.keyAt id' := by
  unfold keyAt
  show (m.keys.lookup id').bind ((m.modify ref f).records[·]?) = _
  cases hid' : m.keys.lookup id' with
  | none => simp
  | some ref' =>
    rw [Option.bind_some, Option.bind_some, getElem?_modify]
    by_cases heq : id' = id
    · subst heq
      rw [hid] at hid'
      cases hid'
      rw [if_pos rfl, if_pos rfl]
    · have hne : ref' ≠ ref := by
        rintro rfl
        exact heq (h.eq_of_lookup hid' hid)
      rw [if_neg hne, if_neg heq]

lemma Addressed.touch (h : m.Addressed) (now : ℤ) (id : Text) : (m.touch now id).Addressed := by
  unfold APIKeyManager.touch
  split
  · exact h
  · exact h.modify _ fun key => rfl

lemma keyAt_touch (h : m.Addressed) (now : ℤ) (id id' : Text) :
    (m.touch now id).keyAt id' =
      if id' = id then (m.keyAt id').map fun k => { k with lastUsedAt := some now }
      else m.keyAt id' := by
  unfold APIKeyManager.touch
  split
  · next hnone =>
    split
    · next heq =>
      rw [heq, keyAt_of_lookup_none hnone]
      rfl
    · rfl
  · next ref hid => exact keyAt_modify h hid

/-! ### Edits -/

lemma lookup_remove :
    (m.remove id key).keys.lookup id' = if id' = id then none else m.keys.lookup id' :=
  lookup_erase_eq

lemma Addressed.remove (h : m.Addressed) (id : Text) : (m.remove id key).Addressed := by
  intro id' ref hid'
  rw [lookup_remove] at hid'
  split at hid'
  · cases hid'
  · exact h id' ref hid'

lemma keyAt_remove : (m.remove id key).keyAt id' = if id' = id then none else m.keyAt id' := by
  unfold keyAt
  rw [lookup_remove]
  split <;> rfl

end APIKeyManager

/-- What an edit makes of the record; `none` if it deletes it. -/
def Edit.apply : Edit → APIKey → Option APIKey
  | .revoke, key => some { key with enabled := false }
  | .delete, _ => none
  | .permissions perms, key => some { key with permissions := perms }
  | .update name rateLimit enabled, key => some
      { key with
        name := name.getD key.name
        rateLimit := rateLimit.getD key.rateLimit
        enabled := enabled.getD key.enabled }

namespace APIKeyManager

variable {m : APIKeyManager} {id : Text} {ref : ℕ}

lemma Addressed.edit (h : m.Addressed) (id : Text) (ref : ℕ) (e : Edit) :
    (m.edit id ref e).Addressed := by
  cases e with
  | revoke | permissions perms | update name rateLimit enabled => exact h.modify ref fun key => rfl
  | delete =>
    unfold APIKeyManager.edit
    cases m.records[ref]? with
    | none => exact h
    | some key => exact h.remove id

/-- **What an edit changes.** -/
theorem keyAt_edit (h : m.Addressed) (hid : m.keys.lookup id = some ref) {e : Edit} (id' : Text) :
    (m.edit id ref e).keyAt id' =
      if id' = id then (m.keyAt id').bind e.apply else m.keyAt id' := by
  have hmap : ∀ f : APIKey → APIKey, (m.modify ref f).keyAt id' =
      if id' = id then (m.keyAt id').bind (fun key => some (f key)) else m.keyAt id' := by
    intro f
    rw [keyAt_modify h hid, Option.map_eq_bind]
    rfl
  cases e with
  | revoke => exact hmap _
  | delete =>
    obtain ⟨key, hkey, -⟩ := h id ref hid
    unfold APIKeyManager.edit
    rw [hkey]
    show (m.remove id key).keyAt id' = _
    rw [keyAt_remove]
    split
    · cases m.keyAt id' with
      | none => rfl
      | some key => rfl
    · rfl
  | permissions perms => exact hmap _
  | update name rateLimit enabled => exact hmap _

end APIKeyManager

/-! ## Examples of what is outside -/

/-- A hash function for examples: the hash is the password. -/
def plainBcrypt : Bcrypt where
  generateFromPassword _ password := password
  compareHashAndPassword hash key := hash = key

lemma plainBcrypt_exact : plainBcrypt.Exact := by
  intro salt password key
  rw [show plainBcrypt.compareHashAndPassword (plainBcrypt.generateFromPassword salt password) key =
    decide (password = key) from rfl, decide_eq_true_iff]
  exact eq_comm

/-- Universal time, from the first day of 1970; the year begins in March. -/
def utc : Location where
  addDate t days := t + days * 86400000000000
  year t :=
    let day := t / 86400000000000 + 719468
    let dayOfEra := day % 146097
    let yearOfEra := (dayOfEra - dayOfEra / 1460 + dayOfEra / 36524 - dayOfEra / 146096) / 365
    let dayOfYear := dayOfEra - (365 * yearOfEra + yearOfEra / 4 - yearOfEra / 100)
    yearOfEra + day / 146097 * 400 + if 306 ≤ dayOfYear then 1 else 0

end Moltbunker.Api
