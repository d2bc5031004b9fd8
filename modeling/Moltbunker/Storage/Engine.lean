import Moltbunker.Lib.FileTree
import Moltbunker.Lib.Path

/-!
# The object store

`StorageEngine` of `internal/storage/engine.go`, with the `MetadataStore` of `metadata.go` and the
`OwnerKeyEncryptor` of `encryption.go`. The metadata of an object is kept in a key-value store under
the text `bucket/key`. Its body is a file, the blob, at the cleaned path of the same text.
`PutObject` writes the body to a temporary file, encrypts it there if the engine has a key store,
renames it to the path of the blob, and writes the metadata last.

What may fail without a reason in the state is in `PutFaults` and `DeleteFaults`: the reader of the
body, the random numbers, the file system and the metadata store. Ciphers, the sealing of keys and
the hash of the ETag are in `Security`. A body that is read back from the disk is what was written
there, and `PutObject` can remove the files that it has written itself. Messages leave out the
escapes of `%q` and the path that the operating system puts before its description.
-/

namespace Moltbunker.Storage

open Lib Text

/-- `[]byte` -/
abbrev Bytes := List UInt8

/-! ## Keys and ciphers -/

/-- The functions of `internal/security` and of the standard library that objects are encrypted
with. Random numbers are arguments. -/
structure Security where
  /-- `X25519Envelope` -/
  Envelope : Type
  /-- A private key belongs to a public one. -/
  KeyPair : Bytes → Bytes → Prop
  encryptAES256GCM : (key plaintext nonce : Bytes) → Except Text Bytes
  decryptAES256GCM : (key ciphertext : Bytes) → Except Text Bytes
  sealToX25519 : (pub dek ephemeral : Bytes) → Except Text Envelope
  openFromX25519 : (priv : Bytes) → Envelope → Except Text Bytes
  marshalSealedDEK : Envelope → Bytes
  looksLikeX25519Envelope : Bytes → Option Envelope
  legacyDeriveOwnerKey : Text → Except Text Bytes
  md5 : Bytes → Bytes

/-- What is opened was sealed, what is decrypted was encrypted, and a sealed key is read back. -/
structure Security.Correct (c : Security) : Prop where
  decrypt_encrypt : ∀ {key plaintext nonce ciphertext},
    c.encryptAES256GCM key plaintext nonce = .ok ciphertext →
      c.decryptAES256GCM key ciphertext = .ok plaintext
  open_seal : ∀ {pub priv dek ephemeral env}, c.KeyPair pub priv →
    c.sealToX25519 pub dek ephemeral = .ok env → c.openFromX25519 priv env = .ok dek
  looksLike_marshal : ∀ {pub dek ephemeral env}, c.sealToX25519 pub dek ephemeral = .ok env →
    c.looksLikeX25519Envelope (c.marshalSealedDEK env) = some env
  marshal_ne_nil : ∀ env, c.marshalSealedDEK env ≠ []

/-- `OwnerKeyStore` -/
structure OwnerKeyStore where
  publicKeyForOwner : Text → Except Text Bytes
  privateKeyForOwner : Text → Except Text Bytes

/-- Where there is a public key of an owner, there is the private key that belongs to it. -/
def OwnerKeyStore.Paired (c : Security) (ks : OwnerKeyStore) : Prop :=
  ∀ owner pub, ks.publicKeyForOwner owner = .ok pub →
    ∃ priv, ks.privateKeyForOwner owner = .ok priv ∧ c.KeyPair pub priv

/-- `X25519KeySize` -/
def x25519KeySize : ℕ := 32

/-! ## Records -/

/-- `BucketInfo` -/
structure BucketInfo where
  name : Text
  owner : Text
  deriving DecidableEq

/-- `ObjectInfo`; the CID and the nonce of a DEK are not set by the engine. -/
structure ObjectInfo where
  bucket : Text
  key : Text
  size : ℤ
  contentType : Text
  etag : Text
  owner : Text
  createdAt : ℤ
  updatedAt : ℤ
  encryptedDEK : Bytes
  deriving DecidableEq

/-- A letter, a digit or a hyphen of a bucket name. -/
def isBucketChar (ch : Char) : Bool := ch.isLower || ch.isDigit || ch == '-'

/-- `bucketNameRegex` -/
def ValidBucketName (name : Text) : Prop :=
  3 ≤ name.length ∧ name.length ≤ 63 ∧ name.all isBucketChar = true ∧ name.head? ≠ some '-' ∧
    name.getLast? ≠ some '-'

instance (name : Text) : Decidable (ValidBucketName name) := inferInstanceAs (Decidable (_ ∧ _))

/-- The metadata, the blobs and what the metering hook was told. Buckets have valid names:
`CreateBucket` sees to it. -/
structure Store where
  buckets : Table Text BucketInfo
  objects : Table Text ObjectInfo
  tree : FileTree Bytes
  usage : List (Text × ℤ)
  valid : ∀ name ∈ buckets, ValidBucketName name

/-- `PutObjectInput`; a body may end with an error. -/
structure PutObjectInput where
  bucket : Text
  key : Text
  body : Bytes
  bodyErr : Option Text
  contentType : Text
  owner : Text

/-- What may fail in `PutObject`, and what it gets from outside. -/
structure PutFaults where
  getBucket : Option Text
  mkdirAll : Option Text
  tempName : Except Text Text
  readBack : Option Text
  dek : Except Text Bytes
  nonce : Bytes
  ephemeral : Bytes
  writeFile : Option Text
  rename : Option Text
  putMetadata : Option Text
  now : ℤ

/-- What may fail in `DeleteObject`. -/
structure DeleteFaults where
  remove : Option Text
  deleteMetadata : Option Text

/-- `io.ReadCloser` of `GetObjectOutput`: a directory can be opened, and its reader fails. -/
inductive Body where
  | bytes (body : Bytes)
  | directory
  deriving DecidableEq

/-- `GetObjectOutput`; the content type is that of the metadata. -/
structure GetObjectOutput where
  body : Body
  info : ObjectInfo
  deriving DecidableEq

/-- `EngineConfig` and the fields of `StorageEngine`. -/
structure StorageEngine where
  dataDir : PathName
  maxBuckets : ℕ
  maxObjectSize : ℤ
  encryptedMaxInMemory : ℤ
  meter : Bool
  keyStore : Option OwnerKeyStore

/-- `defaultEncryptedMaxInMemoryBytes` -/
def defaultEncryptedMaxInMemoryBytes : ℤ := 256 * 1024 * 1024

/-- `objectKey` -/
def objectKey (bucket key : Text) : Text := bucket ++ text "/" ++ key

/-! ## Steps of the engine -/

namespace OwnerKeyEncryptor

variable (c : Security)

/-- `Encrypt` -/
def encrypt (io : PutFaults) (plaintext ownerPub : Bytes) : Except Text (Bytes × c.Envelope) :=
  if ownerPub.length ≠ x25519KeySize then
    .error (text "owner public key must be 32 bytes, got " ++ decimal ownerPub.length)
  else
    match io.dek with
    | .error err => .error (text "generate DEK: " ++ err)
    | .ok dek =>
      match c.encryptAES256GCM dek plaintext io.nonce with
      | .error err => .error (text "encrypt content: " ++ err)
      | .ok ciphertext =>
        match c.sealToX25519 ownerPub dek io.ephemeral with
        | .error err => .error (text "seal DEK: " ++ err)
        | .ok sealedDEK => .ok (ciphertext, sealedDEK)

/-- `Decrypt` -/
def decrypt (ciphertext : Bytes) (sealedDEK : c.Envelope) (ownerPriv : Bytes) : Except Text Bytes :=
  match c.openFromX25519 ownerPriv sealedDEK with
  | .error err => .error (text "open DEK: " ++ err)
  | .ok dek =>
    match c.decryptAES256GCM dek ciphertext with
    | .error err => .error (text "decrypt content: " ++ err)
    | .ok plaintext => .ok plaintext

end OwnerKeyEncryptor

/-- The checks of `PutObject` on a key. -/
def checkKey (key : Text) : Except Text Unit :=
  if key = [] then .error (text "object key is required")
  else if key.any (fun ch => ch = Char.ofNat 0 ∨ ch = '\n' ∨ ch = '\r') ∨ key.head? = some '/' then
    .error (text "object key contains invalid characters")
  else if text ".." <:+: key then .error (text "object key must not contain '..'")
  else .ok ()

/-- The bucket of a caller that owns it. -/
def Store.ownedBucket (s : Store) (bucket owner denied : Text) : Except Text BucketInfo :=
  match s.buckets.lookup bucket with
  | none => .error (text "bucket \"" ++ bucket ++ text "\" not found")
  | some info => if info.owner ≠ owner then .error denied else .ok info

/-- The message for a caller that does not own the bucket. -/
def permissionDenied (bucket : Text) : Text :=
  text "permission denied: bucket \"" ++ bucket ++ text "\" is owned by another wallet"

/-- What is written for an object: its size, its ETag, the contents of its blob and the sealed DEK.
-/
structure Sealed where
  size : ℤ
  etag : Text
  contents : Bytes
  encryptedDEK : Bytes

/-- A blob that was renamed to its path. -/
structure Blob where
  path : PathName
  written : Sealed

namespace StorageEngine

/-- `encryptedMaxInMemoryBytes` -/
def encryptedMaxInMemoryBytes (e : StorageEngine) : ℤ :=
  if 0 < e.encryptedMaxInMemory then e.encryptedMaxInMemory else defaultEncryptedMaxInMemoryBytes

/-- `blobPath` -/
def blobPath (e : StorageEngine) (bucket key : Text) : Except Text PathName :=
  let absPath := PathName.clean
    (e.dataDir ++ [text "blobs"] ++ PathName.split bucket ++ PathName.split key)
  let absRoot := PathName.clean (e.dataDir ++ [text "blobs"])
  if absRoot <+: absPath then .ok absPath else .error (text "path traversal detected")

/-- `CreateBucket` -/
def createBucket (e : StorageEngine) (s : Store) (name owner : Text) : Except Text Store :=
  if hname : ValidBucketName name then
    if owner = [] then .error (text "owner is required")
    else if (s.buckets.lookup name).isSome then
      .error (text "bucket \"" ++ name ++ text "\" already exists")
    else if e.maxBuckets ≤ tableCount s.buckets fun info => info.owner = owner then
      .error (text "bucket limit exceeded: max " ++ decimal e.maxBuckets ++
        text " buckets per wallet")
    else
      .ok { s with
        buckets := s.buckets.insert name ⟨name, owner⟩
        valid := by
          intro other hother
          rcases AList.mem_insert _ |>.mp hother with rfl | hold
          · exact hname
          · exact s.valid other hold }
  else
    .error (text "invalid bucket name \"" ++ name ++
      text "\": must be 3-63 lowercase alphanumeric chars or hyphens")

variable (c : Security)

/-- The body of `PutObject` on its way to the disk: it is read, its size is checked, and it is
encrypted. -/
def sealBody (e : StorageEngine) (input : PutObjectInput) (io : PutFaults) : Except Text Sealed :=
  match input.bodyErr with
  | some err => .error (text "write blob: " ++ err)
  | none =>
    let n : ℤ := input.body.length
    if 0 < e.maxObjectSize ∧ e.maxObjectSize < n then
      .error (text "object too large: " ++ ofInt n ++ text " bytes exceeds max " ++
        ofInt e.maxObjectSize)
    else
      let etag := hexEncode (c.md5 input.body)
      match e.keyStore with
      | none => .ok ⟨n, etag, input.body, []⟩
      | some keyStore =>
        if e.encryptedMaxInMemoryBytes < n then
          .error (text "encrypted object too large: " ++ ofInt n ++
            text " bytes exceeds in-memory encryption limit of " ++
            ofInt e.encryptedMaxInMemoryBytes ++
            text " bytes (at-rest encryption buffers the whole object; use a smaller object " ++
            text "or disable storage encryption)")
        else
          match keyStore.publicKeyForOwner input.owner, io.readBack with
          | .error err, _ => .error (text "resolve owner key: " ++ err)
          | .ok _, some err => .error (text "read blob for encryption: " ++ err)
          | .ok ownerPub, none =>
            match OwnerKeyEncryptor.encrypt c io input.body ownerPub, io.writeFile with
            | .error err, _ => .error (text "encrypt blob: " ++ err)
            | .ok _, some err => .error (text "write encrypted blob: " ++ err)
            | .ok (ciphertext, sealedDEK), none =>
              .ok ⟨n, etag, ciphertext, c.marshalSealedDEK sealedDEK⟩

/-- The checks of `PutObject` before it touches the disk, and the path of the blob. -/
def admitPut (e : StorageEngine) (s : Store) (input : PutObjectInput) (io : PutFaults) :
    Except Text PathName :=
  match checkKey input.key, io.getBucket with
  | .error err, _ => .error err
  | .ok (), some err => .error (text "check bucket: " ++ err)
  | .ok (), none =>
    match s.ownedBucket input.bucket input.owner (permissionDenied input.bucket) with
    | .error err => .error err
    | .ok _ => e.blobPath input.bucket input.key

/-- `PutObject` up to the rename: the blob goes to a temporary file next to its path, and from there
to its path. An error removes the temporary file; directories stay. -/
def writeBlob (e : StorageEngine) (s : Store) (input : PutObjectInput) (io : PutFaults) :
    FileTree Bytes × Except Text Blob :=
  match e.admitPut s input io with
  | .error err => (s.tree, .error err)
  | .ok blobPath =>
    match io.mkdirAll, s.tree.mkdirAll blobPath.dropLast with
    | some err, _ => (s.tree, .error (text "create blob dir: " ++ err))
    | none, .error err => (s.tree, .error (text "create blob dir: " ++ err.message))
    | none, .ok tree =>
      match io.tempName with
      | .error err => (tree, .error (text "create temp file: " ++ err))
      | .ok name =>
        let tempPath := blobPath.dropLast ++ [name]
        match e.sealBody c input io, tree.create tempPath input.body with
        | _, .error err => (tree, .error (text "create temp file: " ++ err.message))
        | .error err, .ok temp => (temp.unlink tempPath, .error err)
        | .ok written, .ok temp =>
          let temp := temp.write tempPath written.contents
          match io.rename, temp.rename tempPath blobPath with
          | some err, _ => (temp.unlink tempPath, .error (text "rename blob: " ++ err))
          | none, .error err =>
            (temp.unlink tempPath, .error (text "rename blob: " ++ err.message))
          | none, .ok renamed => (renamed, .ok ⟨blobPath, written⟩)

/-- The metadata of an object that is put. -/
def objectInfo (input : PutObjectInput) (now : ℤ) (written : Sealed) : ObjectInfo where
  bucket := input.bucket
  key := input.key
  size := written.size
  contentType :=
    if input.contentType = [] then text "application/octet-stream" else input.contentType
  etag := written.etag
  owner := input.owner
  createdAt := now
  updatedAt := now
  encryptedDEK := written.encryptedDEK

/-- `PutObject`. If the metadata cannot be written, the blob is removed. -/
def putObject (e : StorageEngine) (s : Store) (input : PutObjectInput) (io : PutFaults) :
    Store × Except Text ObjectInfo :=
  match e.writeBlob c s input io with
  | (tree, .error err) => ({ s with tree := tree }, .error err)
  | (tree, .ok blob) =>
    let obj := objectInfo input io.now blob.written
    match io.putMetadata with
    | some err =>
      ({ s with tree := tree.unlink blob.path },
        .error (text "persist object metadata: " ++ err))
    | none =>
      ({ s with
          tree := tree
          objects := s.objects.insert (objectKey input.bucket input.key) obj
          usage := if e.meter then s.usage ++ [(input.owner, blob.written.size)] else s.usage },
        .ok obj)

/-- `decryptBlob` -/
def decryptBlob (e : StorageEngine) (ciphertext : Bytes) (obj : ObjectInfo) : Except Text Bytes :=
  match c.looksLikeX25519Envelope obj.encryptedDEK with
  | some env =>
    match e.keyStore with
    | none => .error (text "object is encrypted but no owner key store is configured")
    | some keyStore =>
      match keyStore.privateKeyForOwner obj.owner with
      | .error err => .error (text "resolve owner private key: " ++ err)
      | .ok ownerPriv =>
        match OwnerKeyEncryptor.decrypt c ciphertext env ownerPriv with
        | .error err => .error (text "decrypt object: " ++ err)
        | .ok plain => .ok plain
  | none =>
    match c.legacyDeriveOwnerKey obj.owner with
    | .error err => .error (text "derive legacy owner key: " ++ err)
    | .ok ownerKey =>
      match c.decryptAES256GCM ownerKey obj.encryptedDEK with
      | .error err => .error (text "decrypt legacy object: decrypt DEK: " ++ err)
      | .ok dek =>
        match c.decryptAES256GCM dek ciphertext with
        | .error err => .error (text "decrypt legacy object: decrypt content: " ++ err)
        | .ok plain => .ok plain

/-- The body of an object with its blob. -/
def openBody (e : StorageEngine) (obj : ObjectInfo) (blob : Except OsError Bytes) :
    Except Text Body :=
  match blob with
  | .error .isDir =>
    if obj.encryptedDEK = [] then .ok .directory
    else .error (text "read encrypted blob: " ++ OsError.isDir.message)
  | .error err => .error (text "open blob: " ++ err.message)
  | .ok contents =>
    if obj.encryptedDEK = [] then .ok (.bytes contents)
    else if e.encryptedMaxInMemoryBytes < obj.size then
      .error (text "encrypted object too large to read: " ++ ofInt obj.size ++
        text " bytes exceeds in-memory decryption limit of " ++
        ofInt e.encryptedMaxInMemoryBytes ++
        text " bytes (at-rest decryption buffers the whole object)")
    else
      match e.decryptBlob c contents obj with
      | .error err => .error err
      | .ok plain => .ok (.bytes plain)

/-- The message for an object without metadata. -/
def objectNotFound (bucket key : Text) : Text :=
  text "object \"" ++ key ++ text "\" not found in bucket \"" ++ bucket ++ text "\""

/-- `GetObject` -/
def getObject (e : StorageEngine) (s : Store) (bucket key owner : Text) :
    Except Text GetObjectOutput :=
  match s.ownedBucket bucket owner (permissionDenied bucket) with
  | .error err => .error err
  | .ok _ =>
    match s.objects.lookup (objectKey bucket key) with
    | none => .error (objectNotFound bucket key)
    | some obj =>
      match e.blobPath bucket key with
      | .error err => .error err
      | .ok blobPath =>
        match e.openBody c obj (s.tree.read blobPath) with
        | .error err => .error err
        | .ok body => .ok ⟨body, obj⟩

/-- The blob is removed; an error is logged, unless there was no blob. -/
def removeBlob (tree : FileTree Bytes) (io : DeleteFaults) (blobPath : PathName) : FileTree Bytes :=
  match io.remove, tree.remove blobPath with
  | none, .ok tree => tree
  | _, _ => tree

/-- `DeleteObject` -/
def deleteObject (e : StorageEngine) (s : Store) (bucket key owner : Text) (io : DeleteFaults) :
    Store × Except Text Unit :=
  match s.ownedBucket bucket owner (text "permission denied") with
  | .error err => (s, .error err)
  | .ok _ =>
    match s.objects.lookup (objectKey bucket key) with
    | none => (s, .error (objectNotFound bucket key))
    | some obj =>
      match e.blobPath bucket key with
      | .error err => (s, .error err)
      | .ok blobPath =>
        let tree := removeBlob s.tree io blobPath
        match io.deleteMetadata with
        | some err => ({ s with tree := tree }, .error (text "delete metadata: " ++ err))
        | none =>
          ({ s with
              tree := tree
              objects := s.objects.erase (objectKey bucket key)
              usage := if e.meter then s.usage ++ [(obj.owner, -obj.size)] else s.usage },
            .ok ())

end StorageEngine

/-! ## A small store -/

/-- Ciphers that do nothing, and a sealed key that starts with a one. -/
def openSecurity : Security where
  Envelope := Bytes
  KeyPair _ _ := True
  encryptAES256GCM _ plaintext _ := .ok plaintext
  decryptAES256GCM _ ciphertext := .ok ciphertext
  sealToX25519 _ dek _ := .ok dek
  openFromX25519 _ env := .ok env
  marshalSealedDEK env := 1 :: env
  looksLikeX25519Envelope
    | 1 :: env => some env
    | _ => none
  legacyDeriveOwnerKey _ := .ok []
  md5 _ := []

lemma openSecurity_correct : openSecurity.Correct where
  decrypt_encrypt h := by
    cases h
    rfl
  open_seal _ h := by
    cases h
    rfl
  looksLike_marshal h := by
    cases h
    rfl
  marshal_ne_nil env h := by cases h

/-- An engine that does not encrypt, with its data in `/data`. -/
def plainEngine : StorageEngine := ⟨[text "data"], 100, 0, 0, false, none⟩

/-- Nothing fails. -/
def noFaults : PutFaults :=
  ⟨none, none, .ok (text ".tmp-1"), none, .ok [], [], [], none, none, none, 0⟩

/-- A store with one empty bucket. -/
def oneBucket : Store where
  buckets := AList.singleton (text "box") ⟨text "box", text "0xa1"⟩
  objects := ∅
  tree := ∅
  usage := []
  valid := by
    intro name hname
    rw [AList.mem_keys] at hname
    have heq : name = text "box" := by simpa [AList.singleton, AList.keys, List.keys] using hname
    subst heq
    decide

/-- A body for the bucket. -/
def boxInput (key : String) (body : Bytes) : PutObjectInput :=
  ⟨text "box", text key, body, none, [], text "0xa1"⟩

end Moltbunker.Storage
