import Moltbunker.Storage.FailedPut

/-!
# The store as a map

Seen from outside the store is a map from buckets and keys to bodies. Inside there are two maps: the
metadata is under the key as it is, the blob at its cleaned path. Different keys may have the same
path, as `a/b` and `a//b` do. A put or a delete of one of them then changes what is read under the
other.

* `openBody_sealBody` — an object is read as it was put, encrypted or not;
* `objectKey_injective` — metadata of different objects is under different texts;
* `Kept.put`, `Kept.delete` — a put or delete, with no other object at the path of its blob, changes
  one entry of the map;
* `store_is_map` — the runs along which the store is a map.
-/

namespace Moltbunker.Storage

open Lib OwnerKeyEncryptor StorageEngine

/-! ## Metadata keys -/

/-- A valid bucket name has no slash. -/
lemma ValidBucketName.slash_notMem {name : Text} (h : ValidBucketName name) : '/' ∉ name := by
  intro hmem
  have hchar := List.all_eq_true.mp h.2.2.1 '/' hmem
  revert hchar
  decide

/-- Different objects have different metadata keys. -/
lemma objectKey_injective {bucket bucket' key key' : Text} (hbucket : ValidBucketName bucket)
    (hbucket' : ValidBucketName bucket') (h : objectKey bucket key = objectKey bucket' key') :
    bucket = bucket' ∧ key = key' := by
  have hhead : ∀ name k : Text, ValidBucketName name →
      (objectKey name k).takeWhile (· ≠ '/') = name := by
    intro name k hname
    have hpos : ∀ ch ∈ name, decide (ch ≠ '/') = true := by
      intro ch hch
      refine decide_eq_true ?_
      rintro rfl
      exact hname.slash_notMem hch
    unfold objectKey
    rw [List.append_assoc, List.takeWhile_append_of_pos hpos]
    simp [text]
  have hsame : bucket = bucket' := by
    rw [← hhead bucket key hbucket, h, hhead bucket' key' hbucket']
  subst hsame
  exact ⟨rfl, List.append_cancel_left h⟩

namespace StorageEngine

variable {c : Security} {e : StorageEngine} {s : Store} {input : PutObjectInput} {io : PutFaults}

/-! ## What is put is what is read -/

variable {ownerPriv ciphertext plain : Bytes} {owner denied : Text} {info : BucketInfo} {s' : Store}

/-- The body of `Encrypt` and `Decrypt`. -/
lemma decrypt_encrypt (hc : c.Correct) {plaintext ownerPub : Bytes} {sealedDEK : c.Envelope}
    (hpair : c.KeyPair ownerPub ownerPriv)
    (h : encrypt c io plaintext ownerPub = .ok (ciphertext, sealedDEK)) :
    decrypt c ciphertext sealedDEK ownerPriv = .ok plaintext ∧
      c.looksLikeX25519Envelope (c.marshalSealedDEK sealedDEK) = some sealedDEK := by
  unfold encrypt at h
  split at h
  · cases h
  · split at h
    · cases h
    · next dek _ =>
      split at h
      · cases h
      · next ct hencrypt =>
        split at h
        · cases h
        · next env hseal =>
          cases h
          unfold decrypt
          rw [hc.open_seal hpair hseal]
          dsimp only
          rw [hc.decrypt_encrypt hencrypt]
          exact ⟨rfl, hc.looksLike_marshal hseal⟩

variable {obj : ObjectInfo} {bucket : Text}

/-- **An object is read as it was put**, encrypted or not. -/
theorem openBody_sealBody (hc : c.Correct)
    (hkeys : ∀ keyStore, e.keyStore = some keyStore → keyStore.Paired c) {written : Sealed}
    (h : e.sealBody c input io = .ok written) (now : ℤ) :
    e.openBody c (objectInfo input now written) (.ok written.contents) =
      .ok (.bytes input.body) := by
  unfold sealBody at h
  split at h
  · cases h
  · dsimp only at h
    split at h
    · cases h
    · split at h
      · -- no encryption
        cases h
        simp [openBody, objectInfo]
      · next keyStore hstore =>
        split at h
        · cases h
        · next hsize =>
          split at h
          · cases h
          · cases h
          · next ownerPub hpub _ =>
            split at h
            · cases h
            · cases h
            · next ciphertext sealedDEK hencrypt _ =>
              cases h
              obtain ⟨ownerPriv, hpriv, hpair⟩ := hkeys keyStore hstore input.owner ownerPub hpub
              obtain ⟨hdecrypt, hlooks⟩ := decrypt_encrypt hc hpair hencrypt
              unfold openBody decryptBlob objectInfo
              simp only [if_neg (hc.marshal_ne_nil sealedDEK), if_neg hsize, hlooks, hstore, hpriv,
                hdecrypt]

/-! ## Successful calls -/

lemma ownedBucket_ok (h : s.ownedBucket bucket owner denied = .ok info) :
    s.buckets.lookup bucket = some info ∧ info.owner = owner := by
  unfold Store.ownedBucket at h
  split at h
  · cases h
  · next found hfound =>
    split at h
    · cases h
    · next howner =>
      cases h
      exact ⟨hfound, not_not.mp howner⟩

lemma ownedBucket_of_lookup (h : s.buckets.lookup bucket = some info) :
    s.ownedBucket bucket info.owner denied = .ok info := by
  simp [Store.ownedBucket, h]

/-- A put is admitted into a bucket that exists, and goes to the path of its blob. -/
lemma admitPut_ok {path : PathName} (h : e.admitPut s input io = .ok path) :
    (∃ info, s.buckets.lookup input.bucket = some info) ∧
      e.blobPath input.bucket input.key = .ok path := by
  unfold admitPut at h
  split at h
  · cases h
  · cases h
  · split at h
    · cases h
    · next info hbucket => exact ⟨⟨info, (ownedBucket_ok hbucket).1⟩, h⟩

/-- What a put has done when it succeeds. -/
lemma putObject_ok (h : e.putObject c s input io = (s', .ok obj)) :
    ∃ path written, e.blobPath input.bucket input.key = .ok path ∧
      (∃ info, s.buckets.lookup input.bucket = some info) ∧
      e.sealBody c input io = .ok written ∧ s'.buckets = s.buckets ∧
      s'.objects = s.objects.insert (objectKey input.bucket input.key)
        (objectInfo input io.now written) ∧
      ∀ q, s'.tree.fileAt q = if q = path then some written.contents else s.tree.fileAt q := by
  unfold putObject at h
  split at h
  · cases h
  · next tree blob hwrite =>
    obtain ⟨hadmitted, hsealed, hfiles⟩ := writeBlob_ok hwrite
    obtain ⟨hbucket, hpath⟩ := admitPut_ok hadmitted
    split at h
    · cases h
    · cases h
      exact ⟨blob.path, blob.written, hpath, hbucket, hsealed, rfl, rfl, hfiles⟩

/-- What a delete has done when it succeeds. -/
lemma deleteObject_ok {key : Text} {io : DeleteFaults}
    (h : e.deleteObject s bucket key owner io = (s', .ok ())) :
    ∃ path, e.blobPath bucket key = .ok path ∧
      (∃ info, s.buckets.lookup bucket = some info) ∧ s'.buckets = s.buckets ∧
      s'.objects = s.objects.erase (objectKey bucket key) ∧
      ∀ q, q ≠ path → s'.tree.fileAt q = s.tree.fileAt q := by
  unfold deleteObject at h
  split at h
  · cases h
  · next info hbucket =>
    split at h
    · cases h
    · split at h
      · cases h
      · next path hpath =>
        split at h
        · cases h
        · cases h
          refine ⟨path, hpath, ⟨info, (ownedBucket_ok hbucket).1⟩, rfl, rfl, ?_⟩
          intro q hne
          unfold removeBlob
          split
          · next tree _ hremove =>
            rw [FileTree.fileAt_remove hremove, if_neg hne]
          · rfl

end StorageEngine

/-! ## Runs -/

/-- The store and the map that it should be. -/
structure Service where
  store : Store
  last : Text → Text → Option Bytes

namespace Service

/-- A call that succeeds. -/
inductive Action where
  | put (input : PutObjectInput) (io : PutFaults)
  | delete (bucket key owner : Text) (io : DeleteFaults)

/-- A service without objects, on any buckets and any files. -/
def new (s : Store) : Service := ⟨{ s with objects := ∅ }, fun _ _ => none⟩

/-- The entry of a key in the map. -/
def setLast (last : Text → Text → Option Bytes) (bucket key : Text) (body : Option Bytes) :
    Text → Text → Option Bytes :=
  fun bucket' key' => if bucket' = bucket ∧ key' = key then body else last bucket' key'

variable (c : Security) (e : StorageEngine)

/-- A call that succeeds, or none. -/
def next (w : Service) : Action → Option Service
  | .put input io =>
    match e.putObject c w.store input io with
    | (store, .ok _) => some ⟨store, setLast w.last input.bucket input.key (some input.body)⟩
    | (_, .error _) => none
  | .delete bucket key owner io =>
    match e.deleteObject w.store bucket key owner io with
    | (store, .ok ()) => some ⟨store, setLast w.last bucket key none⟩
    | (_, .error _) => none

/-- The step relation. -/
def Step (w : Service) (a : Action) (w' : Service) : Prop := w.next c e a = some w'

/-- **The store is the map**: for every key of every bucket, `GetObject` returns the body that was
put last, or does not find the object. -/
def IsMap (w : Service) : Prop :=
  ∀ bucket info, w.store.buckets.lookup bucket = some info → ∀ key,
    match w.last bucket key with
    | some body => ∃ obj,
        e.getObject c w.store bucket key info.owner = .ok ⟨.bytes body, obj⟩
    | none => e.getObject c w.store bucket key info.owner =
        .error (objectNotFound bucket key)

/-- No other object has its blob where the object has it. -/
def Separate (s : Store) (bucket key : Text) : Prop :=
  ∀ entry ∈ s.objects.entries, (entry.2.bucket, entry.2.key) ≠ (bucket, key) →
    e.blobPath entry.2.bucket entry.2.key ≠ e.blobPath bucket key

instance (s : Store) (bucket key : Text) : Decidable (Separate e s bucket key) :=
  inferInstanceAs (Decidable (∀ entry ∈ s.objects.entries,
    (entry.2.bucket, entry.2.key) ≠ (bucket, key) →
      e.blobPath entry.2.bucket entry.2.key ≠ e.blobPath bucket key))

/-- The condition on a call. -/
def Apart (w : Service) : Action → Prop
  | .put input _ => Separate e w.store input.bucket input.key
  | .delete bucket key _ _ => Separate e w.store bucket key

instance (w : Service) : DecidablePred (w.Apart e)
  | .put _ _ => inferInstanceAs (Decidable (Separate ..))
  | .delete _ _ _ _ => inferInstanceAs (Decidable (Separate ..))

variable {c e} {w w' : Service} {a : Action}

/-- The object is stored with the body, or not at all. -/
def Holds (c : Security) (e : StorageEngine) (s : Store) (bucket key : Text) : Option Bytes → Prop
  | none => s.objects.lookup (objectKey bucket key) = none
  | some body => ∃ obj path contents, s.objects.lookup (objectKey bucket key) = some obj ∧
      e.blobPath bucket key = .ok path ∧ s.tree.fileAt path = some contents ∧
      e.openBody c obj (.ok contents) = .ok (.bytes body)

/-- Metadata is under the key of its object, in a bucket that exists, and every object is held as
the map says. -/
structure Kept (c : Security) (e : StorageEngine) (w : Service) : Prop where
  named : ∀ {raw obj}, w.store.objects.lookup raw = some obj →
    raw = objectKey obj.bucket obj.key ∧ obj.bucket ∈ w.store.buckets
  holds : ∀ bucket ∈ w.store.buckets, ∀ key,
    Holds c e w.store bucket key (w.last bucket key)

variable {s : Store} {bucket key : Text}

lemma mem_of_lookup {info : BucketInfo} (h : s.buckets.lookup bucket = some info) :
    bucket ∈ s.buckets :=
  AList.lookup_isSome.mp (by simp [h])

lemma Kept.isMap (h : Kept c e w) : w.IsMap c e := by
  intro bucket info hbucket key
  have hholds := h.holds bucket (mem_of_lookup hbucket) key
  cases hlast : w.last bucket key with
  | none =>
    rw [hlast] at hholds
    unfold getObject
    rw [ownedBucket_of_lookup hbucket]
    rw [show w.store.objects.lookup (objectKey bucket key) = none from hholds]
  | some body =>
    rw [hlast] at hholds
    obtain ⟨obj, path, contents, hobj, hpath, hfile, hbody⟩ := hholds
    exact ⟨obj, getObject_eq_bytes.mpr
      ⟨⟨info, ownedBucket_of_lookup hbucket⟩, hobj, path, contents, hpath, hfile,
        hbody⟩⟩

lemma kept_new : Kept c e (new s) where
  named h := by
    cases h
  holds bucket _ key := AList.lookup_empty _

/-- What is held for another object is still held, if its metadata and its file stay. -/
lemma Holds.frame {s' : Store} {body : Option Bytes} (h : Holds c e s bucket key body)
    (hobj : s'.objects.lookup (objectKey bucket key) = s.objects.lookup (objectKey bucket key))
    (hfile : ∀ obj, s.objects.lookup (objectKey bucket key) = some obj →
      ∀ path, e.blobPath bucket key = .ok path → s'.tree.fileAt path = s.tree.fileAt path) :
    Holds c e s' bucket key body := by
  cases body with
  | none => exact hobj.trans h
  | some body =>
    obtain ⟨obj, path, contents, hlookup, hpath, hcontents, hbody⟩ := h
    exact ⟨obj, path, contents, hobj.trans hlookup, hpath,
      (hfile obj hlookup path hpath).trans hcontents, hbody⟩

variable {bucket' key' : Text} {obj : ObjectInfo} {store : Store}

/-- An object that is there has its blob elsewhere. -/
lemma Kept.blobPath_ne (h : Kept c e w) (hseparate : Separate e w.store bucket key)
    (hbucket' : bucket' ∈ w.store.buckets) (hne : ¬ (bucket' = bucket ∧ key' = key))
    (hobj : w.store.objects.lookup (objectKey bucket' key') = some obj) :
    e.blobPath bucket' key' ≠ e.blobPath bucket key := by
  obtain ⟨hraw, hin⟩ := h.named hobj
  obtain ⟨rfl, rfl⟩ := objectKey_injective (w.store.valid _ hbucket') (w.store.valid _ hin) hraw
  refine hseparate ⟨_, obj⟩ (AList.mem_lookup_iff.mp hobj) ?_
  intro heq
  exact hne (Prod.mk.inj heq)

/-- Different objects have different metadata keys in the store. -/
lemma objectKey_ne (hbucket : bucket ∈ s.buckets) (hbucket' : bucket' ∈ s.buckets)
    (hne : ¬ (bucket' = bucket ∧ key' = key)) : objectKey bucket' key' ≠ objectKey bucket key := by
  intro heq
  exact hne (objectKey_injective (s.valid _ hbucket') (s.valid _ hbucket) heq)

/-- A put changes one entry. -/
lemma Kept.put (h : Kept c e w) (hc : c.Correct)
    (hkeys : ∀ keyStore, e.keyStore = some keyStore → keyStore.Paired c) {input : PutObjectInput}
    {io : PutFaults} (hput : e.putObject c w.store input io = (store, .ok obj))
    (hseparate : Separate e w.store input.bucket input.key) :
    Kept c e ⟨store, setLast w.last input.bucket input.key (some input.body)⟩ := by
  obtain ⟨path, written, hpath, ⟨info, hinfo⟩, hsealed, hbuckets, hobjects, hfiles⟩ :=
    putObject_ok hput
  have hin := mem_of_lookup hinfo
  constructor
  · intro raw obj hraw
    rw [hobjects] at hraw
    rw [hbuckets]
    by_cases heq : raw = objectKey input.bucket input.key
    · rw [heq, AList.lookup_insert, Option.some.injEq] at hraw
      rw [heq, ← hraw]
      exact ⟨rfl, hin⟩
    · rw [AList.lookup_insert_ne heq] at hraw
      exact h.named hraw
  · intro bucket hbucket key
    dsimp only at hbucket ⊢
    rw [hbuckets] at hbucket
    unfold setLast
    split
    · next heq =>
      obtain ⟨rfl, rfl⟩ := heq
      refine ⟨_, path, written.contents, ?_, hpath, ?_, openBody_sealBody hc hkeys hsealed io.now⟩
      · rw [hobjects, AList.lookup_insert]
      · rw [hfiles, if_pos rfl]
    · next hne =>
      refine (h.holds bucket hbucket key).frame ?_ ?_
      · rw [hobjects]
        exact AList.lookup_insert_ne (objectKey_ne hin hbucket hne)
      · intro obj' hobj' path' hpath'
        rw [hfiles, if_neg]
        rintro rfl
        exact h.blobPath_ne hseparate hbucket hne hobj' (hpath'.trans hpath.symm)

/-- A delete removes one entry. -/
lemma Kept.delete (h : Kept c e w) {owner : Text} {io : DeleteFaults}
    (hdelete : e.deleteObject w.store bucket key owner io = (store, .ok ()))
    (hseparate : Separate e w.store bucket key) :
    Kept c e ⟨store, setLast w.last bucket key none⟩ := by
  obtain ⟨path, hpath, ⟨info, hinfo⟩, hbuckets, hobjects, hfiles⟩ :=
    deleteObject_ok hdelete
  have hin := mem_of_lookup hinfo
  constructor
  · intro raw obj hraw
    rw [hobjects] at hraw
    rw [hbuckets]
    by_cases heq : raw = objectKey bucket key
    · rw [heq, AList.lookup_erase] at hraw
      cases hraw
    · rw [AList.lookup_erase_ne heq] at hraw
      exact h.named hraw
  · intro bucket' hbucket' key'
    dsimp only at hbucket' ⊢
    rw [hbuckets] at hbucket'
    unfold setLast
    split
    · next heq =>
      obtain ⟨rfl, rfl⟩ := heq
      show store.objects.lookup _ = none
      rw [hobjects, AList.lookup_erase]
    · next hne =>
      refine (h.holds bucket' hbucket' key').frame ?_ ?_
      · rw [hobjects]
        exact AList.lookup_erase_ne (objectKey_ne hin hbucket' hne)
      · intro obj' hobj' path' hpath'
        refine hfiles path' ?_
        rintro rfl
        exact h.blobPath_ne hseparate hbucket' hne hobj' (hpath'.trans hpath.symm)

/-- A call that succeeds keeps this, if no other object has its blob at the path. -/
lemma Kept.step (h : Kept c e w) (hc : c.Correct)
    (hkeys : ∀ keyStore, e.keyStore = some keyStore → keyStore.Paired c)
    (hapart : w.Apart e a) (hstep : Step c e w a w') : Kept c e w' := by
  unfold Step at hstep
  cases a with
  | put input io =>
    simp only [next] at hstep
    split at hstep
    · next store obj hput =>
      cases hstep
      exact h.put hc hkeys hput hapart
    · cases hstep
  | delete bucket key owner io =>
    simp only [next] at hstep
    split at hstep
    · next store hdelete =>
      cases hstep
      exact h.delete hdelete hapart
    · cases hstep

/-- **The store is a map along every run of successful puts and deletes in which no call is made for
an object while another object has its blob at the same path.** The run starts without objects, with
any buckets, any files and any engine whose keys and ciphers work. -/
theorem store_is_map (hc : c.Correct)
    (hkeys : ∀ keyStore, e.keyStore = some keyStore → keyStore.Paired c) {s : Store}
    {l : List (Action × Service)} (h : Path (Step c e) (new s) l)
    (hapart : StepsMeet (Apart e) (new s) l) : StatesMeet (IsMap c e) (new s) l := by
  have hall := Path.invariant_of_steps (P := Kept c e) (G := Apart e)
    (fun w a w' hw hg hstep => hw.step hc hkeys hg hstep) kept_new h hapart
  exact hall.mono fun w hw => hw.isMap

/-- Two keys with different paths are put, and one of them is deleted. -/
def differentPaths : List (Action × Service) :=
  trace (next openSecurity plainEngine) (new oneBucket)
    [.put (boxInput "dir/x" [1]) noFaults, .put (boxInput "dir/y" [2]) noFaults,
      .delete (text "box") (text "dir/x") (text "0xa1") ⟨none, none⟩]

/-- The run has three steps, and the store is a map along it. -/
theorem store_is_map_different_paths :
    differentPaths.length = 3 ∧ StepsMeet (Apart plainEngine) (new oneBucket) differentPaths ∧
      StatesMeet (IsMap openSecurity plainEngine) (new oneBucket) differentPaths := by
  have hpath : Path (Step openSecurity plainEngine) (new oneBucket) differentPaths := trace_path ..
  have hapart : StepsMeet (Apart plainEngine) (new oneBucket) differentPaths := by decide +kernel
  refine ⟨by decide +kernel, hapart, store_is_map openSecurity_correct ?_ hpath hapart⟩
  intro keyStore hstore
  cases hstore

/-- Two keys with the same path are put. -/
def samePath : List (Action × Service) :=
  trace (next openSecurity plainEngine) (new oneBucket)
    [.put (boxInput "dir/x" [1]) noFaults, .put (boxInput "dir//x" [2]) noFaults]

/-- **A put under `dir//x` changes what is read under `dir/x`.** -/
theorem same_path_overwritten :
    Path (Step openSecurity plainEngine) (new oneBucket) samePath ∧ samePath.length = 2 ∧
      (endState (new oneBucket) samePath).last (text "box") (text "dir/x") = some [1] ∧
      (plainEngine.getObject openSecurity (endState (new oneBucket) samePath).store (text "box")
        (text "dir/x") (text "0xa1")).map GetObjectOutput.body = .ok (.bytes [2]) ∧
      ¬ StatesMeet (IsMap openSecurity plainEngine) (new oneBucket) samePath := by
  have hlast : (endState (new oneBucket) samePath).last (text "box") (text "dir/x") = some [1] := by
    decide +kernel
  have hread : (plainEngine.getObject openSecurity (endState (new oneBucket) samePath).store
      (text "box") (text "dir/x") (text "0xa1")).map GetObjectOutput.body = .ok (.bytes [2]) := by
    decide +kernel
  refine ⟨trace_path .., by decide +kernel, hlast, hread, ?_⟩
  intro hall
  have hbucket : (endState (new oneBucket) samePath).store.buckets.lookup (text "box") =
      some ⟨text "box", text "0xa1"⟩ := by decide +kernel
  have hmap := hall.endState (text "box") ⟨text "box", text "0xa1"⟩ hbucket (text "dir/x")
  rw [hlast] at hmap
  obtain ⟨obj, hobj⟩ := hmap
  rw [hobj] at hread
  simp [Except.map] at hread

end Service

end Moltbunker.Storage
