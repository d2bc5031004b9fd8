import Moltbunker.Storage.Engine

/-!
# A put that fails

`PutObject` renames the new blob to its path before it writes the metadata. If the metadata cannot
be written, the blob is removed. Where the path was that of an object which existed before, its old
body is gone by then: the object is still listed, and cannot be read.

* `writeBlob_error`, `writeBlob_ok` — what `PutObject` does to the files up to the rename;
* `getObject_eq_bytes` — when an object is readable;
* `put_failed_unchanged_iff` — the failed puts that change nothing.
-/

namespace Moltbunker.Storage

open Lib FileTree

namespace StorageEngine

variable {c : Security} {e : StorageEngine} {s s' : Store} {input : PutObjectInput} {io : PutFaults}

/-! ## Up to the rename -/

variable {tree temp : FileTree Bytes} {p q : PathName} {contents body : Bytes} {info : ObjectInfo}

/-- A temporary file that is removed again leaves the files as they were. -/
lemma fileAt_unlink_temp (h : tree.create p contents = .ok temp) :
    (temp.unlink p).fileAt q = tree.fileAt q := by
  obtain ⟨hfree, hcreated⟩ := fileAt_create (q := q) h
  rw [fileAt_unlink, hcreated]
  split
  · next heq => rw [heq, hfree]
  · rfl

variable {contents' : Bytes} {bucket key owner : Text}

/-- So does one that was written once more. -/
lemma fileAt_unlink_rewritten (h : tree.create p contents = .ok temp) :
    ((temp.write p contents').unlink p).fileAt q = tree.fileAt q := by
  obtain ⟨hfree, hcreated⟩ := fileAt_create (q := q) h
  rw [fileAt_unlink, fileAt_write, hcreated]
  split
  · next heq => rw [heq, hfree]
  · rfl

/-- A temporary file that is renamed is the only file that changes. -/
lemma fileAt_rename_temp {renamed : FileTree Bytes} {blobPath : PathName}
    (h : tree.create p contents = .ok temp)
    (hrename : (temp.write p contents').rename p blobPath = .ok renamed) :
    renamed.fileAt q = if q = blobPath then some contents' else tree.fileAt q := by
  obtain ⟨hfree, hcreated⟩ := fileAt_create (q := q) h
  obtain ⟨moved, hmoved, hfiles⟩ := fileAt_rename hrename
  rw [fileAt_write, if_pos rfl, Option.some.injEq] at hmoved
  rw [hfiles, ← hmoved]
  split
  · rfl
  · rw [fileAt_write, hcreated]
    split
    · next heq => rw [heq, hfree]
    · rfl

/-- A put that fails before the rename, or with it, leaves every file. -/
lemma writeBlob_error {err : Text} (h : e.writeBlob c s input io = (tree, .error err)) : tree.fileAt q = s.tree.fileAt q := by
  unfold writeBlob at h
  split at h
  · cases h
    rfl
  · next blobPath _ =>
    split at h
    · cases h
      rfl
    · cases h
      rfl
    · next made _ hmade =>
      have hdirs : made.fileAt q = s.tree.fileAt q := fileAt_mkdirAll hmade
      split at h
      · cases h
        exact hdirs
      · next name _ =>
        dsimp only at h
        split at h
        · cases h
          exact hdirs
        · next err temp _ hcreate =>
          cases h
          exact (fileAt_unlink_temp hcreate).trans hdirs
        · next written temp _ hcreate =>
          split at h
          · cases h
            exact (fileAt_unlink_rewritten hcreate).trans hdirs
          · cases h
            exact (fileAt_unlink_rewritten hcreate).trans hdirs
          · cases h

/-- A put that gets past the rename has written its body at the path of the blob, and no other
file. -/
lemma writeBlob_ok {blob : Blob} (h : e.writeBlob c s input io = (tree, .ok blob)) :
    e.admitPut s input io = .ok blob.path ∧ e.sealBody c input io = .ok blob.written ∧
      ∀ q, tree.fileAt q =
        if q = blob.path then some blob.written.contents else s.tree.fileAt q := by
  unfold writeBlob at h
  split at h
  · cases h
  · next blobPath hadmitted =>
    split at h
    · cases h
    · cases h
    · next made _ hmade =>
      split at h
      · cases h
      · next name _ =>
        dsimp only at h
        split at h
        · cases h
        · cases h
        · next written temp hsealed hcreate =>
          split at h
          · cases h
          · cases h
          · next renamed _ hrename =>
            cases h
            refine ⟨hadmitted, hsealed, ?_⟩
            intro q
            rw [fileAt_rename_temp hcreate hrename, fileAt_mkdirAll hmade]

/-! ## Reading -/

/-- A body comes from a file. -/
lemma openBody_read {path : PathName} : e.openBody c info (tree.read path) = .ok (.bytes body) ↔
    ∃ contents, tree.fileAt path = some contents ∧
      e.openBody c info (.ok contents) = .ok (.bytes body) := by
  cases hread : tree.read path with
  | ok contents =>
    rw [read_eq_ok] at hread
    simp [hread]
  | error err =>
    have hfile : tree.fileAt path = none := by
      cases hfile : tree.fileAt path with
      | none => rfl
      | some contents =>
        rw [read_eq_ok.mpr hfile] at hread
        cases hread
    have hopen : e.openBody c info (.error err) ≠ .ok (.bytes body) := by
      unfold openBody
      cases err with
      | isDir =>
        dsimp only
        split <;> simp
      | notExist => simp
      | exist => simp
      | notDir => simp
      | notEmpty => simp
    simp [hfile, hopen]

/-- **An object is readable** when the caller owns the bucket, there is metadata, and the file at
the path of the blob can be opened with it. -/
theorem getObject_eq_bytes : e.getObject c s bucket key owner = .ok ⟨.bytes body, info⟩ ↔
    (∃ b, s.ownedBucket bucket owner (permissionDenied bucket) = .ok b) ∧
    s.objects.lookup (objectKey bucket key) = some info ∧
    ∃ path contents, e.blobPath bucket key = .ok path ∧ s.tree.fileAt path = some contents ∧
      e.openBody c info (.ok contents) = .ok (.bytes body) := by
  unfold getObject
  cases s.ownedBucket bucket owner (permissionDenied bucket) with
  | error err => simp
  | ok b =>
    cases s.objects.lookup (objectKey bucket key) with
    | none => simp
    | some obj =>
      cases e.blobPath bucket key with
      | error err => simp
      | ok path =>
        dsimp only
        constructor
        · intro h
          split at h
          · cases h
          · next body' hopen =>
            cases h
            obtain ⟨contents, hfile, hbody⟩ := openBody_read.mp hopen
            exact ⟨⟨b, rfl⟩, rfl, path, contents, rfl, hfile, hbody⟩
        · rintro ⟨-, hobj, path', contents, hpath, hfile, hbody⟩
          cases hobj
          cases hpath
          rw [openBody_read.mpr ⟨contents, hfile, hbody⟩]

/-! ## A failed put -/

/-- Every object that could be read can still be read, with its body and metadata, and no metadata
or usage was added or changed. -/
structure Unchanged (c : Security) (e : StorageEngine) (s s' : Store) : Prop where
  readable : ∀ bucket key owner body info,
    e.getObject c s bucket key owner = .ok ⟨.bytes body, info⟩ →
      e.getObject c s' bucket key owner = .ok ⟨.bytes body, info⟩
  metadata : s'.objects = s.objects
  usage : s'.usage = s.usage

/-- The put gets past the rename, and the path of its blob is that of an object that could be
read. -/
def ReplacesBlob (c : Security) (e : StorageEngine) (s : Store) (input : PutObjectInput)
    (io : PutFaults) : Prop :=
  ∃ blob, (e.writeBlob c s input io).2 = .ok blob ∧
    ∃ bucket key owner body info, e.getObject c s bucket key owner = .ok ⟨.bytes body, info⟩ ∧
      e.blobPath bucket key = .ok blob.path

/-- An object stays readable where its file stays. -/
lemma getObject_of_fileAt (h : e.getObject c s bucket key owner = .ok ⟨.bytes body, info⟩)
    (hfile : ∀ path, e.blobPath bucket key = .ok path → tree.fileAt path = s.tree.fileAt path) :
    e.getObject c { s with tree := tree } bucket key owner = .ok ⟨.bytes body, info⟩ := by
  rw [getObject_eq_bytes] at h ⊢
  obtain ⟨hbucket, hobj, path, contents, hpath, hcontents, hbody⟩ := h
  exact ⟨hbucket, hobj, path, contents, hpath, (hfile path hpath).trans hcontents, hbody⟩

/-- **A failed put changes nothing iff it has not replaced the blob of an object.** For every state
of the store, every input and every failure. -/
theorem put_failed_unchanged_iff {err : Text} (h : (e.putObject c s input io).2 = .error err) :
    Unchanged c e s (e.putObject c s input io).1 ↔ ¬ ReplacesBlob c e s input io := by
  unfold putObject at h ⊢
  cases hwrite : e.writeBlob c s input io with
  | mk tree result =>
    cases result with
    | error err' =>
      -- the put failed before the rename
      refine iff_of_true ⟨?_, rfl, rfl⟩ ?_
      · intro bucket key owner body info hread
        exact getObject_of_fileAt hread fun path _ => writeBlob_error hwrite
      · rintro ⟨blob, hok, -⟩
        rw [hwrite] at hok
        cases hok
    | ok blob =>
      obtain ⟨-, -, hfiles⟩ := writeBlob_ok hwrite
      have hafter : ∀ q, (tree.unlink blob.path).fileAt q =
          if q = blob.path then none else s.tree.fileAt q := by
        intro q
        rw [fileAt_unlink, hfiles]
        split <;> rfl
      rw [hwrite] at h
      cases hput : io.putMetadata with
      | none =>
        rw [hput] at h
        cases h
      | some err' =>
        constructor
        · -- the blob that was replaced is gone
          rintro hsame ⟨blob', hok, bucket, key, owner, body, info, hread, hpath⟩
          rw [hwrite] at hok
          cases hok
          have hread' := hsame.readable bucket key owner body info hread
          rw [getObject_eq_bytes] at hread'
          obtain ⟨-, -, path, contents, hpath', hcontents, -⟩ := hread'
          rw [hpath] at hpath'
          cases hpath'
          rw [hafter, if_pos rfl] at hcontents
          cases hcontents
        · intro hkept
          refine ⟨?_, rfl, rfl⟩
          intro bucket key owner body info hread
          refine getObject_of_fileAt hread ?_
          intro path hpath
          rw [hafter, if_neg]
          rintro rfl
          exact hkept ⟨blob, by rw [hwrite], bucket, key, owner, body, info, hread, hpath⟩

/-- A store with one object. -/
def oneObject : Store :=
  (plainEngine.putObject openSecurity oneBucket (boxInput "x" [1]) noFaults).1

/-- A reader that fails. -/
def brokenInput : PutObjectInput :=
  { boxInput "x" [2] with bodyErr := some (text "unexpected EOF") }

/-- A put whose body cannot be read leaves the object. -/
theorem put_failed_unchanged_reading :
    (plainEngine.putObject openSecurity oneObject brokenInput noFaults).2 =
        .error (text "write blob: unexpected EOF") ∧
      Unchanged openSecurity plainEngine oneObject
        (plainEngine.putObject openSecurity oneObject brokenInput noFaults).1 := by
  have hfailed : (plainEngine.putObject openSecurity oneObject brokenInput noFaults).2 =
      .error (text "write blob: unexpected EOF") := by decide +kernel
  refine ⟨hfailed, (put_failed_unchanged_iff hfailed).mpr ?_⟩
  rintro ⟨blob, hok, -⟩
  have hwrite :
      (plainEngine.writeBlob openSecurity oneObject brokenInput noFaults).2.isOk = false := by
    decide +kernel
  rw [hok] at hwrite
  cases hwrite

/-- The metadata cannot be written. -/
def fullMetadata : PutFaults :=
  { noFaults with putMetadata := some (text "no space left on device") }

/-- **The object is lost**: it could be read before the put that failed, and cannot be opened
after it. -/
theorem put_failed_loses_object :
    (plainEngine.putObject openSecurity oneObject (boxInput "x" [2]) fullMetadata).2 =
        .error (text "persist object metadata: no space left on device") ∧
      (plainEngine.getObject openSecurity oneObject (text "box") (text "x")
        (text "0xa1")).map GetObjectOutput.body = .ok (.bytes [1]) ∧
      plainEngine.getObject openSecurity
        (plainEngine.putObject openSecurity oneObject (boxInput "x" [2]) fullMetadata).1
        (text "box") (text "x") (text "0xa1") =
          .error (text "open blob: no such file or directory") ∧
      ¬ Unchanged openSecurity plainEngine oneObject
        (plainEngine.putObject openSecurity oneObject (boxInput "x" [2]) fullMetadata).1 := by
  have hafter : plainEngine.getObject openSecurity
      (plainEngine.putObject openSecurity oneObject (boxInput "x" [2]) fullMetadata).1
      (text "box") (text "x") (text "0xa1") =
        .error (text "open blob: no such file or directory") := by decide +kernel
  refine ⟨by decide +kernel, by decide +kernel, hafter, ?_⟩
  intro hsame
  have hread := hsame.readable (text "box") (text "x") (text "0xa1") [1]
    ⟨text "box", text "x", 1, text "application/octet-stream", [], text "0xa1", 0, 0, []⟩
    (by decide +kernel)
  cases hread

end StorageEngine

end Moltbunker.Storage
