import Moltbunker.Storage.Objects

/-!
# Metered storage

The engine tells a hook the size of each object that is put or deleted, and `ServiceMeter` of
`internal/payment/service_metering.go` adds it to the bytes of the wallet or takes it from them.
`GetUsage` of `internal/storage/metadata.go` adds up the sizes in the metadata. A put under a key
that has an object replaces its metadata, and the hook is not told of the size that is gone.

* `putObject_told`, `deleteObject_told` — what a call changes, and what it tells the hook;
* `metered_is_stored` — the bytes metered are those stored, if no object that has bytes is
  overwritten;
* `overwrite_metered_twice` — after a put over an object both sizes are metered.
-/

namespace Moltbunker.Storage

open Function Lib

/-! ## The meter -/

/-- `WalletServiceUsage`, as far as storage is concerned. -/
structure WalletServiceUsage where
  storageBytes : Int64
  storageOps : Int64

/-- `ServiceMeter`. A wallet without a record reads as the one that `getOrCreate` makes. -/
abbrev ServiceMeter := Text → WalletServiceUsage

/-- `RecordStorageUpload` -/
def ServiceMeter.recordStorageUpload (m : ServiceMeter) (wallet : Text) (sizeBytes : Int64) :
    ServiceMeter :=
  update m wallet ⟨(m wallet).storageBytes + sizeBytes, (m wallet).storageOps + 1⟩

/-- `RecordStorageDelete` -/
def ServiceMeter.recordStorageDelete (m : ServiceMeter) (wallet : Text) (sizeBytes : Int64) :
    ServiceMeter :=
  let left := (m wallet).storageBytes - sizeBytes
  update m wallet ⟨if left < 0 then 0 else left, (m wallet).storageOps + 1⟩

/-! ## Usage -/

/-- `UsageReport` -/
structure UsageReport where
  walletAddress : Text
  totalBytes : Int64
  objectCount : ℕ
  bucketCount : ℕ

/-- `GetUsage` -/
def Store.getUsage (s : Store) (owner : Text) : UsageReport where
  walletAddress := owner
  totalBytes := (s.objects.entries.map fun entry =>
    if entry.2.owner = owner then Int64.ofInt entry.2.size else 0).sum
  objectCount := tableCount s.objects fun obj => obj.owner = owner
  bucketCount := tableCount s.buckets fun info => owner = [] ∨ info.owner = owner

/-- The bytes that a wallet stores. -/
def stored (objects : Table Text ObjectInfo) (wallet : Text) : ℤ :=
  tableSum objects fun obj => if obj.owner = wallet then obj.size else 0

lemma totalBytes_getUsage (s : Store) (owner : Text) :
    (s.getUsage owner).totalBytes = Int64.ofInt (stored s.objects owner) := by
  unfold Store.getUsage stored tableSum
  dsimp only
  induction s.objects.entries with
  | nil => rfl
  | cons entry rest ih =>
    rw [List.map_cons, List.sum_cons, ih, List.map_cons, List.sum_cons, Int64.ofInt_add]
    split_ifs <;> rfl

lemma stored_nonneg {objects : Table Text ObjectInfo}
    (h : ∀ raw obj, objects.lookup raw = some obj → 0 ≤ obj.size) (wallet : Text) :
    0 ≤ stored objects wallet := by
  refine List.sum_nonneg ?_
  intro size hsize
  obtain ⟨⟨raw, obj⟩, hentry, rfl⟩ := List.mem_map.mp hsize
  have hnonneg := h raw obj (AList.mem_lookup_iff.mpr hentry)
  dsimp only
  split_ifs
  · exact hnonneg
  · exact le_rfl

/-! ## What the hook is told -/

namespace StorageEngine

variable {c : Security} {e : StorageEngine} {s : Store}

lemma sealBody_size {input : PutObjectInput} {io : PutFaults} {written : Sealed}
    (h : e.sealBody c input io = .ok written) : written.size = input.body.length := by
  unfold sealBody at h
  grind

/-- A put fails and tells nothing, or replaces the metadata under its key and tells the size. -/
lemma putObject_told (hmeter : e.meter = true) (input : PutObjectInput) (io : PutFaults) :
    ((e.putObject c s input io).1.objects = s.objects ∧
        (e.putObject c s input io).1.usage = s.usage) ∨
      ∃ obj : ObjectInfo, obj.owner = input.owner ∧ obj.size = input.body.length ∧
        (e.putObject c s input io).1.objects =
          s.objects.insert (objectKey input.bucket input.key) obj ∧
        (e.putObject c s input io).1.usage = s.usage ++ [(input.owner, obj.size)] := by
  unfold putObject
  split
  · exact .inl ⟨rfl, rfl⟩
  · next tree blob hwrite =>
    split
    · exact .inl ⟨rfl, rfl⟩
    · have hsize := sealBody_size (writeBlob_ok hwrite).2.1
      exact .inr ⟨_, rfl, hsize, rfl, if_pos hmeter⟩

/-- A delete fails and tells nothing, or removes an object and tells its size. -/
lemma deleteObject_told (hmeter : e.meter = true) (bucket key owner : Text) (io : DeleteFaults) :
    ((e.deleteObject s bucket key owner io).1.objects = s.objects ∧
        (e.deleteObject s bucket key owner io).1.usage = s.usage) ∨
      ∃ obj, s.objects.lookup (objectKey bucket key) = some obj ∧
        (e.deleteObject s bucket key owner io).1.objects =
          s.objects.erase (objectKey bucket key) ∧
        (e.deleteObject s bucket key owner io).1.usage = s.usage ++ [(obj.owner, -obj.size)] := by
  unfold deleteObject
  grind

end StorageEngine

/-! ## Runs -/

/-- The store, and the meter that its hook belongs to. -/
structure Metering where
  store : Store
  meter : ServiceMeter

namespace Metering

/-- No objects and no records, on any buckets and any files. -/
def new (s : Store) : Metering := ⟨{ s with objects := ∅ }, fun _ => ⟨0, 0⟩⟩

/-- What the hook was told by a call. -/
def told (s s' : Store) : List (Text × ℤ) := s'.usage.drop s.usage.length

/-- A put or a delete, which may fail. -/
def next (c : Security) (e : StorageEngine) (w : Metering) : Service.Action → Option Metering
  | .put input io =>
    let store := (e.putObject c w.store input io).1
    some ⟨store, (told w.store store).foldl
      (fun m u => m.recordStorageUpload u.1 (Int64.ofInt u.2)) w.meter⟩
  | .delete bucket key owner io =>
    let store := (e.deleteObject w.store bucket key owner io).1
    some ⟨store, (told w.store store).foldl
      (fun m u => m.recordStorageDelete u.1 (Int64.ofInt (-u.2))) w.meter⟩

/-- **The bytes metered for each wallet are those that it stores.** -/
def Metered (w : Metering) : Prop :=
  ∀ wallet, (w.meter wallet).storageBytes = (w.store.getUsage wallet).totalBytes

/-- An object that is overwritten is empty, and what a wallet stores stays below `2 ^ 63`. -/
def Fresh (w : Metering) : Service.Action → Prop
  | .put input _ =>
    (∀ obj ∈ w.store.objects.lookup (objectKey input.bucket input.key), obj.size = 0) ∧
      stored w.store.objects input.owner + input.body.length < 2 ^ 63
  | .delete .. => True

instance (w : Metering) : DecidablePred w.Fresh
  | .put _ _ => inferInstanceAs (Decidable (_ ∧ _))
  | .delete .. => inferInstanceAs (Decidable True)

/-- What is stored is what is metered, and fits into the counter. -/
structure Exact (w : Metering) : Prop where
  size_nonneg : ∀ raw obj, w.store.objects.lookup raw = some obj → 0 ≤ obj.size
  stored_lt : ∀ wallet, stored w.store.objects wallet < 2 ^ 63
  bytes : ∀ wallet, (w.meter wallet).storageBytes = Int64.ofInt (stored w.store.objects wallet)

lemma Exact.metered {w : Metering} (h : w.Exact) : w.Metered := by
  intro wallet
  rw [h.bytes, totalBytes_getUsage]

lemma exact_new (s : Store) : (new s).Exact where
  size_nonneg _ _ h := by cases h
  stored_lt _ := show (0 : ℤ) < 2 ^ 63 by decide
  bytes _ := rfl

variable {c : Security} {e : StorageEngine} {w w' : Metering} {a : Service.Action} {s' : Store}
  {raw : Text} {obj : ObjectInfo}

/-- What one wallet stores changes, and its counter with it. -/
lemma Exact.change (h : w.Exact) {d : ℤ} {usage : WalletServiceUsage}
    (hsizes : ∀ raw obj, s'.objects.lookup raw = some obj → 0 ≤ obj.size) (wallet : Text)
    (hstored : ∀ other, stored s'.objects other =
      stored w.store.objects other + if wallet = other then d else 0)
    (hlt : stored w.store.objects wallet + d < 2 ^ 63)
    (husage : usage.storageBytes = Int64.ofInt (stored w.store.objects wallet + d)) :
    Exact ⟨s', update w.meter wallet usage⟩ := by
  refine ⟨hsizes, fun other => ?_, fun other => ?_⟩
  · have hother := h.stored_lt other
    rw [hstored]
    split_ifs with heq
    · exact heq ▸ hlt
    · omega
  · rw [hstored]
    by_cases heq : wallet = other
    · subst heq
      rw [if_pos rfl, ← husage]
      simp
    · rw [if_neg heq, add_zero, ← h.bytes]
      simp [update_of_ne (Ne.symm heq)]

/-- An object is written where there was none, or an empty one. -/
lemma Exact.upload (h : w.Exact) (hobjects : s'.objects = w.store.objects.insert raw obj)
    (hold : ∀ old ∈ w.store.objects.lookup raw, old.size = 0) (hsize : 0 ≤ obj.size)
    (hroom : stored w.store.objects obj.owner + obj.size < 2 ^ 63) :
    Exact ⟨s', w.meter.recordStorageUpload obj.owner (Int64.ofInt obj.size)⟩ := by
  have hsizes := h.size_nonneg
  refine h.change (by grind) obj.owner (fun other => ?_) hroom ?_
  · unfold stored
    rw [hobjects, tableSum_insert, add_comm]
    cases hraw : w.store.objects.lookup raw with
    | none => rw [erase_eq_self hraw]
    | some old =>
      rw [tableSum_erase hraw, hold old hraw, ite_self, zero_add]
  · rw [Int64.ofInt_add, ← h.bytes]

/-- An object is removed; the counter does not become negative. -/
lemma Exact.delete (h : w.Exact) (hobjects : s'.objects = w.store.objects.erase raw)
    (hobj : w.store.objects.lookup raw = some obj) :
    Exact ⟨s', w.meter.recordStorageDelete obj.owner (Int64.ofInt obj.size)⟩ := by
  have hsizes : ∀ raw obj, s'.objects.lookup raw = some obj → 0 ≤ obj.size := by
    have := h.size_nonneg
    grind
  have hstored : ∀ other, stored s'.objects other =
      stored w.store.objects other + if obj.owner = other then -obj.size else 0 := by
    intro other
    unfold stored
    rw [hobjects, tableSum_erase hobj]
    split_ifs <;> ring
  have hlt : stored w.store.objects obj.owner + -obj.size < 2 ^ 63 := by
    have := h.stored_lt obj.owner
    have := h.size_nonneg raw obj hobj
    omega
  have hleft := stored_nonneg hsizes obj.owner
  rw [hstored, if_pos rfl] at hleft
  refine h.change hsizes obj.owner hstored hlt ?_
  have hbytes : (w.meter obj.owner).storageBytes - Int64.ofInt obj.size =
      Int64.ofInt (stored w.store.objects obj.owner + -obj.size) := by
    rw [← sub_eq_add_neg, Int64.ofInt_sub, ← h.bytes]
  rw [hbytes, if_neg]
  rw [Int64.not_lt, Int64.le_iff_toInt_le, Int64.toInt_ofInt_of_le (by omega) (by omega)]
  exact hleft

lemma Exact.next (h : w.Exact) (hmeter : e.meter = true) (hG : Fresh w a)
    (hnext : w.next c e a = some w') : w'.Exact := by
  cases a with
  | put input io =>
    cases hnext
    rcases StorageEngine.putObject_told (c := c) (s := w.store) hmeter input io with
      ⟨hobjects, husage⟩ | ⟨obj, howner, hsize, hobjects, husage⟩
    · rw [told, husage, List.drop_length, List.foldl_nil]
      exact ⟨hobjects ▸ h.size_nonneg, hobjects ▸ h.stored_lt, hobjects ▸ h.bytes⟩
    · rw [told, husage, List.drop_left, List.foldl_cons, List.foldl_nil, ← howner]
      refine h.upload hobjects hG.1 (by omega) ?_
      rw [howner, hsize]
      exact hG.2
  | delete bucket key owner io =>
    cases hnext
    rcases StorageEngine.deleteObject_told (s := w.store) hmeter bucket key owner io with
      ⟨hobjects, husage⟩ | ⟨obj, hobj, hobjects, husage⟩
    · rw [told, husage, List.drop_length, List.foldl_nil]
      exact ⟨hobjects ▸ h.size_nonneg, hobjects ▸ h.stored_lt, hobjects ▸ h.bytes⟩
    · rw [told, husage, List.drop_left, List.foldl_cons, List.foldl_nil, neg_neg]
      exact h.delete hobjects hobj

/-- **What is metered is what is stored**, along every run in which no object with bytes is
overwritten. -/
theorem metered_is_stored (hmeter : e.meter = true) {s : Store}
    {l : List (Service.Action × Metering)}
    (hpath : Path (fun w a w' => Metering.next c e w a = some w') (new s) l)
    (hfresh : StepsMeet Fresh (new s) l) : StatesMeet Metered (new s) l := by
  have hall := Path.invariant_of_steps (P := Exact) (G := Fresh)
    (fun w a w' hw hg hnext => hw.next hmeter hg hnext) (exact_new s) hpath hfresh
  exact hall.mono fun w hw => hw.metered

/-- An engine with a hook. -/
def meteredEngine : StorageEngine := { plainEngine with meter := true }

/-- Two objects are put, and one of them is deleted. -/
def twoObjects : List (Service.Action × Metering) :=
  trace (next openSecurity meteredEngine) (new oneBucket)
    [.put (boxInput "x" [1]) noFaults, .put (boxInput "y" [2, 3]) noFaults,
      .delete (text "box") (text "x") (text "0xa1") ⟨none, none⟩]

/-- Two bytes are metered at the end. -/
theorem metered_is_stored_two_objects :
    ((endState (new oneBucket) twoObjects).meter (text "0xa1")).storageBytes = 2 ∧
      StatesMeet Metered (new oneBucket) twoObjects := by
  exact ⟨by decide +kernel, metered_is_stored rfl (trace_path ..) (by decide +kernel)⟩

/-- An object is put, and put again with another size. -/
def overwritten : List (Service.Action × Metering) :=
  trace (next openSecurity meteredEngine) (new oneBucket)
    [.put (boxInput "x" [1]) noFaults, .put (boxInput "x" [2, 3]) noFaults]

/-- **An object that is overwritten is metered twice**: three bytes for the two that are stored. -/
theorem overwrite_metered_twice :
    ((endState (new oneBucket) overwritten).meter (text "0xa1")).storageBytes = 3 ∧
      ((endState (new oneBucket) overwritten).store.getUsage (text "0xa1")).totalBytes = 2 ∧
      ¬ StatesMeet Metered (new oneBucket) overwritten := by
  refine ⟨by decide +kernel, by decide +kernel, fun hmeet => ?_⟩
  exact absurd (hmeet.endState (text "0xa1")) (by decide +kernel)

end Metering

end Moltbunker.Storage
