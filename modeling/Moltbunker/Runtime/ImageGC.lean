import Moltbunker.Lib.GoTime
import Moltbunker.Lib.Path
import Moltbunker.Lib.Tally
import Moltbunker.Lib.Text

/-!
# Garbage collection of images

`internal/runtime/image_gc.go`. Whether an image is in use is one time per image, that of the last
call of `MarkInUse` or `UnmarkInUse`; how many containers use it is not counted. An image whose time
is older than `maxAge` is deleted, and one that is not active may be evicted for its size.

* `in_use_kept` — no image is collected while a container uses it, if each image in use was marked
  or unmarked recently whenever garbage is collected;
* `image_in_use_collected` — an image in use is collected once its last mark is old;
* `selectForEviction_minimal` — what is evicted for its size is no more than needed.
-/

namespace Moltbunker.Runtime

open Lib

/-- An image of containerd. Its size may be unknown. -/
structure Image where
  name : Text
  size : Option Int64

/-- `ImageGC`, without its schedule. -/
structure ImageGC where
  maxAge : Duration
  maxSize : Int64
  activeThreshold : Duration
  inUse : Table Text ℤ

/-- `imageInfo`; the zero time is `none`. -/
structure ImageInfo where
  ref : Text
  lastUsed : Option ℤ
  inUse : Bool

namespace ImageGC

/-- `defaultActiveThreshold` -/
def defaultActiveThreshold : Duration := 5 * Duration.minute

variable (gc : ImageGC)

/-- `MarkInUse` -/
def markInUse (now : ℤ) (imageRef : Text) : ImageGC :=
  { gc with inUse := gc.inUse.insert imageRef now }

/-- `UnmarkInUse` -/
def unmarkInUse (now : ℤ) (imageRef : Text) : ImageGC :=
  { gc with inUse := gc.inUse.insert imageRef now }

/-- `PruneExpired`, with the number of the entries that it removes. -/
def pruneExpired (now : ℤ) : ImageGC × ℕ :=
  let kept := gc.inUse.entries.filter fun entry => Time.sub now entry.2 < gc.maxAge
  ({ gc with inUse := ⟨kept, gc.inUse.nodupKeys.sublist List.filter_sublist⟩ },
    gc.inUse.entries.length - kept.length)

/-- The threshold that `CollectGarbage` uses. -/
def threshold : Duration :=
  if gc.activeThreshold ≤ 0 then defaultActiveThreshold else gc.activeThreshold

/-- The snapshot of an image that `CollectGarbage` takes. -/
def info (now : ℤ) (img : Image) : ImageInfo where
  ref := img.name
  lastUsed := gc.inUse.lookup img.name
  inUse := (gc.inUse.lookup img.name).any fun lastUsed => Time.sub now lastUsed < gc.maxAge

/-- `t.Before(u)`, with the zero time before all others -/
def before : Option ℤ → Option ℤ → Bool
  | none, some _ => true
  | some t, some u => t < u
  | _, none => false

/-- An image that was marked within the threshold is not evicted for its size. -/
def active (activeThreshold : Duration) (now : ℤ) (s : ImageInfo) : Bool :=
  s.lastUsed.any fun lastUsed => Time.sub now lastUsed < activeThreshold

/-- The loop of `selectForEviction` -/
def evict (sizes : Text → Int64) (maxSize : Int64) : Int64 → List ImageInfo → List Text
  | _, [] => []
  | current, c :: rest =>
    if current ≤ maxSize then []
    else c.ref :: evict sizes maxSize (current - sizes c.ref) rest

/-- `selectForEviction` -/
def selectForEviction (survivors : List ImageInfo) (sizes : Text → Int64)
    (totalSize maxSize : Int64) (activeThreshold : Duration) (now : ℤ) : List Text :=
  if totalSize ≤ maxSize then []
  else
    evict sizes maxSize totalSize
      ((survivors.filter fun s => !active activeThreshold now s).mergeSort fun s t =>
        !before t.lastUsed s.lastUsed)

/-- The sizes that are known of the images that survive the first phase, in the order listed. -/
def knownSizes (images : List Image) (survivors : List ImageInfo) : List (Text × Int64) :=
  images.filterMap fun img =>
    if survivors.any fun s => s.ref = img.name then img.size.map fun size => (img.name, size)
    else none

/-- `sizes[ref]`: a later image of the same name replaces an earlier one. -/
def sizeOf (known : List (Text × Int64)) (ref : Text) : Int64 :=
  ((known.filter fun entry => entry.1 = ref).getLast?.map Prod.snd).getD 0

/-- `CollectGarbage`, with the images that containerd lists, if there is an image manager, and which
deletions succeed in the first and in the second phase. -/
def collectGarbage (now : ℤ) (imgMgr : Option (Except Text (List Image)))
    (deletes evicts : Text → Bool) : Except Text (List Text) :=
  match imgMgr with
  | none => .error (text "image manager is not available")
  | some (.error err) => .error (text "failed to list images: " ++ err)
  | some (.ok images) =>
    let infos := images.map (gc.info now)
    let expired := infos.filter fun info => !info.inUse && deletes info.ref
    let survivors := infos.filter fun info => info.inUse || !deletes info.ref
    let known := knownSizes images survivors
    let evictions :=
      if 0 < gc.maxSize ∧ survivors ≠ [] then
        (selectForEviction survivors (sizeOf known) (known.map Prod.snd).sum gc.maxSize
          gc.threshold now).filter evicts
      else []
    .ok (expired.map ImageInfo.ref ++ evictions)

/-! ## What is collected -/

lemma mem_evict {sizes : Text → Int64} {maxSize current : Int64} {candidates : List ImageInfo}
    {ref : Text} (h : ref ∈ evict sizes maxSize current candidates) :
    ∃ c ∈ candidates, c.ref = ref := by
  induction candidates generalizing current with
  | nil => cases h
  | cons c rest ih => grind [evict]

variable {gc : ImageGC} {now : ℤ} {images : List Image} {deletes evicts : Text → Bool}
  {refs : List Text}

/-- **What is collected** is an image that is listed, and was not marked within `maxAge`, or is
evicted for its size and was not marked within the threshold. -/
theorem mem_collectGarbage
    (h : gc.collectGarbage now (some (.ok images)) deletes evicts = .ok refs) {ref : Text}
    (href : ref ∈ refs) :
    ∃ img ∈ images, img.name = ref ∧
      ((gc.info now img).inUse = false ∨
        0 < gc.maxSize ∧ active gc.threshold now (gc.info now img) = false) := by
  obtain rfl := Except.ok.inj h
  rcases List.mem_append.mp href with hexpired | hevicted
  · simp only [List.mem_map, List.mem_filter, Bool.and_eq_true, Bool.not_eq_true'] at hexpired
    obtain ⟨_, ⟨⟨img, himg, rfl⟩, hunused, -⟩, rfl⟩ := hexpired
    exact ⟨img, himg, rfl, .inl hunused⟩
  · split at hevicted
    · next hsize =>
      have hselected := (List.mem_filter.mp hevicted).1
      unfold selectForEviction at hselected
      split at hselected
      · cases hselected
      · obtain ⟨c, hc, rfl⟩ := mem_evict hselected
        simp only [List.mem_mergeSort, List.mem_filter, List.mem_map, Bool.not_eq_true'] at hc
        obtain ⟨⟨⟨img, himg, rfl⟩, -⟩, hidle⟩ := hc
        exact ⟨img, himg, rfl, .inr ⟨hsize.1, hidle⟩⟩
    · cases hevicted

/-! ## What is evicted for its size -/

/-- How much the images take up. -/
def sizeSum (sizes : Text → Int64) (images : List ImageInfo) : ℤ :=
  (images.map fun s => (sizes s.ref).toInt).sum

section Sizes

variable {sizes : Text → Int64}

lemma toInt_sub_of_le {a b : Int64} (hnonneg : 0 ≤ b.toInt) (hle : b.toInt ≤ a.toInt) :
    (a - b).toInt = a.toInt - b.toInt := by
  have hlt := a.toInt_lt
  rw [Int64.toInt_sub]
  apply Int.bmod_eq_of_le <;> omega

/-- **The loop** takes candidates in their order until what is left fits, and each of them while it
does not fit. -/
theorem evict_spec (maxSize : Int64) {current : Int64} {candidates : List ImageInfo}
    (hnonneg : ∀ c ∈ candidates, 0 ≤ (sizes c.ref).toInt)
    (hle : sizeSum sizes candidates ≤ current.toInt) :
    ∃ chosen rest, candidates = chosen ++ rest ∧
      evict sizes maxSize current candidates = chosen.map ImageInfo.ref ∧
      (current.toInt - sizeSum sizes chosen ≤ maxSize.toInt ∨ rest = []) ∧
      ∀ init last, chosen = init ++ [last] →
        maxSize.toInt < current.toInt - sizeSum sizes init := by
  induction candidates generalizing current with
  | nil => exact ⟨[], [], rfl, rfl, .inr rfl, by simp⟩
  | cons c rest ih =>
    unfold evict
    by_cases hfits : current ≤ maxSize
    · refine ⟨[], c :: rest, rfl, if_pos hfits, .inl ?_, by simp⟩
      simpa [sizeSum] using Int64.le_iff_toInt_le.mp hfits
    · rw [if_neg hfits]
      have hlarge := Int64.lt_iff_toInt_lt.mp (Int64.not_le.mp hfits)
      have hc := hnonneg c List.mem_cons_self
      have hrest : 0 ≤ sizeSum sizes rest := List.sum_nonneg (by
        intro x hx
        obtain ⟨s, hs, rfl⟩ := List.mem_map.mp hx
        exact hnonneg s (List.mem_cons_of_mem c hs))
      simp only [sizeSum, List.map_cons, List.sum_cons] at hle hrest
      have hsub := toInt_sub_of_le hc (a := current) (by omega)
      have hle' : sizeSum sizes rest ≤ (current - sizes c.ref).toInt := by
        rw [hsub]
        unfold sizeSum
        omega
      obtain ⟨chosen, left, rfl, hevict, hstop, hlast⟩ :=
        ih (fun s hs => hnonneg s (List.mem_cons_of_mem c hs)) hle'
      rw [hsub] at hstop hlast
      refine ⟨c :: chosen, left, rfl, by rw [hevict]; rfl, ?_, ?_⟩
      · simpa [sizeSum, sub_sub] using hstop
      · intro init last heq
        cases init with
        | nil => simpa [sizeSum] using hlarge
        | cons d init =>
          obtain ⟨rfl, rfl⟩ := List.cons.inj heq
          simpa [sizeSum, sub_sub] using hlast init last rfl
/-- The order in which `selectForEviction` sorts. -/
lemma pairwise_sorted (l : List ImageInfo) :
    (l.mergeSort fun s t => !before t.lastUsed s.lastUsed).Pairwise fun s t =>
      before t.lastUsed s.lastUsed = false := by
  refine (List.pairwise_mergeSort ?_ ?_ l).imp (by simp)
  · intro a b c
    cases a.lastUsed <;> cases b.lastUsed <;> cases c.lastUsed <;> simp [before]
    omega
  · intro a b
    cases a.lastUsed <;> cases b.lastUsed <;> simp [before]
    omega

/-- **Size eviction is minimal.** The images that are not active, the oldest first, begin with those
that are selected. What remains of the total then fits, or no other image can be selected; without
the last image that was selected it would not fit. -/
theorem selectForEviction_minimal {survivors : List ImageInfo} {totalSize maxSize : Int64}
    {activeThreshold : Duration} {now : ℤ} (hnonneg : ∀ s ∈ survivors, 0 ≤ (sizes s.ref).toInt)
    (hsum : sizeSum sizes survivors = totalSize.toInt) :
    ∃ chosen rest,
      (chosen ++ rest).Perm (survivors.filter fun s => !active activeThreshold now s) ∧
      (chosen ++ rest).Pairwise (fun s t => before t.lastUsed s.lastUsed = false) ∧
      selectForEviction survivors sizes totalSize maxSize activeThreshold now =
        chosen.map ImageInfo.ref ∧
      (totalSize.toInt - sizeSum sizes chosen ≤ maxSize.toInt ∨ rest = []) ∧
      ∀ init last, chosen = init ++ [last] →
        maxSize.toInt < totalSize.toInt - sizeSum sizes init := by
  have hperm := List.mergeSort_perm (survivors.filter fun s => !active activeThreshold now s)
    fun s t => !before t.lastUsed s.lastUsed
  have hsorted := pairwise_sorted (survivors.filter fun s => !active activeThreshold now s)
  generalize hl : List.mergeSort _ _ = l at hperm hsorted
  unfold selectForEviction
  by_cases hfits : totalSize ≤ maxSize
  · refine ⟨[], l, hperm, hsorted, if_pos hfits, .inl ?_, by simp⟩
    simpa [sizeSum] using Int64.le_iff_toInt_le.mp hfits
  · rw [if_neg hfits, hl]
    have hmem : ∀ c ∈ l, 0 ≤ (sizes c.ref).toInt := by
      intro c hc
      exact hnonneg c (List.mem_of_mem_filter (hperm.mem_iff.mp hc))
    have hle : sizeSum sizes l ≤ totalSize.toInt := by
      rw [← hsum]
      unfold sizeSum
      rw [(hperm.map _).sum_eq]
      refine (List.filter_sublist.map _).sum_le_sum ?_
      intro x hx
      obtain ⟨s, hs, rfl⟩ := List.mem_map.mp hx
      exact hnonneg s hs
    obtain ⟨chosen, rest, rfl, hevict, hstop, hlast⟩ := evict_spec maxSize hmem hle
    exact ⟨chosen, rest, hperm, hsorted, hevict, hstop, hlast⟩

end Sizes

/-- Three images of five bytes, one of which was never marked. -/
def threeImages : List ImageInfo :=
  [⟨text "a", some 3, true⟩, ⟨text "b", none, true⟩, ⟨text "c", some 9, true⟩]

theorem selectForEviction_minimal_three : ∃ chosen rest : List ImageInfo,
    selectForEviction threeImages (fun _ => 5) 15 8 2 10 = chosen.map ImageInfo.ref ∧
      (15 - sizeSum (fun _ => 5) chosen ≤ 8 ∨ rest = []) := by
  obtain ⟨chosen, rest, -, -, heq, hstop, -⟩ :=
    @selectForEviction_minimal (fun _ => 5) threeImages 15 8 2 10 (by decide) (by decide)
  exact ⟨chosen, rest, heq, hstop⟩

end ImageGC

/-! ## Runs -/

/-- The collector, how many containers use each image, and the images that were collected, each with
the number of the containers that used it then. -/
structure Images where
  gc : ImageGC
  now : ℤ
  uses : Text → ℤ
  collected : List (Text × ℤ)

inductive ImageAction where
  | markInUse (imageRef : Text)
  | unmarkInUse (imageRef : Text)
  | collectGarbage (imgMgr : Option (Except Text (List Image))) (deletes evicts : Text → Bool)
  | pruneExpired

namespace Images

/-- One call, at a time that is not before that of the last one. -/
def next (s : Images) : ℤ × ImageAction → Option Images
  | (now, action) =>
    if now < s.now then none
    else
      let s := { s with now := now }
      match action with
      | .markInUse ref => some { s with
          gc := s.gc.markInUse now ref
          uses := Function.update s.uses ref (s.uses ref + 1) }
      | .unmarkInUse ref => some { s with
          gc := s.gc.unmarkInUse now ref
          uses := Function.update s.uses ref (s.uses ref - 1) }
      | .collectGarbage imgMgr deletes evicts =>
        match s.gc.collectGarbage now imgMgr deletes evicts with
        | .error _ => some s
        | .ok refs => some { s with
            collected := s.collected ++ refs.map fun ref => (ref, s.uses ref) }
      | .pruneExpired => some { s with gc := (s.gc.pruneExpired now).1 }

/-- Every image that was collected was marked as often as it was unmarked, at most. -/
def Unused (s : Images) : Prop := ∀ x ∈ s.collected, x.2 ≤ 0

/-- The image was marked or unmarked recently enough not to be collected. -/
def MarkedRecently (gc : ImageGC) (now : ℤ) (ref : Text) : Prop :=
  ∃ lastUsed ∈ gc.inUse.lookup ref, Time.sub now lastUsed < gc.maxAge ∧
    (gc.maxSize ≤ 0 ∨ Time.sub now lastUsed < gc.threshold)

/-- When garbage is collected, each image in use was marked or unmarked recently. -/
def Recent (s : Images) : ℤ × ImageAction → Prop
  | (now, .collectGarbage (some (.ok images)) _ _) =>
    ∀ img ∈ images, 0 < s.uses img.name → MarkedRecently s.gc now img.name
  | _ => True

variable {s s' : Images} {a : ℤ × ImageAction}

lemma unused_next (h : s.Unused) (hG : Recent s a) (hnext : s.next a = some s') : s'.Unused := by
  obtain ⟨now, action⟩ := a
  simp only [next] at hnext
  split at hnext
  · cases hnext
  · cases action with
    | markInUse ref | unmarkInUse ref | pruneExpired =>
      cases hnext
      exact h
    | collectGarbage imgMgr deletes evicts =>
      dsimp only at hnext
      split at hnext
      · cases hnext
        exact h
      · next refs hrefs =>
        cases hnext
        intro x hx
        rcases List.mem_append.mp hx with hold | hnew
        · exact h x hold
        · obtain ⟨ref, href, rfl⟩ := List.mem_map.mp hnew
          match imgMgr, hrefs with
          | some (.ok images), hrefs =>
            obtain ⟨img, himg, rfl, hwhy⟩ := ImageGC.mem_collectGarbage hrefs href
            by_contra huse
            obtain ⟨last, hlast, hage, hsize⟩ := hG img himg (not_le.mp huse)
            rw [Option.mem_def] at hlast
            rcases hwhy with hunused | ⟨hlimit, hidle⟩
            · simp [ImageGC.info, hlast, hage] at hunused
            · have hthreshold := hsize.resolve_left (Int64.not_le.mpr hlimit)
              simp [ImageGC.active, ImageGC.info, hlast, hthreshold] at hidle

/-- **Images in use are kept.** -/
theorem in_use_kept (hs : s.Unused) {l : List ((ℤ × ImageAction) × Images)}
    (hpath : Path (fun s a s' => Images.next s a = some s') s l) (hrecent : StepsMeet Recent s l) :
    StatesMeet Unused s l := by
  refine Path.invariant_of_steps ?_ hs hpath hrecent
  intro s a s' h hG hnext
  exact unused_next h hG hnext

/-- Images that nobody uses are kept for an hour, and are not bounded in their size. -/
def idle : Images := ⟨⟨Duration.hour, 0, ImageGC.defaultActiveThreshold, ∅⟩, 0, fun _ => 0, []⟩

/-- Containerd lists one image, which can be deleted. -/
def collect : ImageAction :=
  .collectGarbage (some (.ok [⟨text "nginx", some 1⟩])) (fun _ => true) fun _ => true

/-- Two containers use an image, and one of them is stopped. -/
def sharedImage (later : ℤ) : List (ℤ × ImageAction) :=
  [(0, .markInUse (text "nginx")), (0, .markInUse (text "nginx")),
    (1, .unmarkInUse (text "nginx")), (later, collect)]

instance (gc : ImageGC) (now : ℤ) (ref : Text) : Decidable (MarkedRecently gc now ref) :=
  inferInstanceAs (Decidable (∃ lastUsed ∈ gc.inUse.lookup ref, Time.sub now lastUsed < gc.maxAge ∧
    (gc.maxSize ≤ 0 ∨ Time.sub now lastUsed < gc.threshold)))

/-- The image is kept while its last mark is less than an hour old. -/
theorem in_use_kept_recent :
    (trace next idle (sharedImage 60000000000)).length = 4 ∧
      StatesMeet Unused idle (trace next idle (sharedImage 60000000000)) := by
  refine ⟨by decide +kernel, in_use_kept (fun _ h => by cases h) (trace_path ..) ?_⟩
  refine ⟨trivial, trivial, trivial, ?_, trivial⟩
  change ∀ img ∈ [_], _
  decide +kernel

/-- **An image in use is collected.** Two hours later one container still uses the image. -/
theorem image_in_use_collected :
    (endState idle (trace next idle (sharedImage 7200000000000))).collected =
        [(text "nginx", 1)] ∧
      ¬ StatesMeet Unused idle (trace next idle (sharedImage 7200000000000)) := by
  have hlast : (endState idle (trace next idle (sharedImage 7200000000000))).collected =
      [(text "nginx", 1)] := by decide +kernel
  refine ⟨hlast, fun hmeet => ?_⟩
  have hunused := hmeet.endState (text "nginx", 1) (by rw [hlast]; exact List.mem_cons_self)
  exact absurd hunused (by decide)

end Images

end Moltbunker.Runtime
