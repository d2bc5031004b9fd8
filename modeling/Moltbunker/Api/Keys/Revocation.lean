import Moltbunker.Api.Keys.Threads

/-!
# Revocation

Over any interleaving of the calls on a manager, which may come at any time. A call completes if no
call waits for a lock that it holds itself. That happens exactly where a call that holds the write
lock has found its record and there is a file (`Nests`): `save` then asks for the lock again.

Once `RevokeKey` or `DeleteKey` has returned without an error, the record that it has found is
disabled or gone (`Gone`), until `UpdateKey` enables it again. A key that opens this record is
rejected then, as long as no two records have the same key (`Distinct`).

* `noSelfWait_step_iff` — the step after which a call waits for itself;
* `Tracked.step` — what one step keeps of the records;
* `revocation_of_run` — every run: who waits, who completes, and what is rejected.
-/

namespace Moltbunker.Api

open Lib Text APIKeyManager List.Vector

namespace Keys

/-! ## Runs -/

/-- A manager, its file and the calls. -/
abbrev Machine := Threaded KeyStore Position

/-- A call comes, or a call takes a step. -/
inductive Event where
  | call (c : Call)
  | step (t : ℕ) (i : Input)

/-- The machine after an event. -/
def Machine.next (bcrypt : Bcrypt) (zone : Location) (s : Machine) : Event → Option Machine
  | .call c => some ⟨s.shared, s.threads ++ [.start c]⟩
  | .step t i => (keyProgram bcrypt zone).next s (t, i)

/-- One event. -/
def Machine.Step (bcrypt : Bcrypt) (zone : Location) (s : Machine) (a : Event) (s' : Machine) :
    Prop :=
  Machine.next bcrypt zone s a = some s'

/-- No call waits for a lock that it holds itself. -/
def NoSelfWait (s : Machine) : Prop := ∀ p ∈ s.threads, ∀ id e ref, p ≠ .resave id e ref

/-- Every call has returned. -/
def Returned (s : Machine) : Prop := ∀ p ∈ s.threads, ∃ res, p = .returned res

/-- The step is not one that saves under the write lock. -/
def Unnested (s : Machine) : Event → Prop
  | .call _ => True
  | .step t _ => ∀ p, s.threads[t]? = some p → ¬ Nests s.shared p

/-- A property of what an option holds. -/
def decidableOfSome {τ : Type} (o : Option τ) (P : τ → Prop) [DecidablePred P] :
    Decidable (∀ p, o = some p → P p) :=
  match o with
  | none => .isTrue fun _ h => (Option.some_ne_none _ h.symm).elim
  | some p => decidable_of_iff (P p) ⟨fun h _ heq => Option.some.inj heq ▸ h, fun h => h p rfl⟩

instance (s : Machine) : (a : Event) → Decidable (Unnested s a)
  | .call _ => .isTrue trivial
  | .step t _ => decidableOfSome s.threads[t]? fun p => ¬ Nests s.shared p

variable {bcrypt : Bcrypt} {zone : Location} {s s' : Machine} {a : Event}

/-- What an event does: a call comes, or one moves and may start a goroutine. -/
lemma Machine.Step.cases (h : Machine.Step bcrypt zone s a s') :
    (∃ c, a = .call c ∧ s' = ⟨s.shared, s.threads ++ [.start c]⟩) ∨
      ∃ t i p, a = .step t i ∧ (keyProgram bcrypt zone).Next s (t, i) s' ∧
        s.threads[t]? = some p ∧ s'.shared = (step bcrypt zone s.shared p i).1 ∧
        (step bcrypt zone s.shared p i).2.1 ∈ s'.threads ∧
        ∀ q ∈ s'.threads, q ∈ s.threads ∨ q = (step bcrypt zone s.shared p i).2.1 ∨
          ∃ id, q = .lock (.touch id) := by
  cases a with
  | call c => exact Or.inl ⟨c, rfl, (Option.some.inj h).symm⟩
  | step t i =>
    obtain ⟨p, hp, hshared, hmem, hthreads⟩ := LockProgram.Next.cases (show
      (keyProgram bcrypt zone).Next s (t, i) s' from h)
    refine Or.inr ⟨t, i, p, rfl, h, hp, hshared, hmem, ?_⟩
    intro q hq
    rcases hthreads q hq with hold | hmoved | hstarted
    · exact Or.inl hold
    · exact Or.inr (Or.inl hmoved)
    · exact Or.inr (Or.inr (started_step hstarted))

/-! ## Waiting and completing -/

/-- **The step after which a call waits for itself.** -/
theorem noSelfWait_step_iff (h : NoSelfWait s) (hstep : Machine.Step bcrypt zone s a s') :
    NoSelfWait s' ↔ Unnested s a := by
  rcases hstep.cases with ⟨c, rfl, rfl⟩ | ⟨t, i, p, rfl, -, hp, -, hmem, hthreads⟩
  · refine iff_of_true ?_ trivial
    intro p hp id e ref
    rcases List.mem_append.mp hp with hp | hp
    · exact h p hp id e ref
    · rw [List.mem_singleton.mp hp]
      exact Position.noConfusion
  · have hwaits := selfWaits_step_iff bcrypt zone s.shared p i
    rw [selfWaits_iff] at hwaits
    constructor
    · intro hnone q hq hnests
      rw [hp] at hq
      cases hq
      obtain ⟨id, e, ref, heq⟩ := hwaits.mpr hnests
      exact hnone _ hmem id e ref heq
    · intro hunnested q hq id e ref hwait
      rcases hthreads q hq with hold | hmoved | ⟨id', rfl⟩
      · exact h q hold id e ref hwait
      · exact hunnested p hp (hwaits.mp ⟨id, e, ref, hmoved ▸ hwait⟩)
      · cases hwait

/-- **Calls complete.** If none waits for itself, then all have returned or one can go on. -/
theorem returned_or_next (h : NoSelfWait s) :
    Returned s ∨ ∃ a s', (keyProgram bcrypt zone).Next s a s' := by
  by_cases hreturned : ∃ p ∈ s.threads, p.request ≠ .stop
  · refine Or.inr ?_
    have hself : ∀ p ∈ s.threads, ¬ (keyProgram bcrypt zone).SelfWaits p := by
      intro p hp hself
      obtain ⟨id, e, ref, heq⟩ := selfWaits_iff.mp hself
      exact h p hp id e ref heq
    exact LockProgram.progress hself hreturned
  · refine Or.inl ?_
    intro p hp
    have hstop : p.request = .stop := by
      by_contra hne
      exact hreturned ⟨p, hp, hne⟩
    cases p with
    | returned res => exact ⟨res, rfl⟩
    | _ => cases hstop

/-! ## Records -/

/-- The hash of a record. -/
def hashAt (m : APIKeyManager) (ref : ℕ) : Option Text := (m.records[ref]?).map APIKey.keyHash

/-- No key opens two records. -/
def Distinct (bcrypt : Bcrypt) (m : APIKeyManager) : Prop :=
  ∀ ref hash ref' hash' key, hashAt m ref = some hash → hashAt m ref' = some hash' →
    bcrypt.compareHashAndPassword hash key = true →
    bcrypt.compareHashAndPassword hash' key = true → ref = ref'

lemma distinct_empty (filePath : Text) : Distinct bcrypt ⟨[], ∅, ∅, filePath⟩ := by
  intro ref hash ref' hash' key hhash
  cases hhash

/-- The record is under no identifier, or disabled. -/
def Gone (m : APIKeyManager) (ref : ℕ) : Prop :=
  ref < m.records.length ∧
    ((∀ id, m.keys.lookup id ≠ some ref) ∨ (m.records[ref]?).map APIKey.enabled = some false)

/-- `ValidateKey` and `ValidateKeyWithPermission` reject the key, at any time. -/
def Rejects (bcrypt : Bcrypt) (m : APIKeyManager) (key : Text) : Prop :=
  ∀ now, m.validateKey bcrypt now key = false ∧
    ∀ permission, m.validateKeyWithPermission bcrypt now key permission = false

variable {m : APIKeyManager} {ref : ℕ} {key : Text} {f : APIKey → APIKey}

lemma rejects_of_find_none (h : m.find key = none) : Rejects bcrypt m key := by
  intro now
  simp [validateKey, validateKeyWithPermission, h]

/-- A key is rejected if the record that it leads to does not accept it. -/
lemma rejects_of_not_accepts (h : ∀ id ref apiKey now, m.keys.lookup id = some ref →
    m.records[ref]? = some apiKey → apiKey.accepts bcrypt now key = false) :
    Rejects bcrypt m key := by
  cases hfind : m.find key with
  | none => exact rejects_of_find_none hfind
  | some found =>
    obtain ⟨id, ref⟩ := found
    have href : m.keys.lookup id = ref := by
      unfold find at hfind
      split at hfind
      · cases hfind
      · obtain ⟨id', -, heq⟩ := Option.map_eq_some_iff.mp hfind
        cases heq
        rfl
    intro now
    simp only [validateKey, validateKeyWithPermission, hfind]
    cases hrecord : ref.bind (m.records[·]?) with
    | none => exact ⟨rfl, fun _ => rfl⟩
    | some apiKey =>
      obtain ⟨ref', rfl, hrecord'⟩ := Option.bind_eq_some_iff.mp hrecord
      have haccepts := h id ref' apiKey now href hrecord'
      simp [haccepts]

/-- **The key of a record that is gone is rejected.** -/
theorem rejects_of_gone (hdistinct : Distinct bcrypt m) (hgone : Gone m ref) {hash : Text}
    (hhash : hashAt m ref = some hash) (hopens : bcrypt.compareHashAndPassword hash key = true) :
    Rejects bcrypt m key := by
  apply rejects_of_not_accepts
  intro id ref' apiKey now hid hrecord
  by_contra haccepts
  rw [Bool.not_eq_false] at haccepts
  simp only [APIKey.accepts, Bool.and_eq_true] at haccepts
  obtain ⟨⟨henabled, -⟩, hopens'⟩ := haccepts
  have hhash' : hashAt m ref' = some apiKey.keyHash := by
    unfold hashAt
    rw [hrecord]
    rfl
  obtain rfl := hdistinct ref' _ ref hash key hhash' hhash hopens' hopens
  rcases hgone.2 with hnone | hdisabled
  · exact hnone id hid
  · rw [hrecord, Option.map_some, Option.some.injEq, henabled] at hdisabled
    cases hdisabled

/-! ### What keeps the hashes -/

lemma hashAt_modify {ref ref' : ℕ}
    (hf : ∀ k, (f k).keyHash = k.keyHash) : hashAt (m.modify ref f) ref' = hashAt m ref' := by
  unfold hashAt
  rw [getElem?_modify]
  split
  · rw [Option.map_map]
    cases m.records[ref']? with
    | none => rfl
    | some k => exact congrArg some (hf k)
  · rfl

lemma hashAt_touch {now : ℤ} {id : Text} : hashAt (m.touch now id) ref = hashAt m ref := by
  unfold touch
  split
  · rfl
  · exact hashAt_modify fun k => rfl

lemma hashAt_edit {id : Text} (e : Edit) {ref' : ℕ} :
    hashAt (m.edit id ref e) ref' = hashAt m ref' := by
  cases e with
  | revoke | permissions perms | update name rateLimit enabled =>
    exact hashAt_modify fun k => rfl
  | delete =>
    unfold edit
    cases m.records[ref]? with
    | none => rfl
    | some k => rfl

lemma hashAt_store (k : APIKey) :
    hashAt (m.store k) ref = if ref = m.records.length then some k.keyHash else hashAt m ref := by
  unfold hashAt store
  rcases lt_trichotomy ref m.records.length with hlt | rfl | hgt
  · rw [List.getElem?_append_left hlt, if_neg (by omega)]
  · rw [List.getElem?_concat_length, if_pos rfl]
    rfl
  · rw [List.getElem?_eq_none (by simp; omega), List.getElem?_eq_none (by omega), if_neg (by omega)]

lemma Distinct.congr {m' : APIKeyManager} (h : Distinct bcrypt m)
    (heq : ∀ ref, hashAt m' ref = hashAt m ref) : Distinct bcrypt m' := by
  intro ref hash ref' hash' key hhash hhash'
  rw [heq] at hhash hhash'
  exact h ref hash ref' hash' key hhash hhash'

/-- A new record whose key opens no other. -/
lemma Distinct.store (h : Distinct bcrypt m) (hexact : bcrypt.Exact) {k : APIKey} {plain : Text}
    {salt : List.Vector UInt8 16} (hk : k.keyHash = bcrypt.generateFromPassword salt plain)
    (hfresh : ∀ other ∈ m.records, bcrypt.compareHashAndPassword other.keyHash plain = false) :
    Distinct bcrypt (m.store k) := by
  -- what opens the new record opens no other
  have hnew : ∀ ref hash key, hashAt m ref = some hash →
      bcrypt.compareHashAndPassword hash key = true →
      bcrypt.compareHashAndPassword k.keyHash key = true → False := by
    intro ref hash key hhash hopens hopens'
    rw [hk, hexact] at hopens'
    obtain ⟨other, hother, rfl⟩ := Option.map_eq_some_iff.mp hhash
    rw [hopens', hfresh other (List.mem_of_getElem? hother)] at hopens
    cases hopens
  intro ref hash ref' hash' key hhash hhash' hopens hopens'
  rw [hashAt_store] at hhash hhash'
  split at hhash
  · next heq =>
    cases hhash
    split at hhash'
    · next heq' => rw [heq, heq']
    · exact (hnew ref' hash' key hhash' hopens' hopens).elim
  · split at hhash'
    · cases hhash'
      exact (hnew ref hash key hhash hopens hopens').elim
    · exact h ref hash ref' hash' key hhash hhash' hopens hopens'

/-! ### What keeps a record gone -/

/-- The edit enables the record again. -/
def Enables (m : APIKeyManager) (ref : ℕ) (id : Text) (e : Edit) : Prop :=
  m.keys.lookup id = some ref ∧ ∃ name rateLimit, e = .update name rateLimit (some true)

lemma Gone.store (h : Gone m ref) (k : APIKey) : Gone (m.store k) ref := by
  obtain ⟨hlt, hgone⟩ := h
  refine ⟨?_, ?_⟩
  · show ref < (m.records ++ [k]).length
    rw [List.length_append]
    omega
  · rcases hgone with hnone | hdisabled
    · refine Or.inl fun id => ?_
      rw [lookup_store]
      split
      · intro heq
        have := Option.some.inj heq
        omega
      · exact hnone id
    · refine Or.inr ?_
      show ((m.records ++ [k])[ref]?).map APIKey.enabled = some false
      rw [List.getElem?_append_left hlt, hdisabled]

/-- A record is written to; if it is the one that is gone, it stays disabled. -/
lemma Gone.modify (h : Gone m ref) {ref' : ℕ}
    (hf : ref' = ref → ∀ k, k.enabled = false → (f k).enabled = false) :
    Gone (m.modify ref' f) ref := by
  obtain ⟨hlt, hgone⟩ := h
  refine ⟨?_, ?_⟩
  · show ref < (m.records.modify ref' f).length
    rwa [List.length_modify]
  · rcases hgone with hnone | hdisabled
    · exact Or.inl hnone
    · refine Or.inr ?_
      rw [getElem?_modify]
      split
      · next heq =>
        obtain ⟨k, hk, hk'⟩ := Option.map_eq_some_iff.mp hdisabled
        rw [hk, Option.map_some, Option.map_some, hf heq.symm k hk']
      · exact hdisabled

lemma Gone.touch (h : Gone m ref) (now : ℤ) (id : Text) : Gone (m.touch now id) ref := by
  unfold APIKeyManager.touch
  split
  · exact h
  · exact h.modify fun _ k hk => hk

variable {e : Edit} {p : Position} {i : Input} {t : ℕ} {l : List (Event × Machine)} {id : Text}
  {ref : ℕ} {st : KeyStore}

lemma Gone.edit (h : Gone m ref) {ref' : ℕ} (hid : m.keys.lookup id = some ref')
    (he : ¬ Enables m ref id e) : Gone (m.edit id ref' e) ref := by
  cases e with
  | revoke => exact h.modify fun _ k _ => rfl
  | delete =>
    unfold edit
    cases m.records[ref']? with
    | none => exact h
    | some k =>
      obtain ⟨hlt, hgone⟩ := h
      refine ⟨hlt, ?_⟩
      rcases hgone with hnone | hdisabled
      · refine Or.inl fun id' => ?_
        show (m.remove id k).keys.lookup id' ≠ some ref
        rw [lookup_remove]
        split
        · exact (Option.some_ne_none ref).symm
        · exact hnone id'
      · exact Or.inr hdisabled
  | permissions perms => exact h.modify fun _ k hk => hk
  | update name rateLimit enabled =>
    refine h.modify fun heq k hk => ?_
    cases enabled with
    | none => exact hk
    | some b =>
      cases b with
      | false => rfl
      | true => exact (he ⟨heq ▸ hid, name, rateLimit, rfl⟩).elim

/-- **`RevokeKey` and `DeleteKey` make the record that they find go.** -/
theorem gone_edit (haddressed : m.Addressed) (hid : m.keys.lookup id = some ref)
    (he : e = .revoke ∨ e = .delete) : Gone (m.edit id ref e) ref := by
  have hlt := haddressed.lt_length hid
  obtain ⟨k, hk, -⟩ := haddressed id ref hid
  rcases he with rfl | rfl
  · refine ⟨?_, Or.inr ?_⟩
    · show ref < (m.records.modify ref _).length
      rwa [List.length_modify]
    · show ((m.modify ref _).records[ref]?).map APIKey.enabled = some false
      rw [getElem?_modify, if_pos rfl, hk]
      rfl
  · unfold edit
    rw [hk]
    refine ⟨hlt, Or.inl fun id' => ?_⟩
    show (m.remove id k).keys.lookup id' ≠ some ref
    rw [lookup_remove]
    split
    · exact (Option.some_ne_none ref).symm
    · next hne =>
      intro hid'
      exact hne (haddressed.eq_of_lookup hid' hid)

/-! ## Revoked records over a run -/

/-- What a call carries with it, in a run in which no call waits for itself: a new record has the
hash of its key, and what is returned after `save` is not the result of a change. -/
def Position.Honest (bcrypt : Bcrypt) : Position → Prop
  | .lock (.store key plain) | .acquire (.store key plain) | .locked (.store key plain) =>
    ∃ salt, key.keyHash = bcrypt.generateFromPassword salt plain
  | .resave .. => False
  | .save res | .copying res | .write res _ => ∀ id e key err, res ≠ .changed id e key err
  | _ => True

/-- `RevokeKey` or `DeleteKey` has found the record and has returned without an error. -/
def Revokes (ref : ℕ) (p : Position) : Prop :=
  ∃ id e, (e = .revoke ∨ e = .delete) ∧ p = .returned (.changed id e (some ref) (.ok ()))

/-- The call is about to store a key that opens a record, or to enable this record. -/
def Restores (bcrypt : Bcrypt) (m : APIKeyManager) (ref : ℕ) : Position → Prop
  | .locked (.store _ plain) =>
    ∃ other ∈ m.records, bcrypt.compareHashAndPassword other.keyHash plain = true
  | .locked (.change id (.update _ _ (some true))) => m.keys.lookup id = some ref
  | _ => False

/-- The step does not bring the key of the record back. -/
def Keeps (bcrypt : Bcrypt) (ref : ℕ) (s : Machine) : Event → Prop
  | .call _ => True
  | .step t _ => ∀ p, s.threads[t]? = some p → ¬ Restores bcrypt s.shared.manager ref p

instance (m : APIKeyManager) (ref : ℕ) : (p : Position) → Decidable (Restores bcrypt m ref p)
  | .locked (.store _ _) => inferInstanceAs (Decidable (∃ other ∈ m.records, _))
  | .locked (.change _ (.update _ _ (some true))) => inferInstanceAs (Decidable (_ = some ref))
  | .locked (.change _ (.update _ _ (some false))) | .locked (.change _ (.update _ _ none))
  | .locked (.change _ .revoke) | .locked (.change _ .delete)
  | .locked (.change _ (.permissions _)) | .locked (.touch _) | .start _ | .lock _ | .acquire _
  | .resave .. | .find .. | .finding .. | .check .. | .save _ | .copying _ | .write ..
  | .returned _ => .isFalse not_false

instance (ref : ℕ) (s : Machine) : (a : Event) → Decidable (Keeps bcrypt ref s a)
  | .call _ => .isTrue trivial
  | .step t _ => decidableOfSome s.threads[t]? fun p => ¬ Restores bcrypt s.shared.manager ref p

lemma honest_saveThen (s : KeyStore) {res : Result}
    (h : ∀ id e key err, res ≠ .changed id e key err) : (saveThen s res).Honest bcrypt := by
  unfold saveThen
  split
  · trivial
  · exact h

lemma honest_begin {now : ℤ} (c : Call) : (begin bcrypt zone now c).Honest bcrypt := by
  cases c with
  | createKey draw name permissions expiresInDays =>
    unfold begin
    dsimp only
    split
    · trivial
    · next key plain hnew =>
      obtain ⟨-, salt, -, -, -, -, hhash, -⟩ := newKey_eq_ok hnew
      exact ⟨salt, hhash⟩
  | validateKey key | validateKeyWithPermission key permission =>
    unfold begin
    dsimp only
    split <;> trivial
  | change id e => trivial

lemma honest_step (h : p.Honest bcrypt) (hnests : ¬ Nests st p) : (step bcrypt zone st p i).2.1.Honest bcrypt := by
  cases p with
  | start c => exact honest_begin c
  | locked w =>
    cases w with
    | store key plain | touch id => exact honest_saveThen _ fun _ _ _ _ => Result.noConfusion
    | change id e =>
      simp only [step, underLock]
      cases hid : st.manager.keys.lookup id with
      | none => trivial
      | some ref =>
        have hpath : st.manager.filePath = [] := by
          by_contra hpath
          exact hnests ⟨hpath, by rw [hid]; exact Option.some_ne_none ref⟩
        dsimp only
        rw [if_pos hpath]
        trivial
  | finding key permission =>
    unfold step
    dsimp only
    split <;> trivial
  | check key permission id ref =>
    unfold step checkKey
    repeat' split
    all_goals trivial
  | lock w | acquire w =>
    cases w with
    | store key plain => exact h
    | touch id | change id e => trivial
  | resave id e ref => exact h.elim
  | save res | copying res => exact h
  | _ => trivial

/-- **Which steps revoke a record**, if they do not wait for themselves. -/
theorem revokes_step (h : p.Honest bcrypt) (hrevokes : Revokes ref (step bcrypt zone st p i).2.1) :
    Revokes ref p ∨ ∃ id e, (e = .revoke ∨ e = .delete) ∧ p = .locked (.change id e) ∧
      st.manager.keys.lookup id = some ref ∧ st.manager.filePath = [] := by
  obtain ⟨id, e, he, hreturned⟩ := hrevokes
  cases p with
  | returned res => exact Or.inl ⟨id, e, he, hreturned⟩
  | write res refs =>
    cases hreturned
    exact absurd rfl (h _ _ _ _)
  | locked w =>
    cases w with
    | store key plain | touch id' =>
      simp only [step, underLock, saveThen] at hreturned
      split at hreturned <;> cases hreturned
    | change id' e' =>
      simp only [step, underLock] at hreturned
      cases hid : st.manager.keys.lookup id' with
      | none =>
        rw [hid] at hreturned
        cases hreturned
      | some ref' =>
        rw [hid] at hreturned
        dsimp only at hreturned
        split at hreturned
        · next hpath =>
          simp only [Position.returned.injEq, Result.changed.injEq, Option.some.injEq,
            and_true] at hreturned
          obtain ⟨rfl, rfl, rfl⟩ := hreturned
          exact Or.inr ⟨id', e', he, rfl, hid, hpath⟩
        · cases hreturned
  | _ =>
    simp only [step, begin, checkKey] at hreturned
    repeat' split at hreturned
    all_goals cases hreturned

/-- What a run keeps of the records and of one of them. -/
structure Tracked (bcrypt : Bcrypt) (ref : ℕ) (s : Machine) : Prop where
  addressed : s.shared.manager.Addressed
  distinct : Distinct bcrypt s.shared.manager
  honest : ∀ p ∈ s.threads, p.Honest bcrypt
  gone : ∀ p ∈ s.threads, Revokes ref p →
    Gone s.shared.manager ref ∧ s.shared.manager.filePath = []

lemma filePath_edit : (m.edit id ref e).filePath = m.filePath := by
  cases e with
  | delete =>
    unfold edit
    cases m.records[ref]? with
    | none => rfl
    | some k => rfl
  | _ => rfl

lemma filePath_step : (step bcrypt zone st p i).1.manager.filePath = st.manager.filePath := by
  refine step_manager (P := fun m => m.filePath = _) rfl (fun key plain _ => rfl) ?_
    fun id e ref _ _ => filePath_edit
  intro id
  unfold touch
  split <;> rfl

/-- One step keeps the records apart. -/
lemma Tracked.distinct_step (hexact : bcrypt.Exact) (h : Tracked bcrypt ref s)
    (hp : s.threads[t]? = some p) (hkeeps : Keeps bcrypt ref s (.step t i)) :
    Distinct bcrypt (step bcrypt zone s.shared p i).1.manager := by
  refine step_manager h.distinct ?_ (fun id => h.distinct.congr fun ref => hashAt_touch)
    fun id e ref' _ _ => h.distinct.congr fun ref => hashAt_edit e
  rintro key plain rfl
  obtain ⟨salt, hsalt⟩ := h.honest _ (List.mem_of_getElem? hp)
  refine h.distinct.store hexact hsalt ?_
  intro other hother
  rw [← Bool.not_eq_true]
  intro hopens
  exact hkeeps _ hp ⟨other, hother, hopens⟩

/-- One step keeps a record gone. -/
lemma Tracked.gone_step (hgone : Gone s.shared.manager ref)
    (hp : s.threads[t]? = some p) (hkeeps : Keeps bcrypt ref s (.step t i)) :
    Gone (step bcrypt zone s.shared p i).1.manager ref := by
  refine step_manager (P := (Gone · ref)) hgone (fun key _ _ => hgone.store key)
    (hgone.touch i.now) ?_
  rintro id e ref' rfl hid
  refine hgone.edit hid ?_
  rintro ⟨hid', name, rateLimit, rfl⟩
  exact hkeeps _ hp hid'

/-- **One event.** -/
theorem Tracked.step (hexact : bcrypt.Exact) (h : Tracked bcrypt ref s)
    (hunnested : Unnested s a) (hkeeps : Keeps bcrypt ref s a)
    (hstep : Machine.Step bcrypt zone s a s') : Tracked bcrypt ref s' := by
  rcases hstep.cases with ⟨c, rfl, rfl⟩ | ⟨t, i, p, rfl, -, hp, hshared, -, hthreads⟩
  · refine ⟨h.addressed, h.distinct, ?_, ?_⟩
    · intro p hp
      rcases List.mem_append.mp hp with hp | hp
      · exact h.honest p hp
      · rw [List.mem_singleton.mp hp]
        trivial
    · intro p hp hrevokes
      rcases List.mem_append.mp hp with hp | hp
      · exact h.gone p hp hrevokes
      · rw [List.mem_singleton.mp hp] at hrevokes
        obtain ⟨id, e, -, heq⟩ := hrevokes
        cases heq
  have hmem := List.mem_of_getElem? hp
  have hhonest := h.honest p hmem
  refine ⟨?_, ?_, ?_, ?_⟩
  · rw [hshared]
    exact step_manager h.addressed (fun key _ _ => h.addressed.store key)
      (h.addressed.touch i.now) fun id e ref' _ _ => h.addressed.edit id ref' e
  · rw [hshared]
    exact h.distinct_step hexact hp hkeeps
  · intro q hq
    rcases hthreads q hq with hold | rfl | ⟨id, rfl⟩
    · exact h.honest q hold
    · exact honest_step hhonest (hunnested p hp)
    · trivial
  · intro q hq hrevokes
    rw [hshared, filePath_step]
    rcases hthreads q hq with hold | rfl | ⟨id, rfl⟩
    · obtain ⟨hgone, hpath⟩ := h.gone q hold hrevokes
      exact ⟨Tracked.gone_step hgone hp hkeeps, hpath⟩
    · rcases revokes_step hhonest hrevokes with hold | ⟨id, e, he, rfl, hid, hpath⟩
      · obtain ⟨hgone, hpath⟩ := h.gone p hmem hold
        exact ⟨Tracked.gone_step hgone hp hkeeps, hpath⟩
      · refine ⟨?_, hpath⟩
        have hedit : (Keys.step bcrypt zone s.shared (.locked (.change id e)) i).1.manager =
            s.shared.manager.edit id ref e := by
          simp only [Keys.step, underLock, hid]
        rw [hedit]
        exact gone_edit h.addressed hid he
    · obtain ⟨id', e, -, heq⟩ := hrevokes
      cases heq

/-! ## Calls that wait for themselves -/

section Paths

variable (hl : Path (Machine.Step bcrypt zone) s l)
include hl

/-- A call that waits for itself does so for ever. -/
lemma resave_path (h : s.threads[t]? = some (.resave id e ref)) :
    (endState s l).threads[t]? = some (.resave id e ref) := by
  induction l generalizing s with
  | nil => exact h
  | cons x l ih =>
    obtain ⟨a, s'⟩ := x
    refine ih hl.2 ?_
    rcases hl.1.cases with ⟨c, -, rfl⟩ | ⟨u, i, p, -, hnext, -⟩
    · obtain ⟨hlt, -⟩ := List.getElem?_eq_some_iff.mp h
      rw [List.getElem?_append_left hlt, h]
    · exact LockProgram.next_of_selfWaits hnext (selfWaits_iff.mpr ⟨id, e, ref, rfl⟩) h

/-- If no call waits for itself at the end of a run, none has at its start. -/
lemma noSelfWait_of_endState (h : NoSelfWait (endState s l)) : NoSelfWait s := by
  rintro p hp id e ref rfl
  obtain ⟨t, ht⟩ := List.mem_iff_getElem?.mp hp
  exact h _ (List.mem_of_getElem? (resave_path hl ht)) id e ref rfl

lemma statesMeet_of_endState (h : NoSelfWait (endState s l)) : StatesMeet NoSelfWait s l := by
  induction l generalizing s with
  | nil => exact h
  | cons x l ih => exact ⟨noSelfWait_of_endState hl h, ih hl.2 h⟩

/-- A run that meets the condition, up to the record. -/
lemma tracked_of_run (hexact : bcrypt.Exact) (hthreads : s.threads = [])
    (haddressed : s.shared.manager.Addressed) (hdistinct : Distinct bcrypt s.shared.manager)
    (hunnested : StepsMeet Unnested s l)
    (hkeeps : StepsMeet (Keeps bcrypt ref) s l) : Tracked bcrypt ref (endState s l) := by
  have hstart : Tracked bcrypt ref s := by
    refine ⟨haddressed, hdistinct, ?_, ?_⟩
    all_goals
      intro p hp
      rw [hthreads] at hp
      cases hp
  clear hthreads haddressed hdistinct
  induction l generalizing s with
  | nil => exact hstart
  | cons x l ih =>
    exact ih hl.2 hunnested.2 hkeeps.2 (hstart.step hexact hunnested.1 hkeeps.1 hl.1)

end Paths

end Keys

open Keys

/-- **Revocation over every run**, from a manager with no calls on it. A call waits for itself in
some state exactly if some step saves under the write lock, and then it waits for ever. Otherwise
calls complete: until all have returned one can go on, and without new calls that ends. The key of a
record that `RevokeKey` or `DeleteKey` has returned for is then rejected, by this manager and by one
that is loaded from the file, unless the record is enabled again or its key is stored again. -/
theorem revocation_of_run {bcrypt : Bcrypt} {zone : Location} {s : Machine}
    (hthreads : s.threads = []) {l : List (Keys.Event × Machine)}
    (hl : Path (Machine.Step bcrypt zone) s l) :
    (StatesMeet NoSelfWait s l ↔ StepsMeet Unnested s l) ∧
      (¬ StepsMeet Unnested s l → ∃ (t : ℕ) (id : Text) (e : Edit) (ref : ℕ),
        ∀ l', Path (Machine.Step bcrypt zone) (endState s l) l' →
          (endState (endState s l) l').threads[t]? = some (.resave id e ref)) ∧
      (StepsMeet Unnested s l →
        (Returned (endState s l) ∨
          ∃ a s', (keyProgram bcrypt zone).Next (endState s l) a s') ∧
        (∀ l', Path (keyProgram bcrypt zone).Next (endState s l) l' →
          l'.length ≤ (keyProgram bcrypt zone).workLeft (endState s l)) ∧
        (bcrypt.Exact → s.shared.manager.Addressed → Distinct bcrypt s.shared.manager →
          ∀ ref, StepsMeet (Keeps bcrypt ref) s l →
          (∃ p ∈ (endState s l).threads, Revokes ref p) → ∀ hash key,
          hashAt (endState s l).shared.manager ref = some hash →
          bcrypt.compareHashAndPassword hash key = true →
          Rejects bcrypt (endState s l).shared.manager key ∧
            ∀ m, newAPIKeyManager (endState s l).shared.manager.filePath
              (endState s l).shared.file = .ok m → Rejects bcrypt m key)) := by
  have hiff : StatesMeet NoSelfWait s l ↔ StepsMeet Unnested s l := by
    refine Path.statesMeet_iff_stepsMeet (I := fun _ => True) (fun _ _ _ _ _ => trivial)
      (fun _ _ _ _ h hstep => noSelfWait_step_iff h hstep) trivial ?_ hl
    intro p hp
    rw [hthreads] at hp
    cases hp
  refine ⟨hiff, ?_, ?_⟩
  · intro hnests
    have hwaits : ¬ NoSelfWait (endState s l) :=
      fun h => hnests (hiff.mp (statesMeet_of_endState hl h))
    unfold NoSelfWait at hwaits
    push Not at hwaits
    obtain ⟨p, hp, id, e, ref, rfl⟩ := hwaits
    obtain ⟨t, ht⟩ := List.mem_iff_getElem?.mp hp
    exact ⟨t, id, e, ref, fun l' hl' => resave_path hl' ht⟩
  · intro hunnested
    refine ⟨returned_or_next (hiff.mpr hunnested).endState, ?_, ?_⟩
    · intro l' hl'
      have hwork := LockProgram.length_le_work hl'
      omega
    · rintro hexact haddressed hdistinct ref hkeeps ⟨p, hp, hrevokes⟩ hash key hhash hopens
      have htracked := tracked_of_run hl hexact hthreads haddressed hdistinct hunnested hkeeps
      obtain ⟨hgone, hpath⟩ := htracked.gone p hp hrevokes
      refine ⟨rejects_of_gone htracked.distinct hgone hhash hopens, ?_⟩
      intro m hm
      -- a manager without a file starts without keys
      unfold newAPIKeyManager at hm
      rw [if_pos hpath] at hm
      cases hm
      apply rejects_of_not_accepts
      intro id ref' apiKey now hid
      cases hid

/-! ## One key, with a file and without -/

/-- A new manager, and no calls. -/
def newMachine (filePath : Text) : Machine := ⟨⟨⟨[], ∅, ∅, filePath⟩, .absent⟩, []⟩

/-- The identifier of the key. -/
def soleID : Text := hexEncode (List.replicate 8 1)

/-- A call that makes it. -/
def createSole : Call :=
  .createKey ⟨some (replicate 32 7), some (replicate 16 0),
    some (replicate 8 1)⟩ (text "ci") [text "read"] 0

/-- A step of the call at this place; `save` goes over the one key. -/
def stepOf (t : ℕ) : Keys.Event := .step t ⟨0, [soleID], .done⟩

/-- With a file: `CreateKey` saves and returns in seven steps, then `RevokeKey` takes four. -/
def fileRun : List (Keys.Event × Machine) :=
  trace (Machine.next plainBcrypt utc) (newMachine (text "keys.json"))
    (.call createSole :: List.replicate 7 (stepOf 0) ++ .call (.change soleID .revoke) ::
      List.replicate 4 (stepOf 1))

/-- **`RevokeKey` never returns if there is a file.** -/
theorem revokeKey_waits_for_itself :
    Path (Machine.Step plainBcrypt utc) (newMachine (text "keys.json")) fileRun ∧
      ¬ NoSelfWait (endState (newMachine (text "keys.json")) fileRun) ∧
      ∀ l, Path (Machine.Step plainBcrypt utc)
          (endState (newMachine (text "keys.json")) fileRun) l →
        ¬ Returned (endState (endState (newMachine (text "keys.json")) fileRun) l) := by
  have hwaits : (endState (newMachine (text "keys.json")) fileRun).threads[1]? =
      some (.resave soleID .revoke 0) := by
    decide +kernel
  refine ⟨trace_path _ _, ?_, ?_⟩
  · intro h
    exact h _ (List.mem_of_getElem? hwaits) soleID .revoke 0 rfl
  · intro l hl hreturned
    obtain ⟨res, hres⟩ := hreturned _ (List.mem_of_getElem? (resave_path hl hwaits))
    cases hres

/-- Without a file both calls return in four steps. -/
def memoryRun : List (Keys.Event × Machine) :=
  trace (Machine.next plainBcrypt utc) (newMachine [])
    (.call createSole :: List.replicate 4 (stepOf 0) ++ .call (.change soleID .revoke) ::
      List.replicate 4 (stepOf 1))

theorem revocation_of_run_memory :
    StatesMeet NoSelfWait (newMachine []) memoryRun ∧
      Rejects plainBcrypt (endState (newMachine []) memoryRun).shared.manager
        (plainKey (replicate 32 7)) := by
  have hunnested : StepsMeet Unnested (newMachine []) memoryRun := by decide +kernel
  have hkeeps : StepsMeet (Keeps plainBcrypt 0) (newMachine []) memoryRun := by decide +kernel
  have hreturned : Position.returned (.changed soleID .revoke (some 0) (.ok ())) ∈
      (endState (newMachine []) memoryRun).threads := by
    decide +kernel
  have hhash : hashAt (endState (newMachine []) memoryRun).shared.manager 0 =
      some (plainKey (replicate 32 7)) := by
    decide +kernel
  obtain ⟨hiff, -, hlasts⟩ := revocation_of_run rfl
    (trace_path _ _ : Path (Machine.Step plainBcrypt utc) (newMachine []) memoryRun)
  refine ⟨hiff.mpr hunnested, ?_⟩
  exact ((hlasts hunnested).2.2 plainBcrypt_exact (addressed_empty [])
    (distinct_empty []) 0 hkeeps ⟨_, hreturned, soleID, .revoke, Or.inl rfl, rfl⟩ _ _
    hhash (decide_eq_true rfl)).1

end Moltbunker.Api
