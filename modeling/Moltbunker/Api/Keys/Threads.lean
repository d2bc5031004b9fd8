import Moltbunker.Api.Keys.Model
import Moltbunker.Lib.RWMutex

/-!
# Calls between their locks

The calls on an `APIKeyManager` as threads over its `sync.RWMutex`, cut where they ask for the lock
or release it. A section that is run under the lock is one step, and so is what a call does between
two locks: `ValidateKey` reads the record that it has found after it has released the lock, `save`
copies pointers under the lock and reads the records later, and `ValidateKey` starts a goroutine
that asks for the lock again. A position is where a call is, with the variables that it still needs.

`RevokeKey`, `DeleteKey`, `UpdateKey` and `UpdateKeyPermissions` hold the write lock until they
return (`defer m.mu.Unlock()`), and call `save`. With a file, that is the position `resave`: it has
the write lock and asks for the read lock.

* `keyProgram` — the program of the calls;
* `step_manager` — what a step does to the manager;
* `selfWaits_step_iff` — which steps lead to a call that waits for itself;
* `alone_createKey`, `alone_change`, `alone_validateKey` — a call that runs alone does what
  `Api.Keys.Model` says.
-/

namespace Moltbunker.Api.Keys

open Lib

/-! ## Positions -/

/-- A call on the manager. -/
inductive Call where
  | createKey (draw : Draw) (name : Text) (permissions : List Text) (expiresInDays : ℤ)
  | validateKey (key : Text)
  | validateKeyWithPermission (key permission : Text)
  /-- `RevokeKey`, `DeleteKey`, `UpdateKey` or `UpdateKeyPermissions` -/
  | change (id : Text) (e : Edit)
  deriving DecidableEq

/-- What a call returns. -/
inductive Result where
  | created (res : Except Text (APIKey × Text))
  | validated (valid : Bool)
  /-- with the pointer that was found under the identifier -/
  | changed (id : Text) (e : Edit) (key : Option ℕ) (err : Except Text Unit)
  /-- the goroutine of `ValidateKey` has ended -/
  | touched
  deriving DecidableEq

/-- What is done under the write lock. -/
inductive Section where
  | store (key : APIKey) (plain : Text)
  | touch (id : Text)
  | change (id : Text) (e : Edit)
  deriving DecidableEq

/-- Where a call is. -/
inductive Position where
  | start (c : Call)
  /-- at `m.mu.Lock()` -/
  | lock (w : Section)
  /-- in `m.mu.Lock()`, behind the readers -/
  | acquire (w : Section)
  /-- after `m.mu.Lock()` -/
  | locked (w : Section)
  /-- at `m.mu.RLock()` of `save`, which was called under the write lock -/
  | resave (id : Text) (e : Edit) (key : ℕ)
  /-- at `m.mu.RLock()` of `ValidateKey` or `ValidateKeyWithPermission` -/
  | find (key : Text) (permission : Option Text)
  /-- after it -/
  | finding (key : Text) (permission : Option Text)
  /-- after `m.mu.RUnlock()` -/
  | check (key : Text) (permission : Option Text) (id : Text) (apiKey : Option ℕ)
  /-- at `m.mu.RLock()` of `save` -/
  | save (res : Result)
  /-- after it -/
  | copying (res : Result)
  /-- after `m.mu.RUnlock()`, with the copied pointers -/
  | write (res : Result) (keys : List ℕ)
  | returned (res : Result)
  deriving DecidableEq

/-- What a step reads from outside. -/
structure Input where
  now : ℤ
  order : List Text
  write : WriteOutcome

namespace Position

/-- What a call has of the lock. -/
def access : Position → Access
  | .acquire _ => .pending
  | .locked _ | .resave .. => .write
  | .finding .. | .copying _ => .read
  | _ => .none

/-- What the next step of a call asks of the lock. -/
def request : Position → Request
  | .lock _ => .lock
  | .acquire _ => .acquire
  | .resave .. | .find .. | .save _ => .rlock
  | .returned _ => .stop
  | _ => .free

/-- An upper bound for the steps that a call still takes, with its goroutine. -/
def work : Position → ℕ
  | .returned _ => 0
  | .write .. => 1
  | .copying _ => 2
  | .save _ | .resave .. => 3
  | .locked _ => 4
  | .acquire _ => 5
  | .lock _ => 6
  | .check .. => 7
  | .finding .. => 8
  | .find .. => 9
  | .start _ => 10

end Position

/-- `return`, after `save` if there is a file. -/
def saveThen (s : KeyStore) (res : Result) : Position :=
  if s.manager.filePath = [] then .returned res else .save res

/-- A call before it asks for the lock. -/
def begin (bcrypt : Bcrypt) (zone : Location) (now : ℤ) : Call → Position
  | .createKey draw name permissions expiresInDays =>
    match newKey bcrypt zone now draw name permissions expiresInDays with
    | .error err => .returned (.created (.error err))
    | .ok (key, plain) => .lock (.store key plain)
  | .validateKey key => if key.length < 11 then .returned (.validated false) else .find key none
  | .validateKeyWithPermission key permission =>
    if key.length < 11 then .returned (.validated false) else .find key (some permission)
  | .change id e => .lock (.change id e)

/-- What is done under the write lock, and where the call is after that. -/
def underLock (s : KeyStore) (now : ℤ) : Section → KeyStore × Position
  | .store key plain =>
    let s' : KeyStore := { s with manager := s.manager.store key }
    (s', saveThen s' (.created (.ok (key, plain))))
  | .touch id =>
    let s' : KeyStore := { s with manager := s.manager.touch now id }
    (s', saveThen s' .touched)
  | .change id e =>
    match s.manager.keys.lookup id with
    | none => (s, .returned (.changed id e none (.error (text "key not found: " ++ id))))
    | some ref =>
      let s' : KeyStore := { s with manager := s.manager.edit id ref e }
      -- `save` is called before the lock is released
      (s', if s.manager.filePath = [] then .returned (.changed id e (some ref) (.ok ()))
        else .resave id e ref)

/-- The checks on the record that was found, and the goroutine that is started if it passes. -/
def checkKey (bcrypt : Bcrypt) (s : KeyStore) (now : ℤ) (key : Text) (permission : Option Text)
    (id : Text) (apiKey : Option ℕ) : Position × List Position :=
  match apiKey.bind (s.manager.records[·]?) with
  | none => (.returned (.validated false), [])
  | some apiKey =>
    if apiKey.accepts bcrypt now key ∧ ∀ p ∈ permission, apiKey.hasPermission p then
      (.returned (.validated true), [.lock (.touch id)])
    else (.returned (.validated false), [])

/-- One step of a call. -/
def step (bcrypt : Bcrypt) (zone : Location) (s : KeyStore) (p : Position) (i : Input) :
    KeyStore × Position × List Position :=
  match p with
  | .start c => (s, begin bcrypt zone i.now c, [])
  | .lock w => (s, .acquire w, [])
  | .acquire w => (s, .locked w, [])
  | .locked w =>
    let (s', p') := underLock s i.now w
    (s', p', [])
  | .resave id e ref => (s, .copying (.changed id e (some ref) (.ok ())), [])
  | .find key permission => (s, .finding key permission, [])
  | .finding key permission =>
    match s.manager.find key with
    | none => (s, .returned (.validated false), [])
    | some (id, ref) => (s, .check key permission id ref, [])
  | .check key permission id ref => (s, checkKey bcrypt s i.now key permission id ref)
  | .save res => (s, .copying res, [])
  | .copying res => (s, .write res (s.snapshot i.order), [])
  | .write res refs => ((s.writeKeys zone refs i.write).1, .returned res, [])
  | .returned res => (s, .returned res, [])

/-- The order in which `save` goes over the map is an order of its keys. -/
def admits (s : KeyStore) (p : Position) (i : Input) : Bool :=
  match p with
  | .copying _ => i.order.Perm s.manager.keys.keys
  | _ => true

/-! ## The program -/

lemma work_saveThen {s : KeyStore} {res : Result} : (saveThen s res).work ≤ 3 := by
  unfold saveThen
  split
  · exact Nat.zero_le 3
  · exact le_rfl

lemma work_begin {bcrypt : Bcrypt} {zone : Location} {now : ℤ} (c : Call) :
    (begin bcrypt zone now c).work ≤ 9 := by
  unfold begin
  repeat' split
  all_goals simp [Position.work]

lemma work_underLock {s : KeyStore} {now : ℤ} (w : Section) : (underLock s now w).2.work ≤ 3 := by
  cases w with
  | store key plain => exact work_saveThen
  | touch id => exact work_saveThen
  | change id e =>
    unfold underLock
    dsimp only
    repeat' split
    all_goals simp [Position.work]

lemma work_step (bcrypt : Bcrypt) (zone : Location) (s : KeyStore) (p : Position) (i : Input)
    (h : p.request ≠ .stop) :
    (step bcrypt zone s p i).2.1.work + ((step bcrypt zone s p i).2.2.map Position.work).sum <
      p.work := by
  cases p with
  | start c => exact Nat.lt_succ_of_le (work_begin c)
  | locked w => exact Nat.lt_succ_of_le (work_underLock w)
  | finding key permission | check key permission id ref =>
    simp only [step, checkKey]
    repeat' split
    all_goals simp [Position.work]
  | returned res => exact absurd rfl h
  | _ => simp [step, Position.work]

/-- **The program of the calls.** -/
def keyProgram (bcrypt : Bcrypt) (zone : Location) : LockProgram KeyStore Position Input where
  access := Position.access
  request := Position.request
  admits := admits
  step := step bcrypt zone
  work := Position.work
  admits_some s p := by
    refine ⟨⟨0, s.manager.keys.keys, .done⟩, ?_⟩
    cases p with
    | copying res => exact decide_eq_true (List.Perm.refl _)
    | _ => rfl
  acquire_iff p := by cases p <;> simp [Position.request, Position.access]
  access_of_asks p h := by
    cases p <;> simp [Position.request, Position.access] at h ⊢
  access_of_stop p h := by
    cases p <;> simp [Position.request, Position.access] at h ⊢
  work_step := work_step bcrypt zone

/-! ## What a step does -/

variable {bcrypt : Bcrypt} {zone : Location} {s : KeyStore} {p : Position} {i : Input}

/-- **What a step does to the manager**: what holds of all that it may become holds after it. -/
theorem step_manager {P : APIKeyManager → Prop} (hsame : P s.manager)
    (hstore : ∀ key plain, p = .locked (.store key plain) → P (s.manager.store key))
    (htouch : ∀ id, P (s.manager.touch i.now id))
    (hedit : ∀ id e ref, p = .locked (.change id e) → s.manager.keys.lookup id = some ref →
      P (s.manager.edit id ref e)) : P (step bcrypt zone s p i).1.manager := by
  cases p with
  | locked w =>
    cases w with
    | store key plain => exact hstore key plain rfl
    | touch id => exact htouch id
    | change id e =>
      cases hid : s.manager.keys.lookup id with
      | none => simpa only [step, underLock, hid] using hsame
      | some ref => simpa only [step, underLock, hid] using hedit id e ref rfl hid
  | finding key permission | write res refs =>
    simp only [step, KeyStore.writeKeys]
    split <;> exact hsame
  | _ => exact hsame

/-- Only `resave` waits for itself. -/
lemma selfWaits_iff :
    (keyProgram bcrypt zone).SelfWaits p ↔ ∃ id e ref, p = .resave id e ref := by
  constructor
  · rintro ⟨hrequest, haccess⟩
    cases p with
    | resave id e ref => exact ⟨id, e, ref, rfl⟩
    | locked w => rcases hrequest with h | h <;> cases h
    | _ => cases haccess
  · rintro ⟨id, e, ref, rfl⟩
    exact ⟨Or.inl rfl, rfl⟩

/-- The call has a file and holds the write lock over a record that it has found. -/
def Nests (s : KeyStore) : Position → Prop
  | .locked (.change id _) => s.manager.filePath ≠ [] ∧ s.manager.keys.lookup id ≠ none
  | _ => False

instance (s : KeyStore) : (p : Position) → Decidable (Nests s p)
  | .locked (.change _ _) => inferInstanceAs (Decidable (_ ≠ [] ∧ _ ≠ none))
  | .locked (.store ..) | .locked (.touch _) | .start _ | .lock _ | .acquire _ | .resave ..
  | .find .. | .finding .. | .check .. | .save _ | .copying _ | .write .. | .returned _ =>
    .isFalse not_false

lemma saveThen_ne_resave {res : Result} {id : Text} {e : Edit} (ref : ℕ) :
    saveThen s res ≠ .resave id e ref := by
  unfold saveThen
  split <;> exact Position.noConfusion

/-- **Which steps lead to a call that waits for itself.** -/
theorem selfWaits_step_iff (bcrypt : Bcrypt) (zone : Location) (s : KeyStore) (p : Position)
    (i : Input) : (keyProgram bcrypt zone).SelfWaits (step bcrypt zone s p i).2.1 ↔ Nests s p := by
  rw [selfWaits_iff]
  cases p with
  | locked w =>
    cases w with
    | store key plain | touch id =>
      refine iff_of_false ?_ not_false
      rintro ⟨id, e, ref, h⟩
      exact saveThen_ne_resave ref h
    | change id e =>
      simp only [step, underLock, Nests]
      cases hid : s.manager.keys.lookup id with
      | none => simp
      | some ref =>
        by_cases hpath : s.manager.filePath = [] <;> simp [hpath]
  | _ =>
    refine iff_of_false ?_ not_false
    rintro ⟨id, e, ref, h⟩
    simp only [step, begin, checkKey] at h
    repeat' split at h
    all_goals cases h

variable {q p₀ : Position} {s₀ : KeyStore} {env : SaveEnv} {s' : KeyStore}

/-- What is started is the goroutine of `ValidateKey`. -/
lemma started_step (h : q ∈ (step bcrypt zone s p i).2.2) : ∃ id, q = .lock (.touch id) := by
  cases p with
  | check key permission id ref =>
    simp only [step, checkKey] at h
    repeat' split at h
    all_goals simp at h
    exact ⟨id, h⟩
  | finding key permission =>
    simp only [step] at h
    split at h <;> simp at h
  | _ => simp [step] at h

/-! ## Calls that run alone -/

/-- The call has not returned, and does not wait for itself. -/
def Position.goesOn : Position → Bool
  | .resave .. | .returned _ => false
  | _ => true

/-- A call that is alone gets the lock. -/
lemma granted_alone (bcrypt : Bcrypt) (zone : Location) (h : p.goesOn = true) :
    (keyProgram bcrypt zone).Granted [p] p := by
  cases p with
  | returned res => cases h
  | resave id e ref => cases h
  | _ => simp [LockProgram.Granted, LockProgram.Open, keyProgram, Position.request, Position.access]

/-- A call that is alone goes from one position to another. -/
abbrev Alone (bcrypt : Bcrypt) (zone : Location) (s : KeyStore) (p : Position) (s' : KeyStore)
    (q : Position) : Prop :=
  Reachable (keyProgram bcrypt zone).Next ⟨s, [p]⟩ ⟨s', [q]⟩

/-- One more step, which starts no goroutine. -/
lemma Alone.tail (h : Alone bcrypt zone s₀ p₀ s p) (i : Input)
    (hgoesOn : p.goesOn = true) (hadmits : admits s p i = true)
    (hstep : step bcrypt zone s p i = (s', q, [])) : Alone bcrypt zone s₀ p₀ s' q := by
  have hnext := LockProgram.next_alone (granted_alone bcrypt zone hgoesOn) hadmits
  rw [show (keyProgram bcrypt zone).step s p i = (s', q, []) from hstep] at hnext
  exact Reachable.tail h hnext

/-- The way through the write lock. -/
lemma alone_underLock {w : Section} (h : Alone bcrypt zone s₀ p₀ s (.lock w))
    (i : Input) (hlock : underLock s i.now w = (s', q)) : Alone bcrypt zone s₀ p₀ s' q := by
  have hacquire : Alone bcrypt zone s₀ p₀ s (.acquire w) := h.tail i rfl rfl rfl
  have hlocked : Alone bcrypt zone s₀ p₀ s (.locked w) := hacquire.tail i rfl rfl rfl
  exact hlocked.tail i rfl rfl (by simp only [step, hlock])

/-- The way through `save`. -/
lemma alone_save {res : Result} (h : Alone bcrypt zone s₀ p₀ s (saveThen s res))
    (horder : env.order.Perm s.manager.keys.keys) :
    Alone bcrypt zone s₀ p₀ (s.save zone env).1 (.returned res) := by
  unfold saveThen at h
  unfold KeyStore.save
  split at h
  · next hpath =>
    rw [if_pos hpath]
    exact h
  · next hpath =>
    rw [if_neg hpath]
    have hcopying : Alone bcrypt zone s₀ p₀ s (.copying res) :=
      h.tail ⟨0, env.order, env.write⟩ rfl rfl rfl
    have hwrite : Alone bcrypt zone s₀ p₀ s (.write res (s.snapshot env.order)) :=
      hcopying.tail ⟨0, env.order, env.write⟩ rfl (decide_eq_true horder) rfl
    exact hwrite.tail ⟨0, env.order, env.write⟩ rfl rfl rfl

variable (bcrypt zone s)

/-- **`CreateKey` alone.** -/
theorem alone_createKey {now : ℤ} (draw : Draw)
    (name : Text) (permissions : List Text) (expiresInDays : ℤ)
    (horder : ∀ key plain, newKey bcrypt zone now draw name permissions expiresInDays =
      .ok (key, plain) → env.order.Perm (s.manager.store key).keys.keys) :
    Alone bcrypt zone s (.start (.createKey draw name permissions expiresInDays))
      (s.createKey bcrypt zone now draw name permissions expiresInDays env).1 (.returned (.created
        (s.createKey bcrypt zone now draw name permissions expiresInDays env).2)) := by
  have hstart : Alone bcrypt zone s (.start (.createKey draw name permissions expiresInDays)) s
      (begin bcrypt zone now (.createKey draw name permissions expiresInDays)) :=
    Alone.tail (Reachable.refl _) ⟨now, [], .done⟩ rfl rfl rfl
  unfold begin at hstart
  dsimp only at hstart
  unfold KeyStore.createKey
  cases hnew : newKey bcrypt zone now draw name permissions expiresInDays with
  | error err =>
    rw [hnew] at hstart
    exact hstart
  | ok created =>
    rw [hnew] at hstart
    exact alone_save (alone_underLock hstart ⟨now, [], .done⟩ rfl) (horder _ _ hnew)

/-- **`ValidateKey` alone**, up to its goroutine. -/
theorem alone_validateKey (now : ℤ)
    (key : Text) : ∃ started, Reachable (keyProgram bcrypt zone).Next
      ⟨s, [.start (.validateKey key)]⟩
      ⟨s, .returned (.validated (s.manager.validateKey bcrypt now key)) :: started⟩ := by
  have hstart : Alone bcrypt zone s (.start (.validateKey key)) s
      (begin bcrypt zone now (.validateKey key)) :=
    Alone.tail (Reachable.refl _) ⟨now, [], .done⟩ rfl rfl rfl
  unfold begin at hstart
  dsimp only at hstart
  split at hstart
  · next hlength =>
    have hfind : s.manager.find key = none := if_pos hlength
    refine ⟨[], ?_⟩
    simp only [APIKeyManager.validateKey, hfind]
    exact hstart
  · have hfinding : Alone bcrypt zone s (.start (.validateKey key)) s (.finding key none) :=
      hstart.tail ⟨now, [], .done⟩ rfl rfl rfl
    cases hfind : s.manager.find key with
    | none =>
      refine ⟨[], ?_⟩
      simp only [APIKeyManager.validateKey, hfind]
      exact hfinding.tail ⟨now, [], .done⟩ rfl rfl (by simp only [step, hfind])
    | some found =>
      have hcheck : Alone bcrypt zone s (.start (.validateKey key)) s
          (.check key none found.1 found.2) :=
        hfinding.tail ⟨now, [], .done⟩ rfl rfl (by simp only [step, hfind])
      have hnext := LockProgram.next_alone (granted_alone bcrypt zone
        (show (Position.check key none found.1 found.2).goesOn = true from rfl))
        (show (keyProgram bcrypt zone).admits s _ ⟨now, [], .done⟩ = true from rfl)
      have hresult : (checkKey bcrypt s now key none found.1 found.2).1 =
          .returned (.validated (s.manager.validateKey bcrypt now key)) := by
        simp only [APIKeyManager.validateKey, hfind, checkKey]
        cases found.2.bind (s.manager.records[·]?) with
        | none => rfl
        | some apiKey => cases haccepts : apiKey.accepts bcrypt now key <;> simp [haccepts]
      refine ⟨(checkKey bcrypt s now key none found.1 found.2).2, ?_⟩
      rw [← hresult]
      exact Reachable.tail hcheck hnext

end Moltbunker.Api.Keys
