import Moltbunker.Api.WalletAuth
import Moltbunker.Lib.Path

/-!
# Logging in with a wallet

`handleAuthChallenge` and `handleAuthVerify` of `internal/api/handlers.go`, over any run of requests
by any callers. A challenge is issued for an address and expires; `handleAuthVerify` opens a session
for the address that a signature recovers to. It does not ask which message was signed, although the
manager has `GetChallengeForAddress` for that.

A run keeps two histories beside the manager: the challenges that were issued and the sessions that
were opened. `Fresh` is what a login has to rest on. `LoginGuard` asks the caller for what the
handler does not check: the message of the current challenge, and one session for each challenge.
That the message was then never used before needs an argument: two challenges for one address are at
least the timeout apart (`Inv.apart`), and their messages carry the second at which they were
created.

* `session_needs_fresh_challenge` — every session of a run that meets the condition is `Fresh`;
* `session_for_other_text` — a signature of any other text opens one too.
-/

namespace Moltbunker.Api

open Lib Text Function

variable {Hash PublicKey Address : Type}

/-! ## The handlers -/

/-- `AuthVerifyRequest` -/
structure AuthVerifyRequest where
  address : Text
  message : Text
  signature : Text
  deriving DecidableEq

/-- `AuthVerifyResponse` -/
structure AuthVerifyResponse where
  accessToken : Text
  expiresIn : ℕ
  wallet : Text
  authType : Text

/-- `handleAuthChallenge`; the body of the request is `none` if it does not decode. The response
carries the message and the seconds until it expires. -/
def handleAuthChallenge (walletAuth : Option WalletAuthManager) (now : ℕ)
    (rand : Option (List.Vector UInt8 32)) (method : Method) (body : Option Text) :
    Option WalletAuthManager × Response (Text × ℕ) :=
  if method ≠ .post then (walletAuth, methodNotAllowed) else
  match body with
  | none => (walletAuth, writeError 400 (text "invalid request body"))
  | some address =>
    if address = [] then (walletAuth, writeError 400 (text "address is required")) else
    match walletAuth with
    | none => (none, writeError 503 (text "wallet authentication not available"))
    | some m =>
      match m.createChallenge now rand address with
      | .error err => (some m, writeError 400 err)
      | .ok (m', message) => (some m', ⟨200, .ok (message, 300)⟩)

/-- `handleAuthVerify` -/
def handleAuthVerify (crypto : Crypto Hash PublicKey Address)
    (walletAuth : Option WalletAuthManager) (now : ℕ) (rand : Option (List.Vector UInt8 32))
    (method : Method) (body : Option AuthVerifyRequest) :
    Option WalletAuthManager × Response AuthVerifyResponse :=
  if method ≠ .post then (walletAuth, methodNotAllowed) else
  match body with
  | none => (walletAuth, writeError 400 (text "invalid request body"))
  | some req =>
    if req.address = [] ∨ req.message = [] ∨ req.signature = [] then
      (walletAuth, writeError 400 (text "address, message, and signature are required"))
    else
      match walletAuth with
      | none => (none, writeError 503 (text "wallet authentication not available"))
      | some m =>
        match verifySignature crypto req.message req.signature req.address with
        | .error err => (some m, writeError 401 err)
        | .ok verifiedAddr =>
          match m.createSession now rand verifiedAddr with
          | .error _ => (some m, writeError 500 (text "failed to create session"))
          | .ok (m', token, expiresAt) =>
            (some m', ⟨200, .ok ⟨token, (expiresAt - now) / second, verifiedAddr,
              text "wallet"⟩⟩)

/-! ## Runs -/

/-- A session that was opened. -/
structure Opened where
  address : Text
  message : Text
  openedAt : ℕ
  deriving DecidableEq

/-- The manager, the time of the last request, the challenges that were issued and the sessions that
were opened. -/
structure Auth where
  walletAuth : Option WalletAuthManager
  now : ℕ
  issued : List Challenge
  opened : List Opened

/-- What can happen to the manager. -/
inductive Event where
  | challenge (rand : Option (List.Vector UInt8 32)) (method : Method) (body : Option Text)
  | verify (rand : Option (List.Vector UInt8 32)) (method : Method)
      (body : Option AuthVerifyRequest)
  /-- a tick of `cleanupLoop` -/
  | cleanup

/-- The request for a session, if that is what the event is. -/
def Event.request : Event → Option AuthVerifyRequest
  | .verify _ _ body => body
  | _ => none

/-- An event and its time. -/
structure Timed where
  now : ℕ
  event : Event

/-- `NewServer` -/
def Auth.init (now : ℕ) : Auth := ⟨some (newWalletAuthManager (5 * 60 * second)), now, [], []⟩

/-- The challenge that the manager holds for the address after it has answered. -/
def answered (walletAuth : Option WalletAuthManager) (body : Option Text)
    (response : Response (Text × ℕ)) : List Challenge :=
  match response.body, body, walletAuth with
  | .ok _, some address, some m => (m.challenges address.toLower).toList
  | _, _, _ => []

/-- The session that a response hands out. -/
def handedOut (now : ℕ) (body : Option AuthVerifyRequest)
    (response : Response AuthVerifyResponse) : List Opened :=
  match response.body, body with
  | .ok r, some req => [⟨r.wallet.toLower, req.message, now⟩]
  | _, _ => []

variable (crypto : Crypto Hash PublicKey Address)

/-- One request, or one tick. -/
def Auth.next (s : Auth) (a : Timed) : Option Auth :=
  if a.now < s.now then none else
  match a.event with
  | .challenge rand method body =>
    let (walletAuth, response) := handleAuthChallenge s.walletAuth a.now rand method body
    some ⟨walletAuth, a.now, s.issued ++ answered walletAuth body response, s.opened⟩
  | .verify rand method body =>
    let (walletAuth, response) := handleAuthVerify crypto s.walletAuth a.now rand method body
    some ⟨walletAuth, a.now, s.issued, s.opened ++ handedOut a.now body response⟩
  | .cleanup =>
    some ⟨s.walletAuth.map fun m => m.cleanupExpired a.now, a.now, s.issued, s.opened⟩

/-- The step relation. -/
def Step (s : Auth) (a : Timed) (s' : Auth) : Prop :=
  s.next crypto a = some s'

/-- The sessions that an event opens. -/
def openedBy (s : Auth) (a : Timed) : List Opened :=
  match a.event with
  | .verify rand method body =>
    handedOut a.now body (handleAuthVerify crypto s.walletAuth a.now rand method body).2
  | _ => []

/-- ECDSA is unforgeable: `signed A m` if the key of the wallet `A` has signed `m`. -/
def Unforgeable (signed : Text → Text → Prop) : Prop :=
  ∀ message sigBytes pubKey,
    crypto.sigToPub (crypto.keccak256Hash (prefixedMessage message)) sigBytes = some pubKey →
      signed (crypto.hex (crypto.pubkeyToAddress pubKey)).toLower message

/-- A session that rests on a challenge which the server has issued for its wallet, which is not
expired and was not used before, and which the wallet has signed. -/
structure Fresh (signed : Text → Text → Prop) (s : Auth) (o : Opened) : Prop where
  issued : ∃ ch ∈ s.issued, ch.address = o.address ∧ ch.message = o.message ∧
    o.openedAt ≤ ch.expiresAt
  unused : ∀ o' ∈ s.opened, o'.message ≠ o.message
  signed : signed o.address o.message

/-- Every session that an event opens is fresh. -/
def OpensFresh (signed : Text → Text → Prop) (s : Auth) (a : Timed) : Prop :=
  ∀ o ∈ openedBy crypto s a, Fresh signed s o

/-- A request with a valid signature presents the current challenge of its address, and no session
of this address was opened since that challenge was created. -/
def LoginGuard (s : Auth) (a : Timed) : Prop :=
  ∀ req ∈ a.event.request,
    (verifySignature crypto req.message req.signature req.address).isOk = true →
      ∃ m ∈ s.walletAuth, ∃ ch ∈ m.getChallengeForAddress a.now req.address,
        req.message = ch.message ∧
        ∀ o ∈ s.opened, o.address = req.address.toLower → o.openedAt < ch.createdAt

instance (crypto : Crypto Hash PublicKey Address) (s : Auth) (a : Timed) :
    Decidable (LoginGuard crypto s a) :=
  inferInstanceAs (Decidable (∀ req ∈ a.event.request, _ → ∃ m ∈ s.walletAuth,
    ∃ ch ∈ m.getChallengeForAddress a.now req.address, _ ∧ ∀ o ∈ s.opened, _ → _))

/-! ## Messages -/

variable {address : Text} {m' : WalletAuthManager} {now : ℕ} {rand : Option (List.Vector UInt8 32)}
  {crypto : Crypto Hash PublicKey Address} {a : Timed}

/-- An address has no line break. -/
lemma newline_not_mem_of_isHexAddress (h : isHexAddress address = true) : '\n' ∉ address := by
  have hdigit : (hexVal '\n').isSome = false := by decide
  simp only [isHexAddress, Bool.and_eq_true, List.all_eq_true] at h
  obtain ⟨-, hall⟩ := h
  intro hmem
  split at hall
  · next htake =>
    rw [← List.take_append_drop 2 address, List.mem_append] at hmem
    rcases hmem with hmem | hmem
    · rcases htake with htake | htake <;> rw [htake] at hmem <;> revert hmem <;> decide
    · rw [hall _ hmem] at hdigit
      cases hdigit
  · rw [hall _ hmem] at hdigit
    cases hdigit

/-- The address and the second can be read off the message of a challenge. -/
lemma challengeMessage_inj {a₁ a₂ n₁ n₂ : Text} {t₁ t₂ : ℕ} (ha₁ : '\n' ∉ a₁) (ha₂ : '\n' ∉ a₂)
    (hn : n₁.length = n₂.length)
    (h : challengeMessage a₁ n₁ t₁ = challengeMessage a₂ n₂ t₂) : a₁ = a₂ ∧ t₁ = t₂ := by
  simp only [challengeMessage, List.append_assoc] at h
  have h := List.append_cancel_left h
  have htake : ∀ a rest : Text, '\n' ∉ a →
      (a ++ (text "\nNonce: " ++ rest)).takeWhile (· ≠ '\n') = a := by
    intro a rest ha
    rw [List.takeWhile_append_of_pos]
    · exact List.append_nil a
    · intro c hc
      simp only [ne_eq, decide_eq_true_eq]
      rintro rfl
      exact ha hc
  have haddr : a₁ = a₂ := by
    have := congrArg (List.takeWhile (· ≠ '\n')) h
    rwa [htake _ _ ha₁, htake _ _ ha₂] at this
  subst haddr
  have h := List.append_cancel_left (List.append_cancel_left h)
  obtain ⟨-, h⟩ := List.append_inj h hn
  exact ⟨rfl, decimal_injective (List.append_cancel_left h)⟩

/-! ## What the histories keep -/

/-- The challenges that were issued and the sessions that were opened. -/
structure Inv (m : WalletAuthManager) (s : Auth) : Prop where
  manager : s.walletAuth = some m
  timeout : m.timeout = 5 * 60 * second
  /-- the manager holds challenges that were issued, each for its address -/
  held : ∀ address, ∀ ch ∈ m.challenges address, ch ∈ s.issued ∧ ch.address = address
  /-- a challenge that was issued carries its address and its second -/
  message : ∀ ch ∈ s.issued, '\n' ∉ ch.address ∧ ch.createdAt ≤ s.now ∧
    ch.expiresAt = ch.createdAt + 5 * 60 * second ∧
    ∃ nonce : List.Vector UInt8 32,
      ch.message = challengeMessage ch.address (hexEncode nonce.toList) (ch.createdAt / second)
  /-- a challenge that was issued is current or has expired -/
  current : ∀ ch ∈ s.issued, m.challenges ch.address = some ch ∨ ch.expiresAt ≤ s.now
  /-- two challenges for one address are the timeout apart -/
  apart : ∀ ch ∈ s.issued, ∀ ch' ∈ s.issued, ch.address = ch'.address →
    ch = ch' ∨ ch.expiresAt ≤ ch'.createdAt ∨ ch'.expiresAt ≤ ch.createdAt
  /-- a session was opened with a challenge while that was current -/
  opened : ∀ o ∈ s.opened, ∃ ch ∈ s.issued, ch.address = o.address ∧ ch.message = o.message ∧
    ch.createdAt ≤ o.openedAt

variable {m : WalletAuthManager} {s s' : Auth} {ch ch' : Challenge}

/-- Two challenges with one message are one. -/
lemma Inv.eq_of_message (h : Inv m s) (hch : ch ∈ s.issued) (hch' : ch' ∈ s.issued)
    (hmessage : ch.message = ch'.message) : ch = ch' := by
  obtain ⟨hnew, -, hexp, nonce, hmsg⟩ := h.message ch hch
  obtain ⟨hnew', -, hexp', nonce', hmsg'⟩ := h.message ch' hch'
  rw [hmsg, hmsg'] at hmessage
  have hlen : (hexEncode nonce.toList).length = (hexEncode nonce'.toList).length := by
    simp [length_hexEncode]
  obtain ⟨haddr, hsec⟩ := challengeMessage_inj hnew hnew' hlen hmessage
  rcases h.apart ch hch ch' hch' haddr with heq | hle | hle
  · exact heq
  -- five minutes apart, the seconds differ
  all_goals
    simp only [second] at hexp hexp' hsec
    omega

/-! ## One event -/

/-- A manager that has dropped at most expired challenges, and sessions that rest on challenges. -/
lemma Inv.frame (h : Inv m s) (hw : s'.walletAuth = some m') (htimeout : m'.timeout = m.timeout)
    (hnow : s.now ≤ s'.now)
    (hheld : ∀ address, ∀ ch ∈ m'.challenges address, ch ∈ m.challenges address)
    (hkept : ∀ address, ∀ ch ∈ m.challenges address,
      m'.challenges address = some ch ∨ ch.expiresAt ≤ s'.now)
    (hissued : ∀ ch, ch ∈ s'.issued ↔ ch ∈ s.issued)
    (hopened : ∀ o ∈ s'.opened, o ∈ s.opened ∨ ∃ ch ∈ s.issued, ch.address = o.address ∧
      ch.message = o.message ∧ ch.createdAt ≤ o.openedAt) : Inv m' s' := by
  refine ⟨hw, htimeout.trans h.timeout, ?_, ?_, ?_, ?_, ?_⟩ <;> simp only [hissued]
  · intro address ch hch
    exact h.held address ch (hheld address ch hch)
  · intro ch hch
    obtain ⟨hnew, hcreated, hrest⟩ := h.message ch hch
    exact ⟨hnew, hcreated.trans hnow, hrest⟩
  · intro ch hch
    rcases h.current ch hch with hcur | hexp
    · exact hkept ch.address ch hcur
    · exact .inr (hexp.trans hnow)
  · exact h.apart
  · intro o ho
    rcases hopened o ho with ho | ho
    · exact h.opened o ho
    · exact ho

/-- A new challenge for an address whose last one has expired. -/
lemma Inv.create (h : Inv m s) (hnow : s.now ≤ now)
    (haddr : isHexAddress address = true)
    (hold : ∀ old ∈ m.challenges address, old.expiresAt ≤ now) {nonce : List.Vector UInt8 32}
    (hch : ch = m.newChallenge now address nonce) :
    Inv (m.setChallenge ch) ⟨some (m.setChallenge ch), now, s.issued ++ [ch], s.opened⟩ := by
  have hexpired : ∀ x ∈ s.issued, x.address = address → x.expiresAt ≤ now := by
    intro x hx hxa
    rcases h.current x hx with hcur | hexp
    · exact hold x (hxa ▸ hcur)
    · exact hexp.trans hnow
  have haddress : ch.address = address := by rw [hch]; rfl
  have hcreated : ch.createdAt = now := by rw [hch]; rfl
  have hmem : ∀ x, x ∈ s.issued ++ [ch] ↔ x ∈ s.issued ∨ x = ch := by simp
  refine ⟨rfl, h.timeout, ?_, ?_, ?_, ?_, ?_⟩ <;> simp only [hmem,
    WalletAuthManager.setChallenge, haddress]
  · intro a x hx
    by_cases ha : a = address
    · rw [ha, update_self] at hx
      cases hx
      exact ⟨.inr rfl, haddress.trans ha.symm⟩
    · rw [update_of_ne ha] at hx
      obtain ⟨hx, heq⟩ := h.held a x hx
      exact ⟨.inl hx, heq⟩
  · rintro x (hx | rfl)
    · obtain ⟨hnew, hle, hrest⟩ := h.message x hx
      exact ⟨hnew, hle.trans hnow, hrest⟩
    · rw [hch]
      refine ⟨newline_not_mem_of_isHexAddress haddr, le_rfl, ?_, nonce, rfl⟩
      simp only [WalletAuthManager.newChallenge, h.timeout]
  · rintro x (hx | rfl)
    · by_cases hxa : x.address = address
      · exact .inr (hexpired x hx hxa)
      · rw [update_of_ne hxa]
        exact (h.current x hx).imp_right hnow.trans'
    · exact .inl (by rw [haddress, update_self])
  · rintro x (hx | rfl) y (hy | rfl) hxy
    · exact h.apart x hx y hy hxy
    · rw [hcreated]
      exact .inr (.inl (hexpired x hx (hxy.trans haddress)))
    · rw [hcreated]
      exact .inr (.inr (hexpired y hy (hxy.symm.trans haddress)))
    · exact .inl rfl
  · intro o ho
    obtain ⟨x, hx, hrest⟩ := h.opened o ho
    exact ⟨x, .inl hx, hrest⟩

/-- What `CreateChallenge` does if it returns: it finds a challenge that is not expired, or creates
one. -/
lemma createChallenge_eq_ok {message : Text}
    (h : m.createChallenge now rand address = .ok (m', message)) :
    (m' = m ∧ ∃ ch, m.challenges address.toLower = some ch) ∨
    ∃ nonce : List.Vector UInt8 32, isHexAddress address.toLower = true ∧
      (∀ old ∈ m.challenges address.toLower, old.expiresAt ≤ now) ∧
      m' = m.setChallenge (m.newChallenge now address.toLower nonce) := by
  have hcreate : ∀ a, WalletAuthManager.createChallenge.create m now rand a = .ok (m', message) →
      ∃ nonce : List.Vector UInt8 32, m' = m.setChallenge (m.newChallenge now a nonce) := by
    intro a ha
    unfold WalletAuthManager.createChallenge.create at ha
    split at ha
    · cases ha
    · next nonce =>
      simp only [Except.ok.injEq, Prod.mk.injEq] at ha
      exact ⟨nonce, ha.1.symm⟩
  unfold WalletAuthManager.createChallenge at h
  dsimp only at h
  split at h
  · cases h
  · next haddr =>
    split at h
    · next existing hexisting =>
      split at h
      · simp only [Except.ok.injEq, Prod.mk.injEq] at h
        exact .inl ⟨h.1.symm, existing, hexisting⟩
      · next hexp =>
        obtain ⟨nonce, hm'⟩ := hcreate _ h
        refine .inr ⟨nonce, not_not.mp haddr, ?_, hm'⟩
        rw [hexisting]
        rintro _ ⟨⟩
        exact Nat.le_of_not_lt hexp
    · next hnone =>
      obtain ⟨nonce, hm'⟩ := hcreate _ h
      refine .inr ⟨nonce, not_not.mp haddr, ?_, hm'⟩
      rw [hnone]
      rintro _ ⟨⟩

/-- What a request for a challenge does. -/
lemma handleAuthChallenge_cases
    {method : Method} {body : Option Text} :
    let result := handleAuthChallenge (some m) now rand method body
    (result.1 = some m ∧ answered result.1 body result.2 = []) ∨
    ∃ address m' message, body = some address ∧
      m.createChallenge now rand address = .ok (m', message) ∧ result.1 = some m' ∧
      answered result.1 body result.2 = (m'.challenges address.toLower).toList := by
  intro result
  simp only [result]
  unfold handleAuthChallenge
  split
  · exact .inl ⟨rfl, rfl⟩
  split
  · exact .inl ⟨rfl, rfl⟩
  · next address =>
    split
    · exact .inl ⟨rfl, rfl⟩
    dsimp only
    split
    · exact .inl ⟨rfl, rfl⟩
    · next m' message hcreate => exact .inr ⟨address, m', message, rfl, hcreate, rfl, rfl⟩

/-- What a request with a signature does. -/
lemma handleAuthVerify_cases
    (method : Method)
    (body : Option AuthVerifyRequest) :
    let result := handleAuthVerify crypto (some m) now rand method body
    (result.1 = some m ∧ handedOut now body result.2 = []) ∨
    ∃ req addr m', body = some req ∧
      verifySignature crypto req.message req.signature req.address = .ok addr ∧
      result.1 = some m' ∧ m'.challenges = m.challenges ∧ m'.timeout = m.timeout ∧
      handedOut now body result.2 = [⟨addr.toLower, req.message, now⟩] := by
  intro result
  simp only [result]
  unfold handleAuthVerify
  split
  · exact .inl ⟨rfl, rfl⟩
  split
  · exact .inl ⟨rfl, rfl⟩
  · next req =>
    split
    · exact .inl ⟨rfl, rfl⟩
    dsimp only
    split
    · exact .inl ⟨rfl, rfl⟩
    · next addr hverify =>
      split
      · exact .inl ⟨rfl, rfl⟩
      · next m' token expiresAt hsession =>
        have hm' : m'.challenges = m.challenges ∧ m'.timeout = m.timeout := by
          unfold WalletAuthManager.createSession at hsession
          split at hsession
          · cases hsession
          · simp only [Except.ok.injEq, Prod.mk.injEq] at hsession
            obtain ⟨rfl, -, -⟩ := hsession
            exact ⟨rfl, rfl⟩
        exact .inr ⟨req, addr, m', rfl, hverify, rfl, hm'.1, hm'.2, rfl⟩

/-- A request for a challenge. -/
lemma Inv.challenge (h : Inv m s) (hnow : s.now ≤ now) (rand : Option (List.Vector UInt8 32))
    (method : Method) (body : Option Text) :
    let result := handleAuthChallenge (some m) now rand method body
    ∃ m', Inv m' ⟨result.1, now, s.issued ++ answered result.1 body result.2, s.opened⟩ := by
  rcases handleAuthChallenge_cases with
    ⟨hw, hans⟩ | ⟨address, m', message, -, hcreate, hw, hans⟩
  · exact ⟨m, h.frame hw rfl hnow (fun _ _ => id) (fun _ _ hch => .inl hch)
      (fun ch => by rw [hans, List.append_nil]) (fun o ho => .inl ho)⟩
  rcases createChallenge_eq_ok hcreate with ⟨rfl, ch, hch⟩ | ⟨nonce, haddr, hold, rfl⟩
  · refine ⟨m', h.frame hw rfl hnow (fun _ _ => id) (fun _ _ hch => .inl hch) (fun x => ?_)
      (fun o ho => .inl ho)⟩
    rw [hans, hch]
    simp only [Option.toList_some, List.mem_append, List.mem_singleton]
    refine or_iff_left_of_imp ?_
    rintro rfl
    exact (h.held _ x hch).1
  · have hself : (m.setChallenge (m.newChallenge now address.toLower nonce)).challenges
        address.toLower = some (m.newChallenge now address.toLower nonce) :=
      update_self _ _ _
    rw [hself] at hans
    dsimp only
    rw [hans, hw]
    exact ⟨_, h.create hnow haddr hold rfl⟩

/-- The challenge that an accepted request presents. -/
lemma Inv.presented (h : Inv m s) {method : Method} {req : AuthVerifyRequest}
    (hevent : a.event = .verify rand method (some req)) (hguard : LoginGuard crypto s a)
    {addr : Text}
    (hverify : verifySignature crypto req.message req.signature req.address = .ok addr) :
    ∃ ch ∈ s.issued, ch.address = addr.toLower ∧ ch.message = req.message ∧
      a.now ≤ ch.expiresAt ∧ ∀ o ∈ s.opened, o.address = addr.toLower →
        o.openedAt < ch.createdAt := by
  obtain ⟨m', hm', ch, hch, hmessage, hsince⟩ :=
    hguard req (by rw [hevent]; rfl) (by rw [hverify]; rfl)
  rw [h.manager] at hm'
  cases hm'
  unfold WalletAuthManager.getChallengeForAddress at hch
  split at hch
  · cases hch
  · next challenge hcur =>
    split at hch
    · cases hch
    · next hexp =>
      cases hch
      obtain ⟨hissued, haddr⟩ := h.held _ ch hcur
      rw [(verifySignature_eq_ok crypto hverify).1]
      exact ⟨ch, hissued, haddr, hmessage.symm, Nat.le_of_not_lt hexp, hsince⟩

/-- **One event.** -/
theorem Inv.step (h : Inv m s)
    (hs : Step crypto s a s') (hguard : LoginGuard crypto s a) : ∃ m', Inv m' s' := by
  unfold Step Auth.next at hs
  split at hs
  · cases hs
  · next hnow =>
    have hnow : s.now ≤ a.now := Nat.le_of_not_lt hnow
    split at hs
    · next rand method body hevent =>
      simp only [Option.some.injEq, h.manager] at hs
      subst hs
      exact h.challenge hnow rand method body
    · next rand method body hevent =>
      simp only [Option.some.injEq, h.manager] at hs
      subst hs
      rcases handleAuthVerify_cases method body with
        ⟨hw, hout⟩ | ⟨req, addr, m', rfl, hverify, hw, hchallenges, htimeout, hout⟩
      · refine ⟨m, h.frame hw rfl hnow (fun _ _ => id) (fun _ _ hch => .inl hch)
          (fun _ => Iff.rfl) (fun o ho => .inl ?_)⟩
        rwa [hout, List.append_nil] at ho
      · refine ⟨m', h.frame hw htimeout hnow (fun a ch hch => hchallenges ▸ hch)
          (fun a ch hch => .inl (hchallenges ▸ hch)) (fun _ => Iff.rfl) (fun o ho => ?_)⟩
        rw [hout, List.mem_append, List.mem_singleton] at ho
        rcases ho with ho | rfl
        · exact .inl ho
        · obtain ⟨ch, hissued, haddr, hmessage, -, -⟩ := h.presented hevent hguard hverify
          exact .inr ⟨ch, hissued, haddr, hmessage, (h.message ch hissued).2.1.trans hnow⟩
    · simp only [Option.some.injEq, h.manager, Option.map_some] at hs
      subst hs
      refine ⟨m.cleanupExpired a.now, h.frame rfl rfl hnow ?_ ?_ (fun _ => Iff.rfl)
        (fun o ho => .inl ho)⟩
      · intro address ch hch
        simp only [WalletAuthManager.cleanupExpired, Option.mem_def,
          Option.filter_eq_some_iff] at hch
        exact hch.1
      · intro address ch hch
        by_cases hexp : ch.expiresAt < a.now
        · exact .inr hexp.le
        · left
          simp only [WalletAuthManager.cleanupExpired, Option.filter_eq_some_iff]
          exact ⟨hch, by simpa using hexp⟩

/-- A session that is opened is fresh. -/
lemma Inv.opensFresh {signed : Text → Text → Prop} (hcrypto : Unforgeable crypto signed)
    (h : Inv m s) (hguard : LoginGuard crypto s a) : OpensFresh crypto signed s a := by
  intro o ho
  unfold openedBy at ho
  split at ho
  · next rand method body hevent =>
    rw [h.manager] at ho
    rcases handleAuthVerify_cases method body with
      ⟨-, hout⟩ | ⟨req, addr, m', rfl, hverify, -, -, -, hout⟩
    · rw [hout] at ho
      cases ho
    · rw [hout, List.mem_singleton] at ho
      subst ho
      obtain ⟨ch, hissued, haddr, hmessage, hexp, hsince⟩ := h.presented hevent hguard hverify
      refine ⟨⟨ch, hissued, haddr, hmessage, hexp⟩, ?_, ?_⟩
      · -- an earlier session with this message was opened with this challenge, after its creation
        intro o' ho' heq
        obtain ⟨ch', hissued', haddr', hmessage', hcreated⟩ := h.opened o' ho'
        have hsame : ch' = ch :=
          h.eq_of_message hissued' hissued (hmessage'.trans (heq.trans hmessage.symm))
        have hbefore := hsince o' ho' (by rw [← haddr', hsame, haddr])
        rw [hsame] at hcreated
        omega
      · obtain ⟨-, sigBytes, pubKey, hrecover, rfl⟩ := verifySignature_eq_ok crypto hverify
        exact hcrypto req.message sigBytes pubKey hrecover
  · cases ho

lemma Inv.init : Inv (newWalletAuthManager (5 * 60 * second)) (Auth.init now) where
  manager := rfl
  timeout := rfl
  held _ _ hch := by cases hch
  message := nofun
  current := nofun
  apart := nofun
  opened := nofun

/-- **A session needs a fresh challenge.** In every run of requests from the start of the server
that meets the condition, a session for a wallet is opened only with the message of a challenge that
the server has issued for it, that is not expired, that no earlier session has used and that the key
of the wallet has signed. -/
theorem session_needs_fresh_challenge {crypto : Crypto Hash PublicKey Address}
    {signed : Text → Text → Prop} (hcrypto : Unforgeable crypto signed) {t₀ : ℕ}
    {l : List (Timed × Auth)} (hl : Path (Step crypto) (Auth.init t₀) l)
    (hguard : StepsMeet (LoginGuard crypto) (Auth.init t₀) l) :
    StepsMeet (OpensFresh crypto signed) (Auth.init t₀) l := by
  have hinv : StatesMeet (fun s => ∃ m, Inv m s) (Auth.init t₀) l := by
    refine hl.invariant_of_steps ?_ ⟨_, Inv.init⟩ hguard
    rintro s a s' ⟨m, hm⟩ hguard hs
    exact hm.step hs hguard
  refine hl.stepsMeet ?_ hinv hguard
  rintro s a s' ⟨m, hm⟩ hguard -
  exact hm.opensFresh hcrypto hguard

/-! ## A wallet that signs -/

/-- A curve on which the wallet `0xaa..` has made the signatures of the list. -/
def signatures (made : List (Text × List UInt8)) : Crypto Text Unit Unit where
  keccak256Hash t := t
  sigToPub hash sigBytes := if (hash, sigBytes) ∈ made then some () else none
  pubkeyToAddress _ := ()
  hex _ := text "0xAAAAAAAAAAAAAAAAAAAAAAAAAAAAAAAAAAAAAAAA"

/-- The wallet has signed the messages whose signatures it has made. -/
def madeBy (made : List (Text × List UInt8)) (wallet message : Text) : Prop :=
  wallet = text "0xaaaaaaaaaaaaaaaaaaaaaaaaaaaaaaaaaaaaaaaa" ∧
    ∃ sigBytes, (prefixedMessage message, sigBytes) ∈ made

lemma signatures_unforgeable (made : List (Text × List UInt8)) :
    Unforgeable (signatures made) (madeBy made) := by
  intro message sigBytes pubKey h
  simp only [signatures, Option.ite_none_right_eq_some] at h
  refine ⟨?_, sigBytes, h.1⟩
  show (text "0xAAAAAAAAAAAAAAAAAAAAAAAAAAAAAAAAAAAAAAAA").toLower = _
  decide +kernel

/-- Sixty-five bytes. -/
def sig65 : List UInt8 := List.replicate 65 0

/-- The random bytes of the server. -/
def bytes32 (b : UInt8) : Option (List.Vector UInt8 32) := some (List.Vector.replicate 32 b)

/-- The message of the challenge that the server issues at the time `7 s`. -/
def issuedMessage : Text :=
  challengeMessage (text "0xaaaaaaaaaaaaaaaaaaaaaaaaaaaaaaaaaaaaaaaa")
    (hexEncode (List.replicate 32 1)) 7

/-- The wallet asks for a challenge. -/
def ask : Event :=
  .challenge (bytes32 1) .post (some (text "0xaaaaaaaaaaaaaaaaaaaaaaaaaaaaaaaaaaaaaaaa"))

/-- The wallet presents a message with a signature. -/
def present (message : Text) : Event :=
  .verify (bytes32 2) .post (some ⟨text "0xaaaaaaaaaaaaaaaaaaaaaaaaaaaaaaaaaaaaaaaa", message,
    hexEncode sig65⟩)

/-- A challenge that is signed in time opens a session. -/
theorem session_needs_fresh_challenge_signed :
    let made := [(prefixedMessage issuedMessage, sig65)]
    let run := trace (Auth.next (signatures made)) (Auth.init 0)
      [⟨7 * second, ask⟩, ⟨9 * second, present issuedMessage⟩]
    run.length = 2 ∧ (endState (Auth.init 0) run).opened.length = 1 ∧
      StepsMeet (LoginGuard (signatures made)) (Auth.init 0) run ∧
      StepsMeet (OpensFresh (signatures made) (madeBy made)) (Auth.init 0) run := by
  intro made run
  have hguard : StepsMeet (LoginGuard (signatures made)) (Auth.init 0) run := by decide +kernel
  exact ⟨by decide +kernel, by decide +kernel, hguard,
    session_needs_fresh_challenge (signatures_unforgeable made) (trace_path _ _) hguard⟩

/-- **A session for another text.** The wallet has signed `hello` for someone else, and the server
has issued no challenge at all; the signature opens a session of the wallet. -/
theorem session_for_other_text :
    let made := [(prefixedMessage (text "hello"), sig65)]
    let request : Timed := ⟨0, present (text "hello")⟩
    Unforgeable (signatures made) (madeBy made) ∧
      ∃ s, Path (Step (signatures made)) (Auth.init 0) [(request, s)] ∧ s.issued = [] ∧
        s.opened = [⟨text "0xaaaaaaaaaaaaaaaaaaaaaaaaaaaaaaaaaaaaaaaa", text "hello", 0⟩] ∧
        ¬ StepsMeet (OpensFresh (signatures made) (madeBy made)) (Auth.init 0) [(request, s)] := by
  intro made request
  refine ⟨signatures_unforgeable made, ?_⟩
  have hread : ((Auth.init 0).next (signatures made) request).map (fun s => (s.issued, s.opened)) =
      some ([], [⟨text "0xaaaaaaaaaaaaaaaaaaaaaaaaaaaaaaaaaaaaaaaa", text "hello", 0⟩]) := by
    decide +kernel
  have hopens : openedBy (signatures made) (Auth.init 0) request ≠ [] := by decide +kernel
  obtain ⟨s, hs, hhistory⟩ := Option.map_eq_some_iff.mp hread
  simp only [Prod.mk.injEq] at hhistory
  refine ⟨s, ⟨hs, trivial⟩, hhistory.1, hhistory.2, ?_⟩
  rintro ⟨hfresh, -⟩
  obtain ⟨o, ho⟩ := List.exists_mem_of_ne_nil _ hopens
  obtain ⟨ch, hch, -⟩ := (hfresh o ho).issued
  cases hch

end Moltbunker.Api
