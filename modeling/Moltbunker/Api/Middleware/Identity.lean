import Moltbunker.Api.Login
import Moltbunker.Api.Middleware.Model

/-!
# The verified identity of a request

The middleware tells the handlers who a request comes from in the header
`X-Moltbunker-Verified-Wallet`: the storage, crawl, proxy and agent packages take it for the name of
a tenant. A request is authenticated by a `Credential`: the session of a wallet, a signature in its
headers, or an API key. The header shows one, and not always the one that `authenticate` has
accepted: a wallet that is proved beside an API key is shown in its place.

A session shows its wallet in lower case and a signature in the checksummed form, and an API key
shows its first eight characters, of which five are random. So two requests of one wallet can look
different, and the holders of two API keys can look the same. `Confused` has these pairs, and those
that share a credential which one of the headers does not show.

* `authenticate_eq`, `inject_eq` — the credential that `authenticate` accepts, and the one that the
  header shows;
* `fields_of_handled`, `credentials_of_header` — what the handler sees under the name;
* `value_eq_iff` — when two credentials look the same;
* `verified_of_reachable` — the sessions that logins lead to are of wallets, in lower case;
* `header_identifies_iff` — for which pairs of requests the header tells who they come from.
-/

namespace Moltbunker.Api

open Lib Text

namespace Middleware

/-! ## Credentials -/

/-- What a request is authenticated by: the session of a wallet, a signature that recovers to an
address, or an API key. -/
inductive Credential where
  | session (wallet : Text)
  | inline (addr : Text)
  | apiKey (key : Text)
  deriving DecidableEq

/-- Who a request comes from: a wallet, whatever the case of its letters, or the holder of a key. -/
inductive Identity where
  | wallet (address : Text)
  | apiKey (key : Text)
  deriving DecidableEq

namespace Credential

/-- Who has the credential. -/
def identity : Credential → Identity
  | .session wallet => .wallet wallet.toLower
  | .inline addr => .wallet addr.toLower
  | .apiKey key => .apiKey key

/-- How the credential looks in the header. -/
def value : Credential → Text
  | .session wallet => wallet
  | .inline addr => addr
  | .apiKey key => text "apikey:" ++ key.take 8

/-- A session and a signature of one wallet whose checksummed form has capital letters. -/
def TwoForms : Credential → Credential → Prop
  | .session wallet, .inline addr => addr.toLower = wallet ∧ addr ≠ wallet
  | .inline addr, .session wallet => addr.toLower = wallet ∧ addr ≠ wallet
  | _, _ => False

/-- Two API keys that begin with the same eight characters. -/
def SameStart : Credential → Credential → Prop
  | .apiKey key₁, .apiKey key₂ => key₁.take 8 = key₂.take 8 ∧ key₁ ≠ key₂
  | _, _ => False

instance (d₁ d₂ : Credential) : Decidable (TwoForms d₁ d₂) :=
  match d₁, d₂ with
  | .session _, .inline _ => inferInstanceAs (Decidable (_ ∧ _))
  | .inline _, .session _ => inferInstanceAs (Decidable (_ ∧ _))
  | .session _, .session _ => .isFalse id
  | .inline _, .inline _ => .isFalse id
  | .session _, .apiKey _ => .isFalse id
  | .inline _, .apiKey _ => .isFalse id
  | .apiKey _, _ => .isFalse id

instance (d₁ d₂ : Credential) : Decidable (SameStart d₁ d₂) :=
  match d₁, d₂ with
  | .apiKey _, .apiKey _ => inferInstanceAs (Decidable (_ ∧ _))
  | .apiKey _, .session _ => .isFalse id
  | .apiKey _, .inline _ => .isFalse id
  | .session _, _ => .isFalse id
  | .inline _, _ => .isFalse id

end Credential

/-- The credential that `authenticate` accepts, and the one that the header shows. -/
structure Credentials where
  accepted : Credential
  shown : Credential
  deriving DecidableEq

namespace Credentials

/-- The request is authenticated as this wallet or by this API key. -/
def As (k : Credentials) (i : Identity) : Prop := k.accepted.identity = i ∨ k.shown.identity = i

/-- Both requests are authenticated as one wallet, or both by one API key. -/
def Shares (k₁ k₂ : Credentials) : Prop := ∃ i, k₁.As i ∧ k₂.As i

/-- The headers show two wallets, or a wallet and a key, beside a credential that the requests
share: an API key that is sent with the proof of a wallet, or a session that has ended between the
two checks of a request that is also signed. -/
def TwoNames (k₁ k₂ : Credentials) : Prop :=
  k₁.shown.identity ≠ k₂.shown.identity ∧
    (k₁.accepted.identity = k₂.accepted.identity ∨ k₁.accepted.identity = k₂.shown.identity ∨
      k₁.shown.identity = k₂.accepted.identity)

/-- The pairs that the header confuses. -/
def Confused (k₁ k₂ : Credentials) : Prop :=
  k₁.shown.TwoForms k₂.shown ∨ k₁.shown.SameStart k₂.shown ∨ TwoNames k₁ k₂

instance (k₁ k₂ : Credentials) : Decidable (TwoNames k₁ k₂) :=
  inferInstanceAs (Decidable (_ ∧ _))

instance (k₁ k₂ : Credentials) : Decidable (Confused k₁ k₂) :=
  inferInstanceAs (Decidable (_ ∨ _ ∨ _))

lemma shares_iff (k₁ k₂ : Credentials) :
    Shares k₁ k₂ ↔ k₁.shown.identity = k₂.shown.identity ∨ TwoNames k₁ k₂ := by
  constructor
  · rintro ⟨i, h₁ | h₁, h₂ | h₂⟩
    all_goals
      unfold TwoNames
      rw [← h₂] at h₁
      tauto
  · rintro (h | ⟨-, h | h | h⟩)
    · exact ⟨k₁.shown.identity, .inr rfl, .inr h.symm⟩
    · exact ⟨k₁.accepted.identity, .inl rfl, .inl h.symm⟩
    · exact ⟨k₁.accepted.identity, .inl rfl, .inr h.symm⟩
    · exact ⟨k₁.shown.identity, .inr rfl, .inl h.symm⟩

end Credentials

variable {Hash PublicKey Address : Type}

section Credentials

variable (crypto : Crypto Hash PublicKey Address) (bcrypt : Bcrypt) (cfg : Config) (m : Moment)

/-- The address that the signature in the headers recovers to. -/
def signedAddress (h : Headers) : Option Text :=
  if h.walletAddress ≠ [] ∧ h.walletSignature ≠ [] ∧ h.walletMessage ≠ [] ∧ m.walletAuth.isSome then
    (verifyInlineAuth crypto m.now h.walletAddress h.walletSignature h.walletMessage).toOption
  else none

/-- The wallet that `extractWalletAddress` finds. -/
def walletCredential (h : Headers) : Option Credential :=
  match h.sessionWallet m.walletAuth m.now with
  | some wallet => some (.session wallet)
  | none => (signedAddress crypto m h).map .inline

/-- The request names a session, and there is a manager to ask for it. -/
def NamesSession (h : Headers) : Prop :=
  ∃ token ∈ bearerToken h.authorization, HasKind (text "wt_") token ∧ m.walletAuth.isSome

instance (m : Moment) (h : Headers) : Decidable (NamesSession m h) :=
  inferInstanceAs (Decidable (∃ token ∈ bearerToken h.authorization, _))

/-- The credential that `authenticate` accepts. -/
def authenticatedBy (r : Request) : Option Credential :=
  let token := extractAPIKeyToken cfg r
  if token ≠ [] then
    if validKey bcrypt m token then some (.apiKey token) else none
  else if NamesSession m r.headers then
    (r.headers.sessionWallet m.walletAuth m.now).map .session
  else (signedAddress crypto m r.headers).map .inline

/-- The credential that the header shows. -/
def shownBy (r : Request) : Option Credential :=
  match (walletCredential crypto m r.headers).filter (·.value ≠ []) with
  | some c => some c
  | none =>
    let token := extractAPIKeyToken cfg r
    if token.length ≥ 8 then some (.apiKey token) else none

/-- The credentials of a request that passes. -/
def credentials (p : Passage) (r : Request) : Option Credentials :=
  let r := r.del verifiedWallet
  (authenticatedBy crypto bcrypt cfg p.authenticated r).bind fun c =>
    (shownBy crypto cfg p.extracted r).map fun d => ⟨c, d⟩

end Credentials

/-! ## The header of a request that is handled -/

variable {crypto : Crypto Hash PublicKey Address} {bcrypt : Bcrypt} {cfg : Config}

section Handled

variable {permission : Text} {p : Passage} {m : Moment} {r q : Request} {v : Text}

lemma extractWalletAddress_eq (h : Headers) : extractWalletAddress crypto m.walletAuth m.now h =
    (walletCredential crypto m h).elim [] Credential.value := by
  unfold extractWalletAddress walletCredential
  cases h.sessionWallet m.walletAuth m.now with
  | some wallet => rfl
  | none =>
    unfold signedAddress
    dsimp only
    split
    · cases verifyInlineAuth crypto m.now h.walletAddress h.walletSignature h.walletMessage with
      | error err => rfl
      | ok addr => rfl
    · rfl

lemma inlineAuth_eq (h : Headers) :
    inlineAuth crypto m h = ((signedAddress crypto m h).map Credential.inline).isSome := by
  unfold inlineAuth signedAddress
  split
  · cases verifyInlineAuth crypto m.now h.walletAddress h.walletSignature h.walletMessage with
    | error err => rfl
    | ok addr => rfl
  · rfl

/-- **The credential that `authenticate` accepts.** -/
theorem authenticate_eq :
    authenticate crypto bcrypt cfg m r = (authenticatedBy crypto bcrypt cfg m r).isSome := by
  have hvalid : ∀ key, validKey bcrypt m key =
      (if validKey bcrypt m key then some (Credential.apiKey key) else none).isSome := by
    intro key
    cases validKey bcrypt m key with
    | false => rfl
    | true => rfl
  have hinline : inlineAuth crypto m r.headers = _ := inlineAuth_eq _
  have hheader : r.headers.authorization = r.get (text "Authorization") := rfl
  unfold authenticate authenticatedBy extractAPIKeyToken NamesSession
  by_cases hkey : r.get cfg.apiKeyHeader = []
  · simp only [hkey, ne_eq, not_true_eq_false, if_false, hheader]
    cases htoken : bearerToken (r.get (text "Authorization")) with
    | none => simpa using hinline
    | some token =>
      by_cases hmb : HasKind (text "mb_") token
      · simpa [hmb, hmb.ne_nil] using hvalid token
      · by_cases hwt : HasKind (text "wt_") token
        · cases hw : m.walletAuth with
          | none => simpa [hmb, hwt, hw] using hinline
          | some walletAuth => simp [hmb, hwt, sessionWallet_eq (h := r.headers) htoken hwt]
        · simpa [hmb, hwt] using hinline
  · simpa [hkey] using hvalid (r.get cfg.apiKeyHeader)

/-- **The credential that the header shows.** -/
theorem inject_eq : inject crypto cfg m r =
    (shownBy crypto cfg m r).elim r fun d => r.set verifiedWallet d.value := by
  have htoken : (if isAPIKeyAuth cfg r = true then
      if extractAPIKeyToken cfg r ≠ [] ∧ (extractAPIKeyToken cfg r).length ≥ 8 then
        r.set verifiedWallet (text "apikey:" ++ (extractAPIKeyToken cfg r).take 8) else r
      else r) =
      (if (extractAPIKeyToken cfg r).length ≥ 8 then
        some (Credential.apiKey (extractAPIKeyToken cfg r)) else none).elim r fun d =>
          r.set verifiedWallet d.value := by
    by_cases hlen : (extractAPIKeyToken cfg r).length ≥ 8
    · have hne : extractAPIKeyToken cfg r ≠ [] := by
        intro hnil
        rw [hnil] at hlen
        exact absurd hlen (by decide)
      rw [if_pos (isAPIKeyAuth_iff.mpr hne), if_pos ⟨hne, hlen⟩, if_pos hlen]
      rfl
    · simp [hlen]
  unfold inject shownBy
  simp only [extractWalletAddress_eq]
  cases walletCredential crypto m r.headers with
  | none => simpa using htoken
  | some c =>
    by_cases hvalue : c.value = []
    · simpa [hvalue, Option.filter] using htoken
    · simp [hvalue, Option.filter]

/-- **What the handler sees under the name.** -/
theorem fields_of_handled
    (h : withPermissionMiddleware crypto bcrypt cfg permission p r = .handled q) :
    q.fields verifiedWallet.toLower =
      if cfg.enableAuth then
        ((shownBy crypto cfg p.extracted (r.del verifiedWallet)).map Credential.value).toList
      else [] := by
  have hdel : (r.del verifiedWallet).fields verifiedWallet.toLower = [] := fields_put r _ _
  by_cases hauth : cfg.enableAuth = true
  · obtain ⟨-, rfl⟩ := eq_of_handled hauth h
    rw [if_pos hauth, inject_eq]
    cases shownBy crypto cfg p.extracted (r.del verifiedWallet) with
    | none => exact hdel
    | some d => exact fields_put _ _ _
  · unfold withPermissionMiddleware at h
    split at h
    · cases h
    simp only [Bool.eq_false_of_not_eq_true hauth, if_true] at h
    rw [limit_eq_handled h, if_neg hauth, hdel]

/-- The credentials of a request that reaches its handler with a header. -/
lemma credentials_of_header (hauth : cfg.enableAuth = true)
    (h : (withPermissionMiddleware crypto bcrypt cfg permission p r).header = some v)
    (hv : v ≠ []) :
    ∃ k, credentials crypto bcrypt cfg p r = some k ∧ v = k.shown.value := by
  cases hout : withPermissionMiddleware crypto bcrypt cfg permission p r with
  | responded code body =>
    rw [hout] at h
    cases h
  | handled q =>
    rw [hout] at h
    have hv' : q.get verifiedWallet = v := Option.some.inj h
    have hpass := (eq_of_handled hauth hout).1
    rw [authenticate_eq] at hpass
    obtain ⟨c, hc⟩ := Option.isSome_iff_exists.mp hpass
    have hfields := fields_of_handled hout
    rw [if_pos hauth] at hfields
    unfold Request.get at hv'
    rw [hfields] at hv'
    cases hd : shownBy crypto cfg p.extracted (r.del verifiedWallet) with
    | none =>
      rw [hd] at hv'
      exact absurd hv'.symm hv
    | some d =>
      rw [hd] at hv'
      refine ⟨⟨c, d⟩, ?_, hv'.symm⟩
      unfold credentials
      simp only [hc, hd, Option.bind_some, Option.map_some]

/-- Where the credential of the header comes from. -/
lemma shownBy_cases {d : Credential} (h : shownBy crypto cfg m r = some d) :
    (∃ wallet, r.headers.sessionWallet m.walletAuth m.now = some wallet ∧ d = .session wallet) ∨
    (∃ addr, signedAddress crypto m r.headers = some addr ∧ d = .inline addr) ∨
    (d = .apiKey (extractAPIKeyToken cfg r) ∧ 8 ≤ (extractAPIKeyToken cfg r).length) := by
  unfold shownBy at h
  split at h
  · next c hc =>
    cases h
    have hc := Option.eq_some_of_filter_eq_some hc
    unfold walletCredential at hc
    split at hc
    · next wallet hwallet => exact .inl ⟨wallet, hwallet, (Option.some.inj hc).symm⟩
    · obtain ⟨addr, haddr, rfl⟩ := Option.map_eq_some_iff.mp hc
      exact .inr (.inl ⟨addr, haddr, rfl⟩)
  · dsimp only at h
    split at h
    · next hlen => exact .inr (.inr ⟨(Option.some.inj h).symm, hlen⟩)
    · cases h

/-- An API key that is shown is the one that was accepted. -/
lemma accepted_of_shown_apiKey {k : Credentials}
    (h : credentials crypto bcrypt cfg p r = some k) {key : Text} (hkey : k.shown = .apiKey key) :
    k.accepted = .apiKey key := by
  unfold credentials at h
  simp only [Option.bind_eq_some_iff, Option.map_eq_some_iff] at h
  obtain ⟨c, hc, d, hd, rfl⟩ := h
  subst hkey
  rcases shownBy_cases hd with ⟨wallet, -, hd⟩ | ⟨addr, -, hd⟩ | ⟨hd, hlen⟩
  · cases hd
  · cases hd
  · cases hd
    have hne : extractAPIKeyToken cfg (r.del verifiedWallet) ≠ [] :=
      List.ne_nil_of_length_pos (Nat.lt_of_lt_of_le (by decide) hlen)
    unfold authenticatedBy at hc
    simp only [if_pos hne] at hc
    split at hc
    · exact (Option.some.inj hc).symm
    · cases hc

end Handled

/-! ## When two credentials look the same -/

section Values

/-- `Address.Hex` of `go-ethereum`: the form of an address begins with `0x`, and the case of its
letters is determined by its digits. -/
structure Checksums (crypto : Crypto Hash PublicKey Address) : Prop where
  start : ∀ a, ∃ digits, crypto.hex a = text "0x" ++ digits
  form : ∀ a b, (crypto.hex a).toLower = (crypto.hex b).toLower → crypto.hex a = crypto.hex b

/-- Every session is of a wallet, in lower case. -/
def Verified (crypto : Crypto Hash PublicKey Address) (walletAuth : Option WalletAuthManager) :
    Prop :=
  ∀ m ∈ walletAuth, ∀ token, ∀ session ∈ m.sessions token,
    ∃ a, session.address = (crypto.hex a).toLower

/-- The text of a credential is that of an address, in the form that its kind has. -/
def Credential.Genuine (crypto : Crypto Hash PublicKey Address) : Credential → Prop
  | .session wallet => ∃ a, wallet = (crypto.hex a).toLower
  | .inline addr => ∃ a, addr = crypto.hex a
  | .apiKey _ => True

lemma toLower_toLower (t : Text) : t.toLower.toLower = t.toLower := by
  simp [Text.toLower, Function.comp_def]

/-- An address looks like no API key. -/
lemma start_ne_apikey (hcrypto : Checksums crypto) {a : Address} (rest : Text) :
    crypto.hex a ≠ text "apikey:" ++ rest ∧ (crypto.hex a).toLower ≠ text "apikey:" ++ rest := by
  obtain ⟨digits, hdigits⟩ := hcrypto.start a
  have hzero : ('0' : Char) ≠ 'a' := by decide
  rw [hdigits]
  constructor
  all_goals
    intro h
    exact hzero (List.cons.inj h).1

attribute [local simp] Credential.value Credential.identity Credential.TwoForms Credential.SameStart
  toLower_toLower

/-- **When two credentials look the same.** -/
theorem value_eq_iff (hcrypto : Checksums crypto) {d₁ d₂ : Credential} (h₁ : d₁.Genuine crypto)
    (h₂ : d₂.Genuine crypto) : d₁.value = d₂.value ↔
    (d₁.identity = d₂.identity ∧ ¬ d₁.TwoForms d₂) ∨ d₁.SameStart d₂ := by
  cases d₁ with
  | session wallet₁ =>
    obtain ⟨a₁, rfl⟩ := h₁
    cases d₂ with
    | session wallet₂ =>
      obtain ⟨a₂, rfl⟩ := h₂
      simp
    | inline addr₂ =>
      simp
      grind [toLower_toLower]
    | apiKey key₂ => simp [(start_ne_apikey hcrypto _).2]
  | inline addr₁ =>
    obtain ⟨a₁, rfl⟩ := h₁
    cases d₂ with
    | session wallet₂ =>
      obtain ⟨a₂, rfl⟩ := h₂
      simp
      grind [toLower_toLower]
    | inline addr₂ =>
      obtain ⟨a₂, rfl⟩ := h₂
      simpa using ⟨congrArg Text.toLower, hcrypto.form a₁ a₂⟩
    | apiKey key₂ => simp [(start_ne_apikey hcrypto _).1]
  | apiKey key₁ =>
    cases d₂ with
    | session wallet₂ =>
      obtain ⟨a₂, rfl⟩ := h₂
      simp [(start_ne_apikey hcrypto _).2.symm]
    | inline addr₂ =>
      obtain ⟨a₂, rfl⟩ := h₂
      simp [(start_ne_apikey hcrypto _).1.symm]
    | apiKey key₂ =>
      simp
      grind

end Values

/-! ## The sessions that logins lead to -/

section Sessions

variable {m m' : WalletAuthManager}

/-- A manager with no other sessions. -/
lemma Verified.frame (h : Verified crypto (some m))
    (hsessions : ∀ token, ∀ session ∈ m'.sessions token, session ∈ m.sessions token) :
    Verified crypto (some m') := by
  rintro _ ⟨⟩ token session hsession
  exact h m rfl token session (hsessions token session hsession)

variable {now : ℕ} {walletAuth : Option WalletAuthManager} {rand : Option (List.Vector UInt8 32)}
  {h : Headers}

lemma sessions_createChallenge {address message : Text}
    (h : m.createChallenge now rand address = .ok (m', message)) : m'.sessions = m.sessions := by
  rcases createChallenge_eq_ok h with ⟨rfl, -⟩ | ⟨nonce, -, -, rfl⟩ <;> rfl

/-- A request for a challenge opens no session. -/
lemma Verified.handleAuthChallenge (h : Verified crypto walletAuth) (now : ℕ)
    (rand : Option (List.Vector UInt8 32)) (method : Method) (body : Option Text) :
    Verified crypto (handleAuthChallenge walletAuth now rand method body).1 := by
  unfold Api.handleAuthChallenge
  split
  · exact h
  split
  · exact h
  split
  · exact h
  split
  · exact h
  · next m =>
    split
    · exact h
    · next m' message hcreate =>
      refine h.frame ?_
      intro token session hsession
      rwa [sessions_createChallenge hcreate] at hsession

/-- A new session is of the address that the signature recovers to. -/
lemma Verified.createSession (h : Verified crypto (some m)) {expiresAt : ℕ} {token : Text}
    {a : Address} (hcreate : m.createSession now rand (crypto.hex a) = .ok (m', token, expiresAt)) :
    Verified crypto (some m') := by
  unfold WalletAuthManager.createSession at hcreate
  split at hcreate
  · cases hcreate
  · next tokenBytes =>
    cases hcreate
    rintro _ ⟨⟩ token session hsession
    by_cases htoken : token = text "wt_" ++ hexEncode tokenBytes.toList
    · subst htoken
      dsimp only at hsession
      rw [Function.update_self] at hsession
      cases hsession
      exact ⟨a, rfl⟩
    · dsimp only at hsession
      rw [Function.update_of_ne htoken] at hsession
      exact h m rfl token session hsession

lemma Verified.handleAuthVerify (h : Verified crypto walletAuth) (now : ℕ)
    (rand : Option (List.Vector UInt8 32)) (method : Method) (body : Option AuthVerifyRequest) :
    Verified crypto (handleAuthVerify crypto walletAuth now rand method body).1 := by
  unfold Api.handleAuthVerify
  split
  · exact h
  split
  · exact h
  split
  · exact h
  split
  · exact h
  split
  · exact h
  · next addr hverify =>
    obtain ⟨-, sigBytes, pubKey, -, rfl⟩ := verifySignature_eq_ok crypto hverify
    split
    · exact h
    · next m' token expiresAt hcreate => exact h.createSession hcreate

lemma Verified.step {s s' : Auth} {a : Timed} (h : Verified crypto s.walletAuth)
    (hs : Step crypto s a s') : Verified crypto s'.walletAuth := by
  unfold Step Auth.next at hs
  split at hs
  · cases hs
  split at hs
  · cases hs
    exact h.handleAuthChallenge _ _ _ _
  · cases hs
    exact h.handleAuthVerify _ _ _ _
  · cases hs
    cases hw : s.walletAuth with
    | none => rintro _ ⟨⟩
    | some m =>
      rw [hw] at h
      refine h.frame ?_
      intro token session hsession
      exact (Option.filter_eq_some_iff.mp hsession).1

/-- **The sessions of a server.** Every session that is there after any run of logins is of a
wallet, in lower case. -/
theorem verified_of_reachable {t₀ : ℕ} {s : Auth}
    (h : Reachable (Step crypto) (Auth.init t₀) s) : Verified crypto s.walletAuth := by
  refine h.invariant (P := fun s => Verified crypto s.walletAuth) ?_ ?_
  · intro s a s' hs hstep
    exact hs.step hstep
  · rintro _ ⟨⟩ token session hsession
    cases hsession

/-- An address that a signature recovers to. -/
lemma exists_of_signedAddress {m : Moment} {addr : Text}
    (haddr : signedAddress crypto m h = some addr) : ∃ a, addr = crypto.hex a := by
  unfold signedAddress at haddr
  split at haddr
  · cases hverify : verifyInlineAuth crypto m.now h.walletAddress h.walletSignature
        h.walletMessage with
    | error err =>
      rw [hverify] at haddr
      cases haddr
    | ok addr' =>
      rw [hverify] at haddr
      cases haddr
      unfold verifyInlineAuth at hverify
      split at hverify
      · cases hverify
      split at hverify
      · dsimp only at hverify
        split at hverify
        · cases hverify
        · obtain ⟨-, sigBytes, pubKey, -, haddr⟩ := verifySignature_eq_ok crypto hverify
          exact ⟨_, haddr⟩
      · cases hverify
  · cases haddr

/-- The wallet of a session that a request names. -/
lemma exists_of_sessionWallet (hsessions : Verified crypto walletAuth) {wallet : Text}
    (hwallet : h.sessionWallet walletAuth now = some wallet) :
    ∃ a, wallet = (crypto.hex a).toLower := by
  unfold Headers.sessionWallet at hwallet
  split at hwallet
  · dsimp only at hwallet
    split at hwallet
    · obtain ⟨m, hm, hvalid⟩ := Option.bind_eq_some_iff.mp hwallet
      unfold WalletAuthManager.validateSession at hvalid
      split at hvalid
      · cases hvalid
      · next session hsession =>
        split at hvalid
        · cases hvalid
        · cases hvalid
          exact hsessions m hm _ session hsession
    · cases hwallet
  · cases hwallet

end Sessions

/-! ## The identity that the header tells -/

lemma genuine_of_credentials {p : Passage} {r : Request} {k : Credentials}
    (hsessions : Verified crypto p.extracted.walletAuth)
    (h : credentials crypto bcrypt cfg p r = some k) : k.shown.Genuine crypto := by
  unfold credentials at h
  simp only [Option.bind_eq_some_iff, Option.map_eq_some_iff] at h
  obtain ⟨c, -, d, hd, rfl⟩ := h
  rcases shownBy_cases hd with ⟨wallet, hwallet, rfl⟩ | ⟨addr, haddr, rfl⟩ | ⟨rfl, -⟩
  · exact exists_of_sessionWallet hsessions hwallet
  · exact exists_of_signedAddress haddr
  · trivial

/-- Two API keys with the same beginning are all that their requests are authenticated by. -/
lemma not_twoNames_of_sameStart {k₁ k₂ : Credentials}
    (h₁ : ∀ key, k₁.shown = .apiKey key → k₁.accepted = .apiKey key)
    (h₂ : ∀ key, k₂.shown = .apiKey key → k₂.accepted = .apiKey key)
    (h : k₁.shown.SameStart k₂.shown) : ¬ k₁.TwoNames k₂ := by
  unfold Credential.SameStart at h
  split at h
  · next key₁ key₂ hshown₁ hshown₂ =>
    unfold Credentials.TwoNames
    rw [h₁ key₁ hshown₁, h₂ key₂ hshown₂, hshown₁, hshown₂]
    tauto
  · exact h.elim

variable {d₁ d₂ : Credential}

/-- Credentials of one identity are not two keys. -/
lemma not_sameStart_of_identity (h : d₁.identity = d₂.identity) : ¬ d₁.SameStart d₂ := by
  intro hstart
  unfold Credential.SameStart at hstart
  split at hstart
  · exact hstart.2 (Identity.apiKey.inj h)
  · exact hstart

/-- A session and a signature in two forms are of one wallet. -/
lemma identity_of_twoForms (h : d₁.TwoForms d₂) : d₁.identity = d₂.identity := by
  unfold Credential.TwoForms at h
  split at h
  · next wallet addr =>
    rw [← h.1]
    exact congrArg Identity.wallet (toLower_toLower addr)
  · next addr wallet =>
    rw [← h.1]
    exact congrArg Identity.wallet (toLower_toLower addr).symm
  · exact h.elim

/-- **The identity that the header tells.** What a client sends under the name of the header makes
no difference, and a handler sees nothing there but the credential that the middleware has verified.
For two requests that reach their handlers with the header, its values are equal exactly if both are
authenticated as one wallet or both by one API key, unless the pair is `Confused`: a session and a
signature of a wallet whose checksummed form has capital letters, two API keys that begin with the
same eight characters, or a credential that is shared beside those that the headers show. -/
theorem header_identifies_iff (crypto : Crypto Hash PublicKey Address) (bcrypt : Bcrypt)
    (cfg : Config) :
    (∀ permission p r values,
      withPermissionMiddleware crypto bcrypt cfg permission p (r.put verifiedWallet values) =
        withPermissionMiddleware crypto bcrypt cfg permission p r) ∧
    (∀ permission p r q, withPermissionMiddleware crypto bcrypt cfg permission p r = .handled q →
      q.fields verifiedWallet.toLower =
        if cfg.enableAuth then
          ((shownBy crypto cfg p.extracted (r.del verifiedWallet)).map Credential.value).toList
        else []) ∧
    (Checksums crypto → cfg.enableAuth = true →
      ∀ permission₁ permission₂ p₁ p₂ r₁ r₂ v₁ v₂,
        Verified crypto p₁.extracted.walletAuth → Verified crypto p₂.extracted.walletAuth →
        (withPermissionMiddleware crypto bcrypt cfg permission₁ p₁ r₁).header = some v₁ →
        (withPermissionMiddleware crypto bcrypt cfg permission₂ p₂ r₂).header = some v₂ →
        v₁ ≠ [] → v₂ ≠ [] →
        ∃ k₁ k₂, credentials crypto bcrypt cfg p₁ r₁ = some k₁ ∧
          credentials crypto bcrypt cfg p₂ r₂ = some k₂ ∧
          ((v₁ = v₂ ↔ k₁.Shares k₂) ↔ ¬ k₁.Confused k₂)) := by
  refine ⟨withPermissionMiddleware_put, fun _ _ _ _ => fields_of_handled, ?_⟩
  intro hcrypto hauth permission₁ permission₂ p₁ p₂ r₁ r₂ v₁ v₂ hs₁ hs₂ h₁ h₂ hv₁ hv₂
  obtain ⟨k₁, hk₁, rfl⟩ := credentials_of_header hauth h₁ hv₁
  obtain ⟨k₂, hk₂, rfl⟩ := credentials_of_header hauth h₂ hv₂
  refine ⟨k₁, k₂, hk₁, hk₂, ?_⟩
  have hvalue := value_eq_iff hcrypto (genuine_of_credentials hs₁ hk₁)
    (genuine_of_credentials hs₂ hk₂)
  have hkeys : k₁.shown.SameStart k₂.shown → ¬ k₁.TwoNames k₂ :=
    not_twoNames_of_sameStart (fun _ => accepted_of_shown_apiKey hk₁)
      fun _ => accepted_of_shown_apiKey hk₂
  rw [hvalue, Credentials.shares_iff]
  unfold Credentials.Confused
  by_cases hid : k₁.shown.identity = k₂.shown.identity
  · -- one wallet or one key: only its form can differ
    have hstart := not_sameStart_of_identity hid
    have hnames : ¬ k₁.TwoNames k₂ := fun h => h.1 hid
    simp only [hid, hstart, hnames, true_and, or_false, iff_true]
  · -- two names: they may look alike, or stand beside a credential that is shared
    have hforms : ¬ k₁.shown.TwoForms k₂.shown := fun h => hid (identity_of_twoForms h)
    tauto

/-! ## A wallet and two keys -/

/-- The signatures of the wallet `0xaa..`: of a challenge, and of a request. -/
def walletSignatures : Crypto Text Unit Unit :=
  signatures [(prefixedMessage issuedMessage, sig65),
    (prefixedMessage (text "moltbunker-auth:10"), sig65)]

lemma walletSignatures_checksums : Checksums walletSignatures where
  start _ := ⟨text "AAAAAAAAAAAAAAAAAAAAAAAAAAAAAAAAAAAAAAAA", rfl⟩
  form _ _ _ := rfl

/-- The wallet has logged in. -/
def login : List (Timed × Auth) :=
  trace (Auth.next walletSignatures) (Auth.init 0)
    [⟨7 * second, ask⟩, ⟨9 * second, present issuedMessage⟩]

/-- The bytes `7, 7, 7, b, 0, ..` of a key. -/
def keyBytes (b : UInt8) : List.Vector UInt8 32 :=
  7 ::ᵥ 7 ::ᵥ 7 ::ᵥ b ::ᵥ List.Vector.replicate 28 0

/-- A new key in a manager without a file. -/
def addKey (s : KeyStore) (b : UInt8) : KeyStore :=
  (s.createKey plainBcrypt utc 0
    ⟨some (keyBytes b), some (List.Vector.replicate 16 0), some (List.Vector.replicate 8 b)⟩
    (text "key") [text "read"] 0 ⟨[], .done⟩).1

/-- The managers ten seconds after the start, with two keys and the session of the wallet. -/
def tenSeconds : Moment where
  now := 10 * second
  apiKeyManager := some (addKey (addKey ⟨⟨[], ∅, ∅, []⟩, .absent⟩ 1) 2).manager
  walletAuth := (endState (Auth.init 0) login).walletAuth

lemma tenSeconds_verified : Verified walletSignatures tenSeconds.walletAuth := by
  have hlogin : Reachable (Step walletSignatures) (Auth.init 0) (endState (Auth.init 0) login) :=
    ⟨login, trace_path _ _, rfl⟩
  unfold tenSeconds
  dsimp only
  exact verified_of_reachable hlogin

/-- A request that is made and answered at that time. -/
def atTenSeconds : Passage := ⟨tenSeconds, tenSeconds, tenSeconds, true⟩

/-- `DefaultServerConfig` -/
def defaultServerConfig : Config := ⟨true, true, text "X-API-Key", 100⟩

/-- A request without headers. -/
def bare : Request := ⟨.get, fun _ => []⟩

/-- The request with the token of the session. -/
def bySession : Request :=
  bare.set (text "Authorization") (text "Bearer wt_" ++ hexEncode (List.replicate 32 2))

/-- The request with a signature of the wallet. -/
def bySignature : Request :=
  ((bare.set (text "X-Wallet-Address")
    (text "0xaaaaaaaaaaaaaaaaaaaaaaaaaaaaaaaaaaaaaaaa")).set
    (text "X-Wallet-Message") (text "moltbunker-auth:10")).set
    (text "X-Wallet-Signature") (hexEncode sig65)

/-- The request with an API key. -/
def byKey (b : UInt8) : Request := bare.set (text "X-API-Key") (plainKey (keyBytes b))

/-- The request is answered with the wallet and the keys. -/
def answer (r : Request) : Outcome :=
  withPermissionMiddleware walletSignatures plainBcrypt defaultServerConfig (text "read")
    atTenSeconds r

/-- The credentials of the request. -/
def proofs (r : Request) : Option Credentials :=
  credentials walletSignatures plainBcrypt defaultServerConfig atTenSeconds r

/-- The request shows the credential that it is authenticated by. -/
def only (c : Credential) : Credentials := ⟨c, c⟩

/-- **Two headers for one wallet, and one for two keys.** The wallet is shown in lower case with its
session and in capital letters with its signature; two API keys of the server are both shown as
`apikey:mb_07070`. -/
theorem header_confuses :
    let lower := text "0xaaaaaaaaaaaaaaaaaaaaaaaaaaaaaaaaaaaaaaaa"
    let upper := text "0xAAAAAAAAAAAAAAAAAAAAAAAAAAAAAAAAAAAAAAAA"
    let key₁ := plainKey (keyBytes 1)
    let key₂ := plainKey (keyBytes 2)
    (answer bySession).header = some lower ∧ (answer bySignature).header = some upper ∧
      proofs bySession = some (only (.session lower)) ∧
      proofs bySignature = some (only (.inline upper)) ∧
      ¬ (lower = upper ↔ (only (.session lower)).Shares (only (.inline upper))) ∧
    (answer (byKey 1)).header = some (text "apikey:mb_07070") ∧
      (answer (byKey 2)).header = some (text "apikey:mb_07070") ∧
      proofs (byKey 1) = some (only (.apiKey key₁)) ∧
      proofs (byKey 2) = some (only (.apiKey key₂)) ∧
      ¬ (text "apikey:mb_07070" = text "apikey:mb_07070" ↔
        (only (.apiKey key₁)).Shares (only (.apiKey key₂))) := by
  intro lower upper key₁ key₂
  have hwallet : ¬ (lower = upper ↔
      (only (.session lower)).Shares (only (.inline upper))) := by
    have hne : lower ≠ upper := by decide +kernel
    intro h
    exact hne (h.mpr ⟨.wallet lower, .inl (by decide +kernel), .inl (by decide +kernel)⟩)
  have hkey : ¬ (text "apikey:mb_07070" = text "apikey:mb_07070" ↔
      (only (.apiKey key₁)).Shares (only (.apiKey key₂))) := by
    have hne : key₁ ≠ key₂ := by decide +kernel
    intro h
    obtain ⟨i, h₁, h₂⟩ := h.mp rfl
    have h₁ : Identity.apiKey key₁ = i := h₁.elim id id
    have h₂ : Identity.apiKey key₂ = i := h₂.elim id id
    exact hne (Identity.apiKey.inj (h₁.trans h₂.symm))
  exact ⟨by decide +kernel, by decide +kernel, by decide +kernel, by decide +kernel, hwallet,
    by decide +kernel, by decide +kernel, by decide +kernel, by decide +kernel, hkey⟩

/-- A wallet with its session and an API key are told apart. -/
theorem header_identifies_session_and_key :
    let lower := text "0xaaaaaaaaaaaaaaaaaaaaaaaaaaaaaaaaaaaaaaaa"
    let key := plainKey (keyBytes 1)
    (answer bySession).header = some lower ∧
      (answer (byKey 1)).header = some (text "apikey:mb_07070") ∧
      (lower = text "apikey:mb_07070" ↔ (only (.session lower)).Shares (only (.apiKey key))) := by
  intro lower key
  have hsession : (answer bySession).header = some lower := by decide +kernel
  have hbyKey : (answer (byKey 1)).header = some (text "apikey:mb_07070") := by decide +kernel
  obtain ⟨-, -, hexact⟩ :=
    header_identifies_iff walletSignatures plainBcrypt defaultServerConfig
  obtain ⟨k₁, k₂, hk₁, hk₂, hiff⟩ := hexact walletSignatures_checksums rfl (text "read")
    (text "read") atTenSeconds atTenSeconds bySession (byKey 1) lower (text "apikey:mb_07070")
    tenSeconds_verified tenSeconds_verified hsession hbyKey (by decide +kernel) (by decide +kernel)
  have hproofs₁ : proofs bySession = some (only (.session lower)) := by decide +kernel
  have hproofs₂ : proofs (byKey 1) = some (only (.apiKey key)) := by decide +kernel
  obtain rfl := Option.some.inj (hk₁.symm.trans hproofs₁)
  obtain rfl := Option.some.inj (hk₂.symm.trans hproofs₂)
  exact ⟨hsession, hbyKey, hiff.mpr (by decide +kernel)⟩

end Middleware

end Moltbunker.Api
