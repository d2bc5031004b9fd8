import Moltbunker.Api.Keys.Model
import Moltbunker.Api.WalletAuth

/-!
# The middleware of the API

`withPermissionMiddleware` of `internal/api/server.go` with `authenticate`, `isAPIKeyAuth` and
`extractAPIKeyToken`. A request reaches its handler if it is authenticated by an API key, by the
session of a wallet or by a signature, if an API key has the permission of the route, and if the
client is not over its rate. The middleware asks the managers three times, in `authenticate`, in
`extractWalletAddress` and for the permission, each time as they are then: a `Moment`. The names of
headers are compared without case, and a character of a value stands for a byte.

`isAPIKeyAuth` is asked again after the identity is set, so that it is modelled on the request with
the new header. The headers of the responses and how the address of the client is found are left
out; `allow` is what the rate limiter of that address says.

* `isAPIKeyAuth_iff`, `sessionWallet_eq` — what the tokens of a request stand for;
* `withPermissionMiddleware_put` — what the client sends under the name of the internal header makes
  no difference;
* `eq_of_handled` — what a request has passed that reaches its handler.
-/

namespace Moltbunker.Api

open Lib

namespace Middleware

/-! ## Requests -/

/-- The method and the header fields of a request, by their names in lower case. -/
structure Request where
  method : Method
  fields : Text → List Text

namespace Request

variable (r : Request)

/-- `Header.Get` -/
def get (name : Text) : Text := (r.fields name.toLower).headD []

/-- The fields of the request have these values under the name. -/
def put (name : Text) (values : List Text) : Request :=
  { r with fields := Function.update r.fields name.toLower values }

/-- `Header.Del` -/
def del (name : Text) : Request := r.put name []

/-- `Header.Set` -/
def set (name value : Text) : Request := r.put name [value]

/-- The fields that `extractWalletAddress` reads. -/
def headers : Headers where
  authorization := r.get (text "Authorization")
  walletAddress := r.get (text "X-Wallet-Address")
  walletSignature := r.get (text "X-Wallet-Signature")
  walletMessage := r.get (text "X-Wallet-Message")

end Request

/-- The name of the header in which the middleware puts the identity. -/
def verifiedWallet : Text := text "X-Moltbunker-Verified-Wallet"

/-- The part of `ServerConfig` that the middleware reads. -/
structure Config where
  enableCORS : Bool
  enableAuth : Bool
  apiKeyHeader : Text
  rateLimit : ℤ

/-- What the server finds when it asks its managers. -/
structure Moment where
  now : ℕ
  apiKeyManager : Option APIKeyManager
  walletAuth : Option WalletAuthManager

/-- A response, or a call of the handler with the request that it gets. -/
inductive Outcome where
  | responded (code : ℕ) (body : Text)
  | handled (r : Request)

/-! ## The middleware -/

section Functions

variable {Hash PublicKey Address : Type} (crypto : Crypto Hash PublicKey Address) (bcrypt : Bcrypt)
  (cfg : Config)

/-- The token after `Bearer `. -/
def bearerToken (auth : Text) : Option Text :=
  if auth.length > 7 ∧ auth.take 7 = text "Bearer " then some (auth.drop 7) else none

/-- The token has this beginning of three characters, and more. -/
def HasKind (kind token : Text) : Prop := token.length > 3 ∧ token.take 3 = kind

instance (kind token : Text) : Decidable (HasKind kind token) :=
  inferInstanceAs (Decidable (_ ∧ _))

/-- `ValidateKey` of the manager, if there is one. -/
def validKey (m : Moment) (key : Text) : Bool :=
  match m.apiKeyManager with
  | none => false
  | some keys => keys.validateKey bcrypt m.now key

/-- The check of the signature in the headers. -/
def inlineAuth (m : Moment) (h : Headers) : Bool :=
  if h.walletAddress ≠ [] ∧ h.walletSignature ≠ [] ∧ h.walletMessage ≠ [] ∧ m.walletAuth.isSome then
    match verifyInlineAuth crypto m.now h.walletAddress h.walletSignature h.walletMessage with
    | .ok _ => true
    | .error _ => false
  else false

/-- `authenticate` -/
def authenticate (m : Moment) (r : Request) : Bool :=
  let apiKey := r.get cfg.apiKeyHeader
  if apiKey ≠ [] then validKey bcrypt m apiKey else
  match bearerToken (r.get (text "Authorization")) with
  | none => inlineAuth crypto m r.headers
  | some token =>
    if HasKind (text "mb_") token then validKey bcrypt m token
    else if HasKind (text "wt_") token then
      match m.walletAuth with
      | some walletAuth => (walletAuth.validateSession m.now token).isSome
      | none => inlineAuth crypto m r.headers
    else inlineAuth crypto m r.headers

/-- `extractAPIKeyToken` -/
def extractAPIKeyToken (r : Request) : Text :=
  let key := r.get cfg.apiKeyHeader
  if key ≠ [] then key else
  match bearerToken (r.get (text "Authorization")) with
  | some token => if HasKind (text "mb_") token then token else []
  | none => []

/-- `isAPIKeyAuth` -/
def isAPIKeyAuth (r : Request) : Bool :=
  if r.get cfg.apiKeyHeader ≠ [] then true else
  match bearerToken (r.get (text "Authorization")) with
  | some token => HasKind (text "mb_") token
  | none => false

/-- The request with its verified identity. -/
def inject (m : Moment) (r : Request) : Request :=
  let wallet := extractWalletAddress crypto m.walletAuth m.now r.headers
  if wallet ≠ [] then r.set verifiedWallet wallet
  else if isAPIKeyAuth cfg r then
    let token := extractAPIKeyToken cfg r
    if token ≠ [] ∧ token.length ≥ 8 then
      r.set verifiedWallet (text "apikey:" ++ token.take 8)
    else r
  else r

/-- The check of the permission, for API keys. -/
def permitted (m : Moment) (permission : Text) (r : Request) : Bool :=
  if isAPIKeyAuth cfg r then
    match m.apiKeyManager with
    | none => true
    | some keys =>
      let token := extractAPIKeyToken cfg r
      token = [] || keys.validateKeyWithPermission bcrypt m.now token permission
  else true

/-- The moments of a request and what its rate limiter says. -/
structure Passage where
  authenticated : Moment
  extracted : Moment
  checked : Moment
  allow : Bool

/-- The part of the middleware after the authentication. -/
def limit (p : Passage) (r : Request) : Outcome :=
  if 0 < cfg.rateLimit ∧ p.allow = false then
    .responded 429 (text "\x7b\"error\": \"rate limit exceeded\", \"retry_after\": 60\x7d")
  else .handled r

/-- `withPermissionMiddleware` -/
def withPermissionMiddleware (permission : Text) (p : Passage) (r : Request) : Outcome :=
  if cfg.enableCORS ∧ r.method = .other (text "OPTIONS") then .responded 200 [] else
  let r := r.del verifiedWallet
  if cfg.enableAuth = false then limit cfg p r else
  if authenticate crypto bcrypt cfg p.authenticated r = false then
    .responded 401 (text "\x7b\"error\": \"unauthorized\"\x7d")
  else
    let r := inject crypto cfg p.extracted r
    if permitted bcrypt cfg p.checked permission r = false then
      .responded 403 (text "\x7b\"error\": \"forbidden: insufficient API key permissions\"\x7d")
    else limit cfg p r

/-- The header that the handler sees, if the request reaches it. -/
def Outcome.header : Outcome → Option Text
  | .responded _ _ => none
  | .handled r => some (r.get verifiedWallet)

end Functions

/-! ## Tokens -/

section Tokens

variable {cfg : Config} {r : Request}

/-- A token with a beginning is not empty. -/
lemma HasKind.ne_nil {kind token : Text} (h : HasKind kind token) : token ≠ [] := by
  rintro rfl
  exact absurd h.1 (by decide)

lemma isAPIKeyAuth_iff : isAPIKeyAuth cfg r = true ↔ extractAPIKeyToken cfg r ≠ [] := by
  unfold isAPIKeyAuth extractAPIKeyToken
  by_cases hkey : r.get cfg.apiKeyHeader = []
  · simp only [hkey, ne_eq, not_true_eq_false, if_false]
    cases bearerToken (r.get (text "Authorization")) with
    | none => simp
    | some token =>
      by_cases hkind : HasKind (text "mb_") token
      · simp [hkind, hkind.ne_nil]
      · simp [hkind]
  · simp [hkey]

/-- The session that a bearer token names. -/
lemma sessionWallet_eq {token : Text} {h : Headers}
    (htoken : bearerToken h.authorization = some token) (hkind : HasKind (text "wt_") token)
    (w : Option WalletAuthManager) (now : ℕ) :
    h.sessionWallet w now = w.bind fun m => m.validateSession now token := by
  unfold bearerToken at htoken
  split at htoken
  · next hbearer =>
    cases htoken
    unfold Headers.sessionWallet
    rw [if_pos hbearer]
    exact if_pos hkind
  · cases htoken

end Tokens

/-! ## Requests that are handled -/

section Handled

variable {Hash PublicKey Address : Type} {crypto : Crypto Hash PublicKey Address} {bcrypt : Bcrypt}
  {cfg : Config} {permission : Text} {p : Passage} {r q : Request}

@[simp] lemma fields_put (r : Request) (name : Text) (values : List Text) :
    (r.put name values).fields name.toLower = values :=
  Function.update_self _ _ _

@[simp] lemma del_put (r : Request) (name : Text) (values : List Text) :
    (r.put name values).del name = r.del name := by
  simp [Request.del, Request.put]

/-- **What the client sends under the name makes no difference.** -/
theorem withPermissionMiddleware_put (permission : Text) (p : Passage) (r : Request)
    (values : List Text) :
    withPermissionMiddleware crypto bcrypt cfg permission p (r.put verifiedWallet values) =
      withPermissionMiddleware crypto bcrypt cfg permission p r := by
  unfold withPermissionMiddleware
  rw [del_put]
  rfl

lemma limit_eq_handled (h : limit cfg p r = .handled q) : q = r := by
  unfold limit at h
  split at h
  · cases h
  · exact (Outcome.handled.inj h).symm

/-- A request that reaches its handler has passed every check. -/
lemma eq_of_handled (hauth : cfg.enableAuth = true)
    (h : withPermissionMiddleware crypto bcrypt cfg permission p r = .handled q) :
    authenticate crypto bcrypt cfg p.authenticated (r.del verifiedWallet) = true ∧
      q = inject crypto cfg p.extracted (r.del verifiedWallet) := by
  unfold withPermissionMiddleware at h
  split at h
  · cases h
  simp only [hauth, Bool.true_eq_false, if_false] at h
  split at h
  · cases h
  · next hpass =>
    split at h
    · cases h
    · exact ⟨Bool.eq_true_of_not_eq_false hpass, limit_eq_handled h⟩

end Handled

end Middleware

end Moltbunker.Api
