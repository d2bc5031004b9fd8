import Moltbunker.Lib.Text

/-!
# Pulled images and the ones that fail verification

`PullImage`, `PullImageVerified`, `GetImage` and the step of `CreateSecureContainer` that gets its
image, over the image store of one namespace. The store is a map from names to images; what a
registry serves and what a verifier says of a digest, for the signature and the policy of the call,
are parameters.

Pulls and lookups name the image by `NormalizeImageRef(ref)`, the deletion after a failed
verification names it by `ref`. `rejected_gone_iff` says when this is the same name, and with it
the rejected image gone: when the reference names its registry host.
-/

namespace Moltbunker.Runtime.ImagePull

open Lib Function

/-- `containerd.Image`, by the digest of its target. -/
structure Image where
  digest : Text
  deriving DecidableEq

/-- The image store: the image under each name. -/
abbrev Images := Text → Option Image

/-! ## References -/

/-- `ref[:i]` where `i := strings.IndexByte(ref, '/')` and `i > 0` -/
def host (ref : Text) : Option Text :=
  match ref.idxOf? '/' with
  | some (i + 1) => some (ref.take (i + 1))
  | _ => none

/-- The reference names a registry: the part before its first slash has a dot or a colon. -/
def NamesHost (ref : Text) : Prop :=
  ((host ref).any fun host => host.any fun c => c = '.' ∨ c = ':') = true

instance (ref : Text) : Decidable (NamesHost ref) := inferInstanceAs (Decidable (_ = true))

/-- `NormalizeImageRef(ref)` -/
def normalizeImageRef (ref : Text) : Text :=
  match host ref with
  | some host =>
    if host.any fun c => c = '.' ∨ c = ':' then ref
    -- a user's image on Docker Hub
    else text "docker.io/" ++ ref
  -- an official image
  | none => text "docker.io/library/" ++ ref

lemma normalizeImageRef_eq_self_iff {ref : Text} :
    normalizeImageRef ref = ref ↔ NamesHost ref := by
  have hlonger : ∀ start : Text, start ≠ [] → start ++ ref ≠ ref := by
    intro start hne heq
    exact hne (List.append_left_eq_self.mp heq)
  unfold normalizeImageRef NamesHost
  cases host ref with
  | none => simpa using hlonger _ (by decide)
  | some host =>
    dsimp only
    split
    · next hany => simpa using hany
    · next hnone =>
      refine ⟨fun heq => absurd heq (hlonger _ (by decide)), fun hany => absurd hany hnone⟩

/-! ## Pulling -/

section Calls

variable (pull : Text → Except Text Image) (verify : Text → Option Text) (images : Images)
  (ref : Text)

/-- `PullImage(ctx, ref)`; a pull stores the image under the name that it was asked for. -/
def pullImage : Images × Except Text Image :=
  match pull (normalizeImageRef ref) with
  | .error err =>
    (images, .error (text "failed to pull image " ++ normalizeImageRef ref ++ text ": " ++ err))
  | .ok image => (update images (normalizeImageRef ref) (some image), .ok image)

/-- The error of an image whose digest the verifier refuses. -/
def refusal (image : Image) (err : Text) : Text :=
  text "image " ++ ref ++ text " (digest " ++ image.digest ++
    text ") failed signature verification: " ++ err

/-- `PullImageVerified(ctx, ref, sig, policy, verifier)` -/
def pullImageVerified : Images × Except Text Image :=
  match pullImage pull images ref with
  | (images, .error err) => (images, .error err)
  | (images, .ok image) =>
    match verify image.digest with
    | some err => (update images ref none, .error (refusal ref image err))
    | none => (images, .ok image)

/-- `GetImage(ctx, ref)` -/
def getImage : Option Image := images (normalizeImageRef ref)

/-- The image of `CreateSecureContainer`, with the verifier if the configuration has a policy or a
signature; `CreateContainer` is the case without one. -/
def containerImage (verify : Option (Text → Option Text)) : Images × Except Text Image :=
  match getImage images ref, verify with
  | none, some verify => pullImageVerified pull verify images ref
  | none, none => pullImage pull images ref
  | some image, some verify =>
    -- an image that was there before is not deleted
    match verify image.digest with
    | some err => (images, .error (refusal ref image err))
    | none => (images, .ok image)
  | some image, none => (images, .ok image)

end Calls

variable {pull : Text → Except Text Image} {verify : Text → Option Text} {images : Images}
  {ref : Text} {image : Image} {err : Text}

/-- **When a rejected image is gone.** After a pull whose image fails verification, the reference
no longer gives that image, and no container without a policy starts with it while no registry
answers, exactly if the reference names its registry host. -/
theorem rejected_gone_iff (hpull : pull (normalizeImageRef ref) = .ok image)
    (hverify : verify image.digest = some err) :
    (getImage (pullImageVerified pull verify images ref).1 ref ≠ some image ∧
      ∀ down, (containerImage (fun _ => .error down)
        (pullImageVerified pull verify images ref).1 ref none).2 ≠ .ok image) ↔
      NamesHost ref := by
  rw [← normalizeImageRef_eq_self_iff]
  simp only [pullImageVerified, pullImage, hpull, hverify, containerImage]
  by_cases heq : normalizeImageRef ref = ref
  · have hgone : getImage (update (update images (normalizeImageRef ref) (some image)) ref none)
        ref = none := by
      rw [getImage, heq, update_self]
    rw [hgone]
    simp [heq]
  · have hleft : getImage (update (update images (normalizeImageRef ref) (some image)) ref none)
        ref = some image := by
      rw [getImage, update_of_ne heq, update_self]
    rw [hleft]
    simp [heq]

/-- A registry that serves one image under every name. -/
def oneImage : Text → Except Text Image := fun _ => .ok ⟨text "sha256:00"⟩

/-- A verifier that refuses every digest. -/
def refuseAll : Text → Option Text := fun _ => some (text "untrusted")

/-- With the host in the reference, the rejected image is gone. -/
theorem rejected_gone_qualified :
    NamesHost (text "ghcr.io/a/b") ∧
      getImage (pullImageVerified oneImage refuseAll (fun _ => none) (text "ghcr.io/a/b")).1
        (text "ghcr.io/a/b") ≠ some ⟨text "sha256:00"⟩ := by
  have hhost : NamesHost (text "ghcr.io/a/b") := by decide
  have hpull : oneImage (normalizeImageRef (text "ghcr.io/a/b")) = .ok ⟨text "sha256:00"⟩ := rfl
  have hverify : refuseAll (text "sha256:00") = some (text "untrusted") := rfl
  exact ⟨hhost, ((rejected_gone_iff hpull hverify).mpr hhost).1⟩

/-- Under its short name, the rejected image stays. -/
theorem rejected_stays_short :
    getImage (pullImageVerified oneImage refuseAll (fun _ => none) (text "nginx")).1
      (text "nginx") = some ⟨text "sha256:00"⟩ := by
  decide

end Moltbunker.Runtime.ImagePull
