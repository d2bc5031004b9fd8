import Moltbunker.Identity.NodeID
import Moltbunker.Lib.Json
import Moltbunker.P2p.NonceTracker

/-!
# Messages between nodes

`Node` and `Message` of `pkg/types/types.go`, the record that is signed (`SignableBytes`), the
record that is sent, and the types of messages for which a stake is required
(`internal/p2p/message_gate.go`). A message is received as the record that was sent.

* `ofObject_toObject` — a message is read back as it was written.
-/

namespace Moltbunker.P2p

open Lib Json
open Identity (NodeID)

/-- `types.Node`, as far as the router reads it. -/
structure Node where
  id : NodeID
  address : Text
  port : ℤ
  region : Text
  deriving DecidableEq

/-! ## Messages -/

/-- `types.MessageType`, which is a string. -/
abbrev MessageType := Text

/-- `ProtocolVersion` -/
def protocolVersion : UInt32 := 1

/-- `MinSupportedVersion` -/
def minSupportedVersion : UInt32 := 1

/-- The types of messages that are open to everybody. -/
def freeTypes : List MessageType :=
  [text "ping", text "pong", text "find_node", text "nodes", text "health", text "announce"]

/-- The types of messages that are listed as privileged. -/
def stakedTypes : List MessageType :=
  [text "deploy", text "deploy_ack", text "bid", text "gossip", text "container_status",
    text "replica_sync", text "logs", text "stop", text "delete", text "exec_open",
    text "exec_data", text "exec_resize", text "exec_close"]

/-- `RequiresStake`; so do the types that are not known. -/
def requiresStake (msgType : MessageType) : Bool :=
  if msgType ∈ freeTypes then false
  else if msgType ∈ stakedTypes then true
  else true

/-- `types.Message`; `sender` and `recipient` are the fields `From` and `To`. A payload may be
missing, which is not the same as an empty one. -/
structure Message where
  type : MessageType
  sender : NodeID
  recipient : NodeID
  payload : Option (List UInt8)
  timestamp : Stamp
  nonce : Nonce
  signature : List UInt8
  version : UInt32
  deriving DecidableEq

namespace Message

/-- A slice of bytes, which is `null` if it is missing. -/
def sliceValue : Option (List UInt8) → Value
  | none => .null
  | some bytes => .slice bytes

variable (m : Message)

/-- The fields up to the nonce. -/
def head : Object :=
  [(text "type", .str m.type), (text "from", .array m.sender.toList),
    (text "to", .array m.recipient.toList), (text "payload", sliceValue m.payload),
    (text "timestamp", .time m.timestamp), (text "nonce", .array m.nonce.toList)]

/-- The record that is signed. -/
def signable : Object := m.head ++ [(text "version", .num m.version.toNat)]

/-- `SignableBytes`, which fails if the timestamp cannot be written. -/
def signableBytes : Option (List UInt8) :=
  if m.timestamp.Encodes then some (utf8 (render m.signable)) else none

/-- The record that is sent: without the field for the signature if there is none. -/
def toObject : Object :=
  m.head ++ (if m.signature = [] then [] else [(text "signature", .slice m.signature)]) ++
    [(text "version", .num m.version.toNat)]

/-- `json.Marshal` of a message. -/
def marshal : Option Object := if m.timestamp.Encodes then some m.toObject else none

/-! ## Reading a message -/

/-- A string; a missing field is empty. -/
def readText : Option Value → Option Text
  | none | some .null => some []
  | some (.str t) => some t
  | some _ => none

/-- An array of a fixed length: what is too much is dropped, what is missing is zero. -/
def readArray (n : ℕ) : Option Value → Option (List.Vector UInt8 n)
  | none | some .null => some (List.Vector.replicate n 0)
  | some (.array bytes) =>
    some ⟨(bytes ++ List.replicate n 0).take n, by simp⟩
  | some _ => none

/-- A slice of bytes. -/
def readSlice : Option Value → Option (Option (List UInt8))
  | none | some .null => some none
  | some (.slice bytes) => some (some bytes)
  | some _ => none

/-- A time; a missing one is zero. -/
def readTime : Option Value → Option Stamp
  | none | some .null => some ⟨-62135596800000000000, 0⟩
  | some (.time t) => some t
  | some _ => none

/-- A number of 32 bits. -/
def readUInt32 : Option Value → Option UInt32
  | none | some .null => some 0
  | some (.num n) => if n < 2 ^ 32 then some (UInt32.ofNat n) else none
  | some _ => none

/-- `json.Unmarshal` into a message. -/
def ofObject (o : Object) : Option Message := do
  let type ← readText (field o (text "type"))
  let sender ← readArray 32 (field o (text "from"))
  let recipient ← readArray 32 (field o (text "to"))
  let payload ← readSlice (field o (text "payload"))
  let timestamp ← readTime (field o (text "timestamp"))
  let nonce ← readArray 24 (field o (text "nonce"))
  let signature ← readSlice (field o (text "signature"))
  let version ← readUInt32 (field o (text "version"))
  return ⟨type, sender, recipient, payload, timestamp, nonce, signature.getD [], version⟩

lemma readArray_array {n : ℕ} (v : List.Vector UInt8 n) :
    readArray n (some (.array v.toList)) = some v := by
  apply congrArg some
  apply Subtype.ext
  show (v.toList ++ List.replicate n 0).take n = v.toList
  rw [List.take_left' v.toList_length]

lemma readSlice_sliceValue (payload : Option (List UInt8)) :
    readSlice (some (sliceValue payload)) = some payload := by
  cases payload <;> rfl

lemma readUInt32_num (n : UInt32) : readUInt32 (some (.num n.toNat)) = some n := by
  show (if n.toNat < 2 ^ 32 then some (UInt32.ofNat n.toNat) else none) = some n
  rw [if_pos n.toNat_lt, UInt32.ofNat_toNat]

/-- **A message is read as it was written.** -/
theorem ofObject_toObject (m : Message) : ofObject m.toObject = some m := by
  have htype : field m.toObject (text "type") = some (.str m.type) := rfl
  have hfrom : field m.toObject (text "from") = some (.array m.sender.toList) := rfl
  have hto : field m.toObject (text "to") = some (.array m.recipient.toList) := rfl
  have hpayload : field m.toObject (text "payload") = some (sliceValue m.payload) := rfl
  have htime : field m.toObject (text "timestamp") = some (.time m.timestamp) := rfl
  have hnonce : field m.toObject (text "nonce") = some (.array m.nonce.toList) := rfl
  have hversion : field m.toObject (text "version") = some (.num m.version.toNat) := by
    unfold toObject
    split <;> rfl
  have hsignature : (readSlice (field m.toObject (text "signature"))).map (·.getD []) =
      some m.signature := by
    unfold toObject
    split
    · next hnil =>
      rw [hnil]
      rfl
    · rfl
  obtain ⟨signature, hread, hget⟩ := Option.map_eq_some_iff.mp hsignature
  unfold ofObject
  rw [htype, hfrom, hto, hpayload, htime, hnonce, hversion, hread]
  simp only [readArray_array, readSlice_sliceValue, readUInt32_num, readText, readTime,
    Option.bind_eq_bind, Option.bind_some, hget]
  rfl

end Message

/-- `MessageSigner`: the two methods of a key manager that the router uses. -/
structure MessageSigner where
  sign : List UInt8 → Option (List UInt8)
  verify : List UInt8 → List UInt8 → Bool

end Moltbunker.P2p
