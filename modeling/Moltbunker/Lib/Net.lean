import Moltbunker.Lib.Text

/-!
# Network addresses

The functions of Go's `net` and `net/netip` that read addresses: an address with a port is taken
apart, an address of version 4 or 6 is parsed, and it is asked for the network that it is in. An
address has sixteen bytes; those of version 4 stand in the last four of them, after a fixed start.

An address with a zone is not parsed, as in `net.ParseIP`. The errors of the parsers are not told
apart, since no caller does.
-/

namespace Moltbunker.Lib.Net

open Text

/-! ## Host and port -/

/-- `net.SplitHostPort` -/
def splitHostPort (hostport : Text) : Option (Text × Text) :=
  if ':' ∈ hostport then
    let port := (hostport.reverse.takeWhile (· != ':')).reverse
    -- the last colon
    let i := hostport.length - port.length - 1
    if hostport.head? = some '[' then
      let close := hostport.idxOf ']'
      if close + 1 ≠ i ∨ '[' ∈ hostport.drop 1 ∨ ']' ∈ hostport.drop (close + 1) then none
      else some ((hostport.take close).drop 1, port)
    else if ':' ∈ hostport.take i ∨ '[' ∈ hostport ∨ ']' ∈ hostport then none
    else some (hostport.take i, port)
  else none

/-- `net.JoinHostPort` -/
def joinHostPort (host port : Text) : Text :=
  if ':' ∈ host then text "[" ++ host ++ text "]:" ++ port else host ++ text ":" ++ port

/-! ## Addresses -/

/-- `net.IP`, in the form of sixteen bytes. -/
abbrev IP := List.Vector UInt8 16

/-- The sixteen bytes of an address. -/
def IP.ofBytes (bytes : List UInt8) : Option IP :=
  if h : bytes.length = 16 then some ⟨bytes, h⟩ else none

/-- What stands before the four bytes of an address of version 4. -/
def v4Start : List UInt8 := [0, 0, 0, 0, 0, 0, 0, 0, 0, 0, 0xff, 0xff]

/-- `To4` -/
def IP.to4 (ip : IP) : Option (List UInt8) :=
  if ip.toList.take 12 = v4Start then some (ip.toList.drop 12) else none

/-- A field of an address of version 4: a number below 256 without a leading zero. -/
def parseOctet (t : Text) : Option UInt8 :=
  match natString t with
  | none => none
  | some n =>
    if (t.head? = some '0' ∧ t.length ≠ 1) ∨ 255 < n then none else some (UInt8.ofNat n)

/-- The four fields of an address of version 4. -/
def parseIPv4Fields (t : Text) : Option (List UInt8) :=
  let fields := t.splitOn '.'
  if fields.length = 4 then fields.mapM parseOctet else none

/-- The two bytes of a group of hexadecimal digits. -/
def groupBytes (digits : Text) : List UInt8 :=
  let n := digits.foldl (fun n c => 16 * n + (hexVal c).getD 0) 0
  [UInt8.ofNat (n / 256), UInt8.ofNat (n % 256)]

/-- The loop of `parseIPv6` over the groups of an address, with room for `free` of them: the bytes
so far, the place of the ellipsis and the rest of the text. -/
def parseGroups : (free : ℕ) → (ip : List UInt8) → (ellipsis : Option ℕ) → Text →
    Option (List UInt8 × Option ℕ × Text)
  | 0, ip, ellipsis, s => some (ip, ellipsis, s)
  | free + 1, ip, ellipsis, s =>
    let digits := s.takeWhile fun c => (hexVal c).isSome
    if digits = [] ∨ 4 < digits.length then none else
    let ip' := ip ++ groupBytes digits
    match s.drop digits.length with
    | [] => some (ip', ellipsis, [])
    | '.' :: _ =>
      -- the last two groups may be an address of version 4
      if (ellipsis = none ∧ ip.length ≠ 12) ∨ 16 < ip.length + 4 then none
      else (parseIPv4Fields s).map fun fields => (ip ++ fields, ellipsis, [])
    | [':'] => none
    | [':', ':'] => if ellipsis.isSome then none else some (ip', some ip'.length, [])
    | ':' :: ':' :: s' =>
      if ellipsis.isSome then none else parseGroups free ip' (some ip'.length) s'
    | ':' :: s' => parseGroups free ip' ellipsis s'
    | _ => none

/-- `parseIPv6`, for an address without a zone. -/
def parseIPv6 (t : Text) : Option IP :=
  if '%' ∈ t then none
  else if t = text "::" then some (List.Vector.replicate 16 0)
  else
    let start := t.take 2 = text "::"
    match parseGroups 8 [] (if start then some 0 else none) (if start then t.drop 2 else t) with
    | none => none
    | some (ip, ellipsis, s) =>
      if s ≠ [] then none
      else
        match ellipsis with
        | none => IP.ofBytes ip
        | some i =>
          -- the ellipsis stands for one group of zeros at least
          if ip.length < 16 then
            IP.ofBytes (ip.take i ++ List.replicate (16 - ip.length) 0 ++ ip.drop i)
          else none

/-- `net.ParseIP` -/
def parseIP (t : Text) : Option IP :=
  match t.find? fun c => c = '.' ∨ c = ':' ∨ c = '%' with
  | some '.' => (parseIPv4Fields t).bind fun fields => IP.ofBytes (v4Start ++ fields)
  | some ':' => parseIPv6 t
  | _ => none

/-! ## Writing -/

/-- The groups of an address of version 6. -/
def groups : List UInt8 → List ℕ
  | a :: b :: rest => (256 * a.toNat + b.toNat) :: groups rest
  | _ => []

/-- The groups with colons between them, in hexadecimal digits. -/
def joinGroups (gs : List ℕ) : Text :=
  (text ":").intercalate (gs.map fun g => Nat.toDigits 16 g)

/-- The first longest run of two or more groups that are zero: its place and its length. -/
def zeroRun (gs : List ℕ) : ℕ × ℕ :=
  (List.range gs.length).foldl (fun best i =>
    let n := ((gs.drop i).takeWhile (· == 0)).length
    if 2 ≤ n ∧ best.2 < n then (i, n) else best) (0, 0)

/-- `String` of an address of version 6. -/
def IP.string6 (ip : IP) : Text :=
  let gs := groups ip.toList
  let run := zeroRun gs
  if run.2 = 0 then joinGroups gs
  else joinGroups (gs.take run.1) ++ text "::" ++ joinGroups (gs.drop (run.1 + run.2))

/-! ## Networks -/

/-- `net.IPNet`: a network is given by an address and the number of its bits that count. -/
structure IPNet where
  address : List UInt8
  ones : ℕ

/-- The bits of an address, the first one first. -/
def bits (bytes : List UInt8) : List Bool :=
  bytes.flatMap fun b => (List.range 8).map fun i => b.toNat.testBit (7 - i)

/-- `Contains` -/
def IPNet.contains (network : IPNet) (ip : IP) : Bool :=
  let x := ip.to4.getD ip.toList
  x.length == network.address.length &&
    (bits x).take network.ones == (bits network.address).take network.ones

/-- `IsLoopback` -/
def IP.isLoopback (ip : IP) : Bool :=
  match ip.to4 with
  | some x => x.head? == some 127
  | none => ip.toList == List.replicate 15 0 ++ [1]

end Moltbunker.Lib.Net
