import Moltbunker.Lib.Text

/-!
# Objects in JSON

What `encoding/json` of Go writes for a record of strings, numbers, bytes and times. A field of the
record is a `Value`; arrays of bytes of a fixed length are written as arrays of numbers, slices in
base 64, times in the format `time.RFC3339Nano`. A value of this kind is read back from its text as
it was written, so that the text itself is not parsed here.
-/

namespace Moltbunker.Lib.Json

open Text

/-! ## Times -/

/-- A time on the clock of a place: nanoseconds since 1970, and the minutes by which its clocks are
ahead. -/
structure Stamp where
  nanos : ℤ
  offset : ℤ
  deriving DecidableEq

/-- The year, the month and the day, from the number of days since 1970. -/
def civil (days : ℤ) : ℤ × ℤ × ℤ :=
  -- years begin in March, so that a leap day is the last day of its year
  let z := days + 719468
  let era := z / 146097
  let doe := z - era * 146097
  let yoe := (doe - doe / 1460 + doe / 36524 - doe / 146096) / 365
  let doy := doe - (365 * yoe + yoe / 4 - yoe / 100)
  let mp := (5 * doy + 2) / 153
  let m := if mp < 10 then mp + 3 else mp - 9
  (yoe + era * 400 + (if m ≤ 2 then 1 else 0), m, doy - (153 * mp + 2) / 5 + 1)

namespace Stamp

/-- The zero time of Go: the first of January of the year one. -/
def IsZero (t : Stamp) : Prop := t.nanos = -62135596800000000000

instance (t : Stamp) : Decidable t.IsZero := inferInstanceAs (Decidable (_ = _))

/-- The seconds on the clock of the place. -/
def seconds (t : Stamp) : ℤ := t.nanos / 1000000000 + 60 * t.offset

/-- `MarshalJSON` has no error: the year has four digits, and the offset is less than a day. -/
def Encodes (t : Stamp) : Prop :=
  let year := (civil (t.seconds / 86400)).1
  0 ≤ year ∧ year ≤ 9999 ∧ -1440 < t.offset ∧ t.offset < 1440

instance (t : Stamp) : Decidable t.Encodes := inferInstanceAs (Decidable (_ ∧ _))

/-- A number with leading zeros. -/
def padded (width : ℕ) (n : ℤ) : Text :=
  let digits := decimal n.toNat
  List.replicate (width - digits.length) '0' ++ digits

/-- `time.RFC3339Nano` -/
def rfc3339Nano (t : Stamp) : Text :=
  let date := civil (t.seconds / 86400)
  let time := t.seconds % 86400
  let nanos := t.nanos % 1000000000
  let fraction := ((padded 9 nanos).reverse.dropWhile (· == '0')).reverse
  let minutes : ℤ := t.offset.natAbs
  padded 4 date.1 ++ text "-" ++ padded 2 date.2.1 ++ text "-" ++ padded 2 date.2.2 ++ text "T" ++
    padded 2 (time / 3600) ++ text ":" ++ padded 2 (time / 60 % 60) ++ text ":" ++
    padded 2 (time % 60) ++ (if nanos = 0 then [] else text "." ++ fraction) ++
    if t.offset = 0 then text "Z"
    else (if t.offset < 0 then text "-" else text "+") ++ padded 2 (minutes / 60) ++ text ":" ++
      padded 2 (minutes % 60)

end Stamp

/-! ## Values -/

/-- The alphabet of base 64. -/
def base64Alphabet : Text :=
  text "ABCDEFGHIJKLMNOPQRSTUVWXYZabcdefghijklmnopqrstuvwxyz0123456789+/"

/-- A digit of base 64. -/
def base64Digit (n : ℕ) : Char := base64Alphabet.getD n 'A'

/-- `base64.StdEncoding` -/
def base64 : List UInt8 → Text
  | a :: b :: c :: rest =>
    let n := 65536 * a.toNat + 256 * b.toNat + c.toNat
    [base64Digit (n / 262144), base64Digit (n / 4096 % 64), base64Digit (n / 64 % 64),
      base64Digit (n % 64)] ++ base64 rest
  | [a, b] =>
    let n := 65536 * a.toNat + 256 * b.toNat
    [base64Digit (n / 262144), base64Digit (n / 4096 % 64), base64Digit (n / 64 % 64), '=']
  | [a] =>
    let n := 65536 * a.toNat
    [base64Digit (n / 262144), base64Digit (n / 4096 % 64), '=', '=']
  | [] => []

/-- A character of a string. -/
def escaped (c : Char) : Text :=
  let n := c.toNat
  if n = 0x22 ∨ n = 0x5c then [Char.ofNat 0x5c, c]
  else if n = 0x8 then text "\\b"
  else if n = 0xc then text "\\f"
  else if n = 0xa then text "\\n"
  else if n = 0xd then text "\\r"
  else if n = 0x9 then text "\\t"
  else if n < 0x20 ∨ n = 0x26 ∨ n = 0x3c ∨ n = 0x3e ∨ n = 0x2028 ∨ n = 0x2029 then
    text "\\u" ++ hexEncode [UInt8.ofNat (n / 256), UInt8.ofNat (n % 256)]
  else [c]

/-- A string in quotes. -/
def quoted (t : Text) : Text :=
  let quote := Char.ofNat 0x22
  quote :: t.flatMap escaped ++ [quote]

/-- A field of a record. -/
inductive Value where
  | null
  | num (n : ℕ)
  | str (t : Text)
  /-- an array of bytes -/
  | array (bytes : List UInt8)
  /-- a slice of bytes -/
  | slice (bytes : List UInt8)
  | time (t : Stamp)
  deriving DecidableEq

/-- The text of a value. -/
def Value.render : Value → Text
  | .null => text "null"
  | .num n => decimal n
  | .str t => quoted t
  | .array bytes =>
    text "[" ++ (text ",").intercalate (bytes.map fun b => decimal b.toNat) ++ text "]"
  | .slice bytes => quoted (base64 bytes)
  | .time t => quoted t.rfc3339Nano

/-- A record: its fields with their names. -/
abbrev Object := List (Text × Value)

/-- The text of a record. -/
def render (o : Object) : Text :=
  text "\x7b" ++ (text ",").intercalate (o.map fun f => quoted f.1 ++ text ":" ++ f.2.render) ++
    text "\x7d"

/-- The bytes of a text. -/
def utf8 (t : Text) : List UInt8 := t.flatMap String.utf8EncodeChar

/-- The field of this name. -/
def field (o : Object) (name : Text) : Option Value := o.lookup name

end Moltbunker.Lib.Json
