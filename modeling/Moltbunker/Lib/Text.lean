import Mathlib

/-!
# Strings and numbers in text

The functions of Go's `strings`, `encoding/hex`, `math/big`, `strconv` and `fmt` that programs use
to read and write identifiers. A string is the list of its characters, so that the theorems about
lists apply; `text` turns a literal into one.

Letters are folded to lower case in the ASCII range. Hexadecimal digits have no other variants, so
that for the identifiers that are compared this way it makes no difference.

* `decimal_injective`, `setString_ofInt` — a number can be read off its digits;
* `length_hexEncode`, `hexDecode_hexEncode` — two digits for each byte, from which it can be read.
-/

namespace Moltbunker.Lib

/-- A string. -/
abbrev Text := List Char

instance : LawfulBEq Text := inferInstanceAs (LawfulBEq (List Char))

/-- A literal. -/
def text (s : String) : Text := s.toList

namespace Text

/-! ## Letters -/

/-- `len`, in bytes. -/
def byteLen (t : Text) : ℕ := (t.map Char.utf8Size).sum

/-- `strings.ToLower` -/
def toLower (t : Text) : Text := t.map Char.toLower

/-- `strings.EqualFold` -/
def EqualFold (s t : Text) : Prop := toLower s = toLower t

instance (s t : Text) : Decidable (EqualFold s t) := inferInstanceAs (Decidable (_ = _))

/-- `strings.TrimPrefix` -/
def trimPrefix (t start : Text) : Text :=
  if start.isPrefixOf t then t.drop start.length else t

/-- What `strings.Cut` leaves after the first occurrence of a text, if there is one. -/
def cutAfter (sep : Text) : Text → Option Text
  | [] => if sep = [] then some [] else none
  | c :: t =>
    if sep.isPrefixOf (c :: t) then some ((c :: t).drop sep.length) else cutAfter sep t

/-! ## Hexadecimal digits -/

/-- The value of a hexadecimal digit. -/
def hexVal (c : Char) : Option ℕ :=
  if '0' ≤ c ∧ c ≤ '9' then some (c.toNat - '0'.toNat)
  else if 'a' ≤ c ∧ c ≤ 'f' then some (c.toNat - 'a'.toNat + 10)
  else if 'A' ≤ c ∧ c ≤ 'F' then some (c.toNat - 'A'.toNat + 10)
  else none

/-- `hex.DecodeString` -/
def hexDecode : Text → Option (List UInt8)
  | [] => some []
  | [_] => none
  | a :: b :: rest => do
      let high ← hexVal a
      let low ← hexVal b
      let bytes ← hexDecode rest
      return UInt8.ofNat (16 * high + low) :: bytes

/-- `hex.EncodeToString` -/
def hexEncode (bytes : List UInt8) : Text :=
  bytes.flatMap fun b => [Nat.digitChar (b.toNat / 16), Nat.digitChar (b.toNat % 16)]

lemma length_hexEncode (bytes : List UInt8) : (hexEncode bytes).length = 2 * bytes.length := by
  simp [hexEncode, List.length_flatMap, Nat.mul_comm]

/-- The bytes can be read off their digits. -/
lemma hexDecode_hexEncode (bytes : List UInt8) : hexDecode (hexEncode bytes) = some bytes := by
  have hdigit : ∀ n < 16, hexVal (Nat.digitChar n) = some n := by decide
  induction bytes with
  | nil => rfl
  | cons b bytes ih =>
    have hb := b.toNat_lt
    have hbyte : UInt8.ofNat (16 * (b.toNat / 16) + b.toNat % 16) = b := by
      rw [Nat.div_add_mod]
      exact UInt8.ofNat_toNat
    show hexDecode (Nat.digitChar (b.toNat / 16) :: Nat.digitChar (b.toNat % 16) ::
      hexEncode bytes) = _
    simp only [hexDecode, hdigit _ (show b.toNat / 16 < 16 by omega),
      hdigit _ (show b.toNat % 16 < 16 by omega), ih, Option.bind_eq_bind, Option.bind_some,
      hbyte]
    rfl

lemma hexEncode_injective {xs ys : List UInt8} (h : hexEncode xs = hexEncode ys) : xs = ys := by
  have hxs := hexDecode_hexEncode xs
  rw [h, hexDecode_hexEncode] at hxs
  exact (Option.some.inj hxs).symm

/-! ## Numbers -/

/-- `%d` of a number that is not negative. -/
def decimal (n : ℕ) : Text := Nat.toDigits 10 n

lemma decimal_injective {m n : ℕ} (h : decimal m = decimal n) : m = n := by
  have hm := @Nat.ofDigitChars_ten_toDigits m
  have hn := @Nat.ofDigitChars_ten_toDigits n
  unfold decimal at h
  rw [h] at hm
  exact hm.symm.trans hn

/-- `String` of a `big.Int`. -/
def ofInt : ℤ → Text
  | .ofNat n => decimal n
  | .negSucc n => '-' :: decimal (n + 1)

/-- A number without a sign, in base ten. -/
def natString (t : Text) : Option ℕ :=
  if t ≠ [] ∧ t.all Char.isDigit then some (Nat.ofDigitChars 10 t 0) else none

/-- `SetString` of a `big.Int`, in base ten. -/
def setString : Text → Option ℤ
  | '-' :: t => (natString t).map fun n => -(n : ℤ)
  | '+' :: t => (natString t).map fun n => (n : ℤ)
  | t => (natString t).map fun n => (n : ℤ)

lemma isDigit_of_mem_decimal {n : ℕ} {c : Char} (h : c ∈ decimal n) : c.isDigit = true :=
  Nat.isDigit_of_mem_toDigits (by decide) (by decide) h

lemma natString_decimal (n : ℕ) : natString (decimal n) = some n := by
  unfold natString
  rw [if_pos ⟨Nat.toDigits_ne_nil, List.all_eq_true.mpr fun c hc => isDigit_of_mem_decimal hc⟩]
  exact congrArg some Nat.ofDigitChars_ten_toDigits

/-- A number is read as it was written. -/
lemma setString_ofInt (r : ℤ) : setString (ofInt r) = some r := by
  cases r with
  | ofNat n =>
    -- the first digit is not a sign
    have hfirst : ∀ c ∈ decimal n, c ≠ '-' ∧ c ≠ '+' := by
      intro c hc
      have hdigit := isDigit_of_mem_decimal hc
      constructor <;> rintro rfl <;> exact absurd hdigit (by decide)
    show setString (decimal n) = _
    unfold setString
    split
    · next t heq => exact absurd rfl (hfirst '-' (heq ▸ List.mem_cons_self)).1
    · next t heq => exact absurd rfl (hfirst '+' (heq ▸ List.mem_cons_self)).2
    · rw [natString_decimal]
      rfl
  | negSucc n =>
    simp only [ofInt, setString, natString_decimal]
    rfl

/-- The white space of `fmt`. -/
def isSpace (c : Char) : Bool :=
  let n := c.toNat
  (0x9 ≤ n && n ≤ 0xd) || n == 0x20 || n == 0x85 || n == 0xa0 || n == 0x1680 ||
    (0x2000 ≤ n && n ≤ 0x200a) || n == 0x2028 || n == 0x2029 || n == 0x202f || n == 0x205f ||
    n == 0x3000

/-- `SkipSpace` of a scan that does not run over the end of a line. -/
def skipSpace : Text → Option Text
  | [] => some []
  | '\r' :: '\n' :: _ => none
  | '\n' :: _ => none
  | c :: rest => if isSpace c then skipSpace rest else some (c :: rest)

/-- `fmt.Sscanf(t, "%d", ..)` into a signed 64-bit number. -/
def scanInt (t : Text) : Option ℤ := do
  let t ← skipSpace t
  let negative := t.head? = some '-'
  let rest := if t.head? = some '-' ∨ t.head? = some '+' then t.tail else t
  let digits := rest.takeWhile Char.isDigit
  guard (digits ≠ [])
  let n : ℤ := Nat.ofDigitChars 10 digits 0
  let n := if negative then -n else n
  guard (-2 ^ 63 ≤ n ∧ n < 2 ^ 63)
  return n

end Text

end Moltbunker.Lib
