import Moltbunker.Contracts.Escrow.Ledger
import Moltbunker.Lib.Text

/-!
# Errors of the escrow client

`internal/payment/escrow_errors.go` decides from an error of a transaction whether the reservation
is over. A node reports a revert with the encoded error of the contract, or only as a message.
`IsAlreadyTerminalEscrowErr` decodes the former, and searches the latter for a few phrases.

The encoding is go-ethereum's: `Abi` has its functions as fields, and `Abi.Lawful` says what is used
of them.

* `isAlreadyTerminal_typed` — an encoded error of the contract that decodes is classified by the
  status that the contract saw;
* `not_isAlreadyTerminal` — a message without the letter `l`, which all phrases have, is not
  accepted.
-/

namespace Moltbunker.Payment

open Lib
open Contracts.Escrow

/-! ## Errors -/

/-- What `ErrorData` of an `rpc.DataError` returns. -/
inductive ErrorData where
  | str (s : Text)
  | bytes (b : List UInt8)
  | other
  deriving DecidableEq

/-- An error: its message, and the data of the `rpc.DataError` in its chain. -/
structure Err where
  message : Text
  data : Option ErrorData
  deriving DecidableEq

/-- `fmt.Errorf("..: %w", err)` -/
def Err.wrap (context : Text) (err : Err) : Err := { err with message := context ++ err.message }

/-! ## The encoding of errors -/

/-- The errors in `EscrowContractABI`. -/
inductive AbiError where
  | invalidReservation
  | invalidStatus
  deriving DecidableEq

/-- A decoded argument. -/
inductive AbiValue where
  | uint256 (n : ℕ)
  | uint8 (n : ℕ)
  deriving DecidableEq

/-- The functions of go-ethereum. -/
structure Abi where
  /-- the error data of a revert -/
  encode : Revert EscrowError → List UInt8
  /-- `hexutil.Decode` -/
  decodeHex : Text → Option (List UInt8)
  /-- `ErrorByID` of the first four bytes -/
  errorByID : List UInt8 → Option AbiError
  /-- `Unpack` of an error -/
  unpack : List UInt8 → Option (List AbiValue)

/-- `uint8(status)` -/
def statusCode : Status → ℕ
  | .none => 0
  | .created => 1
  | .active => 2
  | .completed => 3
  | .refunded => 4
  | .disputed => 5

/-- The states that are over, by their numbers. -/
def terminalCode (n : ℕ) : Bool := n == 3 || n == 4 || n == 5

/-- What is used of the encoding: an `InvalidStatus` is decoded to its arguments, and no other error
is taken for one. -/
structure Abi.Lawful (abi : Abi) : Prop where
  errorByID_status (id : ℕ) (expected actual : Status) :
    abi.errorByID (abi.encode (.error (.invalidStatus id expected actual))) = some .invalidStatus
  unpack_status (id : ℕ) (expected actual : Status) :
    abi.unpack (abi.encode (.error (.invalidStatus id expected actual))) =
      some [.uint256 id, .uint8 (statusCode expected), .uint8 (statusCode actual)]
  errorByID_other (e : Revert EscrowError)
    (he : ∀ id expected actual, e ≠ .error (.invalidStatus id expected actual)) :
    abi.errorByID (abi.encode e) ≠ some .invalidStatus

variable (abi : Abi)

/-- `extractRevertData` -/
def extractRevertData (err : Err) : Option (List UInt8) :=
  match err.data with
  | some (.str s) => (abi.decodeHex s).filter fun b => 4 ≤ b.length
  | some (.bytes b) => if b.length < 4 then none else some b
  | some .other => none
  | none => none

/-- `isTerminalStatusRevert`; `none` if the data is not recognized. -/
def isTerminalStatusRevert (data : List UInt8) : Option Bool :=
  if data.length < 4 then none
  else match abi.errorByID data with
    | none => none
    | some .invalidReservation => some false
    | some .invalidStatus =>
      match abi.unpack data with
      | none => none
      | some [_, _, .uint8 actual] => some (terminalCode actual)
      | some _ => some false

/-- `unicode.ToLower`, as far as the result is an ASCII letter: two letters outside of ASCII have
one. -/
def lower (c : Char) : Char :=
  if c = '\u0130' then 'i' else if c = '\u212a' then 'k' else c.toLower

/-- The phrases of the fallback. -/
def terminalPhrases : List Text :=
  [text "reservation already finalized", text "reservation already completed",
    text "reservation already refunded", text "already finalized", text "invalidstatus"]

/-- The fallback: the message contains one of the phrases. -/
def saysTerminal (message : Text) : Prop :=
  ∃ phrase ∈ terminalPhrases, phrase <:+: message.map lower

instance (message : Text) : Decidable (saysTerminal message) :=
  inferInstanceAs (Decidable (∃ phrase ∈ terminalPhrases, phrase <:+: message.map lower))

/-- What the data of an error says, if it has data that is recognized. -/
def decodedTerminal (err : Err) : Option Bool :=
  (extractRevertData abi err).bind (isTerminalStatusRevert abi)

/-- `IsAlreadyTerminalEscrowErr`, of an error that is not `nil`. -/
def isAlreadyTerminalEscrowErr (err : Err) : Bool :=
  (decodedTerminal abi err).getD (saysTerminal err.message)

/-! ## What is accepted -/

variable {abi} {message : Text}

lemma terminalCode_statusCode {status : Status} (h : terminalCode (statusCode status) = true) :
    status.Terminal := by
  cases status with
  | none | created | active => exact absurd h (by decide)
  | completed => exact .inl rfl
  | refunded => exact .inr (.inl rfl)
  | disputed => exact .inr (.inr rfl)

/-- **Typed data.** An encoded error of the contract that is taken for the end of a reservation is
`InvalidStatus`, and the status that the contract saw is terminal. -/
theorem isAlreadyTerminal_typed (hl : abi.Lawful) {e : Revert EscrowError}
    (h : isTerminalStatusRevert abi (abi.encode e) = some true) :
    ∃ id expected actual, e = .error (.invalidStatus id expected actual) ∧ actual.Terminal := by
  by_cases he : ∃ id expected actual, e = .error (.invalidStatus id expected actual)
  · obtain ⟨id, expected, actual, rfl⟩ := he
    refine ⟨id, expected, actual, rfl, terminalCode_statusCode ?_⟩
    unfold isTerminalStatusRevert at h
    split at h
    · cases h
    · simp only [hl.errorByID_status, hl.unpack_status] at h
      exact Option.some.inj h
  · have hother := hl.errorByID_other e fun id expected actual heq =>
      he ⟨id, expected, actual, heq⟩
    unfold isTerminalStatusRevert at h
    split at h
    · cases h
    · split at h
      · cases h
      · exact absurd (Option.some.inj h) Bool.false_ne_true
      · next hstatus => exact absurd hstatus hother

/-- Every phrase has the letter `l`. -/
lemma mem_of_saysTerminal (h : saysTerminal message) : 'l' ∈ message.map lower := by
  have hall : ∀ phrase ∈ terminalPhrases, 'l' ∈ phrase := by decide
  obtain ⟨phrase, hmem, hinfix⟩ := h
  exact hinfix.subset (hall phrase hmem)

/-- A message without data and without the letter `l` is not accepted. -/
lemma not_isAlreadyTerminal (h : 'l' ∉ message.map lower) :
    isAlreadyTerminalEscrowErr abi ⟨message, none⟩ = false :=
  decide_eq_false fun hterminal => h (mem_of_saysTerminal hterminal)

end Moltbunker.Payment
