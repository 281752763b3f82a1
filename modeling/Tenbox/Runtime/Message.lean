import Tenbox.Bytes

/-!
The control-pipe messages of runtime/runtime_service.cpp and the C library's `strtoull`,
which reads their `payload_size` field.

Modelled from the spec: `ipc::Message` is declared in a header the source tree lacks.
The spec's data model gives its members (kind, channel, type, vm_id, request_id, an
ordered string map of fields and a binary payload); the field map is an `AList`, a map
with one value per key, as a `std::map` is.

`strtoull(s, nullptr, 10)` follows the C standard in the "C" locale: leading white space
is skipped, one sign is read, then the longest run of decimal digits; no digits gives 0,
a value above `ULLONG_MAX` gives `ULLONG_MAX`, and a minus sign negates modulo `2 ^ 64`.
-/

namespace Tenbox.Runtime

inductive MessageKind where
  | request
  | response
  | event
  deriving DecidableEq, Repr

inductive Channel where
  | control
  | console
  | input
  | display
  deriving DecidableEq, Repr

abbrev Fields := AList fun _ : String => String

structure Message where
  kind : MessageKind
  channel : Channel
  type : String
  vmId : String
  requestId : BitVec 64
  fields : Fields
  payload : Bytes
  deriving DecidableEq

-- `isspace` in the "C" locale: space, and tab through carriage return.
def isSpace (ch : Char) : Bool := ch.toNat = 32 || (9 ≤ ch.toNat && ch.toNat ≤ 13)

def decimalValue (digits : List Char) : Nat :=
  digits.foldl (fun value digit => 10 * value + (digit.toNat - '0'.toNat)) 0

-- The optional sign after the white space: whether it is a minus, and what follows it.
def readSign : List Char → Bool × List Char
  | ch :: rest => if ch = '-' then (true, rest) else if ch = '+' then (false, rest) else (false, ch :: rest)
  | [] => (false, [])

def strtoull (value : String) : Nat :=
  let signed := readSign (value.toList.dropWhile isSpace)
  let parsed := decimalValue (signed.2.takeWhile Char.isDigit)
  if 2 ^ 64 ≤ parsed then 2 ^ 64 - 1
  else if signed.1 then (2 ^ 64 - parsed) % 2 ^ 64
  else parsed

example : strtoull " +42x" = 42 ∧ strtoull "-1" = 2 ^ 64 - 1 ∧ strtoull "abc" = 0 := by decide

section Decimal

theorem digitChar_spec : ∀ d < 10, (Nat.digitChar d).isDigit ∧ (Nat.digitChar d).toNat - '0'.toNat = d := by
  decide

-- Printing `n` in decimal in front of `digits` and reading the whole back gives what
-- reading `digits` after `n` gives.
theorem foldl_toDigitsCore (fuel n : Nat) (digits : List Char) (enough : n < fuel) :
    (Nat.toDigitsCore 10 fuel n digits).foldl (fun value digit => 10 * value + (digit.toNat - '0'.toNat)) 0 =
      digits.foldl (fun value digit => 10 * value + (digit.toNat - '0'.toNat)) n := by
  induction fuel generalizing n digits with
  | zero => omega
  | succ fuel ih =>
      obtain ⟨-, value⟩ := digitChar_spec (n % 10) (Nat.mod_lt _ (by decide))
      rw [Nat.toDigitsCore]
      split
      · next last =>
        rw [List.foldl_cons, value]
        congr 1
        omega
      · rw [ih (n / 10) _ (by omega), List.foldl_cons, value, Nat.div_add_mod]

theorem isDigit_toDigitsCore (fuel n : Nat) (digits : List Char) :
    ∀ ch ∈ Nat.toDigitsCore 10 fuel n digits, ch.isDigit ∨ ch ∈ digits := by
  induction fuel generalizing n digits with
  | zero => exact fun ch mem => .inr mem
  | succ fuel ih =>
      have digit := (digitChar_spec (n % 10) (Nat.mod_lt _ (by decide))).1
      intro ch mem
      rw [Nat.toDigitsCore] at mem
      split at mem
      · rcases List.mem_cons.mp mem with rfl | mem
        · exact .inl digit
        · exact .inr mem
      · rcases ih _ _ ch mem with isDigit | mem
        · exact .inl isDigit
        · rcases List.mem_cons.mp mem with rfl | mem
          · exact .inl digit
          · exact .inr mem

theorem bounds_of_isDigit {ch : Char} (digit : ch.isDigit) : 48 ≤ ch.toNat ∧ ch.toNat ≤ 57 := by
  simpa [Char.isDigit, Char.toNat, UInt32.le_def, BitVec.le_def, UInt32.toNat] using digit

-- `strtoull` reads back every `size_t` printed in decimal.
theorem strtoull_toString (n : Nat) (small : n < 2 ^ 64) : strtoull (toString n) = n := by
  have digits := isDigit_toDigitsCore (n + 1) n []
  have value := foldl_toDigitsCore (n + 1) n [] (by omega)
  have chars : (toString n).toList = Nat.toDigitsCore 10 (n + 1) n [] := rfl
  generalize Nat.toDigitsCore 10 (n + 1) n [] = printed at digits value chars
  have allDigits : ∀ ch ∈ printed, ch.isDigit := fun ch mem => (digits ch mem).resolve_right (List.not_mem_nil ch)
  have taken : printed.takeWhile Char.isDigit = printed := by
    simpa using @List.takeWhile_append_of_pos _ Char.isDigit printed [] allDigits
  have signed : readSign (printed.dropWhile isSpace) = (false, printed) := by
    cases printed with
    | nil => rfl
    | cons ch rest =>
        have bounds := bounds_of_isDigit (allDigits ch (List.mem_cons_self _ _))
        have notMinus : ch ≠ '-' := fun same => by rw [same] at bounds; revert bounds; decide
        have notPlus : ch ≠ '+' := fun same => by rw [same] at bounds; revert bounds; decide
        rw [List.dropWhile_cons, if_neg (by simp [isSpace]; omega), readSign, if_neg notMinus, if_neg notPlus]
  have decimal : decimalValue printed = n := value
  simp only [strtoull, chars, signed, taken, decimal, if_neg (Nat.not_le.mpr small)]
  rfl

end Decimal

end Tenbox.Runtime
