import Mathlib

/-!
Byte strings as the C++ sources handle them. A `std::vector<uint8_t>`, a
`std::string` used as a byte buffer and a `const uint8_t*` span are all lists of
`BitVec 8`. A `memcpy` out of a buffer is `readBytes`, which is `none` when the
copied range leaves the buffer: a model whose reads never return `none` reads only
bytes it holds. Multi-byte fields are little-endian, as on the x86 hosts.
-/

namespace Tenbox

abbrev Bytes := List (BitVec 8)

def readBytes (buffer : Bytes) (offset count : Nat) : Option Bytes :=
  if offset + count ≤ buffer.length then some ((buffer.drop offset).take count) else none

def leValue : Bytes → Nat
  | [] => 0
  | byte :: rest => byte.toNat + 256 * leValue rest

def leBytes : Nat → Nat → Bytes
  | 0, _ => []
  | count + 1, value => BitVec.ofNat 8 value :: leBytes count (value / 256)

def u32Bytes (value : BitVec 32) : Bytes := leBytes 4 value.toNat

def u64Bytes (value : BitVec 64) : Bytes := leBytes 8 value.toNat

def readU8 (buffer : Bytes) (offset : Nat) : Option (BitVec 8) :=
  (readBytes buffer offset 1).bind List.head?

def readU32 (buffer : Bytes) (offset : Nat) : Option (BitVec 32) :=
  (readBytes buffer offset 4).map fun bytes => BitVec.ofNat 32 (leValue bytes)

def readU64 (buffer : Bytes) (offset : Nat) : Option (BitVec 64) :=
  (readBytes buffer offset 8).map fun bytes => BitVec.ofNat 64 (leValue bytes)

-- A `memcpy` of `count` consecutive 32-bit words.
def readU32s (buffer : Bytes) (offset : Nat) : Nat → Option (List (BitVec 32))
  | 0 => some []
  | count + 1 => do
      let word ← readU32 buffer offset
      let rest ← readU32s buffer (offset + 4) count
      pure (word :: rest)

def wordBytes (words : List (BitVec 32)) : Bytes := words.flatMap u32Bytes

-- A `do` block whose every step succeeds succeeds.
theorem isSome_bind_of {α β : Type} {x : Option α} {f : α → Option β} (first : x.isSome)
    (next : ∀ a, x = some a → (f a).isSome) : (x >>= f).isSome := by
  obtain ⟨a, ha⟩ := Option.isSome_iff_exists.mp first
  rw [ha]
  exact next a ha

section Reads
variable {buffer rest : Bytes} {offset count : Nat}

theorem readBytes_of_le (fits : offset + count ≤ buffer.length) :
    readBytes buffer offset count = some ((buffer.drop offset).take count) := by
  simp [readBytes, fits]

theorem readBytes_isSome : (readBytes buffer offset count).isSome ↔ offset + count ≤ buffer.length := by
  unfold readBytes
  split <;> simp_all

@[simp] theorem length_of_readBytes {span : Bytes} (read : readBytes buffer offset count = some span) :
    span.length = count := by
  unfold readBytes at read
  split at read
  · cases read
    simp only [List.length_take, List.length_drop]
    omega
  · cases read

-- A read that fits in a buffer sees the same bytes once more bytes are appended.
theorem readBytes_append (fits : offset + count ≤ buffer.length) :
    readBytes (buffer ++ rest) offset count = readBytes buffer offset count := by
  rw [readBytes_of_le fits, readBytes_of_le (by simp; omega),
    List.drop_append_of_le_length (by omega), List.take_append_of_le_length (by simp; omega)]

theorem readBytes_prefix (buffer span rest : Bytes) :
    readBytes (buffer ++ span ++ rest) buffer.length span.length = some span := by
  rw [readBytes_of_le (by simp)]
  simp

theorem readU8_append (fits : offset + 1 ≤ buffer.length) :
    readU8 (buffer ++ rest) offset = readU8 buffer offset := by
  rw [readU8, readU8, readBytes_append fits]

theorem readU32_append (fits : offset + 4 ≤ buffer.length) :
    readU32 (buffer ++ rest) offset = readU32 buffer offset := by
  rw [readU32, readU32, readBytes_append fits]

theorem readU64_append (fits : offset + 8 ≤ buffer.length) :
    readU64 (buffer ++ rest) offset = readU64 buffer offset := by
  rw [readU64, readU64, readBytes_append fits]

theorem readU8_isSome (fits : offset + 1 ≤ buffer.length) : (readU8 buffer offset).isSome := by
  rw [readU8, readBytes_of_le fits]
  cases h : (buffer.drop offset).take 1 with
  | nil => simp at h; omega
  | cons byte tail => simp

theorem readU32_isSome (fits : offset + 4 ≤ buffer.length) : (readU32 buffer offset).isSome := by
  simp [readU32, readBytes_of_le fits]

theorem readU64_isSome (fits : offset + 8 ≤ buffer.length) : (readU64 buffer offset).isSome := by
  simp [readU64, readBytes_of_le fits]

theorem readU32s_isSome (count : Nat) (fits : offset + 4 * count ≤ buffer.length) :
    (readU32s buffer offset count).isSome := by
  induction count generalizing offset with
  | zero => rfl
  | succ count ih =>
      obtain ⟨word, hword⟩ := Option.isSome_iff_exists.mp
        (readU32_isSome (show offset + 4 ≤ buffer.length by omega))
      obtain ⟨words, hwords⟩ := Option.isSome_iff_exists.mp
        (ih (show offset + 4 + 4 * count ≤ buffer.length by omega))
      simp [readU32s, hword, hwords]

theorem readU32s_append (count : Nat) (fits : offset + 4 * count ≤ buffer.length) :
    readU32s (buffer ++ rest) offset count = readU32s buffer offset count := by
  induction count generalizing offset with
  | zero => rfl
  | succ count ih => rw [readU32s, readU32s, readU32_append (by omega), ih (by omega)]

end Reads

section Codec

theorem length_leBytes (count value : Nat) : (leBytes count value).length = count := by
  induction count generalizing value with
  | zero => rfl
  | succ count ih => simp [leBytes, ih]

theorem leValue_leBytes (count value : Nat) : leValue (leBytes count value) = value % 256 ^ count := by
  induction count generalizing value with
  | zero => simp [leBytes, leValue, Nat.mod_one]
  | succ count ih =>
      simp only [leBytes, leValue, ih, BitVec.toNat_ofNat]
      rw [show 256 ^ (count + 1) = 256 * 256 ^ count from Nat.pow_succ', Nat.mod_mul]

@[simp] theorem length_u32Bytes (value : BitVec 32) : (u32Bytes value).length = 4 :=
  length_leBytes 4 _

@[simp] theorem length_u64Bytes (value : BitVec 64) : (u64Bytes value).length = 8 :=
  length_leBytes 8 _

@[simp] theorem length_wordBytes (words : List (BitVec 32)) :
    (wordBytes words).length = 4 * words.length := by
  induction words with
  | nil => rfl
  | cons word rest ih => simp [wordBytes] at ih ⊢; omega

theorem readU8_cons (byte : BitVec 8) (rest : Bytes) : readU8 (byte :: rest) 0 = some byte := by
  simp [readU8, readBytes_of_le]

theorem readU32_u32Bytes (buffer rest : Bytes) (value : BitVec 32) :
    readU32 (buffer ++ u32Bytes value ++ rest) buffer.length = some value := by
  have span := readBytes_prefix buffer (u32Bytes value) rest
  simp only [length_u32Bytes] at span
  rw [readU32, span, Option.map_some', u32Bytes, leValue_leBytes]
  congr 1
  apply BitVec.eq_of_toNat_eq
  simp [Nat.mod_eq_of_lt value.isLt]

theorem readU64_u64Bytes (buffer rest : Bytes) (value : BitVec 64) :
    readU64 (buffer ++ u64Bytes value ++ rest) buffer.length = some value := by
  have span := readBytes_prefix buffer (u64Bytes value) rest
  simp only [length_u64Bytes] at span
  rw [readU64, span, Option.map_some', u64Bytes, leValue_leBytes]
  congr 1
  apply BitVec.eq_of_toNat_eq
  simp [Nat.mod_eq_of_lt value.isLt]

theorem readU32s_wordBytes (buffer rest : Bytes) (words : List (BitVec 32)) :
    readU32s (buffer ++ wordBytes words ++ rest) buffer.length words.length = some words := by
  induction words generalizing buffer with
  | nil => rfl
  | cons word tail ih =>
      have next := ih (buffer ++ u32Bytes word)
      have head := readU32_u32Bytes buffer (wordBytes tail ++ rest) word
      simp only [wordBytes, List.flatMap_cons, List.length_append, length_u32Bytes,
        List.append_assoc] at next head ⊢
      simp [readU32s, head, next]

end Codec

end Tenbox
