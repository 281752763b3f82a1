import Tenbox.Bytes

/-!
`EncodeHex` and `DecodeHex` of runtime/runtime_service.cpp, the codec that carries
console bytes in `console.data` events and `console.input` requests. A
`std::string` is a list of characters. `DecodeHex` gives up with an empty vector on
an odd length or on the first pair holding a non-digit, so `decodePairs` returns
`none` there and the caller maps it to the empty result.
-/

namespace Tenbox

def kDigits : List Char := "0123456789abcdef".toList

def encodeHex (data : Bytes) : String :=
  String.mk (data.flatMap fun byte =>
    [kDigits.getD ((byte >>> 4) &&& 0x0F).toNat '0', kDigits.getD (byte &&& 0x0F).toNat '0'])

-- The `hex` lambda of `DecodeHex`.
def hex (ch : Char) : Int :=
  if '0' ≤ ch ∧ ch ≤ '9' then ch.toNat - '0'.toNat
  else if 'a' ≤ ch ∧ ch ≤ 'f' then 10 + (ch.toNat - 'a'.toNat)
  else if 'A' ≤ ch ∧ ch ≤ 'F' then 10 + (ch.toNat - 'A'.toNat)
  else -1

def decodePairs : List Char → Option Bytes
  | hiCh :: loCh :: rest =>
      let hi := hex hiCh
      let lo := hex loCh
      if hi < 0 ∨ lo < 0 then none
      else (BitVec.ofNat 8 ((hi.toNat <<< 4) ||| lo.toNat) :: ·) <$> decodePairs rest
  | _ => some []

def decodeHex (value : String) : Bytes :=
  if value.length % 2 ≠ 0 then [] else (decodePairs value.toList).getD []

def isHexDigit (ch : Char) : Bool :=
  ('0' ≤ ch ∧ ch ≤ '9') ∨ ('a' ≤ ch ∧ ch ≤ 'f') ∨ ('A' ≤ ch ∧ ch ≤ 'F')

def HexValid (value : String) : Prop := value.length % 2 = 0 ∧ ∀ ch ∈ value.toList, isHexDigit ch

instance (value : String) : Decidable (HexValid value) := inferInstanceAs (Decidable (_ ∧ _))

-- The byte a valid pair of digits stands for.
def hexByte (hi lo : Char) : BitVec 8 := BitVec.ofNat 8 (16 * (hex hi).toNat + (hex lo).toNat)

section Digits

theorem hex_kDigits : ∀ n < 16, hex (kDigits.getD n '0') = n := by decide

theorem kDigits_hex : ∀ n < 128, isHexDigit (Char.ofNat n) →
    kDigits.getD (hex (Char.ofNat n)).toNat '0' = (Char.ofNat n).toLower := by decide

theorem shiftLeft_or_digit : ∀ hi < 16, ∀ lo < 16, hi <<< 4 ||| lo = 16 * hi + lo := by decide

theorem toNat_highNibble (byte : BitVec 8) : ((byte >>> 4) &&& 0x0F).toNat = byte.toNat / 16 := by
  have := byte.isLt
  rw [BitVec.toNat_and, BitVec.toNat_ushiftRight, show (0x0F : BitVec 8).toNat = 2 ^ 4 - 1 from rfl,
    Nat.and_pow_two_sub_one_eq_mod, Nat.shiftRight_eq_div_pow]
  omega

theorem toNat_lowNibble (byte : BitVec 8) : (byte &&& 0x0F).toNat = byte.toNat % 16 := by
  rw [BitVec.toNat_and, show (0x0F : BitVec 8).toNat = 2 ^ 4 - 1 from rfl, Nat.and_pow_two_sub_one_eq_mod]

theorem char_le_iff (a b : Char) : a ≤ b ↔ a.toNat ≤ b.toNat := by
  simp [Char.le_def, UInt32.le_def, BitVec.le_def, Char.toNat, UInt32.toNat]

theorem toNat_digitBounds :
    '0'.toNat = 48 ∧ '9'.toNat = 57 ∧ 'a'.toNat = 97 ∧ 'f'.toNat = 102 ∧ 'A'.toNat = 65 ∧ 'F'.toNat = 70 := by
  decide

theorem hex_of_isHexDigit {ch : Char} (valid : isHexDigit ch = true) :
    0 ≤ hex ch ∧ hex ch < 16 ∧ ch.toNat < 128 := by
  obtain ⟨zero, nine, a, f, capitalA, capitalF⟩ := toNat_digitBounds
  simp only [isHexDigit, char_le_iff, Bool.or_eq_true, decide_eq_true_eq, zero, nine, a, f, capitalA,
    capitalF] at valid
  unfold hex
  simp only [char_le_iff, zero, nine, a, f, capitalA, capitalF]
  split_ifs <;> omega

theorem hex_of_not_isHexDigit {ch : Char} (invalid : isHexDigit ch = false) : hex ch < 0 := by
  simp only [isHexDigit, char_le_iff, decide_eq_false_iff_not, not_or, not_and_or, not_le] at invalid
  simp only [hex, char_le_iff]
  rw [if_neg (by omega), if_neg (by omega), if_neg (by omega)]
  decide

theorem kDigits_mem : ∀ n < 16, kDigits.getD n '0' ∈ kDigits := by decide

-- A valid pair decodes to the byte whose nibbles are the two digits' values.
theorem toNat_hexByte {hi lo : Char} (hiValid : isHexDigit hi) (loValid : isHexDigit lo) :
    (hexByte hi lo).toNat = 16 * (hex hi).toNat + (hex lo).toNat := by
  have := hex_of_isHexDigit hiValid
  have := hex_of_isHexDigit loValid
  rw [hexByte, BitVec.toNat_ofNat]
  omega

theorem digit_hex {ch : Char} (valid : isHexDigit ch) : kDigits.getD (hex ch).toNat '0' = ch.toLower := by
  have below := (hex_of_isHexDigit valid).2.2
  have := kDigits_hex ch.toNat below
  rw [Char.ofNat_toNat] at this
  exact this valid

end Digits

section Codec

theorem toList_encodeHex (data : Bytes) :
    (encodeHex data).toList = data.flatMap fun byte =>
      [kDigits.getD ((byte >>> 4) &&& 0x0F).toNat '0', kDigits.getD (byte &&& 0x0F).toNat '0'] := rfl

theorem length_encodeHex (data : Bytes) : (encodeHex data).length = 2 * data.length := by
  show (encodeHex data).toList.length = _
  induction data with
  | nil => rfl
  | cons byte rest ih =>
      simp only [toList_encodeHex, List.flatMap_cons, List.length_append, List.length_cons,
        List.length_nil] at ih ⊢
      omega

theorem mem_encodeHex {data : Bytes} {ch : Char} (mem : ch ∈ (encodeHex data).toList) : ch ∈ kDigits := by
  simp only [toList_encodeHex, List.mem_flatMap, List.mem_cons, List.mem_singleton,
    List.not_mem_nil, or_false] at mem
  obtain ⟨byte, -, same | same⟩ := mem <;> subst same
  · rw [toNat_highNibble]
    exact kDigits_mem _ (by omega)
  · rw [toNat_lowNibble]
    exact kDigits_mem _ (by omega)

theorem decodePairs_encodeHex (data : Bytes) : decodePairs (encodeHex data).toList = some data := by
  induction data with
  | nil => rfl
  | cons byte rest ih =>
      have below := byte.isLt
      rw [toList_encodeHex] at ih ⊢
      simp only [List.flatMap_cons, List.cons_append, List.nil_append]
      rw [toNat_highNibble, toNat_lowNibble, decodePairs, ih, hex_kDigits _ (by omega),
        hex_kDigits _ (by omega), if_neg (by omega), Int.toNat_ofNat, Int.toNat_ofNat,
        shiftLeft_or_digit _ (by omega) _ (by omega), Nat.div_add_mod, BitVec.ofNat_toNat,
        BitVec.setWidth_eq]
      rfl

-- The bytes a string of digit pairs stands for, the `i`-th from characters `2i` and `2i+1`.
def pairBytes (chars : List Char) : Bytes :=
  (List.range (chars.length / 2)).map fun i => hexByte (chars.getD (2 * i) ' ') (chars.getD (2 * i + 1) ' ')

theorem pairBytes_cons_cons (hi lo : Char) (rest : List Char) :
    pairBytes (hi :: lo :: rest) = hexByte hi lo :: pairBytes rest := by
  rw [pairBytes, pairBytes, List.length_cons, List.length_cons,
    show (rest.length + 1 + 1) / 2 = rest.length / 2 + 1 by omega, List.range_succ_eq_map]
  simp only [List.map_cons, List.map_map]
  rfl

theorem decodePairs_of_valid {hi lo : Char} (rest : List Char) (hiValid : isHexDigit hi)
    (loValid : isHexDigit lo) :
    decodePairs (hi :: lo :: rest) = (hexByte hi lo :: ·) <$> decodePairs rest := by
  have := hex_of_isHexDigit hiValid
  have := hex_of_isHexDigit loValid
  rw [decodePairs, if_neg (by omega), hexByte, ← shiftLeft_or_digit _ (by omega) _ (by omega)]

theorem decodePairs_of_invalid {hi lo : Char} (rest : List Char)
    (invalid : ¬(isHexDigit hi ∧ isHexDigit lo)) : decodePairs (hi :: lo :: rest) = none := by
  rw [decodePairs, if_pos]
  cases hiValid : isHexDigit hi
  · exact Or.inl (hex_of_not_isHexDigit hiValid)
  · exact Or.inr (hex_of_not_isHexDigit (by simpa [hiValid] using invalid))

-- On an even number of characters the pairwise loop either fails or decodes every pair.
theorem decodePairs_eq : ∀ chars : List Char, chars.length % 2 = 0 →
    decodePairs chars = if ∀ ch ∈ chars, isHexDigit ch then some (pairBytes chars) else none
  | [], _ => rfl
  | [_], odd => by simp at odd
  | hi :: lo :: rest, even => by
      have restEven : rest.length % 2 = 0 := by simp only [List.length_cons] at even; omega
      by_cases pair : isHexDigit hi ∧ isHexDigit lo
      · rw [decodePairs_of_valid rest pair.1 pair.2, decodePairs_eq rest restEven, pairBytes_cons_cons]
        by_cases restValid : ∀ ch ∈ rest, isHexDigit ch <;> simp [pair, restValid]
      · rw [decodePairs_of_invalid rest pair, if_neg]
        simp only [List.forall_mem_cons]
        tauto

theorem encodeHex_pairBytes : ∀ chars : List Char, chars.length % 2 = 0 → (∀ ch ∈ chars, isHexDigit ch) →
    (encodeHex (pairBytes chars)).toList = chars.map Char.toLower
  | [], _, _ => rfl
  | [_], odd, _ => by simp at odd
  | hi :: lo :: rest, even, valid => by
      have restEven : rest.length % 2 = 0 := by simp only [List.length_cons] at even; omega
      simp only [List.forall_mem_cons] at valid
      have hiBound := hex_of_isHexDigit valid.1
      have loBound := hex_of_isHexDigit valid.2.1
      have ih := encodeHex_pairBytes rest restEven valid.2.2
      rw [toList_encodeHex] at ih
      rw [pairBytes_cons_cons, toList_encodeHex, List.flatMap_cons, ih, toNat_highNibble, toNat_lowNibble,
        toNat_hexByte valid.1 valid.2.1, show (16 * (hex hi).toNat + (hex lo).toNat) / 16 = (hex hi).toNat by omega,
        show (16 * (hex hi).toNat + (hex lo).toNat) % 16 = (hex lo).toNat by omega, digit_hex valid.1,
        digit_hex valid.2.1]
      rfl

theorem decodeHex_eq (value : String) :
    decodeHex value = if HexValid value then pairBytes value.toList else [] := by
  rw [decodeHex]
  by_cases even : value.length % 2 = 0
  · rw [if_neg (not_not.mpr even), decodePairs_eq value.toList even]
    by_cases valid : ∀ ch ∈ value.toList, isHexDigit ch
    · rw [if_pos valid, if_pos ⟨even, valid⟩]
      rfl
    · rw [if_neg valid, if_neg (fun hexValid => valid hexValid.2)]
      rfl
  · rw [if_pos even, if_neg (fun hexValid => even hexValid.1)]

-- A bad digit in a later pair discards the pairs already decoded.
example : decodeHex "0aFf" = [0x0a, 0xff] ∧ decodeHex "0aZf" = [] := by decide

theorem decodeHex_encodeHex (data : Bytes) : decodeHex (encodeHex data) = data := by
  rw [decodeHex, length_encodeHex, if_neg (by omega), decodePairs_encodeHex]
  rfl

theorem encodeHex_decodeHex {value : String} (valid : HexValid value) :
    encodeHex (decodeHex value) = String.mk (value.toList.map Char.toLower) := by
  rw [decodeHex_eq, if_pos valid]
  exact congrArg String.mk (encodeHex_pairBytes value.toList valid.1 valid.2)

end Codec

/-- `EncodeHex` writes two lower-case digits per byte and `DecodeHex` undoes it; `DecodeHex`
accepts exactly the even-length all-digit strings, decodes those pair by pair, and returns
nothing else. -/
theorem hex_codec_round_trips :
    (∀ data : Bytes, (encodeHex data).length = 2 * data.length ∧
      (∀ ch ∈ (encodeHex data).toList, ch ∈ kDigits) ∧ decodeHex (encodeHex data) = data) ∧
    (∀ value : String, decodeHex value =
      if HexValid value then
        (List.range (value.length / 2)).map fun i =>
          hexByte (value.toList.getD (2 * i) ' ') (value.toList.getD (2 * i + 1) ' ')
      else []) ∧
    (∀ value : String, HexValid value → encodeHex (decodeHex value) = String.mk (value.toList.map Char.toLower)) := by
  refine ⟨fun data => ⟨length_encodeHex data, fun _ => mem_encodeHex, ?_⟩, decodeHex_eq,
    fun _ => encodeHex_decodeHex⟩
  rw [decodeHex, length_encodeHex, if_neg (by omega), decodePairs_encodeHex]
  rfl

end Tenbox
