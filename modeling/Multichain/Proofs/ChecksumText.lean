import Mathlib
import Multichain.Proofs.AddressForms

/-!
Checksummed texts. A digest of the digits says which of the letters are in upper case, and nothing
else is changed, so that the bytes can be read back from the text. Main statements: `decode_recased`,
`checksumText?_recased`.
-/

set_option autoImplicit false

namespace Multichain

namespace Hex

theorem exists_value_of_mem (bytes : Bytes) (char : Char) (member : char ∈ encodeChars bytes) :
    ∃ value < 16, char = Text.hexDigit value := by
  have all : digits = (List.range 16).map Text.hexDigit := by decide
  have digit := mem_digits_of_mem_encode bytes char (by simpa [encode] using member)
  rw [all] at digit
  obtain ⟨value, small, rfl⟩ := List.mem_map.mp digit
  exact ⟨value, List.mem_range.mp small, rfl⟩

theorem toLower_cases (char : Char) :
    char.toLower = char ∨ ∃ letter < 26, char = Char.ofNat (65 + letter) := by
  rw [Char.toLower]
  split_ifs with upper
  · have least : 65 ≤ char.toNat := upper.1
    have most : char.toNat ≤ 90 := upper.2
    refine .inr ⟨char.toNat - 65, by omega, ?_⟩
    rw [Nat.add_sub_cancel' least, Char.ofNat_toNat]
  · exact .inl rfl

theorem digit_recased (char : Char) (value : Nat) (small : value < 16)
    (same : char.toLower = Text.hexDigit value) :
    char.toNat < 128 ∧ digitValue? (UInt8.ofNat char.toNat) = some value := by
  have lower : ∀ value < 16, (Text.hexDigit value).toNat < 128 ∧
      digitValue? (UInt8.ofNat (Text.hexDigit value).toNat) = some value := by decide
  have upper : ∀ letter < 26, ∀ value < 16,
      (Char.ofNat (65 + letter)).toLower = Text.hexDigit value →
        (Char.ofNat (65 + letter)).toNat < 128 ∧
          digitValue? (UInt8.ofNat (Char.ofNat (65 + letter)).toNat) = some value := by
    decide +kernel
  cases toLower_cases char with
  | inl settled =>
    rw [← settled, same]
    exact lower value small
  | inr capital =>
    obtain ⟨letter, listed, rfl⟩ := capital
    exact upper letter listed value small same

theorem decodeFrom_recased (bytes : Bytes) (chars : List Char) (position : Nat)
    (same : chars.map Char.toLower = encodeChars bytes) :
    decodeFrom position (chars.map fun char => UInt8.ofNat char.toNat) = .ok bytes := by
  induction bytes generalizing chars position with
  | nil =>
    obtain rfl : chars = [] := List.map_eq_nil_iff.mp same
    rfl
  | cons byte rest ih =>
    have size := byte.toNat_lt
    have split : encodeChars (byte :: rest) =
      Text.hexDigit (byte.toNat / 16) :: Text.hexDigit (byte.toNat % 16) :: encodeChars rest := rfl
    rw [split] at same
    obtain ⟨high, others, rfl, first, same⟩ := List.map_eq_cons_iff.mp same
    obtain ⟨low, others, rfl, second, same⟩ := List.map_eq_cons_iff.mp same
    obtain ⟨-, high⟩ := digit_recased high (byte.toNat / 16) (by omega) first
    obtain ⟨-, low⟩ := digit_recased low (byte.toNat % 16) (by omega) second
    have joined : UInt8.ofNat (byte.toNat / 16 * 16 + byte.toNat % 16) = byte := by
      rw [Nat.div_add_mod', UInt8.ofNat_toNat]
    simp only [List.map_cons, decodeFrom, digitAt, high, low, ih others (position + 2) same, joined,
      bind, Except.bind, pure, Except.pure]

theorem decode_recased (bytes : Bytes) (text : String) (same : text.toLower = encode bytes) :
    decode text = .ok bytes := by
  have chars : text.toList.map Char.toLower = encodeChars bytes := by
    rw [← String.toList_map, ← String.toLower, same, encode, String.toList_ofList]
  have ascii : ∀ char ∈ text.toList, char.toNat < 128 := by
    intro char member
    have lowered : char.toLower ∈ encodeChars bytes := chars ▸ List.mem_map_of_mem member
    obtain ⟨value, small, same⟩ := exists_value_of_mem bytes _ lowered
    exact (digit_recased char value small same).1
  have even : text.toList.length % 2 ≠ 1 := by
    have length := length_encodeChars bytes
    rw [← chars, List.length_map] at length
    omega
  rw [decode, Bytes.ofText_codes text ascii, List.length_map, if_neg even]
  exact decodeFrom_recased bytes _ 0 chars

end Hex

namespace Evm

def digest (bytes : Bytes) : Bytes :=
  Hash.Keccak256.hash (Bytes.ofText (Hex.encode bytes))

def half (place : Nat) (byte : UInt8) : Nat :=
  if place % 2 = 0 then byte.toNat / 16 else byte.toNat % 16

theorem getElem?_nibbles (bytes : Bytes) (place : Nat) :
    (nibbles bytes)[place]? = bytes[place / 2]?.map (half place) := by
  induction bytes generalizing place with
  | nil => rfl
  | cons byte rest ih =>
    match place with
    | 0 => rfl
    | 1 => rfl
    | place + 2 =>
      have later : (place + 2) / 2 = place / 2 + 1 := by omega
      have same : half (place + 2) = half place := by
        funext byte
        simp [half]
      rw [later, List.getElem?_cons_succ, same, ← ih place]
      rfl

theorem toLower_applyNibble (value nibble : Nat) (small : value < 16) :
    (applyNibble (Text.hexDigit value) nibble).toLower = Text.hexDigit value := by
  have settled : ∀ value < 16, (Text.hexDigit value).toLower = Text.hexDigit value ∧
      (Text.hexDigit value).toUpper.toLower = Text.hexDigit value := by decide
  obtain ⟨lower, upper⟩ := settled value small
  rw [applyNibble]
  split_ifs
  · exact upper
  · exact lower

theorem map_toLower_zipWith (chars : List Char) (nibbles : List Nat)
    (digits : ∀ char ∈ chars, ∃ value < 16, char = Text.hexDigit value)
    (enough : chars.length ≤ nibbles.length) :
    (List.zipWith applyNibble chars nibbles).map Char.toLower = chars := by
  induction chars generalizing nibbles with
  | nil => rfl
  | cons char rest ih =>
    cases nibbles with
    | nil => cases enough
    | cons nibble others =>
      obtain ⟨value, small, rfl⟩ := digits char (by simp)
      rw [List.zipWith_cons_cons, List.map_cons, toLower_applyNibble value nibble small,
        ih others (fun other member => digits other (by simp [member])) (by simpa using enough)]

def checkedDigits (bytes : Bytes) : String :=
  String.ofList (List.zipWith applyNibble (Hex.encodeChars bytes) (nibbles (digest bytes)))

theorem length_digest (bytes : Bytes) : (digest bytes).length = 32 :=
  Hash.Keccak256.length_hash _

theorem length_le_digest_iff (bytes : Bytes) :
    (Hex.encodeChars bytes).length ≤ (nibbles (digest bytes)).length ↔ bytes.length ≤ 32 := by
  rw [Hex.length_encodeChars, length_nibbles, length_digest]
  omega

theorem checksumText?_eq_some_iff (bytes : Bytes) (text : String) :
    checksumText? bytes = some text ↔ bytes.length ≤ 32 ∧ "0x" ++ checkedDigits bytes = text := by
  have chars : checksumChars? bytes =
      applyNibbles (Hex.encodeChars bytes) (nibbles (digest bytes)) := rfl
  have marked (digits : List Char) :
      String.ofList ('0' :: 'x' :: digits) = "0x" ++ String.ofList digits := by
    rw [← String.toList_inj]
    simp
  simp only [checksumText?, chars, Option.map_eq_some_iff, applyNibbles_eq_some_iff,
    length_le_digest_iff, marked, and_assoc, exists_and_left, exists_eq_left', checkedDigits]

theorem toLower_checkedDigits (bytes : Bytes) (short : bytes.length ≤ 32) :
    (checkedDigits bytes).toLower = Hex.encode bytes := by
  have enough := (length_le_digest_iff bytes).mpr short
  rw [← String.toList_inj, String.toLower, String.toList_map, checkedDigits, String.toList_ofList,
    Hex.encode, String.toList_ofList,
    map_toLower_zipWith _ _ (Hex.exists_value_of_mem bytes) enough]

theorem decode_checkedDigits (bytes : Bytes) (short : bytes.length ≤ 32) :
    Hex.decode (checkedDigits bytes) = .ok bytes :=
  Hex.decode_recased bytes _ (toLower_checkedDigits bytes short)

theorem getElem?_checkedDigits (bytes : Bytes) (place : Nat) (short : bytes.length ≤ 32)
    (inside : place < 2 * bytes.length) :
    ∃ digit byte, (Hex.encode bytes).toList[place]? = some digit ∧
      (digest bytes)[place / 2]? = some byte ∧
      (checkedDigits bytes).toList[place]? = some (applyNibble digit (half place byte)) := by
  have digits : place < (Hex.encodeChars bytes).length := by rwa [Hex.length_encodeChars]
  have halves : place / 2 < (digest bytes).length := by
    rw [length_digest]
    omega
  obtain ⟨digit, own⟩ : ∃ digit, (Hex.encodeChars bytes)[place]? = some digit :=
    ⟨_, List.getElem?_eq_getElem digits⟩
  obtain ⟨byte, found⟩ : ∃ byte, (digest bytes)[place / 2]? = some byte :=
    ⟨_, List.getElem?_eq_getElem halves⟩
  refine ⟨digit, byte, ?_, found, ?_⟩
  · rwa [Hex.encode, String.toList_ofList]
  · simp only [checkedDigits, String.toList_ofList, List.getElem?_zipWith, getElem?_nibbles, own,
      found, Option.map_some]

theorem checksumText?_recased (bytes : Bytes) :
    (32 < bytes.length → checksumText? bytes = none ∧
      ∃ place < 2 * bytes.length, (digest bytes)[place / 2]? = none) ∧
    (bytes.length ≤ 32 → ∃ digits, checksumText? bytes = some ("0x" ++ digits) ∧
      digits.length = 2 * bytes.length ∧ digits.toLower = Hex.encode bytes ∧
      Hex.decode digits = .ok bytes ∧
      (∀ place < 2 * bytes.length, ∃ digit byte, (Hex.encode bytes).toList[place]? = some digit ∧
        (digest bytes)[place / 2]? = some byte ∧
        digits.toList[place]? = some (applyNibble digit (half place byte))) ∧
      ∀ other, checksumText? other = some ("0x" ++ digits) → other = bytes) := by
  constructor
  · intro long
    constructor
    · rw [checksumText?, (checksumChars?_eq_none_iff bytes).mpr long, Option.map_none]
    · refine ⟨64, by omega, ?_⟩
      rw [List.getElem?_eq_none_iff, length_digest]
  · intro short
    have lower := toLower_checkedDigits bytes short
    have read := decode_checkedDigits bytes short
    refine ⟨checkedDigits bytes, (checksumText?_eq_some_iff ..).mpr ⟨short, rfl⟩, ?_, lower, read,
      fun place => getElem?_checkedDigits bytes place short, fun other same => ?_⟩
    · rw [← Hex.length_encode, ← lower]
      simp [String.toLower]
    · obtain ⟨otherShort, same⟩ := (checksumText?_eq_some_iff ..).mp same
      have digits : checkedDigits other = checkedDigits bytes := by simpa using same
      rw [← digits, decode_checkedDigits other otherShort] at read
      exact Except.ok.inj read

def referenceBytes : Bytes :=
  [0x5a, 0xae, 0xb6, 0x05, 0x3f, 0x3e, 0x94, 0xc9, 0xb9, 0xa0, 0x9f, 0x33, 0x66, 0x94, 0x35, 0xe7,
   0xef, 0x1b, 0xea, 0xed]

theorem reference_recased :
    checksumText? referenceBytes = some "0x5aAeb6053F3E94C9b9A09f33669435E7Ef1BeAed" ∧
    ∀ other, checksumText? other = some "0x5aAeb6053F3E94C9b9A09f33669435E7Ef1BeAed" →
      other = referenceBytes := by
  have text : checksumText? referenceBytes = some "0x5aAeb6053F3E94C9b9A09f33669435E7Ef1BeAed" := by
    decide +kernel
  obtain ⟨digits, checked, -, -, -, -, only⟩ :=
    (checksumText?_recased referenceBytes).2 (by decide)
  rw [← checked, text] at only
  exact ⟨text, only⟩

end Evm

end Multichain
