import Mathlib
import Multichain.Encoding.Digits

/-!
Bytes as text. The bytes of texts are ordered as the texts are. What is written in base 64 is read
as the bytes that were written, so that different bytes never share a text; hexadecimal text has two
digits for each byte. Main statements: `Bytes.ofText_lt` and `Base64.decode_encode`.
-/

set_option autoImplicit false

namespace Multichain.Bytes

theorem ofText_eq_flatMap (text : String) :
    ofText text = text.toList.flatMap String.utf8EncodeChar := by
  conv_lhs => rw [← String.ofList_toList (s := text)]
  rw [ofText, String.toByteArray_ofList, List.utf8Encode, List.toList_data_toByteArray]

theorem utf8EncodeChar_ascii (char : Char) (small : char.toNat < 128) :
    String.utf8EncodeChar char = [UInt8.ofNat char.toNat] := by
  have low : char.val.toNat ≤ 127 := Nat.le_of_lt_succ small
  rw [String.utf8EncodeChar]
  simp only [low, if_true]
  rfl

theorem le_of_mem_utf8EncodeChar (char : Char) (large : 128 ≤ char.toNat) (byte : UInt8)
    (found : byte ∈ String.utf8EncodeChar char) : 128 ≤ byte.toNat := by
  have high : ¬ char.val.toNat ≤ 127 := Nat.not_le.mpr large
  simp only [String.utf8EncodeChar, high, if_false] at found
  split_ifs at found <;> simp only [List.mem_cons, List.not_mem_nil, or_false] at found <;>
    rcases found with rfl | rfl | rfl | rfl <;> simp only [UInt8.toNat_ofNat'] <;> omega

theorem toNat_ascii (code : Nat) (small : code < 128) : (Char.ofNat code).toNat = code := by
  have valid : code.isValidChar := .inl (by omega)
  rw [Char.toNat_ofNat, if_pos valid]

theorem ofText_codes (text : String) (ascii : ∀ char ∈ text.toList, char.toNat < 128) :
    ofText text = text.toList.map fun char => UInt8.ofNat char.toNat := by
  rw [ofText_eq_flatMap, List.map_eq_flatMap]
  exact List.flatMap_congr fun char member => utf8EncodeChar_ascii char (ascii char member)

theorem ofText_ascii (bytes : Bytes) (ascii : ∀ byte ∈ bytes, byte.toNat < 128) :
    ofText (String.ofList (bytes.map fun byte => Char.ofNat byte.toNat)) = bytes := by
  have code (byte : UInt8) (member : byte ∈ bytes) := toNat_ascii byte.toNat (ascii byte member)
  rw [ofText_codes, String.toList_ofList, List.map_map]
  · refine (List.map_congr_left fun byte member => ?_).trans (List.map_id _)
    simp only [Function.comp, code byte member, UInt8.ofNat_toNat, id]
  · intro char member
    rw [String.toList_ofList] at member
    obtain ⟨byte, found, rfl⟩ := List.mem_map.mp member
    rw [code byte found]
    exact ascii byte found

theorem utf8EncodeChar_append_lt (first second : Char) (less : first < second)
    (tail other : Bytes) :
    String.utf8EncodeChar first ++ tail < String.utf8EncodeChar second ++ other := by
  have codes : first.val.toNat < second.val.toNat := less
  have bound : second.val.toNat < 0x110000 := by
    rcases second.valid with low | ⟨-, high⟩
    · exact Nat.lt_trans low (by decide)
    · exact high
  simp only [String.utf8EncodeChar]
  generalize first.val.toNat = low at codes
  generalize second.val.toNat = high at codes bound
  by_cases four : 65535 < low
  · -- four bytes each, told apart by the first that differs
    have parts : low / 262144 < high / 262144 ∨ low / 262144 = high / 262144 ∧
        (low / 4096 < high / 4096 ∨ low / 4096 = high / 4096 ∧
          (low / 64 < high / 64 ∨ low / 64 = high / 64 ∧ low % 64 < high % 64)) := by omega
    simp only [show ¬ low ≤ 127 by omega, show ¬ low ≤ 2047 by omega, show ¬ low ≤ 65535 by omega,
      show ¬ high ≤ 127 by omega, show ¬ high ≤ 2047 by omega, show ¬ high ≤ 65535 by omega, if_false,
      List.cons_append, List.nil_append, List.cons_lt_cons_iff, UInt8.lt_iff_toNat_lt,
      ← UInt8.toNat_inj, UInt8.toNat_ofNat']
    rcases parts with first | ⟨first, second | ⟨second, third | ⟨third, fourth⟩⟩⟩ <;> omega
  · split_ifs <;> simp only [List.cons_append, List.nil_append, List.cons_lt_cons_iff,
      UInt8.lt_iff_toNat_lt, ← UInt8.toNat_inj, UInt8.toNat_ofNat'] <;> omega

theorem utf8EncodeChar_ne_nil (char : Char) : String.utf8EncodeChar char ≠ [] := by
  rw [String.utf8EncodeChar]
  split_ifs <;> exact List.cons_ne_nil _ _

theorem ofText_lt (first second : String) (less : first < second) :
    ofText first < ofText second := by
  rw [ofText_eq_flatMap, ofText_eq_flatMap]
  rw [String.lt_iff_toList_lt] at less
  generalize first.toList = chars at less
  generalize second.toList = others at less
  induction chars generalizing others with
  | nil =>
    cases others with
    | nil => cases less
    | cons char rest =>
      obtain ⟨byte, more, bytes⟩ := List.exists_cons_of_ne_nil (utf8EncodeChar_ne_nil char)
      rw [List.flatMap_cons, bytes]
      exact List.nil_lt_cons ..
  | cons char rest ih =>
    cases others with
    | nil => cases less
    | cons other more =>
      rw [List.flatMap_cons, List.flatMap_cons]
      cases List.cons_lt_cons_iff.mp less with
      | inl before => exact utf8EncodeChar_append_lt char other before _ _
      | inr behind =>
        obtain ⟨rfl, after⟩ := behind
        exact List.append_left_lt (ih more after)

end Multichain.Bytes

namespace Multichain.Base64

open Multichain

theorem value?_symbol : ∀ value < 64, value? (symbol value) = some value := by
  decide

theorem symbol_ne_pad : ∀ value < 64, symbol value ≠ pad := by
  decide

theorem symbol_lt : ∀ value < 64, (symbol value).toNat < 128 := by
  decide

def sextets : Bytes → List Nat
  | [] => []
  | [a] => [a.toNat / 4, a.toNat % 4 * 16]
  | [a, b] => [a.toNat / 4, a.toNat % 4 * 16 + b.toNat / 16, b.toNat % 16 * 4]
  | a :: b :: c :: rest =>
    a.toNat / 4 :: (a.toNat % 4 * 16 + b.toNat / 16) :: (b.toNat % 16 * 4 + c.toNat / 64) ::
      c.toNat % 64 :: sextets rest

theorem sextets_lt (bytes : Bytes) : ∀ value ∈ sextets bytes, value < 64 := by
  fun_induction sextets bytes with
  | case1 => simp
  | case2 a =>
    have := a.toNat_lt
    simp only [List.mem_cons, List.not_mem_nil, or_false]
    omega
  | case3 a b =>
    have := a.toNat_lt
    have := b.toNat_lt
    simp only [List.mem_cons, List.not_mem_nil, or_false]
    omega
  | case4 a b c rest ih =>
    have := a.toNat_lt
    have := b.toNat_lt
    have := c.toNat_lt
    simp only [List.mem_cons]
    rintro value (rfl | rfl | rfl | rfl | member)
    all_goals first | omega | exact ih value member

def padding (bytes : Bytes) : Bytes :=
  match bytes.length % 3 with
  | 1 => [pad, pad]
  | 2 => [pad]
  | _ => []

theorem encodeBytes_eq (bytes : Bytes) :
    encodeBytes bytes = (sextets bytes).map symbol ++ padding bytes := by
  fun_induction encodeBytes bytes with
  | case1 | case2 | case3 => rfl
  | case4 a b c rest ih =>
    have same : padding (a :: b :: c :: rest) = padding rest := by
      simp only [padding, List.length_cons, Nat.add_assoc, Nat.reduceAdd, Nat.add_mod_right]
    rw [ih, same]
    rfl

theorem length_sextets (bytes : Bytes) :
    (sextets bytes).length = (4 * bytes.length + 2) / 3 := by
  fun_induction sextets bytes with
  | case1 | case2 | case3 => simp
  | case4 a b c rest ih =>
    simp only [List.length_cons, ih]
    omega

theorem padding_cases (bytes : Bytes) :
    bytes.length % 3 = 0 ∧ padding bytes = [] ∨ bytes.length % 3 = 1 ∧ padding bytes = [pad, pad] ∨
      bytes.length % 3 = 2 ∧ padding bytes = [pad] := by
  have remainder : bytes.length % 3 = 0 ∨ bytes.length % 3 = 1 ∨ bytes.length % 3 = 2 := by omega
  rcases remainder with none | one | two
  · exact .inl ⟨none, by simp [padding, none]⟩
  · exact .inr (.inl ⟨one, by simp [padding, one]⟩)
  · exact .inr (.inr ⟨two, by simp [padding, two]⟩)

theorem length_encodeBytes (bytes : Bytes) : (encodeBytes bytes).length % 4 = 0 := by
  have symbols := length_sextets bytes
  rw [encodeBytes_eq, List.length_append, List.length_map]
  rcases padding_cases bytes with ⟨length, pads⟩ | ⟨length, pads⟩ | ⟨length, pads⟩ <;>
    simp only [pads, List.length_cons, List.length_nil] <;> omega

theorem values_symbols (offset : Nat) (sextets : List Nat) (rest : Bytes)
    (small : ∀ value ∈ sextets, value < 64) :
    values offset (sextets.map symbol ++ rest) =
      (values (offset + sextets.length) rest).map (sextets ++ ·) := by
  induction sextets generalizing offset with
  | nil =>
    rw [List.map_nil, List.nil_append, List.length_nil, Nat.add_zero]
    cases values offset rest <;> rfl
  | cons value others ih =>
    have bound := small value (by simp)
    have after := ih (offset + 1) fun other member => small other (by simp [member])
    rw [List.map_cons, List.cons_append, values, if_neg (symbol_ne_pad value bound),
      value?_symbol value bound]
    simp only [after, List.length_cons, Nat.add_assoc, Nat.add_comm 1]
    cases values (offset + (others.length + 1)) rest <;> rfl

theorem values_padding (bytes : Bytes) :
    values (sextets bytes).length (padding bytes) = .ok [] := by
  have symbols := length_sextets bytes
  rcases padding_cases bytes with ⟨length, pads⟩ | ⟨length, pads⟩ | ⟨length, pads⟩
  · rw [pads, values]
  · have place : (sextets bytes).length % 4 = 2 := by omega
    have next : ((sextets bytes).length + 1) % 4 = 3 := by omega
    simp [pads, values, checkPads, place, next, Except.map]
  · have place : (sextets bytes).length % 4 = 3 := by omega
    simp [pads, values, checkPads, place, Except.map]

theorem ofNat_eq (byte : UInt8) (value : Nat) (same : value = byte.toNat) :
    UInt8.ofNat value = byte := by
  rw [same, UInt8.ofNat_toNat]

theorem join_sextets (offset : Nat) (bytes : Bytes) : join offset (sextets bytes) = .ok bytes := by
  fun_induction sextets bytes generalizing offset with
  | case1 => rfl
  | case2 a =>
    have rest : a.toNat % 4 * 16 % 16 = 0 := by omega
    rw [join, if_pos rest, ofNat_eq a _ (by omega)]
  | case3 a b =>
    have := b.toNat_lt
    have rest : b.toNat % 16 * 4 % 4 = 0 := by omega
    rw [join, if_pos rest, ofNat_eq a _ (by omega), ofNat_eq b _ (by omega)]
  | case4 a b c rest ih =>
    have := b.toNat_lt
    have := c.toNat_lt
    rw [join, ih, ofNat_eq a _ (by omega), ofNat_eq b _ (by omega), ofNat_eq c _ (by omega)]
    rfl

theorem decodeBytes_encodeBytes (bytes : Bytes) : decodeBytes (encodeBytes bytes) = .ok bytes := by
  have length := length_encodeBytes bytes
  have found : values 0 (encodeBytes bytes) = .ok (sextets bytes) := by
    rw [encodeBytes_eq, values_symbols 0 _ _ (sextets_lt bytes), Nat.zero_add, values_padding]
    simp [Except.map]
  simp [decodeBytes, checkLength, length, found, join_sextets, bind, Except.bind]

@[simp]
theorem decode_encode (bytes : Bytes) : decode (encode bytes) = .ok bytes := by
  have ascii : ∀ byte ∈ encodeBytes bytes, byte.toNat < 128 := by
    intro byte member
    rw [encodeBytes_eq, List.mem_append, List.mem_map] at member
    rcases member with ⟨value, found, rfl⟩ | padded
    · exact symbol_lt value (sextets_lt bytes value found)
    · obtain rfl : byte = pad := by
        rcases padding_cases bytes with ⟨-, pads⟩ | ⟨-, pads⟩ | ⟨-, pads⟩ <;> simp_all
      decide
  rw [decode, encode, Bytes.ofText_ascii _ ascii, decodeBytes_encodeBytes]

end Multichain.Base64

namespace Multichain.Hex

def digits : List Char := "0123456789abcdef".toList

theorem hexDigit_mem : ∀ value < 16, Text.hexDigit value ∈ digits := by
  decide

theorem length_encodeChars (bytes : Bytes) : (encodeChars bytes).length = 2 * bytes.length := by
  have each : ∀ byte ∈ bytes, (encodeByte byte).length = 2 := fun byte _ => rfl
  rw [encodeChars, List.length_flatMap, List.map_congr_left each, List.map_const',
    List.sum_replicate, smul_eq_mul, mul_comm]

theorem length_encode (bytes : Bytes) : (encode bytes).length = 2 * bytes.length := by
  rw [encode, String.length_ofList, length_encodeChars]

theorem mem_digits_of_mem_encode (bytes : Bytes) : ∀ digit ∈ (encode bytes).toList, digit ∈ digits := by
  intro digit found
  rw [encode, String.toList_ofList, encodeChars, List.mem_flatMap] at found
  obtain ⟨byte, -, half⟩ := found
  have small := byte.toNat_lt
  simp only [encodeByte, List.mem_cons, List.not_mem_nil, or_false] at half
  rcases half with rfl | rfl
  · exact hexDigit_mem _ (by omega)
  · exact hexDigit_mem _ (by omega)

end Multichain.Hex
