import Mathlib
import Multichain.Amount
import Multichain.Proofs.LedgerConversion
import Multichain.Proofs.StoredForms

/-!
Amounts as texts. The text of an amount is in plain notation, and an amount of the same value is
read from it, with as many places behind the point as are needed and no exponent. Main statements:
`ofText_text` and `ledger_round_trip`.
-/

set_option autoImplicit false

namespace Multichain.HumanAmount

open Outcome
open Text (digitChar ofDigits signed)

def beforePoint (negative : Bool) (whole : List Char) : List Char :=
  (if negative then ['-'] else []) ++ whole

def behindPoint (fraction : List Char) : List Char :=
  if fraction = [] then [] else '.' :: fraction

def plainChars (negative : Bool) (whole fraction : List Char) : List Char :=
  beforePoint negative whole ++ behindPoint fraction

def PlainText (text : String) : Prop :=
  ∃ negative whole fraction, text.toList = plainChars negative whole fraction ∧
    whole ≠ [] ∧ (∀ char ∈ whole ++ fraction, '0' ≤ char ∧ char ≤ '9') ∧
    fraction.getLast? ≠ some '0'

structure PlainDigits (magnitude : Nat) (scale : Int) (whole fraction : List Nat) : Prop where
  parts : plainParts magnitude scale = (whole.map digitChar, fraction.map digitChar)
  small : ∀ digit ∈ whole ++ fraction, digit < 10
  filled : whole ≠ []
  trimmed : fraction.getLast? ≠ some 0
  short : fraction.length ≤ scale.toNat
  worth : (ofDigits (whole ++ fraction) : ℚ) = magnitude * 10 ^ (fraction.length - scale)

def paddedDigits (magnitude places : Nat) : List Nat :=
  List.replicate (places + 1 - (Text.digits magnitude).length) 0 ++ Text.digits magnitude

theorem paddedDigits_long (magnitude places : Nat) :
    places < (paddedDigits magnitude places).length := by
  rw [paddedDigits, List.length_append, List.length_replicate]
  omega

theorem paddedDigits_small (magnitude places : Nat) :
    ∀ digit ∈ paddedDigits magnitude places, digit < 10 := by
  intro digit member
  rcases List.mem_append.mp member with zero | other
  · rw [List.eq_of_mem_replicate zero]
    omega
  · exact Text.digit_lt magnitude digit other

theorem ofDigits_paddedDigits (magnitude places : Nat) :
    ofDigits (paddedDigits magnitude places) = magnitude := by
  rw [paddedDigits, Text.ofDigits_padded, Text.ofDigits_digits]

theorem map_paddedDigits (magnitude places : Nat) :
    (paddedDigits magnitude places).map digitChar =
      List.replicate (places + 1 - (Text.naturalChars magnitude).length) '0' ++
        Text.naturalChars magnitude := by
  simp only [paddedDigits, Text.naturalChars, List.map_append, List.map_replicate, List.length_map]
  rfl

theorem plainDigits_behind (magnitude places : Nat) :
    ∃ whole fraction, PlainDigits magnitude places whole fraction := by
  let padded := paddedDigits magnitude places
  let point := padded.length - places
  let behind := padded.drop point
  have long : places < padded.length := paddedDigits_long magnitude places
  have small : ∀ digit ∈ padded, digit < 10 := paddedDigits_small magnitude places
  have smallBehind : ∀ digit ∈ behind, digit < 10 :=
    fun digit member => small digit (List.mem_of_mem_drop member)
  obtain ⟨zeros, kept⟩ := Text.exists_dropped_zeros behind
  have length : (behind.rdropWhile (· == 0)).length + zeros = places := by
    have all := congrArg List.length kept
    rw [List.length_append, List.length_replicate, List.length_drop] at all
    omega
  refine ⟨padded.take point, behind.rdropWhile (· == 0), ?_, ?_, ?_, ?_, by omega, ?_⟩
  · have fraction : ((behind.map digitChar).reverse.dropWhile (· == '0')).reverse =
        (behind.rdropWhile (· == 0)).map digitChar :=
      Text.rdropWhile_digitChars behind smallBehind
    simp only [plainParts, ← map_paddedDigits, List.length_map, ← List.map_take, ← List.map_drop]
    exact congrArg (Prod.mk _) fraction
  · intro digit member
    rcases List.mem_append.mp member with before | after
    · exact small digit (List.mem_of_mem_take before)
    · exact smallBehind digit ((List.rdropWhile_prefix _ behind).subset after)
  · apply List.ne_nil_of_length_pos
    rw [List.length_take]
    omega
  · exact Text.getLast?_rdropWhile behind
  · -- what is dropped are the places that the fraction is shorter by
    have same : ofDigits (padded.take point ++ behind.rdropWhile (· == 0)) * 10 ^ zeros =
        magnitude := by
      rw [← Text.ofDigits_zeros, List.append_assoc, ← kept, List.take_append_drop,
        ofDigits_paddedDigits]
    have power : ((behind.rdropWhile (· == 0)).length - places : Int) = -zeros := by omega
    rw [power, ← same, zpow_neg, zpow_natCast]
    push_cast
    field_simp

theorem plainDigits_before (magnitude zeros : Nat) :
    PlainDigits magnitude (Int.negSucc zeros)
      (Text.digits magnitude ++ List.replicate (zeros + 1) 0) [] := by
  have places : ((0 : Nat) - Int.negSucc zeros : Int) = (zeros + 1 : Nat) := by omega
  constructor
  · simp only [plainParts, Text.naturalChars, List.map_append, List.map_replicate, List.map_nil]
    rfl
  · intro digit member
    rw [List.append_nil] at member
    rcases List.mem_append.mp member with other | zero
    · exact Text.digit_lt magnitude digit other
    · rw [List.eq_of_mem_replicate zero]
      omega
  · simp
  · simp
  · simp
  · rw [List.append_nil, Text.ofDigits_zeros, Text.ofDigits_digits, List.length_nil, places,
      zpow_natCast]
    push_cast
    rfl

theorem exists_plainDigits (magnitude : Nat) (scale : Int) :
    ∃ whole fraction, PlainDigits magnitude scale whole fraction := by
  cases scale with
  | ofNat places => exact plainDigits_behind magnitude places
  | negSucc zeros => exact ⟨_, _, plainDigits_before magnitude zeros⟩

structure Written (amount : HumanAmount) (negative : Bool) (whole fraction : List Nat) : Prop where
  chars : amount.text.toList = plainChars negative (whole.map digitChar) (fraction.map digitChar)
  small : ∀ digit ∈ whole ++ fraction, digit < 10
  filled : whole ≠ []
  trimmed : fraction.getLast? ≠ some 0
  short : fraction.length ≤ amount.scale.toInt.toNat
  worth : (signed negative (ofDigits (whole ++ fraction)) : ℚ) = amount.value * 10 ^ fraction.length

theorem cast_signed (negative : Bool) (magnitude : Nat) :
    (signed negative magnitude : ℚ) = (if negative then -1 else 1) * magnitude := by
  cases negative <;> simp [signed]

theorem signed_natAbs (number : Int) : signed (decide (number < 0)) number.natAbs = number := by
  rw [signed]
  split_ifs with negative
  · rw [decide_eq_true_eq] at negative
    omega
  · rw [decide_eq_true_eq] at negative
    omega

theorem exists_written (amount : HumanAmount) :
    ∃ negative whole fraction, Written amount negative whole fraction := by
  by_cases none : amount.digits = 0
  · refine ⟨false, [0], [], ?_, by simp, by simp, by simp, by simp, ?_⟩
    · rw [text, if_pos none]
      rfl
    · simp [value, none, signed, ofDigits]
  · obtain ⟨whole, fraction, digits⟩ :=
      exists_plainDigits amount.digits.natAbs amount.scale.toInt
    refine ⟨decide (amount.digits < 0), whole, fraction, ?_, digits.small, digits.filled,
      digits.trimmed, digits.short, ?_⟩
    · rw [text, if_neg none, digits.parts]
      simp [plainChars, beforePoint, behindPoint]
    · have ten : (10 : ℚ) ≠ 0 := by norm_num
      have digitsSigned : (amount.digits : ℚ) =
          signed (decide (amount.digits < 0)) amount.digits.natAbs := by
        rw [signed_natAbs]
      rw [value, digitsSigned, cast_signed, cast_signed, digits.worth, sub_eq_add_neg, add_comm,
        zpow_add₀ ten, zpow_natCast]
      ring

theorem span_stops (p : Char → Bool) (chars rest : List Char) (all : ∀ char ∈ chars, p char = true)
    (stop : ∀ char ∈ rest.head?, p char = false) : (chars ++ rest).span p = (chars, rest) := by
  rw [List.span_eq_takeWhile_dropWhile, List.takeWhile_append_of_pos all,
    List.dropWhile_append_of_pos all]
  cases rest with
  | nil => simp
  | cons char rest => simp [stop char rfl]

theorem read_unscaled (before behind fraction : List Char) (number : Int)
    (unscaled : splitExponent (before ++ behind) = (before ++ behind, none))
    (point : (before ++ behind).span (· ≠ '.') = (before, behind))
    (filled : before ≠ []) (after : behind.tail = fraction)
    (few : (fraction.filter (· ≠ '_')).length < 2 ^ 63)
    (digits : Text.readGrouped (before ++ fraction) = .ok number) :
    read (before ++ behind) =
      .ok ⟨number, Int64.ofInt (fraction.filter (· ≠ '_')).length⟩ := by
  have some : before ++ behind ≠ [] := by simp [filled]
  rw [read, unscaled]
  refine (bind_eq_ok_iff ..).mpr ⟨0, rfl, ?_⟩
  refine (check_eq_ok_iff ..).mpr ⟨some, ?_⟩
  simp only [point]
  subst after
  cases behind with
  | nil =>
    rw [List.tail_nil] at digits
    dsimp only
    refine (check_eq_ok_iff ..).mpr ⟨by simp, ?_⟩
    rw [digits, sub_zero]
    rfl
  | cons mark behind =>
    rw [List.tail_cons] at few digits
    dsimp only
    refine (check_eq_ok_iff ..).mpr ⟨by omega, ?_⟩
    rw [digits, sub_zero]
    rfl

section Plain

variable (negative : Bool) (whole fraction : List Char)
variable (digits : ∀ char ∈ whole ++ fraction, '0' ≤ char ∧ char ≤ '9')
include digits

theorem mem_beforePoint (char : Char) (member : char ∈ beforePoint negative whole) :
    char = '-' ∨ ('0' ≤ char ∧ char ≤ '9') := by
  rcases List.mem_append.mp member with sign | digit
  · split_ifs at sign
    · exact .inl (List.mem_singleton.mp sign)
    · cases sign
  · exact .inr (digits char (List.mem_append_left _ digit))

theorem mem_plainChars (char : Char) (member : char ∈ plainChars negative whole fraction) :
    char = '-' ∨ char = '.' ∨ ('0' ≤ char ∧ char ≤ '9') := by
  rcases List.mem_append.mp member with before | behind
  · rcases mem_beforePoint negative whole fraction digits char before with sign | digit
    · exact .inl sign
    · exact .inr (.inr digit)
  · rw [behindPoint] at behind
    split_ifs at behind
    · cases behind
    · rcases List.mem_cons.mp behind with point | digit
      · exact .inr (.inl point)
      · exact .inr (.inr (digits char (List.mem_append_right _ digit)))

theorem splitExponent_plainChars :
    splitExponent (plainChars negative whole fraction) =
      (plainChars negative whole fraction, none) := by
  have all := span_stops (fun char => char ≠ 'e' ∧ char ≠ 'E')
    (plainChars negative whole fraction) []
  rw [List.append_nil] at all
  rw [splitExponent, all]
  · intro char member
    rcases mem_plainChars negative whole fraction digits char member with rfl | rfl | digit
    · decide
    · decide
    · have mantissa : char ≠ 'e' ∧ char ≠ 'E' := by
        constructor <;> rintro rfl <;> exact absurd digit (by decide)
      simpa using mantissa
  · simp

theorem span_plainChars :
    (plainChars negative whole fraction).span (· ≠ '.') =
      (beforePoint negative whole, behindPoint fraction) := by
  apply span_stops
  · intro char member
    rcases mem_beforePoint negative whole fraction digits char member with rfl | digit
    · rfl
    · have apart : char ≠ '.' := by
        rintro rfl
        exact absurd digit (by decide)
      simpa using apart
  · intro char head
    rw [behindPoint] at head
    split_ifs at head
    · cases head
    · obtain rfl : '.' = char := by simpa using head
      rfl

theorem filter_fraction : fraction.filter (· ≠ '_') = fraction := by
  rw [List.filter_eq_self]
  intro char member
  have apart : char ≠ '_' := by
    rintro rfl
    exact absurd (digits '_' (List.mem_append_right _ member)) (by decide)
  simpa using apart

end Plain

theorem tail_behindPoint (fraction : List Char) : (behindPoint fraction).tail = fraction := by
  rw [behindPoint]
  split_ifs with none
  · exact none.symm
  · rfl

theorem read_plainChars (negative : Bool) (whole fraction : List Nat)
    (small : ∀ digit ∈ whole ++ fraction, digit < 10) (filled : whole ≠ [])
    (few : fraction.length < 2 ^ 63) :
    read (plainChars negative (whole.map digitChar) (fraction.map digitChar)) =
      .ok ⟨signed negative (ofDigits (whole ++ fraction)), Int64.ofInt fraction.length⟩ := by
  have digits : ∀ char ∈ whole.map digitChar ++ fraction.map digitChar,
      '0' ≤ char ∧ char ≤ '9' := by
    rw [← List.map_append]
    exact Text.mem_digitChars _ small
  have places : ((fraction.map digitChar).filter (· ≠ '_')).length = fraction.length := by
    rw [filter_fraction _ _ digits, List.length_map]
  have number : Text.readGrouped
      (beforePoint negative (whole.map digitChar) ++ fraction.map digitChar) =
        .ok (signed negative (ofDigits (whole ++ fraction))) := by
    rw [beforePoint, List.append_assoc, ← List.map_append]
    exact Text.readGrouped_digitChars _ small negative (by simp [filled])
  have read := read_unscaled (beforePoint negative (whole.map digitChar))
    (behindPoint (fraction.map digitChar)) (fraction.map digitChar) _
    (splitExponent_plainChars negative _ _ digits) (span_plainChars negative _ _ digits)
    (by simp [beforePoint, filled]) (tail_behindPoint _) (by rw [places]; exact few) number
  rw [plainChars, read, places]

section Written

variable {amount : HumanAmount} {negative : Bool} {whole fraction : List Nat}
variable (written : Written amount negative whole fraction)
include written

theorem Written.digits :
    ∀ char ∈ whole.map digitChar ++ fraction.map digitChar, '0' ≤ char ∧ char ≤ '9' := by
  rw [← List.map_append]
  exact Text.mem_digitChars _ written.small

theorem Written.ofText_text :
    ofText amount.text =
      .ok ⟨signed negative (ofDigits (whole ++ fraction)), Int64.ofInt fraction.length⟩ := by
  have visible : ∀ char ∈ amount.text.toList, Text.isBlank char = false := by
    rw [written.chars]
    intro char member
    rcases mem_plainChars negative _ _ written.digits char member with rfl | rfl | digit
    · decide
    · decide
    · exact Text.isBlank_digit char digit
  have few : fraction.length < 2 ^ 63 := by
    have short := written.short
    have most := amount.scale.toInt_lt
    omega
  rw [ofText, Text.trim_eq_self _ visible, written.chars,
    read_plainChars negative whole fraction written.small written.filled few]

theorem Written.plainText : PlainText amount.text := by
  refine ⟨negative, whole.map digitChar, fraction.map digitChar, written.chars,
    by simp [written.filled], written.digits, ?_⟩
  intro last
  rw [List.getLast?_map, Option.map_eq_some_iff] at last
  obtain ⟨digit, last, zero⟩ := last
  have member : digit ∈ whole ++ fraction :=
    List.mem_append_right _ (List.mem_of_getLast? last)
  have only : ∀ digit < 10, digitChar digit = '0' → digit = 0 := by decide
  rw [only digit (written.small digit member) zero] at last
  exact written.trimmed last

end Written

theorem ofText_text (amount : HumanAmount) :
    ∃ back, ofText amount.text = .ok back ∧ back.value = amount.value ∧
      0 ≤ back.scale.toInt ∧ back.scale.toInt ≤ amount.scale.toInt.toNat := by
  obtain ⟨negative, whole, fraction, written⟩ := amount.exists_written
  have short := written.short
  have scale : (Int64.ofInt fraction.length).toInt = fraction.length := by
    have most := amount.scale.toInt_lt
    exact Int64.toInt_ofInt_of_le (by omega) (by omega)
  refine ⟨_, written.ofText_text, ?_, ?_⟩
  · have power : (10 : ℚ) ^ fraction.length ≠ 0 := by positivity
    rw [value, scale, written.worth, zpow_neg, zpow_natCast]
    field_simp
  · rw [scale]
    omega

theorem decode_encode (amount : HumanAmount) :
    codec.decode (codec.encode amount) = (ofText amount.text).toOption := by
  have text : Json.Codec.text.decode (codec.encode amount) = some amount.text :=
    (Json.stores_text amount.text).decode_encode (Nat.zero_le _)
  rw [codec, Json.decode_via, ← codec, text, Option.bind_some]

theorem scale_ofLedger (amount : LedgerAmount) (decimals : UInt32) :
    (ofLedger amount decimals).scale.toInt = decimals.toNat := by
  have most := decimals.toNat_lt
  exact Int64.toInt_ofNat_of_lt (by omega)

theorem value_ofLedger (amount : LedgerAmount) (decimals : UInt32) :
    (ofLedger amount decimals).value * 10 ^ decimals.toNat = amount.units := by
  have power : (10 : ℚ) ^ decimals.toNat ≠ 0 := by positivity
  rw [value, scale_ofLedger, zpow_neg, zpow_natCast, inv_mul_cancel_right₀ power]
  rfl

theorem converted_upward (human : HumanAmount) (amount : LedgerAmount) (decimals : UInt32)
    (upward : 0 ≤ human.shift decimals) (few : human.shift decimals ≤ maxShift)
    (worth : human.value * 10 ^ decimals.toNat = amount.units) :
    human.toLedger decimals = .ok amount ∧ human.toLedgerCeil decimals = .ok amount := by
  have convertible : Convertible human decimals := .inr ⟨few, .inl (by omega)⟩
  constructor
  · exact (toLedger_eq_ok_iff ..).mpr ⟨convertible, worth.symm⟩
  · refine (toLedgerCeil_eq_ok_iff ..).mpr ⟨convertible, ?_⟩
    rw [worth, Int.ceil_intCast]

theorem text_eq_zero_iff (amount : HumanAmount) : amount.text = "0" ↔ amount.value = 0 := by
  constructor
  · intro zero
    obtain ⟨back, read, same, -⟩ := amount.ofText_text
    have zeroRead : ofText "0" = .ok ⟨0, 0⟩ := by decide +kernel
    rw [zero, zeroRead] at read
    obtain rfl := Except.ok.inj read
    simpa [value] using same.symm
  · intro zero
    have power : (10 : ℚ) ^ (-amount.scale.toInt) ≠ 0 := by positivity
    have digits : amount.digits = 0 := by
      exact_mod_cast (mul_eq_zero_iff_right power).mp zero
    rw [text, if_pos digits]

theorem ledger_round_trip (amount : LedgerAmount) (decimals : UInt32) :
    let human := ofLedger amount decimals
    (human.toLedger decimals = .ok amount ∧ human.toLedgerCeil decimals = .ok amount) ∧
      (decimals.toNat ≤ 1024 →
        ∃ back, ofText human.text = .ok back ∧ codec.decode (codec.encode human) = some back ∧
          back.toLedger decimals = .ok amount ∧ back.toLedgerCeil decimals = .ok amount) ∧
      PlainText human.text ∧ (human.text = "0" ↔ amount.units = 0) := by
  intro human
  have scale := scale_ofLedger amount decimals
  have worth := value_ofLedger amount decimals
  have still : human.shift decimals = 0 := by
    rw [shift, scale, sub_self]
  refine ⟨?_, ?_, ?_, ?_⟩
  · exact converted_upward human amount decimals (by omega) (by omega) worth
  · intro few
    obtain ⟨back, read, same, least, most⟩ := human.ofText_text
    have exact : back.toLedger decimals = .ok amount ∧ back.toLedgerCeil decimals = .ok amount := by
      rw [scale, Int.toNat_natCast] at most
      apply converted_upward
      · rw [shift]
        omega
      · rw [shift, maxShift]
        omega
      · rw [same, worth]
    refine ⟨back, read, ?_, exact⟩
    rw [decode_encode, read]
    rfl
  · obtain ⟨negative, whole, fraction, written⟩ := human.exists_written
    exact written.plainText
  · have power : (10 : ℚ) ^ decimals.toNat ≠ 0 := by positivity
    rw [text_eq_zero_iff, ← mul_eq_zero_iff_right power, worth, Int.cast_eq_zero]

theorem negative_cents_round_trip :
    (2 : UInt32).toNat ≤ 1024 ∧ (ofLedger ⟨-150⟩ 2).text = "-1.5" ∧
      ∃ back, ofText "-1.5" = .ok back ∧
        codec.decode (codec.encode (ofLedger ⟨-150⟩ 2)) = some back ∧
        back.toLedger 2 = .ok ⟨-150⟩ := by
  have few : (2 : UInt32).toNat ≤ 1024 := by decide
  have text : (ofLedger ⟨-150⟩ 2).text = "-1.5" := by decide +kernel
  obtain ⟨-, again, -⟩ := ledger_round_trip ⟨-150⟩ 2
  obtain ⟨back, read, decoded, exact, -⟩ := again few
  rw [text] at read
  exact ⟨few, text, back, read, decoded, exact⟩

end Multichain.HumanAmount
