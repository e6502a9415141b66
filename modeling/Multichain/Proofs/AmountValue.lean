import Mathlib
import Multichain.Amount
import Multichain.Proofs.Numeral
import Multichain.Proofs.Outcome

/-!
What amounts are worth. Splitting an amount gives whole smallest units and a remainder of less than
one unit, so that rounding up gives the least number of units that covers the amount. Main
statements: `value_scaleBy`, `split_eq_ok_iff` and `units_toLedgerCeil`.
-/

set_option autoImplicit false

namespace Multichain.HumanAmount

open Outcome

def value (amount : HumanAmount) : ℚ :=
  amount.digits * 10 ^ (-amount.scale.toInt)

theorem value_nonneg_iff (amount : HumanAmount) : 0 ≤ amount.value ↔ amount.isNegative = false := by
  have power : (0 : ℚ) < 10 ^ (-amount.scale.toInt) := by positivity
  rw [value, mul_nonneg_iff_of_pos_right power, isNegative, Int.cast_nonneg_iff]
  simp

theorem value_of_isOne (amount : HumanAmount) (one : amount.isOne = true) : amount.value = 1 := by
  rw [isOne] at one
  cases scale : amount.scale.toInt with
  | negSucc below => simp [scale] at one
  | ofNat places =>
    simp only [scale, Bool.and_eq_true, beq_iff_eq] at one
    rw [value, one.2, scale]
    simp

theorem value_scaleBy (amount : HumanAmount) (factor : UInt64) :
    (amount.scaleBy factor).value = amount.value * factor.toNat := by
  rw [scaleBy]
  split_ifs with one
  · rw [value_of_isOne amount one]
    simp [value]
  · simp only [value, Int.cast_mul, Int.cast_natCast]
    ring

def shift (amount : HumanAmount) (decimals : UInt32) : Int :=
  decimals.toNat - amount.scale.toInt

theorem value_shifted (amount : HumanAmount) (decimals : UInt32) :
    amount.value * 10 ^ decimals.toNat = amount.digits * (10 : ℚ) ^ amount.shift decimals := by
  have ten : (10 : ℚ) ≠ 0 := by norm_num
  rw [value, shift, mul_assoc, ← zpow_natCast, ← zpow_add₀ ten]
  congr 2
  omega

theorem least_shift (amount : HumanAmount) (decimals : UInt32) :
    -2 ^ 63 < amount.shift decimals := by
  have most := amount.scale.toInt_lt
  rw [shift]
  omega

theorem split_eq (amount : HumanAmount) (decimals : UInt32) :
    amount.split decimals =
      if amount.digits = 0 then .ok (0, 0)
      else if amount.shift decimals < -2 ^ 63 ∨ 2 ^ 63 ≤ amount.shift decimals then
        .error .exponentRange
      else if 0 ≤ amount.shift decimals then
        if maxShift < amount.shift decimals then .error (.magnitude maxShift)
        else .ok (amount.digits * 10 ^ (amount.shift decimals).toNat, 0)
      else if digitCount amount.digits.natAbs < -amount.shift decimals then .ok (0, amount.digits)
      else if maxPlaces < -amount.shift decimals then .error .exponentRange
      else
        let unit := 10 ^ (-amount.shift decimals).toNat
        .ok (amount.digits.tdiv unit, amount.digits.tmod unit) := by
  rw [split]
  apply ite_congr rfl (fun _ => rfl)
  intro _
  apply ite_congr rfl (fun _ => rfl)
  intro _
  rw [shift]
  cases (decimals.toNat - amount.scale.toInt : Int) with
  | ofNat places =>
    simp only [Int.ofNat_eq_natCast, Nat.cast_nonneg, if_true, Nat.cast_lt, Int.toNat_natCast,
      Nat.pow_eq, Nat.cast_pow, Nat.cast_ofNat]
    rfl
  | negSucc fewer =>
    have downward : ¬ 0 ≤ Int.negSucc fewer := by omega
    have opposite : -Int.negSucc fewer = (fewer + 1 : Nat) := rfl
    simp only [if_neg downward, opposite, Nat.cast_lt, Int.toNat_natCast, Nat.pow_eq, Nat.cast_pow,
      Nat.cast_ofNat]
    rfl

/-- The whole units and the remainder that an amount splits into: the point moves up, or it moves
down beyond all digits, or between them. -/
inductive Splits (amount : HumanAmount) (decimals : UInt32) : Int → Int → Prop
  | zero (none : amount.digits = 0) : Splits amount decimals 0 0
  | up (places : Nat) (present : amount.digits ≠ 0) (moved : amount.shift decimals = places)
    (few : places ≤ maxShift) : Splits amount decimals (amount.digits * 10 ^ places) 0
  | below (places : Nat) (present : amount.digits ≠ 0) (moved : amount.shift decimals = -places)
    (held : places ≤ 0x8000000000000000) (small : digitCount amount.digits.natAbs < places) :
    Splits amount decimals 0 amount.digits
  | down (places : Nat) (present : amount.digits ≠ 0) (moved : amount.shift decimals = -places)
    (positive : 0 < places) (few : places ≤ maxPlaces)
    (large : places ≤ digitCount amount.digits.natAbs) :
    Splits amount decimals (amount.digits.tdiv (10 ^ places)) (amount.digits.tmod (10 ^ places))

theorem splits_of_split (amount : HumanAmount) (decimals : UInt32) (whole rest : Int)
    (done : amount.split decimals = .ok (whole, rest)) : Splits amount decimals whole rest := by
  rw [split_eq] at done
  split_ifs at done with none range upward many small few <;> cases done
  · exact .zero none
  · have moved := (Int.toNat_of_nonneg upward).symm
    exact .up _ none moved (by omega)
  · obtain ⟨places, moved⟩ := Int.eq_ofNat_of_zero_le (show 0 ≤ -amount.shift decimals by omega)
    exact .below places none (by omega) (by omega) (by omega)
  · have positive : 0 < (-amount.shift decimals).toNat := by omega
    exact .down _ none (by omega) positive (by omega) (by omega)

theorem split_of_splits (amount : HumanAmount) (decimals : UInt32) (whole rest : Int)
    (splits : Splits amount decimals whole rest) : amount.split decimals = .ok (whole, rest) := by
  rw [split_eq]
  cases splits with
  | zero none => rw [if_pos none]
  | up places present moved few =>
    rw [maxShift] at few
    rw [if_neg present, moved, if_neg (by omega), if_pos (by omega), if_neg (by rw [maxShift]; omega),
      Int.toNat_natCast]
  | below places present moved held small =>
    rw [if_neg present, moved, if_neg (by omega), if_neg (by omega), if_pos (by omega)]
  | down places present moved positive few large =>
    rw [maxPlaces] at few
    rw [if_neg present, moved, if_neg (by omega), if_neg (by omega), if_neg (by omega),
      if_neg (by rw [maxPlaces]; omega), neg_neg, Int.toNat_natCast]

theorem split_eq_ok_iff (amount : HumanAmount) (decimals : UInt32) (whole rest : Int) :
    amount.split decimals = .ok (whole, rest) ↔ Splits amount decimals whole rest :=
  ⟨splits_of_split amount decimals whole rest, split_of_splits amount decimals whole rest⟩

theorem Splits.counts {amount : HumanAmount} {decimals : UInt32} {whole rest : Int}
    (splits : Splits amount decimals whole rest) :
    ∃ places : Nat, |rest| < 10 ^ places ∧
      amount.value * 10 ^ decimals.toNat = whole + rest / 10 ^ places := by
  rw [value_shifted]
  cases splits with
  | zero none => exact ⟨0, by simp, by simp [none]⟩
  | up places present moved few => exact ⟨0, by simp, by simp [moved]⟩
  | below places present moved held small =>
    refine ⟨places, ?_, by simp [moved, div_eq_mul_inv]⟩
    have bound := Text.lt_pow_length_digits amount.digits.natAbs
    have more := Nat.pow_lt_pow_right (show 1 < 10 by omega) small
    rw [digitCount] at more
    zify at bound more
    exact bound.trans more
  | down places present moved positive few large =>
    have unit : (0 : Int) < 10 ^ places := by positivity
    refine ⟨places, ?_, ?_⟩
    · exact abs_lt.mpr ⟨Int.lt_tmod_of_pos _ unit, Int.tmod_lt_of_pos _ unit⟩
    · have digits := Int.mul_tdiv_add_tmod amount.digits (10 ^ places)
      qify at digits
      rw [moved, zpow_neg, zpow_natCast]
      field_simp
      linarith

theorem ceil_parts (whole rest : Int) (places : Nat) (less : |rest| < 10 ^ places) :
    ⌈(whole + rest / 10 ^ places : ℚ)⌉ = if 0 < rest then whole + 1 else whole := by
  have unit : (0 : ℚ) < 10 ^ places := by positivity
  obtain ⟨low, high⟩ := abs_lt.mp less
  have low : (-1 : ℚ) < rest / 10 ^ places := by
    rw [lt_div_iff₀ unit]
    exact_mod_cast (by linarith : -1 * 10 ^ places < rest)
  have high : (rest / 10 ^ places : ℚ) < 1 := by
    rw [div_lt_one unit]
    exact_mod_cast high
  rw [Int.ceil_eq_iff]
  split_ifs with positive
  · have above : (0 : ℚ) < rest / 10 ^ places := div_pos (by exact_mod_cast positive) unit
    push_cast
    constructor <;> linarith
  · have below : (rest / 10 ^ places : ℚ) ≤ 0 :=
      div_nonpos_of_nonpos_of_nonneg (by exact_mod_cast not_lt.mp positive) unit.le
    constructor <;> linarith

theorem toLedgerCeil_splits_iff (amount : HumanAmount) (decimals : UInt32) (paid : LedgerAmount) :
    amount.toLedgerCeil decimals = .ok paid ↔
      ∃ whole rest, Splits amount decimals whole rest ∧
        paid = ⟨if 0 < rest then whole + 1 else whole⟩ := by
  rw [toLedgerCeil, bind_eq_ok_iff, Prod.exists]
  apply exists₂_congr
  intro whole rest
  rw [split_eq_ok_iff, pure_eq_ok_iff, eq_comm (a := paid)]

theorem units_toLedgerCeil (amount : HumanAmount) (decimals : UInt32) (paid : LedgerAmount)
    (done : amount.toLedgerCeil decimals = .ok paid) :
    paid.units = ⌈amount.value * 10 ^ decimals.toNat⌉ := by
  obtain ⟨whole, rest, splits, rfl⟩ := (toLedgerCeil_splits_iff ..).mp done
  obtain ⟨places, less, counted⟩ := splits.counts
  rw [counted, ceil_parts whole rest places less]

end Multichain.HumanAmount
