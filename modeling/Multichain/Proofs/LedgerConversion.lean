import Mathlib
import Multichain.Proofs.SplitWords

/-!
When an amount has a whole number of smallest units, and which. Conversion is refused only for
digits below the smallest unit or for a power of ten that is not computed; no step of it overflows.
Main statements: `toLedger_exact` and `toLedgerCeil_least`.
-/

set_option autoImplicit false

namespace Multichain.HumanAmount

open Outcome

/-- The power of ten between the amount and its smallest units is computed, or is not needed: the
point moves up by few places, or down by few places or beyond all digits. -/
def Convertible (amount : HumanAmount) (decimals : UInt32) : Prop :=
  amount.digits = 0 ∨
    amount.shift decimals ≤ maxShift ∧
      (-amount.shift decimals ≤ maxPlaces ∨
        digitCount amount.digits.natAbs < -amount.shift decimals)

theorem exists_splits_iff (amount : HumanAmount) (decimals : UInt32) :
    (∃ whole rest, Splits amount decimals whole rest) ↔ Convertible amount decimals := by
  constructor
  · rintro ⟨whole, rest, splits⟩
    cases splits with
    | zero none => exact .inl none
    | up places present moved few => exact .inr ⟨by omega, .inl (by omega)⟩
    | below places present moved held small => exact .inr ⟨by omega, .inr (by omega)⟩
    | down places present moved positive few large => exact .inr ⟨by omega, .inl (by omega)⟩
  · intro convertible
    by_cases none : amount.digits = 0
    · exact ⟨_, _, .zero none⟩
    obtain ⟨few, many⟩ := convertible.resolve_left none
    have least := amount.least_shift decimals
    rcases le_or_gt 0 (amount.shift decimals) with upward | downward
    · obtain ⟨places, moved⟩ := Int.eq_ofNat_of_zero_le upward
      exact ⟨_, _, .up places none moved (by omega)⟩
    obtain ⟨places, moved⟩ := Int.eq_ofNat_of_zero_le (show 0 ≤ -amount.shift decimals by omega)
    by_cases small : digitCount amount.digits.natAbs < places
    · exact ⟨_, _, .below places none (by omega) (by omega) small⟩
    · exact ⟨_, _, .down places none (by omega) (by omega) (by omega) (not_lt.mp small)⟩

theorem convertible_iff (amount : HumanAmount) (decimals : UInt32)
    (few : digitCount amount.digits.natAbs < 2 ^ 32) :
    Convertible amount decimals ↔ amount.digits = 0 ∨ amount.shift decimals ≤ maxShift := by
  have places : -amount.shift decimals ≤ maxPlaces ∨
      digitCount amount.digits.natAbs < -amount.shift decimals := by
    rw [maxPlaces]
    omega
  rw [Convertible, and_iff_left places]

theorem failsOnly_split (amount : HumanAmount) (decimals : UInt32) :
    FailsOnly (fun fault => fault.kind = .invalidInput) (amount.split decimals) := by
  intro fault failed
  rw [split_eq] at failed
  split_ifs at failed <;> cases failed <;> rfl

theorem toLedger_splits_iff (amount : HumanAmount) (decimals : UInt32) (paid : LedgerAmount) :
    amount.toLedger decimals = .ok paid ↔ Splits amount decimals paid.units 0 := by
  rw [toLedger, bind_eq_ok_iff, Prod.exists]
  simp only [split_eq_ok_iff, check_eq_ok_iff, pure_eq_ok_iff, ne_eq, not_not]
  constructor
  · rintro ⟨whole, rest, splits, rfl, rfl⟩
    exact splits
  · intro splits
    exact ⟨paid.units, 0, splits, rfl, rfl⟩

theorem rest_eq_zero {amount : HumanAmount} {decimals : UInt32} {whole rest : Int}
    (splits : Splits amount decimals whole rest) (units : Int)
    (same : (units : ℚ) = amount.value * 10 ^ decimals.toNat) : rest = 0 ∧ whole = units := by
  obtain ⟨places, less, counted⟩ := splits.counts
  have unit : (10 : ℚ) ^ places ≠ 0 := by positivity
  have scaled : ((units - whole : Int) : ℚ) * 10 ^ places = rest := by
    rw [counted] at same
    push_cast
    rw [same]
    field_simp
    ring
  have scaled : (units - whole) * 10 ^ places = rest := by exact_mod_cast scaled
  have none : rest = 0 := Int.eq_zero_of_abs_lt_dvd ⟨units - whole, by rw [← scaled, mul_comm]⟩ less
  refine ⟨none, ?_⟩
  rw [none, mul_eq_zero] at scaled
  have power : (10 : Int) ^ places ≠ 0 := by positivity
  omega

theorem toLedger_eq_ok_iff (amount : HumanAmount) (decimals : UInt32) (paid : LedgerAmount) :
    amount.toLedger decimals = .ok paid ↔
      Convertible amount decimals ∧ (paid.units : ℚ) = amount.value * 10 ^ decimals.toNat := by
  rw [toLedger_splits_iff, ← exists_splits_iff]
  constructor
  · intro splits
    obtain ⟨places, -, counted⟩ := splits.counts
    exact ⟨⟨_, _, splits⟩, by simpa using counted.symm⟩
  · rintro ⟨⟨whole, rest, splits⟩, same⟩
    obtain ⟨rfl, rfl⟩ := rest_eq_zero splits paid.units same
    exact splits

theorem failsOnly_toLedger (amount : HumanAmount) (decimals : UInt32) :
    FailsOnly (fun fault => fault.kind = .invalidInput) (amount.toLedger decimals) := by
  rw [toLedger]
  apply failsOnly_bind _ _ _ (amount.failsOnly_split decimals)
  rintro ⟨whole, rest⟩
  dsimp only
  split_ifs
  · exact failsOnly_error _ _ rfl
  · exact failsOnly_ok _ _

theorem value_units_iff (amount : HumanAmount) (decimals : UInt32) (units : Int) :
    (units : ℚ) = amount.value * 10 ^ decimals.toNat ↔
      (units : ℚ) * 10 ^ amount.scale.toInt = amount.digits * 10 ^ decimals.toNat := by
  have power : (10 : ℚ) ^ amount.scale.toInt ≠ 0 := by positivity
  rw [value, zpow_neg, ← mul_left_inj' power]
  field_simp

/-- An amount of fewer than `2 ^ 32` digits is converted if and only if it is zero, or it is a whole
number of smallest units and its point moves up by at most 1024 places; the result is exact. No step
of the conversion overflows or divides by zero. -/
theorem toLedger_exact (amount : HumanAmount) (decimals : UInt32)
    (few : digitCount amount.digits.natAbs < 2 ^ 32) :
    (∀ paid, amount.toLedger decimals = .ok paid ↔
      (amount.digits = 0 ∧ paid.units = 0) ∨
        (amount.digits ≠ 0 ∧
          (-2 ^ 63 ≤ amount.shift decimals ∧ amount.shift decimals < 2 ^ 63) ∧
          amount.shift decimals ≤ 1024 ∧
          (paid.units : ℚ) * 10 ^ amount.scale.toInt = amount.digits * 10 ^ decimals.toNat)) ∧
    ((¬ ∃ paid, amount.toLedger decimals = .ok paid) →
      ∃ fault, amount.toLedger decimals = .error fault ∧ fault.kind = .invalidInput) ∧
    amount.splitWords decimals = some (amount.split decimals) := by
  refine ⟨?_, (amount.failsOnly_toLedger decimals).exists_fault,
    amount.splitWords_eq decimals (by omega)⟩
  intro paid
  have least := amount.least_shift decimals
  rw [toLedger_eq_ok_iff, convertible_iff amount decimals few, value_units_iff, maxShift]
  by_cases none : amount.digits = 0
  · have power : (10 : ℚ) ^ amount.scale.toInt ≠ 0 := by positivity
    simp [none, power]
  · simp only [none, false_or, false_and, ne_eq, not_false_eq_true, true_and]
    constructor
    · rintro ⟨limit, same⟩
      exact ⟨⟨by omega, by omega⟩, by omega, same⟩
    · rintro ⟨-, limit, same⟩
      exact ⟨by omega, same⟩

theorem trailing_zeros_convert :
    digitCount 1500000000 < 2 ^ 32 ∧
      (⟨1500000000, 9⟩ : HumanAmount).toLedger 6 = .ok ⟨1500000⟩ ∧
      digitCount 10000001 < 2 ^ 32 ∧
      ∃ fault, (⟨10000001, 7⟩ : HumanAmount).toLedger 6 = .error fault ∧
        fault.kind = .invalidInput := by
  have scale : (9 : Int64).toInt = 9 ∧ (7 : Int64).toInt = 7 := by decide
  have decimals : (6 : UInt32).toNat = 6 := by decide
  have few : digitCount 1500000000 < 2 ^ 32 ∧ digitCount 10000001 < 2 ^ 32 := by decide +kernel
  obtain ⟨whole, -⟩ := toLedger_exact ⟨1500000000, 9⟩ 6 few.1
  obtain ⟨part, refused, -⟩ := toLedger_exact ⟨10000001, 7⟩ 6 few.2
  refine ⟨few.1, (whole ⟨1500000⟩).mpr ?_, few.2, refused ?_⟩
  · simp only [shift, scale, decimals]
    norm_num
  · rintro ⟨paid, done⟩
    have same := (part paid).mp done
    simp only [shift, scale, decimals] at same
    norm_num at same
    have apart : paid.units * 10 ≠ 10000001 := by omega
    exact apart (by exact_mod_cast (by linarith : (paid.units * 10 : ℚ) = 10000001))

theorem toLedgerCeil_eq_ok_iff (amount : HumanAmount) (decimals : UInt32) (paid : LedgerAmount) :
    amount.toLedgerCeil decimals = .ok paid ↔
      Convertible amount decimals ∧ paid.units = ⌈amount.value * 10 ^ decimals.toNat⌉ := by
  constructor
  · intro done
    obtain ⟨whole, rest, splits, -⟩ := (toLedgerCeil_splits_iff ..).mp done
    exact ⟨(amount.exists_splits_iff decimals).mp ⟨whole, rest, splits⟩,
      units_toLedgerCeil amount decimals paid done⟩
  · rintro ⟨convertible, units⟩
    obtain ⟨whole, rest, splits⟩ := (amount.exists_splits_iff decimals).mpr convertible
    have done := (toLedgerCeil_splits_iff amount decimals _).mpr ⟨whole, rest, splits, rfl⟩
    have same := units_toLedgerCeil amount decimals _ done
    rw [← units] at same
    rw [done]
    exact congrArg (fun units => Except.ok (LedgerAmount.mk units)) same

theorem failsOnly_toLedgerCeil (amount : HumanAmount) (decimals : UInt32) :
    FailsOnly (fun fault => fault.kind = .invalidInput) (amount.toLedgerCeil decimals) := by
  rw [toLedgerCeil]
  exact failsOnly_bind _ _ _ (amount.failsOnly_split decimals) fun _ => failsOnly_ok _ _

def InReach (amount : HumanAmount) (decimals : UInt32) : Prop :=
  amount.digits = 0 ∨
    (-2 ^ 63 ≤ amount.shift decimals ∧ amount.shift decimals < 2 ^ 63) ∧
      amount.shift decimals ≤ 1024

theorem inReach_iff (amount : HumanAmount) (decimals : UInt32)
    (few : digitCount amount.digits.natAbs < 2 ^ 32) :
    InReach amount decimals ↔ Convertible amount decimals := by
  have least := amount.least_shift decimals
  rw [convertible_iff amount decimals few, InReach, maxShift]
  omega

/-- An amount of fewer than `2 ^ 32` digits that is in reach is rounded up to the least whole number
of smallest units that is not below it. Where it is such a number itself, that is the exact
conversion. -/
theorem toLedgerCeil_least (amount : HumanAmount) (decimals : UInt32)
    (few : digitCount amount.digits.natAbs < 2 ^ 32) :
    (InReach amount decimals →
      ∃ paid, amount.toLedgerCeil decimals = .ok paid ∧
        IsLeast {units : Int | (amount.digits : ℚ) * 10 ^ amount.shift decimals ≤ units}
          paid.units) ∧
    (¬ InReach amount decimals →
      ∃ fault, amount.toLedgerCeil decimals = .error fault ∧ fault.kind = .invalidInput) ∧
    ∀ paid, amount.toLedger decimals = .ok paid → amount.toLedgerCeil decimals = .ok paid := by
  refine ⟨?_, ?_, ?_⟩
  · intro reach
    refine ⟨⟨⌈amount.value * 10 ^ decimals.toNat⌉⟩, ?_, ?_⟩
    · exact (toLedgerCeil_eq_ok_iff ..).mpr ⟨(inReach_iff amount decimals few).mp reach, rfl⟩
    · rw [value_shifted]
      constructor
      · exact Int.le_ceil (amount.digits * 10 ^ amount.shift decimals : ℚ)
      · exact fun units above => Int.ceil_le.mpr above
  · intro beyond
    apply (amount.failsOnly_toLedgerCeil decimals).exists_fault
    rintro ⟨paid, done⟩
    have convertible := ((toLedgerCeil_eq_ok_iff ..).mp done).1
    exact beyond ((inReach_iff amount decimals few).mpr convertible)
  · intro paid done
    obtain ⟨convertible, same⟩ := (toLedger_eq_ok_iff ..).mp done
    refine (toLedgerCeil_eq_ok_iff ..).mpr ⟨convertible, ?_⟩
    rw [← same, Int.ceil_intCast]

theorem negative_half_rounds_up :
    digitCount (-15 : Int).natAbs < 2 ^ 32 ∧ InReach ⟨-15, 1⟩ 0 ∧
      (⟨-15, 1⟩ : HumanAmount).toLedgerCeil 0 = .ok ⟨-1⟩ := by
  have few : digitCount (-15 : Int).natAbs < 2 ^ 32 := by decide +kernel
  have moved : shift ⟨-15, 1⟩ 0 = -1 := by decide
  have reach : InReach ⟨-15, 1⟩ 0 := by
    rw [InReach, moved]
    omega
  obtain ⟨paid, done, above, least⟩ := (toLedgerCeil_least ⟨-15, 1⟩ 0 few).1 reach
  rw [moved] at above least
  have most : paid.units ≤ -1 := least (by norm_num)
  have covers : -15 ≤ paid.units * 10 := by
    have above : ((-15 : Int) : ℚ) * 10 ^ (-1 : Int) ≤ paid.units := above
    norm_num at above
    exact_mod_cast (by linarith : (-15 : ℚ) ≤ paid.units * 10)
  have units : paid.units = -1 := by omega
  exact ⟨few, reach, by rw [done, ← units]⟩

end Multichain.HumanAmount
