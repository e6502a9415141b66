import Mathlib
import Multichain.Proofs.AmountValue

/-!
Splitting an amount in machine words. The scale and the shift are words of 64 bits and exponents are
words of 32 bits; no step on them overflows, and no division is by zero. Main statement:
`splitWords_eq`.
-/

set_option autoImplicit false

namespace Multichain

namespace Word

def subtract? (first second : Int64) : Option Int64 :=
  let exact := first.toInt - second.toInt
  if -2 ^ 63 ≤ exact ∧ exact < 2 ^ 63 then some (first - second) else none

def negate? (number : Int64) : Option Int64 :=
  if number = Int64.minValue then none else some (-number)

def divide? (dividend divisor : Int) : Option (Int × Int) :=
  if divisor = 0 then none else some (dividend.tdiv divisor, dividend.tmod divisor)

def powerOfTen (exponent : Int64) : Except Fault Int :=
  if 0 ≤ exponent ∧ exponent ≤ 0xFFFFFFFF then .ok (10 ^ exponent.toInt.toNat)
  else .error .exponentRange

theorem subtract?_eq_none_iff (first second : Int64) :
    subtract? first second = none ↔
      first.toInt - second.toInt < -2 ^ 63 ∨ 2 ^ 63 ≤ first.toInt - second.toInt := by
  rw [subtract?]
  split_ifs with inside
  · simp only [false_iff]
    omega
  · simp only [true_iff]
    omega

theorem toInt_subtract? (first second difference : Int64)
    (inside : subtract? first second = some difference) :
    difference.toInt = first.toInt - second.toInt := by
  rw [subtract?] at inside
  split_ifs at inside with range
  obtain rfl := Option.some.inj inside
  rw [Int64.toInt_sub]
  exact Int.bmod_eq_of_le (by omega) (by omega)

theorem negate?_eq (number : Int64) (more : -2 ^ 63 < number.toInt) :
    ∃ opposite, negate? number = some opposite ∧ opposite.toInt = -number.toInt := by
  have apart : number ≠ Int64.minValue := by
    rintro rfl
    rw [Int64.toInt_minValue] at more
    omega
  have most := number.toInt_lt
  refine ⟨-number, by rw [negate?, if_neg apart], ?_⟩
  rw [Int64.toInt_neg]
  exact Int.bmod_eq_of_le (by omega) (by omega)

theorem powerOfTen_eq (exponent : Int64) (least : 0 ≤ exponent.toInt) :
    powerOfTen exponent =
      if HumanAmount.maxPlaces < exponent.toInt then .error .exponentRange
      else .ok (10 ^ exponent.toInt.toNat) := by
  have most : (0xFFFFFFFF : Int64).toInt = HumanAmount.maxPlaces := by decide
  have zero : (0 : Int64).toInt = 0 := by decide
  simp only [powerOfTen, Int64.le_iff_toInt_le, most, zero]
  by_cases above : HumanAmount.maxPlaces < exponent.toInt
  · rw [if_pos above, if_neg (by omega)]
  · rw [if_neg above, if_pos (by omega)]

end Word

namespace HumanAmount

open Word

/-- The split, computed in words of 64 bits. A step that overflows or divides by zero has no result,
except that an overflow of the first difference is a fault of the amount. -/
def splitWords (amount : HumanAmount) (decimals : UInt32) : Option (Except Fault (Int × Int)) :=
  if amount.digits = 0 then some (.ok (0, 0))
  else
    match subtract? (Int64.ofNat decimals.toNat) amount.scale with
    | none => some (.error .exponentRange)
    | some shift =>
      if 0 ≤ shift then
        if 1024 < shift then some (.error (.magnitude maxShift))
        else some ((powerOfTen shift).map fun unit => (amount.digits * unit, 0))
      else if UInt64.ofNat (digitCount amount.digits.natAbs) <
          UInt64.ofNat shift.toInt.natAbs then some (.ok (0, amount.digits))
      else do
        let places ← negate? shift
        match powerOfTen places with
        | .error fault => return .error fault
        | .ok unit => return .ok (← divide? amount.digits unit)

theorem splitWords_eq (amount : HumanAmount) (decimals : UInt32)
    (few : digitCount amount.digits.natAbs < 2 ^ 64) :
    amount.splitWords decimals = some (amount.split decimals) := by
  have word : (Int64.ofNat decimals.toNat).toInt = decimals.toNat := by
    have most := decimals.toNat_lt
    exact Int64.toInt_ofNat_of_lt (by omega)
  have zero : (0 : Int64).toInt = 0 := by decide
  have limit : (1024 : Int64).toInt = maxShift := by decide
  have least := amount.least_shift decimals
  rw [splitWords, split_eq]
  by_cases none : amount.digits = 0
  · rw [if_pos none, if_pos none]
  rw [if_neg none, if_neg none]
  cases difference : subtract? (Int64.ofNat decimals.toNat) amount.scale with
  | none =>
    rw [subtract?_eq_none_iff, word] at difference
    have outside : amount.shift decimals < -2 ^ 63 ∨ 2 ^ 63 ≤ amount.shift decimals := difference
    rw [if_pos outside]
  | some places =>
    have moved : places.toInt = amount.shift decimals := by
      rw [toInt_subtract? _ _ _ difference, word, shift]
    have range := places.toInt_lt
    have inside : ¬ (amount.shift decimals < -2 ^ 63 ∨ 2 ^ 63 ≤ amount.shift decimals) := by
      omega
    have up : 0 ≤ places ↔ 0 ≤ amount.shift decimals := by
      rw [Int64.le_iff_toInt_le, zero, moved]
    have many : 1024 < places ↔ maxShift < amount.shift decimals := by
      rw [Int64.lt_iff_toInt_lt, limit, moved]
    rw [if_neg inside]
    simp only [up, many]
    by_cases upward : 0 ≤ amount.shift decimals
    · rw [if_pos upward, if_pos upward]
      split_ifs with above
      · rfl
      · have computed : ¬ maxPlaces < places.toInt := by
          rw [maxShift] at above
          rw [maxPlaces]
          omega
        rw [powerOfTen_eq places (by omega), if_neg computed, moved]
        rfl
    · rw [if_neg upward, if_neg upward]
      obtain ⟨opposite, negated, below⟩ := negate?_eq places (by omega)
      have fits : places.toInt.natAbs < UInt64.size := by
        rw [UInt64.size]
        omega
      have small : UInt64.ofNat (digitCount amount.digits.natAbs) <
          UInt64.ofNat places.toInt.natAbs ↔
            digitCount amount.digits.natAbs < -amount.shift decimals := by
        rw [UInt64.lt_iff_toNat_lt, UInt64.toNat_ofNat_of_lt' few, UInt64.toNat_ofNat_of_lt' fits]
        omega
      rw [moved] at below
      have computed := powerOfTen_eq opposite (by omega)
      rw [below] at computed
      simp only [small, negated, Option.bind_eq_bind, Option.bind_some, computed]
      have unit : (10 : Int) ^ (-amount.shift decimals).toNat ≠ 0 := by positivity
      split_ifs
      · rfl
      · rfl
      · simp only [divide?, if_neg unit]
        rfl

end HumanAmount

end Multichain
