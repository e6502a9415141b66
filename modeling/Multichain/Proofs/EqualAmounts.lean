import Mathlib
import Multichain.Proofs.LedgerConversion

/-!
Amounts of one value. Amounts compare as equal exactly if they have one value; they are then
converted alike, unless the limits of conversion refuse one of them for its scale or its number of
digits. Main statements: `compareValue_eq_iff` and `equal_amounts_convert_alike`.
-/

set_option autoImplicit false

namespace Multichain.HumanAmount

theorem scaled_inj (first second : Nat) (power other : Int) (trimmed : ¬ 10 ∣ first)
    (otherTrimmed : ¬ 10 ∣ second) (same : (first : ℚ) * 10 ^ power = second * 10 ^ other) :
    first = second ∧ power = other := by
  have ten : (10 : ℚ) ≠ 0 := by norm_num
  have moved (low high : Nat) (power more : Int) (same : (low : ℚ) * 10 ^ power = high * 10 ^ more)
      (above : power ≤ more) : low = high * 10 ^ (more - power).toNat := by
    have split : (10 : ℚ) ^ more = 10 ^ (more - power).toNat * 10 ^ power := by
      rw [← zpow_natCast, ← zpow_add₀ ten]
      congr 1
      omega
    rw [split, ← mul_assoc] at same
    exact_mod_cast mul_right_cancel₀ (zpow_ne_zero power ten) same
  -- the smaller power would leave a factor of ten to the other number
  have apart (low high : Nat) (power more : Int) (trimmed : ¬ 10 ∣ low)
      (same : (low : ℚ) * 10 ^ power = high * 10 ^ more) : ¬ power < more := by
    intro above
    apply trimmed
    rw [moved low high power more same above.le]
    exact Dvd.dvd.mul_left (dvd_pow_self 10 (by omega)) high
  have power : power = other :=
    le_antisymm (not_lt.mp (apart second first other power otherTrimmed same.symm))
      (not_lt.mp (apart first second power other trimmed same))
  refine ⟨?_, power⟩
  have low := moved first second _ _ same power.le
  simpa [power] using low

structure Trimmed (amount : HumanAmount) (core zeros : Nat) : Prop where
  magnitude : amount.digits.natAbs = core * 10 ^ zeros
  trimmed : ¬ 10 ∣ core

theorem exists_trimmed (amount : HumanAmount) (present : amount.digits ≠ 0) :
    ∃ core zeros, Trimmed amount core zeros := by
  obtain ⟨zeros, core, trimmed, magnitude⟩ :=
    Nat.exists_eq_pow_mul_and_not_dvd (Int.natAbs_ne_zero.mpr present) 10 (by omega)
  exact ⟨core, zeros, by rw [magnitude, mul_comm], trimmed⟩

theorem abs_value (amount : HumanAmount) :
    |amount.value| = amount.digits.natAbs * 10 ^ (-amount.scale.toInt) := by
  have power : (0 : ℚ) < 10 ^ (-amount.scale.toInt) := by positivity
  rw [value, abs_mul, abs_of_pos power, Nat.cast_natAbs, Int.cast_abs]

theorem Trimmed.abs_value {amount : HumanAmount} {core zeros : Nat}
    (trimmed : Trimmed amount core zeros) :
    |amount.value| = core * 10 ^ (zeros - amount.scale.toInt) := by
  have ten : (10 : ℚ) ≠ 0 := by norm_num
  rw [HumanAmount.abs_value, trimmed.magnitude, sub_eq_add_neg, zpow_add₀ ten]
  push_cast
  rw [zpow_natCast, mul_assoc]

theorem Trimmed.magnitudeKey {amount : HumanAmount} {core zeros : Nat}
    (trimmed : Trimmed amount core zeros) :
    amount.magnitudeKey =
      (digitCount core + (zeros - amount.scale.toInt), Text.digits core) := by
  have positive : 0 < core := by
    rcases Nat.eq_zero_or_pos core with rfl | positive
    · exact absurd (dvd_zero 10) trimmed.trimmed
    · exact positive
  have last : (Text.digits core).getLast? ≠ some 0 := by
    have nonzero := trimmed.trimmed
    rw [Text.getLast?_digits, ne_eq, Option.some_inj]
    omega
  have dropped := Text.rdropWhile_zeros (Text.digits core) zeros last
  rw [List.rdropWhile] at dropped
  rw [HumanAmount.magnitudeKey, trimmed.magnitude, Text.digits_mul_pow core zeros positive]
  simp only [dropped, List.length_append, List.length_replicate, digitCount]
  push_cast
  congr 1
  ring

theorem compareDigits_eq_iff (first second : List Nat) :
    compareDigits first second = .eq ↔ first = second := by
  induction first generalizing second with
  | nil => cases second <;> simp [compareDigits]
  | cons digit rest ih =>
    cases second with
    | nil => simp [compareDigits]
    | cons other others =>
      rw [compareDigits, List.cons.injEq, ← ih, ← compare_eq_iff_eq (a := digit)]
      cases compare digit other <;> simp

theorem compareMagnitude_eq_iff (first second : HumanAmount) (present : first.digits ≠ 0)
    (other : second.digits ≠ 0) :
    first.compareMagnitude second = .eq ↔ |first.value| = |second.value| := by
  obtain ⟨core, zeros, trimmed⟩ := exists_trimmed first present
  obtain ⟨otherCore, otherZeros, otherTrimmed⟩ := exists_trimmed second other
  have keys : first.compareMagnitude second = .eq ↔ first.magnitudeKey = second.magnitudeKey := by
    rw [compareMagnitude]
    rcases first.magnitudeKey with ⟨position, digits⟩
    rcases second.magnitudeKey with ⟨otherPosition, otherDigits⟩
    dsimp only
    rw [Prod.mk.injEq, ← compareDigits_eq_iff, ← Std.compare_eq_iff_eq (a := position)]
    cases compare position otherPosition <;> simp
  rw [keys, trimmed.magnitudeKey, otherTrimmed.magnitudeKey, trimmed.abs_value,
    otherTrimmed.abs_value, Prod.mk.injEq]
  constructor
  · rintro ⟨position, digits⟩
    obtain rfl := Text.digits_injective _ _ digits
    rw [add_right_inj] at position
    rw [position]
  · intro same
    obtain ⟨rfl, power⟩ := scaled_inj _ _ _ _ trimmed.trimmed otherTrimmed.trimmed same
    exact ⟨by rw [power], rfl⟩

theorem value_eq_iff (first second : HumanAmount) :
    first.value = second.value ↔
      first.digits.sign = second.digits.sign ∧ |first.value| = |second.value| := by
  have sign (amount : HumanAmount) : SignType.sign amount.value = SignType.sign amount.digits := by
    have power : (0 : ℚ) < 10 ^ (-amount.scale.toInt) := by positivity
    rw [value, sign_mul, sign_pos power, mul_one, sign_intCast]
  have signed (amount : HumanAmount) : amount.value = amount.digits.sign * |amount.value| := by
    have digits : ((amount.digits.sign * amount.digits.natAbs : Int) : ℚ) = amount.digits := by
      rw [Int.sign_mul_natAbs]
    rw [Int.cast_mul, Int.cast_natCast] at digits
    rw [abs_value, ← mul_assoc, digits, value]
  constructor
  · intro same
    rw [Int.sign_eq_sign, Int.sign_eq_sign, ← sign, ← sign, same]
    exact ⟨rfl, rfl⟩
  · rintro ⟨sign, magnitude⟩
    rw [signed first, signed second, sign, magnitude]

theorem compareValue_eq_iff (first second : HumanAmount) :
    first.compareValue second = .eq ↔ first.value = second.value := by
  rw [value_eq_iff, ← compare_eq_iff_eq (a := first.digits.sign), compareValue]
  cases signs : compare first.digits.sign second.digits.sign with
  | lt => simp
  | gt => simp
  | eq =>
    have sign : first.digits.sign = second.digits.sign := compare_eq_iff_eq.mp signs
    have both : first.digits = 0 ↔ second.digits = 0 := by
      rw [← Int.sign_eq_zero_iff_zero, sign, Int.sign_eq_zero_iff_zero]
    simp only [true_and]
    split_ifs with none negative
    · simp [value, none, both.mp none]
    · rw [compareMagnitude_eq_iff second first (mt both.mpr none) none, eq_comm]
    · rw [compareMagnitude_eq_iff first second none (mt both.mpr none)]

theorem equal_amounts_convert_alike (first second : HumanAmount) (decimals : UInt32)
    (same : first.compareValue second = .eq) :
    (∀ paid other, first.toLedger decimals = .ok paid → second.toLedger decimals = .ok other →
        paid = other) ∧
      (∀ paid other, first.toLedgerCeil decimals = .ok paid →
        second.toLedgerCeil decimals = .ok other → paid = other) ∧
      (((first.toLedger decimals).toOption = (second.toLedger decimals).toOption ∧
          (first.toLedgerCeil decimals).toOption = (second.toLedgerCeil decimals).toOption) ↔
        (Convertible first decimals ↔ Convertible second decimals)) := by
  have value : first.value = second.value := (compareValue_eq_iff ..).mp same
  simp only [Outcome.toOption_eq_iff, toLedger_eq_ok_iff, toLedgerCeil_eq_ok_iff, value]
  refine ⟨?_, ?_, ?_⟩
  · rintro ⟨paid⟩ ⟨other⟩ ⟨-, units⟩ ⟨-, others⟩
    rw [← others, Int.cast_inj] at units
    exact congrArg LedgerAmount.mk units
  · rintro ⟨paid⟩ ⟨other⟩ ⟨-, units⟩ ⟨-, others⟩
    exact congrArg LedgerAmount.mk (units.trans others.symm)
  constructor
  · rintro ⟨-, ceil⟩
    have covered := ceil ⟨⌈second.value * 10 ^ decimals.toNat⌉⟩
    simpa using covered
  · intro limits
    simp [limits]

theorem trailing_zeros_alike :
    compareValue ⟨15, 1⟩ ⟨1500, 3⟩ = .eq ∧
      ((⟨15, 1⟩ : HumanAmount).toLedger 6).toOption =
        ((⟨1500, 3⟩ : HumanAmount).toLedger 6).toOption ∧
      (⟨1500, 3⟩ : HumanAmount).toLedger 6 = .ok ⟨1500000⟩ := by
  have same : compareValue ⟨15, 1⟩ ⟨1500, 3⟩ = .eq := by decide +kernel
  have few : Convertible ⟨15, 1⟩ 6 := .inr (by decide)
  have less : Convertible ⟨1500, 3⟩ 6 := .inr (by decide)
  obtain ⟨-, -, alike⟩ := equal_amounts_convert_alike _ _ 6 same
  exact ⟨same, (alike.mpr (iff_of_true few less)).1, by decide +kernel⟩

theorem places_limited_digits_not :
    compareValue ⟨1, -1025⟩ ⟨10, -1024⟩ = .eq ∧
      (⟨1, -1025⟩ : HumanAmount).toLedger 0 = .error (.magnitude 1024) ∧
      (⟨10, -1024⟩ : HumanAmount).toLedger 0 = .ok ⟨10 ^ 1025⟩ ∧
      ((⟨1, -1025⟩ : HumanAmount).toLedger 0).toOption ≠
        ((⟨10, -1024⟩ : HumanAmount).toLedger 0).toOption := by
  decide +kernel

end Multichain.HumanAmount
