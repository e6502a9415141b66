import Mathlib
import Multichain.Amount
import Multichain.Text.Basic

/-!
Decimal digits: a number has exactly one numeral without a leading zero, and reading it gives the
number back, by either grammar and as an amount.
-/

set_option autoImplicit false

namespace Multichain.Text

theorem digits_of_lt (number : Nat) (small : number < 10) : digits number = [number] := by
  rw [digits, if_pos small]

theorem digits_of_ge (number : Nat) (large : 10 ≤ number) :
    digits number = digits (number / 10) ++ [number % 10] := by
  rw [digits, if_neg (by omega)]

theorem digits_ne_nil (number : Nat) : digits number ≠ [] := by
  rw [digits]
  split <;> simp

theorem digit_lt (number : Nat) : ∀ digit ∈ digits number, digit < 10 := by
  induction number using Nat.strong_induction_on with
  | _ number ih =>
    by_cases small : number < 10
    · simp [digits_of_lt number small, small]
    · rw [digits_of_ge number (by omega)]
      intro digit member
      rcases List.mem_append.mp member with before | last
      · exact ih (number / 10) (by omega) digit before
      · rw [List.mem_singleton] at last
        omega

theorem ofDigits_append (first : List Nat) (last : Nat) :
    ofDigits (first ++ [last]) = ofDigits first * 10 + last := by
  simp [ofDigits]

@[simp]
theorem ofDigits_digits (number : Nat) : ofDigits (digits number) = number := by
  induction number using Nat.strong_induction_on with
  | _ number ih =>
    by_cases small : number < 10
    · simp [digits_of_lt number small, ofDigits]
    · rw [digits_of_ge number (by omega), ofDigits_append, ih (number / 10) (by omega)]
      omega

theorem lt_pow_length_digits (number : Nat) : number < 10 ^ (digits number).length := by
  induction number using Nat.strong_induction_on with
  | _ number ih =>
    by_cases small : number < 10
    · simpa [digits_of_lt number small] using small
    · have quotient := ih (number / 10) (by omega)
      rw [digits_of_ge number (by omega), List.length_append, List.length_singleton, pow_succ]
      omega

theorem head?_digits (number : Nat) (zero : (digits number).head? = some 0) : number = 0 := by
  induction number using Nat.strong_induction_on with
  | _ number ih =>
    by_cases small : number < 10
    · simpa [digits_of_lt number small] using zero
    · rw [digits_of_ge number (by omega), List.head?_append_of_ne_nil _ (digits_ne_nil _)] at zero
      have quotient := ih (number / 10) (by omega) zero
      omega

theorem ofDigits_padded (zeros : Nat) (values : List Nat) :
    ofDigits (List.replicate zeros 0 ++ values) = ofDigits values := by
  induction zeros with
  | zero => rfl
  | succ zeros ih =>
    rw [← ih]
    rfl

theorem ofDigits_zeros (values : List Nat) (zeros : Nat) :
    ofDigits (values ++ List.replicate zeros 0) = ofDigits values * 10 ^ zeros := by
  induction zeros with
  | zero => simp
  | succ zeros ih =>
    rw [List.replicate_succ', ← List.append_assoc, ofDigits_append, ih]
    ring

theorem rdropWhile_zeros (values : List Nat) (zeros : Nat) (trimmed : values.getLast? ≠ some 0) :
    (values ++ List.replicate zeros 0).rdropWhile (· == 0) = values := by
  induction zeros with
  | zero =>
    rw [List.replicate_zero, List.append_nil, List.rdropWhile_eq_self_iff]
    intro filled zero
    rw [List.getLast?_eq_some_getLast filled] at trimmed
    exact trimmed (congrArg some (beq_iff_eq.mp zero))
  | succ zeros ih =>
    rw [List.replicate_succ', ← List.append_assoc, List.rdropWhile_concat_pos _ _ _ rfl, ih]

theorem exists_dropped_zeros (values : List Nat) :
    ∃ zeros, values = values.rdropWhile (· == 0) ++ List.replicate zeros 0 := by
  induction values using List.reverseRecOn with
  | nil => exact ⟨0, rfl⟩
  | append_singleton values digit ih =>
    rw [List.rdropWhile_concat]
    split_ifs with zero
    · obtain ⟨zeros, same⟩ := ih
      refine ⟨zeros + 1, ?_⟩
      rw [List.replicate_succ', ← List.append_assoc, ← same, beq_iff_eq.mp zero]
    · exact ⟨0, (List.append_nil _).symm⟩

theorem getLast?_rdropWhile (values : List Nat) :
    (values.rdropWhile (· == 0)).getLast? ≠ some 0 := by
  intro zero
  obtain ⟨filled, last⟩ := List.getLast?_eq_some_iff.mp zero
  have kept := List.rdropWhile_last_not (· == 0) values (by simp [last])
  simp [last] at kept

theorem digits_mul_pow (number zeros : Nat) (positive : 0 < number) :
    digits (number * 10 ^ zeros) = digits number ++ List.replicate zeros 0 := by
  induction zeros with
  | zero => simp
  | succ zeros ih =>
    have large : 10 ≤ number * 10 ^ (zeros + 1) := by
      have unit : 0 < 10 ^ zeros := by positivity
      rw [pow_succ, ← mul_assoc]
      exact Nat.le_mul_of_pos_left 10 (Nat.mul_pos positive unit)
    rw [digits_of_ge _ large, pow_succ, ← mul_assoc, Nat.mul_div_cancel _ (by omega),
      Nat.mul_mod_left, ih, List.replicate_succ', List.append_assoc]

theorem getLast?_digits (number : Nat) : (digits number).getLast? = some (number % 10) := by
  by_cases small : number < 10
  · rw [digits_of_lt number small, Nat.mod_eq_of_lt small]
    rfl
  · rw [digits_of_ge number (by omega), List.getLast?_concat]

theorem digits_injective (first second : Nat) (same : digits first = digits second) :
    first = second := by
  rw [← ofDigits_digits first, same, ofDigits_digits]

theorem digitValue?_digitChar : ∀ digit < 10, digitValue? (digitChar digit) = some digit := by
  decide

section Digits

variable (values : List Nat) (small : ∀ digit ∈ values, digit < 10)
include small

theorem mapM_digitValue? : (values.map digitChar).mapM digitValue? = some values := by
  induction values with
  | nil => rfl
  | cons digit rest ih =>
    simp only [List.map_cons, List.mapM_cons, digitValue?_digitChar digit (small digit (by simp)),
      ih fun other member => small other (by simp [member])]
    rfl

theorem mem_digitChars (char : Char) (member : char ∈ values.map digitChar) :
    '0' ≤ char ∧ char ≤ '9' := by
  have range : ∀ digit < 10, '0' ≤ digitChar digit ∧ digitChar digit ≤ '9' := by decide
  obtain ⟨digit, found, rfl⟩ := List.mem_map.mp member
  exact range digit (small digit found)

theorem ne_of_mem_digitChars (char other : Char) (member : char ∈ values.map digitChar)
    (outside : ¬ ('0' ≤ other ∧ other ≤ '9')) : char ≠ other := by
  rintro rfl
  exact outside (mem_digitChars values small char member)

theorem rdropWhile_digitChars :
    (values.map digitChar).rdropWhile (· == '0') =
      (values.rdropWhile (· == 0)).map digitChar := by
  have zero : ∀ digit < 10, (digitChar digit == '0') = (digit == 0) := by decide
  induction values using List.reverseRecOn with
  | nil => rfl
  | append_singleton values digit ih =>
    have last := zero digit (small digit (by simp))
    have before := ih fun other member => small other (by simp [member])
    rw [List.map_append, List.map_singleton, List.rdropWhile_concat, List.rdropWhile_concat, last,
      before]
    split_ifs <;> simp

theorem digitsValue?_digitChars :
    digitsValue? ((values.map digitChar).filter (· ≠ '_')) = .ok (ofDigits values) := by
  have kept : (values.map digitChar).filter (· ≠ '_') = values.map digitChar := by
    rw [List.filter_eq_self]
    intro char member
    simpa using ne_of_mem_digitChars values small char '_' member (by decide)
  rw [kept, digitsValue?, mapM_digitValue? values small]

theorem splitSign_digitChars :
    splitSign (values.map digitChar) = (false, values.map digitChar) := by
  cases chars : values.map digitChar with
  | nil => rfl
  | cons char rest =>
    have head : char ∈ values.map digitChar := by simp [chars]
    have minus := ne_of_mem_digitChars values small char '-' head (by decide)
    have plus := ne_of_mem_digitChars values small char '+' head (by decide)
    unfold splitSign
    split <;> simp_all

theorem readGrouped_digitChars (negative : Bool) (some : values ≠ []) :
    readGrouped ((if negative then ['-'] else []) ++ values.map digitChar) =
      .ok (signed negative (ofDigits values)) := by
  have split : splitSign ((if negative then ['-'] else []) ++ values.map digitChar) =
      (negative, values.map digitChar) := by
    cases negative with
    | true => rfl
    | false => exact splitSign_digitChars values small
  have value := digitsValue?_digitChars values small
  unfold readGrouped
  rw [split]
  cases chars : values.map digitChar with
  | nil => exact absurd (List.map_eq_nil_iff.mp chars) some
  | cons char rest =>
    have head : char ∈ values.map digitChar := by simp [chars]
    have mark := ne_of_mem_digitChars values small char '_' head (by decide)
    rw [chars] at value
    simp only [value]
    split
    · contradiction
    · simp_all
    · rfl

end Digits

theorem natural_injective (first second : Nat) (same : natural first = natural second) :
    first = second := by
  have chars : naturalChars first = naturalChars second := by
    simpa [natural] using congrArg String.toList same
  apply digits_injective
  rw [← Option.some_inj, ← mapM_digitValue? _ (digit_lt first), ← mapM_digitValue? _ (digit_lt second)]
  exact congrArg (List.mapM digitValue?) chars

@[simp]
theorem readGrouped_integerChars (number : Int) : readGrouped (integerChars number) = .ok number := by
  have read (magnitude : Nat) (negative : Bool) :=
    readGrouped_digitChars (digits magnitude) (digit_lt magnitude) negative (digits_ne_nil magnitude)
  simp only [ofDigits_digits] at read
  cases number with
  | ofNat magnitude => exact read magnitude false
  | negSucc magnitude => exact read (magnitude + 1) true

theorem integer_injective (first second : Int) (same : integer first = integer second) :
    first = second := by
  have chars : integerChars first = integerChars second := by
    simpa [integer] using congrArg String.toList same
  have read := readGrouped_integerChars first
  rw [chars, readGrouped_integerChars] at read
  exact (Except.ok.inj read).symm

def foldDigits (total : Nat) (digits : List Nat) : Nat :=
  digits.foldl (fun total digit => total * 10 + digit) total

theorem le_foldDigits (total : Nat) (digits : List Nat) : total ≤ foldDigits total digits := by
  induction digits generalizing total with
  | nil => exact Nat.le_refl total
  | cons digit rest ih =>
    have after := ih (total * 10 + digit)
    rw [foldDigits, List.foldl_cons]
    exact Nat.le_trans (by omega) after

-- Numbers only grow as digits are added, so the bound is passed at some digit exactly when the
-- whole number passes it.
theorem readDigits_map (high total : Nat) (values : List Nat) (small : ∀ digit ∈ values, digit < 10)
    (within : total ≤ high) :
    readDigits 0 high false total (values.map digitChar) =
      if foldDigits total values ≤ high then .ok (foldDigits total values : Nat)
      else .error .tooLarge := by
  induction values generalizing total with
  | nil => simp [readDigits, foldDigits, within]
  | cons digit rest ih =>
    have known := digitValue?_digitChar digit (small digit (by simp))
    have grows := le_foldDigits (total * 10 + digit) rest
    have next : (total : Int) * 10 + signed false digit = (total * 10 + digit : Nat) := by
      simp [signed]
    have whole : foldDigits total (digit :: rest) = foldDigits (total * 10 + digit) rest := rfl
    simp only [List.map_cons, readDigits, known, next, whole]
    rw [if_neg (by omega)]
    by_cases above : high < total * 10 + digit
    · rw [if_pos (by omega), if_neg (by omega)]
    · rw [if_neg (by omega)]
      exact ih _ (fun other member => small other (by simp [member])) (by omega)

theorem readPlain_natural (high number : Nat) :
    readPlain 0 high (natural number) =
      if number ≤ high then .ok (number : Int) else .error .tooLarge := by
  have read := readDigits_map high 0 (digits number) (digit_lt number) (Nat.zero_le high)
  have value : foldDigits 0 (digits number) = number := ofDigits_digits number
  rw [value] at read
  rw [← read]
  unfold readPlain
  have toList : (natural number).toList = naturalChars number := by simp [natural]
  rw [toList]
  cases chars : naturalChars number with
  | nil => exact absurd (List.map_eq_nil_iff.mp chars) (digits_ne_nil number)
  | cons char rest =>
    have head : char ∈ (digits number).map digitChar := by
      rw [← naturalChars, chars]
      exact List.mem_cons_self
    have minus := ne_of_mem_digitChars _ (digit_lt number) char '-' head (by decide)
    have plus := ne_of_mem_digitChars _ (digit_lt number) char '+' head (by decide)
    unfold naturalChars at chars
    rw [chars]
    split <;> simp_all

theorem readWord_natural (number : Nat) :
    readWord (natural number) =
      if number < 2 ^ 64 then .ok (UInt64.ofNat number) else .error .tooLarge := by
  have read := readPlain_natural 0xFFFFFFFFFFFFFFFF number
  simp only [readWord]
  simp only [Nat.cast_ofNat] at read
  rw [read]
  by_cases word : number < 2 ^ 64
  · rw [if_pos word, if_pos (by omega)]
    rfl
  · rw [if_neg word, if_neg (by omega)]
    rfl

theorem trim_eq_self (text : String) (visible : ∀ char ∈ text.toList, isBlank char = false) :
    trim text = text := by
  have kept (chars : List Char) (all : ∀ char ∈ chars, isBlank char = false) :
      chars.dropWhile isBlank = chars := by
    cases chars with
    | nil => rfl
    | cons char rest => simp [all char (by simp)]
  have back := kept text.toList.reverse fun char member => visible char (by simpa using member)
  rw [trim, trimStart, kept text.toList visible, trimEnd, back, List.reverse_reverse,
    String.ofList_toList]

theorem isBlank_digit (char : Char) (digit : '0' ≤ char ∧ char ≤ '9') : isBlank char = false := by
  have least : 48 ≤ char.toNat := digit.1
  have most : char.toNat ≤ 57 := digit.2
  simp only [isBlank, Bool.or_eq_false_iff, Bool.and_eq_false_iff, decide_eq_false_iff_not,
    beq_eq_false_iff_ne]
  omega

theorem isBlank_integerChars (number : Int) : ∀ char ∈ integerChars number, isBlank char = false := by
  have natural (magnitude : Nat) : ∀ char ∈ naturalChars magnitude, isBlank char = false :=
    fun char member => isBlank_digit char (mem_digitChars _ (digit_lt magnitude) char member)
  cases number with
  | ofNat magnitude => exact natural magnitude
  | negSucc magnitude =>
    intro char member
    rcases List.mem_cons.mp member with rfl | rest
    · decide
    · exact natural (magnitude + 1) char rest

end Multichain.Text

namespace Multichain.LedgerAmount

theorem ofText_text (amount : LedgerAmount) : ofText amount.text = .ok amount := by
  have chars : amount.text.toList = Text.integerChars amount.units := by simp [text, Text.integer]
  have plain : Text.trim amount.text = amount.text :=
    Text.trim_eq_self _ (chars ▸ Text.isBlank_integerChars amount.units)
  rw [ofText, plain, chars, Text.readGrouped_integerChars]

end Multichain.LedgerAmount
