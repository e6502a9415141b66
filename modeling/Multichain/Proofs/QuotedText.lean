import Mathlib
import Multichain.Text.Quoted

/-!
Quoted texts tell what they quote: no character is written as the beginning of what another one is
written as, and a numeral ends at the mark behind it. Main statement: `quoted_injective`.
-/

set_option autoImplicit false

namespace Multichain.Text

theorem append_mark_inj (mark : Char) (first second rest others : List Char) (inside : mark ∉ first)
    (inside' : mark ∉ second) (same : first ++ mark :: rest = second ++ mark :: others) :
    first = second ∧ rest = others := by
  have cut (text after : List Char) (none : mark ∉ text) :
      (text ++ mark :: after).takeWhile (· ≠ mark) = text := by
    rw [List.takeWhile_append_of_pos]
    · simp
    · intro char member
      simpa using ne_of_mem_of_not_mem member none
  have texts : first = second := by
    rw [← cut first rest inside, same, cut second others inside']
  rw [texts, List.append_cancel_left_eq, List.cons.injEq] at same
  exact ⟨texts, same.2⟩

theorem hexChars_of_lt (number : Nat) (small : number < 16) : hexChars number = [hexDigit number] := by
  rw [hexChars, if_pos small]

theorem hexChars_of_ge (number : Nat) (large : 16 ≤ number) :
    hexChars number = hexChars (number / 16) ++ [hexDigit (number % 16)] := by
  rw [hexChars, if_neg (by omega)]

theorem hexChars_ne_nil (number : Nat) : hexChars number ≠ [] := by
  rw [hexChars]
  split <;> simp

theorem hexDigit_inj : ∀ first < 16, ∀ second < 16, hexDigit first = hexDigit second →
    first = second := by
  decide

theorem hexChars_injective (first second : Nat) (same : hexChars first = hexChars second) :
    first = second := by
  induction first using Nat.strong_induction_on generalizing second with
  | _ first ih =>
    by_cases small : first < 16 <;> by_cases low : second < 16
    · rw [hexChars_of_lt first small, hexChars_of_lt second low, List.singleton_inj] at same
      exact hexDigit_inj first small second low same
    · rw [hexChars_of_lt first small, hexChars_of_ge second (by omega)] at same
      have none := (List.append_eq_singleton_iff.mp same.symm)
      simp [hexChars_ne_nil] at none
    · rw [hexChars_of_ge first (by omega), hexChars_of_lt second low] at same
      have none := (List.append_eq_singleton_iff.mp same)
      simp [hexChars_ne_nil] at none
    · rw [hexChars_of_ge first (by omega), hexChars_of_ge second (by omega)] at same
      obtain ⟨before, last⟩ := List.append_inj' same rfl
      have quotient := ih (first / 16) (by omega) (second / 16) before
      have digit := hexDigit_inj (first % 16) (by omega) (second % 16) (by omega)
        (List.singleton_inj.mp last)
      omega

theorem brace_notMem_hexChars (number : Nat) : '\x7d' ∉ hexChars number := by
  have plain : ∀ digit < 16, '\x7d' ≠ hexDigit digit := by decide
  induction number using Nat.strong_induction_on with
  | _ number ih =>
    by_cases small : number < 16
    · simpa [hexChars_of_lt number small] using plain number small
    · rw [hexChars_of_ge number (by omega), List.mem_append, List.mem_singleton, not_or]
      exact ⟨ih (number / 16) (by omega), plain _ (by omega)⟩

def namedEscapes : List (Char × Char) :=
  [('\x00', '0'), ('\t', 't'), ('\r', 'r'), ('\n', 'n'), ('\\', '\\'), ('"', '"')]

def codeEscape (char : Char) : List Char :=
  ['\\', 'u', '\x7b'] ++ hexChars char.toNat ++ ['\x7d']

theorem namedEscapes_inj : ∀ first ∈ namedEscapes, ∀ second ∈ namedEscapes,
    first.2 = second.2 → first.1 = second.1 := by
  decide

theorem namedEscapes_ne_u : ∀ escape ∈ namedEscapes, escape.2 ≠ 'u' := by
  decide

inductive Shape (char : Char) : List Char → Prop
  | named (letter : Char) (known : (char, letter) ∈ namedEscapes) : Shape char ['\\', letter]
  | code : Shape char (codeEscape char)
  | plain (free : char ≠ '\\') : Shape char [char]

theorem shape_quotedChar (char : Char) : Shape char (quotedChar ['"'] char) := by
  unfold quotedChar
  split_ifs with nul tab carriage feed quoted hidden
  · exact .named '0' (by simp [nul, namedEscapes])
  · exact .named 't' (by simp [tab, namedEscapes])
  · exact .named 'r' (by simp [carriage, namedEscapes])
  · exact .named 'n' (by simp [feed, namedEscapes])
  · apply Shape.named char
    rw [List.mem_singleton] at quoted
    cases quoted with
    | inl backslash => simp [backslash, namedEscapes]
    | inr quote => simp [quote, namedEscapes]
  · exact .code
  · exact .plain fun backslash => quoted (.inl backslash)

theorem codeEscape_append_inj (first second : Char) (rest others : List Char)
    (same : codeEscape first ++ rest = codeEscape second ++ others) :
    first = second ∧ rest = others := by
  simp only [codeEscape, List.append_assoc, List.append_cancel_left_eq] at same
  obtain ⟨numerals, after⟩ := append_mark_inj _ _ _ rest others (brace_notMem_hexChars _)
    (brace_notMem_hexChars _) same
  exact ⟨Char.toNat_inj.mp (hexChars_injective _ _ numerals), after⟩

theorem shape_append_inj (first second : Char) (written other rest others : List Char)
    (shape : Shape first written) (shape' : Shape second other)
    (same : written ++ rest = other ++ others) : first = second ∧ rest = others := by
  cases shape with
  | named letter known =>
    cases shape' with
    | named letter' known' =>
      simp only [List.cons_append, List.nil_append, List.cons.injEq, true_and] at same
      exact ⟨namedEscapes_inj _ known _ known' same.1, same.2⟩
    | code =>
      simp only [codeEscape, List.cons_append, List.nil_append, List.cons.injEq, true_and] at same
      exact absurd same.1 (namedEscapes_ne_u _ known)
    | plain free =>
      simp only [List.cons_append, List.cons.injEq] at same
      exact absurd same.1.symm free
  | code =>
    cases shape' with
    | named letter known =>
      simp only [codeEscape, List.cons_append, List.nil_append, List.cons.injEq, true_and] at same
      exact absurd same.1.symm (namedEscapes_ne_u _ known)
    | code => exact codeEscape_append_inj first second rest others same
    | plain free =>
      simp only [codeEscape, List.cons_append, List.cons.injEq] at same
      exact absurd same.1.symm free
  | plain free =>
    cases shape' with
    | named letter known =>
      simp only [List.cons_append, List.cons.injEq] at same
      exact absurd same.1 free
    | code =>
      simp only [codeEscape, List.cons_append, List.cons.injEq] at same
      exact absurd same.1 free
    | plain free' =>
      simp only [List.cons_append, List.nil_append, List.cons.injEq] at same
      exact same

theorem shape_ne_nil (char : Char) (written : List Char) (shape : Shape char written) :
    written ≠ [] := by
  cases shape <;> simp [codeEscape]

theorem flatMap_quotedChar_inj (first second : List Char)
    (same : first.flatMap (quotedChar ['"']) = second.flatMap (quotedChar ['"'])) :
    first = second := by
  have present (char : Char) : quotedChar ['"'] char ≠ [] := shape_ne_nil _ _ (shape_quotedChar char)
  induction first generalizing second with
  | nil =>
    cases second with
    | nil => rfl
    | cons char rest =>
      rw [List.flatMap_nil, List.flatMap_cons] at same
      exact absurd (List.append_eq_nil_iff.mp same.symm).1 (present char)
  | cons char rest ih =>
    cases second with
    | nil =>
      rw [List.flatMap_nil, List.flatMap_cons] at same
      exact absurd (List.append_eq_nil_iff.mp same).1 (present char)
    | cons other others =>
      rw [List.flatMap_cons, List.flatMap_cons] at same
      obtain ⟨rfl, tails⟩ := shape_append_inj _ _ _ _ _ _ (shape_quotedChar char)
        (shape_quotedChar other) same
      rw [ih others tails]

theorem quoted_injective (first second : String) (same : quoted first = quoted second) :
    first = second := by
  have inside : first.toList.flatMap (quotedChar ['"']) =
      second.toList.flatMap (quotedChar ['"']) := by
    simpa [quoted] using congrArg String.toList same
  exact String.toList_injective (flatMap_quotedChar_inj _ _ inside)

end Multichain.Text
