/-!
What texts begin with, blanks at their ends, and decimal numerals. A plain numeral is an optional
sign and ASCII digits, within given bounds; a grouped numeral may also hold underscores after its
first digit, and has no bounds.
-/

set_option autoImplicit false

namespace Multichain.Text

def afterStart? (start chars : List Char) : Option (List Char) :=
  if start.isPrefixOf chars then some (chars.drop start.length) else none

def isBlank (char : Char) : Bool :=
  let code := char.toNat
  (9 ≤ code && code ≤ 13) || code == 0x20 || code == 0x85 || code == 0xA0 || code == 0x1680 ||
    (0x2000 ≤ code && code ≤ 0x200A) || code == 0x2028 || code == 0x2029 || code == 0x202F ||
    code == 0x205F || code == 0x3000

def trimStart (chars : List Char) : List Char :=
  chars.dropWhile isBlank

def trimEnd (chars : List Char) : List Char :=
  (chars.reverse.dropWhile isBlank).reverse

def trim (text : String) : String :=
  String.ofList (trimEnd (trimStart text.toList))

inductive NumeralFault where
  | empty
  | invalidDigit
  | tooLarge
  | tooSmall
  deriving DecidableEq

def NumeralFault.message : NumeralFault → String
  | .empty => "cannot parse integer from empty string"
  | .invalidDigit => "invalid digit found in string"
  | .tooLarge => "number too large to fit in target type"
  | .tooSmall => "number too small to fit in target type"

def digitChar (digit : Nat) : Char :=
  Char.ofNat (48 + digit % 10)

def digitValue? (char : Char) : Option Nat :=
  if '0' ≤ char ∧ char ≤ '9' then some (char.toNat - 48) else none

def digitIn? (base : Nat) (char : Char) : Option Nat :=
  let value :=
    if '0' ≤ char ∧ char ≤ '9' then some (char.toNat - 48)
    else if 'a' ≤ char ∧ char ≤ 'z' then some (char.toNat - 87)
    else if 'A' ≤ char ∧ char ≤ 'Z' then some (char.toNat - 55)
    else none
  value.filter (· < base)

def digits (number : Nat) : List Nat :=
  if number < 10 then [number] else digits (number / 10) ++ [number % 10]
  termination_by number

def ofDigits (digits : List Nat) : Nat :=
  digits.foldl (fun total digit => total * 10 + digit) 0

def naturalChars (number : Nat) : List Char :=
  (digits number).map digitChar

def natural (number : Nat) : String :=
  String.ofList (naturalChars number)

def integerChars : Int → List Char
  | .ofNat number => naturalChars number
  | .negSucc number => '-' :: naturalChars (number + 1)

def integer (number : Int) : String :=
  String.ofList (integerChars number)

def digitsValue? (chars : List Char) : Except NumeralFault Nat :=
  match chars.mapM digitValue? with
  | some values => .ok (ofDigits values)
  | none => .error .invalidDigit

def splitSign : List Char → Bool × List Char
  | '-' :: rest => (true, rest)
  | '+' :: rest => (false, rest)
  | chars => (false, chars)

def signed (negative : Bool) (magnitude : Nat) : Int :=
  if negative then -(magnitude : Int) else magnitude

def readDigits (low high : Int) (negative : Bool) : Int → List Char → Except NumeralFault Int
  | total, [] => .ok total
  | total, char :: rest =>
    match digitValue? char with
    | none => .error .invalidDigit
    | some digit =>
      let next := total * 10 + signed negative digit
      if next < low then .error .tooSmall
      else if high < next then .error .tooLarge
      else readDigits low high negative next rest

/-- A plain numeral between `low` and `high`. A lone sign is an invalid digit; so is a minus sign
where nothing below zero is allowed. -/
def readPlain (low high : Int) (text : String) : Except NumeralFault Int :=
  match text.toList with
  | [] => .error .empty
  | ['+'] | ['-'] => .error .invalidDigit
  | '+' :: rest => readDigits low high false 0 rest
  | '-' :: rest => if low < 0 then readDigits low high true 0 rest else .error .invalidDigit
  | chars => readDigits low high false 0 chars

def readWord (text : String) : Except NumeralFault UInt64 :=
  (readPlain 0 0xFFFFFFFFFFFFFFFF text).map fun value => UInt64.ofNat value.toNat

def readGrouped (chars : List Char) : Except NumeralFault Int := do
  let (negative, rest) := splitSign chars
  match rest with
  | [] => throw .empty
  | '_' :: _ => throw .invalidDigit
  | _ => return signed negative (← digitsValue? (rest.filter (· ≠ '_')))

end Multichain.Text
