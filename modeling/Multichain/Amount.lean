import Multichain.Fault
import Multichain.Json.Codec

/-!
Amounts as ledgers keep them, in whole smallest units, and as people write them, as
`digits / 10 ^ scale`. Turning one into the other loses nothing: digits below the smallest unit are
refused, or rounded up where that is asked for.
-/

set_option autoImplicit false

namespace Multichain

open Json

structure LedgerAmount where
  units : Int
  deriving DecidableEq

namespace LedgerAmount

def zero : LedgerAmount := ⟨0⟩

instance : Inhabited LedgerAmount := ⟨zero⟩

def isZero (amount : LedgerAmount) : Bool :=
  amount.units == 0

def toWord? (amount : LedgerAmount) : Option UInt64 :=
  match amount.units with
  | .ofNat number => if number < 0x10000000000000000 then some (UInt64.ofNat number) else none
  | .negSucc _ => none

def text (amount : LedgerAmount) : String :=
  Text.integer amount.units

def ofText (text : String) : Except Fault LedgerAmount :=
  match Text.readGrouped (Text.trim text).toList with
  | .ok units => .ok ⟨units⟩
  | .error fault => .error (.invalidInteger text fault)

end LedgerAmount

def LedgerAmount.codec : Codec LedgerAmount :=
  Codec.text.via LedgerAmount.text fun text => (LedgerAmount.ofText text).toOption

structure HumanAmount where
  digits : Int
  scale : Int64
  deriving DecidableEq

namespace HumanAmount

def ofLedger (amount : LedgerAmount) (decimals : UInt32) : HumanAmount :=
  ⟨amount.units, Int64.ofNat decimals.toNat⟩

def isZero (amount : HumanAmount) : Bool :=
  amount.digits == 0

def isNegative (amount : HumanAmount) : Bool :=
  amount.digits < 0

def digitCount (magnitude : Nat) : Nat :=
  (Text.digits magnitude).length

-- The digits are counted first, so that no power of a large scale is computed.
def isOne (amount : HumanAmount) : Bool :=
  match amount.scale.toInt with
  | .ofNat places =>
    digitCount amount.digits.natAbs == places + 1 && amount.digits == (Nat.pow 10 places : Nat)
  | .negSucc _ => false

def scaleBy (amount : HumanAmount) (factor : UInt64) : HumanAmount :=
  if amount.isOne then ⟨factor.toNat, 0⟩ else ⟨amount.digits * factor.toNat, amount.scale⟩

def maxShift : Nat := 1024

def maxPlaces : Nat := 0xFFFFFFFF

-- Below one unit the digits themselves are left over, so that no power of a large scale is
-- computed.
def split (amount : HumanAmount) (decimals : UInt32) : Except Fault (Int × Int) := do
  if amount.digits = 0 then return (0, 0)
  let shift : Int := decimals.toNat - amount.scale.toInt
  if shift < -0x8000000000000000 ∨ 0x8000000000000000 ≤ shift then throw .exponentRange
  match shift with
  | .ofNat up =>
    if maxShift < up then throw (.magnitude maxShift)
    return (amount.digits * (Nat.pow 10 up : Nat), 0)
  | .negSucc below =>
    let down := below + 1
    if digitCount amount.digits.natAbs < down then return (0, amount.digits)
    if maxPlaces < down then throw .exponentRange
    let unit : Int := (Nat.pow 10 down : Nat)
    return (amount.digits.tdiv unit, amount.digits.tmod unit)

def toLedger (amount : HumanAmount) (decimals : UInt32) : Except Fault LedgerAmount := do
  let (whole, rest) ← amount.split decimals
  if rest ≠ 0 then throw (.excessPlaces decimals)
  return ⟨whole⟩

/-- The least whole number of smallest units that is not below the amount. -/
def toLedgerCeil (amount : HumanAmount) (decimals : UInt32) : Except Fault LedgerAmount := do
  let (whole, rest) ← amount.split decimals
  return ⟨if 0 < rest then whole + 1 else whole⟩

def magnitudeKey (amount : HumanAmount) : Int × List Nat :=
  let digits := Text.digits amount.digits.natAbs
  (digits.length - amount.scale.toInt, (digits.reverse.dropWhile (· == 0)).reverse)

def compareDigits : List Nat → List Nat → Ordering
  | [], [] => .eq
  | [], _ => .lt
  | _, [] => .gt
  | first :: rest, second :: others =>
    match compare first second with
    | .eq => compareDigits rest others
    | order => order

def compareMagnitude (first second : HumanAmount) : Ordering :=
  let (position, digits) := first.magnitudeKey
  let (otherPosition, otherDigits) := second.magnitudeKey
  match compare position otherPosition with
  | .eq => compareDigits digits otherDigits
  | order => order

def compareValue (first second : HumanAmount) : Ordering :=
  match compare first.digits.sign second.digits.sign with
  | .eq =>
    if first.digits = 0 then .eq
    else if first.digits < 0 then second.compareMagnitude first
    else first.compareMagnitude second
  | order => order

def plainParts (magnitude : Nat) (scale : Int) : List Char × List Char :=
  let digits := Text.naturalChars magnitude
  match scale with
  | .ofNat places =>
    let padded := List.replicate (places + 1 - digits.length) '0' ++ digits
    let whole := padded.take (padded.length - places)
    let fraction := padded.drop (padded.length - places)
    (whole, (fraction.reverse.dropWhile (· == '0')).reverse)
  | .negSucc below => (digits ++ List.replicate (below + 1) '0', [])

def text (amount : HumanAmount) : String :=
  if amount.digits = 0 then "0"
  else
    let (whole, fraction) := plainParts amount.digits.natAbs amount.scale.toInt
    let point := if fraction = [] then [] else '.' :: fraction
    let sign := if amount.digits < 0 then ['-'] else []
    String.ofList (sign ++ whole ++ point)

def minExponent : Int := -0x80000000000000000000000000000000
def maxExponent : Int := 0x7FFFFFFFFFFFFFFFFFFFFFFFFFFFFFFF

def splitExponent (chars : List Char) : List Char × Option (List Char) :=
  match chars.span (fun char => char ≠ 'e' ∧ char ≠ 'E') with
  | (base, _ :: exponent) => (base, some exponent)
  | (base, []) => (base, none)

def readExponent : Option (List Char) → Except DecimalFault Int
  | none => .ok 0
  | some chars =>
    match Text.readPlain minExponent maxExponent (String.ofList chars) with
    | .ok exponent => .ok exponent
    | .error fault => .error (.numeral fault)

def read (chars : List Char) : Except DecimalFault HumanAmount := do
  let (base, exponentChars) := splitExponent chars
  let exponent ← readExponent exponentChars
  if base = [] then throw .emptyDigits
  let (whole, fraction) :=
    match base.span (· ≠ '.') with
    | (whole, _ :: fraction) => (whole, fraction)
    | (whole, []) => (whole, [])
  let scale : Int := (fraction.filter (· ≠ '_')).length - exponent
  if scale < -0x8000000000000000 ∨ 0x8000000000000000 ≤ scale then
    throw (.exponentOverflow (String.ofList chars))
  match Text.readGrouped (whole ++ fraction) with
  | .ok digits => return ⟨digits, Int64.ofInt scale⟩
  | .error fault => throw (.numeral fault)

def ofText (text : String) : Except Fault HumanAmount :=
  match read (Text.trim text).toList with
  | .ok amount => .ok amount
  | .error fault => .error (.invalidDecimal text fault)

end HumanAmount

def HumanAmount.codec : Codec HumanAmount :=
  Codec.text.via HumanAmount.text fun text => (HumanAmount.ofText text).toOption

end Multichain
