import Multichain.Text.Basic

/-!
Binary floating-point numbers of 53 bits, in exact arithmetic: rounding a quotient to the nearest
one, and the fewest decimal digits from which a number is found again. The plain notation, of the
infinities too, has all digits before the point and at least one behind it.
-/

set_option autoImplicit false

namespace Multichain

/-- The number `significand * 2 ^ exponent`. The significand has at most 53 bits; it has all of
them, or else the exponent is the least one. -/
structure Magnitude where
  significand : Nat
  exponent : Int
  deriving DecidableEq

structure Binary64 where
  negative : Bool
  magnitude : Magnitude
  deriving DecidableEq

namespace Magnitude

def minExponent : Int := -1074
def maxExponent : Int := 971

def zero : Magnitude := ⟨0, minExponent⟩

def powers (base : Nat) : Int → Nat × Nat
  | .ofNat exponent => (Nat.pow base exponent, 1)
  | .negSucc exponent => (1, Nat.pow base (exponent + 1))

def roundHalfEven (numerator denominator : Nat) : Nat :=
  let quotient := numerator / denominator
  let twice := 2 * (numerator % denominator)
  if twice < denominator then quotient
  else if denominator < twice then quotient + 1
  else quotient + quotient % 2

def scaleOf (numerator denominator : Nat) : Int :=
  let guess : Int := (numerator.log2 : Int) - denominator.log2 - 52
  let (up, down) := powers 2 guess
  if numerator * down < 0x10000000000000 * denominator * up then guess - 1 else guess

def nearest (numerator denominator : Nat) : Option Magnitude :=
  if numerator = 0 then some zero
  else
    let exponent := max (scaleOf numerator denominator) minExponent
    let (up, down) := powers 2 exponent
    let rounded := roundHalfEven (numerator * down) (denominator * up)
    let result : Magnitude :=
      if rounded = 0x20000000000000 then ⟨0x10000000000000, exponent + 1⟩ else ⟨rounded, exponent⟩
    if maxExponent < result.exponent then none else some result

def quotient (magnitude : Magnitude) : Nat × Nat :=
  let (up, down) := powers 2 magnitude.exponent
  (magnitude.significand * up, down)

def times (first second : Magnitude) : Option Magnitude :=
  let (a, b) := first.quotient
  let (c, d) := second.quotient
  nearest (a * c) (b * d)

def dividedBy (first second : Magnitude) : Option Magnitude :=
  let (a, b) := first.quotient
  let (c, d) := second.quotient
  nearest (a * d) (b * c)

-- Four times the bounds of what rounds to the number, in units of `2 ^ exponent`; the lower gap is
-- half as wide below a power of two.
def bounds (magnitude : Magnitude) : Nat × Nat :=
  let middle := 4 * magnitude.significand
  let narrow := magnitude.significand = 0x10000000000000 ∧ magnitude.exponent ≠ minExponent
  (if narrow then middle - 1 else middle - 2, middle + 2)

def holds (magnitude : Magnitude) (digits : Nat) (power : Int) : Bool :=
  let (low, high) := magnitude.bounds
  let (up, down) := powers 2 magnitude.exponent
  let (tenUp, tenDown) := powers 10 power
  let value := 4 * digits * tenUp * down
  let lower := low * up * tenDown
  let upper := high * up * tenDown
  if magnitude.significand % 2 = 0 then lower ≤ value && value ≤ upper
  else lower < value && value < upper

def decimalLength (number : Nat) : Nat :=
  if number < 10 then 1 else decimalLength (number / 10) + 1
  termination_by number

def decimalExponent (magnitude : Magnitude) : Int :=
  let (numerator, denominator) := magnitude.quotient
  if denominator ≤ numerator then (decimalLength (numerator / denominator) : Int) - 1
  else
    let inverse := (denominator + numerator - 1) / numerator
    (0 : Int) - decimalLength (inverse - 1)

def onGrid (magnitude : Magnitude) (power : Int) : Option Nat :=
  let (numerator, denominator) := magnitude.quotient
  let (tenUp, tenDown) := powers 10 power
  let below := numerator * tenDown / (denominator * tenUp)
  let closer := roundHalfEven (numerator * tenDown) (denominator * tenUp)
  let farther := if closer = below then below + 1 else below
  if magnitude.holds closer power then some closer
  else if magnitude.holds farther power then some farther
  else none

def shortestFrom (magnitude : Magnitude) (top : Int) : Nat → Nat × Int
  | 0 => (magnitude.significand, magnitude.exponent)
  | count + 1 =>
    let power := top - (16 - count : Nat)
    match magnitude.onGrid power with
    | some digits => (digits, power)
    | none => shortestFrom magnitude top count

def stripZeros (digits : Nat) (power : Int) : Nat × Int :=
  if h : 10 ≤ digits ∧ digits % 10 = 0 then stripZeros (digits / 10) (power + 1)
  else (digits, power)
  termination_by digits
  decreasing_by omega

/-- Fewest digits, and the power of ten of the last of them, for a number that is not zero.
Seventeen digits always suffice. -/
def shortest (magnitude : Magnitude) : Nat × Int :=
  let (digits, power) := shortestFrom magnitude magnitude.decimalExponent 17
  stripZeros digits power

end Magnitude

inductive Floating where
  | finite (value : Binary64)
  | infinite (negative : Bool)
  | undefined
  deriving DecidableEq

namespace Floating

def places (digits : List Char) : Int → List Char × List Char
  | .ofNat zeros => (digits ++ List.replicate zeros '0', ['0'])
  | .negSucc below =>
    let count := below + 1
    let padded := List.replicate (count + 1 - digits.length) '0' ++ digits
    (padded.take (padded.length - count), padded.drop (padded.length - count))

def plainMagnitude (magnitude : Magnitude) : List Char :=
  let (number, power) :=
    if magnitude.significand = 0 then (0, 0) else magnitude.shortest
  let (whole, fraction) := places (Text.naturalChars number) power
  whole ++ '.' :: fraction

def plain : Floating → String
  | .finite value =>
    String.ofList ((if value.negative then ['-'] else []) ++ plainMagnitude value.magnitude)
  | .infinite negative => if negative then "-inf" else "inf"
  | .undefined => "NaN"

-- The place of the first digit is looked at first, so that no power of a large exponent is
-- computed.
def ofDecimal (negative : Bool) (digits : Nat) (power : Int) : Floating :=
  let top : Int := (Text.digits digits).length + power
  if digits = 0 ∨ top < -400 then .finite ⟨negative, .zero⟩
  else if 400 < top then .infinite negative
  else
    let (up, down) := Magnitude.powers 10 power
    match Magnitude.nearest (digits * up) down with
    | some magnitude => .finite ⟨negative, magnitude⟩
    | none => .infinite negative

end Floating

end Multichain
