import Multichain.Bytes

/-!
Points of the curve y² = x³ + 7 over the field of secp256k1, and the byte forms of public keys.
-/

set_option autoImplicit false

namespace Multichain.Secp256k1

open Multichain

def fieldSize : Nat :=
  0xFFFFFFFFFFFFFFFFFFFFFFFFFFFFFFFFFFFFFFFFFFFFFFFFFFFFFFFEFFFFFC2F

def power (base exponent : Nat) : Nat :=
  if exponent = 0 then 1
  else
    let half := power (base * base % fieldSize) (exponent / 2)
    if exponent % 2 = 1 then half * base % fieldSize else half
  termination_by exponent

structure Point where
  x : Nat
  y : Nat
  deriving DecidableEq

def curveValue (x : Nat) : Nat :=
  (x * x % fieldSize * x + 7) % fieldSize

def Point.onCurve (point : Point) : Bool :=
  point.x < fieldSize && point.y < fieldSize && point.y * point.y % fieldSize == curveValue point.x

-- The field size is one less than a multiple of four, so that a square has such a power for a root.
def Point.lift (odd : Bool) (x : Nat) : Option Point :=
  let root := power (curveValue x) ((fieldSize + 1) / 4)
  let y := if (root % 2 == 1) == odd then root else fieldSize - root
  let point : Point := ⟨x, y⟩
  if point.onCurve then some point else none

def readCompressed (key : Bytes) : Option Point :=
  match key with
  | 2 :: x => Point.lift false (Bytes.toNat x)
  | 3 :: x => Point.lift true (Bytes.toNat x)
  | _ => none

def readUncompressed (key : Bytes) : Option Point :=
  match key with
  | 4 :: coordinates =>
    let point : Point := ⟨Bytes.toNat (coordinates.take 32), Bytes.toNat (coordinates.drop 32)⟩
    if point.onCurve then some point else none
  | _ => none

-- The point is the one with the even coordinate.
def readCompact (key : Bytes) : Option Point :=
  match key with
  | 5 :: x => Point.lift false (Bytes.toNat x)
  | _ => none

def read (key : Bytes) : Option Point :=
  if key.length = 33 then (readCompressed key).or (readCompact key)
  else if key.length = 65 then readUncompressed key
  else none

def Point.coordinates (point : Point) : Bytes :=
  Bytes.ofNat 32 point.x ++ Bytes.ofNat 32 point.y

end Multichain.Secp256k1
