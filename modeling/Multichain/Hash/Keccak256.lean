import Multichain.Bytes

/-!
Keccak-256. The padding is a single set bit at each of its ends, with no domain bits before it.
-/

set_option autoImplicit false

namespace Multichain.Hash.Keccak256

open Multichain

-- Twenty-five lanes; the lane of column `x` and row `y` is number `x + 5 * y`.
abbrev State := Vector UInt64 25

def lane (state : State) (x y : Nat) : UInt64 :=
  state.get (Fin.ofNat 25 (x % 5 + 5 * (y % 5)))

def ofLanes (lanes : Nat → Nat → UInt64) : State :=
  Vector.ofFn fun index : Fin 25 => lanes (index.val % 5) (index.val / 5)

def rotate (word : UInt64) (amount : Nat) : UInt64 :=
  if amount = 0 then word
  else (word <<< UInt64.ofNat amount) ||| (word >>> UInt64.ofNat (64 - amount))

def turns : List Nat :=
  [0, 1, 62, 28, 27, 36, 44, 6, 55, 20, 3, 10, 43, 25, 39, 41, 45, 15, 21, 8, 18, 2, 61, 56, 14]

def roundConstants : List UInt64 :=
  [0x0000000000000001, 0x0000000000008082, 0x800000000000808a, 0x8000000080008000,
   0x000000000000808b, 0x0000000080000001, 0x8000000080008081, 0x8000000000008009,
   0x000000000000008a, 0x0000000000000088, 0x0000000080008009, 0x000000008000000a,
   0x000000008000808b, 0x800000000000008b, 0x8000000000008089, 0x8000000000008003,
   0x8000000000008002, 0x8000000000000080, 0x000000000000800a, 0x800000008000000a,
   0x8000000080008081, 0x8000000000008080, 0x0000000080000001, 0x8000000080008008]

def theta (state : State) : State :=
  let parity : Vector UInt64 5 := Vector.ofFn fun x : Fin 5 =>
    lane state x 0 ^^^ lane state x 1 ^^^ lane state x 2 ^^^ lane state x 3 ^^^ lane state x 4
  let column (x : Nat) := parity.get (Fin.ofNat 5 x)
  ofLanes fun x y => lane state x y ^^^ column (x + 4) ^^^ rotate (column (x + 1)) 1

def rhoPi (state : State) : State :=
  ofLanes fun x y =>
    let source := x + 3 * y
    rotate (lane state source x) (turns.getD (source % 5 + 5 * x) 0)

def chi (state : State) : State :=
  ofLanes fun x y => lane state x y ^^^ (~~~lane state (x + 1) y &&& lane state (x + 2) y)

def round (state : State) (constant : UInt64) : State :=
  let mixed := chi (rhoPi (theta state))
  mixed.set 0 (mixed.get 0 ^^^ constant)

def permute (state : State) : State :=
  roundConstants.foldl round state

def rate : Nat := 136

def laneOf (bytes : Bytes) : UInt64 :=
  UInt64.ofNat (Bytes.toNat bytes.reverse)

def absorb (state : State) (block : Bytes) : State :=
  let words := ((allBlocks 8 block).map laneOf).toArray
  permute (Vector.ofFn fun index : Fin 25 => state.get index ^^^ words.getD index.val 0)

def pad (message : Bytes) : Bytes :=
  let free := rate - message.length % rate
  if free = 1 then message ++ [0x81] else message ++ [0x01] ++ List.replicate (free - 2) 0 ++ [0x80]

def laneBytes (word : UInt64) : Bytes :=
  (Bytes.ofNat 8 word.toNat).reverse

def hash (message : Bytes) : Bytes :=
  let final := (allBlocks rate (pad message)).foldl absorb (Vector.replicate 25 0)
  [final.get 0, final.get 1, final.get 2, final.get 3].flatMap laneBytes

@[simp]
theorem length_hash (message : Bytes) : (hash message).length = 32 := by
  simp [hash, laneBytes, Bytes.ofNat]

end Multichain.Hash.Keccak256
