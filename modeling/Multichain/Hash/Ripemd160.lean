import Multichain.Bytes
import Multichain.Hash.Sha256

/-!
RIPEMD-160, and the hash of a public key that address formats use: RIPEMD-160 of SHA-256.
-/

set_option autoImplicit false

namespace Multichain.Hash.Ripemd160

open Multichain

structure State where
  a : UInt32
  b : UInt32
  c : UInt32
  d : UInt32
  e : UInt32

def start : State :=
  ⟨0x67452301, 0xefcdab89, 0x98badcfe, 0x10325476, 0xc3d2e1f0⟩

structure Line where
  words : List Nat
  turns : List UInt32
  constants : List UInt32

def left : Line where
  words :=
    [0, 1, 2, 3, 4, 5, 6, 7, 8, 9, 10, 11, 12, 13, 14, 15,
     7, 4, 13, 1, 10, 6, 15, 3, 12, 0, 9, 5, 2, 14, 11, 8,
     3, 10, 14, 4, 9, 15, 8, 1, 2, 7, 0, 6, 13, 11, 5, 12,
     1, 9, 11, 10, 0, 8, 12, 4, 13, 3, 7, 15, 14, 5, 6, 2,
     4, 0, 5, 9, 7, 12, 2, 10, 14, 1, 3, 8, 11, 6, 15, 13]
  turns :=
    [11, 14, 15, 12, 5, 8, 7, 9, 11, 13, 14, 15, 6, 7, 9, 8,
     7, 6, 8, 13, 11, 9, 7, 15, 7, 12, 15, 9, 11, 7, 13, 12,
     11, 13, 6, 7, 14, 9, 13, 15, 14, 8, 13, 6, 5, 12, 7, 5,
     11, 12, 14, 15, 14, 15, 9, 8, 9, 14, 5, 6, 8, 6, 5, 12,
     9, 15, 5, 11, 6, 8, 13, 12, 5, 12, 13, 14, 11, 8, 5, 6]
  constants := [0x00000000, 0x5a827999, 0x6ed9eba1, 0x8f1bbcdc, 0xa953fd4e]

def right : Line where
  words :=
    [5, 14, 7, 0, 9, 2, 11, 4, 13, 6, 15, 8, 1, 10, 3, 12,
     6, 11, 3, 7, 0, 13, 5, 10, 14, 15, 8, 12, 4, 9, 1, 2,
     15, 5, 1, 3, 7, 14, 6, 9, 11, 8, 12, 2, 10, 0, 4, 13,
     8, 6, 4, 1, 3, 11, 15, 0, 5, 12, 2, 13, 9, 7, 10, 14,
     12, 15, 10, 4, 1, 5, 8, 7, 6, 2, 13, 14, 0, 3, 9, 11]
  turns :=
    [8, 9, 9, 11, 13, 15, 15, 5, 7, 7, 8, 11, 14, 14, 12, 6,
     9, 13, 15, 7, 12, 8, 9, 11, 7, 7, 12, 7, 6, 15, 13, 11,
     9, 7, 15, 11, 8, 6, 6, 14, 12, 13, 5, 14, 13, 13, 7, 5,
     15, 5, 8, 11, 14, 14, 6, 14, 6, 9, 12, 9, 12, 5, 15, 8,
     8, 5, 12, 9, 12, 5, 14, 6, 8, 13, 6, 5, 15, 13, 11, 11]
  constants := [0x50a28be6, 0x5c4dd124, 0x6d703ef3, 0x7a6d76e9, 0x00000000]

def mix (round : Nat) (x y z : UInt32) : UInt32 :=
  match round with
  | 0 => x ^^^ y ^^^ z
  | 1 => (x &&& y) ||| (~~~x &&& z)
  | 2 => (x ||| ~~~y) ^^^ z
  | 3 => (x &&& z) ||| (y &&& ~~~z)
  | _ => x ^^^ (y ||| ~~~z)

def step (function : Nat) (constant word turn : UInt32) (state : State) : State :=
  let sum := state.a + mix function state.b state.c state.d + word + constant
  ⟨state.e, rotateLeft sum turn + state.e, state.b, rotateLeft state.c 10, state.d⟩

def runLine (line : Line) (function : Nat → Nat) (words : Array UInt32) (state : State) : State :=
  ((line.words.zip line.turns).zipIdx).foldl
    (fun state ((word, turn), index) =>
      step (function (index / 16)) (line.constants.getD (index / 16) 0) (words.getD word 0) turn
        state)
    state

def compress (state : State) (block : Bytes) : State :=
  let words := ((allBlocks 4 block).map wordLittle).toArray
  let l := runLine left id words state
  let r := runLine right (4 - ·) words state
  ⟨state.b + l.c + r.d, state.c + l.d + r.e, state.d + l.e + r.a, state.e + l.a + r.b,
    state.a + l.b + r.c⟩

def State.bytes (state : State) : Bytes :=
  [state.a, state.b, state.c, state.d, state.e].flatMap bytesLittle

def hash (message : Bytes) : Bytes :=
  let length := message.length
  let padded := message ++ padding length ++ (Bytes.ofNat 8 (length * 8)).reverse
  ((allBlocks 64 padded).foldl compress start).bytes

@[simp]
theorem length_hash (message : Bytes) : (hash message).length = 20 := by
  simp [hash, State.bytes, bytesLittle, Bytes.ofNat]

def keyHash (key : Bytes) : Bytes :=
  hash (Sha256.hash key)

end Multichain.Hash.Ripemd160
