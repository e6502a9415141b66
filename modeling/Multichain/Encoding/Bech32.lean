import Multichain.Bytes
import Multichain.Text.Quoted

/-!
Bech32: a readable part, a separator, groups of five bits, and a checksum over both parts.
-/

set_option autoImplicit false

namespace Multichain.Bech32

open Multichain

inductive PrefixFault where
  | empty
  | tooLong (length : Nat)
  | nonAscii (char : Char)
  | invalidByte (byte : Nat)
  | mixedCase
  deriving DecidableEq

def PrefixFault.message : PrefixFault → String
  | .empty => "hrp is empty, must have at least 1 character"
  | .tooLong length => "hrp is too long, found " ++ toString length ++ " characters, must be <= 126"
  | .nonAscii char => "found non-ASCII character: " ++ String.singleton char
  | .invalidByte byte =>
    "byte value is not valid US-ASCII: '" ++ String.ofList (Text.hexChars byte) ++ "'"
  | .mixedCase => "hrp cannot mix upper and lower case"

structure Hrp where
  text : String
  deriving DecidableEq

def maxPrefixLength : Nat := 83

def checkChars : Bool → Bool → List Char → Except PrefixFault Unit
  | _, _, [] => .ok ()
  | lower, upper, char :: rest =>
    if 0x80 ≤ char.toNat then .error (.nonAscii char)
    else if char.toNat < 33 ∨ 126 < char.toNat then .error (.invalidByte char.toNat)
    else if (char.isLower ∧ upper) ∨ (char.isUpper ∧ lower) then .error .mixedCase
    else checkChars (lower || char.isLower) (upper || char.isUpper) rest

-- The length in bytes is looked at first, then the characters from the left.
def Hrp.ofText (text : String) : Except PrefixFault Hrp := do
  let length := text.utf8ByteSize
  if length = 0 then throw .empty
  if maxPrefixLength < length then throw (.tooLong length)
  checkChars false false text.toList
  return ⟨String.ofList (text.toList.map Char.toLower)⟩

/-- Regroups bits from eight to five, highest first, with zero bits at the end. `held` is the value
of the `count` bits that are not written yet. -/
def regroup (held count : Nat) : Bytes → List Nat
  | [] => if count = 0 then [] else [held * Nat.pow 2 (5 - count) % 32]
  | byte :: rest =>
    let held := held * 256 + byte.toNat
    let count := count + 8
    if 10 ≤ count then
      held / Nat.pow 2 (count - 5) % 32 :: held / Nat.pow 2 (count - 10) % 32 ::
        regroup (held % Nat.pow 2 (count - 10)) (count - 10) rest
    else
      held / Nat.pow 2 (count - 5) % 32 :: regroup (held % Nat.pow 2 (count - 5)) (count - 5) rest

def generators : List Nat :=
  [0x3b6a57b2, 0x26508e6d, 0x1ea119fa, 0x3d4233dd, 0x2a1462b3]

def polymodStep (check value : Nat) : Nat :=
  let top := check / 0x2000000
  let shifted := (check % 0x2000000 * 32) ^^^ value
  (generators.zipIdx).foldl
    (fun sum (generator, index) => if top.testBit index then sum ^^^ generator else sum) shifted

def polymod (values : List Nat) : Nat :=
  values.foldl polymodStep 1

def expand (hrp : List Char) : List Nat :=
  hrp.map (fun char => char.toNat / 32) ++ [0] ++ hrp.map (fun char => char.toNat % 32)

def checksum (hrp : List Char) (data : List Nat) : List Nat :=
  let check := polymod (expand hrp ++ data ++ [0, 0, 0, 0, 0, 0]) ^^^ 1
  [25, 20, 15, 10, 5, 0].map fun shift => check / Nat.pow 2 shift % 32

def alphabet : List Char :=
  "qpzry9x8gf2tvdw0s3jn54khce6mua7l".toList

def symbol (value : Nat) : Char :=
  alphabet.getD value 'q'

def encodeGroups (hrp : Hrp) (data : List Nat) : String :=
  let chars := hrp.text.toList
  String.ofList (chars ++ ['1'] ++ (data ++ checksum chars data).map symbol)

def encode (hrp : Hrp) (bytes : Bytes) : String :=
  encodeGroups hrp (regroup 0 0 bytes)

end Multichain.Bech32
