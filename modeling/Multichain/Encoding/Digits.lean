import Multichain.Bytes
import Multichain.Text.Quoted

/-!
Bytes as digits: two of base 16 for each byte, in either case when read; those of one number in base
58, after one for each leading zero byte; and four of base 64 for three bytes, with canonical
padding.
-/

set_option autoImplicit false

namespace Multichain.Hex

open Multichain

inductive Fault where
  | oddLength
  | invalidDigit (digit : UInt8) (position : Nat)
  deriving DecidableEq

def Fault.message : Fault → String
  | .oddLength => "Odd number of digits"
  | .invalidDigit digit position =>
    "Invalid character " ++ Text.quotedSingle (Char.ofNat digit.toNat) ++ " at position " ++
      toString position

def encodeByte (byte : UInt8) : List Char :=
  [Text.hexDigit (byte.toNat / 16), Text.hexDigit (byte.toNat % 16)]

def encodeChars (bytes : Bytes) : List Char :=
  bytes.flatMap encodeByte

def encode (bytes : Bytes) : String :=
  String.ofList (encodeChars bytes)

def digitValue? (digit : UInt8) : Option Nat :=
  if 48 ≤ digit ∧ digit ≤ 57 then some (digit.toNat - 48)
  else if 97 ≤ digit ∧ digit ≤ 102 then some (digit.toNat - 87)
  else if 65 ≤ digit ∧ digit ≤ 70 then some (digit.toNat - 55)
  else none

def digitAt (position : Nat) (digit : UInt8) : Except Fault Nat :=
  match digitValue? digit with
  | some value => .ok value
  | none => .error (.invalidDigit digit position)

def decodeFrom (position : Nat) : Bytes → Except Fault Bytes
  | [] => .ok []
  | [_] => .error .oddLength
  | high :: low :: rest => do
    let highValue ← digitAt position high
    let lowValue ← digitAt (position + 1) low
    return UInt8.ofNat (highValue * 16 + lowValue) :: (← decodeFrom (position + 2) rest)

-- An odd length is reported before any digit is looked at.
def decode (text : String) : Except Fault Bytes :=
  let digits := Bytes.ofText text
  if digits.length % 2 = 1 then .error .oddLength else decodeFrom 0 digits

end Multichain.Hex

namespace Multichain.Base58

open Multichain

def alphabet : List Char :=
  "123456789ABCDEFGHJKLMNPQRSTUVWXYZabcdefghijkmnopqrstuvwxyz".toList

def digit (value : Nat) : Char :=
  alphabet.getD value '1'

def numberChars (number : Nat) : List Char :=
  if number = 0 then [] else numberChars (number / 58) ++ [digit (number % 58)]
  termination_by number

def encode (bytes : Bytes) : String :=
  String.ofList ((bytes.takeWhile (· = 0)).map (fun _ => digit 0) ++ numberChars bytes.toNat)

end Multichain.Base58

namespace Multichain.Base64

open Multichain

inductive Fault where
  | invalidByte (byte : UInt8) (offset : Nat)
  | invalidLength
  | invalidPadding
  | invalidLastSymbol (symbol : UInt8) (offset : Nat)
  deriving DecidableEq

def Fault.message : Fault → String
  | .invalidByte byte offset =>
    "Invalid byte " ++ toString byte.toNat ++ ", offset " ++ toString offset ++ "."
  | .invalidLength => "Encoded text cannot have a 6-bit remainder."
  | .invalidPadding => "Invalid padding"
  | .invalidLastSymbol symbol offset =>
    "Invalid last symbol " ++ toString symbol.toNat ++ ", offset " ++ toString offset ++ "."

def pad : UInt8 := 61

def symbol (value : Nat) : UInt8 :=
  if value < 26 then UInt8.ofNat (65 + value)
  else if value < 52 then UInt8.ofNat (71 + value)
  else if value < 62 then UInt8.ofNat (value - 4)
  else if value = 62 then 43
  else 47

def value? (byte : UInt8) : Option Nat :=
  if 65 ≤ byte ∧ byte ≤ 90 then some (byte.toNat - 65)
  else if 97 ≤ byte ∧ byte ≤ 122 then some (byte.toNat - 71)
  else if 48 ≤ byte ∧ byte ≤ 57 then some (byte.toNat + 4)
  else if byte = 43 then some 62
  else if byte = 47 then some 63
  else none

def encodeBytes : Bytes → Bytes
  | [] => []
  | [a] => [symbol (a.toNat / 4), symbol (a.toNat % 4 * 16), pad, pad]
  | [a, b] =>
    [symbol (a.toNat / 4), symbol (a.toNat % 4 * 16 + b.toNat / 16), symbol (b.toNat % 16 * 4), pad]
  | a :: b :: c :: rest =>
    symbol (a.toNat / 4) :: symbol (a.toNat % 4 * 16 + b.toNat / 16) ::
      symbol (b.toNat % 16 * 4 + c.toNat / 64) :: symbol (c.toNat % 64) :: encodeBytes rest

def encode (bytes : Bytes) : String :=
  String.ofList ((encodeBytes bytes).map fun byte => Char.ofNat byte.toNat)

def checkPads (first : Nat) : Nat → Bytes → Except Fault Unit
  | _, [] => .ok ()
  | offset, byte :: rest =>
    if byte = pad ∧ 2 ≤ offset % 4 then checkPads first (offset + 1) rest
    else .error (.invalidByte pad first)

def values : Nat → Bytes → Except Fault (List Nat)
  | _, [] => .ok []
  | offset, byte :: rest =>
    if byte = pad then
      if offset % 4 < 2 then .error (.invalidByte pad offset)
      else (checkPads offset (offset + 1) rest).map fun _ => []
    else
      match value? byte with
      | none => .error (.invalidByte byte offset)
      | some value => (values (offset + 1) rest).map (value :: ·)

def join (offset : Nat) : List Nat → Except Fault Bytes
  | [] => .ok []
  | [_] => .error .invalidLength
  | [a, b] =>
    if b % 16 = 0 then .ok [UInt8.ofNat (a * 4 + b / 16)]
    else .error (.invalidLastSymbol (symbol b) (offset + 1))
  | [a, b, c] =>
    if c % 4 = 0 then .ok [UInt8.ofNat (a * 4 + b / 16), UInt8.ofNat (b % 16 * 16 + c / 4)]
    else .error (.invalidLastSymbol (symbol c) (offset + 2))
  | a :: b :: c :: d :: rest =>
    (join (offset + 4) rest).map fun bytes =>
      UInt8.ofNat (a * 4 + b / 16) :: UInt8.ofNat (b % 16 * 16 + c / 4) ::
        UInt8.ofNat (c % 4 * 64 + d) :: bytes

-- A length of one more than a multiple of four is a fault of its last byte, if that is no symbol,
-- and else of the length.
def checkLength (bytes : Bytes) : Except Fault Unit :=
  if bytes.length % 4 = 1 then
    match bytes.getLast? with
    | some last =>
      if last ≠ pad ∧ value? last = none then .error (.invalidByte last (bytes.length - 1))
      else .error .invalidLength
    | none => .ok ()
  else .ok ()

def decodeBytes (bytes : Bytes) : Except Fault Bytes := do
  checkLength bytes
  let found ← values 0 bytes
  if bytes.length % 4 ≠ 0 then throw .invalidPadding
  join 0 found

def decode (text : String) : Except Fault Bytes :=
  decodeBytes (Bytes.ofText text)

end Multichain.Base64
