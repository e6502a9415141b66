import Multichain.Bytes

/-!
JSON texts as they are written, less the blanks: numbers keep their digits, strings their escapes,
and objects the order and the repetitions of their members. What a text means is decided later, by
those who read a value out of the tree, so that a part nobody asks for need not mean anything.
-/

set_option autoImplicit false

namespace Multichain.Json

open Multichain

inductive Piece where
  | byte (value : UInt8)
  | unit (value : UInt16)
  deriving DecidableEq

inductive ExponentSign where
  | plain
  | plus
  | minus
  deriving DecidableEq

structure Literal where
  negative : Bool
  whole : List Nat
  fraction : List Nat
  exponent : Option (ExponentSign × List Nat)
  deriving DecidableEq

inductive Tree where
  | null
  | bool (value : Bool)
  | number (literal : Literal)
  | string (pieces : List Piece)
  | array (items : List Tree)
  | object (members : List (List Piece × Tree))

def digitByte (digit : Nat) : UInt8 :=
  UInt8.ofNat (48 + digit % 10)

def hexByte (value : Nat) : UInt8 :=
  if value < 10 then UInt8.ofNat (48 + value) else UInt8.ofNat (87 + value)

def Literal.bytes (literal : Literal) : Bytes :=
  let sign : Bytes := if literal.negative then [45] else []
  let fraction : Bytes :=
    if literal.fraction = [] then [] else 46 :: literal.fraction.map digitByte
  let exponent : Bytes :=
    match literal.exponent with
    | none => []
    | some (.plain, digits) => 101 :: digits.map digitByte
    | some (.plus, digits) => 101 :: 43 :: digits.map digitByte
    | some (.minus, digits) => 101 :: 45 :: digits.map digitByte
  sign ++ literal.whole.map digitByte ++ fraction ++ exponent

def Piece.bytes : Piece → Bytes
  | .byte 8 => [92, 98]
  | .byte 9 => [92, 116]
  | .byte 10 => [92, 110]
  | .byte 12 => [92, 102]
  | .byte 13 => [92, 114]
  | .byte 34 => [92, 34]
  | .byte 92 => [92, 92]
  | .byte value => [value]
  | .unit value =>
    let code := value.toNat
    [92, 117, hexByte (code / 4096), hexByte (code / 256 % 16), hexByte (code / 16 % 16),
      hexByte (code % 16)]

def stringBytes (pieces : List Piece) : Bytes :=
  34 :: (pieces.flatMap Piece.bytes ++ [34])

mutual

def Tree.bytes : Tree → Bytes
  | .null => [110, 117, 108, 108]
  | .bool true => [116, 114, 117, 101]
  | .bool false => [102, 97, 108, 115, 101]
  | .number literal => literal.bytes
  | .string pieces => stringBytes pieces
  | .array [] => [91, 93]
  | .array (first :: rest) => 91 :: (first.bytes ++ itemBytes rest)
  | .object [] => [123, 125]
  | .object ((name, value) :: rest) =>
    123 :: (stringBytes name ++ 58 :: (value.bytes ++ memberBytes rest))

def itemBytes : List Tree → Bytes
  | [] => [93]
  | item :: rest => 44 :: (item.bytes ++ itemBytes rest)

def memberBytes : List (List Piece × Tree) → Bytes
  | [] => [125]
  | (name, value) :: rest => 44 :: (stringBytes name ++ 58 :: (value.bytes ++ memberBytes rest))

end

def isSpace (byte : UInt8) : Bool :=
  byte == 32 || byte == 9 || byte == 10 || byte == 13

def skipSpace (bytes : Bytes) : Bytes :=
  bytes.dropWhile isSpace

def isDigit (byte : UInt8) : Bool :=
  48 ≤ byte && byte ≤ 57

def readDigits (bytes : Bytes) : List Nat × Bytes :=
  ((bytes.takeWhile isDigit).map fun byte => byte.toNat - 48, bytes.dropWhile isDigit)

def readWhole (bytes : Bytes) : Option (List Nat × Bytes) :=
  match readDigits bytes with
  | ([], _) => none
  | (0 :: _ :: _, _) => none
  | (digits, rest) => some (digits, rest)

def readFraction : Bytes → Option (List Nat × Bytes)
  | 46 :: rest =>
    match readDigits rest with
    | ([], _) => none
    | (digits, rest) => some (digits, rest)
  | bytes => some ([], bytes)

def readExponentSign : Bytes → ExponentSign × Bytes
  | 43 :: rest => (.plus, rest)
  | 45 :: rest => (.minus, rest)
  | bytes => (.plain, bytes)

def readExponent : Bytes → Option (Option (ExponentSign × List Nat) × Bytes)
  | [] => some (none, [])
  | byte :: rest =>
    if byte = 101 ∨ byte = 69 then
      let (sign, rest) := readExponentSign rest
      match readDigits rest with
      | ([], _) => none
      | (digits, rest) => some (some (sign, digits), rest)
    else some (none, byte :: rest)

def readLiteral (negative : Bool) (bytes : Bytes) : Option (Literal × Bytes) := do
  let (whole, rest) ← readWhole bytes
  let (fraction, rest) ← readFraction rest
  let (exponent, rest) ← readExponent rest
  return (⟨negative, whole, fraction, exponent⟩, rest)

def hexValue? (byte : UInt8) : Option Nat :=
  if 48 ≤ byte ∧ byte ≤ 57 then some (byte.toNat - 48)
  else if 97 ≤ byte ∧ byte ≤ 102 then some (byte.toNat - 87)
  else if 65 ≤ byte ∧ byte ≤ 70 then some (byte.toNat - 55)
  else none

def readUnit (a b c d : UInt8) : Option Piece := do
  let first ← hexValue? a
  let second ← hexValue? b
  let third ← hexValue? c
  let fourth ← hexValue? d
  return .unit (UInt16.ofNat (first * 4096 + second * 256 + third * 16 + fourth))

def escaped? (byte : UInt8) : Option UInt8 :=
  match byte with
  | 34 => some 34
  | 92 => some 92
  | 47 => some 47
  | 98 => some 8
  | 102 => some 12
  | 110 => some 10
  | 114 => some 13
  | 116 => some 9
  | _ => none

def readPieces : Bytes → Option (List Piece × Bytes)
  | [] => none
  | 34 :: rest => some ([], rest)
  | 92 :: 117 :: a :: b :: c :: d :: rest => do
    let piece ← readUnit a b c d
    let (pieces, rest) ← readPieces rest
    return (piece :: pieces, rest)
  | 92 :: byte :: rest => do
    let value ← escaped? byte
    let (pieces, rest) ← readPieces rest
    return (.byte value :: pieces, rest)
  | byte :: rest =>
    if byte < 32 ∨ byte = 92 then none
    else do
      let (pieces, rest) ← readPieces rest
      return (.byte byte :: pieces, rest)

def readName (bytes : Bytes) : Option (List Piece × Bytes) :=
  match skipSpace bytes with
  | 34 :: rest => do
    let (name, rest) ← readPieces rest
    match skipSpace rest with
    | 58 :: rest => return (name, rest)
    | _ => none
  | _ => none

mutual

/-- One tree at the start of the bytes, and the rest. Every second step takes a byte, so twice the
number of bytes is enough `fuel`. -/
def readTree : Nat → Bytes → Option (Tree × Bytes)
  | 0, _ => none
  | fuel + 1, bytes =>
    match skipSpace bytes with
    | 110 :: 117 :: 108 :: 108 :: rest => some (.null, rest)
    | 116 :: 114 :: 117 :: 101 :: rest => some (.bool true, rest)
    | 102 :: 97 :: 108 :: 115 :: 101 :: rest => some (.bool false, rest)
    | 34 :: rest => (readPieces rest).map fun (pieces, rest) => (.string pieces, rest)
    | 45 :: rest => (readLiteral true rest).map fun (literal, rest) => (.number literal, rest)
    | 91 :: rest =>
      match skipSpace rest with
      | 93 :: rest => some (.array [], rest)
      | rest => (readItems fuel rest).map fun (items, rest) => (.array items, rest)
    | 123 :: rest =>
      match skipSpace rest with
      | 125 :: rest => some (.object [], rest)
      | rest => (readMembers fuel rest).map fun (members, rest) => (.object members, rest)
    | rest => (readLiteral false rest).map fun (literal, rest) => (.number literal, rest)

def readItems : Nat → Bytes → Option (List Tree × Bytes)
  | 0, _ => none
  | fuel + 1, bytes => do
    let (item, rest) ← readTree fuel bytes
    match skipSpace rest with
    | 44 :: rest =>
      let (items, rest) ← readItems fuel rest
      return (item :: items, rest)
    | 93 :: rest => return ([item], rest)
    | _ => none

def readMembers : Nat → Bytes → Option (List (List Piece × Tree) × Bytes)
  | 0, _ => none
  | fuel + 1, bytes => do
    let (name, rest) ← readName bytes
    let (value, rest) ← readTree fuel rest
    match skipSpace rest with
    | 44 :: rest =>
      let (members, rest) ← readMembers fuel rest
      return ((name, value) :: members, rest)
    | 125 :: rest => return ([(name, value)], rest)
    | _ => none

end

def Tree.read (bytes : Bytes) : Option Tree := do
  let (tree, rest) ← readTree (2 * bytes.length + 2) bytes
  if skipSpace rest = [] then return tree else none

end Multichain.Json
