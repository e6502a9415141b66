import Multichain.Json.Tree
import Multichain.Number.Binary64
import Multichain.Text.Basic

/-!
JSON values: what a tree means. Numbers that are whole and fit a word of 64 bits, with or without
sign, are kept exactly; others become floating-point numbers. The members of an object stand in
ascending order of their names, each name once.
-/

set_option autoImplicit false

namespace Multichain.Json

open Multichain

inductive Number where
  | integer (value : Int)
  | float (value : Binary64)
  deriving DecidableEq

inductive Value where
  | null
  | bool (value : Bool)
  | number (number : Number)
  | text (value : String)
  | array (items : List Value)
  | object (members : List (String × Value))
  deriving Inhabited

def maxWord : Nat := 0xFFFFFFFFFFFFFFFF

def takeDigits : Nat → Nat → List Nat → Nat × Nat × List Nat
  | total, count, [] => (total, count, [])
  | total, count, digit :: rest =>
    if maxWord < total * 10 + digit then (total, count, digit :: rest)
    else takeDigits (total * 10 + digit) (count + 1) rest

def leading (literal : Literal) : Nat × Int :=
  let (total, _, left) := takeDigits 0 0 literal.whole
  let (total, count, _) := takeDigits total 0 literal.fraction
  (total, (left.length : Int) - count)

def tenTo (power : Nat) : Magnitude :=
  (Magnitude.nearest (Nat.pow 10 power) 1).getD Magnitude.zero

-- Below the least power three steps are enough, since a word is smaller than the inverse of three
-- of them.
def scaled : Nat → Magnitude → Int → Option Magnitude
  | 0, _, _ => some Magnitude.zero
  | steps + 1, magnitude, power =>
    if power.natAbs ≤ 308 then
      if 0 ≤ power then magnitude.times (tenTo power.natAbs)
      else magnitude.dividedBy (tenTo power.natAbs)
    else if magnitude.significand = 0 then some magnitude
    else if 0 ≤ power then none
    else (magnitude.dividedBy (tenTo 308)).bind fun smaller => scaled steps smaller (power + 308)

def maxPower : Nat := 0x7FFFFFFF

def Literal.float? (literal : Literal) : Option Binary64 := do
  let (total, power) := leading literal
  let (sign, exponent) := (literal.exponent.map fun (sign, digits) =>
    (sign, Text.ofDigits digits)).getD (.plain, 0)
  let magnitude ←
    if maxPower < exponent then
      if total ≠ 0 ∧ sign ≠ .minus then none else some Magnitude.zero
    else
      let start ← Magnitude.nearest total 1
      scaled 4 start (if sign = .minus then power - exponent else power + exponent)
  return ⟨literal.negative, magnitude⟩

-- A minus sign before zero makes a floating-point number.
def Literal.integer? (literal : Literal) : Option Int :=
  if literal.fraction ≠ [] ∨ literal.exponent.isSome then none
  else
    let magnitude := Text.ofDigits literal.whole
    if literal.negative then
      if magnitude ≠ 0 ∧ magnitude ≤ 0x8000000000000000 then some (-(magnitude : Int)) else none
    else if magnitude ≤ maxWord then some magnitude
    else none

def Literal.number? (literal : Literal) : Option Number :=
  match literal.integer? with
  | some value => some (.integer value)
  | none => literal.float?.map .float

def isHighSurrogate (unit : UInt16) : Bool :=
  0xD800 ≤ unit && unit ≤ 0xDBFF

def isLowSurrogate (unit : UInt16) : Bool :=
  0xDC00 ≤ unit && unit ≤ 0xDFFF

def pieceBytes? : List Piece → Option Bytes
  | [] => some []
  | .byte value :: rest => (pieceBytes? rest).map (value :: ·)
  | .unit high :: .unit low :: rest =>
    if isHighSurrogate high then
      if isLowSurrogate low then
        let code := 0x10000 + (high.toNat - 0xD800) * 0x400 + (low.toNat - 0xDC00)
        (pieceBytes? rest).map (String.utf8EncodeChar (Char.ofNat code) ++ ·)
      else none
    else if isLowSurrogate high then none
    else (pieceBytes? (.unit low :: rest)).map
      (String.utf8EncodeChar (Char.ofNat high.toNat) ++ ·)
  | .unit unit :: rest =>
    if isHighSurrogate unit ∨ isLowSurrogate unit then none
    else (pieceBytes? rest).map (String.utf8EncodeChar (Char.ofNat unit.toNat) ++ ·)

def string? (pieces : List Piece) : Option String :=
  (pieceBytes? pieces).bind Bytes.text?

def insertMember (name : String) (value : Value) : List (String × Value) → List (String × Value)
  | [] => [(name, value)]
  | (other, found) :: rest =>
    if name < other then (name, value) :: (other, found) :: rest
    else if name = other then (name, value) :: rest
    else (other, found) :: insertMember name value rest

def sortMembers (members : List (String × Value)) : List (String × Value) :=
  members.foldl (fun sorted (name, value) => insertMember name value sorted) []

mutual

def Value.sorted : Value → Value
  | .null => .null
  | .bool value => .bool value
  | .number number => .number number
  | .text value => .text value
  | .array items => .array (sortedItems items)
  | .object members => .object (sortMembers (sortedMembers members))

def sortedItems : List Value → List Value
  | [] => []
  | item :: rest => item.sorted :: sortedItems rest

def sortedMembers : List (String × Value) → List (String × Value)
  | [] => []
  | (name, value) :: rest => (name, value.sorted) :: sortedMembers rest

end

mutual

def Tree.value? : Nat → Tree → Option Value
  | _, .null => some .null
  | _, .bool value => some (.bool value)
  | _, .number literal => literal.number?.map .number
  | _, .string pieces => (string? pieces).map .text
  | 0, .array _ | 0, .object _ => none
  | depth + 1, .array items => (itemValues? depth items).map .array
  | depth + 1, .object members =>
    (memberValues? depth members).map fun values => .object (sortMembers values)

def itemValues? : Nat → List Tree → Option (List Value)
  | _, [] => some []
  | depth, item :: rest => do
    let value ← item.value? depth
    let values ← itemValues? depth rest
    return value :: values

def memberValues? : Nat → List (List Piece × Tree) → Option (List (String × Value))
  | _, [] => some []
  | depth, (pieces, tree) :: rest => do
    let name ← string? pieces
    let value ← tree.value? depth
    let values ← memberValues? depth rest
    return (name, value) :: values

end

def maxDepth : Nat := 127

def Value.read (bytes : Bytes) : Option Value := do
  (← Tree.read bytes).value? maxDepth

-- A floating-point number is written with a point, or with an exponent if its first digit stands
-- beyond the sixteenth place before the point or the fifth behind it.
def Literal.ofFloat (value : Binary64) : Literal :=
  if value.magnitude.significand = 0 then ⟨value.negative, [0], [0], none⟩
  else
    let (number, power) := value.magnitude.shortest
    let digits := Text.digits number
    let first : Int := power + digits.length - 1
    if -5 ≤ first ∧ first < 16 then
      match power with
      | .ofNat zeros => ⟨value.negative, digits ++ List.replicate zeros 0, [0], none⟩
      | .negSucc below =>
        let places := below + 1
        let padded := List.replicate (places + 1 - digits.length) 0 ++ digits
        ⟨value.negative, padded.take (padded.length - places),
          padded.drop (padded.length - places), none⟩
    else
      ⟨value.negative, digits.take 1, digits.drop 1,
        some (if first < 0 then .minus else .plus, Text.digits first.natAbs)⟩

def Number.literal : Number → Literal
  | .integer value => ⟨value < 0, Text.digits value.natAbs, [], none⟩
  | .float value => .ofFloat value

def bytePiece (byte : UInt8) : Piece :=
  if byte < 32 ∧ ¬ (byte = 8 ∨ byte = 9 ∨ byte = 10 ∨ byte = 12 ∨ byte = 13) then
    .unit byte.toUInt16
  else .byte byte

def pieces (text : String) : List Piece :=
  (Bytes.ofText text).map bytePiece

mutual

def Value.tree : Value → Tree
  | .null => .null
  | .bool value => .bool value
  | .number number => .number number.literal
  | .text value => .string (pieces value)
  | .array items => .array (itemTrees items)
  | .object members => .object (memberTrees members)

def itemTrees : List Value → List Tree
  | [] => []
  | item :: rest => item.tree :: itemTrees rest

def memberTrees : List (String × Value) → List (List Piece × Tree)
  | [] => []
  | (name, value) :: rest => (pieces name, value.tree) :: memberTrees rest

end

def Value.bytes (value : Value) : Bytes :=
  value.tree.bytes

def Value.integer (value : Int) : Value :=
  .number (.integer value)

def newLine (depth : Nat) : Bytes :=
  10 :: List.replicate (2 * depth) 32

mutual

def Tree.pretty (depth : Nat) : Tree → Bytes
  | .array (first :: rest) =>
    91 :: (newLine (depth + 1) ++ first.pretty (depth + 1) ++ prettyItems depth rest)
  | .object ((name, value) :: rest) =>
    123 :: (newLine (depth + 1) ++ stringBytes name ++ 58 :: 32 :: value.pretty (depth + 1) ++
      prettyMembers depth rest)
  | tree => tree.bytes

def prettyItems (depth : Nat) : List Tree → Bytes
  | [] => newLine depth ++ [93]
  | item :: rest =>
    44 :: (newLine (depth + 1) ++ item.pretty (depth + 1) ++ prettyItems depth rest)

def prettyMembers (depth : Nat) : List (List Piece × Tree) → Bytes
  | [] => newLine depth ++ [125]
  | (name, value) :: rest =>
    44 :: (newLine (depth + 1) ++ stringBytes name ++ 58 :: 32 :: value.pretty (depth + 1) ++
      prettyMembers depth rest)

end

def Value.pretty (value : Value) : Bytes :=
  value.tree.pretty 0

end Multichain.Json
