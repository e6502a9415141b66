import Multichain.Json.Value

/-!
Typed reading and writing of JSON. A codec writes a value of its type and reads it back from a tree;
it also says how many arrays and objects may still stand within one another.
-/

set_option autoImplicit false

namespace Multichain.Json

open Multichain

structure Codec (α : Type) where
  write : α → Value
  read : Nat → Tree → Option α

namespace Codec

def encode {α : Type} (codec : Codec α) (value : α) : Bytes :=
  (codec.write value).bytes

def decode {α : Type} (codec : Codec α) (bytes : Bytes) : Option α := do
  codec.read maxDepth (← Tree.read bytes)

def via {α β : Type} (codec : Codec α) (form : β → α) (value? : α → Option β) : Codec β where
  write value := codec.write (form value)
  read depth tree := (codec.read depth tree).bind value?

def value : Codec Value where
  write value := value
  read depth tree := tree.value? depth

def text : Codec String where
  write value := .text value
  read
    | _, .string pieces => string? pieces
    | _, _ => none

def integer (low high : Int) : Codec Int where
  write value := .integer value
  read
    | _, .number literal => literal.integer?.filter fun value => low ≤ value ∧ value ≤ high
    | _, _ => none

def int64 : Codec Int64 :=
  (integer (-0x8000000000000000) 0x7FFFFFFFFFFFFFFF).via Int64.toInt fun value =>
    some (Int64.ofInt value)

def uint32 : Codec UInt32 :=
  (integer 0 0xFFFFFFFF).via (fun value => value.toNat) fun value =>
    some (UInt32.ofNat value.toNat)

def optional {α : Type} (codec : Codec α) : Codec (Option α) where
  write
    | none => .null
    | some value => codec.write value
  read
    | _, .null => some none
    | depth, tree => (codec.read depth tree).map some

def list {α : Type} (codec : Codec α) : Codec (List α) where
  write values := .array (values.map codec.write)
  read
    | depth + 1, .array items => items.mapM (codec.read depth)
    | _, _ => none

-- A word may also be the one name of an object whose member is `null`.
def words {α : Type} (all : List α) (word : α → String) : Codec α where
  write value := .text (word value)
  read
    | _, .string pieces => (string? pieces).bind fun text => all.find? (word · == text)
    | _ + 1, .object [(pieces, .null)] =>
      (string? pieces).bind fun text => all.find? (word · == text)
    | _, _ => none

end Codec

structure Fields where
  depth : Nat
  members : List (String × Tree)

namespace Fields

def find? (fields : Fields) (name : String) : Option Tree :=
  (fields.members.find? (·.1 == name)).map (·.2)

def required {α : Type} (fields : Fields) (name : String) (codec : Codec α) : Option α :=
  (fields.find? name).bind (codec.read fields.depth)

def withDefault {α : Type} (fields : Fields) (name : String) (absent : α) (codec : Codec α) :
    Option α :=
  match fields.find? name with
  | none => some absent
  | some tree => codec.read fields.depth tree

def named : List (List Piece × Tree) → Option (List (String × Tree))
  | [] => some []
  | (pieces, tree) :: rest => do
    let name ← string? pieces
    return (name, tree) :: (← named rest)

/-- A record of the given names: an object, which may hold other members too but none of the given
twice, or an array, which holds the members in the order of the names. -/
def read (names : List String) : Nat → Tree → Option Fields
  | depth + 1, .object members => do
    let members ← named members
    if names.any fun name => 1 < members.countP (·.1 == name) then none
    else return ⟨depth, members⟩
  | depth + 1, .array items =>
    if names.length < items.length then none else some ⟨depth, names.zip items⟩
  | _, _ => none

end Fields

end Multichain.Json
