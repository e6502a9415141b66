import Multichain.Toml.Document

/-!
What values are read as. A decoder is given a value and its place, which is to blame if the value is
not what is asked for.
-/

set_option autoImplicit false

namespace Multichain.Toml

def Value.unfit : Value → Unfit
  | .text value => .text value
  | .integer value => .integer value
  | .float value => .float value
  | .bool value => .bool value
  | .array _ => .sequence
  | .moment _ | .table _ => .map

abbrev Decoder (α : Type) : Type := Span → Value → Except Fault α

structure Fields where
  span : Span
  members : List (String × Span × Value)
  missing : String → Mismatch

namespace Decoder

variable {α : Type}

def otherThan (wanted : String) : Decoder α := fun span value =>
  .error ⟨span, .mismatch (.kind value.unfit wanted)⟩

def text : Decoder String
  | _, .text value => .ok value
  | span, value => otherThan "a string" span value

def within (wanted : String) (low high : Int) : Decoder Int
  | span, .integer value =>
    if low ≤ value ∧ value ≤ high then .ok value
    else .error ⟨span, .mismatch (.bounds value wanted)⟩
  | span, value => otherThan wanted span value

def int64 : Decoder Int64 := fun span value =>
  Int64.ofInt <$> within "i64" (-0x8000000000000000) 0x7FFFFFFFFFFFFFFF span value

def uint32 : Decoder UInt32 := fun span value =>
  (fun number => UInt32.ofNat number.toNat) <$> within "u32" 0 0xFFFFFFFF span value

def list (item : Decoder α) : Decoder (List α)
  | _, .array items => items.mapM fun (span, value) => item span value
  | span, value => otherThan "a sequence" span value

def check (decoder : Decoder α) : Decoder Unit := fun span value =>
  discard (decoder span value)

def members (title : String) (names : List String) : Decoder Fields
  | span, .table members => .ok ⟨span, members, .missing⟩
  | span, .moment _ => .ok ⟨span, [], .missing⟩
  | span, .array items =>
    let wanted := title ++ " with " ++ Text.natural names.length ++ " elements"
    .ok ⟨span, names.zip items, fun _ => .length items.length wanted⟩
  | span, value => otherThan title span value

def record (title : String) (known : List (String × Decoder Unit)) : Decoder Fields :=
  fun span value => do
    let fields ← members title (known.map (·.1)) span value
    fields.members.forM fun (name, span, value) =>
      match known.lookup name with
      | some check => check span value
      | none => return ()
    return fields

end Decoder

namespace Fields

variable {α : Type}

def read? (fields : Fields) (name : String) (decoder : Decoder α) : Except Fault (Option α) :=
  match fields.members.lookup name with
  | some (span, value) => some <$> decoder span value
  | none => .ok none

def withDefault (fields : Fields) (name : String) (default : α) (decoder : Decoder α) :
    Except Fault α := do
  return (← fields.read? name decoder).getD default

def required (fields : Fields) (name : String) (decoder : Decoder α) : Except Fault α := do
  match ← fields.read? name decoder with
  | some value => return value
  | none => throw ⟨fields.span, .mismatch (fields.missing name)⟩

end Fields

def decode {α : Type} (decoder : Decoder α) (text : String) : Except Fault α := do
  decoder ⟨0, text.length⟩ (← read text)

end Multichain.Toml
