import Mathlib
import Multichain.Proofs.JsonGrammar

/-!
The one text that is written of a value whose members are in order: members in strictly ascending
order of the bytes of their names, at every depth, and nothing between the signs. Main statement:
`canonical_sorted`.
-/

set_option autoImplicit false

namespace Multichain.Json

open Multichain

inductive Value.Ordered : Value → Prop
  | null : Ordered .null
  | bool (value : Bool) : Ordered (.bool value)
  | number (value : Number) : Ordered (.number value)
  | text (value : String) : Ordered (.text value)
  | array (items : List Value) (each : ∀ item ∈ items, Ordered item) : Ordered (.array items)
  | object (members : List (String × Value))
    (ascending : (members.map fun member => Bytes.ofText member.1).Pairwise (· < ·))
    (each : ∀ member ∈ members, Ordered member.2) : Ordered (.object members)

theorem ordered_sorted (value : Value) : value.sorted.Ordered := by
  induction value using Value.nested_induction with
  | null => exact .null
  | bool value => exact .bool value
  | number value => exact .number value
  | text value => exact .text value
  | array items ih =>
    rw [Value.sorted, sortedItems_eq_map]
    exact .array _ (by simpa using ih)
  | object members ih =>
    rw [Value.sorted]
    refine .object _ ?_ fun member found => ?_
    · exact List.pairwise_map.mpr ((sortMembers_ascending _).imp (Bytes.ofText_lt _ _))
    · obtain ⟨original, present, rfl⟩ := mem_sortedMembers members member found
      exact ih original present

def Canonical (bytes : Bytes) (document : Value) : Prop :=
  Spells (· = []) document bytes ∧ document.Ordered

theorem hexDigit_hexByte (value : Nat) (small : value < 16) : HexDigit value (hexByte value) := by
  unfold hexByte
  split_ifs with digit
  · exact .inl ⟨digit, rfl⟩
  · exact .inr ⟨by omega, small, .inr rfl⟩

theorem spellsUnit_bytes (unit : UInt16) : SpellsUnit unit.toNat (Piece.unit unit).bytes := by
  have bound := unit.toNat_lt
  exact .digits _ _ _ _ (hexDigit_hexByte _ (by omega)) (hexDigit_hexByte _ (by omega))
    (hexDigit_hexByte _ (by omega)) (hexDigit_hexByte _ (by omega))

def pieceText (byte : UInt8) : Bytes :=
  (bytePiece byte).bytes

theorem pieceText_plain (byte : UInt8) (printable : 32 ≤ byte) (quote : byte ≠ 34)
    (backslash : byte ≠ 92) : pieceText byte = [byte] := by
  have plain : byte ∉ [8, 9, 10, 12, 13, 34, 92] := by
    simp only [List.mem_cons, quote, backslash, List.not_mem_nil, or_false]
    rintro (rfl | rfl | rfl | rfl | rfl) <;> exact absurd printable (by decide)
  have high : ¬ (byte < 32 ∧ ¬ (byte = 8 ∨ byte = 9 ∨ byte = 10 ∨ byte = 12 ∨ byte = 13)) :=
    fun control => UInt8.not_lt.mpr printable control.1
  rw [pieceText, bytePiece, if_neg high, Piece.bytes_plain byte plain]

theorem pieceText_short : ∀ byte ∈ ([8, 9, 10, 12, 13, 34, 92] : Bytes),
    ∃ letter, pieceText byte = [92, letter] ∧ (letter, byte.toNat) ∈ shortEscapes := by
  simp only [List.forall_mem_cons, List.not_mem_nil, false_implies, implies_true, and_true]
  refine ⟨⟨98, ?_⟩, ⟨116, ?_⟩, ⟨110, ?_⟩, ⟨102, ?_⟩, ⟨114, ?_⟩, ⟨34, ?_⟩, ⟨92, ?_⟩⟩ <;> decide

theorem pieceText_control (byte : UInt8) (control : byte < 32)
    (long : byte ∉ ([8, 9, 10, 12, 13, 34, 92] : Bytes)) :
    pieceText byte = (Piece.unit byte.toUInt16).bytes := by
  rw [pieceText, bytePiece, if_pos]
  refine ⟨control, fun short => long ?_⟩
  simp only [List.mem_cons]
  tauto

theorem spellsChar_pieceText (char : Char) :
    SpellsChar char ((String.utf8EncodeChar char).flatMap pieceText) := by
  by_cases plain : 32 ≤ char.toNat ∧ char ≠ '"' ∧ char ≠ '\\'
  · obtain ⟨printable, quote, backslash⟩ := plain
    have same : (String.utf8EncodeChar char).flatMap pieceText = String.utf8EncodeChar char := by
      refine (List.flatMap_congr fun byte found => ?_).trans (List.flatMap_singleton' _)
      obtain ⟨above, noQuote, noBackslash⟩ :=
        plain_utf8EncodeChar char printable quote backslash byte found
      exact pieceText_plain byte above noQuote noBackslash
    rw [same]
    exact .plain printable quote backslash
  · have small : char.toNat < 128 := by
      by_contra large
      refine plain ⟨by omega, ?_, ?_⟩ <;> rintro rfl <;> exact large (by decide)
    have code : (UInt8.ofNat char.toNat).toNat = char.toNat :=
      UInt8.toNat_ofNat_of_lt' (by omega : char.toNat < 256)
    rw [Bytes.utf8EncodeChar_ascii char small, List.flatMap_singleton]
    by_cases short : UInt8.ofNat char.toNat ∈ ([8, 9, 10, 12, 13, 34, 92] : Bytes)
    · obtain ⟨letter, text, known⟩ := pieceText_short _ short
      rw [text]
      exact .short letter (code ▸ known)
    · have control : UInt8.ofNat char.toNat < 32 := by
        by_contra high
        rw [UInt8.lt_iff_toNat_lt, code] at high
        refine plain ⟨Nat.not_lt.mp high, ?_, ?_⟩ <;> rintro rfl <;> exact short (by decide)
      have unit := spellsUnit_bytes (UInt8.ofNat char.toNat).toUInt16
      rw [UInt8.toNat_toUInt16, code] at unit
      rw [pieceText_control _ control short]
      exact .unit _ unit

theorem spellsChars_pieceText (chars : List Char) :
    SpellsChars chars ((chars.flatMap String.utf8EncodeChar).flatMap pieceText) := by
  induction chars with
  | nil => exact .nil
  | cons char rest ih =>
    rw [List.flatMap_cons, List.flatMap_append]
    exact .cons char rest _ _ (spellsChar_pieceText char) ih

theorem spellsString_pieces (text : String) : SpellsString text (stringBytes (pieces text)) := by
  refine ⟨(pieces text).flatMap Piece.bytes, ?_, rfl⟩
  have spelled := spellsChars_pieceText text.toList
  rw [← Bytes.ofText_eq_flatMap] at spelled
  rw [pieces, List.flatMap_map]
  exact spelled

theorem spells_integer (value : Int) (low : -2 ^ 63 ≤ value) (high : value ≤ maxWord) :
    Spells (· = []) (.integer value) (Value.integer value).bytes := by
  obtain ⟨present, single, small, -, -⟩ := written_integer value
  have bytes : (Value.integer value).bytes =
      (if value < 0 then [45] else []) ++ (Text.digits value.natAbs).map digitByte := by
    simp [Value.integer, Value.bytes, Value.tree, Tree.bytes, Number.literal, Literal.bytes]
  rw [bytes]
  exact .integer value _ ⟨present, single, small⟩ (Text.ofDigits_digits _) low high

theorem itemBytes_eq_listed (items : List Value) (first : Bytes) :
    first ++ itemBytes (itemTrees items) = listed 93 first (items.map Value.bytes) := by
  induction items generalizing first with
  | nil => rfl
  | cons item rest ih => rw [itemTrees, itemBytes, ← Value.bytes, ih, List.map_cons, listed]

def memberText (member : String × Value) : Bytes :=
  stringBytes (pieces member.1) ++ 58 :: member.2.bytes

theorem memberBytes_eq_listed (members : List (String × Value)) (first : Bytes) :
    first ++ memberBytes (memberTrees members) = listed 125 first (members.map memberText) := by
  induction members generalizing first with
  | nil => rfl
  | cons member rest ih =>
    rw [List.map_cons, listed, ← ih, memberTrees, memberBytes, memberText, Value.bytes]
    simp

def closeSlot (value : Value) : Slot :=
  ⟨[], value, value.bytes, []⟩

def closeEntry (member : String × Value) : Entry :=
  ⟨[], member.1, stringBytes (pieces member.1), [], closeSlot member.2⟩

theorem closeSlot_bytes (value : Value) : (closeSlot value).bytes = value.bytes := by
  simp [closeSlot, Slot.bytes]

theorem closeEntry_bytes (member : String × Value) :
    (closeEntry member).bytes = memberText member := by
  simp [closeEntry, Entry.bytes, closeSlot_bytes, memberText]

theorem spells_array (first : Value) (rest : List Value)
    (each : ∀ item ∈ first :: rest, Spells (· = []) item item.bytes) :
    Spells (· = []) (.array (first :: rest)) (Value.array (first :: rest)).bytes := by
  have gaps : ∀ slot ∈ (first :: rest).map closeSlot, slot.before = [] ∧ slot.behind = [] :=
    List.forall_mem_map.mpr fun _ _ => ⟨rfl, rfl⟩
  have own : ∀ slot ∈ (first :: rest).map closeSlot, Spells (· = []) slot.value slot.text :=
    List.forall_mem_map.mpr each
  have spelled : Spells (· = []) _ _ := .array (closeSlot first) (rest.map closeSlot) gaps own
  have items : (closeSlot first :: rest.map closeSlot).map Slot.value = first :: rest := by
    simp [closeSlot, Function.comp_def]
  have bytes : (rest.map closeSlot).map Slot.bytes = rest.map Value.bytes := by
    simp [closeSlot_bytes]
  rw [items, bytes, closeSlot_bytes, ← itemBytes_eq_listed] at spelled
  exact spelled

theorem spells_object (first : String × Value) (rest : List (String × Value))
    (each : ∀ member ∈ first :: rest, Spells (· = []) member.2 member.2.bytes) :
    Spells (· = []) (.object (first :: rest)) (Value.object (first :: rest)).bytes := by
  have gaps : ∀ entry ∈ (first :: rest).map closeEntry, entry.before = [] ∧ entry.behind = [] ∧
      entry.slot.before = [] ∧ entry.slot.behind = [] :=
    List.forall_mem_map.mpr fun _ _ => ⟨rfl, rfl, rfl, rfl⟩
  have names : ∀ entry ∈ (first :: rest).map closeEntry, SpellsString entry.name entry.text :=
    List.forall_mem_map.mpr fun member _ => spellsString_pieces member.1
  have own : ∀ entry ∈ (first :: rest).map closeEntry,
      Spells (· = []) entry.slot.value entry.slot.text :=
    List.forall_mem_map.mpr each
  have spelled : Spells (· = []) _ _ :=
    .object (closeEntry first) (rest.map closeEntry) gaps names own
  have members : (closeEntry first :: rest.map closeEntry).map Entry.member = first :: rest := by
    simp [closeEntry, closeSlot, Entry.member, Function.comp_def]
  have bytes : (rest.map closeEntry).map Entry.bytes = rest.map memberText := by
    simp [closeEntry_bytes]
  rw [members, bytes, closeEntry_bytes, ← memberBytes_eq_listed] at spelled
  have text : (Value.object (first :: rest)).bytes =
      123 :: (memberText first ++ memberBytes (memberTrees rest)) := by
    simp [Value.bytes, Value.tree, memberTrees, Tree.bytes, memberText]
  rw [text]
  exact spelled

theorem spells_bytes (depth : Nat) (value : Value) (fits : value.Fits depth) :
    Spells (· = []) value value.bytes := by
  induction fits with
  | null => exact .null
  | bool depth value => cases value <;> exact .bool _
  | integer depth value low high => exact spells_integer value low high
  | text depth value => exact .text value _ (spellsString_pieces value)
  | array depth items _ ih =>
    cases items with
    | nil => exact .emptyArray [] rfl
    | cons first rest => exact spells_array first rest ih
  | object depth members _ ih =>
    cases members with
    | nil => exact .emptyObject [] rfl
    | cons first rest => exact spells_object first rest ih

theorem canonical_sorted (depth : Nat) (value : Value) (fits : value.Fits depth) :
    Canonical value.sorted.bytes value.sorted :=
  ⟨spells_bytes depth value.sorted fits.sorted, ordered_sorted value⟩

end Multichain.Json
