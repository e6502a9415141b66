import Mathlib
import Multichain.Proofs.ByteText
import Multichain.Proofs.JsonOrder
import Multichain.Proofs.JsonText
import Multichain.Proofs.Numeral

/-!
What the text of a value tells of the value. Main statements: `bytes_injective`, for values without
floating-point numbers, and `read_value`.
-/

set_option autoImplicit false

namespace Multichain.Json

open Multichain

inductive Value.FloatFree : Value → Prop
  | null : FloatFree .null
  | bool (value : Bool) : FloatFree (.bool value)
  | integer (value : Int) : FloatFree (.integer value)
  | text (value : String) : FloatFree (.text value)
  | array (items : List Value) (each : ∀ item ∈ items, FloatFree item) : FloatFree (.array items)
  | object (members : List (String × Value)) (each : ∀ member ∈ members, FloatFree member.2) :
    FloatFree (.object members)

/-- Numbers are whole and fit a word, and no more than `depth` arrays and objects stand within one
another. -/
inductive Value.Fits : Nat → Value → Prop
  | null (depth : Nat) : Fits depth .null
  | bool (depth : Nat) (value : Bool) : Fits depth (.bool value)
  | integer (depth : Nat) (value : Int) (low : -2 ^ 63 ≤ value) (high : value ≤ maxWord) :
    Fits depth (.integer value)
  | text (depth : Nat) (value : String) : Fits depth (.text value)
  | array (depth : Nat) (items : List Value) (each : ∀ item ∈ items, Fits depth item) :
    Fits (depth + 1) (.array items)
  | object (depth : Nat) (members : List (String × Value))
    (each : ∀ member ∈ members, Fits depth member.2) : Fits (depth + 1) (.object members)

@[simp]
theorem floatFree_text (value : String) : (Value.text value).FloatFree :=
  .text value

@[simp]
theorem floatFree_array (items : List Value) :
    (Value.array items).FloatFree ↔ ∀ item ∈ items, item.FloatFree := by
  constructor
  · rintro ⟨⟩
    assumption
  · exact .array items

@[simp]
theorem floatFree_object (members : List (String × Value)) :
    (Value.object members).FloatFree ↔ ∀ member ∈ members, member.2.FloatFree := by
  constructor
  · rintro ⟨⟩
    assumption
  · exact .object members

@[simp]
theorem fits_text (depth : Nat) (value : String) : (Value.text value).Fits depth :=
  .text depth value

@[simp]
theorem fits_array (depth : Nat) (items : List Value) :
    (Value.array items).Fits (depth + 1) ↔ ∀ item ∈ items, item.Fits depth := by
  constructor
  · rintro ⟨⟩
    assumption
  · exact .array depth items

@[simp]
theorem fits_object (depth : Nat) (members : List (String × Value)) :
    (Value.object members).Fits (depth + 1) ↔ ∀ member ∈ members, member.2.Fits depth := by
  constructor
  · rintro ⟨⟩
    assumption
  · exact .object depth members

theorem Value.Fits.floatFree {depth : Nat} {value : Value} (fits : value.Fits depth) :
    value.FloatFree := by
  induction fits with
  | null => exact .null
  | bool _ value => exact .bool value
  | integer _ value => exact .integer value
  | text _ value => exact .text value
  | array _ items _ ih => exact .array items ih
  | object _ members _ ih => exact .object members ih

theorem Value.Fits.succ {depth : Nat} {value : Value} (fits : value.Fits depth) :
    value.Fits (depth + 1) := by
  induction fits with
  | null depth => exact .null (depth + 1)
  | bool depth value => exact .bool (depth + 1) value
  | integer depth value low high => exact .integer (depth + 1) value low high
  | text depth value => exact .text (depth + 1) value
  | array depth items _ ih => exact .array (depth + 1) items ih
  | object depth members _ ih => exact .object (depth + 1) members ih

theorem Value.FloatFree.sorted {value : Value} (free : value.FloatFree) : value.sorted.FloatFree := by
  induction free with
  | null => exact .null
  | bool value => exact .bool value
  | integer value => exact .integer value
  | text value => exact .text value
  | array items _ ih =>
    rw [Value.sorted, sortedItems_eq_map]
    exact .array _ (by simpa using ih)
  | object members _ ih =>
    refine .object _ fun member found => ?_
    obtain ⟨original, present, rfl⟩ := mem_sortedMembers members member found
    exact ih original present

theorem Value.Fits.sorted {depth : Nat} {value : Value} (fits : value.Fits depth) :
    value.sorted.Fits depth := by
  induction fits with
  | null depth => exact .null depth
  | bool depth value => exact .bool depth value
  | integer depth value low high => exact .integer depth value low high
  | text depth value => exact .text depth value
  | array depth items _ ih =>
    rw [Value.sorted, sortedItems_eq_map]
    exact .array depth _ (by simpa using ih)
  | object depth members _ ih =>
    refine .object depth _ fun member found => ?_
    obtain ⟨original, present, rfl⟩ := mem_sortedMembers members member found
    exact ih original present

theorem written_integer (value : Int) : (Number.integer value).literal.Written := by
  refine ⟨Text.digits_ne_nil _, fun zero => ?_, Text.digit_lt _, by simp [Number.literal], ?_⟩
  · have none : value.natAbs = 0 := Text.head?_digits _ zero
    simp [Number.literal, none, Text.digits_of_lt]
  · simp [Number.literal]

theorem literal_integer_injective (first second : Int)
    (same : (Number.integer first).literal = (Number.integer second).literal) : first = second := by
  simp only [Number.literal, Literal.mk.injEq, decide_eq_decide, and_true] at same
  have magnitude := Text.digits_injective _ _ same.2
  omega

theorem number?_whole (value : Int) (digits : List Nat)
    (magnitude : Text.ofDigits digits = value.natAbs) (low : -2 ^ 63 ≤ value)
    (high : value ≤ maxWord) :
    Literal.number? ⟨value < 0, digits, [], none⟩ = some (.integer value) := by
  have whole : Literal.integer? ⟨value < 0, digits, [], none⟩ = some value := by
    simp only [Literal.integer?, ne_eq, not_true_eq_false, Option.isSome_none, Bool.false_eq_true,
      or_self, if_false, magnitude]
    by_cases negative : value < 0
    · rw [if_pos (by simpa using negative), if_pos (by omega)]
      congr 1
      omega
    · rw [if_neg (by simpa using negative), if_pos (by omega)]
      congr 1
      omega
  rw [Literal.number?, whole]

theorem number?_integer (value : Int) (low : -2 ^ 63 ≤ value) (high : value ≤ maxWord) :
    (Number.integer value).literal.number? = some (.integer value) :=
  number?_whole value _ (Text.ofDigits_digits _) low high

theorem written_bytePiece (byte : UInt8) : (bytePiece byte).Written := by
  unfold bytePiece
  split_ifs with control
  · trivial
  · simp only [Piece.Written, List.mem_cons, List.not_mem_nil, or_false]
    by_cases low : byte < 32
    · exact .inr (by tauto)
    · exact .inl (by simpa using low)

theorem bytePiece_injective : Function.Injective bytePiece := by
  intro first second same
  unfold bytePiece at same
  split_ifs at same
  · have code := congrArg UInt16.toNat (Piece.unit.inj same)
    exact UInt8.toNat_inj.mp (by simpa using code)
  · exact Piece.byte.inj same

theorem pieces_injective (first second : String) (same : pieces first = pieces second) :
    first = second := by
  have bytes : Bytes.ofText first = Bytes.ofText second :=
    List.map_injective_iff.mpr bytePiece_injective same
  have text := Bytes.text?_ofText first
  rw [bytes, Bytes.text?_ofText] at text
  exact (Option.some.inj text).symm

theorem written_pieces (text : String) : ∀ piece ∈ pieces text, piece.Written := by
  intro piece member
  obtain ⟨byte, -, rfl⟩ := List.mem_map.mp member
  exact written_bytePiece byte

theorem pieceBytes?_unit (unit : UInt16) (rest : List Piece) (high : isHighSurrogate unit = false)
    (low : isLowSurrogate unit = false) :
    pieceBytes? (.unit unit :: rest) =
      (pieceBytes? rest).map (String.utf8EncodeChar (Char.ofNat unit.toNat) ++ ·) := by
  cases rest with
  | nil => simp [pieceBytes?, high, low]
  | cons piece others => cases piece <;> simp [pieceBytes?, high, low]

theorem pieceBytes?_bytePiece (byte : UInt8) (rest : List Piece) :
    pieceBytes? (bytePiece byte :: rest) = (pieceBytes? rest).map (byte :: ·) := by
  unfold bytePiece
  split_ifs with control
  · have small : byte.toNat < 32 := control.1
    have code := Bytes.toNat_ascii byte.toNat (by omega)
    have encoded : String.utf8EncodeChar (Char.ofNat byte.toNat) = [byte] := by
      rw [Bytes.utf8EncodeChar_ascii _ (by omega), code, UInt8.ofNat_toNat]
    have below (bound : UInt16) (large : 32 ≤ bound.toNat) : ¬ bound ≤ byte.toUInt16 := by
      rw [UInt16.le_iff_toNat_le, UInt8.toNat_toUInt16]
      omega
    have high : isHighSurrogate byte.toUInt16 = false := by
      simp [isHighSurrogate, below 0xD800 (by decide)]
    have low : isLowSurrogate byte.toUInt16 = false := by
      simp [isLowSurrogate, below 0xDC00 (by decide)]
    rw [pieceBytes?_unit _ rest high low, UInt8.toNat_toUInt16, encoded]
    rfl
  · rfl

theorem string?_pieces (text : String) : string? (pieces text) = some text := by
  have bytes (values : Bytes) : pieceBytes? (values.map bytePiece) = some values := by
    induction values with
    | nil => rfl
    | cons byte rest ih => rw [List.map_cons, pieceBytes?_bytePiece, ih, Option.map_some]
  rw [string?, pieces, bytes, Option.bind_some, Bytes.text?_ofText]

theorem itemsWritten (items : List Value) (each : ∀ item ∈ items, item.tree.Written) :
    ItemsWritten (itemTrees items) := by
  induction items with
  | nil => trivial
  | cons item rest ih =>
    exact ⟨each item (by simp), ih fun other member => each other (by simp [member])⟩

theorem membersWritten (members : List (String × Value))
    (each : ∀ member ∈ members, member.2.tree.Written) : MembersWritten (memberTrees members) := by
  induction members with
  | nil => trivial
  | cons member rest ih =>
    exact ⟨written_pieces member.1, each member (by simp),
      ih fun other found => each other (by simp [found])⟩

theorem written_tree (value : Value) (free : value.FloatFree) : value.tree.Written := by
  induction free with
  | null | bool => trivial
  | integer value => exact written_integer value
  | text value => exact written_pieces value
  | array items _ ih => exact itemsWritten items ih
  | object members _ ih => exact membersWritten members ih

theorem itemTrees_eq_map (items : List Value) : itemTrees items = items.map Value.tree := by
  induction items with
  | nil => rfl
  | cons item rest ih => rw [itemTrees, ih, List.map_cons]

theorem memberTrees_eq_map (members : List (String × Value)) :
    memberTrees members = members.map fun member => (pieces member.1, member.2.tree) := by
  induction members with
  | nil => rfl
  | cons member rest ih => rw [memberTrees, ih, List.map_cons]

-- Floating-point numbers are left out: different ones could be written alike.
theorem tree_injective (first second : Value) (free : first.FloatFree) (other : second.FloatFree)
    (same : first.tree = second.tree) : first = second := by
  induction free generalizing second with
  | null => cases other <;> simp_all [Value.tree, Value.integer]
  | bool value => cases other <;> simp_all [Value.tree, Value.integer]
  | integer value =>
    cases other with
    | integer number =>
      rw [literal_integer_injective value number (by simpa [Value.tree, Value.integer] using same)]
    | null | bool | text | array | object => simp [Value.tree, Value.integer] at same
  | text value =>
    cases other with
    | text words =>
      rw [pieces_injective value words (by simpa [Value.tree] using same)]
    | null | bool | integer | array | object => simp [Value.tree, Value.integer] at same
  | array items _ ih =>
    cases other with
    | array others each =>
      simp only [Value.tree, Tree.array.injEq, itemTrees_eq_map] at same
      rw [map_injective_of_mem Value.tree items others (fun item present other found =>
        ih item present other (each other found)) same]
    | null | bool | integer | text | object => simp [Value.tree, Value.integer] at same
  | object members _ ih =>
    cases other with
    | object others each =>
      simp only [Value.tree, Tree.object.injEq, memberTrees_eq_map] at same
      rw [map_injective_of_mem _ members others ?_ same]
      intro member present other found written
      have name := pieces_injective _ _ (Prod.mk.inj written).1
      exact Prod.ext name (ih member present other.2 (each other found) (Prod.mk.inj written).2)
    | null | bool | integer | text | array => simp [Value.tree, Value.integer] at same

theorem bytes_injective (first second : Value) (free : first.FloatFree) (other : second.FloatFree)
    (same : first.bytes = second.bytes) : first = second := by
  have read := read_bytes first.tree (written_tree first free)
  have again := read_bytes second.tree (written_tree second other)
  rw [Value.bytes, Value.bytes] at same
  rw [same, again, Option.some_inj] at read
  exact tree_injective first second free other read.symm

theorem itemValues?_itemTrees (depth : Nat) (items : List Value)
    (each : ∀ item ∈ items, item.tree.value? depth = some item.sorted) :
    itemValues? depth (itemTrees items) = some (sortedItems items) := by
  induction items with
  | nil => rfl
  | cons item rest ih =>
    have tail := ih fun other member => each other (by simp [member])
    simp only [itemTrees, itemValues?, each item (by simp), tail, sortedItems, Option.bind_eq_bind,
      Option.bind_some]
    rfl

theorem memberValues?_memberTrees (depth : Nat) (members : List (String × Value))
    (each : ∀ member ∈ members, member.2.tree.value? depth = some member.2.sorted) :
    memberValues? depth (memberTrees members) = some (sortedMembers members) := by
  induction members with
  | nil => rfl
  | cons member rest ih =>
    have tail := ih fun other found => each other (by simp [found])
    simp only [memberTrees, memberValues?, string?_pieces, each member (by simp), tail,
      sortedMembers, Option.bind_eq_bind, Option.bind_some]
    rfl

theorem value?_tree (depth : Nat) (value : Value) (fits : value.Fits depth) :
    value.tree.value? depth = some value.sorted := by
  induction fits with
  | null | bool => simp [Value.tree, Tree.value?, Value.sorted]
  | integer _ value low high =>
    simp [Value.integer, Value.tree, Tree.value?, Value.sorted, number?_integer value low high]
  | text _ value => simp [Value.tree, Tree.value?, Value.sorted, string?_pieces]
  | array depth items _ ih =>
    simp [Value.tree, Tree.value?, Value.sorted, itemValues?_itemTrees depth items ih]
  | object depth members _ ih =>
    simp [Value.tree, Tree.value?, Value.sorted, memberValues?_memberTrees depth members ih]

theorem value?_of_itemValues? (depth : Nat) (items values : List Value)
    (read : itemValues? depth (itemTrees items) = some values) :
    ∀ item ∈ items, ∃ found, item.tree.value? depth = some found := by
  induction items generalizing values with
  | nil => simp
  | cons item rest ih =>
    simp only [itemTrees, itemValues?, Option.bind_eq_bind, Option.bind_eq_some_iff] at read
    obtain ⟨found, first, others, tail, -⟩ := read
    intro other member
    rcases List.mem_cons.mp member with rfl | later
    · exact ⟨found, first⟩
    · exact ih others tail other later

theorem value?_of_memberValues? (depth : Nat) (members values : List (String × Value))
    (read : memberValues? depth (memberTrees members) = some values) :
    ∀ member ∈ members, ∃ found, member.2.tree.value? depth = some found := by
  induction members generalizing values with
  | nil => simp
  | cons member rest ih =>
    simp only [memberTrees, memberValues?, string?_pieces, Option.bind_eq_bind, Option.bind_some,
      Option.bind_eq_some_iff] at read
    obtain ⟨found, first, others, tail, -⟩ := read
    intro other present
    rcases List.mem_cons.mp present with rfl | later
    · exact ⟨found, first⟩
    · exact ih others tail other later

theorem fits_of_value? (depth limit : Nat) (value found : Value) (fits : value.Fits depth)
    (read : value.tree.value? limit = some found) : value.Fits limit := by
  induction fits generalizing limit found with
  | null => exact .null limit
  | bool _ value => exact .bool limit value
  | integer _ value low high => exact .integer limit value low high
  | text _ value => exact .text limit value
  | array _ items _ ih =>
    cases limit with
    | zero => simp [Value.tree, Tree.value?] at read
    | succ limit =>
      simp only [Value.tree, Tree.value?, Option.map_eq_some_iff] at read
      obtain ⟨values, items, -⟩ := read
      refine .array limit _ fun item member => ?_
      obtain ⟨part, inner⟩ := value?_of_itemValues? limit _ values items item member
      exact ih item member limit part inner
  | object _ members _ ih =>
    cases limit with
    | zero => simp [Value.tree, Tree.value?] at read
    | succ limit =>
      simp only [Value.tree, Tree.value?, Option.map_eq_some_iff] at read
      obtain ⟨values, members, -⟩ := read
      refine .object limit _ fun member present => ?_
      obtain ⟨part, inner⟩ := value?_of_memberValues? limit _ values members member present
      exact ih member present limit part inner

theorem read_value (value : Value) (fits : value.Fits maxDepth) :
    Value.read value.bytes = some value.sorted := by
  rw [Value.read, Value.bytes, read_bytes value.tree (written_tree value fits.floatFree),
    Option.bind_eq_bind, Option.bind_some, value?_tree maxDepth value fits]

theorem read_sorted (value : Value) (fits : value.Fits maxDepth) :
    Value.read value.sorted.bytes = some value.sorted := by
  rw [read_value value.sorted fits.sorted, sorted_sorted]

end Multichain.Json
