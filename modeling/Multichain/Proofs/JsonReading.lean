import Mathlib
import Multichain.Proofs.JsonCodec

/-!
What readers yield. However a text was written, a value that is read of it has its members in order
and leaves as much room as it was read with. Main statements: `settled_of_value?`, for values, and
`yields_list`, by which such facts carry over from what is read of items to what is read of lists.
-/

set_option autoImplicit false

namespace Multichain.Json

open Multichain

/-- A value such as a reader yields that has room for `limit` arrays and objects within one another.
Floating-point numbers are left out, since they might be read back as other ones. -/
structure Value.Settled (limit : Nat) (value : Value) : Prop where
  sorted : value.sorted = value
  fits : value.FloatFree → value.Fits limit

theorem integer?_range (literal : Literal) (value : Int) (read : literal.integer? = some value) :
    -2 ^ 63 ≤ value ∧ value ≤ maxWord := by
  simp only [Literal.integer?] at read
  split_ifs at read with written negative range range
  · obtain rfl := Option.some.inj read
    omega
  · obtain rfl := Option.some.inj read
    omega

theorem integer?_of_number? (literal : Literal) (value : Int)
    (read : literal.number? = some (.integer value)) : literal.integer? = some value := by
  rw [Literal.number?] at read
  cases whole : literal.integer? with
  | some other => simpa [whole] using read
  | none => simp [whole] at read

theorem not_floatFree_float (value : Binary64) : ¬ (Value.number (.float value)).FloatFree := by
  intro free
  generalize same : Value.number (.float value) = number at free
  cases free <;> simp [Value.integer] at same

theorem settled_number (limit : Nat) (literal : Literal) (number : Number)
    (read : literal.number? = some number) : (Value.number number).Settled limit := by
  cases number with
  | float value => exact ⟨rfl, fun free => absurd free (not_floatFree_float value)⟩
  | integer value =>
    obtain ⟨low, high⟩ := integer?_range literal value (integer?_of_number? literal value read)
    exact ⟨rfl, fun _ => .integer limit value low high⟩

theorem settled_array (limit : Nat) (items : List Value) (each : ∀ item ∈ items, item.Settled limit) :
    (Value.array items).Settled (limit + 1) := by
  constructor
  · have same : items.map Value.sorted = items :=
      (List.map_congr_left fun item found => (each item found).sorted).trans (List.map_id _)
    rw [Value.sorted, sortedItems_eq_map, same]
  · intro free
    rw [floatFree_array] at free
    exact .array limit items fun item found => (each item found).fits (free item found)

theorem settled_object (limit : Nat) (members : List (String × Value))
    (each : ∀ member ∈ members, member.2.Settled limit) :
    (Value.object (sortMembers members)).Settled (limit + 1) := by
  have own : ∀ member ∈ sortMembers members, member.2.Settled limit := fun member found =>
    each member (mem_sortMembers members member found)
  constructor
  · exact sorted_object members fun member found => (each member found).sorted
  · intro free
    rw [floatFree_object] at free
    exact .object limit _ fun member found => (own member found).fits (free member found)

theorem mem_itemValues? (limit : Nat) (items : List Tree) (values : List Value)
    (read : itemValues? limit items = some values) :
    ∀ value ∈ values, ∃ item : Tree, item.value? limit = some value := by
  induction items generalizing values with
  | nil =>
    obtain rfl : [] = values := by simpa [itemValues?] using read
    simp
  | cons item rest ih =>
    simp only [itemValues?, Option.bind_eq_bind, Option.bind_eq_some_iff, Option.pure_def,
      Option.some_inj] at read
    obtain ⟨value, first, others, tail, rfl⟩ := read
    intro other found
    rcases List.mem_cons.mp found with rfl | later
    · exact ⟨item, first⟩
    · exact ih others tail other later

theorem mem_memberValues? (limit : Nat) (members : List (List Piece × Tree))
    (values : List (String × Value)) (read : memberValues? limit members = some values) :
    ∀ value ∈ values, ∃ tree : Tree, tree.value? limit = some value.2 := by
  induction members generalizing values with
  | nil =>
    obtain rfl : [] = values := by simpa [memberValues?] using read
    simp
  | cons member rest ih =>
    obtain ⟨pieces, tree⟩ := member
    simp only [memberValues?, Option.bind_eq_bind, Option.bind_eq_some_iff, Option.pure_def,
      Option.some_inj] at read
    obtain ⟨name, -, value, first, others, tail, rfl⟩ := read
    intro other found
    rcases List.mem_cons.mp found with rfl | later
    · exact ⟨tree, first⟩
    · exact ih others tail other later

-- The recursion is on the room that is left, which the parts of a tree have less of than the tree.
theorem settled_of_value? : ∀ (limit : Nat) (tree : Tree) (value : Value),
    tree.value? limit = some value → value.Settled limit
  | limit, .null, value, read => by
    obtain rfl : .null = value := by simpa [Tree.value?] using read
    exact ⟨rfl, fun _ => .null limit⟩
  | limit, .bool flag, value, read => by
    obtain rfl : .bool flag = value := by simpa [Tree.value?] using read
    exact ⟨rfl, fun _ => .bool limit flag⟩
  | limit, .number literal, value, read => by
    simp only [Tree.value?, Option.map_eq_some_iff] at read
    obtain ⟨number, known, rfl⟩ := read
    exact settled_number limit literal number known
  | limit, .string pieces, value, read => by
    simp only [Tree.value?, Option.map_eq_some_iff] at read
    obtain ⟨text, -, rfl⟩ := read
    exact ⟨rfl, fun _ => .text limit text⟩
  | 0, .array items, value, read | 0, .object members, value, read => by
    simp [Tree.value?] at read
  | limit + 1, .array items, value, read => by
    simp only [Tree.value?, Option.map_eq_some_iff] at read
    obtain ⟨values, each, rfl⟩ := read
    refine settled_array limit values fun item found => ?_
    obtain ⟨tree, part⟩ := mem_itemValues? limit items values each item found
    exact settled_of_value? limit tree item part
  | limit + 1, .object members, value, read => by
    simp only [Tree.value?, Option.map_eq_some_iff] at read
    obtain ⟨values, each, rfl⟩ := read
    refine settled_object limit values fun member found => ?_
    obtain ⟨tree, part⟩ := mem_memberValues? limit members values each member found
    exact settled_of_value? limit tree member.2 part

def Codec.Yields {α : Type} (codec : Codec α) (limit : Nat) (good : α → Prop) : Prop :=
  ∀ tree value, codec.read limit tree = some value → good value

theorem yields_value (limit : Nat) : Codec.value.Yields limit (Value.Settled limit) :=
  settled_of_value? limit

theorem yields_list {α : Type} (codec : Codec α) (limit : Nat) (good : α → Prop)
    (each : codec.Yields limit good) :
    codec.list.Yields (limit + 1) fun values => ∀ value ∈ values, good value := by
  intro tree values read
  cases tree with
  | array items =>
    intro value found
    have listed : items.map (codec.read limit) = values.map some :=
      (Outcome.mapM_eq_some_iff ..).mp read
    have member : some value ∈ items.map (codec.read limit) := listed ▸ List.mem_map_of_mem found
    obtain ⟨item, -, part⟩ := List.mem_map.mp member
    exact each item value part
  | null | bool | number | string | object => cases read

theorem depth_of_read (names : List String) (limit : Nat) (tree : Tree) (fields : Fields)
    (read : Fields.read names (limit + 1) tree = some fields) : fields.depth = limit := by
  cases tree with
  | object members =>
    simp only [Fields.read, Option.bind_eq_bind, Option.bind_eq_some_iff] at read
    obtain ⟨found, -, once⟩ := read
    split_ifs at once
    obtain rfl := Option.some.inj once
    rfl
  | array items =>
    simp only [Fields.read] at read
    split_ifs at read
    obtain rfl := Option.some.inj read
    rfl
  | null | bool | number | string => cases read

theorem good_of_required {α : Type} (codec : Codec α) (good : α → Prop) (fields : Fields)
    (name : String) (value : α) (each : codec.Yields fields.depth good)
    (read : fields.required name codec = some value) : good value := by
  obtain ⟨tree, -, part⟩ := Option.bind_eq_some_iff.mp read
  exact each tree value part

end Multichain.Json
