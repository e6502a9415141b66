import Mathlib
import Multichain.Json.Codec
import Multichain.Proofs.JsonValue
import Multichain.Proofs.Outcome

/-!
Typed reading of what has been written with its members in order. Main statements: `read_object`,
for records, and `read_list`.
-/

set_option autoImplicit false

namespace Multichain.Json

open Multichain Outcome

theorem sorted_list {α : Type} (codec : Codec α) (values : List α) :
    (codec.list.write values).sorted =
      .array (values.map fun value => (codec.write value).sorted) := by
  simp only [Codec.list, Value.sorted, sortedItems_eq_map, List.map_map]
  rfl

theorem named_memberTrees (members : List (String × Value)) :
    Fields.named (memberTrees members) =
      some (members.map fun member => (member.1, member.2.tree)) := by
  induction members with
  | nil => rfl
  | cons member rest ih =>
    simp only [memberTrees, Fields.named, string?_pieces, ih, Option.bind_eq_bind, Option.bind_some]
    rfl

theorem read_object (names : List String) (limit : Nat) (members : List (String × Value))
    (once : (members.map Prod.fst).Nodup) :
    Fields.read names (limit + 1) (Value.object members).tree =
      some ⟨limit, members.map fun member => (member.1, member.2.tree)⟩ := by
  have single : names.any (fun name => 1 < (members.map fun member =>
      (member.1, member.2.tree)).countP (·.1 == name)) = false := by
    rw [List.any_eq_false]
    intro name _ repeated
    have count := List.nodup_iff_count_le_one.mp once name
    rw [List.count, List.countP_map] at count
    rw [decide_eq_true_eq, List.countP_map] at repeated
    exact Nat.not_lt.mpr count repeated
  simp only [Value.tree, Fields.read, named_memberTrees, Option.bind_eq_bind, Option.bind_some]
  rw [single]
  rfl

@[simp]
theorem required_cons {α : Type} (limit : Nat) (other name : String) (tree : Tree)
    (rest : List (String × Tree)) (codec : Codec α) :
    Fields.required ⟨limit, (other, tree) :: rest⟩ name codec =
      if other = name then codec.read limit tree else Fields.required ⟨limit, rest⟩ name codec := by
  by_cases same : other = name <;> simp [Fields.required, Fields.find?, same]

@[simp]
theorem withDefault_cons {α : Type} (limit : Nat) (other name : String) (tree : Tree)
    (rest : List (String × Tree)) (absent : α) (codec : Codec α) :
    Fields.withDefault ⟨limit, (other, tree) :: rest⟩ name absent codec =
      if other = name then codec.read limit tree
      else Fields.withDefault ⟨limit, rest⟩ name absent codec := by
  by_cases same : other = name <;> simp [Fields.withDefault, Fields.find?, same]

def Codec.Restores {α : Type} (codec : Codec α) (depth : Nat) (value : α) : Prop :=
  ∀ limit, depth ≤ limit → codec.read limit (codec.write value).sorted.tree = some value

@[simp]
theorem read_text (limit : Nat) (text : String) :
    Codec.text.read limit (Value.text text).tree = some text :=
  string?_pieces text

theorem read_list {α : Type} (codec : Codec α) (limit : Nat) (values : List α) :
    codec.list.read (limit + 1) (codec.list.write values).sorted.tree =
      values.mapM fun value => codec.read limit (codec.write value).sorted.tree := by
  rw [sorted_list, Value.tree, itemTrees_eq_map, List.map_map]
  exact List.mapM_map

theorem restores_list {α : Type} (codec : Codec α) (depth : Nat) (values : List α)
    (each : ∀ value ∈ values, codec.Restores depth value) :
    codec.list.Restores (depth + 1) values := by
  rintro (_ | limit) enough
  · omega
  rw [read_list, mapM_eq_some_iff]
  exact List.map_congr_left fun value found => each value found limit (by omega)

end Multichain.Json
