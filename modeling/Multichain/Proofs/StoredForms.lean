import Mathlib
import Multichain.Asset.Config
import Multichain.Proofs.JsonReading

/-!
Forms that are stored as they are written, whatever the order of their members. Main statements:
`Codec.Stores.decode_encode`, with a lemma for each way to make a codec, and
`AssetConfig.decode_encode_configs`.
-/

set_option autoImplicit false

namespace Multichain

namespace Json

/-- The codec writes no floating-point numbers for the value, and reads the same value again if at
least `depth` arrays and objects may stand within one another. -/
structure Codec.Stores {α : Type} (codec : Codec α) (depth : Nat) (value : α) : Prop where
  floatFree : (codec.write value).FloatFree
  returns : ∀ limit, depth ≤ limit → codec.read limit (codec.write value).tree = some value

theorem Codec.Stores.decode_encode {α : Type} {codec : Codec α} {depth : Nat} {value : α}
    (stores : codec.Stores depth value) (room : depth ≤ maxDepth) :
    codec.decode (codec.encode value) = some value := by
  have written := written_tree (codec.write value) stores.floatFree
  rw [Codec.decode, Codec.encode, Value.bytes, read_bytes _ written, Option.bind_eq_bind,
    Option.bind_some]
  exact stores.returns maxDepth room

theorem stores_text (text : String) : Codec.text.Stores 0 text :=
  ⟨floatFree_text text, fun limit _ => read_text limit text⟩

theorem stores_integer (low high value : Int) (inside : low ≤ value ∧ value ≤ high)
    (least : -2 ^ 63 ≤ value) (most : value ≤ maxWord) :
    (Codec.integer low high).Stores 0 value := by
  have read := integer?_of_number? _ value (number?_integer value least most)
  constructor
  · exact .integer value
  · intro limit _
    simp [Codec.integer, Value.integer, Value.tree, read, inside]

theorem stores_via {α β : Type} (codec : Codec α) (form : β → α) (value? : α → Option β)
    (depth : Nat) (value : β) (inner : codec.Stores depth (form value))
    (same : value? (form value) = some value) : (codec.via form value?).Stores depth value := by
  constructor
  · exact inner.floatFree
  · intro limit enough
    simp only [Codec.via, inner.returns limit enough, Option.bind_some, same]

theorem decode_via {α β : Type} (codec : Codec α) (form : β → α) (value? : α → Option β)
    (bytes : Bytes) : (codec.via form value?).decode bytes = (codec.decode bytes).bind value? := by
  rw [Codec.decode, Codec.decode]
  cases Tree.read bytes <;> rfl

theorem stores_int64 (value : Int64) : Codec.int64.Stores 0 value := by
  have least := value.le_toInt
  have most := value.toInt_lt
  apply stores_via
  · apply stores_integer
    · omega
    · omega
    · rw [maxWord]
      omega
  · simp

theorem stores_uint32 (value : UInt32) : Codec.uint32.Stores 0 value := by
  have most := value.toNat_lt
  apply stores_via
  · apply stores_integer
    · omega
    · omega
    · rw [maxWord]
      omega
  · simp

-- What is there must not be written as if it were absent.
theorem stores_optional {α : Type} (codec : Codec α) (depth : Nat) (value : Option α)
    (each : ∀ inner, value = some inner →
      codec.Stores depth inner ∧ (codec.write inner).tree ≠ .null) :
    codec.optional.Stores depth value := by
  cases value with
  | none => exact ⟨.null, fun _ _ => rfl⟩
  | some inner =>
    obtain ⟨stores, present⟩ := each inner rfl
    constructor
    · exact stores.floatFree
    · intro limit enough
      have read := stores.returns limit enough
      simp [Codec.optional, read]

theorem stores_list {α : Type} (codec : Codec α) (depth : Nat) (values : List α)
    (each : ∀ value ∈ values, codec.Stores depth value) : codec.list.Stores (depth + 1) values := by
  constructor
  · simpa [Codec.list] using fun value member => (each value member).floatFree
  · intro limit enough
    obtain ⟨limit, rfl⟩ : ∃ less, limit = less + 1 := ⟨limit - 1, by omega⟩
    simp only [Codec.list, Value.tree, itemTrees_eq_map, List.map_map]
    rw [List.mapM_map, Outcome.mapM_eq_some_iff]
    exact List.map_congr_left fun value member => (each value member).returns limit (by omega)

theorem stores_record {α : Type} (codec : Codec α) (names : List String) (gather : Fields → Option α)
    (depth : Nat) (value : α) (members : List (String × Value))
    (read : ∀ limit tree, codec.read limit tree = (Fields.read names limit tree).bind gather)
    (written : codec.write value = .object members) (once : (members.map Prod.fst).Nodup)
    (free : ∀ member ∈ members, member.2.FloatFree)
    (gathers : ∀ limit, depth ≤ limit →
      gather ⟨limit, members.map fun member => (member.1, member.2.tree)⟩ = some value) :
    codec.Stores (depth + 1) value := by
  constructor
  · rw [written, floatFree_object]
    exact free
  · rintro (_ | limit) enough
    · omega
    rw [written, read, read_object names limit members once, Option.bind_some]
    exact gathers limit (by omega)

end Json

open Json

namespace AssetSettings

theorem stores_decimals (decimals : Option UInt32) : Codec.uint32.optional.Stores 0 decimals := by
  apply stores_optional
  intro count _
  have present : (Codec.uint32.write count).tree ≠ .null := by
    simp [Codec.uint32, Codec.via, Codec.integer, Value.integer, Value.tree]
  exact ⟨stores_uint32 count, present⟩

theorem stores_settings (settings : AssetSettings) : codec.Stores 1 settings := by
  have chainId := stores_int64 settings.chainId
  have decimals := stores_decimals settings.decimals
  refine stores_record codec fieldNames _ 0 settings _ (fun _ _ => rfl) rfl (by simp) ?_ ?_
  · simp [chainId.floatFree, decimals.floatFree]
  · intro limit enough
    simp [gather, chainId.returns limit enough, decimals.returns limit enough]

end AssetSettings

namespace AssetConfig

def stripped (config : AssetConfig) : AssetConfig :=
  .ofSettings config.toAssetSettings

theorem stores_stripped (config : AssetConfig) : codec.Stores 1 config.stripped := by
  apply stores_via
  · exact AssetSettings.stores_settings config.toAssetSettings
  · rfl

theorem decode_encode_config (config : AssetConfig) :
    codec.decode (codec.encode config) = some config.stripped :=
  (stores_stripped config).decode_encode (by decide)

theorem decode_encode_configs (configs : List AssetConfig) :
    codec.list.decode (codec.list.encode configs) = some (configs.map stripped) := by
  have same : codec.list.encode configs = codec.list.encode (configs.map stripped) := by
    simp only [Codec.encode, Codec.list, List.map_map]
    rfl
  have stores : codec.list.Stores 2 (configs.map stripped) := by
    apply stores_list
    intro config member
    obtain ⟨origin, -, rfl⟩ := List.mem_map.mp member
    exact stores_stripped origin
  rw [same]
  exact stores.decode_encode (by decide)

end AssetConfig

end Multichain
