import Mathlib
import Multichain.Proofs.ResolvedConfig

/-!
How a resolved configuration is classified. It is native exactly if its id is the symbol of its
chain, and its decimals are those of the settings or, for a native asset only, those of the chain.
Main statement: `kind_agrees_with_id`.
-/

set_option autoImplicit false

namespace Multichain

open Text AssetId

theorem NativeAsset.defaultDecimals_ne_zero (native : NativeAsset) : native.defaultDecimals ≠ 0 := by
  cases native <;> decide

theorem AssetId.ofSymbolAndChain_eq_symbol_iff (symbol : String) (native : NativeAsset) :
    ofSymbolAndChain symbol (upper native.symbol) = ⟨upper native.symbol⟩ ↔
      NativeAsset.lookup symbol = some native := by
  rw [NativeAsset.lookup_eq_some_iff]
  by_cases implied : Implies (upper symbol) (upper native.symbol)
  · rw [ofSymbolAndChain_of_implies _ _ implied, mk.injEq, eq_comm]
  · have plain : Undotted native.symbol :=
      undotted_of_lookup _ native (NativeAsset.lookup_symbol native)
    rw [ofSymbolAndChain_of_not_implies _ _ implied]
    apply iff_of_false
    · exact (bare_ne_dotted _ _ _ plain).symm
    · intro own
      exact implied (.inl own.symm)

namespace AssetConfig

theorem places_of_decimals (config : AssetConfig) (count : UInt32)
    (placed : config.decimals = some count) : config.places = count := by
  simp only [places, placed]

theorem places_of_native (config : AssetConfig) (native : NativeAsset)
    (own : config.kind = some .native) (known : config.native = some native) :
    config.places = config.decimals.getD native.defaultDecimals := by
  simp only [places, own, known]
  cases config.decimals with
  | none => rfl
  | some count => rfl

theorem kind_agrees_with_id (environment : Environment) (config after : AssetConfig)
    (resolved : config.resolve environment = (after, .ok ())) :
    ∃ native kind, after.native = some native ∧ after.kind = some kind ∧
      (kind = .native ↔ after.id = ⟨upper native.symbol⟩) ∧
      (kind = .token → ∃ count, config.decimals = some count ∧ after.places = count) ∧
      (kind = .native → after.places = config.decimals.getD native.defaultDecimals) ∧
      (config.decimals = none → after.places ≠ 0) := by
  obtain ⟨native, kind, secret, classified, -, rfl⟩ := (resolve_eq_ok_iff ..).mp resolved
  obtain ⟨symbol, parts, told⟩ := (AssetSettings.classify_eq_ok_iff_symbol ..).mp classified
  refine ⟨native, kind, rfl, rfl, ?_⟩
  rw [id_completed _ native kind secret symbol _ parts, ofSymbolAndChain_eq_symbol_iff]
  rcases told with ⟨own, rfl⟩ | ⟨foreign, placed, rfl⟩
  · have counted : (config.completed native .native secret).places =
        config.decimals.getD native.defaultDecimals :=
      places_of_native _ native rfl rfl
    refine ⟨iff_of_true rfl own, nofun, fun _ => counted, ?_⟩
    intro free
    rw [counted, free]
    exact native.defaultDecimals_ne_zero
  · obtain ⟨count, given⟩ := Option.ne_none_iff_exists'.mp placed
    have counted : (config.completed native .token secret).places = count :=
      places_of_decimals _ count given
    refine ⟨iff_of_false nofun foreign, fun _ => ⟨count, given, counted⟩, nofun, ?_⟩
    intro free
    exact absurd free placed

def arbEthOnEth : AssetConfig :=
  { asset := "ArbETH", chain := "eth", decimals := some 6 }

theorem arbEthOnEth_token :
    ∃ after, arbEthOnEth.resolve bare = (after, .ok ()) ∧ after.id = ⟨"ARBETH"⟩ ∧
      after.kind = some .token ∧ after.places = 6 := by
  let after := arbEthOnEth.completed .eth .token ""
  have resolved : arbEthOnEth.resolve bare = (after, .ok ()) := by decide
  have id : after.id = ⟨"ARBETH"⟩ := by decide
  obtain ⟨native, kind, chain, own, -, token, -⟩ := kind_agrees_with_id bare arbEthOnEth after resolved
  obtain rfl : AssetKind.token = kind := Option.some.inj own
  obtain ⟨count, given, counted⟩ := token rfl
  obtain rfl : 6 = count := Option.some.inj given
  exact ⟨after, resolved, id, rfl, counted⟩

end AssetConfig

end Multichain
