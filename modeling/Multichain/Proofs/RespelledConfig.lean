import Mathlib
import Multichain.Proofs.ResolvedConfig

/-!
Whether the letter case of a configuration matters. An asset without a dot is read letter for letter,
but what is found out about it depends on its upper-case form only. Main statement:
`resolve_respelled`.
-/

set_option autoImplicit false

namespace Multichain

open Text AssetId

namespace AssetId

theorem ofSymbolAndChain_congr (symbol other chain : String) (same : upper symbol = upper other) :
    ofSymbolAndChain symbol chain = ofSymbolAndChain other chain := by
  simp only [ofSymbolAndChain, same]

theorem upper_given (asset hint asset' hint' : String) (assets : upper asset = upper asset')
    (hints : upper hint = upper hint') : upper (given asset hint) = upper (given asset' hint') := by
  simp only [given, eq_empty_congr asset asset' assets]
  split_ifs with empty
  · exact hints
  · exact assets

end AssetId

namespace AssetSettings

theorem chainHint_eq_empty_iff (settings : AssetSettings) :
    settings.chainHint = "" ↔ settings.chain = "" ∧ NativeAsset.lookup settings.asset = none := by
  rw [chainHint]
  cases NativeAsset.lookup settings.asset with
  | none => simp
  | some native =>
    by_cases free : settings.chain = ""
    · simp [free]
    · simp [free]

def namedChain (settings : AssetSettings) : String :=
  if settings.chainHint = "" then NativeAsset.defaultChain.symbol else settings.chainHint

theorem symbolAndChain_undotted (settings : AssetSettings)
    (present : given settings.asset settings.chainHint ≠ "")
    (plain : Undotted (given settings.asset settings.chainHint)) :
    symbolAndChain settings.asset settings.chainHint =
      some (given settings.asset settings.chainHint, upper settings.namedChain) := by
  rw [symbolAndChain_whole _ _ present (splitChain_undotted _ plain), namedChain]
  by_cases free : settings.chainHint = ""
  · have own : given settings.asset settings.chainHint = settings.asset := by
      rw [given, free]
      split_ifs with empty
      · exact empty.symm
      · rfl
    have unknown : ¬ NativeAsset.isNative settings.asset :=
      NativeAsset.not_isNative_of_lookup _ (settings.chainHint_eq_empty_iff.mp free).2
    rw [own, if_neg (not_not.mpr free), if_neg unknown, if_pos free]
  · rw [if_pos free, if_neg free]

-- A chain text that stands in for the asset may have a dot, but then it names no chain.
theorem undotted_given (settings : AssetSettings) (plain : Undotted settings.asset)
    (symbol chain : String) (native : NativeAsset)
    (parts : symbolAndChain settings.asset settings.chainHint = some (symbol, chain))
    (known : NativeAsset.lookup chain = some native) :
    Undotted (given settings.asset settings.chainHint) := by
  by_contra dot
  obtain ⟨stem, suffix, whole, -⟩ := exists_dotted _ dot
  rw [given_eq_dotted_iff _ _ _ _ native parts known] at whole
  rw [whole] at plain
  exact not_undotted_dotted stem suffix plain

end AssetSettings

structure AssetConfig.Respelled (first second : AssetConfig) : Prop where
  plain : Undotted first.asset
  asset : upper first.asset = upper second.asset
  chain : upper first.chain = upper second.chain
  others : second = { first with asset := second.asset, chain := second.chain }

namespace AssetConfig.Respelled

variable {first second : AssetConfig}

theorem symm (respelled : Respelled first second) : Respelled second first where
  plain := (undotted_congr _ _ respelled.asset).mp respelled.plain
  asset := respelled.asset.symm
  chain := respelled.chain.symm
  others := by rw [respelled.others]

theorem chainHint (respelled : Respelled first second) :
    upper first.chainHint = upper second.chainHint := by
  rw [AssetSettings.chainHint, AssetSettings.chainHint,
    NativeAsset.lookup_congr _ _ respelled.asset]
  cases NativeAsset.lookup second.asset with
  | none => exact respelled.chain
  | some native => exact upper_given _ native.symbol _ native.symbol respelled.chain rfl

theorem namedChain (respelled : Respelled first second) :
    upper first.namedChain = upper second.namedChain :=
  upper_given _ NativeAsset.defaultChain.symbol _ NativeAsset.defaultChain.symbol
    respelled.chainHint rfl

theorem exists_parts (respelled : Respelled first second) (symbol : String) (native : NativeAsset)
    (parts : symbolAndChain first.asset first.chainHint = some (symbol, upper native.symbol)) :
    ∃ other, upper symbol = upper other ∧
      symbolAndChain second.asset second.chainHint = some (other, upper native.symbol) := by
  have known : NativeAsset.lookup (upper native.symbol) = some native := by simp
  have present : given first.asset first.chainHint ≠ "" := given_ne_empty _ _ _ _ parts
  have plain : Undotted (given first.asset first.chainHint) :=
    first.undotted_given respelled.plain symbol _ native parts known
  have same : upper (given first.asset first.chainHint) =
      upper (given second.asset second.chainHint) :=
    upper_given _ _ _ _ respelled.asset respelled.chainHint
  rw [first.symbolAndChain_undotted present plain] at parts
  obtain ⟨rfl, chain⟩ := Prod.mk.inj (Option.some.inj parts)
  refine ⟨_, same, ?_⟩
  rw [second.symbolAndChain_undotted, ← chain, respelled.namedChain]
  · exact mt (eq_empty_congr _ _ same).mpr present
  · exact (undotted_congr _ _ same).mp plain

theorem classify (respelled : Respelled first second) (native : NativeAsset) (kind : AssetKind)
    (classified : first.classify = .ok (native, kind)) :
    second.classify = .ok (native, kind) ∧
      canonicalize second.asset second.chainHint = canonicalize first.asset first.chainHint := by
  obtain ⟨symbol, parts, told⟩ := (AssetSettings.classify_eq_ok_iff_symbol ..).mp classified
  obtain ⟨other, same, parts'⟩ := respelled.exists_parts symbol native parts
  have decimals : second.decimals = first.decimals := by rw [respelled.others]
  constructor
  · rw [AssetSettings.classify_eq_ok_iff_symbol]
    refine ⟨other, parts', ?_⟩
    rwa [decimals, ← NativeAsset.lookup_congr _ _ same]
  · rw [canonicalize_of_parts _ _ _ _ parts, canonicalize_of_parts _ _ _ _ parts',
      ofSymbolAndChain_congr _ _ _ same]

theorem resolve (respelled : Respelled first second) (environment : Environment)
    (after : AssetConfig) (resolved : first.resolve environment = (after, .ok ())) :
    ∃ other, second.resolve environment = (other, .ok ()) ∧ other.id = after.id ∧
      other.native = after.native ∧ other.kind = after.kind := by
  obtain ⟨native, kind, secret, classified, fetched, rfl⟩ := (resolve_eq_ok_iff ..).mp resolved
  obtain ⟨classified', id⟩ := respelled.classify native kind classified
  have auth : second.auth = first.auth := by rw [respelled.others]
  rw [← auth] at fetched
  have resolved' := (resolve_eq_ok_iff environment second _).mpr
    ⟨native, kind, secret, classified', fetched, rfl⟩
  exact ⟨_, resolved', id, rfl, rfl⟩

theorem resolve_ok (respelled : Respelled first second) (environment : Environment)
    (resolved : (first.resolve environment).2 = .ok ()) :
    (second.resolve environment).2 = .ok () := by
  obtain ⟨other, resolved', -⟩ := respelled.resolve environment _ (Prod.ext rfl resolved)
  rw [resolved']

end AssetConfig.Respelled

namespace AssetConfig

theorem resolve_respelled (environment : Environment) (first second : AssetConfig)
    (respelled : first.Respelled second) :
    ((first.resolve environment).2 = .ok () ↔ (second.resolve environment).2 = .ok ()) ∧
    ∀ after other, first.resolve environment = (after, .ok ()) →
      second.resolve environment = (other, .ok ()) →
        other.id = after.id ∧ other.native = after.native ∧ other.kind = after.kind := by
  constructor
  · exact ⟨respelled.resolve_ok environment, respelled.symm.resolve_ok environment⟩
  · intro after other resolved resolved'
    obtain ⟨found, same, told⟩ := respelled.resolve environment after resolved
    rw [resolved'] at same
    obtain rfl := (Prod.mk.inj same).1
    exact told

def streetCoin : AssetConfig :=
  { asset := "Straße", chain := "Sol", decimals := some 2 }

def streetCoinCapitals : AssetConfig :=
  { asset := "STRASSE", chain := "SOL", decimals := some 2 }

theorem streetCoin_respelled :
    streetCoin.Respelled streetCoinCapitals ∧
      ∃ after other, streetCoin.resolve bare = (after, .ok ()) ∧
        streetCoinCapitals.resolve bare = (other, .ok ()) ∧ after.id = ⟨"STRASSE.SOL"⟩ ∧
        other.id = ⟨"STRASSE.SOL"⟩ := by
  have respelled : streetCoin.Respelled streetCoinCapitals :=
    ⟨by decide, by decide, by decide, rfl⟩
  let after := streetCoin.completed .sol .token ""
  have resolved : streetCoin.resolve bare = (after, .ok ()) := by decide
  have id : after.id = ⟨"STRASSE.SOL"⟩ := by decide
  obtain ⟨both, alike⟩ := resolve_respelled bare _ _ respelled
  have resolved' : (streetCoinCapitals.resolve bare).2 = .ok () := both.mp (by rw [resolved])
  have pair : streetCoinCapitals.resolve bare = (_, .ok ()) := Prod.ext rfl resolved'
  exact ⟨respelled, after, _, resolved, pair, id, (alike after _ resolved pair).1.trans id⟩

end AssetConfig

end Multichain
