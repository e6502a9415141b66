import Mathlib
import Multichain.CommandLine
import Multichain.Proofs.RegistryRun

/-!
What the command does with an asset that it does not find. It takes the text for a native asset, in
whatever case, but looks for it among the configured assets by its exact symbol. Main statement:
`fallback_unconfigured_iff`.
-/

set_option autoImplicit false

namespace Multichain

open Text AssetId

namespace AssetId

/-- A chain's symbol in the wrong case, which is taken for a token of the default chain. -/
def LooseNative (asset : String) : Prop :=
  NativeAsset.isNative asset = false ∧ NativeAsset.isNative (upper asset) = true ∧
    upper asset ≠ NativeAsset.defaultChain.symbol

instance (asset : String) : Decidable (LooseNative asset) :=
  inferInstanceAs (Decidable (_ ∧ _ ∧ _))

theorem LooseNative.lookup (asset : String) (loose : LooseNative asset) :
    ∃ native, NativeAsset.lookup asset = some native := by
  obtain ⟨native, symbol⟩ := (isNative_iff _).mp loose.2.1
  refine ⟨native, ?_⟩
  rw [← NativeAsset.lookup_upper, ← symbol, NativeAsset.lookup_symbol]

theorem symbolAndChain_own (asset : String) (native : NativeAsset)
    (known : NativeAsset.lookup asset = some native) :
    symbolAndChain asset native.symbol = some (asset, upper native.symbol) :=
  symbolAndChain_hint asset native.symbol (ne_empty_of_lookup asset native known)
    (undotted_of_lookup asset native known) (symbol_ne_empty native)

theorem canonicalize_own (asset : String) (native : NativeAsset)
    (known : NativeAsset.lookup asset = some native) :
    canonicalize asset native.symbol = ⟨upper asset⟩ := by
  have same := (NativeAsset.lookup_eq_some_iff ..).mp known
  rw [canonicalize_of_parts _ _ _ _ (symbolAndChain_own asset native known),
    ofSymbolAndChain_of_implies _ _ (.inl same.symm)]

theorem canonicalize_unhinted (asset : String) (native : NativeAsset)
    (known : NativeAsset.lookup asset = some native) :
    canonicalize asset "" = ⟨upper asset⟩ ↔ ¬ LooseNative asset := by
  have named := ne_empty_of_lookup asset native known
  have own : given asset "" = asset := by rw [given, if_neg named]
  have plain := undotted_of_lookup asset native known
  have whole := splitChain_undotted asset plain
  rw [canonicalize_whole asset "" (by rwa [own]) (by rwa [own]), own, if_neg (by simp)]
  by_cases spelled : NativeAsset.isNative asset = true
  · rw [if_pos spelled, ofSymbolAndChain_of_implies _ _ (.inl rfl)]
    refine iff_of_true rfl fun loose => ?_
    rw [loose.1] at spelled
    cases spelled
  · rw [if_neg spelled, upper_defaultChain]
    by_cases implied : Implies (upper asset) NativeAsset.defaultChain.symbol
    · rw [ofSymbolAndChain_of_implies _ _ implied]
      refine iff_of_true rfl ?_
      rintro ⟨-, seen, other⟩
      rcases implied with same | ⟨-, unknown⟩
      · exact other same
      · exact unknown seen
    · rw [ofSymbolAndChain_of_not_implies _ _ implied]
      rw [Implies, not_or, not_and_not_right] at implied
      refine iff_of_false (bare_ne_dotted _ _ _ plain).symm (not_not.mpr ?_)
      exact ⟨Bool.eq_false_iff.mpr spelled, implied.2 rfl, implied.1⟩

end AssetId

namespace AssetSettings

def LooselySpelled (settings : AssetSettings) : Prop :=
  settings.chain = "" ∧ LooseNative settings.asset

instance (settings : AssetSettings) : Decidable settings.LooselySpelled :=
  inferInstanceAs (Decidable (_ ∧ _))

theorem canonicalize_chainHint_iff (settings : AssetSettings) :
    canonicalize settings.asset settings.chain =
        canonicalize settings.asset settings.chainHint ↔ ¬ settings.LooselySpelled := by
  by_cases free : settings.chain = ""
  · cases known : NativeAsset.lookup settings.asset with
    | none =>
      rw [chainHint_of_lookup_eq_none settings known]
      apply iff_of_true rfl
      intro loose
      obtain ⟨native, found⟩ := loose.2.lookup
      rw [known] at found
      cases found
    | some native =>
      rw [chainHint_of_lookup settings native known free, free,
        canonicalize_own settings.asset native known, canonicalize_unhinted _ native known,
        LooselySpelled]
      simp [free]
  · have hint : settings.chainHint = settings.chain := by
      rw [chainHint]
      cases NativeAsset.lookup settings.asset with
      | none => rfl
      | some native => exact if_neg free
    rw [hint]
    apply iff_of_true rfl
    intro loose
    exact free loose.1

end AssetSettings

namespace AssetConfig

def ofSymbol (asset : String) (native : NativeAsset) : AssetConfig :=
  completed { asset := asset } native .native ""

theorem chainHint_own (asset : String) (native : NativeAsset)
    (known : NativeAsset.lookup asset = some native) :
    ({ asset := asset } : AssetSettings).chainHint = native.symbol :=
  AssetSettings.chainHint_of_lookup _ native known rfl

theorem id_ofSymbol (asset : String) (native : NativeAsset)
    (known : NativeAsset.lookup asset = some native) :
    (ofSymbol asset native).id = ⟨upper asset⟩ := by
  rw [ofSymbol, completed, chainHint_own asset native known, canonicalize_own asset native known]

theorem resolved_own (environment : Environment) (asset : String) (native : NativeAsset)
    (known : NativeAsset.lookup asset = some native) :
    resolved environment { asset := asset } = .ok (ofSymbol asset native) := by
  rw [resolved_eq_ok_iff, resolve_eq_ok_iff]
  refine ⟨native, .native, "", ?_, rfl, rfl⟩
  rw [AssetSettings.classify_eq_ok_iff_symbol]
  refine ⟨asset, ?_, .inl ⟨known, rfl⟩⟩
  rw [← symbolAndChain_own asset native known, ← chainHint_own asset native known]

theorem id_of_resolved (environment : Environment) (asset : String) (config : AssetConfig)
    (known : resolved environment { asset := asset } = .ok config) :
    config.id = if LooseNative asset then ⟨upper asset⟩ else canonicalize asset "" := by
  rw [id_resolved environment _ config known]
  split_ifs with loose
  · obtain ⟨native, found⟩ := loose.lookup
    change canonicalize asset ({ asset := asset } : AssetSettings).chainHint = _
    rw [chainHint_own asset native found, canonicalize_own asset native found]
  · have spelled : ¬ ({ asset := asset } : AssetSettings).LooselySpelled := by
      intro misspelled
      exact loose misspelled.2
    exact ((AssetSettings.canonicalize_chainHint_iff _).mpr spelled).symm

end AssetConfig

namespace AssetRegistry

theorem ofConfigs_singleton (environment : Environment) (config after : AssetConfig)
    (resolved : config.resolved environment = .ok after) :
    ofConfigs environment [config] = .ok ⟨[after]⟩ := by
  simp only [ofConfigs, List.foldlM, register, resolved]
  rfl

theorem get?_singleton (config : AssetConfig) (id : AssetId) :
    (⟨[config]⟩ : AssetRegistry).get? id = if config.id = id then some config else none := by
  by_cases same : config.id = id <;> simp [get?, same]

theorem hidden_of_loose (asset : String) (native : NativeAsset)
    (known : NativeAsset.lookup asset = some native) (loose : LooseNative asset) :
    (⟨[AssetConfig.ofSymbol (upper asset) native]⟩ : AssetRegistry).find? asset "" = none ∧
      (⟨[AssetConfig.ofSymbol (upper asset) native]⟩ : AssetRegistry).get?
          (AssetConfig.ofSymbol asset native).id =
        some (AssetConfig.ofSymbol (upper asset) native) := by
  have id : (AssetConfig.ofSymbol (upper asset) native).id = ⟨upper asset⟩ := by
    rw [AssetConfig.id_ofSymbol _ native (by rw [NativeAsset.lookup_upper, known]), upper_upper]
  constructor
  · have apart : (AssetConfig.ofSymbol (upper asset) native).id ≠ canonicalize asset "" := by
      intro same
      exact (canonicalize_unhinted asset native known).mp (same.symm.trans id) loose
    rw [find?, get?_singleton, if_neg apart]
  · rw [AssetConfig.id_ofSymbol asset native known, get?_singleton, if_pos id]

end AssetRegistry

namespace CommandLine

theorem fallback_unconfigured_iff (asset : String) :
    ((∀ (environment : Environment) (configs : List AssetConfig) (registry : AssetRegistry)
        (config : AssetConfig), AssetRegistry.ofConfigs environment configs = .ok registry →
        registry.find? asset "" = none →
        AssetConfig.resolved environment { asset := asset } = .ok config →
        registry.get? config.id = none) ↔ ¬ LooseNative asset) ∧
    (¬ LooseNative asset → ∀ (environment : Environment) (registry : AssetRegistry)
      (config entry : AssetConfig), findAsset environment registry asset = .ok config →
      registry.get? config.id = some entry → config = entry) := by
  have same (environment : Environment) (config : AssetConfig) (spelled : ¬ LooseNative asset)
      (resolved : AssetConfig.resolved environment { asset := asset } = .ok config) :
      config.id = canonicalize asset "" := by
    rw [AssetConfig.id_of_resolved environment asset config resolved, if_neg spelled]
  refine ⟨⟨?_, ?_⟩, ?_⟩
  · intro free loose
    obtain ⟨native, known⟩ := loose.lookup
    have spelled : NativeAsset.lookup (upper asset) = some native := by
      rw [NativeAsset.lookup_upper, known]
    have built := AssetRegistry.ofConfigs_singleton _ _ _
      (AssetConfig.resolved_own AssetConfig.bare (upper asset) native spelled)
    obtain ⟨missing, configured⟩ := AssetRegistry.hidden_of_loose asset native known loose
    rw [free _ _ _ _ built missing (AssetConfig.resolved_own _ asset native known)] at configured
    cases configured
  · intro spelled environment configs registry config _ missing resolved
    rw [same environment config spelled resolved]
    exact missing
  · intro spelled environment registry config entry found configured
    rw [findAsset] at found
    cases sought : registry.find? asset "" with
    | some other =>
      rw [sought] at found
      obtain rfl := Except.ok.inj found
      rw [AssetRegistry.id_of_get? registry _ other sought] at configured
      exact Option.some.inj (sought.symm.trans configured)
    | none =>
      rw [sought] at found
      rw [same environment config spelled found] at configured
      cases sought.symm.trans configured

def testnetBtc : AssetConfig :=
  { asset := "BTC", net := "testnet" }

theorem sol_not_shadowed :
    ¬ LooseNative "SOL" ∧
      (AssetRegistry.mk [AssetConfig.ofSymbol "BTC" .btc]).get?
        (AssetConfig.ofSymbol "SOL" .sol).id = none := by
  have spelled : ¬ LooseNative "SOL" := by decide
  have built : AssetRegistry.ofConfigs AssetConfig.bare [{ asset := "BTC" }] =
      .ok ⟨[AssetConfig.ofSymbol "BTC" .btc]⟩ :=
    AssetRegistry.ofConfigs_singleton _ _ _ (AssetConfig.resolved_own _ _ _ (by decide))
  exact ⟨spelled, (fallback_unconfigured_iff "SOL").1.mpr spelled AssetConfig.bare _ _ _ built
    (by decide) (AssetConfig.resolved_own _ _ _ (by decide))⟩

theorem btc_hides_testnet :
    ¬ ∀ (environment : Environment) (configs : List AssetConfig) (registry : AssetRegistry)
      (asset : String) (config : AssetConfig),
      AssetRegistry.ofConfigs environment configs = .ok registry →
      registry.find? asset "" = none →
      AssetConfig.resolved environment { asset := asset } = .ok config →
        registry.get? config.id = none := by
  intro unconfigured
  have built : AssetRegistry.ofConfigs AssetConfig.bare [testnetBtc] =
      .ok ⟨[testnetBtc.completed .btc .native ""]⟩ :=
    AssetRegistry.ofConfigs_singleton _ _ _ ((AssetConfig.resolved_eq_ok_iff ..).mpr (by decide))
  have hidden := unconfigured AssetConfig.bare _ _ "btc" _ built (by decide)
    (AssetConfig.resolved_own _ _ .btc (by decide))
  revert hidden
  decide

end CommandLine

end Multichain
