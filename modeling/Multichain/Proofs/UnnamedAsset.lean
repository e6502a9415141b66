import Mathlib
import Multichain.Proofs.RegistryRun

/-!
What gets the id that stands for "no asset named". A configuration without asset and chain is
refused, but a dot before the symbol of a chain leaves no symbol either. Main statement:
`unnamed_registered_iff`.
-/

set_option autoImplicit false

namespace Multichain

open Text AssetId

namespace AssetId

theorem isEmpty_eq_true_iff (id : AssetId) : id.isEmpty = true ↔ id = ⟨""⟩ := by
  cases id
  simp [isEmpty]

theorem isEmpty_ofSymbolAndChain (symbol chain : String) (named : chain ≠ "") :
    (ofSymbolAndChain symbol chain).isEmpty = true ↔
      symbol = "" ∧ chain = NativeAsset.defaultChain.symbol := by
  by_cases implied : Implies (upper symbol) chain
  · rw [ofSymbolAndChain_of_implies _ _ implied, isEmpty_eq_true_iff, mk.injEq, upper_eq_empty]
    constructor
    · rintro rfl
      cases implied with
      | inl own => exact absurd (own.symm.trans ((upper_eq_empty "").mpr rfl)) named
      | inr default => exact ⟨rfl, default.1⟩
    · exact And.left
  · rw [ofSymbolAndChain_of_not_implies _ _ implied, isEmpty_eq_true_iff]
    apply iff_of_false
    · simp [dotted]
    · rintro ⟨rfl, rfl⟩
      exact implied (.inr ⟨rfl, by decide⟩)

end AssetId

namespace AssetSettings

/-- The asset is the symbol of a chain behind a dot. The chain that is named beside it is the default
one, or none is and the symbol is that of the default chain. -/
def Nameless (settings : AssetSettings) : Prop :=
  ∃ native : NativeAsset, settings.asset = dotted "" native.symbol ∧
    upper (if settings.chain = "" then native.symbol else settings.chain) =
      NativeAsset.defaultChain.symbol

instance (settings : AssetSettings) : Decidable settings.Nameless :=
  decidable_of_iff
    (∃ native ∈ NativeAsset.all, settings.asset = dotted "" native.symbol ∧
      upper (if settings.chain = "" then native.symbol else settings.chain) =
        NativeAsset.defaultChain.symbol)
    (by simp only [Nameless, NativeAsset.mem_all, true_and])

theorem symbolAndChain_nameless (settings : AssetSettings) (native : NativeAsset)
    (asset : settings.asset = dotted "" native.symbol) :
    symbolAndChain settings.asset settings.chainHint =
      some ("", upper (if settings.chain = "" then native.symbol else settings.chain)) := by
  rw [chainHint_of_dotted settings _ _ asset, asset]
  exact symbolAndChain_suffix "" settings.chain native (by decide)

theorem nameless_iff (settings : AssetSettings) (symbol chain : String) (found : NativeAsset)
    (parts : symbolAndChain settings.asset settings.chainHint = some (symbol, chain))
    (known : NativeAsset.lookup chain = some found) :
    settings.Nameless ↔ symbol = "" ∧ chain = NativeAsset.defaultChain.symbol := by
  constructor
  · intro ⟨native, asset, default⟩
    rw [symbolAndChain_nameless settings native asset] at parts
    obtain ⟨rfl, rfl⟩ := Prod.mk.inj (Option.some.inj parts)
    exact ⟨rfl, default⟩
  · rintro ⟨rfl, default⟩
    -- only a split leaves no symbol
    cases (symbolAndChain_eq_some_iff ..).mp parts with
    | inl split =>
      obtain ⟨suffix, split, chosen⟩ := split
      obtain ⟨whole, -, -, seen⟩ := (splitChain_eq_some_iff ..).mp split
      obtain ⟨native, rfl⟩ := (isNative_iff suffix).mp seen
      have asset := (given_eq_dotted_iff _ _ _ _ found parts known _ _).mp whole
      rw [chainHint_of_dotted settings _ _ asset, default] at chosen
      exact ⟨native, asset, chosen.symm⟩
    | inr whole =>
      obtain ⟨present, -, own, -⟩ := whole
      exact absurd own.symm present

end AssetSettings

namespace AssetConfig

theorem isEmpty_id_iff (environment : Environment) (config after : AssetConfig)
    (resolved : config.resolve environment = (after, .ok ())) :
    after.id.isEmpty = true ↔ config.Nameless := by
  obtain ⟨found, kind, secret, classified, -, rfl⟩ := (resolve_eq_ok_iff ..).mp resolved
  obtain ⟨symbol, chain, parts, known, -⟩ := (AssetSettings.classify_eq_ok_iff ..).mp classified
  have named : chain ≠ "" := ne_empty_of_lookup chain found known
  rw [id_completed _ _ _ _ symbol chain parts, isEmpty_ofSymbolAndChain symbol chain named,
    AssetSettings.nameless_iff _ _ _ found parts known]

end AssetConfig

namespace Registration

theorem offered?_unnamed (call : Registration) :
    call.offered? ⟨""⟩ = none ↔
      (call.config.Nameless → ∀ entry, call.resolved ≠ .ok entry) := by
  cases brought : call.resolved with
  | error fault => simp [call.offered?_error fault ⟨""⟩ brought]
  | ok entry =>
    have unnamed := AssetConfig.isEmpty_id_iff call.environment call.config entry
      ((AssetConfig.resolved_eq_ok_iff ..).mp brought)
    rw [isEmpty_eq_true_iff] at unnamed
    simp [call.offered?_ok entry ⟨""⟩ brought, unnamed]

end Registration

namespace AssetRegistry

theorem find?_unnamed_run (calls : List Registration) :
    (empty.run calls).1.find? "" "" = none ↔
      ∀ call ∈ calls, call.config.Nameless → ∀ entry, call.resolved ≠ .ok entry := by
  have unnamed : canonicalize "" "" = ⟨""⟩ := by decide
  have first : empty.get? ⟨""⟩ = none := rfl
  simp only [find?, unnamed, get?_run, first, Option.none_or, List.findSome?_eq_none_iff,
    Registration.offered?_unnamed]

theorem unnamed_registered_iff (environment : Environment) (config : AssetConfig)
    (calls : List Registration) :
    (∀ after, config.resolve environment = (after, .ok ()) →
      (after.id.isEmpty = true ↔ config.Nameless)) ∧
    ((empty.run calls).1.find? "" "" = none ↔
      ∀ call ∈ calls, call.config.Nameless → ∀ entry, call.resolved ≠ .ok entry) :=
  ⟨AssetConfig.isEmpty_id_iff environment config, find?_unnamed_run calls⟩

def plainUsdc : AssetConfig :=
  { asset := "usdc", decimals := some 6 }

theorem plain_usdc_named :
    ∃ after, plainUsdc.resolve AssetConfig.bare = (after, .ok ()) ∧ after.id.isEmpty = false ∧
      (empty.run [⟨AssetConfig.bare, plainUsdc⟩]).1.find? "" "" = none := by
  have resolved : plainUsdc.resolve AssetConfig.bare =
      (plainUsdc.completed .eth .token "", .ok ()) := by
    decide
  have named : ¬ plainUsdc.Nameless := by decide
  obtain ⟨unnamed, found⟩ := unnamed_registered_iff AssetConfig.bare plainUsdc
    [⟨AssetConfig.bare, plainUsdc⟩]
  refine ⟨_, resolved, ?_, found.mpr ?_⟩
  · rw [← Bool.not_eq_true]
    exact mt (unnamed _ resolved).mp named
  · intro call member nameless
    rw [List.mem_singleton.mp member] at nameless
    exact absurd nameless named

def dotEth : AssetConfig :=
  { asset := ".ETH", decimals := some 6 }

theorem dot_eth_unnamed :
    (¬ ∀ (environment : Environment) (config after : AssetConfig),
      config.resolve environment = (after, .ok ()) → after.id.isEmpty = false) ∧
    ¬ ∀ calls : List Registration, (empty.run calls).1.find? "" "" = none := by
  constructor
  · intro named
    have resolved : dotEth.resolve AssetConfig.bare =
        (dotEth.completed .eth .token "", .ok ()) := by
      decide
    have id := named AssetConfig.bare dotEth _ resolved
    revert id
    decide
  · intro missing
    have found := missing [⟨AssetConfig.bare, dotEth⟩]
    revert found
    decide

end AssetRegistry

end Multichain
