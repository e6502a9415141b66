import Mathlib
import Multichain.Asset.Config
import Multichain.Proofs.SharedId

/-!
What a resolved configuration is told to be. Its id and its chain come from the same symbol and the
same chain, so that a suffix of the id names the chain, unless the suffix stood in the symbol.
Main statements: `resolve_eq_ok_iff` and `suffix_names_chain_iff`.
-/

set_option autoImplicit false

namespace Multichain

open Text AssetId

namespace AssetSettings

theorem classify_eq_ok_iff (settings : AssetSettings) (native : NativeAsset) (kind : AssetKind) :
    settings.classify = .ok (native, kind) ↔
      ∃ symbol chain, symbolAndChain settings.asset settings.chainHint = some (symbol, chain) ∧
        NativeAsset.lookup chain = some native ∧
        (NativeAsset.lookup symbol = some native ∧ kind = .native ∨
          NativeAsset.lookup symbol ≠ some native ∧ settings.decimals ≠ none ∧ kind = .token) := by
  rw [classify]
  cases parts : symbolAndChain settings.asset settings.chainHint with
  | none => simp
  | some pair =>
    obtain ⟨symbol, chain⟩ := pair
    cases known : NativeAsset.lookup chain with
    | none => simp [known]
    | some found =>
      simp only [known]
      split_ifs with own free
      · constructor
        · rintro ⟨⟩
          exact ⟨symbol, chain, rfl, known, .inl ⟨own, rfl⟩⟩
        · rintro ⟨_, _, ⟨⟩, same, ⟨-, rfl⟩ | ⟨other, -⟩⟩
          · rw [Option.some.inj (known.symm.trans same)]
          · exact absurd (own.trans (known.symm.trans same)) other
      · refine iff_of_false (by simp) ?_
        rintro ⟨_, _, ⟨⟩, same, ⟨other, -⟩ | ⟨-, placed, -⟩⟩
        · exact own (other.trans (same.symm.trans known))
        · exact placed free
      · constructor
        · rintro ⟨⟩
          exact ⟨symbol, chain, rfl, known, .inr ⟨own, free, rfl⟩⟩
        · rintro ⟨_, _, ⟨⟩, same, ⟨other, -⟩ | ⟨-, -, rfl⟩⟩
          · exact absurd (other.trans (same.symm.trans known)) own
          · rw [Option.some.inj (known.symm.trans same)]

theorem classify_eq_ok_iff_symbol (settings : AssetSettings) (native : NativeAsset)
    (kind : AssetKind) :
    settings.classify = .ok (native, kind) ↔
      ∃ symbol, symbolAndChain settings.asset settings.chainHint =
          some (symbol, upper native.symbol) ∧
        (NativeAsset.lookup symbol = some native ∧ kind = .native ∨
          NativeAsset.lookup symbol ≠ some native ∧ settings.decimals ≠ none ∧ kind = .token) := by
  rw [classify_eq_ok_iff]
  constructor
  · rintro ⟨symbol, chain, parts, known, told⟩
    rw [lookup_chain_iff _ _ _ _ native parts] at known
    exact ⟨symbol, known ▸ parts, told⟩
  · rintro ⟨symbol, parts, told⟩
    exact ⟨symbol, _, parts, (lookup_chain_iff _ _ _ _ native parts).mpr rfl, told⟩

theorem chainHint_of_lookup_eq_none (settings : AssetSettings)
    (unknown : NativeAsset.lookup settings.asset = none) : settings.chainHint = settings.chain := by
  rw [chainHint, unknown]

theorem chainHint_of_dotted (settings : AssetSettings) (symbol suffix : String)
    (asset : settings.asset = dotted symbol suffix) : settings.chainHint = settings.chain :=
  chainHint_of_lookup_eq_none settings (by rw [asset, lookup_dotted])

theorem chainHint_of_lookup (settings : AssetSettings) (native : NativeAsset)
    (known : NativeAsset.lookup settings.asset = some native) (free : settings.chain = "") :
    settings.chainHint = native.symbol := by
  rw [chainHint, known]
  exact if_pos free

end AssetSettings

namespace AssetConfig

def completed (config : AssetConfig) (native : NativeAsset) (kind : AssetKind) (secret : String) :
    AssetConfig :=
  { config with
    id := canonicalize config.asset config.chainHint
    native := some native
    kind := some kind
    authSecret := secret }

theorem id_completed (config : AssetConfig) (native : NativeAsset) (kind : AssetKind)
    (secret symbol chain : String)
    (parts : symbolAndChain config.asset config.chainHint = some (symbol, chain)) :
    (config.completed native kind secret).id = ofSymbolAndChain symbol chain :=
  canonicalize_of_parts _ _ _ _ parts

theorem resolve_eq_ok_iff (environment : Environment) (config after : AssetConfig) :
    config.resolve environment = (after, .ok ()) ↔
      ∃ native kind secret, config.classify = .ok (native, kind) ∧
        AssetSettings.fetchSecret environment config.auth = .ok secret ∧
        after = config.completed native kind secret := by
  rw [resolve]
  cases classified : config.classify with
  | error fault => simp
  | ok pair =>
    obtain ⟨native, kind⟩ := pair
    cases fetched : AssetSettings.fetchSecret environment config.auth with
    | error fault => simp
    | ok secret => simp [completed, eq_comm]

theorem resolved_eq_ok_iff (environment : Environment) (config after : AssetConfig) :
    config.resolved environment = .ok after ↔ config.resolve environment = (after, .ok ()) := by
  rw [resolved]
  rcases config.resolve environment with ⟨other, _ | _⟩ <;> simp

theorem id_resolved (environment : Environment) (config entry : AssetConfig)
    (resolved : config.resolved environment = .ok entry) :
    entry.id = canonicalize config.asset config.chainHint := by
  rw [resolved_eq_ok_iff, resolve_eq_ok_iff] at resolved
  obtain ⟨native, kind, secret, -, -, rfl⟩ := resolved
  rfl

end AssetConfig

namespace AssetId

def Names (id : AssetId) (native : NativeAsset) : Prop :=
  ∃ symbol chain, id.text = dotted symbol chain ∧ Undotted symbol ∧
    NativeAsset.lookup chain = some native

theorem not_names_undotted (text : String) (native : NativeAsset) (plain : Undotted text) :
    ¬ Names ⟨text⟩ native := by
  rintro ⟨symbol, chain, rfl, -⟩
  exact not_undotted_dotted symbol chain plain

theorem names_dotted (symbol chain : String) (native : NativeAsset) (plain : Undotted symbol) :
    Names ⟨dotted symbol chain⟩ native ↔ NativeAsset.lookup chain = some native := by
  constructor
  · rintro ⟨other, suffix, same, first, known⟩
    obtain ⟨-, rfl⟩ := dotted_inj _ _ _ _ plain first same
    exact known
  · intro known
    exact ⟨symbol, chain, rfl, plain, known⟩

theorem names_ofSymbolAndChain_undotted (symbol chain : String) (native : NativeAsset)
    (plain : Undotted symbol) (names : (ofSymbolAndChain symbol chain).Names native) :
    NativeAsset.lookup chain = some native := by
  rw [← undotted_upper] at plain
  by_cases implied : Implies (upper symbol) chain
  · rw [ofSymbolAndChain_of_implies _ _ implied] at names
    exact absurd names (not_names_undotted _ native plain)
  · rwa [ofSymbolAndChain_of_not_implies _ _ implied, names_dotted _ _ _ plain] at names

-- A symbol with a suffix of its own is left alone on the default chain. On any other it gets a
-- second suffix, and then names no chain.
theorem names_ofSymbolAndChain_dotted (symbol suffix chain : String) (native found : NativeAsset)
    (plain : Undotted symbol) (known : NativeAsset.lookup chain = some found) :
    (ofSymbolAndChain (dotted symbol suffix) chain).Names native ↔
      chain = NativeAsset.defaultChain.symbol ∧ NativeAsset.lookup suffix = some native := by
  rw [← undotted_upper] at plain
  have dot : ¬ Undotted (dotted (upper symbol) (upper suffix)) := not_undotted_dotted _ _
  have implies : Implies (dotted (upper symbol) (upper suffix)) chain ↔
      chain = NativeAsset.defaultChain.symbol := by
    constructor
    · rintro (rfl | ⟨default, -⟩)
      · exact absurd (undotted_of_lookup _ found known) dot
      · exact default
    · exact fun default => .inr ⟨default, fun native => dot (undotted_of_isNative _ native)⟩
  rw [← upper_dotted] at implies
  by_cases default : chain = NativeAsset.defaultChain.symbol
  · rw [ofSymbolAndChain_of_implies _ _ (implies.mpr default), upper_dotted,
      names_dotted _ _ _ plain, NativeAsset.lookup_upper]
    simp [default]
  · rw [ofSymbolAndChain_of_not_implies _ _ (mt implies.mp default), upper_dotted]
    rw [dotted_dotted, names_dotted _ _ _ plain, lookup_dotted]
    simp [default]

end AssetId

namespace AssetSettings

/-- The suffix of the asset is a chain's symbol in the wrong case. It stays in the symbol, and the
default chain is taken in place of the one that the suffix names. -/
def LooseChain (settings : AssetSettings) : Prop :=
  ∃ symbol suffix native, settings.asset = dotted symbol suffix ∧ Undotted symbol ∧
    NativeAsset.isNative suffix = false ∧ NativeAsset.lookup suffix = some native ∧
    native ≠ NativeAsset.defaultChain ∧
    (settings.chain = "" ∨ upper settings.chain = NativeAsset.defaultChain.symbol)

theorem looseChain_iff (settings : AssetSettings) (symbol chain : String) (found : NativeAsset)
    (parts : symbolAndChain settings.asset settings.chainHint = some (symbol, chain))
    (known : NativeAsset.lookup chain = some found) :
    settings.LooseChain ↔
      ∃ stem suffix native, symbol = dotted stem suffix ∧ Undotted stem ∧
        chain = NativeAsset.defaultChain.symbol ∧ NativeAsset.lookup suffix = some native ∧
        native ≠ NativeAsset.defaultChain := by
  constructor
  · rintro ⟨stem, suffix, native, asset, plain, loose, named, other, chains⟩
    have hint := chainHint_of_dotted settings stem suffix asset
    have present : given settings.asset settings.chainHint = dotted stem suffix := by
      rw [asset, given_dotted]
    have whole : symbol = dotted stem suffix := by
      rcases (symbolAndChain_eq_some_iff ..).mp parts with ⟨tail, split, -⟩ | ⟨-, -, own, -⟩
      · obtain ⟨same, first, -, seen⟩ := (splitChain_eq_some_iff ..).mp split
        obtain ⟨-, rfl⟩ := dotted_inj _ _ _ _ plain first (present.symm.trans same)
        rw [loose] at seen
        cases seen
      · exact own.trans present
    obtain ⟨-, -, chosen⟩ :=
      symbolAndChain_dotted _ _ _ _ parts (whole ▸ not_undotted_dotted stem suffix)
    refine ⟨stem, suffix, native, whole, plain, ?_, named, other⟩
    rw [chosen, hint]
    split_ifs with empty
    · exact upper_defaultChain
    · exact chains.resolve_left empty
  · rintro ⟨stem, suffix, native, rfl, plain, default, named, other⟩
    obtain ⟨whole, split, chosen⟩ :=
      symbolAndChain_dotted _ _ _ _ parts (not_undotted_dotted stem suffix)
    have asset : settings.asset = dotted stem suffix :=
      (given_eq_dotted_iff _ _ _ _ found parts known stem suffix).mp whole.symm
    have hint := chainHint_of_dotted settings stem suffix asset
    refine ⟨stem, suffix, native, asset, plain, ?_, named, other, ?_⟩
    · exact not_isNative_of_splitChain stem suffix plain split
    · rw [chosen, hint] at default
      by_cases empty : settings.chain = ""
      · exact .inl empty
      · exact .inr (by rwa [if_neg empty] at default)

end AssetSettings

namespace AssetConfig

theorem suffix_names_chain_iff (environment : Environment) (config after : AssetConfig)
    (resolved : config.resolve environment = (after, .ok ())) :
    (∀ native, after.id.Names native → after.native = some native) ↔ ¬ config.LooseChain := by
  obtain ⟨found, kind, secret, classified, -, rfl⟩ := (resolve_eq_ok_iff ..).mp resolved
  obtain ⟨symbol, chain, parts, known, -⟩ := (AssetSettings.classify_eq_ok_iff ..).mp classified
  have id : (config.completed found kind secret).id = ofSymbolAndChain symbol chain :=
    canonicalize_of_parts _ _ _ _ parts
  have native : (config.completed found kind secret).native = some found := rfl
  rw [id, native, AssetSettings.looseChain_iff _ _ _ found parts known]
  by_cases plain : Undotted symbol
  · refine iff_of_true (fun native names => ?_) ?_
    · rw [← known]
      exact names_ofSymbolAndChain_undotted symbol chain native plain names
    · rintro ⟨stem, suffix, native, rfl, -⟩
      exact not_undotted_dotted stem suffix plain
  · obtain ⟨stem, suffix, rfl, first⟩ := exists_dotted symbol plain
    simp only [names_ofSymbolAndChain_dotted stem suffix chain _ found first known,
      Option.some_inj]
    have default (same : chain = NativeAsset.defaultChain.symbol) :
        found = NativeAsset.defaultChain := by
      rw [same, NativeAsset.lookup_symbol] at known
      exact (Option.some.inj known).symm
    constructor
    · rintro each ⟨stem', suffix', native, same, first', own, named, other⟩
      obtain ⟨-, rfl⟩ := dotted_inj _ _ _ _ first first' same
      exact other ((each native ⟨own, named⟩).symm.trans (default own))
    · rintro none native ⟨own, named⟩
      by_contra other
      refine none ⟨stem, suffix, native, rfl, first, own, named, fun same => other ?_⟩
      rw [default own, same]

def bare : Environment :=
  ⟨[], fun _ => .error .missing⟩

def usdcOnSol : AssetConfig :=
  { asset := "USDC", chain := "sol", decimals := some 6 }

theorem usdcOnSol_names_chain :
    ∃ after, usdcOnSol.resolve bare = (after, .ok ()) ∧ after.id = ⟨"USDC.SOL"⟩ ∧
      after.native = some .sol := by
  have resolved : usdcOnSol.resolve bare = (usdcOnSol.completed .sol .token "", .ok ()) := by
    decide
  have id : (usdcOnSol.completed .sol .token "").id = ⟨"USDC.SOL"⟩ := by decide
  have spelled : ¬ usdcOnSol.LooseChain := by
    rintro ⟨symbol, suffix, native, asset, -⟩
    have dot := not_undotted_dotted symbol suffix
    rw [← asset] at dot
    exact dot (by decide)
  have names : (usdcOnSol.completed .sol .token "").id.Names .sol :=
    ⟨"USDC", "SOL", by decide, by decide, by decide⟩
  exact ⟨_, resolved, id, (suffix_names_chain_iff bare _ _ resolved).mpr spelled .sol names⟩

def looseUsdc : AssetConfig :=
  { asset := "usdc.sol", decimals := some 6 }

theorem looseUsdc_on_default_chain :
    ¬ ∀ (environment : Environment) (config after : AssetConfig),
      config.resolve environment = (after, .ok ()) →
        ∀ native, after.id.Names native → after.native = some native := by
  intro consistent
  have resolved : looseUsdc.resolve bare = (looseUsdc.completed .eth .token "", .ok ()) := by
    decide
  have names : (looseUsdc.completed .eth .token "").id.Names .sol :=
    ⟨"USDC", "SOL", by decide, by decide, by decide⟩
  have same := consistent bare looseUsdc _ resolved .sol names
  cases same

end AssetConfig

end Multichain
