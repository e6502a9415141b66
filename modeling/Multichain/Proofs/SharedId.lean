import Mathlib
import Multichain.Proofs.CanonicalId

/-!
Which symbols on which chains share an id. An id without suffix is meant to be that of a chain's own
asset or of a token of the default chain, and of no more than one of them. A chain whose symbol is
not all in upper case escapes that check. Main statement: `canonicalize_eq_iff`.
-/

set_option autoImplicit false

namespace Multichain.NativeAsset

open Text

@[simp]
theorem lookup_symbol (native : NativeAsset) : lookup native.symbol = some native := by
  cases native <;> decide

theorem lookup_eq_some_iff (text : String) (native : NativeAsset) :
    lookup text = some native ↔ upper native.symbol = upper text := by
  constructor
  · intro found
    simpa using List.find?_some found
  · intro same
    have own := lookup_symbol native
    rwa [lookup, same] at own

theorem upper_symbol_inj (first second : NativeAsset) :
    upper first.symbol = upper second.symbol ↔ first = second := by
  rw [← lookup_eq_some_iff, lookup_symbol, Option.some_inj, eq_comm]

@[simp]
theorem lookup_upper (text : String) : lookup (upper text) = lookup text := by
  simp only [lookup, upper_upper]

theorem lookup_congr (text other : String) (same : upper text = upper other) :
    lookup text = lookup other := by
  rw [← lookup_upper, same, lookup_upper]

theorem not_isNative_of_lookup (text : String) (unknown : lookup text = none) :
    ¬ isNative text := by
  intro known
  obtain ⟨native, rfl⟩ := (AssetId.isNative_iff text).mp known
  rw [lookup_symbol] at unknown
  cases unknown

end Multichain.NativeAsset

namespace Multichain.AssetId

open Text

theorem undotted_of_lookup (text : String) (native : NativeAsset)
    (known : NativeAsset.lookup text = some native) : Undotted text := by
  rw [← undotted_congr _ _ ((NativeAsset.lookup_eq_some_iff ..).mp known)]
  exact undotted_of_isNative _ ((isNative_iff _).mpr ⟨native, rfl⟩)

@[simp]
theorem lookup_dotted (symbol chain : String) : NativeAsset.lookup (dotted symbol chain) = none := by
  cases known : NativeAsset.lookup (dotted symbol chain) with
  | none => rfl
  | some native => exact absurd (undotted_of_lookup _ native known) (not_undotted_dotted symbol chain)

@[simp]
theorem symbol_ne_empty (native : NativeAsset) : native.symbol ≠ "" :=
  ne_empty_of_isNative _ ((isNative_iff _).mpr ⟨native, rfl⟩)

theorem lookup_empty : NativeAsset.lookup "" = none := by
  decide

theorem ne_empty_of_lookup (text : String) (native : NativeAsset)
    (known : NativeAsset.lookup text = some native) : text ≠ "" := by
  rintro rfl
  rw [lookup_empty] at known
  cases known

@[simp]
theorem given_dotted (symbol suffix hint : String) :
    given (dotted symbol suffix) hint = dotted symbol suffix :=
  if_neg (by simp [dotted])

theorem given_eq_dotted_iff (asset hint symbol chain : String) (found : NativeAsset)
    (parts : symbolAndChain asset hint = some (symbol, chain))
    (known : NativeAsset.lookup chain = some found) (stem suffix : String) :
    given asset hint = dotted stem suffix ↔ asset = dotted stem suffix := by
  constructor
  · intro whole
    by_cases empty : asset = ""
    · rw [given, if_pos empty] at whole
      have present : hint ≠ "" := by simp [whole, dotted]
      have chosen : chain = upper hint := by
        rcases (symbolAndChain_eq_some_iff ..).mp parts with ⟨_, -, chosen⟩ | ⟨-, -, -, chosen⟩
        · rwa [if_neg present] at chosen
        · rwa [if_pos present] at chosen
      rw [chosen, NativeAsset.lookup_upper, whole, lookup_dotted] at known
      cases known
    · rwa [given, if_neg empty] at whole
  · rintro rfl
    exact given_dotted stem suffix hint

theorem lookup_chain_iff (asset hint symbol chain : String) (native : NativeAsset)
    (parts : symbolAndChain asset hint = some (symbol, chain)) :
    NativeAsset.lookup chain = some native ↔ chain = upper native.symbol := by
  have settled : upper chain = chain := by
    rcases (symbolAndChain_eq_some_iff ..).mp parts with ⟨suffix, -, rfl⟩ | ⟨-, -, -, rfl⟩
    · exact upper_upper _
    · exact upper_upper _
  rw [NativeAsset.lookup_eq_some_iff, settled, eq_comm]

theorem symbolAndChain_hint (symbol hint : String) (named : symbol ≠ "") (plain : Undotted symbol)
    (hinted : hint ≠ "") : symbolAndChain symbol hint = some (symbol, upper hint) := by
  have own : given symbol hint = symbol := by
    simp only [given, named, if_false]
  have whole := splitChain_undotted symbol plain
  rw [symbolAndChain_whole symbol hint (by rwa [own]) (by rwa [own]), if_pos hinted, own]

theorem symbolAndChain_suffix (symbol hint : String) (native : NativeAsset) (plain : Undotted symbol) :
    symbolAndChain (dotted symbol native.symbol) hint =
      some (symbol, upper (if hint = "" then native.symbol else hint)) := by
  have known : NativeAsset.isNative native.symbol = true := (isNative_iff _).mpr ⟨native, rfl⟩
  apply symbolAndChain_split
  rw [given_dotted, splitChain_eq_some_iff]
  exact ⟨rfl, plain, undotted_of_isNative _ known, known⟩

theorem bare_ne_dotted (symbol other chain : String) (plain : Undotted symbol) :
    (⟨upper symbol⟩ : AssetId) ≠ ⟨dotted other chain⟩ := by
  intro same
  have dot := not_undotted_dotted other chain
  rw [← AssetId.mk.inj same, undotted_upper] at dot
  exact dot plain

-- Of two ids only one may lack its suffix if the symbols are the same, unless neither chain needs
-- one.
theorem ofSymbolAndChain_eq_iff (symbol chain other second : String) (plain : Undotted symbol)
    (plainOther : Undotted other) :
    ofSymbolAndChain symbol chain = ofSymbolAndChain other second ↔
      upper symbol = upper other ∧
        (chain = second ∨ Implies (upper symbol) chain ∧ Implies (upper other) second) := by
  by_cases first : Implies (upper symbol) chain <;> by_cases later : Implies (upper other) second
  · simp [ofSymbolAndChain_of_implies _ _ first, ofSymbolAndChain_of_implies _ _ later, first, later]
  · rw [ofSymbolAndChain_of_implies _ _ first, ofSymbolAndChain_of_not_implies _ _ later]
    refine iff_of_false (bare_ne_dotted _ _ _ plain) ?_
    rintro ⟨same, rfl | ⟨-, implied⟩⟩
    · exact later (same ▸ first)
    · exact later implied
  · rw [ofSymbolAndChain_of_not_implies _ _ first, ofSymbolAndChain_of_implies _ _ later]
    refine iff_of_false (bare_ne_dotted _ _ _ plainOther).symm ?_
    rintro ⟨same, rfl | ⟨implied, -⟩⟩
    · exact first (same ▸ later)
    · exact first implied
  · rw [ofSymbolAndChain_of_not_implies _ _ first, ofSymbolAndChain_of_not_implies _ _ later,
      AssetId.mk.injEq]
    constructor
    · intro same
      obtain ⟨symbols, chains⟩ := dotted_inj _ _ _ _ ((undotted_upper symbol).mpr plain)
        ((undotted_upper other).mpr plainOther) same
      exact ⟨symbols, .inl chains⟩
    · rintro ⟨same, rfl | ⟨implied, -⟩⟩
      · rw [same]
      · exact absurd implied first

/-- The symbol is the chain's own, but its upper case is not known as a symbol, so that it is also
taken for a token of the default chain. -/
def Overlooked (symbol : String) (chain : NativeAsset) : Prop :=
  upper symbol = upper chain.symbol ∧ NativeAsset.isNative (upper chain.symbol) = false

theorem implies_symbol (symbol : String) (chain : NativeAsset) :
    Implies (upper symbol) (upper chain.symbol) ↔
      upper symbol = upper chain.symbol ∨
        chain = NativeAsset.defaultChain ∧ NativeAsset.isNative (upper symbol) = false := by
  rw [Implies, ← upper_defaultChain, NativeAsset.upper_symbol_inj, Bool.not_eq_true]

theorem canonicalize_eq_iff (symbol other : String) (chain second : NativeAsset)
    (named : symbol ≠ "") (plain : Undotted symbol) (namedOther : other ≠ "")
    (plainOther : Undotted other) :
    canonicalize symbol chain.symbol = canonicalize other second.symbol ↔
      upper symbol = upper other ∧
        (chain = second ∨
          Overlooked symbol chain ∧ second = NativeAsset.defaultChain ∨
          Overlooked other second ∧ chain = NativeAsset.defaultChain) := by
  have first := symbolAndChain_hint symbol _ named plain (symbol_ne_empty chain)
  have later := symbolAndChain_hint other _ namedOther plainOther (symbol_ne_empty second)
  rw [canonicalize_of_parts _ _ _ _ first, canonicalize_of_parts _ _ _ _ later,
    ofSymbolAndChain_eq_iff _ _ _ _ plain plainOther, NativeAsset.upper_symbol_inj, implies_symbol,
    implies_symbol]
  refine and_congr_right fun same => or_congr_right' fun apart => ?_
  rw [Overlooked, Overlooked, ← same]
  constructor
  · rintro ⟨own | ⟨rfl, unknown⟩, own' | ⟨rfl, unknown'⟩⟩
    · exact absurd ((NativeAsset.upper_symbol_inj ..).mp (own.symm.trans own')) apart
    · exact .inl ⟨⟨own, own ▸ unknown'⟩, rfl⟩
    · exact .inr ⟨⟨own', own' ▸ unknown⟩, rfl⟩
    · exact absurd rfl apart
  · rintro (⟨⟨own, unknown⟩, rfl⟩ | ⟨⟨own, unknown⟩, rfl⟩)
    · exact ⟨.inl own, .inr ⟨rfl, own ▸ unknown⟩⟩
    · exact ⟨.inr ⟨rfl, own ▸ unknown⟩, .inl own⟩

theorem wrapped_sol_apart :
    ("SOL" ≠ "" ∧ Undotted "SOL") ∧ ("sol" ≠ "" ∧ Undotted "sol") ∧
      canonicalize "SOL" NativeAsset.eth.symbol ≠ canonicalize "sol" NativeAsset.sol.symbol := by
  refine ⟨by decide, by decide, fun same => ?_⟩
  obtain ⟨-, chain | ⟨-, chain⟩ | ⟨⟨-, unknown⟩, -⟩⟩ := (canonicalize_eq_iff "SOL" "sol" .eth .sol
    (by decide) (by decide) (by decide) (by decide)).mp same
  · cases chain
  · cases chain
  · revert unknown
    decide

theorem arbitrum_ether_shares_id :
    ¬ ∀ (symbol other : String) (chain second : NativeAsset), symbol ≠ "" → Undotted symbol →
      other ≠ "" → Undotted other →
      canonicalize symbol chain.symbol = canonicalize other second.symbol →
        upper symbol = upper other ∧ chain = second := by
  intro unambiguous
  have own : canonicalize "ArbETH" NativeAsset.arbEth.symbol = ⟨"ARBETH"⟩ := by decide
  have token : canonicalize "ArbETH" NativeAsset.eth.symbol = ⟨"ARBETH"⟩ := by decide
  have same := unambiguous "ArbETH" "ArbETH" .arbEth .eth (by decide) (by decide) (by decide)
    (by decide) (own.trans token.symm)
  cases same.2

end Multichain.AssetId
