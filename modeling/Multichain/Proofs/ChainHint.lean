import Mathlib
import Multichain.Proofs.SharedId

/-!
What a suffix and a hint tell of the chain. A symbol with a suffix is read as the symbol with the
suffix for a hint; a hint that is given is taken in place of the suffix, and in whatever case. Main
statement: `suffix_read_as_hint`.
-/

set_option autoImplicit false

namespace Multichain.AssetId

open Text

-- Without an asset the hint stands for the symbol too, and the symbol keeps its letters.
theorem symbolAndChain_upper_hint (asset hint : String) (named : asset ≠ "") :
    symbolAndChain asset (upper hint) = symbolAndChain asset hint := by
  by_cases free : hint = ""
  · rw [free, (upper_eq_empty "").mpr rfl]
  · have own (other : String) : given asset other = asset := if_neg named
    have freeUpper : upper hint ≠ "" := mt (upper_eq_empty hint).mp free
    cases split : splitChain asset with
    | some parts =>
      obtain ⟨symbol, suffix⟩ := parts
      rw [symbolAndChain_split asset (upper hint) symbol suffix (by rwa [own]),
        symbolAndChain_split asset hint symbol suffix (by rwa [own]), if_neg freeUpper, if_neg free,
        upper_upper]
    | none =>
      rw [symbolAndChain_whole asset (upper hint) (by rwa [own]) (by rwa [own]),
        symbolAndChain_whole asset hint (by rwa [own]) (by rwa [own]), own, own, if_pos freeUpper,
        if_pos free, upper_upper]

theorem suffix_read_as_hint (symbol asset hint : String) (native : NativeAsset)
    (named : symbol ≠ "") (plain : Undotted symbol) (present : asset ≠ "") :
    canonicalize (dotted symbol native.symbol) hint =
        canonicalize symbol (if hint = "" then native.symbol else hint) ∧
      canonicalize asset hint = canonicalize asset (upper hint) := by
  constructor
  · have hinted : (if hint = "" then native.symbol else hint) ≠ "" := by
      split_ifs with free
      · exact symbol_ne_empty native
      · exact free
    have suffix := symbolAndChain_suffix symbol hint native plain
    have alone := symbolAndChain_hint symbol _ named plain hinted
    rw [canonicalize_of_parts _ _ _ _ suffix, canonicalize_of_parts _ _ _ _ alone]
  · rw [canonicalize, canonicalize, symbolAndChain_upper_hint asset hint present]

theorem usdc_suffix_outweighed :
    (("usdc" ≠ "" ∧ Undotted "usdc") ∧ "w.usdc" ≠ "") ∧
      canonicalize "usdc.SOL" "atom" = ⟨"USDC.ATOM"⟩ ∧
      canonicalize "w.usdc" "atom" = canonicalize "w.usdc" "ATOM" := by
  have text : dotted "usdc" NativeAsset.sol.symbol = "usdc.SOL" := by decide
  have letters : upper "atom" = "ATOM" := by decide
  have alone : canonicalize "usdc" "atom" = ⟨"USDC.ATOM"⟩ := by decide
  obtain ⟨suffix, hint⟩ := suffix_read_as_hint "usdc" "w.usdc" "atom" .sol (by decide) (by decide)
    (by decide)
  rw [text] at suffix
  rw [letters] at hint
  exact ⟨by decide, suffix.trans alone, hint⟩

end Multichain.AssetId
