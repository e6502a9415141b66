import Mathlib
import Multichain.Asset.Id
import Multichain.Proofs.Casing
import Multichain.Proofs.QuotedText

/-!
Which ids canonicalisation leaves alone. An id is redundant if it names a chain that its symbol
implies; a suffix in the wrong case is taken for a part of the symbol, and upper case may then turn
it into such a chain. Main statements: `canonicalize_eq_self_iff` and `canonicalize_again_iff`.
-/

set_option autoImplicit false

namespace Multichain.AssetId

open Text

def Undotted (text : String) : Prop :=
  '.' ∉ text.toList

instance (text : String) : Decidable (Undotted text) :=
  inferInstanceAs (Decidable ('.' ∉ text.toList))

def dotted (symbol chain : String) : String :=
  symbol ++ "." ++ chain

theorem dotted_dotted (symbol suffix chain : String) :
    dotted (dotted symbol suffix) chain = dotted symbol (dotted suffix chain) := by
  simp [dotted, String.append_assoc]

theorem toList_dotted (symbol chain : String) :
    (dotted symbol chain).toList = symbol.toList ++ '.' :: chain.toList := by
  simp [dotted]

@[simp]
theorem not_undotted_dotted (symbol chain : String) : ¬ Undotted (dotted symbol chain) := by
  simp [Undotted, toList_dotted]

theorem dotted_inj (symbol chain symbol' chain' : String) (plain : Undotted symbol)
    (plain' : Undotted symbol') (same : dotted symbol chain = dotted symbol' chain') :
    symbol = symbol' ∧ chain = chain' := by
  have lists := congrArg String.toList same
  rw [toList_dotted, toList_dotted] at lists
  obtain ⟨symbols, chains⟩ := append_mark_inj '.' _ _ _ _ plain plain' lists
  exact ⟨String.toList_injective symbols, String.toList_injective chains⟩

theorem exists_dotted (text : String) (dot : ¬ Undotted text) :
    ∃ symbol chain, text = dotted symbol chain ∧ Undotted symbol := by
  obtain ⟨before, after, split, first⟩ := List.eq_append_cons_of_mem (not_not.mp dot)
  refine ⟨String.ofList before, String.ofList after, ?_, by simpa [Undotted] using first⟩
  apply String.toList_injective
  rw [toList_dotted, split]
  simp

theorem upper_dotted (symbol chain : String) :
    upper (dotted symbol chain) = dotted (upper symbol) (upper chain) := by
  have dot : upper "." = "." := by decide
  rw [dotted, upper_append, upper_append, dot, dotted]

@[simp]
theorem undotted_upper (text : String) : Undotted (upper text) ↔ Undotted text := by
  simp [Undotted]

theorem undotted_congr (text other : String) (same : upper text = upper other) :
    Undotted text ↔ Undotted other := by
  rw [← undotted_upper, same, undotted_upper]

theorem span_undotted (text : String) (plain : Undotted text) (rest : List Char) :
    (text.toList ++ rest).span (· ≠ separator) =
      (text.toList ++ (rest.span (· ≠ separator)).1, (rest.span (· ≠ separator)).2) := by
  have inside : ∀ char ∈ text.toList, decide (char ≠ separator) = true := by
    intro char member
    exact decide_eq_true (ne_of_mem_of_not_mem member plain)
  simp only [List.span_eq_takeWhile_dropWhile, List.takeWhile_append_of_pos inside,
    List.dropWhile_append_of_pos inside]

theorem parts?_undotted (text : String) (plain : Undotted text) : parts? text = none := by
  have cut := span_undotted text plain []
  rw [List.append_nil] at cut
  rw [parts?, cut]
  rfl

theorem parts?_dotted (symbol chain : String) (plain : Undotted symbol) :
    parts? (dotted symbol chain) =
      if '.' ∈ chain.toList then none else some (symbol, chain) := by
  have stop : ('.' :: chain.toList).span (· ≠ separator) = ([], '.' :: chain.toList) := rfl
  rw [parts?, toList_dotted, span_undotted symbol plain, stop]
  simp [separator]

theorem parts?_eq_some_iff (text symbol chain : String) :
    parts? text = some (symbol, chain) ↔
      text = dotted symbol chain ∧ Undotted symbol ∧ Undotted chain := by
  constructor
  · intro split
    by_cases plain : Undotted text
    · simp [parts?_undotted text plain] at split
    · obtain ⟨before, after, rfl, first⟩ := exists_dotted text plain
      rw [parts?_dotted before after first] at split
      split_ifs at split with again
      simp only [Option.some.injEq, Prod.mk.injEq] at split
      obtain ⟨rfl, rfl⟩ := split
      exact ⟨rfl, first, again⟩
  · rintro ⟨rfl, plain, plainChain⟩
    rw [parts?_dotted symbol chain plain, if_neg plainChain]

theorem splitChain_eq_some_iff (text symbol chain : String) :
    splitChain text = some (symbol, chain) ↔
      text = dotted symbol chain ∧ Undotted symbol ∧ Undotted chain ∧
        NativeAsset.isNative chain = true := by
  rw [splitChain, Option.filter_eq_some_iff, parts?_eq_some_iff]
  simp only [and_assoc]

theorem splitChain_undotted (text : String) (plain : Undotted text) : splitChain text = none := by
  rw [splitChain, parts?_undotted text plain, Option.filter_none]

theorem isNative_iff (text : String) :
    NativeAsset.isNative text = true ↔ ∃ native : NativeAsset, native.symbol = text := by
  simp only [NativeAsset.isNative, List.any_eq_true, beq_iff_eq, NativeAsset.mem_all, true_and]

theorem undotted_of_isNative (text : String) (known : NativeAsset.isNative text = true) :
    Undotted text := by
  obtain ⟨native, rfl⟩ := (isNative_iff text).mp known
  cases native <;> decide

theorem ne_empty_of_isNative (text : String) (known : NativeAsset.isNative text = true) :
    text ≠ "" := by
  obtain ⟨native, rfl⟩ := (isNative_iff text).mp known
  cases native <;> decide

theorem not_isNative_of_splitChain (symbol suffix : String) (plain : Undotted symbol)
    (whole : splitChain (dotted symbol suffix) = none) : NativeAsset.isNative suffix = false := by
  by_contra seen
  rw [Bool.not_eq_false] at seen
  have found := (splitChain_eq_some_iff _ _ _).mpr
    ⟨rfl, plain, undotted_of_isNative suffix seen, seen⟩
  rw [whole] at found
  cases found

def given (asset hint : String) : String :=
  if asset = "" then hint else asset

theorem given_eq_empty (asset hint : String) : given asset hint = "" ↔ asset = "" ∧ hint = "" := by
  unfold given
  split_ifs with empty <;> simp [empty]

theorem symbolAndChain_split (asset hint symbol chain : String)
    (split : splitChain (given asset hint) = some (symbol, chain)) :
    symbolAndChain asset hint = some (symbol, upper (if hint = "" then chain else hint)) := by
  obtain ⟨whole, -, -, known⟩ := (splitChain_eq_some_iff _ _ _).mp split
  have named : (if hint = "" then chain else hint) ≠ "" := by
    split_ifs with empty
    · exact ne_empty_of_isNative chain known
    · exact empty
  have present : ¬ (asset = "" ∧ hint = "") := by
    rw [← given_eq_empty, whole, dotted]
    simp
  rw [given] at split
  simp only [symbolAndChain, present, if_false, split, named, ne_eq, not_false_eq_true, if_true]

theorem symbolAndChain_whole (asset hint : String) (present : given asset hint ≠ "")
    (whole : splitChain (given asset hint) = none) :
    symbolAndChain asset hint =
      some (given asset hint,
        upper (if hint ≠ "" then hint
          else if NativeAsset.isNative (given asset hint) then given asset hint
          else NativeAsset.defaultChain.symbol)) := by
  rw [ne_eq, given_eq_empty] at present
  rw [given] at whole ⊢
  simp only [symbolAndChain, present, if_false, whole]

theorem symbolAndChain_eq_some_iff (asset hint symbol chain : String) :
    symbolAndChain asset hint = some (symbol, chain) ↔
      (∃ suffix, splitChain (given asset hint) = some (symbol, suffix) ∧
        chain = upper (if hint = "" then suffix else hint)) ∨
      given asset hint ≠ "" ∧ splitChain (given asset hint) = none ∧ symbol = given asset hint ∧
        chain = upper (if hint ≠ "" then hint
          else if NativeAsset.isNative (given asset hint) then given asset hint
          else NativeAsset.defaultChain.symbol) := by
  by_cases empty : given asset hint = ""
  · have split : splitChain (given asset hint) = none := by
      rw [empty]
      decide
    have unnamed : symbolAndChain asset hint = none := by
      simp only [symbolAndChain, if_pos ((given_eq_empty asset hint).mp empty)]
    rw [split, unnamed]
    simp [empty]
  cases split : splitChain (given asset hint) with
  | none =>
    rw [symbolAndChain_whole asset hint empty split]
    constructor
    · intro same
      obtain ⟨own, named⟩ := Prod.mk.inj (Option.some.inj same)
      exact .inr ⟨empty, rfl, own.symm, named.symm⟩
    · rintro (⟨suffix, parts, -⟩ | ⟨-, -, rfl, rfl⟩)
      · cases parts
      · rfl
  | some parts =>
    obtain ⟨own, suffix⟩ := parts
    rw [symbolAndChain_split asset hint own suffix split]
    constructor
    · intro same
      obtain ⟨rfl, rfl⟩ := Prod.mk.inj (Option.some.inj same)
      exact .inl ⟨suffix, rfl, rfl⟩
    · rintro (⟨other, parts, rfl⟩ | ⟨-, whole, -⟩)
      · obtain ⟨rfl, rfl⟩ := Prod.mk.inj (Option.some.inj parts)
        rfl
      · cases whole

theorem given_ne_empty (asset hint symbol chain : String)
    (parts : symbolAndChain asset hint = some (symbol, chain)) : given asset hint ≠ "" := by
  intro empty
  obtain ⟨rfl, rfl⟩ := (given_eq_empty asset hint).mp empty
  cases parts

theorem symbolAndChain_dotted (asset hint symbol chain : String)
    (parts : symbolAndChain asset hint = some (symbol, chain)) (dot : ¬ Undotted symbol) :
    symbol = given asset hint ∧ splitChain symbol = none ∧
      chain = upper (if hint = "" then NativeAsset.defaultChain.symbol else hint) := by
  rcases (symbolAndChain_eq_some_iff ..).mp parts with ⟨suffix, split, -⟩ | ⟨-, whole, rfl, named⟩
  · exact absurd ((splitChain_eq_some_iff ..).mp split).2.1 dot
  · have unknown : ¬ NativeAsset.isNative (given asset hint) := fun known =>
      dot (undotted_of_isNative _ known)
    refine ⟨rfl, whole, ?_⟩
    rw [named, if_neg unknown]
    by_cases empty : hint = "" <;> simp [empty]

theorem canonicalize_of_parts (asset hint symbol chain : String)
    (parts : symbolAndChain asset hint = some (symbol, chain)) :
    canonicalize asset hint = ofSymbolAndChain symbol chain := by
  simp only [canonicalize, parts]

theorem canonicalize_split (asset hint symbol chain : String)
    (split : splitChain (given asset hint) = some (symbol, chain)) :
    canonicalize asset hint =
      ofSymbolAndChain symbol (upper (if hint = "" then chain else hint)) :=
  canonicalize_of_parts _ _ _ _ (symbolAndChain_split asset hint symbol chain split)

theorem canonicalize_whole (asset hint : String) (present : given asset hint ≠ "")
    (whole : splitChain (given asset hint) = none) :
    canonicalize asset hint =
      ofSymbolAndChain (given asset hint)
        (upper (if hint ≠ "" then hint
          else if NativeAsset.isNative (given asset hint) then given asset hint
          else NativeAsset.defaultChain.symbol)) :=
  canonicalize_of_parts _ _ _ _ (symbolAndChain_whole asset hint present whole)

/-- The symbol alone is an id on the chain: it is the chain's own symbol, or the chain is the
default one and the symbol names no chain. -/
def Implies (symbol chain : String) : Prop :=
  symbol = chain ∨ chain = NativeAsset.defaultChain.symbol ∧ ¬ NativeAsset.isNative symbol

instance (symbol chain : String) : Decidable (Implies symbol chain) :=
  inferInstanceAs (Decidable (_ ∨ _))

theorem ofSymbolAndChain_of_implies (symbol chain : String) (implied : Implies (upper symbol) chain) :
    ofSymbolAndChain symbol chain = ⟨upper symbol⟩ := by
  unfold ofSymbolAndChain
  rcases implied with same | implied
  · simp only [same, if_true]
  · simp only [if_pos implied, ite_self]

theorem ofSymbolAndChain_of_not_implies (symbol chain : String)
    (free : ¬ Implies (upper symbol) chain) :
    ofSymbolAndChain symbol chain = ⟨dotted (upper symbol) chain⟩ := by
  rw [Implies, not_or] at free
  simp only [ofSymbolAndChain, free.1, free.2, if_false]
  rfl

theorem upper_canonicalize (asset hint : String) :
    upper (canonicalize asset hint).text = (canonicalize asset hint).text := by
  have settled (symbol chain : String) : upper (ofSymbolAndChain symbol (upper chain)).text =
      (ofSymbolAndChain symbol (upper chain)).text := by
    by_cases implied : Implies (upper symbol) (upper chain)
    · simp [ofSymbolAndChain_of_implies _ _ implied]
    · simp [ofSymbolAndChain_of_not_implies _ _ implied, upper_dotted]
  by_cases empty : given asset hint = ""
  · obtain ⟨rfl, rfl⟩ := (given_eq_empty asset hint).mp empty
    rfl
  · cases split : splitChain (given asset hint) with
    | none => rw [canonicalize_whole asset hint empty split, settled]
    | some parts => rw [canonicalize_split asset hint parts.1 parts.2 split, settled]

def Redundant (text : String) : Prop :=
  ∃ symbol chain, text = dotted symbol chain ∧ Undotted symbol ∧
    NativeAsset.isNative chain = true ∧ Implies symbol chain

theorem redundant_dotted (symbol chain : String) (plain : Undotted symbol) :
    Redundant (dotted symbol chain) ↔
      NativeAsset.isNative chain = true ∧ Implies symbol chain := by
  constructor
  · rintro ⟨symbol', chain', same, plain', known, implied⟩
    obtain ⟨rfl, rfl⟩ := dotted_inj _ _ _ _ plain plain' same
    exact ⟨known, implied⟩
  · rintro ⟨known, implied⟩
    exact ⟨symbol, chain, rfl, plain, known, implied⟩

theorem redundant_iff (text : String) :
    Redundant text ↔ ∃ parts ∈ splitChain text, Implies parts.1 parts.2 := by
  constructor
  · rintro ⟨symbol, chain, whole, plain, known, implied⟩
    have split := (splitChain_eq_some_iff text symbol chain).mpr
      ⟨whole, plain, undotted_of_isNative chain known, known⟩
    exact ⟨(symbol, chain), split, implied⟩
  · rintro ⟨⟨symbol, chain⟩, split, implied⟩
    obtain ⟨whole, plain, -, known⟩ := (splitChain_eq_some_iff text symbol chain).mp split
    exact ⟨symbol, chain, whole, plain, known, implied⟩

instance (text : String) : Decidable (Redundant text) :=
  decidable_of_iff _ (redundant_iff text).symm

theorem splitChain_of_redundant (text : String) (redundant : Redundant text) :
    splitChain text ≠ none := by
  obtain ⟨parts, split, -⟩ := (redundant_iff text).mp redundant
  rw [Option.mem_def.mp split]
  simp

@[simp]
theorem upper_defaultChain :
    upper NativeAsset.defaultChain.symbol = NativeAsset.defaultChain.symbol := by
  decide

theorem canonicalize_upper (text : String) (settled : upper text = text) :
    canonicalize text "" = ⟨text⟩ ↔ ¬ Redundant text := by
  by_cases empty : text = ""
  · subst empty
    have split : splitChain "" = none := by decide
    exact iff_of_true rfl fun redundant => splitChain_of_redundant _ redundant split
  have whole : given text "" = text := by simp [given, empty]
  cases split : splitChain text with
  | none =>
    refine iff_of_true ?_ fun redundant => splitChain_of_redundant _ redundant split
    rw [canonicalize_whole text "" (by rwa [whole]) (by rwa [whole]), whole]
    have implied : Implies (upper text) (upper (if "" ≠ "" then ""
        else if NativeAsset.isNative text then text else NativeAsset.defaultChain.symbol)) := by
      by_cases known : NativeAsset.isNative text
      · simp [Implies, known]
      · simp [Implies, known, settled]
    rw [ofSymbolAndChain_of_implies _ _ implied, settled]
  | some parts =>
    obtain ⟨symbol, chain⟩ := parts
    obtain ⟨rfl, plain, -, known⟩ := (splitChain_eq_some_iff _ _ _).mp split
    rw [upper_dotted] at settled
    obtain ⟨settledSymbol, settledChain⟩ :=
      dotted_inj _ _ _ _ ((undotted_upper symbol).mpr plain) plain settled
    rw [canonicalize_split _ _ symbol chain (by rwa [whole]), if_pos rfl, settledChain,
      redundant_dotted symbol chain plain]
    by_cases implied : Implies symbol chain
    · rw [ofSymbolAndChain_of_implies _ _ (by rwa [settledSymbol]), settledSymbol]
      have shorter : symbol ≠ dotted symbol chain := by
        intro same
        exact not_undotted_dotted symbol chain (same ▸ plain)
      simp [shorter, known, implied]
    · rw [ofSymbolAndChain_of_not_implies _ _ (by rwa [settledSymbol]), settledSymbol]
      simp [implied]

theorem canonicalize_eq_self_iff (text : String) :
    (canonicalize text "").text = text ↔ upper text = text ∧ ¬ Redundant text := by
  constructor
  · intro same
    have settled : upper text = text := by
      have upperId := upper_canonicalize text ""
      rwa [same] at upperId
    have own : canonicalize text "" = ⟨text⟩ := congrArg AssetId.mk same
    exact ⟨settled, (canonicalize_upper text settled).mp own⟩
  · rintro ⟨settled, free⟩
    rw [(canonicalize_upper text settled).mpr free]

-- Aurora's symbol in upper case is no symbol, and Solana's is one.
example : Redundant "AURETH.ETH" ∧ ¬ Redundant "SOL.ETH" := by
  decide

theorem not_redundant_of_not_implies (symbol chain : String) (free : ¬ Implies symbol chain) :
    ¬ Redundant (dotted symbol chain) := by
  intro redundant
  by_cases plain : Undotted symbol
  · exact free ((redundant_dotted symbol chain plain).mp redundant).2
  · obtain ⟨before, after, rfl, first⟩ := exists_dotted symbol plain
    rw [dotted_dotted, redundant_dotted _ _ first] at redundant
    exact not_undotted_dotted after chain (undotted_of_isNative _ redundant.1)

theorem not_redundant_of_undotted (text : String) (plain : Undotted text) : ¬ Redundant text := by
  rintro ⟨symbol, chain, rfl, -⟩
  exact not_undotted_dotted symbol chain plain

theorem redundant_ofSymbolAndChain (symbol chain : String) :
    Redundant (ofSymbolAndChain symbol chain).text ↔
      Implies (upper symbol) chain ∧ Redundant (upper symbol) := by
  by_cases implied : Implies (upper symbol) chain
  · simp [ofSymbolAndChain_of_implies _ _ implied, implied]
  · simp [ofSymbolAndChain_of_not_implies _ _ implied, implied,
      not_redundant_of_not_implies _ _ implied]

theorem redundant_upper (text : String) :
    Redundant (upper text) ↔ ∃ symbol suffix, text = dotted symbol suffix ∧ Undotted symbol ∧
      NativeAsset.isNative (upper suffix) = true ∧ Implies (upper symbol) (upper suffix) := by
  constructor
  · intro redundant
    have dot : ¬ Undotted text := by
      rw [← undotted_upper]
      exact fun plain => not_redundant_of_undotted _ plain redundant
    obtain ⟨symbol, suffix, rfl, plain⟩ := exists_dotted text dot
    rw [upper_dotted, redundant_dotted _ _ ((undotted_upper symbol).mpr plain)] at redundant
    exact ⟨symbol, suffix, rfl, plain, redundant⟩
  · rintro ⟨symbol, suffix, rfl, plain, redundant⟩
    rwa [upper_dotted, redundant_dotted _ _ ((undotted_upper symbol).mpr plain)]

/-- A suffix that is a chain's symbol in upper case only, so that it is not seen as a suffix, but is
left in the id as one that the symbol implies. A hint that names another chain prevents that. -/
def LooseSuffix (asset hint : String) : Prop :=
  ∃ symbol suffix, given asset hint = dotted symbol suffix ∧ Undotted symbol ∧
    NativeAsset.isNative suffix = false ∧ NativeAsset.isNative (upper suffix) = true ∧
    Implies (upper symbol) (upper suffix) ∧
    (hint = "" ∨ upper hint = NativeAsset.defaultChain.symbol ∨
      upper hint = upper (given asset hint))

theorem implies_hint (text hint : String) (dot : ¬ Undotted text) :
    Implies (upper text) (upper (if hint ≠ "" then hint
      else if NativeAsset.isNative text then text else NativeAsset.defaultChain.symbol)) ↔
    hint = "" ∨ upper hint = NativeAsset.defaultChain.symbol ∨ upper hint = upper text := by
  have unknown : ¬ NativeAsset.isNative text := fun known => dot (undotted_of_isNative text known)
  have unknownUpper : ¬ NativeAsset.isNative (upper text) := fun known =>
    dot ((undotted_upper text).mp (undotted_of_isNative _ known))
  by_cases empty : hint = ""
  · simp [empty, Implies, unknown, unknownUpper]
  · rw [if_pos empty]
    constructor
    · rintro (same | ⟨default, -⟩)
      · exact .inr (.inr same.symm)
      · exact .inr (.inl default)
    · rintro (none | default | same)
      · exact absurd none empty
      · exact .inr ⟨default, unknownUpper⟩
      · exact .inl same.symm

theorem redundant_canonicalize (asset hint : String) :
    Redundant (canonicalize asset hint).text ↔ LooseSuffix asset hint := by
  by_cases empty : given asset hint = ""
  · have none : ¬ LooseSuffix asset hint := by
      rintro ⟨symbol, suffix, whole, -⟩
      simp [empty, dotted] at whole
    obtain ⟨rfl, rfl⟩ := (given_eq_empty asset hint).mp empty
    exact iff_of_false (not_redundant_of_undotted "" (by decide)) none
  cases split : splitChain (given asset hint) with
  | some parts =>
    obtain ⟨symbol, chain⟩ := parts
    obtain ⟨whole, plain, -, known⟩ := (splitChain_eq_some_iff _ _ _).mp split
    rw [canonicalize_split asset hint symbol chain split, redundant_ofSymbolAndChain]
    refine iff_of_false ?_ ?_
    · rintro ⟨-, redundant⟩
      exact not_redundant_of_undotted _ ((undotted_upper symbol).mpr plain) redundant
    · rintro ⟨symbol', suffix, whole', plain', unknown, -⟩
      obtain ⟨rfl, rfl⟩ := dotted_inj _ _ _ _ plain plain' (whole.symm.trans whole')
      simp [known] at unknown
  | none =>
    rw [canonicalize_whole asset hint empty split, redundant_ofSymbolAndChain, redundant_upper]
    constructor
    · rintro ⟨named, symbol, suffix, whole, plain, known, redundant⟩
      have dot : ¬ Undotted (given asset hint) := whole ▸ not_undotted_dotted symbol suffix
      have unknown : NativeAsset.isNative suffix = false :=
        not_isNative_of_splitChain symbol suffix plain (whole ▸ split)
      exact ⟨symbol, suffix, whole, plain, unknown, known, redundant,
        (implies_hint _ hint dot).mp named⟩
    · rintro ⟨symbol, suffix, whole, plain, -, known, redundant, named⟩
      have dot : ¬ Undotted (given asset hint) := whole ▸ not_undotted_dotted symbol suffix
      exact ⟨(implies_hint _ hint dot).mpr named, symbol, suffix, whole, plain, known, redundant⟩

theorem canonicalize_again_iff (asset hint : String) :
    canonicalize (canonicalize asset hint).text "" = canonicalize asset hint ↔
      ¬ LooseSuffix asset hint := by
  rw [← redundant_canonicalize]
  exact canonicalize_upper _ (upper_canonicalize asset hint)

theorem canonicalize_not_idempotent :
    ¬ ∀ asset hint : String,
      canonicalize (canonicalize asset hint).text "" = canonicalize asset hint := by
  intro idempotent
  have first : canonicalize "usdc.eth" "" = ⟨"USDC.ETH"⟩ := by decide
  have second : canonicalize "USDC.ETH" "" = ⟨"USDC"⟩ := by decide
  have same := idempotent "usdc.eth" ""
  rw [first, second] at same
  simp at same

end Multichain.AssetId
