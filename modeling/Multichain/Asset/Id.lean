import Multichain.Asset.Native

/-!
Asset symbols as users write them, and the one id that all spellings of an asset share: the bare
symbol for native assets and for tokens of the default chain, `SYMBOL.CHAIN` for other tokens.
-/

set_option autoImplicit false

namespace Multichain

open Json

inductive AssetKind where
  | native
  | token
  deriving DecidableEq

def AssetKind.word : AssetKind → String
  | .native => "native"
  | .token => "token"

def AssetKind.label : AssetKind → String
  | .native => "Native"
  | .token => "Token"

def AssetKind.all : List AssetKind :=
  [.native, .token]

structure Asset where
  symbol : String
  deriving DecidableEq

namespace Asset

def ofNative (native : NativeAsset) : Asset :=
  ⟨native.symbol⟩

def kind (asset : Asset) : AssetKind :=
  if NativeAsset.isNative asset.symbol then .native else .token

def chainType (asset : Asset) : ChainType :=
  ChainType.ofSymbol asset.symbol

end Asset

structure AssetId where
  text : String
  deriving DecidableEq

namespace AssetId

def separator : Char := '.'

def isEmpty (id : AssetId) : Bool :=
  id.text == ""

def parts? (text : String) : Option (String × String) :=
  match text.toList.span (· ≠ separator) with
  | (symbol, _ :: chain) =>
    if chain.contains separator then none else some (String.ofList symbol, String.ofList chain)
  | (_, []) => none

def splitChain (text : String) : Option (String × String) :=
  (parts? text).filter fun (_, chain) => NativeAsset.isNative chain

def symbolAndChain (asset hint : String) : Option (String × String) :=
  if asset = "" ∧ hint = "" then none
  else
    let whole := if asset = "" then hint else asset
    let (symbol, named) :=
      match splitChain whole with
      | some (symbol, chain) => (symbol, if hint = "" then chain else hint)
      | none => (whole, hint)
    let chain :=
      if named ≠ "" then named
      else if NativeAsset.isNative symbol then symbol
      else NativeAsset.defaultChain.symbol
    some (symbol, Text.upper chain)

def ofSymbolAndChain (symbol chain : String) : AssetId :=
  let upper := Text.upper symbol
  if upper = chain then ⟨upper⟩
  else if chain = NativeAsset.defaultChain.symbol ∧ ¬ NativeAsset.isNative upper then ⟨upper⟩
  else ⟨upper ++ String.singleton separator ++ chain⟩

/-- Canonical id of an asset text under a chain hint. The empty id stands for "no asset named". -/
def canonicalize (asset hint : String) : AssetId :=
  match symbolAndChain asset hint with
  | none => ⟨""⟩
  | some (symbol, chain) => ofSymbolAndChain symbol chain

end AssetId

def AssetKind.codec : Codec AssetKind :=
  Codec.words AssetKind.all AssetKind.word

def Asset.codec : Codec Asset :=
  Codec.text.via Asset.symbol fun symbol => some ⟨symbol⟩

def AssetId.codec : Codec AssetId :=
  Codec.text.via AssetId.text fun text => some ⟨text⟩

end Multichain
