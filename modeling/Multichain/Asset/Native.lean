import Multichain.Fault
import Multichain.Json.Codec
import Multichain.Text.Casing

/-!
The chains that are known. A chain is named by its native asset; its symbol keeps the letters it has
always had, so that a symbol and its upper case may differ.
-/

set_option autoImplicit false

namespace Multichain

open Json

inductive ChainType where
  | unknown
  | utxo
  | account
  deriving DecidableEq

inductive ChainFamily where
  | bitcoin
  | evm
  | cosmos
  | substrate
  | oasis
  | solana
  deriving DecidableEq

inductive NativeAsset where
  | bch
  | btc
  | doge
  | aca
  | arbEth
  | atom
  | aurEth
  | avax
  | bnb
  | celo
  | etc
  | eth
  | ftm
  | kar
  | klay
  | luna
  | matic
  | optEth
  | rose
  | sol
  deriving DecidableEq

structure ChainProfile where
  symbol : String
  name : String
  chainType : ChainType
  family : ChainFamily
  decimals : UInt32

def ChainType.word : ChainType → String
  | .unknown => "unknown"
  | .utxo => "utxo"
  | .account => "account"

def ChainType.all : List ChainType :=
  [.unknown, .utxo, .account]

def ChainFamily.word : ChainFamily → String
  | .bitcoin => "bitcoin"
  | .evm => "evm"
  | .cosmos => "cosmos"
  | .substrate => "substrate"
  | .oasis => "oasis"
  | .solana => "solana"

def ChainFamily.all : List ChainFamily :=
  [.bitcoin, .evm, .cosmos, .substrate, .oasis, .solana]

namespace NativeAsset

def profile : NativeAsset → ChainProfile
  | .bch => ⟨"BCH", "Bitcoin Cash", .utxo, .bitcoin, 8⟩
  | .btc => ⟨"BTC", "Bitcoin", .utxo, .bitcoin, 8⟩
  | .doge => ⟨"DOGE", "Dogecoin", .utxo, .bitcoin, 8⟩
  | .aca => ⟨"ACA", "Acala", .account, .substrate, 12⟩
  | .arbEth => ⟨"ArbETH", "Arbitrum Ether", .account, .evm, 18⟩
  | .atom => ⟨"ATOM", "Atom (Cosmos)", .account, .cosmos, 6⟩
  | .aurEth => ⟨"AurETH", "Aurora", .account, .evm, 18⟩
  | .avax => ⟨"AVAX", "Avalanche", .account, .evm, 18⟩
  | .bnb => ⟨"BNB", "Binance Coin", .account, .evm, 18⟩
  | .celo => ⟨"CELO", "Celo", .account, .evm, 18⟩
  | .etc => ⟨"ETC", "Ethereum Classic", .account, .evm, 18⟩
  | .eth => ⟨"ETH", "Ether", .account, .evm, 18⟩
  | .ftm => ⟨"FTM", "Fantom", .account, .evm, 18⟩
  | .kar => ⟨"KAR", "Karura", .account, .substrate, 12⟩
  | .klay => ⟨"KLAY", "Klaytn", .account, .evm, 18⟩
  | .luna => ⟨"LUNA", "Luna (Terra)", .account, .cosmos, 6⟩
  | .matic => ⟨"MATIC", "Matic PoS (Polygon)", .account, .evm, 18⟩
  | .optEth => ⟨"OptETH", "Optimism", .account, .evm, 18⟩
  | .rose => ⟨"ROSE", "Rose (Oasis)", .account, .oasis, 9⟩
  | .sol => ⟨"SOL", "Solana", .account, .solana, 9⟩

def all : List NativeAsset :=
  [.bch, .btc, .doge, .aca, .arbEth, .atom, .aurEth, .avax, .bnb, .celo, .etc, .eth, .ftm, .kar,
   .klay, .luna, .matic, .optEth, .rose, .sol]

theorem mem_all (native : NativeAsset) : native ∈ all := by
  cases native <;> decide

def symbol (native : NativeAsset) : String :=
  native.profile.symbol

def name (native : NativeAsset) : String :=
  native.profile.name

def chainType (native : NativeAsset) : ChainType :=
  native.profile.chainType

def family (native : NativeAsset) : ChainFamily :=
  native.profile.family

def defaultDecimals (native : NativeAsset) : UInt32 :=
  native.profile.decimals

def defaultChain : NativeAsset := .eth

def isNative (text : String) : Bool :=
  all.any (·.symbol == text)

def lookup (text : String) : Option NativeAsset :=
  all.find? fun native => Text.upper native.symbol == Text.upper text

def ofText (text : String) : Except Fault NativeAsset :=
  match lookup text with
  | some native => .ok native
  | none => .error (.unsupportedNative text)

def label : NativeAsset → String
  | .bch => "Bch"
  | .btc => "Btc"
  | .doge => "Doge"
  | .aca => "Aca"
  | .arbEth => "ArbEth"
  | .atom => "Atom"
  | .aurEth => "AurEth"
  | .avax => "Avax"
  | .bnb => "Bnb"
  | .celo => "Celo"
  | .etc => "Etc"
  | .eth => "Eth"
  | .ftm => "Ftm"
  | .kar => "Kar"
  | .klay => "Klay"
  | .luna => "Luna"
  | .matic => "Matic"
  | .optEth => "OptEth"
  | .rose => "Rose"
  | .sol => "Sol"

end NativeAsset

def ChainType.ofSymbol (symbol : String) : ChainType :=
  match NativeAsset.lookup symbol with
  | some native => native.chainType
  | none => .unknown

def ChainType.codec : Codec ChainType :=
  Codec.words ChainType.all ChainType.word

def ChainFamily.codec : Codec ChainFamily :=
  Codec.words ChainFamily.all ChainFamily.word

def NativeAsset.codec : Codec NativeAsset :=
  Codec.text.via NativeAsset.symbol NativeAsset.lookup

end Multichain
