import Multichain.Address.Bitcoin
import Multichain.Asset.Config
import Multichain.Hash.Keccak256

/-!
From public keys to addresses, for the chain of a configured asset. Those of EVM chains are the last
twenty bytes of a hash, in hexadecimal digits whose case carries a checksum.
-/

set_option autoImplicit false

namespace Multichain.Evm

open Multichain

def nibbles (bytes : Bytes) : List Nat :=
  bytes.flatMap fun byte => [byte.toNat / 16, byte.toNat % 16]

def applyNibble (char : Char) (nibble : Nat) : Char :=
  if char.isAlpha ∧ 8 ≤ nibble then char.toUpper else char

def applyNibbles : List Char → List Nat → Option (List Char)
  | [], _ => some []
  | _ :: _, [] => none
  | char :: rest, nibble :: nibbles =>
    (applyNibbles rest nibbles).map (applyNibble char nibble :: ·)

def checksumChars? (bytes : Bytes) : Option (List Char) :=
  let chars := Hex.encodeChars bytes
  applyNibbles chars (nibbles (Hash.Keccak256.hash (Bytes.ofText (String.ofList chars))))

def checksumText? (bytes : Bytes) : Option String :=
  (checksumChars? bytes).map fun chars => String.ofList ('0' :: 'x' :: chars)

def accountBytes (point : Secp256k1.Point) : Bytes :=
  (Hash.Keccak256.hash point.coordinates).drop 12

def derive (key : Bytes) : Except Fault Address :=
  match Secp256k1.read key with
  | none => .error .invalidCurveKey
  | some point => .ok ⟨(checksumText? (accountBytes point)).getD ""⟩

end Multichain.Evm

namespace Multichain

inductive AddressBuilder where
  | evm
  | bitcoin (network : Bitcoin.Network)
  | cosmos (hrp : Bech32.Hrp)
  | solana
  deriving DecidableEq

namespace AddressBuilder

def ofBitcoin (config : AssetConfig) : Except Fault AddressBuilder := do
  let native ← config.nativeAsset
  if native ≠ .btc then throw (.addressDerivation native.symbol)
  return .bitcoin (if config.isTestnet then .test else .main)

def ofCosmos (config : AssetConfig) : Except Fault AddressBuilder :=
  if config.chainPrefix = "" then .error (.missingPrefix config.asset)
  else
    match Bech32.Hrp.ofText config.chainPrefix with
    | .ok hrp => .ok (.cosmos hrp)
    | .error fault => .error (.invalidPrefix config.chainPrefix fault)

def ofFamily (config : AssetConfig) : ChainFamily → Except Fault AddressBuilder
  | .evm => .ok .evm
  | .bitcoin => ofBitcoin config
  | .cosmos => ofCosmos config
  | .solana => .ok .solana
  | .substrate | .oasis => do
    let native ← config.nativeAsset
    throw (.addressDerivation native.symbol)

def ofConfig (config : AssetConfig) : Except Fault AddressBuilder := do
  let native ← config.nativeAsset
  ofFamily config native.family

def cosmosKeyLength : Nat := 33

def solanaKeyLength : Nat := 32

def derive (builder : AddressBuilder) (key : Bytes) : Except Fault Address :=
  match builder with
  | .evm => Evm.derive key
  | .bitcoin network => Bitcoin.derive network key
  | .cosmos hrp =>
    if key.length ≠ cosmosKeyLength then .error (.cosmosKeyLength key.length)
    else .ok ⟨Bech32.encode hrp (Hash.Ripemd160.keyHash key)⟩
  | .solana =>
    if key.length ≠ solanaKeyLength then .error (.solanaKeyLength key.length)
    else .ok ⟨Base58.encode key⟩

def deriveDefault (builder : AddressBuilder) (key : Bytes) :
    Except PartialDerivation (List PossibleAddress) :=
  match builder.derive key with
  | .ok address => .ok [⟨address, .default⟩]
  | .error cause => .error ⟨[.empty], cause⟩

def deriveAll (builder : AddressBuilder) (key : Bytes) :
    Except PartialDerivation (List PossibleAddress) :=
  match builder with
  | .bitcoin network => Bitcoin.deriveAll network key
  | .evm | .cosmos _ | .solana => builder.deriveDefault key

end AddressBuilder

end Multichain
