import Multichain.Address.Basic
import Multichain.Curve.Secp256k1
import Multichain.Encoding.Bech32
import Multichain.Encoding.Digits
import Multichain.Hash.Ripemd160

/-!
Addresses of Bitcoin keys: three forms for a compressed key, one for an uncompressed key.
-/

set_option autoImplicit false

namespace Multichain.Bitcoin

open Multichain

inductive Network where
  | main
  | test
  deriving DecidableEq

namespace Network

def keyVersion : Network → UInt8
  | .main => 0
  | .test => 111

def scriptVersion : Network → UInt8
  | .main => 5
  | .test => 196

def hrp : Network → Bech32.Hrp
  | .main => ⟨"bc"⟩
  | .test => ⟨"tb"⟩

end Network

structure Key where
  bytes : Bytes
  compressed : Bool
  deriving DecidableEq

def Key.read (bytes : Bytes) : Except BitcoinKeyFault Key :=
  if bytes.length = 33 then
    match Secp256k1.readCompressed bytes with
    | some _ => .ok ⟨bytes, true⟩
    | none => .error .notOnCurve
  else if bytes.length = 65 then
    let first := bytes.headD 0
    if first ≠ 4 then .error (.firstByte first)
    else
      match Secp256k1.readUncompressed bytes with
      | some _ => .ok ⟨bytes, false⟩
      | none => .error .notOnCurve
  else .error .length

def Key.hash (key : Key) : Bytes :=
  Hash.Ripemd160.keyHash key.bytes

def base58Check (version : UInt8) (hash : Bytes) : String :=
  let body := version :: hash
  Base58.encode (body ++ (Hash.Sha256.hash (Hash.Sha256.hash body)).take 4)

def witnessScript (hash : Bytes) : Bytes :=
  0 :: 20 :: hash

def address (network : Network) (key : Key) : AddressKind → Except Fault Address
  | .default =>
    if key.compressed then
      .ok ⟨Bech32.encodeGroups network.hrp (0 :: Bech32.regroup 0 0 key.hash)⟩
    else .error (.uncompressedKey "p2wpkh")
  | .nestedSegwit =>
    if key.compressed then
      .ok ⟨base58Check network.scriptVersion (Hash.Ripemd160.keyHash (witnessScript key.hash))⟩
    else .error (.uncompressedKey "p2sh-p2wpkh")
  | .legacy => .ok ⟨base58Check network.keyVersion key.hash⟩

def kinds (key : Key) : List AddressKind :=
  if key.compressed then [.default, .nestedSegwit, .legacy] else [.legacy]

def readKey (bytes : Bytes) : Except Fault Key :=
  match Key.read bytes with
  | .ok key => .ok key
  | .error fault => .error (.invalidBitcoinKey fault)

def derive (network : Network) (bytes : Bytes) : Except Fault Address := do
  let key ← readKey bytes
  address network key (if key.compressed then .default else .legacy)

def deriveKinds (network : Network) (key : Key) (tried : List PossibleAddress) :
    List AddressKind → Except PartialDerivation (List PossibleAddress)
  | [] => .ok tried
  | kind :: rest =>
    match address network key kind with
    | .ok address => deriveKinds network key (tried ++ [⟨address, kind⟩]) rest
    | .error cause => .error ⟨tried ++ [⟨.empty, kind⟩], cause⟩

def deriveAll (network : Network) (bytes : Bytes) :
    Except PartialDerivation (List PossibleAddress) :=
  match readKey bytes with
  | .ok key => deriveKinds network key [] (kinds key)
  | .error cause => .error ⟨[.empty], cause⟩

end Multichain.Bitcoin
