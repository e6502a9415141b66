import Multichain.Fault
import Multichain.Json.Codec

/-!
Addresses: what names an account on a chain, and the several forms that one key may have there.
-/

set_option autoImplicit false

namespace Multichain

open Json

structure Address where
  text : String
  deriving DecidableEq

structure ContractAddress where
  text : String
  deriving DecidableEq

inductive AddressKind where
  | default
  | nestedSegwit
  | legacy
  deriving DecidableEq

structure PossibleAddress where
  address : Address
  kind : AddressKind
  deriving DecidableEq

structure PartialDerivation where
  attempted : List PossibleAddress
  cause : Fault
  deriving DecidableEq

def Address.empty : Address := ⟨""⟩

def ContractAddress.empty : ContractAddress := ⟨""⟩

def Address.codec : Codec Address :=
  Codec.text.via Address.text fun text => some ⟨text⟩

def ContractAddress.codec : Codec ContractAddress :=
  Codec.text.via ContractAddress.text fun text => some ⟨text⟩

def AddressKind.word : AddressKind → String
  | .default => "default"
  | .nestedSegwit => "nested_segwit"
  | .legacy => "legacy"

def AddressKind.all : List AddressKind :=
  [.default, .nestedSegwit, .legacy]

def AddressKind.codec : Codec AddressKind :=
  Codec.words AddressKind.all AddressKind.word

def PossibleAddress.empty : PossibleAddress :=
  ⟨.empty, .default⟩

def PossibleAddress.codec : Codec PossibleAddress where
  write possible :=
    .object [("address", Address.codec.write possible.address),
      ("type", AddressKind.codec.write possible.kind)]
  read depth tree := do
    let fields ← Fields.read ["address", "type"] depth tree
    return ⟨← fields.required "address" Address.codec, ← fields.required "type" AddressKind.codec⟩

def PartialDerivation.text (failure : PartialDerivation) : String :=
  "address derivation failed: " ++ failure.cause.text

end Multichain
