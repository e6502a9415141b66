import Multichain.Encoding.Bech32
import Multichain.Encoding.Digits
import Multichain.Environment.Basic
import Multichain.Text.Basic
import Multichain.Text.Quoted

/-!
Everything that can go wrong, as causes. Each cause has one of four kinds, a message, and a text
that names the kind before the message.
-/

set_option autoImplicit false

namespace Multichain

inductive FaultKind where
  | notImplemented
  | notInitialized
  | invalidInput
  | encoding
  deriving DecidableEq

namespace FaultKind

def code : FaultKind → String
  | .notImplemented => "not_implemented"
  | .notInitialized => "not_initialized"
  | .invalidInput => "invalid_input"
  | .encoding => "encoding_failed"

def heading : FaultKind → String
  | .notImplemented => "not implemented: "
  | .notInitialized => "transaction not initialized: "
  | .invalidInput => "invalid input: "
  | .encoding => "encoding failed: "

end FaultKind

inductive DecimalFault where
  | numeral (fault : Text.NumeralFault)
  | emptyDigits
  | exponentOverflow (text : String)
  deriving DecidableEq

def DecimalFault.message : DecimalFault → String
  | .numeral fault => fault.message
  | .emptyDigits => "Failed to parse empty string"
  | .exponentOverflow text => "Exponent overflow when parsing '" ++ text ++ "'"

inductive BitcoinKeyFault where
  | length
  | firstByte (byte : UInt8)
  | notOnCurve
  deriving DecidableEq

def BitcoinKeyFault.message : BitcoinKeyFault → String
  | .length => "base58"
  | .firstByte byte => "key prefix invalid: " ++ toString byte.toNat
  | .notOnCurve => "secp256k1"

inductive Fault where
  -- A cause that a collaborator reports in its own words.
  | reported (kind : FaultKind) (message : String)
  | invalidInteger (text : String) (fault : Text.NumeralFault)
  | invalidDecimal (text : String) (fault : DecimalFault)
  | excessPlaces (decimals : UInt32)
  | magnitude (limit : Nat)
  | exponentRange
  | unsupportedNative (symbol : String)
  | unspecifiedAsset
  | unsupportedChain (asset chain : String)
  | missingDecimals (asset : String)
  | unsetVariable (name : String)
  | unreadableSecret (path : String) (fault : ReadFault)
  | unresolved (asset : String)
  | duplicateId (id : String)
  | addressDerivation (symbol : String)
  | invalidCurveKey
  | invalidBitcoinKey (fault : BitcoinKeyFault)
  | uncompressedKey (form : String)
  | solanaKeyLength (length : Nat)
  | cosmosKeyLength (length : Nat)
  | missingPrefix (asset : String)
  | invalidPrefix (text : String) (fault : Bech32.PrefixFault)
  | notCosmosChain (symbol : String)
  | missingChainCoin (symbol : String)
  | foreignInput
  | tokenTransfer
  | missingChainId
  | negativeGasPrice (price : String)
  | multisigSlot
  | emptySignature
  | noSighash
  | noSigningContext
  | noEncoder
  | foreignMessage (typeUrl : String)
  | foreignTransaction
  | unsigned
  | multisigEncoding
  | invalidJson
  | transactionType (kind : String)
  | invalidBase64 (fault : Base64.Fault)
  | invalidGas (text : String) (fault : Text.NumeralFault)
  deriving DecidableEq

namespace Fault

def kind : Fault → FaultKind
  | .reported kind _ => kind
  | .addressDerivation _ | .tokenTransfer => .notImplemented
  | .noSighash | .noSigningContext | .noEncoder => .notInitialized
  | .foreignMessage _ | .foreignTransaction | .unsigned | .multisigEncoding | .invalidJson
  | .transactionType _ | .invalidBase64 _ | .invalidGas _ _ => .encoding
  | _ => .invalidInput

def message : Fault → String
  | .reported _ message => message
  | .invalidInteger text fault => "invalid integer amount '" ++ text ++ "': " ++ fault.message
  | .invalidDecimal text fault => "invalid decimal amount '" ++ text ++ "': " ++ fault.message
  | .excessPlaces decimals => "amount exceeds " ++ toString decimals.toNat ++ " decimal places"
  | .magnitude limit => "amount magnitude exceeds 10^" ++ toString limit
  | .exponentRange => "decimal exponent out of range"
  | .unsupportedNative symbol => "unsupported native asset: " ++ symbol
  | .unspecifiedAsset => "asset config has neither asset nor chain"
  | .unsupportedChain asset chain =>
    "asset " ++ asset ++ " refers to unsupported chain " ++ chain
  | .missingDecimals asset => "token " ++ asset ++ " must configure decimals"
  | .unsetVariable name => "auth env variable " ++ name ++ " is not set"
  | .unreadableSecret path fault => "failed to read auth file " ++ path ++ ": " ++ fault.message
  | .unresolved asset => "asset config " ++ asset ++ " not resolved"
  | .duplicateId id => "duplicate asset id: " ++ id
  | .addressDerivation symbol => "address derivation for " ++ symbol
  | .invalidCurveKey => "invalid secp256k1 public key: crypto error"
  | .invalidBitcoinKey fault => "invalid bitcoin public key: " ++ fault.message
  | .uncompressedKey form =>
    form ++ ": an uncompressed pubkey was used where it is not allowed"
  | .solanaKeyLength length =>
    "solana public key must be 32 bytes, got " ++ toString length
  | .cosmosKeyLength length =>
    "cosmos public key must be 33 bytes (compressed), got " ++ toString length
  | .missingPrefix asset => "chain_prefix is required for " ++ asset
  | .invalidPrefix text fault => "invalid bech32 prefix " ++ text ++ ": " ++ fault.message
  | .notCosmosChain symbol => symbol ++ " is not a cosmos chain"
  | .missingChainCoin symbol => "chain_coin is required for " ++ symbol
  | .foreignInput => "expected CosmosTxInput"
  | .tokenTransfer => "cosmos token transfers"
  | .missingChainId => "chain id is required"
  | .negativeGasPrice price => "gas price must not be negative: " ++ price
  | .multisigSlot => "amino json does not support multisig signatures"
  | .emptySignature => "signature is empty"
  | .noSighash => "no sighash staged"
  | .noSigningContext => "no signing context"
  | .noEncoder => "no tx encoder"
  | .foreignMessage typeUrl => "no amino encoding for message " ++ typeUrl
  | .foreignTransaction => "amino encoder only accepts StdTx"
  | .unsigned => "transaction is not signed"
  | .multisigEncoding => "multisig signatures are not supported"
  | .invalidJson => "JSON serialization error"
  | .transactionType kind => "unexpected tx type " ++ kind
  | .invalidBase64 fault => "invalid base64: " ++ fault.message
  | .invalidGas text fault => "invalid gas '" ++ text ++ "': " ++ fault.message

def text (fault : Fault) : String :=
  fault.kind.heading ++ fault.message

def code (fault : Fault) : String :=
  fault.kind.code

def isNotInitialized (fault : Fault) : Bool :=
  fault.kind = .notInitialized

end Fault

end Multichain
