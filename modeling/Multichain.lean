import Multichain.Address.Basic
import Multichain.Address.Bitcoin
import Multichain.Address.Builder
import Multichain.Amount
import Multichain.Asset.Config
import Multichain.Asset.Id
import Multichain.Asset.Native
import Multichain.Bytes
import Multichain.CommandLine
import Multichain.Cosmos.Amino
import Multichain.Cosmos.Native
import Multichain.Cosmos.Transaction
import Multichain.Cosmos.TransferBuilder
import Multichain.Curve.Secp256k1
import Multichain.Encoding.Bech32
import Multichain.Encoding.Digits
import Multichain.Environment.Basic
import Multichain.Environment.Directory
import Multichain.Fault
import Multichain.Hash.Keccak256
import Multichain.Hash.Ripemd160
import Multichain.Hash.Sha256
import Multichain.Json.Codec
import Multichain.Json.Tree
import Multichain.Json.Value
import Multichain.Main
import Multichain.Number.Binary64
import Multichain.Pattern.Check
import Multichain.Pattern.Reader
import Multichain.Pattern.Syntax
import Multichain.Proofs.AddressForms
import Multichain.Proofs.AmountText
import Multichain.Proofs.AmountValue
import Multichain.Proofs.BuiltTransfer
import Multichain.Proofs.ByteText
import Multichain.Proofs.CanonicalId
import Multichain.Proofs.Casing
import Multichain.Proofs.ChainHint
import Multichain.Proofs.ChecksumText
import Multichain.Proofs.CurvePoint
import Multichain.Proofs.DecodedDocument
import Multichain.Proofs.DocumentForms
import Multichain.Proofs.DraftRun
import Multichain.Proofs.EqualAmounts
import Multichain.Proofs.FailedResolve
import Multichain.Proofs.Fallback
import Multichain.Proofs.FieldPrime
import Multichain.Proofs.FirstTransfer
import Multichain.Proofs.JsonCanonical
import Multichain.Proofs.JsonCodec
import Multichain.Proofs.JsonDocument
import Multichain.Proofs.JsonGrammar
import Multichain.Proofs.JsonMeaning
import Multichain.Proofs.JsonOrder
import Multichain.Proofs.JsonReading
import Multichain.Proofs.JsonText
import Multichain.Proofs.JsonValue
import Multichain.Proofs.KeyForms
import Multichain.Proofs.LedgerConversion
import Multichain.Proofs.Lifecycle
import Multichain.Proofs.Numeral
import Multichain.Proofs.Outcome
import Multichain.Proofs.PaidTransfer
import Multichain.Proofs.PrintedSecret
import Multichain.Proofs.QueriedDocument
import Multichain.Proofs.QuotedText
import Multichain.Proofs.RegisteredSpelling
import Multichain.Proofs.RegistryOrder
import Multichain.Proofs.RegistryRun
import Multichain.Proofs.ResolvedConfig
import Multichain.Proofs.ResolvedKind
import Multichain.Proofs.RespelledConfig
import Multichain.Proofs.RespelledMessages
import Multichain.Proofs.SentDocument
import Multichain.Proofs.SharedId
import Multichain.Proofs.SignedText
import Multichain.Proofs.SignedTransfer
import Multichain.Proofs.SplitWords
import Multichain.Proofs.StoredForms
import Multichain.Proofs.StoredRegistry
import Multichain.Proofs.StoredValues
import Multichain.Proofs.UnnamedAsset
import Multichain.Settings.Config
import Multichain.Settings.DotEnv
import Multichain.Settings.LogFilter
import Multichain.Text.Basic
import Multichain.Text.Casing
import Multichain.Text.Quoted
import Multichain.Toml.Decode
import Multichain.Toml.Document
import Multichain.Toml.Fault
import Multichain.Toml.Number
import Multichain.Toml.Reader
import Multichain.Toml.Text
import Multichain.Toml.Value
import Multichain.Transfer.Info
