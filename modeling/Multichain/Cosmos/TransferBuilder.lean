import Multichain.Asset.Config
import Multichain.Cosmos.Amino
import Multichain.Cosmos.Transaction

/-!
Building transfers of a chain's own coin, up to the point where they wait for a signature.
-/

set_option autoImplicit false

namespace Multichain.Cosmos

open Multichain

structure TransferInput where
  accountNumber : UInt64
  sequence : UInt64
  gasLimit : UInt64
  gasPrice : HumanAmount
  memo : String
  key : Bytes
  -- If empty, the one of the configuration.
  chainId : String
  deriving DecidableEq

inductive ChainInput where
  | cosmos (input : TransferInput)
  | foreign

structure TransferBuilder (δ : Type) where
  asset : AssetConfig
  context : SigningContext δ

namespace TransferBuilder

variable {δ : Type}

def ofConfig (context : SigningContext δ) (asset : AssetConfig) :
    Except Fault (TransferBuilder δ) := do
  let native ← asset.nativeAsset
  if native.family ≠ .cosmos then throw (.notCosmosChain native.symbol)
  if asset.chainCoin = "" then throw (.missingChainCoin native.symbol)
  return ⟨asset, context⟩

def chainId (builder : TransferBuilder δ) (input : TransferInput) : String :=
  if input.chainId = "" then builder.asset.chainIdText else input.chainId

def fee (input : TransferInput) : Except Fault LedgerAmount :=
  if input.gasPrice.isNegative then .error (.negativeGasPrice input.gasPrice.text)
  else (input.gasPrice.scaleBy input.gasLimit).toLedgerCeil 0

def slot (builder : TransferBuilder δ) (input : TransferInput) : SignerSlot :=
  ⟨input.key, builder.context.mode, [], input.sequence⟩

def draft (builder : TransferBuilder δ) (input : TransferInput) (transfer : BankSend)
    (fee : LedgerAmount) : Except Fault δ := do
  let context := builder.context
  let (draft, result) := context.setMessages [.send transfer] context.start
  result
  let draft := context.setFee [⟨builder.asset.chainCoin, fee⟩] draft
  let draft := context.setGas input.gasLimit draft
  let draft := context.setMemo input.memo draft
  let (draft, result) := context.setSignatures [(builder.slot input).toSignature] draft
  result
  return draft

def newNativeTransfer (builder : TransferBuilder δ) (sender recipient : Address)
    (amount : LedgerAmount) (input : TransferInput) : Except Fault (Transaction δ) := do
  let chainId := builder.chainId input
  if chainId = "" then throw .missingChainId
  let fee ← fee input
  let transfer : BankSend := ⟨sender, recipient, [⟨builder.asset.chainCoin, amount⟩]⟩
  let draft ← builder.draft input transfer fee
  let signer : SignerData := ⟨chainId, input.accountNumber, input.sequence⟩
  let bytes ← builder.context.signBytes signer (builder.context.view draft)
  return .built ⟨builder.context, draft, builder.slot input, Hash.Sha256.hash bytes⟩

def newTransfer (builder : TransferBuilder δ) (sender recipient : Address) (amount : LedgerAmount)
    (input : ChainInput) : Except Fault (Transaction δ) :=
  match input with
  | .foreign => .error .foreignInput
  | .cosmos input =>
    if builder.asset.isToken then .error .tokenTransfer
    else builder.newNativeTransfer sender recipient amount input

end TransferBuilder

end Multichain.Cosmos
