import Multichain.Address.Basic
import Multichain.Amount

/-!
What is told about a transfer, whatever the chain: who pays whom and how much, and where the chain
has recorded it.
-/

set_option autoImplicit false

namespace Multichain

open Json

structure TxHash where
  text : String
  deriving DecidableEq

structure Confirmation where
  blockIndex : Int64
  blockTime : Int64
  confirmations : Int64
  deriving DecidableEq

structure TransferView where
  sender : Address
  recipient : Address
  contract : ContractAddress
  amount : LedgerAmount
  fee : LedgerAmount
  deriving DecidableEq

structure TransferInfo where
  hash : TxHash
  sender : Address
  recipient : Address
  otherRecipient : Address
  contract : ContractAddress
  amount : LedgerAmount
  fee : LedgerAmount
  confirmation : Confirmation
  deriving DecidableEq

def TxHash.isEmpty (hash : TxHash) : Bool :=
  hash.text == ""

def TxHash.codec : Codec TxHash :=
  Codec.text.via TxHash.text fun text => some ⟨text⟩

namespace Confirmation

def members (confirmation : Confirmation) : List (String × Value) :=
  [("block_index", Codec.int64.write confirmation.blockIndex),
   ("block_time", Codec.int64.write confirmation.blockTime),
   ("confirmations", Codec.int64.write confirmation.confirmations)]

def ofFields (fields : Fields) : Option Confirmation := do
  return ⟨← fields.required "block_index" Codec.int64, ← fields.required "block_time" Codec.int64,
    ← fields.required "confirmations" Codec.int64⟩

def codec : Codec Confirmation where
  write confirmation := .object confirmation.members
  read depth tree := do
    ofFields (← Fields.read ["block_index", "block_time", "confirmations"] depth tree)

end Confirmation

namespace TransferInfo

def ofView (hash : TxHash) (view : TransferView) (confirmation : Confirmation) : TransferInfo where
  hash := hash
  sender := view.sender
  recipient := view.recipient
  otherRecipient := .empty
  contract := view.contract
  amount := view.amount
  fee := view.fee
  confirmation := confirmation

def codec : Codec TransferInfo where
  write info :=
    .object
      ([("tx_id", TxHash.codec.write info.hash), ("from", Address.codec.write info.sender),
        ("to", Address.codec.write info.recipient),
        ("to_alt", Address.codec.write info.otherRecipient),
        ("contract_address", ContractAddress.codec.write info.contract),
        ("amount", LedgerAmount.codec.write info.amount),
        ("fee", LedgerAmount.codec.write info.fee)] ++ info.confirmation.members)
  read depth tree := do
    let fields ← Fields.read
      ["tx_id", "from", "to", "to_alt", "contract_address", "amount", "fee", "block_index",
       "block_time", "confirmations"] depth tree
    return {
      hash := ← fields.required "tx_id" TxHash.codec
      sender := ← fields.required "from" Address.codec
      recipient := ← fields.required "to" Address.codec
      otherRecipient := ← fields.required "to_alt" Address.codec
      contract := ← fields.required "contract_address" ContractAddress.codec
      amount := ← fields.required "amount" LedgerAmount.codec
      fee := ← fields.required "fee" LedgerAmount.codec
      confirmation := ← Confirmation.ofFields fields }

end TransferInfo

end Multichain
