import Multichain.Address.Basic
import Multichain.Amount

/-!
Cosmos transactions, their messages and signatures, and what the life of a transaction needs to know
of a signing mode. Transfers of coins are understood; of other messages only the kind and the JSON
value are kept, or no more than the type.
-/

set_option autoImplicit false

namespace Multichain.Cosmos

open Multichain Json

structure Coin where
  denom : String
  amount : LedgerAmount
  deriving DecidableEq

structure BankSend where
  sender : Address
  recipient : Address
  amount : List Coin
  deriving DecidableEq

inductive Message where
  | send (transfer : BankSend)
  | amino (kind : String) (value : Value)
  | foreign (typeUrl : String)

def Coin.codec : Codec Coin where
  write coin :=
    .object [("denom", .text coin.denom), ("amount", LedgerAmount.codec.write coin.amount)]
  read depth tree := do
    let fields ← Fields.read ["denom", "amount"] depth tree
    return ⟨← fields.required "denom" Codec.text, ← fields.required "amount" LedgerAmount.codec⟩

def BankSend.codec : Codec BankSend where
  write transfer :=
    .object
      [("from_address", Address.codec.write transfer.sender),
       ("to_address", Address.codec.write transfer.recipient),
       ("amount", Coin.codec.list.write transfer.amount)]
  read depth tree := do
    let fields ← Fields.read ["from_address", "to_address", "amount"] depth tree
    return ⟨← fields.required "from_address" Address.codec,
      ← fields.required "to_address" Address.codec, ← fields.required "amount" Coin.codec.list⟩

namespace Message

def sendTypeUrl : String := "/cosmos.bank.v1beta1.MsgSend"

def typeUrl : Message → String
  | .send _ => sendTypeUrl
  | .amino kind _ => kind
  | .foreign typeUrl => typeUrl

def transfer? : Message → Option BankSend
  | .send transfer => some transfer
  | _ => none

end Message

inductive SignMode where
  | direct
  | aminoJson
  deriving DecidableEq, Inhabited

inductive SignatureData where
  | single (mode : SignMode) (signature : Bytes)
  | multi (parts : List SignatureData)
  deriving Inhabited

def SignatureData.isMulti : SignatureData → Bool
  | .single _ _ => false
  | .multi _ => true

structure Signature where
  key : Bytes
  data : SignatureData
  sequence : UInt64

structure StdTx where
  messages : List Message := []
  fee : List Coin := []
  gas : UInt64 := 0
  memo : String := ""
  signatures : List Signature := []

/-- A transaction as the chain's software hands it over. One that is bare names neither fee nor
signatures. -/
inductive NativeTx where
  | std (tx : StdTx)
  | bare (messages : List Message) (memo : String)

structure SignerData where
  chainId : String
  accountNumber : UInt64
  sequence : UInt64
  deriving DecidableEq

namespace NativeTx

def messages : NativeTx → List Message
  | .std tx => tx.messages
  | .bare messages _ => messages

def memo : NativeTx → String
  | .std tx => tx.memo
  | .bare _ memo => memo

def fee? : NativeTx → Option (List Coin × UInt64)
  | .std tx => some (tx.fee, tx.gas)
  | .bare _ _ => none

def transfer? (tx : NativeTx) : Option BankSend :=
  tx.messages.findSome? Message.transfer?

def feeAmount (tx : NativeTx) : LedgerAmount :=
  match tx.fee? with
  | some (coin :: _, _) => coin.amount
  | _ => .zero

end NativeTx

abbrev Encoder := NativeTx → Except Fault Bytes

/-- A signing mode whose drafts are values of `δ`. A change that may be refused also tells the draft
that is left. -/
structure SigningContext (δ : Type) where
  start : δ
  setMessages : List Message → δ → δ × Except Fault Unit
  setFee : List Coin → δ → δ
  setGas : UInt64 → δ → δ
  setMemo : String → δ → δ
  setSignatures : List Signature → δ → δ × Except Fault Unit
  view : δ → NativeTx
  encoder : Encoder
  mode : SignMode
  signBytes : SignerData → NativeTx → Except Fault Bytes

end Multichain.Cosmos
